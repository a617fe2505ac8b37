import Mathlib.Data.List.DropRight
import Slipstream.Types

/-!
# Selecting a worker

`WorkerSelector` keeps the last latency measurement of each worker and
picks the fastest of those that answered recently. The clock and the
answers to its pings are arguments: a list of readings, and what each
ping comes to, in the order in which they finish.
-/

namespace Slipstream

structure LatencyMeasurement where
  rttMs : UInt64
  measuredAt : Nat
  reachable : Bool
deriving Repr, DecidableEq

def LatencyMeasurement.isFresh (m : LatencyMeasurement) (ttl : Duration) (now : Nat) : Bool :=
  decide (now - m.measuredAt < ttl)

/-- By worker id. -/
abbrev Latencies := AList fun _ : String => LatencyMeasurement

/-- A ping: when it was started, and after how long the answer to `HEAD`
came, a success or not, or the failure to get one (`none`). -/
structure Ping where
  startedAt : Nat
  took : Duration
  head : String → Option Bool

/-- What pinging some workers at once comes to. The pings finish in any
order. -/
structure Pings where
  finish : List WorkerEndpoint → List (WorkerEndpoint × Ping)
  perm : ∀ workers, ((finish workers).map Prod.fst).Perm workers

/-- Every ping finishes in its turn. -/
def Pings.inOrder (ping : WorkerEndpoint → Ping) : Pings where
  finish := fun workers => workers.map fun w => (w, ping w)
  perm := fun workers => by rw [List.map_map]; exact .of_eq (List.map_id _)

structure WorkerSelector where
  workers : List WorkerEndpoint
  latencies : Latencies := ∅
  cacheTtl : Duration := .fromSecs 30
  pingTimeout : Duration := .fromSecs 2

namespace WorkerSelector

/-! ## Measuring -/

def healthUrl (endpoint : String) : String :=
  String.ofList (endpoint.toList.rdropWhile fun c => decide (c = '/')) ++ "/health"

def unreachable (measuredAt : Nat) : LatencyMeasurement where
  rttMs := 0xFFFFFFFFFFFFFFFF
  measuredAt := measuredAt
  reachable := false

def pingWorker (endpoint : Option String) (timeout : Duration) (ping : Ping) :
    LatencyMeasurement :=
  match endpoint with
  | none => unreachable ping.startedAt
  | some endpoint =>
      if timeout < ping.took then unreachable (ping.startedAt + timeout)
      else
        match ping.head (healthUrl endpoint) with
        | some success =>
            { rttMs := UInt64.ofNat (ping.took / 1000000)
              measuredAt := ping.startedAt + ping.took
              reachable := success }
        | none => unreachable (ping.startedAt + ping.took)

def measureWorkers (s : WorkerSelector) (workers : List WorkerEndpoint) (pings : Pings) :
    WorkerSelector :=
  { s with
    latencies := (pings.finish workers).foldl
      (fun latencies (w, ping) => latencies.insert w.id (pingWorker w.http s.pingTimeout ping))
      s.latencies }

def measureAll (s : WorkerSelector) (pings : Pings) : WorkerSelector :=
  s.measureWorkers s.workers pings

/-! ## Picking -/

/-- The worker's measurement, if it answered and that was recently. -/
def freshRtt (s : WorkerSelector) (now : Nat) (w : WorkerEndpoint) : Option UInt64 :=
  (s.latencies.lookup w.id).bind fun m =>
    if m.reachable && m.isFresh s.cacheTtl now then some m.rttMs else none

/-- A round of the loop, with the fastest worker so far; a tie goes to
the earlier one. -/
def keepFaster (s : WorkerSelector) (best : Option (WorkerEndpoint × UInt64))
    (worker : WorkerEndpoint) (now : Nat) : Option (WorkerEndpoint × UInt64) :=
  match s.freshRtt now worker, best with
  | some rtt, none => some (worker, rtt)
  | some rtt, some (fastest, bestRtt) =>
      if rtt < bestRtt then some (worker, rtt) else some (fastest, bestRtt)
  | none, best => best

/-- The loop over the workers. The clock is read for each in turn. -/
def fastest (s : WorkerSelector) (clock : Nat → Nat) (workers : List WorkerEndpoint) :
    Option WorkerEndpoint :=
  (workers.zipIdx.foldl (fun best (w, k) => s.keepFaster best w (clock k)) none).map Prod.fst

def haveFreshCache (s : WorkerSelector) (clock : Nat → Nat) (workers : List WorkerEndpoint) :
    Bool :=
  workers.zipIdx.any fun (w, k) => (s.freshRtt (clock k) w).isSome

/-- The readings of a selection: for the cache check, for the pings that
follow if none is fresh, and for the loop. -/
structure Readings where
  check : Nat → Nat
  pings : Pings
  pick : Nat → Nat

def refresh (s : WorkerSelector) (workers : List WorkerEndpoint) (r : Readings) :
    WorkerSelector :=
  if s.haveFreshCache r.check workers then s else s.measureWorkers workers r.pings

/-- The selector afterwards, and the worker; if none answers, the first
one. -/
def selectBest (s : WorkerSelector) (r : Readings) :
    WorkerSelector × Except SdkError WorkerEndpoint :=
  match s.workers with
  | [] => (s, .error (.config "No workers configured"))
  | first :: rest =>
      let s := s.refresh (first :: rest) r
      (s, .ok ((s.fastest r.pick (first :: rest)).getD first))

def selectBestInRegion (s : WorkerSelector) (region : String) (r : Readings) :
    WorkerSelector × Except SdkError WorkerEndpoint :=
  match s.workers.filter fun w => decide (w.region = region) with
  | [] => (s, .error (.config ("No workers in region: " ++ region)))
  | first :: rest =>
      let s := s.refresh (first :: rest) r
      (s, .ok ((s.fastest r.pick (first :: rest)).getD first))

/-! ## What is picked -/

/-- A selection touches the latencies only. -/
theorem workers_refresh (s : WorkerSelector) (workers : List WorkerEndpoint) (r : Readings) :
    (s.refresh workers r).workers = s.workers := by
  unfold refresh
  split <;> rfl

theorem keepFaster_cases (s : WorkerSelector) (best : Option (WorkerEndpoint × UInt64))
    (w : WorkerEndpoint) (now : Nat) :
    s.keepFaster best w now = best ∨ ∃ rtt, s.keepFaster best w now = some (w, rtt) := by
  unfold keepFaster
  split
  · exact .inr ⟨_, rfl⟩
  · split
    · exact .inr ⟨_, rfl⟩
    · exact .inl rfl
  · exact .inl rfl

/-- The loop yields one of the workers it went through, or what it had. -/
theorem mem_of_foldl_keepFaster {s : WorkerSelector} {clock : Nat → Nat}
    {w : WorkerEndpoint} {rtt : UInt64} (ws : List (WorkerEndpoint × Nat)) :
    ∀ {best : Option (WorkerEndpoint × UInt64)},
      ws.foldl (fun best (w, k) => s.keepFaster best w (clock k)) best = some (w, rtt) →
        best = some (w, rtt) ∨ w ∈ ws.map Prod.fst := by
  induction ws with
  | nil => exact fun h => .inl h
  | cons vk ws ih =>
      intro best h
      rcases ih h with hbest | hmem
      · rcases s.keepFaster_cases best vk.1 (clock vk.2) with hsame | ⟨rtt', hnew⟩
        · exact .inl (hsame.symm.trans hbest)
        · have hv : (vk.1, rtt') = (w, rtt) := Option.some.inj (hnew.symm.trans hbest)
          exact .inr (List.mem_cons.mpr (.inl (congrArg Prod.fst hv).symm))
      · exact .inr (List.mem_cons_of_mem _ hmem)

theorem mem_of_fastest {s : WorkerSelector} {clock : Nat → Nat}
    {workers : List WorkerEndpoint} {w : WorkerEndpoint}
    (h : s.fastest clock workers = some w) : w ∈ workers := by
  obtain ⟨⟨w', rtt⟩, hfold, rfl⟩ := Option.map_eq_some_iff.mp h
  rcases mem_of_foldl_keepFaster _ hfold with hnone | hmem
  · cases hnone
  · rwa [List.zipIdx_map_fst] at hmem

/-- What is selected in a region is a worker of the region. -/
theorem selectBestInRegion_ok {s t : WorkerSelector} {region : String} {r : Readings}
    {w : WorkerEndpoint} (h : s.selectBestInRegion region r = (t, .ok w)) :
    w ∈ s.workers ∧ w.region = region := by
  unfold selectBestInRegion at h
  split at h
  · cases h
  · rename_i first rest hregional
    have hw : w ∈ first :: rest := by
      obtain ⟨-, hpick⟩ := Prod.mk.inj h
      rw [← Except.ok.inj hpick]
      cases hfast : (s.refresh (first :: rest) r).fastest r.pick (first :: rest) with
      | none => exact List.mem_cons_self
      | some v => exact mem_of_fastest hfast
    rw [← hregional, List.mem_filter, decide_eq_true_eq] at hw
    exact hw

theorem workers_selectBest (s : WorkerSelector) (r : Readings) :
    (s.selectBest r).1.workers = s.workers := by
  unfold selectBest
  split
  · rfl
  · exact s.workers_refresh _ r

theorem workers_selectBestInRegion (s : WorkerSelector) (region : String) (r : Readings) :
    (s.selectBestInRegion region r).1.workers = s.workers := by
  unfold selectBestInRegion
  split
  · rfl
  · exact s.workers_refresh _ r

end WorkerSelector

end Slipstream
