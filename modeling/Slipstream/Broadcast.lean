import Mathlib.Data.List.Dedup
import Slipstream.RegionMap
import Slipstream.StableSort

/-!
# Broadcasting a transaction

`broadcast_transaction` hands a transaction to the clients of several
regions at once. The regions come from the list of workers, the fastest
first (`broadcastRegions_ranked`), the clients from the region map, and
nothing connects a region that is on the one and not in the other. A
connected region whose client would accept the transaction is then asked
exactly if few enough regions rank ahead of it
(`reachesConnected_iff`), connected or not.
-/

namespace Slipstream

namespace RegionMap

/-! ## The regions -/

/-- The order in which a `HashSet` is gone through that a list has been
collected into. -/
structure SetOrder where
  iter : List String → List String
  perm : ∀ l, (iter l).Perm l.dedup

/-- As the elements first come up. -/
def SetOrder.written : SetOrder where
  iter := fun l => l.dedup
  perm := fun _ => .refl _

/-- What was measured of the region's workers that were reached. -/
def reachedRtts (s : WorkerSelector) (region : String) : List UInt64 :=
  (((s.workers.filter fun w => decide (w.region = region)).filterMap fun w =>
    s.latencies.lookup w.id).filter fun m => m.reachable).map fun m => m.rttMs

def regionLatency (s : WorkerSelector) (region : String) : UInt64 :=
  (reachedRtts s region).min?.getD 0xFFFFFFFFFFFFFFFF

/-- How the regions are compared. -/
def Faster (s : WorkerSelector) (a b : String) : Prop :=
  regionLatency s a ≤ regionLatency s b

instance (s : WorkerSelector) : DecidableRel (Faster s) :=
  fun a b => inferInstanceAs (Decidable (regionLatency s a ≤ regionLatency s b))

instance (s : WorkerSelector) : Std.Total (Faster s) where
  total a b := Nat.le_total (regionLatency s a).toNat (regionLatency s b).toNat

instance (s : WorkerSelector) : IsTrans String (Faster s) where
  trans _ _ _ := Nat.le_trans

/-- The regions of the workers, without repetition. -/
def workerRegions (order : SetOrder) (s : WorkerSelector) : List String :=
  order.iter (s.workers.map fun w => w.region)

def getBroadcastRegions (order : SetOrder) (s : WorkerSelector) (maxBroadcastRegions : Nat) :
    List String :=
  ((workerRegions order s).insertionSort (Faster s)).take maxBroadcastRegions

/-- A worker of the region was reached, with this RTT. -/
def Answers (s : WorkerSelector) (region : String) (rtt : UInt64) : Prop :=
  ∃ w ∈ s.workers, w.region = region
    ∧ ∃ m, s.latencies.lookup w.id = some m ∧ m.reachable = true ∧ m.rttMs = rtt

/-- The lowest RTT with which a worker of the region was reached, the
highest number if none was. -/
structure BestRtt (s : WorkerSelector) (region : String) (best : UInt64) : Prop where
  le : ∀ rtt, Answers s region rtt → best ≤ rtt
  attained : Answers s region best
    ∨ (∀ rtt, ¬ Answers s region rtt) ∧ best = 0xFFFFFFFFFFFFFFFF

section Regions

variable {order : SetOrder} {s : WorkerSelector}

theorem mem_reachedRtts {region : String} {rtt : UInt64} :
    rtt ∈ reachedRtts s region ↔ Answers s region rtt := by
  unfold reachedRtts Answers
  constructor
  · intro h
    obtain ⟨m, hm, rfl⟩ := List.mem_map.mp h
    obtain ⟨hm, hreachable⟩ := List.mem_filter.mp hm
    obtain ⟨w, hw, hlookup⟩ := List.mem_filterMap.mp hm
    obtain ⟨hw, hregion⟩ := List.mem_filter.mp hw
    exact ⟨w, hw, of_decide_eq_true hregion, m, hlookup, hreachable, rfl⟩
  · rintro ⟨w, hw, hregion, m, hlookup, hreachable, rfl⟩
    have hin : w ∈ s.workers.filter fun w => decide (w.region = region) :=
      List.mem_filter.mpr ⟨hw, decide_eq_true hregion⟩
    refine List.mem_map_of_mem (List.mem_filter.mpr ⟨?_, hreachable⟩)
    exact List.mem_filterMap.mpr ⟨w, hin, hlookup⟩

/-- A region is compared by the lowest RTT of its workers. -/
theorem bestRtt_regionLatency (s : WorkerSelector) (region : String) :
    BestRtt s region (regionLatency s region) := by
  unfold regionLatency
  cases hmin : (reachedRtts s region).min? with
  | none =>
      have hnil := List.min?_eq_none_iff.mp hmin
      have hnone : ∀ rtt, ¬ Answers s region rtt := by
        intro rtt h
        rw [← mem_reachedRtts, hnil] at h
        cases h
      exact ⟨fun rtt h => absurd h (hnone rtt), .inr ⟨hnone, rfl⟩⟩
  | some best =>
      obtain ⟨hmem, hle⟩ := List.min?_eq_some_iff.mp hmin
      exact ⟨fun rtt h => hle rtt (mem_reachedRtts.mpr h), .inl (mem_reachedRtts.mp hmem)⟩

theorem nodup_workerRegions : (workerRegions order s).Nodup :=
  (order.perm _).nodup_iff.mpr (List.nodup_dedup _)

theorem mem_workerRegions {region : String} :
    region ∈ workerRegions order s ↔ ∃ w ∈ s.workers, w.region = region := by
  rw [workerRegions, (order.perm _).mem_iff, List.mem_dedup, List.mem_map]

/-- The region is asked if fewer regions than are asked rank ahead of
it. -/
theorem mem_getBroadcastRegions {k : Nat} {region : String} :
    region ∈ getBroadcastRegions order s k
      ↔ (∃ w ∈ s.workers, w.region = region)
        ∧ (workerRegions order s).countP (fun other =>
            decide (StableSort.Ahead (Faster s) (workerRegions order s) other region)) < k := by
  rw [getBroadcastRegions, StableSort.mem_take_iff nodup_workerRegions, mem_workerRegions]

end Regions

/-- Broadcasting goes to the regions with the lowest latency, as many as
it may. -/
theorem broadcastRegions_ranked (order : SetOrder) (s : WorkerSelector) (k : Nat) :
    let regions := getBroadcastRegions order s k
    regions.Nodup
      ∧ (∀ region ∈ regions, ∃ w ∈ s.workers, w.region = region)
      ∧ regions.length = min k (s.workers.map fun w => w.region).dedup.length
      ∧ ∃ best : String → UInt64, (∀ region, BestRtt s region (best region))
        ∧ regions.Pairwise (fun a b => best a ≤ best b)
        ∧ ∀ w ∈ s.workers, w.region ∉ regions →
          ∀ region ∈ regions, best region ≤ best w.region := by
  intro regions
  have hperm := List.perm_insertionSort (Faster s) (workerRegions order s)
  have hsorted := List.pairwise_insertionSort (Faster s) (workerRegions order s)
  have hcut : regions ++ ((workerRegions order s).insertionSort (Faster s)).drop k
      = (workerRegions order s).insertionSort (Faster s) := List.take_append_drop k _
  refine ⟨?_, fun region hregion => ?_, ?_, regionLatency s, bestRtt_regionLatency s, ?_,
    fun w hw hout region hregion => ?_⟩
  · exact (hperm.nodup_iff.mpr nodup_workerRegions).sublist (List.take_sublist k _)
  · exact (mem_getBroadcastRegions.mp hregion).1
  · have hlen : regions.length
        = min k ((workerRegions order s).insertionSort (Faster s)).length := List.length_take
    rw [hlen, hperm.length_eq, workerRegions, (order.perm _).length_eq]
  · exact hsorted.sublist (List.take_sublist k _)
  · have hmem := hperm.mem_iff.mpr (mem_workerRegions.mpr ⟨w, hw, rfl⟩)
    rw [← hcut] at hmem hsorted
    rcases List.mem_append.mp hmem with hin | hdrop
    · exact absurd hin hout
    · exact (List.pairwise_append.mp hsorted).2.2 region hregion w.region hdrop

def central : WorkerEndpoint := .new "w2" "eu-central" "203.0.113.20"

/-- The worker in `eu-central` has answered a ping, the one in `us-west`
has not. -/
def centralFaster : Latencies := AList.insert "w2" ⟨5, 0, true⟩ ∅

def centralMeasured : WorkerSelector :=
  { workers := [west, central], latencies := centralFaster }

/-- Of the two regions the one with the measurement is broadcast to. -/
theorem broadcastRegions_central :
    getBroadcastRegions .written centralMeasured 1 = ["eu-central"]
      ∧ Answers centralMeasured "eu-central" 5
      ∧ ∃ fast slow, BestRtt centralMeasured "eu-central" fast
        ∧ BestRtt centralMeasured "us-west" slow ∧ fast ≤ slow := by
  have hregions : getBroadcastRegions .written centralMeasured 1 = ["eu-central"] := by decide
  have hanswers : Answers centralMeasured "eu-central" 5 :=
    ⟨central, by decide, rfl, ⟨5, 0, true⟩, rfl, rfl, rfl⟩
  obtain ⟨-, -, -, best, hbest, -, hout⟩ := broadcastRegions_ranked .written centralMeasured 1
  rw [hregions] at hout
  have hle := hout west (by decide) (by decide) "eu-central" (List.mem_singleton.mpr rfl)
  exact ⟨hregions, hanswers, _, _, hbest "eu-central", hbest "us-west", hle⟩

/-! ## The broadcast -/

/-- What becomes of the transaction with each region's client; a task
that panics has no outcome. -/
abbrev Outcomes := String → RegionClient → Option (Except SdkError TransactionResult)

/-- The task of a region. -/
def broadcastTask (s : State) (submit : Outcomes) (region : String) :
    Option (Except SdkError TransactionResult) :=
  match s.regionClients.lookup region with
  | some c => submit region c
  | none => some (.error (.connection ("Not connected to region: " ++ region)))

/-- The result of a task that was joined, if it is one to return. -/
def joined : Option (Except SdkError TransactionResult) → Option TransactionResult
  | some (.ok result) => some result
  | _ => none

/-- `broadcast_transaction`. The tasks are joined in the order in which
they were spawned. -/
def broadcastTransaction (order : SetOrder) (maxBroadcastRegions : Nat) (s : State)
    (submit : Outcomes) : Except SdkError TransactionResult :=
  let regions := getBroadcastRegions order s.selector maxBroadcastRegions
  if regions = [] then .error (.config "No regions available for broadcast")
  else
    match (regions.map (broadcastTask s submit)).findSome? joined with
    | some result => .ok result
    | none => .error (.transaction "All broadcast regions failed")

/-- The region is connected, and its client comes back with the result. -/
def Gives (s : State) (submit : Outcomes) (region : String) (result : TransactionResult) :
    Prop :=
  ∃ c, s.regionClients.lookup region = some c ∧ submit region c = some (.ok result)

/-- A broadcast succeeds where a connected region would accept the
transaction, with what one of them gives, and fails only where none
would. -/
structure ReachesConnected (order : SetOrder) (k : Nat) (s : State) (submit : Outcomes) :
    Prop where
  succeeds : (∃ region result, Gives s submit region result) →
    ∃ region result, Gives s submit region result
      ∧ broadcastTransaction order k s submit = .ok result
  fails : ∀ e, broadcastTransaction order k s submit = .error e →
    ∀ region result, ¬ Gives s submit region result

/-- How many regions rank ahead of one: those with a lower latency, and of
those with the same the ones that the set has earlier. -/
def rankedAhead (order : SetOrder) (s : WorkerSelector) (region : String) : Nat :=
  (workerRegions order s).countP fun other =>
    decide (StableSort.Ahead (Faster s) (workerRegions order s) other region)

section Broadcast

variable {order : SetOrder} {k : Nat} {s : State} {submit : Outcomes}

theorem joined_broadcastTask {region : String} {result : TransactionResult} :
    joined (broadcastTask s submit region) = some result
      ↔ Gives s submit region result := by
  unfold broadcastTask Gives
  cases hc : s.regionClients.lookup region with
  | none =>
      refine iff_of_false (fun h => by cases h) ?_
      rintro ⟨c, hsome, -⟩
      cases hsome
  | some c =>
      dsimp only
      constructor
      · intro h
        refine ⟨c, rfl, ?_⟩
        unfold joined at h
        split at h
        · rename_i hsubmit
          rw [hsubmit, Option.some.inj h]
        · cases h
      · rintro ⟨c', hsome, hsubmit⟩
        obtain rfl := Option.some.inj hsome
        rw [hsubmit]
        rfl

/-- A success is what one of the regions asked gives. -/
theorem broadcast_ok {result : TransactionResult}
    (h : broadcastTransaction order k s submit = .ok result) :
    ∃ region ∈ getBroadcastRegions order s.selector k, Gives s submit region result := by
  unfold broadcastTransaction at h
  dsimp only at h
  split at h
  · cases h
  · split at h
    · rename_i hfind
      obtain ⟨pre, task, post, hmap, hjoined, -⟩ := List.findSome?_eq_some_iff.mp hfind
      have hmem : task ∈ (getBroadcastRegions order s.selector k).map
          (broadcastTask s submit) := by
        rw [hmap]
        exact List.mem_append_right _ List.mem_cons_self
      obtain ⟨region, hregion, rfl⟩ := List.mem_map.mp hmem
      rw [Except.ok.inj h] at hjoined
      exact ⟨region, hregion, joined_broadcastTask.mp hjoined⟩
    · cases h

/-- A failure means that no region asked gives a result. -/
theorem broadcast_error {e : SdkError}
    (h : broadcastTransaction order k s submit = .error e) :
    ∀ region ∈ getBroadcastRegions order s.selector k,
      ∀ result, ¬ Gives s submit region result := by
  intro region hregion result hgives
  unfold broadcastTransaction at h
  dsimp only at h
  split at h
  · rename_i hnil
    rw [hnil] at hregion
    cases hregion
  · split at h
    · cases h
    · rename_i hfind
      have hnone := List.findSome?_eq_none_iff.mp hfind _ (List.mem_map_of_mem hregion)
      rw [joined_broadcastTask.mpr hgives] at hnone
      cases hnone

/-- What the broadcast comes to depends on the regions asked alone. -/
theorem reachesConnected_iff_asked :
    ReachesConnected order k s submit
      ↔ (∀ region result, ¬ Gives s submit region result)
        ∨ ∃ region ∈ getBroadcastRegions order s.selector k,
          ∃ result, Gives s submit region result := by
  constructor
  · intro h
    by_cases hgives : ∃ region result, Gives s submit region result
    · obtain ⟨-, result, -, hok⟩ := h.succeeds hgives
      obtain ⟨region, hregion, hgives'⟩ := broadcast_ok hok
      exact .inr ⟨region, hregion, result, hgives'⟩
    · exact .inl fun region result hg => hgives ⟨region, result, hg⟩
  · rintro (hnone | ⟨region, hregion, result, hgives⟩)
    · refine ⟨fun hsome => ?_, fun _ _ => hnone⟩
      obtain ⟨region, result, hgives⟩ := hsome
      exact absurd hgives (hnone region result)
    · cases hres : broadcastTransaction order k s submit with
      | error e => exact absurd hgives (broadcast_error hres region hregion result)
      | ok result' =>
          obtain ⟨region', -, hgives'⟩ := broadcast_ok hres
          refine ⟨fun _ => ⟨region', result', hgives', hres⟩, fun e he => ?_⟩
          rw [hres] at he
          cases he

end Broadcast

/-! ## The regions of the map -/

/-- Every client is under the region of a worker on the list. -/
structure Regional (workers : List WorkerEndpoint) (s : State) : Prop where
  selector : s.selector.workers = workers
  tasks : ∀ region worker, .connecting region worker ∈ s.tasks →
    worker ∈ workers ∧ worker.region = region
  clients : ∀ region c, s.regionClients.lookup region = some c →
    ∃ w ∈ workers, w.region = region

theorem regional_clients_step {config : Config} {workers : List WorkerEndpoint}
    {s t : State} {a : Action} (h : Regional workers s) (hstep : step config s a = some t)
    {region : String} {d : RegionClient} (hd : t.regionClients.lookup region = some d) :
    ∃ w ∈ workers, w.region = region := by
  rcases clients_step hstep hd with hold | ⟨worker, env, hmem, -⟩ | ⟨c, _, _, _, hc, -, rfl⟩
  · exact h.clients region d hold
  · exact ⟨worker, h.tasks region worker hmem⟩
  · exact h.clients region c hc

theorem regional_step {config : Config} {workers : List WorkerEndpoint} {s t : State}
    {a : Action} (h : Regional workers s) (hstep : step config s a = some t) :
    Regional workers t where
  selector := (workers_step hstep).trans h.selector
  tasks := by
    intro region worker hmem
    rcases connecting_step hstep hmem with hold | ⟨hlisted, hregion⟩
    · exact h.tasks region worker hold
    · exact ⟨h.selector ▸ hlisted, hregion⟩
  clients := fun _ _ => regional_clients_step h hstep

theorem regional_new {workers : List WorkerEndpoint} {pings : Pings}
    {r : WorkerSelector.Readings} {s : State} (h : new workers pings r = .ok s) :
    Regional workers s := by
  obtain ⟨selector, region, rfl, hworkers⟩ := new_ok h
  refine ⟨hworkers, fun r w hmem => ?_, fun r c hc => ?_⟩
  · cases List.mem_singleton.mp hmem
  · rw [AList.lookup_empty] at hc
    cases hc

/-- In any state of a multi-region client a broadcast reaches the
connected regions exactly if none of them would accept the transaction,
or fewer regions than it may ask rank ahead of one that would. -/
theorem reachesConnected_iff {config : Config} {workers : List WorkerEndpoint}
    {pings : Pings} {r : WorkerSelector.Readings} {s t : State} {as : List Action}
    (hnew : new workers pings r = .ok s) (hrun : Lts.run (step config) s as = some t)
    (order : SetOrder) (k : Nat) (submit : Outcomes) :
    ReachesConnected order k t submit
      ↔ (∀ region result, ¬ Gives t submit region result)
        ∨ ∃ region result, Gives t submit region result
          ∧ rankedAhead order t.selector region < k := by
  have hregional : Regional workers t :=
    Lts.along_of_inv (fun _ _ _ => regional_step) (regional_new hnew) as t
      (List.prefix_refl as) hrun
  rw [reachesConnected_iff_asked]
  refine or_congr Iff.rfl ?_
  constructor
  · rintro ⟨region, hregion, result, hgives⟩
    exact ⟨region, result, hgives, (mem_getBroadcastRegions.mp hregion).2⟩
  · rintro ⟨region, result, hgives, hahead⟩
    obtain ⟨c, hc, hsubmit⟩ := hgives
    have hworker := hregional.clients region c hc
    rw [← hregional.selector] at hworker
    exact ⟨region, mem_getBroadcastRegions.mpr ⟨hworker, hahead⟩, result, c, hc, hsubmit⟩

/-! ## A faster region that is not connected -/

def confirmed : TransactionResult where
  requestId := "req-1"
  transactionId := "tx-1"
  status := .confirmed
  timestamp := 0

/-- Every client would accept the transaction. -/
def acceptAll : Outcomes := fun _ _ => some (.ok confirmed)

/-- With only `us-west` connected and both regions to ask, its client is
asked. -/
theorem west_asked :
    ∃ s t, new [west, central] unanswered atOnce = .ok s
      ∧ Lts.run (step keyOnly) s [.select 0 atOnce, .connect 0 onlyWest,
          .measured centralFaster] = some t
      ∧ ReachesConnected .written 2 t acceptAll := by
  refine ⟨_, _, rfl, rfl, ?_⟩
  refine (@reachesConnected_iff keyOnly [west, central] unanswered atOnce _ _
    [.select 0 atOnce, .connect 0 onlyWest, .measured centralFaster] rfl rfl .written 2
    acceptAll).mpr (.inr ?_)
  exact ⟨"us-west", confirmed, ⟨_, rfl, rfl⟩, by decide⟩

/-- With one region to ask it is `eu-central`, and the broadcast fails
although the client for `us-west` would accept the transaction. -/
theorem west_passed_over :
    ∃ s t, new [west, central] unanswered atOnce = .ok s
      ∧ Lts.run (step keyOnly) s [.select 0 atOnce, .connect 0 onlyWest,
          .measured centralFaster] = some t
      ∧ Gives t acceptAll "us-west" confirmed
      ∧ broadcastTransaction .written 1 t acceptAll
        = .error (.transaction "All broadcast regions failed")
      ∧ ¬ ReachesConnected .written 1 t acceptAll := by
  refine ⟨_, _, rfl, rfl, ⟨_, rfl, rfl⟩, rfl, fun h => ?_⟩
  exact h.fails _ rfl "us-west" confirmed ⟨_, rfl, rfl⟩

end RegionMap

end Slipstream
