import Slipstream.LeaderSelection

/-!
# The worker a selector finds over its life

Each worker of a selector answers its pings in the same way and after
the same time, and the selector goes through any calls. What it has
measured is then right (`faithful_run`), but it is not all there is to
know: a selection measures only if nothing it has is fresh, and chooses
among what is fresh as it goes through the workers. The worker it finds
is the fastest exactly if the measurement of a fastest one is fresh then
(`findsFastest_iff`).
-/

namespace Slipstream

/-- What a ping to a worker comes to, whenever it is sent. -/
structure Steady where
  took : WorkerEndpoint → Duration
  head : WorkerEndpoint → String → Option Bool

namespace Steady

/-- In the unit it is measured in. -/
def rttMs (net : Steady) (w : WorkerEndpoint) : UInt64 :=
  UInt64.ofNat (net.took w / 1000000)

/-- The worker answers the health ping, and in time. -/
def Reachable (net : Steady) (timeout : Duration) (w : WorkerEndpoint) : Prop :=
  ∃ endpoint ∈ w.http,
    net.took w ≤ timeout ∧ net.head w (WorkerSelector.healthUrl endpoint) = some true

structure Fastest (net : Steady) (timeout : Duration) (workers : List WorkerEndpoint)
    (w : WorkerEndpoint) : Prop where
  mem : w ∈ workers
  reachable : net.Reachable timeout w
  minimal : ∀ v ∈ workers, net.Reachable timeout v → net.rttMs w ≤ net.rttMs v

/-- The worker is the fastest that can be reached, and the first one if
none can. -/
structure Finds (net : Steady) (timeout : Duration) (workers : List WorkerEndpoint)
    (w : WorkerEndpoint) : Prop where
  fastest : (∃ v ∈ workers, net.Reachable timeout v) → net.Fastest timeout workers w
  first : (¬ ∃ v ∈ workers, net.Reachable timeout v) → workers.head? = some w

end Steady

def Pings.Follow (net : Steady) (pings : Pings) : Prop :=
  ∀ workers, ∀ e ∈ pings.finish workers, e.2.took = net.took e.1 ∧ e.2.head = net.head e.1

namespace WorkerSelector

/-! ## Calls -/

inductive Call where
  | selectBest (r : Readings)
  | selectBestInRegion (region : String) (r : Readings)
  | selectForLeader (order : MapOrder) (hint : LeaderHint) (r : Readings)
  | measureAll (pings : Pings)
  | invalidate (workerId : String)
  | invalidateAll

/-- The call's pings come to what the network makes of them. -/
def Call.Follows (net : Steady) : Call → Prop
  | .selectBest r => r.pings.Follow net
  | .selectBestInRegion _ r => r.pings.Follow net
  | .selectForLeader _ _ r => r.pings.Follow net
  | .measureAll pings => pings.Follow net
  | .invalidate _ => True
  | .invalidateAll => True

def invalidate (s : WorkerSelector) (workerId : String) : WorkerSelector :=
  { s with latencies := s.latencies.erase workerId }

def invalidateAll (s : WorkerSelector) : WorkerSelector :=
  { s with latencies := ∅ }

/-- The selector after a call. -/
def apply (s : WorkerSelector) : Call → WorkerSelector
  | .selectBest r => (s.selectBest r).1
  | .selectBestInRegion region r => (s.selectBestInRegion region r).1
  | .selectForLeader order hint r => (s.selectForLeader order hint r).1
  | .measureAll pings => s.measureAll pings
  | .invalidate workerId => s.invalidate workerId
  | .invalidateAll => s.invalidateAll

def run (s : WorkerSelector) (calls : List Call) : WorkerSelector :=
  calls.foldl apply s

/-- All a call can do to a selector: measure some of its workers, or
forget measurements. -/
inductive Change (s : WorkerSelector) : Call → WorkerSelector → Prop where
  | nothing (c : Call) : Change s c s
  | measure {c : Call} (workers : List WorkerEndpoint) (pings : Pings)
      (subset : ∀ w ∈ workers, w ∈ s.workers)
      (follow : ∀ net : Steady, c.Follows net → pings.Follow net) :
      Change s c (s.measureWorkers workers pings)
  | forget (workerId : String) : Change s (.invalidate workerId) (s.invalidate workerId)
  | forgetAll : Change s .invalidateAll s.invalidateAll

theorem change_refresh {s : WorkerSelector} {c : Call} {workers : List WorkerEndpoint}
    {r : Readings} (hsub : ∀ w ∈ workers, w ∈ s.workers)
    (hfollow : ∀ net : Steady, c.Follows net → r.pings.Follow net) :
    s.Change c (s.refresh workers r) := by
  unfold refresh
  split
  · exact .nothing c
  · exact .measure workers r.pings hsub hfollow

theorem change_selectBest {s : WorkerSelector} {c : Call} {r : Readings}
    (hfollow : ∀ net : Steady, c.Follows net → r.pings.Follow net) :
    s.Change c (s.selectBest r).1 := by
  unfold selectBest
  split
  · exact .nothing c
  · rename_i first rest hworkers
    rw [← hworkers]
    exact change_refresh (fun w hw => hw) hfollow

theorem change_selectBestInRegion {s : WorkerSelector} {c : Call} {region : String}
    {r : Readings} (hfollow : ∀ net : Steady, c.Follows net → r.pings.Follow net) :
    s.Change c (s.selectBestInRegion region r).1 := by
  unfold selectBestInRegion
  split
  · exact .nothing c
  · rename_i first rest hregional
    rw [← hregional]
    exact change_refresh (fun w hw => List.mem_of_mem_filter hw) hfollow

theorem change_selectHinted {s : WorkerSelector} {c : Call} {hint : LeaderHint}
    {r : Readings} (hfollow : ∀ net : Steady, c.Follows net → r.pings.Follow net) :
    s.Change c (s.selectHinted hint r).1 := by
  unfold selectHinted
  split
  · exact change_selectBestInRegion hfollow
  · exact change_selectBest hfollow

theorem change_apply (s : WorkerSelector) (c : Call) : s.Change c (s.apply c) := by
  cases c with
  | selectBest r => exact change_selectBest fun _ h => h
  | selectBestInRegion region r => exact change_selectBestInRegion fun _ h => h
  | selectForLeader order hint r =>
      rcases s.selectForLeader_cases order hint r with ⟨region, -, -, heq⟩ | ⟨-, heq⟩
      · rw [apply, heq]
        exact change_selectBestInRegion fun _ h => h
      · rw [apply, heq]
        exact change_selectHinted fun _ h => h
  | measureAll pings => exact .measure s.workers pings (fun w hw => hw) fun _ h => h
  | invalidate workerId => exact .forget workerId
  | invalidateAll => exact .forgetAll

/-! ## What a measurement leaves -/

section Inserts

variable {γ : Type} (key : γ → String) (val : γ → LatencyMeasurement)

theorem lookup_foldl_insert_of_ne (l : List γ) (latencies : Latencies) {k : String}
    (h : ∀ e ∈ l, key e ≠ k) :
    (l.foldl (fun latencies e => latencies.insert (key e) (val e)) latencies).lookup k
      = latencies.lookup k := by
  induction l generalizing latencies with
  | nil => rfl
  | cons e l ih =>
      have hne : k ≠ key e := (h e List.mem_cons_self).symm
      rw [List.foldl_cons, ih _ fun e' he' => h e' (List.mem_cons_of_mem _ he'),
        AList.lookup_insert_ne hne]

theorem lookup_foldl_insert_of_mem (l : List γ) (latencies : Latencies)
    (hkeys : (l.map key).Nodup) {e : γ} (h : e ∈ l) :
    (l.foldl (fun latencies e => latencies.insert (key e) (val e)) latencies).lookup (key e)
      = some (val e) := by
  induction l generalizing latencies with
  | nil => cases h
  | cons e' l ih =>
      obtain ⟨hhead, htail⟩ := List.nodup_cons.mp hkeys
      rw [List.foldl_cons]
      rcases List.mem_cons.mp h with rfl | hmem
      -- what comes after it is under other keys
      · have hne : ∀ e' ∈ l, key e' ≠ key e := by
          intro e' he' heq
          exact hhead (heq ▸ List.mem_map_of_mem he')
        rw [lookup_foldl_insert_of_ne key val l _ hne, AList.lookup_insert]
      · exact ih _ htail hmem

end Inserts

/-- Each worker that is pinged has the measurement of its ping. -/
theorem lookup_measureWorkers {s : WorkerSelector} {workers : List WorkerEndpoint}
    {pings : Pings} (hids : (workers.map fun w => w.id).Nodup) {w : WorkerEndpoint}
    {ping : Ping} (h : (w, ping) ∈ pings.finish workers) :
    (s.measureWorkers workers pings).latencies.lookup w.id
      = some (pingWorker w.http s.pingTimeout ping) := by
  have hperm := (pings.perm workers).map fun w => w.id
  rw [List.map_map] at hperm
  exact lookup_foldl_insert_of_mem (fun e : WorkerEndpoint × Ping => e.1.id)
    (fun e => pingWorker e.1.http s.pingTimeout e.2) _ _ (hperm.nodup_iff.mpr hids) h

/-- A ping finds the worker reachable if it is, and then has its RTT. -/
theorem pingWorker_cases {net : Steady} {w : WorkerEndpoint} {ping : Ping}
    (timeout : Duration) (htook : ping.took = net.took w) (hhead : ping.head = net.head w) :
    (net.Reachable timeout w
        ∧ pingWorker w.http timeout ping
          = ⟨net.rttMs w, ping.startedAt + ping.took, true⟩)
      ∨ (¬ net.Reachable timeout w ∧ (pingWorker w.http timeout ping).reachable = false) := by
  unfold Steady.Reachable
  cases hhttp : w.http with
  | none => exact .inr ⟨fun ⟨e, he, _⟩ => Option.not_mem_none e he, rfl⟩
  | some endpoint =>
      simp only [Option.mem_some_iff, exists_eq_left', pingWorker, ← htook, ← hhead]
      by_cases htime : timeout < ping.took
      · rw [if_pos htime]
        exact .inr ⟨fun h => absurd htime (Nat.not_lt.mpr h.1), rfl⟩
      · rw [if_neg htime]
        cases hresult : ping.head (healthUrl endpoint) with
        | none =>
            refine .inr ⟨fun h => ?_, rfl⟩
            cases h.2
        | some success =>
            cases success with
            | true => exact .inl ⟨⟨Nat.not_lt.mp htime, rfl⟩, by rw [Steady.rttMs, htook]⟩
            | false =>
                refine .inr ⟨fun h => ?_, rfl⟩
                cases h.2

/-- What is cached of a worker's RTT is right. -/
def Faithful (net : Steady) (s : WorkerSelector) : Prop :=
  ∀ w ∈ s.workers, ∀ m, s.latencies.lookup w.id = some m → m.reachable = true →
    net.Reachable s.pingTimeout w ∧ m.rttMs = net.rttMs w

theorem faithful_measureWorkers {net : Steady} {s : WorkerSelector}
    (hids : (s.workers.map fun w => w.id).Nodup) (hs : s.Faithful net)
    {workers : List WorkerEndpoint} {pings : Pings} (hsub : ∀ w ∈ workers, w ∈ s.workers)
    (hfollow : pings.Follow net) : (s.measureWorkers workers pings).Faithful net := by
  refine List.foldlRecOn (motive := fun latencies => Faithful net { s with latencies })
    (pings.finish workers) _ hs ?_
  rintro latencies hlat ⟨v, ping⟩ hmem w hw m hm hreach
  have hv : v ∈ s.workers :=
    hsub v ((pings.perm workers).mem_iff.mp (List.mem_map_of_mem hmem))
  by_cases hid : w.id = v.id
  · obtain rfl : w = v := List.inj_on_of_nodup_map hids hw hv hid
    dsimp only at hm
    rw [AList.lookup_insert] at hm
    obtain rfl := Option.some.inj hm
    obtain ⟨htook, hhead⟩ := hfollow workers _ hmem
    rcases pingWorker_cases s.pingTimeout htook hhead with ⟨hok, hping⟩ | ⟨-, hbad⟩
    · exact ⟨hok, by rw [hping]⟩
    · rw [hbad] at hreach
      cases hreach
  · dsimp only at hm
    rw [AList.lookup_insert_ne hid] at hm
    exact hlat w hw m hm hreach

theorem faithful_of_change {net : Steady} {s t : WorkerSelector} {c : Call}
    (hids : (s.workers.map fun w => w.id).Nodup) (hs : s.Faithful net) (hc : c.Follows net)
    (h : s.Change c t) : t.Faithful net := by
  cases h with
  | nothing c => exact hs
  | measure workers pings subset follow =>
      exact faithful_measureWorkers hids hs subset (follow net hc)
  | forget workerId =>
      intro w hw m hm hreach
      by_cases hid : w.id = workerId
      · rw [hid] at hm
        exact absurd (hm.symm.trans (AList.lookup_erase ..)) (Option.some_ne_none m)
      · exact hs w hw m (by rwa [← AList.lookup_erase_ne hid]) hreach
  | forgetAll =>
      intro w hw m hm
      exact absurd (hm.symm.trans (AList.lookup_empty _)) (Option.some_ne_none m)

/-- A call leaves a selector's workers and its times as they are. -/
theorem settings_of_change {s t : WorkerSelector} {c : Call} (h : s.Change c t) :
    t.workers = s.workers ∧ t.cacheTtl = s.cacheTtl ∧ t.pingTimeout = s.pingTimeout := by
  cases h <;> exact ⟨rfl, rfl, rfl⟩

theorem faithful_run {net : Steady} {calls : List Call} :
    ∀ {s : WorkerSelector}, (s.workers.map fun w => w.id).Nodup → s.Faithful net →
      (∀ c ∈ calls, c.Follows net) →
        (s.run calls).Faithful net ∧ (s.run calls).workers = s.workers
          ∧ (s.run calls).cacheTtl = s.cacheTtl
          ∧ (s.run calls).pingTimeout = s.pingTimeout := by
  induction calls with
  | nil =>
      intro s _ hs _
      exact ⟨hs, rfl, rfl, rfl⟩
  | cons c calls ih =>
      intro s hids hs hcalls
      obtain ⟨hc, hrest⟩ := List.forall_mem_cons.mp hcalls
      have hchange := s.change_apply c
      obtain ⟨hworkers, httl, htimeout⟩ := settings_of_change hchange
      have hids' : ((s.apply c).workers.map fun w => w.id).Nodup := by rwa [hworkers]
      have hrun := ih hids' (faithful_of_change hids hs hc hchange) hrest
      rwa [hworkers, httl, htimeout] at hrun

/-! ## What the loop picks -/

/-- The workers whose measurement is fresh as the loop reads it, with the
RTTs. -/
def readFresh (s : WorkerSelector) (clock : Nat → Nat) (workers : List WorkerEndpoint) :
    List (WorkerEndpoint × UInt64) :=
  workers.zipIdx.filterMap fun (w, k) => (s.freshRtt (clock k) w).map fun rtt => (w, rtt)

theorem mem_readFresh {s : WorkerSelector} {clock : Nat → Nat}
    {workers : List WorkerEndpoint} {w : WorkerEndpoint} {rtt : UInt64} :
    (w, rtt) ∈ s.readFresh clock workers
      ↔ ∃ k, (w, k) ∈ workers.zipIdx ∧ s.freshRtt (clock k) w = some rtt := by
  rw [readFresh, List.mem_filterMap]
  constructor
  · rintro ⟨⟨v, k⟩, hmem, heq⟩
    obtain ⟨rtt', hfresh, hpair⟩ := Option.map_eq_some_iff.mp heq
    obtain ⟨rfl, rfl⟩ := Prod.mk.inj hpair
    exact ⟨k, hmem, hfresh⟩
  · rintro ⟨k, hmem, hfresh⟩
    exact ⟨(w, k), hmem, by dsimp only; rw [hfresh, Option.map_some]⟩

/-- A round of the loop, after which the fastest is that of one more
worker. -/
theorem keepFaster_argmin (s : WorkerSelector) (heard : List (WorkerEndpoint × UInt64))
    (w : WorkerEndpoint) (now : Nat) :
    s.keepFaster (heard.argmin fun e => e.2.toNat) w now
      = (heard ++ ((s.freshRtt now w).map fun rtt => (w, rtt)).toList).argmin
        fun e => e.2.toNat := by
  unfold keepFaster
  cases s.freshRtt now w with
  | none => rw [Option.map_none, Option.toList_none, List.append_nil]
  | some rtt =>
      rw [Option.map_some, Option.toList_some, List.argmin_concat]
      cases heard.argmin fun e => e.2.toNat with
      | none => rfl
      | some best => rfl

/-- The loop picks the first with the lowest RTT. -/
theorem fastest_eq_argmin (s : WorkerSelector) (clock : Nat → Nat)
    (workers : List WorkerEndpoint) :
    s.fastest clock workers
      = ((s.readFresh clock workers).argmin fun e => e.2.toNat).map Prod.fst := by
  unfold fastest readFresh
  congr 1
  induction workers.zipIdx using List.reverseRecOn with
  | nil => rfl
  | append_singleton ws e ih =>
      obtain ⟨w, k⟩ := e
      rw [List.foldl_append, ih, List.filterMap_append]
      refine (s.keepFaster_argmin _ w (clock k)).trans ?_
      simp only [List.filterMap_cons, List.filterMap_nil]
      cases s.freshRtt (clock k) w <;> rfl

/-! ## The worker that is found -/

/-- What the loop reads of a worker is fresh: the measurement it has, or,
if nothing was fresh, that of the ping just sent. -/
def FreshAt (s : WorkerSelector) (r : Readings) (w : WorkerEndpoint) (k : Nat) : Prop :=
  if s.haveFreshCache r.check s.workers then (s.freshRtt (r.pick k) w).isSome = true
  else ∃ ping, (w, ping) ∈ r.pings.finish s.workers
    ∧ r.pick k - (ping.startedAt + ping.took) < s.cacheTtl

theorem freshRtt_eq_some {s : WorkerSelector} {now : Nat} {w : WorkerEndpoint}
    {rtt : UInt64} :
    s.freshRtt now w = some rtt
      ↔ ∃ m, s.latencies.lookup w.id = some m ∧ m.reachable = true
        ∧ m.isFresh s.cacheTtl now = true ∧ m.rttMs = rtt := by
  unfold freshRtt
  rw [Option.bind_eq_some_iff]
  simp only [Option.ite_none_right_eq_some, Bool.and_eq_true, Option.some.injEq, and_assoc]

section Reads

variable {net : Steady} {s : WorkerSelector} {r : Readings}

/-- What a faithful selector has fresh is the RTT of a worker that can be
reached. -/
theorem Faithful.freshRtt_iff (hs : s.Faithful net) {now : Nat} {w : WorkerEndpoint}
    (hw : w ∈ s.workers) {rtt : UInt64} :
    s.freshRtt now w = some rtt
      ↔ net.Reachable s.pingTimeout w ∧ rtt = net.rttMs w
        ∧ (s.freshRtt now w).isSome = true := by
  constructor
  · intro h
    obtain ⟨m, hm, hreach, -, rfl⟩ := freshRtt_eq_some.mp h
    obtain ⟨hok, hrtt⟩ := hs w hw m hm hreach
    exact ⟨hok, hrtt, by rw [h]; rfl⟩
  · rintro ⟨-, rfl, hsome⟩
    obtain ⟨rtt, hfresh⟩ := Option.isSome_iff_exists.mp hsome
    obtain ⟨m, hm, hreach, -, rfl⟩ := freshRtt_eq_some.mp hfresh
    rw [hfresh, (hs w hw m hm hreach).2]

/-- A worker that was pinged has a measurement that says whether it can
be reached. -/
theorem lookup_measureWorkers_cases (hids : (s.workers.map fun w => w.id).Nodup)
    (hr : r.pings.Follow net) {w : WorkerEndpoint} {ping : Ping}
    (h : (w, ping) ∈ r.pings.finish s.workers) :
    (net.Reachable s.pingTimeout w
        ∧ (s.measureWorkers s.workers r.pings).latencies.lookup w.id
          = some ⟨net.rttMs w, ping.startedAt + ping.took, true⟩)
      ∨ (¬ net.Reachable s.pingTimeout w
        ∧ ∃ m, (s.measureWorkers s.workers r.pings).latencies.lookup w.id = some m
          ∧ m.reachable = false) := by
  obtain ⟨htook, hhead⟩ := hr _ _ h
  rw [lookup_measureWorkers hids h]
  rcases pingWorker_cases s.pingTimeout htook hhead with ⟨hok, heq⟩ | ⟨hno, hbad⟩
  · exact .inl ⟨hok, congrArg some heq⟩
  · exact .inr ⟨hno, _, rfl, hbad⟩

/-- After a round of pings it is what the ping found. -/
theorem freshRtt_measureWorkers_iff (hids : (s.workers.map fun w => w.id).Nodup)
    (hr : r.pings.Follow net) {now : Nat} {w : WorkerEndpoint} (hw : w ∈ s.workers)
    {rtt : UInt64} :
    (s.measureWorkers s.workers r.pings).freshRtt now w = some rtt
      ↔ net.Reachable s.pingTimeout w ∧ rtt = net.rttMs w
        ∧ ∃ ping, (w, ping) ∈ r.pings.finish s.workers
          ∧ now - (ping.startedAt + ping.took) < s.cacheTtl := by
  rw [freshRtt_eq_some]
  constructor
  · rintro ⟨m, hm, hreach, hfresh, rfl⟩
    obtain ⟨⟨w', ping⟩, hping, rfl⟩ :=
      List.mem_map.mp ((r.pings.perm s.workers).mem_iff.mpr hw)
    rcases lookup_measureWorkers_cases hids hr hping with ⟨hok, hlookup⟩ | ⟨-, m', hlookup, hbad⟩
    · obtain rfl := Option.some.inj (hm.symm.trans hlookup)
      exact ⟨hok, rfl, ping, hping, of_decide_eq_true hfresh⟩
    · obtain rfl := Option.some.inj (hm.symm.trans hlookup)
      rw [hbad] at hreach
      cases hreach
  · rintro ⟨hok, rfl, ping, hping, hfresh⟩
    rcases lookup_measureWorkers_cases hids hr hping with ⟨-, hlookup⟩ | ⟨hno, -⟩
    · exact ⟨_, hlookup, rfl, decide_eq_true hfresh, rfl⟩
    · exact absurd hok hno

theorem freshRtt_refresh_iff (hids : (s.workers.map fun w => w.id).Nodup)
    (hs : s.Faithful net) (hr : r.pings.Follow net) {k : Nat} {w : WorkerEndpoint}
    (hw : w ∈ s.workers) {rtt : UInt64} :
    (s.refresh s.workers r).freshRtt (r.pick k) w = some rtt
      ↔ net.Reachable s.pingTimeout w ∧ rtt = net.rttMs w ∧ s.FreshAt r w k := by
  unfold refresh FreshAt
  cases s.haveFreshCache r.check s.workers with
  | true => exact hs.freshRtt_iff hw
  | false => exact freshRtt_measureWorkers_iff hids hr hw

/-- No worker can be reached, or what the loop reads of a fastest one is
fresh, or nothing is and the first worker, which is then taken, is a
fastest one by chance. -/
def FindsWhen (net : Steady) (s : WorkerSelector) (r : Readings) : Prop :=
  (¬ ∃ v ∈ s.workers, net.Reachable s.pingTimeout v)
    ∨ (∃ v k, (v, k) ∈ s.workers.zipIdx ∧ net.Fastest s.pingTimeout s.workers v
      ∧ s.FreshAt r v k)
    ∨ (∀ v k, (v, k) ∈ s.workers.zipIdx → net.Reachable s.pingTimeout v → ¬ s.FreshAt r v k)
      ∧ ∃ first, s.workers.head? = some first ∧ net.Fastest s.pingTimeout s.workers first

/-- What the loop has to choose from. -/
theorem mem_readFresh_refresh (hids : (s.workers.map fun w => w.id).Nodup)
    (hs : s.Faithful net) (hr : r.pings.Follow net) {w : WorkerEndpoint} {rtt : UInt64} :
    (w, rtt) ∈ (s.refresh s.workers r).readFresh r.pick s.workers
      ↔ ∃ k, (w, k) ∈ s.workers.zipIdx
        ∧ net.Reachable s.pingTimeout w ∧ rtt = net.rttMs w ∧ s.FreshAt r w k := by
  rw [mem_readFresh]
  refine exists_congr fun k => and_congr_right fun hmem => ?_
  exact freshRtt_refresh_iff hids hs hr (List.fst_mem_of_mem_zipIdx hmem)

/-- If nothing is fresh the first worker is taken. -/
theorem finds_first_iff {first : WorkerEndpoint} (hfirst : s.workers.head? = some first)
    (hnone : ∀ v k, (v, k) ∈ s.workers.zipIdx → net.Reachable s.pingTimeout v →
      ¬ s.FreshAt r v k) :
    net.Finds s.pingTimeout s.workers first ↔ s.FindsWhen net r := by
  constructor
  · intro hfinds
    by_cases hreach : ∃ v ∈ s.workers, net.Reachable s.pingTimeout v
    · exact .inr (.inr ⟨hnone, first, hfirst, hfinds.fastest hreach⟩)
    · exact .inl hreach
  · rintro (hno | ⟨v, k, hmem, hfast, hfresh⟩ | ⟨-, first', hfirst', hfast⟩)
    · exact ⟨fun h => absurd h hno, fun _ => hfirst⟩
    · exact absurd hfresh (hnone v k hmem hfast.reachable)
    · rw [hfirst] at hfirst'
      obtain rfl := Option.some.inj hfirst'
      exact ⟨fun _ => hfast, fun _ => hfirst⟩

/-- If something is, the worker is a fastest one exactly if the
measurement of a fastest one is. -/
theorem finds_argmin_iff {w : WorkerEndpoint} {k : Nat} (hmem : (w, k) ∈ s.workers.zipIdx)
    (hreach : net.Reachable s.pingTimeout w) (hfresh : s.FreshAt r w k)
    (hmin : ∀ v j, (v, j) ∈ s.workers.zipIdx → net.Reachable s.pingTimeout v →
      s.FreshAt r v j → net.rttMs w ≤ net.rttMs v) :
    net.Finds s.pingTimeout s.workers w ↔ s.FindsWhen net r := by
  have hw : w ∈ s.workers := List.fst_mem_of_mem_zipIdx hmem
  constructor
  · intro hfinds
    exact .inr (.inl ⟨w, k, hmem, hfinds.fastest ⟨w, hw, hreach⟩, hfresh⟩)
  · rintro (hno | ⟨v, j, hvmem, hfast, hvfresh⟩ | ⟨hnone, -⟩)
    · exact absurd ⟨w, hw, hreach⟩ hno
    · have hle := hmin v j hvmem hfast.reachable hvfresh
      refine ⟨fun _ => ⟨hw, hreach, fun u hu hureach => ?_⟩, fun hno => ?_⟩
      · exact UInt64.le_trans hle (hfast.minimal u hu hureach)
      · exact absurd ⟨w, hw, hreach⟩ hno
    · exact absurd hfresh (hnone w k hmem hreach)

theorem finds_iff (hworkers : s.workers ≠ [])
    (hids : (s.workers.map fun w => w.id).Nodup) (hs : s.Faithful net)
    (hr : r.pings.Follow net) :
    ∃ t w, s.selectBest r = (t, .ok w)
      ∧ (net.Finds s.pingTimeout s.workers w ↔ s.FindsWhen net r) := by
  obtain ⟨first, rest, hcons⟩ := List.exists_cons_of_ne_nil hworkers
  have hfirst : s.workers.head? = some first := by rw [hcons, List.head?_cons]
  have hsel : s.selectBest r = (s.refresh s.workers r,
      .ok (((s.refresh s.workers r).fastest r.pick s.workers).getD first)) := by
    unfold selectBest
    rw [hcons]
  refine ⟨_, _, hsel, ?_⟩
  rw [fastest_eq_argmin]
  cases hmin : ((s.refresh s.workers r).readFresh r.pick s.workers).argmin
      fun e => e.2.toNat with
  | none =>
      have hnil := List.argmin_eq_none.mp hmin
      refine finds_first_iff hfirst fun v k hmem hreach hfresh => ?_
      have hread := (mem_readFresh_refresh hids hs hr).mpr ⟨k, hmem, hreach, rfl, hfresh⟩
      rw [hnil] at hread
      cases hread
  | some best =>
      obtain ⟨w, rtt⟩ := best
      obtain ⟨k, hmem, hreach, rfl, hfresh⟩ :=
        (mem_readFresh_refresh hids hs hr).mp (List.argmin_mem hmin)
      refine finds_argmin_iff hmem hreach hfresh fun v j hvmem hvreach hvfresh => ?_
      have hread := (mem_readFresh_refresh hids hs hr).mpr ⟨j, hvmem, hvreach, rfl, hvfresh⟩
      have hle := List.le_of_mem_argmin hread hmin
      exact UInt64.le_iff_toNat_le.mpr hle

end Reads

/-- After any calls, on a network that does not change, a selection finds
the fastest worker exactly if what it reads of one is fresh. -/
theorem findsFastest_iff {net : Steady} {workers : List WorkerEndpoint}
    (hworkers : workers ≠ []) (hids : (workers.map fun w => w.id).Nodup)
    (cacheTtl pingTimeout : Duration) {calls : List Call}
    (hcalls : ∀ c ∈ calls, c.Follows net) {r : Readings} (hr : r.pings.Follow net) :
    ∃ t w, (run { workers, cacheTtl, pingTimeout } calls).selectBest r = (t, .ok w)
      ∧ (net.Finds pingTimeout workers w
        ↔ (run { workers, cacheTtl, pingTimeout } calls).FindsWhen net r) := by
  have hnew : Faithful net { workers, cacheTtl, pingTimeout } := by
    intro w _ m hm
    exact absurd (hm.symm.trans (AList.lookup_empty _)) (Option.some_ne_none m)
  obtain ⟨hs, hw, -, ht⟩ := faithful_run (s := { workers, cacheTtl, pingTimeout })
    hids hnew hcalls
  have hfinds := finds_iff (r := r) (by rwa [hw]) (by rwa [hw]) hs hr
  rwa [hw, ht] at hfinds

/-- The clock reads `now` until the pings are back, and then `later`. -/
def readingsAt (net : Steady) (now later : Nat) : Readings where
  check := fun _ => now
  pings := .inOrder fun w => ⟨now, net.took w, net.head w⟩
  pick := fun _ => later

theorem follow_readingsAt (net : Steady) (now later : Nat) :
    (readingsAt net now later).pings.Follow net := by
  intro workers e he
  obtain ⟨w, -, rfl⟩ := List.mem_map.mp he
  exact ⟨rfl, rfl⟩

/-- The worker in `us-east` answers after 100 ms, the other one after 50. -/
def westCloser : Steady where
  took := fun w => if w.region = "us-east" then Duration.fromMillis 100 else Duration.fromMillis 50
  head := fun _ _ => some true

theorem fastest_westCloser :
    westCloser.Fastest (Duration.fromSecs 2) twoRegions.workers
      (.new "worker-2" "us-west" "10.0.0.2") := by
  refine ⟨.tail _ (.head _), ⟨_, rfl, by decide, rfl⟩, fun v _ _ => ?_⟩
  have htook : westCloser.took v = Duration.fromMillis 100
      ∨ westCloser.took v = Duration.fromMillis 50 := ite_eq_or_eq ..
  rcases htook with h | h <;> rw [Steady.rttMs, Steady.rttMs, h] <;> decide

/-- Measurements that were forgotten are made again, of all workers. -/
theorem findsFastest_invalidated :
    ∃ t w, (run { workers := twoRegions.workers }
          [.selectBestInRegion "us-east" (readingsAt westCloser 0 (Duration.fromMillis 100)),
            .invalidateAll]).selectBest
        (readingsAt westCloser (Duration.fromSecs 1) (Duration.fromSecs 2)) = (t, .ok w)
      ∧ westCloser.Finds (Duration.fromSecs 2) twoRegions.workers w := by
  have hworkers : twoRegions.workers ≠ [] := by decide
  have hids : (twoRegions.workers.map fun w => w.id).Nodup := by decide
  have hcalls : ∀ c ∈ [Call.selectBestInRegion "us-east"
      (readingsAt westCloser 0 (Duration.fromMillis 100)), .invalidateAll],
      c.Follows westCloser :=
    List.forall_mem_cons.mpr
      ⟨follow_readingsAt westCloser 0 _, List.forall_mem_singleton.mpr trivial⟩
  obtain ⟨t, w, hsel, hiff⟩ := findsFastest_iff hworkers hids (Duration.fromSecs 30)
    (Duration.fromSecs 2) hcalls
    (follow_readingsAt westCloser (Duration.fromSecs 1) (Duration.fromSecs 2))
  refine ⟨t, w, hsel, hiff.mpr (.inr (.inl ⟨_, 1, ?_, fastest_westCloser, ?_⟩))⟩
  · exact .tail _ (.head _)
  · exact ⟨_, .tail _ (.head _), by decide⟩

/-- After a selection in `us-east` only the worker there has a
measurement, and it is taken for the fastest. -/
theorem regional_hides_west :
    ∃ t, (run { workers := twoRegions.workers }
          [.selectBestInRegion "us-east"
            (readingsAt westCloser 0 (Duration.fromMillis 100))]).selectBest
        (readingsAt westCloser (Duration.fromSecs 1) (Duration.fromSecs 1))
          = (t, .ok (.new "worker-1" "us-east" "10.0.0.1"))
      ∧ ¬ westCloser.Finds (Duration.fromSecs 2) twoRegions.workers
        (.new "worker-1" "us-east" "10.0.0.1") := by
  refine ⟨_, rfl, fun hfinds => ?_⟩
  have hwest := fastest_westCloser
  have heast := hfinds.fastest ⟨_, hwest.mem, hwest.reachable⟩
  exact absurd (heast.minimal _ hwest.mem hwest.reachable) (by decide)

end WorkerSelector

end Slipstream
