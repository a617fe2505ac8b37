import Mathlib.Data.List.MinMax
import Slipstream.Selector

/-!
# Selecting in a region and for a leader

`select_best_in_region` is `select_best` over again for the workers of
one region, and comes to what `select_best` comes to on a selector that
has only these. `select_for_leader` picks the region: that with the lowest
RTT to the leader if the hint has RTTs, else the preferred one, else a
backup; where none of these has workers it takes the best worker of all.

The lowest RTT is that of all the regions the hint names. A region
without workers that has it hides the RTTs of the others, and the
selection goes on as if the hint had none (`selectForLeader_cases`).
-/

namespace Slipstream

namespace WorkerSelector

/-! ## In a region -/

/-- `select_best_in_region` with the fallback as it is written: the first
worker of the region, looked for in all workers again. It is `none` where
the `unwrap` panics. -/
def selectBestInRegionUnwrap (s : WorkerSelector) (region : String) (r : Readings) :
    WorkerSelector × Option (Except SdkError WorkerEndpoint) :=
  let regionalWorkers := s.workers.filter fun w => decide (w.region = region)
  if regionalWorkers.isEmpty then
    (s, some (.error (.config ("No workers in region: " ++ region))))
  else
    let s := s.refresh regionalWorkers r
    match s.fastest r.pick regionalWorkers with
    | some worker => (s, some (.ok worker))
    | none => (s, (s.workers.find? fun w => decide (w.region = region)).map .ok)

/-- A selector that has only the workers of a region. -/
def inRegion (s : WorkerSelector) (region : String) : WorkerSelector :=
  { s with workers := s.workers.filter fun w => decide (w.region = region) }

theorem filter_region_eq_nil {s : WorkerSelector} {region : String} :
    (s.workers.filter fun w => decide (w.region = region)) = []
      ↔ ∀ w ∈ s.workers, w.region ≠ region := by
  rw [List.filter_eq_nil_iff]
  simp only [decide_eq_true_eq, ne_eq]

/-- A region with workers has a first one. -/
theorem exists_regional {s : WorkerSelector} {region : String}
    (h : ∃ w ∈ s.workers, w.region = region) :
    ∃ first rest, (s.workers.filter fun w => decide (w.region = region)) = first :: rest := by
  obtain ⟨w, hw, hregion⟩ := h
  exact List.exists_cons_of_ne_nil fun hnil => filter_region_eq_nil.mp hnil w hw hregion

/-- The `unwrap` does not panic. -/
theorem selectBestInRegionUnwrap_eq (s : WorkerSelector) (region : String) (r : Readings) :
    s.selectBestInRegionUnwrap region r
      = ((s.selectBestInRegion region r).1, some (s.selectBestInRegion region r).2) := by
  unfold selectBestInRegionUnwrap selectBestInRegion
  cases hregional : s.workers.filter fun w => decide (w.region = region) with
  | nil => rfl
  | cons first rest =>
      have hfind : (s.workers.find? fun w => decide (w.region = region)) = some first := by
        rw [← List.head?_filter, hregional, List.head?_cons]
      dsimp only [List.isEmpty_cons]
      rw [if_neg Bool.false_ne_true]
      cases (s.refresh (first :: rest) r).fastest r.pick (first :: rest) with
      | some worker => rfl
      | none =>
          dsimp only
          rw [s.workers_refresh, hfind]
          rfl

/-- The workers a selector has do not matter to a refresh of others. -/
theorem refresh_inRegion (s : WorkerSelector) (region : String) (workers : List WorkerEndpoint)
    (r : Readings) :
    (s.inRegion region).refresh workers r
      = { s.refresh workers r with workers := (s.inRegion region).workers } := by
  change (if s.haveFreshCache r.check workers then s.inRegion region else _) = _
  unfold refresh
  split <;> rfl

theorem selectBestInRegion_eq_selectBest {s : WorkerSelector} {region : String}
    (h : ∃ w ∈ s.workers, w.region = region) (r : Readings) :
    (s.selectBestInRegion region r).2 = ((s.inRegion region).selectBest r).2
      ∧ (s.selectBestInRegion region r).1.latencies
        = ((s.inRegion region).selectBest r).1.latencies := by
  obtain ⟨first, rest, hregional⟩ := exists_regional h
  have hworkers : (s.inRegion region).workers = first :: rest := hregional
  unfold selectBestInRegion selectBest
  rw [hregional, hworkers]
  dsimp only
  rw [refresh_inRegion]
  exact ⟨rfl, rfl⟩

theorem selectBestInRegion_of_workers {s : WorkerSelector} {region : String}
    (h : ∃ w ∈ s.workers, w.region = region) (r : Readings) :
    ∃ t w, s.selectBestInRegion region r = (t, .ok w)
      ∧ w ∈ s.workers ∧ w.region = region := by
  obtain ⟨first, rest, hregional⟩ := exists_regional h
  have hok : ∃ t w, s.selectBestInRegion region r = (t, .ok w) := by
    unfold selectBestInRegion
    rw [hregional]
    exact ⟨_, _, rfl⟩
  obtain ⟨t, w, hsel⟩ := hok
  exact ⟨t, w, hsel, selectBestInRegion_ok hsel⟩

/-- A selection in a region is an error exactly if no worker is in it, and
else is the selection of a selector that has only the workers of the
region. -/
theorem regional_selection (s : WorkerSelector) (region : String) (r : Readings) :
    ((∃ e, (s.selectBestInRegionUnwrap region r).2 = some (.error e))
        ↔ ∀ w ∈ s.workers, w.region ≠ region)
      ∧ ∀ v ∈ s.workers, v.region = region →
        ∃ w ∈ s.workers, w.region = region
          ∧ (s.selectBestInRegionUnwrap region r).2 = some (.ok w)
          ∧ ((s.inRegion region).selectBest r).2 = .ok w
          ∧ (s.selectBestInRegionUnwrap region r).1.latencies
            = ((s.inRegion region).selectBest r).1.latencies := by
  rw [selectBestInRegionUnwrap_eq]
  dsimp only
  constructor
  · constructor
    · rintro ⟨e, he⟩ w hw hregion
      obtain ⟨t, v, hsel, -⟩ := selectBestInRegion_of_workers ⟨w, hw, hregion⟩ r
      rw [hsel] at he
      cases he
    · intro hnone
      unfold selectBestInRegion
      rw [filter_region_eq_nil.mpr hnone]
      exact ⟨_, rfl⟩
  · intro v hv hregion
    obtain ⟨t, w, hsel, hw, hwregion⟩ := selectBestInRegion_of_workers ⟨v, hv, hregion⟩ r
    obtain ⟨hresult, hlatencies⟩ := selectBestInRegion_eq_selectBest ⟨v, hv, hregion⟩ r
    rw [hsel] at hresult hlatencies ⊢
    exact ⟨w, hw, hwregion, rfl, hresult.symm, hlatencies⟩

end WorkerSelector

/-! ## For a leader -/

/-- The order in which a `HashMap` is gone through; it is up to the
hasher. -/
structure MapOrder where
  iter : (AList fun _ : String => UInt32) → List (Σ _ : String, UInt32)
  perm : ∀ m, (iter m).Perm m.entries

/-- As the entries are written. -/
def MapOrder.written : MapOrder where
  iter := fun m => m.entries
  perm := fun _ => .refl _

/-- The region with the lowest RTT; a tie goes to the one that comes up
first. -/
def MapOrder.lowestRtt (order : MapOrder) (regionRtts : AList fun _ : String => UInt32) :
    Option String :=
  ((order.iter regionRtts).argmin fun e => e.2.toNat).map Sigma.fst

namespace WorkerSelector

def hasWorkers (s : WorkerSelector) (region : String) : Bool :=
  s.workers.any fun w => decide (w.region = region)

/-- The preferred region if it has workers, else the first backup that
does. -/
def hintedRegion (s : WorkerSelector) (hint : LeaderHint) : Option String :=
  if s.hasWorkers hint.preferredRegion then some hint.preferredRegion
  else hint.backupRegions.find? s.hasWorkers

/-- A selection that makes no use of the hint's RTTs. -/
def selectHinted (s : WorkerSelector) (hint : LeaderHint) (r : Readings) :
    WorkerSelector × Except SdkError WorkerEndpoint :=
  match s.hintedRegion hint with
  | some region => s.selectBestInRegion region r
  | none => s.selectBest r

def selectForLeader (s : WorkerSelector) (order : MapOrder) (hint : LeaderHint)
    (r : Readings) : WorkerSelector × Except SdkError WorkerEndpoint :=
  match hint.metadata.regionRttMs.bind order.lowestRtt with
  | some region =>
      if s.hasWorkers region then s.selectBestInRegion region r
      else s.selectHinted hint r
  | none => s.selectHinted hint r

theorem hasWorkers_iff {s : WorkerSelector} {region : String} :
    s.hasWorkers region = true ↔ ∃ w ∈ s.workers, w.region = region := by
  rw [hasWorkers, List.any_eq_true]
  simp only [decide_eq_true_eq]

theorem selectBest_of_workers {s : WorkerSelector} (h : s.workers ≠ []) (r : Readings) :
    ∃ t w, s.selectBest r = (t, .ok w) ∧ w ∈ s.workers := by
  unfold selectBest
  cases hworkers : s.workers with
  | nil => exact absurd hworkers h
  | cons first rest =>
      refine ⟨_, _, rfl, ?_⟩
      cases hfast : (s.refresh (first :: rest) r).fastest r.pick (first :: rest) with
      | none => exact List.mem_cons_self
      | some w => exact mem_of_fastest hfast

theorem hasWorkers_of_hintedRegion {s : WorkerSelector} {hint : LeaderHint} {region : String}
    (h : s.hintedRegion hint = some region) : s.hasWorkers region = true := by
  unfold hintedRegion at h
  split at h
  · rename_i hpref
    rwa [← Option.some.inj h]
  · exact List.find?_some h

/-- Without RTTs the worker is of the hinted region, or the best of all. -/
theorem selectHinted_ok {s : WorkerSelector} (h : s.workers ≠ []) (hint : LeaderHint)
    (r : Readings) :
    ∃ t w, s.selectHinted hint r = (t, .ok w) ∧ w ∈ s.workers
      ∧ (∀ region, s.hintedRegion hint = some region → w.region = region)
      ∧ (s.hintedRegion hint = none → (s.selectBest r).2 = .ok w) := by
  unfold selectHinted
  cases hhinted : s.hintedRegion hint with
  | some region =>
      have hserved := hasWorkers_iff.mp (hasWorkers_of_hintedRegion hhinted)
      obtain ⟨t, w, hsel, hw, hregion⟩ := selectBestInRegion_of_workers hserved r
      refine ⟨t, w, hsel, hw, ?_, ?_⟩
      · intro region' heq
        rw [hregion, Option.some.inj heq]
      · intro hnone
        cases hnone
  | none =>
      obtain ⟨t, w, hsel, hw⟩ := selectBest_of_workers h r
      refine ⟨t, w, hsel, hw, ?_, fun _ => ?_⟩
      · intro region heq
        cases heq
      · rw [hsel]

/-- The RTTs decide if the lowest of them is that of a region with
workers, and are passed over if not. -/
theorem selectForLeader_cases (s : WorkerSelector) (order : MapOrder) (hint : LeaderHint)
    (r : Readings) :
    (∃ region, hint.metadata.regionRttMs.bind order.lowestRtt = some region
        ∧ s.hasWorkers region = true
        ∧ s.selectForLeader order hint r = s.selectBestInRegion region r)
      ∨ (∀ region, hint.metadata.regionRttMs.bind order.lowestRtt = some region →
          s.hasWorkers region = false)
        ∧ s.selectForLeader order hint r = s.selectHinted hint r := by
  unfold selectForLeader
  cases hlow : hint.metadata.regionRttMs.bind order.lowestRtt with
  | none =>
      refine .inr ⟨?_, rfl⟩
      intro region h
      cases h
  | some region =>
      cases hserved : s.hasWorkers region with
      | true => exact .inl ⟨region, rfl, hserved, if_pos hserved⟩
      | false =>
          refine .inr ⟨fun region' h => ?_, ?_⟩
          · rwa [← Option.some.inj h]
          · dsimp only
            rw [hserved]
            rfl

/-! ## The order of a hint -/

/-- The hint has an RTT for the region, and the region has workers. -/
def Ranked (s : WorkerSelector) (hint : LeaderHint) (region : String) (rtt : UInt32) : Prop :=
  (∃ regionRtts ∈ hint.metadata.regionRttMs, ⟨region, rtt⟩ ∈ regionRtts.entries)
    ∧ s.hasWorkers region = true

/-- No region with workers has a lower RTT. -/
def LowestRanked (s : WorkerSelector) (hint : LeaderHint) (region : String) : Prop :=
  ∃ rtt, s.Ranked hint region rtt ∧ ∀ region' rtt', s.Ranked hint region' rtt' → rtt ≤ rtt'

/-- The worker is in a region that the hint puts first, of those that
have workers. -/
structure LeaderOrder (s : WorkerSelector) (hint : LeaderHint) (r : Readings)
    (w : WorkerEndpoint) : Prop where
  ranked : (∃ region rtt, s.Ranked hint region rtt) → s.LowestRanked hint w.region
  preferred : (¬ ∃ region rtt, s.Ranked hint region rtt) →
    s.hasWorkers hint.preferredRegion = true → w.region = hint.preferredRegion
  backup : (¬ ∃ region rtt, s.Ranked hint region rtt) →
    s.hasWorkers hint.preferredRegion = false →
      ∀ region, hint.backupRegions.find? s.hasWorkers = some region → w.region = region
  overall : (¬ ∃ region rtt, s.Ranked hint region rtt) →
    s.hasWorkers hint.preferredRegion = false →
      (∀ region ∈ hint.backupRegions, s.hasWorkers region = false) →
        (s.selectBest r).2 = .ok w

theorem lowestRtt_eq_some {order : MapOrder} {regionRtts : AList fun _ : String => UInt32}
    {region : String} (h : order.lowestRtt regionRtts = some region) :
    ∃ rtt, ⟨region, rtt⟩ ∈ regionRtts.entries ∧ ∀ e ∈ regionRtts.entries, rtt ≤ e.2 := by
  obtain ⟨⟨region', rtt⟩, hmin, rfl⟩ := Option.map_eq_some_iff.mp h
  have hperm := order.perm regionRtts
  refine ⟨rtt, hperm.mem_iff.mp (List.argmin_mem hmin), ?_⟩
  intro e he
  have hle := List.le_of_mem_argmin (hperm.mem_iff.mpr he) hmin
  exact UInt32.le_iff_toNat_le.mpr hle

/-- If the region with the lowest RTT of all has workers, it is lowest
among those that do. -/
theorem lowestRanked_of_lowestRtt {s : WorkerSelector} {order : MapOrder} {hint : LeaderHint}
    {region : String} (h : hint.metadata.regionRttMs.bind order.lowestRtt = some region)
    (hserved : s.hasWorkers region = true) : s.LowestRanked hint region := by
  obtain ⟨regionRtts, hrtts, hlow⟩ := Option.bind_eq_some_iff.mp h
  obtain ⟨rtt, hmem, hle⟩ := lowestRtt_eq_some hlow
  refine ⟨rtt, ⟨⟨regionRtts, hrtts, hmem⟩, hserved⟩, ?_⟩
  rintro region' rtt' ⟨⟨regionRtts', hrtts', hmem'⟩, -⟩
  rw [hrtts] at hrtts'
  obtain rfl := Option.some.inj hrtts'
  exact hle _ hmem'

section Order

variable {s : WorkerSelector} {hint : LeaderHint} {r : Readings} {w : WorkerEndpoint}

/-- With a region that is ranked the order is that of the RTTs. -/
theorem leaderOrder_of_ranked (h : ∃ region rtt, s.Ranked hint region rtt) :
    s.LeaderOrder hint r w ↔ s.LowestRanked hint w.region := by
  constructor
  · intro horder
    exact horder.ranked h
  · intro hlow
    exact ⟨fun _ => hlow, fun hno => absurd h hno, fun hno => absurd h hno,
      fun hno => absurd h hno⟩

/-- With none it is that of a selection without RTTs. -/
theorem leaderOrder_of_not_ranked (h : ¬ ∃ region rtt, s.Ranked hint region rtt)
    (hhinted : ∀ region, s.hintedRegion hint = some region → w.region = region)
    (hnone : s.hintedRegion hint = none → (s.selectBest r).2 = .ok w) :
    s.LeaderOrder hint r w := by
  refine ⟨fun hranked => absurd hranked h, fun _ hpref => ?_, fun _ hpref region hfind => ?_,
    fun _ hpref hbackup => ?_⟩
  · exact hhinted _ (if_pos hpref)
  · refine hhinted region ?_
    rw [hintedRegion, hpref, if_neg Bool.false_ne_true, hfind]
  · refine hnone ?_
    rw [hintedRegion, hpref, if_neg Bool.false_ne_true, List.find?_eq_none]
    intro region hmem
    rw [hbackup region hmem]
    exact Bool.false_ne_true

end Order

/-- The order of the hint is kept exactly if no region is ranked, or the
one with the lowest RTT of all has workers, or the region that is taken
instead is a lowest one by chance. -/
theorem leaderOrder_iff {s : WorkerSelector} (h : s.workers ≠ []) (order : MapOrder)
    (hint : LeaderHint) (r : Readings) :
    ∃ t w, s.selectForLeader order hint r = (t, .ok w) ∧ w ∈ s.workers
      ∧ (s.LeaderOrder hint r w
        ↔ (¬ ∃ region rtt, s.Ranked hint region rtt)
          ∨ (∃ region, hint.metadata.regionRttMs.bind order.lowestRtt = some region
            ∧ s.hasWorkers region = true)
          ∨ (∃ region, s.hintedRegion hint = some region ∧ s.LowestRanked hint region)
          ∨ s.hintedRegion hint = none
            ∧ ∃ v, (s.selectBest r).2 = .ok v ∧ s.LowestRanked hint v.region) := by
  rcases s.selectForLeader_cases order hint r with ⟨region, hlow, hserved, heq⟩ | ⟨hlow, heq⟩
  · obtain ⟨t, w, hsel, hw, hregion⟩ :=
      selectBestInRegion_of_workers (hasWorkers_iff.mp hserved) r
    have hlowest := lowestRanked_of_lowestRtt hlow hserved
    refine ⟨t, w, heq.trans hsel, hw, iff_of_true ?_ (.inr (.inl ⟨region, hlow, hserved⟩))⟩
    rw [← hregion] at hlowest
    have hranked : ∃ region rtt, s.Ranked hint region rtt := by
      obtain ⟨rtt, hrtt, -⟩ := hlowest
      exact ⟨_, rtt, hrtt⟩
    exact (leaderOrder_of_ranked hranked).mpr hlowest
  · obtain ⟨t, w, hsel, hw, hhinted, hnone⟩ := selectHinted_ok h hint r
    refine ⟨t, w, heq.trans hsel, hw, ?_⟩
    by_cases hranked : ∃ region rtt, s.Ranked hint region rtt
    · rw [leaderOrder_of_ranked hranked]
      constructor
      · intro hlowest
        cases hregion : s.hintedRegion hint with
        | some region =>
            rw [hhinted region hregion] at hlowest
            exact .inr (.inr (.inl ⟨region, rfl, hlowest⟩))
        | none => exact .inr (.inr (.inr ⟨rfl, w, hnone hregion, hlowest⟩))
      · rintro (hno | ⟨region, hbind, hserved⟩ | ⟨region, hregion, hlowest⟩
          | ⟨hregion, v, hbest, hlowest⟩)
        · exact absurd hranked hno
        · rw [hlow region hbind] at hserved
          cases hserved
        · rwa [hhinted region hregion]
        · rw [hnone hregion] at hbest
          rwa [Except.ok.inj hbest]
    · exact iff_of_true (leaderOrder_of_not_ranked hranked hhinted hnone) (.inl hranked)

/-- A worker in each of two regions. -/
def twoRegions : WorkerSelector where
  workers := [.new "worker-1" "us-east" "10.0.0.1", .new "worker-2" "us-west" "10.0.0.2"]

/-- A hint for `us-west`, with these RTTs. -/
def hintWith (regionRtts : AList fun _ : String => UInt32) : LeaderHint where
  timestamp := 1706011200000
  slot := 12345678
  expiresAtSlot := 12345682
  preferredRegion := "us-west"
  backupRegions := ["us-east"]
  confidence := 85
  leaderPubkey := ""
  metadata := ⟨8, 0.85, none, some regionRtts⟩

def eastCloser : AList fun _ : String => UInt32 where
  entries := [⟨"us-west", 45⟩, ⟨"us-east", 8⟩]
  nodupKeys := by simp [List.NodupKeys, List.keys]

def asiaClosest : AList fun _ : String => UInt32 where
  entries := [⟨"asia-east", 5⟩, ⟨"us-east", 8⟩, ⟨"us-west", 45⟩]
  nodupKeys := by simp [List.NodupKeys, List.keys]

/-- Each worker answers after 50 ms. -/
def promptReadings : Readings where
  check := fun _ => 0
  pings := .inOrder fun _ => ⟨0, Duration.fromMillis 50, fun _ => some true⟩
  pick := fun _ => Duration.fromMillis 50

theorem leaderOrder_usEast :
    ∃ t w, twoRegions.selectForLeader .written (hintWith eastCloser) promptReadings = (t, .ok w)
      ∧ w ∈ twoRegions.workers
      ∧ twoRegions.LeaderOrder (hintWith eastCloser) promptReadings w := by
  obtain ⟨t, w, hsel, hw, hiff⟩ := leaderOrder_iff (s := twoRegions) (by decide) .written
    (hintWith eastCloser) promptReadings
  exact ⟨t, w, hsel, hw, hiff.mpr (.inr (.inl ⟨"us-east", rfl, by decide⟩))⟩

/-- A region without workers is closest to the leader, and the preferred
`us-west` is taken over the closer `us-east`. -/
theorem asia_hides_usEast :
    ∃ t w, twoRegions.selectForLeader .written (hintWith asiaClosest) promptReadings = (t, .ok w)
      ∧ w.region = "us-west"
      ∧ ¬ twoRegions.LeaderOrder (hintWith asiaClosest) promptReadings w := by
  have hwest : twoRegions.hasWorkers "us-west" = true := by decide
  have heast : twoRegions.Ranked (hintWith asiaClosest) "us-east" 8 :=
    ⟨⟨asiaClosest, rfl, by simp [asiaClosest]⟩, by decide⟩
  obtain ⟨t, w, hsel, -, hregion⟩ :=
    selectBestInRegion_of_workers (hasWorkers_iff.mp hwest) promptReadings
  refine ⟨t, w, hsel, hregion, fun horder => ?_⟩
  obtain ⟨rtt, ⟨⟨regionRtts, hrtts, hmem⟩, -⟩, hle⟩ := horder.ranked ⟨_, _, heast⟩
  obtain rfl : asiaClosest = regionRtts := Option.some.inj hrtts
  have h45 : rtt = 45 := by simpa [asiaClosest, hregion] using hmem
  have h8 : rtt ≤ 8 := hle _ _ heast
  rw [h45] at h8
  exact absurd h8 (by decide)

end WorkerSelector

end Slipstream
