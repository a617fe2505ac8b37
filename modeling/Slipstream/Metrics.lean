import Mathlib.Algebra.Order.Field.Basic
import Mathlib.Algebra.Order.Field.Rat
import Mathlib.Data.Finset.Card
import Slipstream.Lts
import Slipstream.SubmitLog

/-!
# Performance metrics

Submissions bump the counters of a client, `metrics()` reads them; each
access is atomic and nothing holds two of them together. A submission is
counted as submitted before it is counted as confirmed, but a reader
loads the two counters in this order as well, so that a submission in
between the two loads may be in the second number only.

What a reader has missed is made up for by the submissions it has seen
that are not confirmed. `consistent_iff` says that a run returns
consistent snapshots only exactly if in each of them the former are not
more than the latter (`Balanced`).
-/

namespace Slipstream

/-! ## Marked entries -/

section Marked

variable {α : Type} {p : α → Bool} {l : List α} {i : Nat} {a b : α}

/-- The places of the entries that pass a test. -/
def marked (p : α → Bool) (l : List α) : Finset Nat :=
  (Finset.range l.length).filter fun i => l[i]?.any p

theorem mem_marked : i ∈ marked p l ↔ ∃ a, l[i]? = some a ∧ p a = true := by
  rw [marked, Finset.mem_filter, Finset.mem_range, Option.any_eq_true]
  constructor
  · rintro ⟨-, h⟩
    exact h
  · rintro ⟨a, ha, hp⟩
    exact ⟨(List.getElem?_eq_some_iff.mp ha).1, a, ha, hp⟩

theorem marked_append (h : p a = false) : marked p (l ++ [a]) = marked p l := by
  ext i
  rw [mem_marked, mem_marked]
  constructor
  · rintro ⟨b, hb, hp⟩
    rcases Nat.lt_trichotomy i l.length with hlt | rfl | hgt
    · rw [List.getElem?_append_left hlt] at hb
      exact ⟨b, hb, hp⟩
    · rw [List.getElem?_concat_length] at hb
      obtain rfl := Option.some.inj hb
      rw [h] at hp
      cases hp
    · rw [List.getElem?_eq_none (by simp; omega)] at hb
      cases hb
  · rintro ⟨b, hb, hp⟩
    exact ⟨b, List.getElem?_append_left (List.getElem?_eq_some_iff.mp hb).1 ▸ hb, hp⟩

theorem marked_set_same (hi : l[i]? = some a) (h : p b = p a) :
    marked p (l.set i b) = marked p l := by
  have hlt := (List.getElem?_eq_some_iff.mp hi).1
  ext j
  rw [mem_marked, mem_marked]
  by_cases hij : i = j
  · subst hij
    rw [List.getElem?_set_self hlt, hi]
    simp [h]
  · rw [List.getElem?_set_ne hij]

theorem marked_set_insert (hi : l[i]? = some a) (hb : p b = true) :
    marked p (l.set i b) = insert i (marked p l) := by
  have hlt := (List.getElem?_eq_some_iff.mp hi).1
  ext j
  rw [Finset.mem_insert, mem_marked, mem_marked]
  by_cases hij : i = j
  · subst hij
    rw [List.getElem?_set_self hlt]
    simp [hb]
  · rw [List.getElem?_set_ne hij]
    simp [Ne.symm hij]

theorem not_mem_marked (hi : l[i]? = some a) (ha : p a = false) : i ∉ marked p l := by
  rw [mem_marked]
  rintro ⟨b, hb, hp⟩
  rw [hi] at hb
  obtain rfl := Option.some.inj hb
  rw [ha] at hp
  cases hp

end Marked

/-! ## Floating point -/

/-- `f64` as far as the metrics use it: numbers are rounded, in order, and
0 and 1 are exact. -/
structure F64 where
  round : ℚ → ℚ
  mono : Monotone round
  zero : round 0 = 0
  one : round 1 = 1

/-- `a as f64 / b as f64`. -/
def F64.div (f : F64) (a b : UInt64) : ℚ := f.round (f.round a.toNat / f.round b.toNat)

theorem F64.div_mem_unit (f : F64) {a b : UInt64} (hb : 0 < b) (hab : a ≤ b) :
    0 ≤ f.div a b ∧ f.div a b ≤ 1 := by
  have hab' : (a.toNat : ℚ) ≤ b.toNat := Nat.cast_le.mpr (UInt64.le_iff_toNat_le.mp hab)
  have hone : (1 : ℚ) ≤ b.toNat := by
    have hpos : 0 < b.toNat := UInt64.lt_iff_toNat_lt.mp hb
    exact_mod_cast hpos
  have hpos : 0 < f.round b.toNat := lt_of_lt_of_le one_pos (f.one ▸ f.mono hone)
  have hnonneg : 0 ≤ f.round a.toNat := f.zero ▸ f.mono (Nat.cast_nonneg _)
  constructor
  · rw [F64.div, ← f.zero]
    exact f.mono (div_nonneg hnonneg hpos.le)
  · rw [F64.div]
    calc f.round (f.round a.toNat / f.round b.toNat) ≤ f.round 1 :=
          f.mono ((div_le_one hpos).mpr (f.mono hab'))
      _ = 1 := f.one

/-! ## The counters -/

structure PerformanceMetrics where
  transactionsSubmitted : UInt64
  transactionsConfirmed : UInt64
  averageLatencyMs : ℚ
  successRate : ℚ
deriving DecidableEq

/-- What `metrics()` makes of the three numbers it has loaded. -/
def PerformanceMetrics.ofLoads (f : F64) (submitted confirmed totalLatency : UInt64) :
    PerformanceMetrics where
  transactionsSubmitted := submitted
  transactionsConfirmed := confirmed
  averageLatencyMs := if 0 < submitted then f.div totalLatency submitted else 0
  successRate := if 0 < submitted then f.div confirmed submitted else 0

structure PerformanceMetrics.Consistent (m : PerformanceMetrics) : Prop where
  confirmed_le : m.transactionsConfirmed ≤ m.transactionsSubmitted
  successRate_nonneg : 0 ≤ m.successRate
  successRate_le_one : m.successRate ≤ 1

theorem PerformanceMetrics.consistent_ofLoads_iff (f : F64)
    {submitted confirmed totalLatency : UInt64} :
    (ofLoads f submitted confirmed totalLatency).Consistent ↔ confirmed ≤ submitted := by
  constructor
  · exact fun h => h.confirmed_le
  · intro h
    by_cases hpos : 0 < submitted
    · have hrate : (ofLoads f submitted confirmed totalLatency).successRate
          = f.div confirmed submitted := if_pos hpos
      obtain ⟨hlo, hhi⟩ := f.div_mem_unit hpos h
      exact ⟨h, hrate ▸ hlo, hrate ▸ hhi⟩
    · have hrate : (ofLoads f submitted confirmed totalLatency).successRate = 0 := if_neg hpos
      exact ⟨h, hrate.ge, hrate.trans_le zero_le_one⟩

/-! ## Submissions and readers -/

namespace Metrics

open SubmitLog (ClientMetrics)

/-- Where a `submit_transaction_with_options` is; one that the dedup cache
turns away does not come to the counters and is left out. -/
inductive Call where
  | submitting
  | answered (ok : Bool) (elapsedMs : UInt64)
  | latencyStored (ok : Bool) (elapsedMs : UInt64)
  | counted (ok : Bool) (elapsedMs : UInt64)
  | latencyAdded (ok : Bool)
  | returned (ok : Bool)
deriving Repr, DecidableEq

/-- Has been counted as submitted. -/
def Call.isCounted : Call → Bool
  | .counted .. | .latencyAdded _ | .returned _ => true
  | _ => false

/-- Has been counted as confirmed. -/
def Call.isConfirmed : Call → Bool
  | .returned ok => ok
  | _ => false

/-- Where a `metrics()` is. Beside what it has loaded stand the calls that
were counted at the time. -/
inductive Reader where
  | started
  | submittedLoaded (submitted : UInt64) (seen : Finset Nat)
  | confirmedLoaded (submitted confirmed : UInt64) (seen confirmedThen : Finset Nat)
  | returned (m : PerformanceMetrics)
deriving DecidableEq

structure State where
  metrics : ClientMetrics := {}
  calls : List Call := []
  readers : List Reader := []
deriving DecidableEq

def State.counted (s : State) : Finset Nat := marked Call.isCounted s.calls

def State.confirmed (s : State) : Finset Nat := marked Call.isConfirmed s.calls

inductive Action where
  | submit
  /-- The transport returns. -/
  | answer (i : Nat) (ok : Bool) (elapsedMs : UInt64)
  /-- A call makes its next access to the counters. -/
  | access (i : Nat)
  | readMetrics
  /-- A reader makes its next load. -/
  | load (j : Nat)
deriving DecidableEq

def step (f : F64) (s : State) : Action → Option State
  | .submit => some { s with calls := s.calls ++ [.submitting] }
  | .answer i ok ms =>
      match s.calls[i]? with
      | some .submitting => some { s with calls := s.calls.set i (.answered ok ms) }
      | _ => none
  | .access i =>
      let m := s.metrics
      match s.calls[i]? with
      | some (.answered ok ms) =>
          some
            { s with
              metrics := { m with lastLatencyMs := ms }
              calls := s.calls.set i (.latencyStored ok ms) }
      | some (.latencyStored ok ms) =>
          some
            { s with
              metrics := { m with transactionsSubmitted := m.transactionsSubmitted + 1 }
              calls := s.calls.set i (.counted ok ms) }
      | some (.counted ok ms) =>
          some
            { s with
              metrics := { m with totalLatencyMs := m.totalLatencyMs + ms }
              calls := s.calls.set i (.latencyAdded ok) }
      | some (.latencyAdded true) =>
          some
            { s with
              metrics := { m with transactionsConfirmed := m.transactionsConfirmed + 1 }
              calls := s.calls.set i (.returned true) }
      | some (.latencyAdded false) => some { s with calls := s.calls.set i (.returned false) }
      | _ => none
  | .readMetrics => some { s with readers := s.readers ++ [.started] }
  | .load j =>
      let m := s.metrics
      match s.readers[j]? with
      | some .started =>
          let r := .submittedLoaded m.transactionsSubmitted s.counted
          some { s with readers := s.readers.set j r }
      | some (.submittedLoaded submitted seen) =>
          let r := .confirmedLoaded submitted m.transactionsConfirmed seen s.confirmed
          some { s with readers := s.readers.set j r }
      | some (.confirmedLoaded submitted confirmed _ _) =>
          let r := .returned (.ofLoads f submitted confirmed m.totalLatencyMs)
          some { s with readers := s.readers.set j r }
      | _ => none

/-- What has been loaded counts the calls that stand beside it. -/
def Reader.Faithful : Reader → Prop
  | .submittedLoaded submitted seen => submitted.toNat = seen.card % 2 ^ 64
  | .confirmedLoaded submitted confirmed seen confirmedThen =>
      submitted.toNat = seen.card % 2 ^ 64 ∧ confirmed.toNat = confirmedThen.card % 2 ^ 64
  | _ => True

/-- The counters count the calls, and wrap. -/
structure Inv (s : State) : Prop where
  submitted : s.metrics.transactionsSubmitted.toNat = s.counted.card % 2 ^ 64
  confirmed : s.metrics.transactionsConfirmed.toNat = s.confirmed.card % 2 ^ 64
  readers : ∀ r ∈ s.readers, r.Faithful

/-- What a step does to the calls and the two counters, and to the
readers. -/
inductive Step (f : F64) (s : State) : Action → State → Prop where
  | submit : Step f s .submit { s with calls := s.calls ++ [.submitting] }
  /-- A call moves on and is counted where it was before. -/
  | move {a : Action} {i : Nat} {c c' : Call} {m : ClientMetrics} (hc : s.calls[i]? = some c)
      (hcounted : c'.isCounted = c.isCounted) (hconfirmed : c'.isConfirmed = c.isConfirmed)
      (hm : m.transactionsSubmitted = s.metrics.transactionsSubmitted)
      (hm' : m.transactionsConfirmed = s.metrics.transactionsConfirmed)
      (ha : ∀ j, a ≠ .load j) :
      Step f s a { s with metrics := m, calls := s.calls.set i c' }
  | count {i : Nat} {ok : Bool} {ms : UInt64} (hc : s.calls[i]? = some (.latencyStored ok ms)) :
      Step f s (.access i)
        { s with
          metrics := { s.metrics with
            transactionsSubmitted := s.metrics.transactionsSubmitted + 1 }
          calls := s.calls.set i (.counted ok ms) }
  | confirm {i : Nat} (hc : s.calls[i]? = some (.latencyAdded true)) :
      Step f s (.access i)
        { s with
          metrics := { s.metrics with
            transactionsConfirmed := s.metrics.transactionsConfirmed + 1 }
          calls := s.calls.set i (.returned true) }
  | readMetrics : Step f s .readMetrics { s with readers := s.readers ++ [.started] }
  | loadSubmitted {j : Nat} (hr : s.readers[j]? = some .started) :
      Step f s (.load j)
        { s with
          readers := s.readers.set j
            (.submittedLoaded s.metrics.transactionsSubmitted s.counted) }
  | loadConfirmed {j : Nat} {submitted : UInt64} {seen : Finset Nat}
      (hr : s.readers[j]? = some (.submittedLoaded submitted seen)) :
      Step f s (.load j)
        { s with
          readers := s.readers.set j
            (.confirmedLoaded submitted s.metrics.transactionsConfirmed seen s.confirmed) }
  | loadLatency {j : Nat} {submitted confirmed : UInt64} {seen confirmedThen : Finset Nat}
      (hr : s.readers[j]? = some (.confirmedLoaded submitted confirmed seen confirmedThen)) :
      Step f s (.load j)
        { s with
          readers := s.readers.set j
            (.returned (.ofLoads f submitted confirmed s.metrics.totalLatencyMs)) }

theorem step_cases {f : F64} {s t : State} {a : Action} (h : step f s a = some t) :
    Step f s a t := by
  cases a with
  | submit => exact Option.some.inj h ▸ .submit
  | answer i ok ms =>
      simp only [step] at h
      split at h
      · rename_i hc
        exact Option.some.inj h ▸ .move hc rfl rfl rfl rfl (by simp)
      · cases h
  | access i =>
      rw [step] at h
      cases hc : s.calls[i]? with
      | none =>
          rw [hc] at h
          cases h
      | some c =>
          rw [hc] at h
          cases c with
          | submitting => cases h
          | answered ok ms => exact Option.some.inj h ▸ .move hc rfl rfl rfl rfl (by simp)
          | latencyStored ok ms => exact Option.some.inj h ▸ .count hc
          | counted ok ms => exact Option.some.inj h ▸ .move hc rfl rfl rfl rfl (by simp)
          | latencyAdded ok =>
              cases ok with
              | true => exact Option.some.inj h ▸ .confirm hc
              | false => exact Option.some.inj h ▸ .move hc rfl rfl rfl rfl (by simp)
          | returned ok => cases h
  | readMetrics => exact Option.some.inj h ▸ .readMetrics
  | load j =>
      simp only [step] at h
      split at h
      · rename_i hr
        exact Option.some.inj h ▸ .loadSubmitted hr
      · rename_i hr
        exact Option.some.inj h ▸ .loadConfirmed hr
      · rename_i hr
        exact Option.some.inj h ▸ .loadLatency hr
      · cases h

/-! ## What is counted -/

section Counters

variable {p : Call → Bool} {n : UInt64} {calls : List Call} {i : Nat} {c c' : Call}

/-- A counter that holds the number of calls that pass a test keeps it
where a call comes in that does not. -/
theorem counter_append (hn : n.toNat = (marked p calls).card % 2 ^ 64) (hc : p c = false) :
    n.toNat = (marked p (calls ++ [c])).card % 2 ^ 64 := by
  rw [marked_append hc]
  exact hn

/-- It keeps it where a call changes and passes as it did. -/
theorem counter_set (hn : n.toNat = (marked p calls).card % 2 ^ 64) (hc : calls[i]? = some c)
    (hsame : p c' = p c) : n.toNat = (marked p (calls.set i c')).card % 2 ^ 64 := by
  rw [marked_set_same hc hsame]
  exact hn

/-- It is bumped where a call comes to pass. -/
theorem counter_bump (hn : n.toNat = (marked p calls).card % 2 ^ 64) (hc : calls[i]? = some c)
    (hold : p c = false) (hnew : p c' = true) :
    (n + 1).toNat = (marked p (calls.set i c')).card % 2 ^ 64 := by
  rw [marked_set_insert hc hnew, Finset.card_insert_of_notMem (not_mem_marked hc hold),
    UInt64.toNat_add, hn, UInt64.toNat_one, Nat.mod_add_mod]

end Counters

theorem inv_init : Inv {} := ⟨rfl, rfl, by simp⟩

theorem inv_of_readers {s : State} (hs : Inv s) {j : Nat} {r : Reader} (hr : r.Faithful) :
    Inv { s with readers := s.readers.set j r } := by
  refine ⟨hs.submitted, hs.confirmed, fun r' hr' => ?_⟩
  rcases List.mem_or_eq_of_mem_set hr' with hmem | rfl
  · exact hs.readers r' hmem
  · exact hr

theorem inv_step {f : F64} {s t : State} {a : Action} (hs : Inv s)
    (h : step f s a = some t) : Inv t := by
  cases step_cases h with
  | submit =>
      exact ⟨counter_append hs.submitted rfl, counter_append hs.confirmed rfl, hs.readers⟩
  | move hc hcounted hconfirmed hm hm' ha =>
      refine ⟨?_, ?_, hs.readers⟩
      · exact counter_set (hm ▸ hs.submitted) hc hcounted
      · exact counter_set (hm' ▸ hs.confirmed) hc hconfirmed
  | count hc =>
      exact ⟨counter_bump hs.submitted hc rfl rfl, counter_set hs.confirmed hc rfl, hs.readers⟩
  | confirm hc =>
      exact ⟨counter_set hs.submitted hc rfl, counter_bump hs.confirmed hc rfl rfl, hs.readers⟩
  | readMetrics =>
      refine ⟨hs.submitted, hs.confirmed, fun r hr => ?_⟩
      rcases List.mem_append.mp hr with hr | hr
      · exact hs.readers r hr
      · rw [List.mem_singleton.mp hr]
        trivial
  | loadSubmitted hr => exact inv_of_readers hs hs.submitted
  | loadConfirmed hr =>
      exact inv_of_readers hs ⟨hs.readers _ (List.mem_of_getElem? hr), hs.confirmed⟩
  | loadLatency hr => exact inv_of_readers hs trivial

/-! ## Consistent snapshots -/

/-- Of the calls, `seen` were counted at a reader's first load and
`confirmed` confirmed at its second: those confirmed that it has missed
are not more than those seen that are not confirmed. Beyond 2^64 calls
the numbers the counters have wrapped to are in order. -/
def Balanced (seen confirmed : Finset Nat) : Prop :=
  if seen.card / 2 ^ 64 = confirmed.card / 2 ^ 64 then
    (confirmed \ seen).card ≤ (seen \ confirmed).card
  else confirmed.card % 2 ^ 64 ≤ seen.card % 2 ^ 64

theorem balanced_iff {seen confirmed : Finset Nat} :
    Balanced seen confirmed ↔ confirmed.card % 2 ^ 64 ≤ seen.card % 2 ^ 64 := by
  unfold Balanced
  split_ifs with hlap
  · rw [Finset.card_sdiff_le_card_sdiff_iff]
    omega
  · exact Iff.rfl

/-- What `metrics()` has returned is consistent. -/
def Consistent (s : State) : Prop := ∀ m, .returned m ∈ s.readers → m.Consistent

/-- A reader that returns has loaded balanced counters. -/
def LoadsBalanced (s : State) : Action → Prop
  | .load j =>
      ∀ submitted confirmed seen confirmedThen,
        s.readers[j]? = some (.confirmedLoaded submitted confirmed seen confirmedThen) →
          Balanced seen confirmedThen
  | _ => True

/-- A reader that has not returned yet changes nothing about the others. -/
theorem consistent_set_iff {s : State} (hs : Consistent s) {j : Nat} {r : Reader}
    (hr : ∀ m, r ≠ .returned m) : Consistent { s with readers := s.readers.set j r } := by
  intro m hm
  rcases List.mem_or_eq_of_mem_set hm with hmem | heq
  · exact hs m hmem
  · exact absurd heq.symm (hr m)

theorem consistent_step_iff {f : F64} {s t : State} {a : Action} (hs : Inv s)
    (hp : Consistent s) (h : step f s a = some t) : Consistent t ↔ LoadsBalanced s a := by
  cases step_cases h with
  | submit => exact iff_of_true hp trivial
  | @move a i c c' m hc hcounted hconfirmed hm hm' ha =>
      refine iff_of_true hp ?_
      cases a with
      | load j => exact absurd rfl (ha j)
      | _ => trivial
  | count hc => exact iff_of_true hp trivial
  | confirm hc => exact iff_of_true hp trivial
  | readMetrics =>
      refine iff_of_true (fun m hm => ?_) trivial
      rcases List.mem_append.mp hm with hm | hm
      · exact hp m hm
      · cases List.mem_singleton.mp hm
  | loadSubmitted hr =>
      refine iff_of_true (consistent_set_iff hp (by simp)) ?_
      intro submitted confirmed seen confirmedThen hr'
      rw [hr] at hr'
      cases hr'
  | loadConfirmed hr =>
      refine iff_of_true (consistent_set_iff hp (by simp)) ?_
      intro submitted confirmed seen confirmedThen hr'
      rw [hr] at hr'
      cases hr'
  | @loadLatency j submitted confirmed seen confirmedThen hr =>
      have hlt := (List.getElem?_eq_some_iff.mp hr).1
      obtain ⟨hseen, hthen⟩ := hs.readers _ (List.mem_of_getElem? hr)
      have hbalanced : Balanced seen confirmedThen ↔ confirmed ≤ submitted := by
        rw [balanced_iff, UInt64.le_iff_toNat_le, hseen, hthen]
      constructor
      · intro hnext submitted' confirmed' seen' confirmedThen' hr'
        rw [hr] at hr'
        obtain ⟨rfl, rfl, rfl, rfl⟩ := Reader.confirmedLoaded.inj (Option.some.inj hr')
        exact hbalanced.mpr ((PerformanceMetrics.consistent_ofLoads_iff f).mp
          (hnext _ (List.mem_set hlt _)))
      · intro hload m hm
        rcases List.mem_or_eq_of_mem_set hm with hmem | heq
        · exact hp m hmem
        · obtain rfl := Reader.returned.inj heq
          exact (PerformanceMetrics.consistent_ofLoads_iff f).mpr
            (hbalanced.mp (hload _ _ _ _ hr))

/-- Every snapshot a run returns is consistent exactly if every reader of
the run has loaded balanced counters. -/
theorem consistent_iff (f : F64) (as : List Action) :
    Lts.Along (step f) Consistent {} as ↔ Lts.Guarded (step f) LoadsBalanced {} as :=
  Lts.along_iff_guarded (fun _ _ _ => inv_step) (fun _ _ _ => consistent_step_iff) inv_init
    (by intro m hm; cases hm)

/-! ## A submission between two loads -/

def exact : F64 := ⟨id, monotone_id, rfl, rfl⟩

/-- A submission is through before the reader starts, and another one
between its first load and its second. -/
def overtaken : List Action :=
  [.submit, .answer 0 true 12, .access 0, .access 0, .access 0, .access 0, .readMetrics,
    .load 0, .submit, .answer 1 true 18, .access 1, .access 1, .access 1, .access 1, .load 0,
    .load 0]

/-- Two transactions confirmed of one submitted. -/
theorem not_consistent_overtaken :
    (Lts.run (step exact) {} overtaken).map State.readers
        = some [.returned (.ofLoads exact 1 2 30)]
      ∧ (PerformanceMetrics.ofLoads exact 1 2 30).successRate = 2
      ∧ ¬ Lts.Along (step exact) Consistent {} overtaken := by
  have hreaders : (Lts.run (step exact) {} overtaken).map State.readers
      = some [.returned (.ofLoads exact 1 2 30)] := rfl
  refine ⟨hreaders, by simp [PerformanceMetrics.ofLoads, F64.div, exact], fun h => ?_⟩
  obtain ⟨t, hrun, ht⟩ := Option.map_eq_some_iff.mp hreaders
  have hlast := h overtaken t (List.prefix_refl _) hrun
  have hle := (hlast _ (by rw [ht]; exact List.mem_singleton.mpr rfl)).confirmed_le
  revert hle
  decide

end Metrics

end Slipstream
