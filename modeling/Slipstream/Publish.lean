import Mathlib.Data.List.Basic
import Mathlib.Logic.Function.Basic

/-!
# Installed first, published later

A register that several tasks write: a task installs its value, and some
time afterwards publishes it on a channel. The log has the values in the
order in which they were installed, newest first, and each is known by
its place in it. Nothing here depends on what the values are.

The channel has them in the same order exactly if no task publishes its
value after a later one (`inOrder_publish_iff`); then a reader of the
channel ends up with the value of the register once nobody has anything
left to publish (`InOrder.converged`).
-/

namespace Publish

variable {ι α : Type*}

/-- The value installed after `k` others. -/
def nth : List α → Nat → Option α
  | [], _ => none
  | a :: older, k => if k = older.length then some a else nth older k

theorem nth_lt : ∀ {log : List α} {k : Nat} {a : α}, nth log k = some a → k < log.length := by
  intro log
  induction log with
  | nil => intro k a h; cases h
  | cons b older ih =>
      intro k a h
      rw [nth] at h
      split at h
      · rename_i hk
        rw [List.length_cons]
        omega
      · exact Nat.lt_succ_of_lt (ih h)

/-- A value keeps its place. -/
theorem nth_cons {log : List α} {k : Nat} {a : α} (b : α) (h : nth log k = some a) :
    nth (b :: log) k = some a := by
  rw [nth, if_neg (Nat.ne_of_lt (nth_lt h)), h]

theorem nth_cons_self (b : α) (log : List α) : nth (b :: log) log.length = some b := if_pos rfl

/-- What was installed and published, newest first, and what each task
has still to publish. -/
structure State (ι α : Type*) where
  log : List α := []
  sent : List (Nat × α) := []
  pending : ι → Option (Nat × α) := fun _ => none

namespace State

variable [DecidableEq ι]

def install (s : State ι α) (i : ι) (a : α) : State ι α where
  log := a :: s.log
  sent := s.sent
  pending := Function.update s.pending i (some (s.log.length, a))

def publish (s : State ι α) (i : ι) (u : Nat × α) : State ι α where
  log := s.log
  sent := u :: s.sent
  pending := Function.update s.pending i none

section Fields

variable (s : State ι α) {i j : ι}

@[simp] theorem pending_install_self (i : ι) (a : α) :
    (s.install i a).pending i = some (s.log.length, a) := Function.update_self ..

theorem pending_install_ne (h : j ≠ i) (a : α) : (s.install i a).pending j = s.pending j :=
  Function.update_of_ne h ..

@[simp] theorem pending_publish_self (i : ι) (u : Nat × α) :
    (s.publish i u).pending i = none := Function.update_self ..

theorem pending_publish_ne (h : j ≠ i) (u : Nat × α) :
    (s.publish i u).pending j = s.pending j := Function.update_of_ne h ..

end Fields

/-- Every value that was installed is published, or some task has still
to publish it. -/
structure Kept (s : State ι α) : Prop where
  pending : ∀ i u, s.pending i = some u → nth s.log u.1 = some u.2
  sent : ∀ u ∈ s.sent, nth s.log u.1 = some u.2
  covered : ∀ k < s.log.length, (∃ u ∈ s.sent, u.1 = k) ∨ ∃ i u, s.pending i = some u ∧ u.1 = k

variable {s : State ι α}

omit [DecidableEq ι] in
theorem kept_init : Kept ({} : State ι α) where
  pending := fun i u h => by cases h
  sent := fun u h => by cases h
  covered := fun k hk => absurd hk (Nat.not_lt_zero k)

theorem Kept.install (h : s.Kept) {i : ι} (hi : s.pending i = none) (a : α) :
    (s.install i a).Kept where
  pending := by
    intro j u hu
    by_cases hj : j = i
    · rw [hj, pending_install_self] at hu
      obtain rfl := Option.some.inj hu
      exact nth_cons_self a s.log
    · rw [pending_install_ne s hj] at hu
      exact nth_cons a (h.pending j u hu)
  sent := fun u hu => nth_cons a (h.sent u hu)
  covered := by
    intro k hk
    rcases Nat.lt_succ_iff_lt_or_eq.mp hk with hk | rfl
    · rcases h.covered k hk with hsent | ⟨j, u, hu, huk⟩
      · exact .inl hsent
      · have hj : j ≠ i := by
          rintro rfl
          rw [hi] at hu
          cases hu
        exact .inr ⟨j, u, (pending_install_ne s hj a).trans hu, huk⟩
    · exact .inr ⟨i, _, pending_install_self s i a, rfl⟩

theorem Kept.publish (h : s.Kept) {i : ι} {u : Nat × α} (hi : s.pending i = some u) :
    (s.publish i u).Kept where
  pending := by
    intro j v hv
    by_cases hj : j = i
    · rw [hj, pending_publish_self] at hv
      cases hv
    · rw [pending_publish_ne s hj] at hv
      exact h.pending j v hv
  sent := by
    intro v hv
    rcases List.mem_cons.mp hv with rfl | hv
    · exact h.pending i v hi
    · exact h.sent v hv
  covered := by
    intro k hk
    rcases h.covered k hk with ⟨v, hv, hvk⟩ | ⟨j, v, hv, hvk⟩
    · exact .inl ⟨v, List.mem_cons_of_mem _ hv, hvk⟩
    · by_cases hj : j = i
      · rw [hj, hi] at hv
        obtain rfl := Option.some.inj hv
        exact .inl ⟨u, List.mem_cons_self, hvk⟩
      · exact .inr ⟨j, v, (pending_publish_ne s hj u).trans hv, hvk⟩

/-! ## The order of the channel -/

/-- The values were published in the order in which they were
installed. -/
def InOrder (s : State ι α) : Prop :=
  s.sent.Pairwise fun later earlier => earlier.1 < later.1

theorem inOrder_publish_iff (i : ι) (u : Nat × α) :
    (s.publish i u).InOrder ↔ s.InOrder ∧ ∀ v ∈ s.sent, v.1 < u.1 := by
  rw [InOrder, State.publish, List.pairwise_cons, and_comm]
  exact Iff.rfl

omit [DecidableEq ι] in
/-- When everything is published, the last value on the channel is the
last one installed. -/
theorem InOrder.converged (horder : s.InOrder) (h : s.Kept) (hdone : ∀ i, s.pending i = none) :
    s.sent.head?.map Prod.snd = s.log.head? := by
  have hcovered : ∀ k < s.log.length, ∃ u ∈ s.sent, u.1 = k := by
    intro k hk
    rcases h.covered k hk with hsent | ⟨i, u, hu, -⟩
    · exact hsent
    · rw [hdone i] at hu
      cases hu
  cases hlog : s.log with
  | nil =>
      cases hsent : s.sent with
      | nil => rfl
      | cons u sent =>
          have hu := h.sent u (hsent ▸ List.mem_cons_self)
          rw [hlog] at hu
          cases hu
  | cons a older =>
      obtain ⟨u, hu, hk⟩ := hcovered older.length (by rw [hlog]; exact Nat.lt_succ_self _)
      cases hsent : s.sent with
      | nil =>
          rw [hsent] at hu
          cases hu
      | cons v sent =>
          -- the last one sent has the highest place there is
          have hv := h.sent v (hsent ▸ List.mem_cons_self)
          have hlt := nth_lt hv
          rw [InOrder, hsent, List.pairwise_cons] at horder
          rw [hsent] at hu
          have hplace : v.1 = older.length := by
            rw [hlog, List.length_cons] at hlt
            rcases List.mem_cons.mp hu with rfl | hu
            · exact hk
            · have hgt := horder.1 u hu
              omega
          rw [hlog, hplace, nth_cons_self] at hv
          exact hv.symm

end State

end Publish
