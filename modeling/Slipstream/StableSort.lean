import Mathlib.Data.List.Infix
import Mathlib.Data.List.Sort

/-!
# What a stable sort puts first

A stable sort is described without running it: an element comes out ahead
of another one exactly if the order puts it first, or leaves the two
alike and it was ahead in the input (`pairwise_ahead`). For a list
without duplicates this gives the position of each element, and so what
is left of the sorted list when it is cut after `k` elements: the
elements that fewer than `k` others are ahead of (`mem_take_iff`).
-/

namespace StableSort

variable {α : Type*}

/-! ## Pairs of a list without duplicates -/

theorem pair_sublist_cons_iff {a b c : α} {l : List α} :
    [a, b].Sublist (c :: l) ↔ [a, b].Sublist l ∨ a = c ∧ b ∈ l := by
  rw [List.sublist_cons_iff]
  constructor
  · rintro (h | ⟨r, hr, hsub⟩)
    · exact .inl h
    · obtain ⟨rfl, rfl⟩ := List.cons.inj hr
      exact .inr ⟨rfl, List.singleton_sublist.mp hsub⟩
  · rintro (h | ⟨rfl, hb⟩)
    · exact .inl h
    · exact .inr ⟨[b], rfl, List.singleton_sublist.mpr hb⟩

variable [DecidableEq α]

theorem pair_sublist_iff_idxOf_lt {l : List α} (hl : l.Nodup) {a b : α} :
    [a, b].Sublist l ↔ b ∈ l ∧ l.idxOf a < l.idxOf b := by
  induction l with
  | nil => simp
  | cons c l ih =>
      obtain ⟨hc, hl⟩ := List.nodup_cons.mp hl
      rw [pair_sublist_cons_iff, ih hl]
      by_cases hb : b = c
      -- nothing is before the head
      · subst hb
        have hnot : b ∉ l := hc
        simp [hnot]
      · by_cases ha : a = c
        · subst ha
          have hzero : (a :: l).idxOf a = 0 := List.idxOf_cons_self
          have hpos : 0 < (a :: l).idxOf b := by
            rw [List.idxOf_cons_ne _ (Ne.symm hb)]
            exact Nat.succ_pos _
          simp only [hzero, hpos, and_true, true_and, List.mem_cons, hb, false_or]
          exact ⟨fun h => h.elim And.left id, .inr⟩
        · rw [List.idxOf_cons_ne _ (Ne.symm ha), List.idxOf_cons_ne _ (Ne.symm hb)]
          simp [ha, hb]

/-! ## The order of the sorted list -/

variable (r : α → α → Prop)

/-- Sorting the list puts `b` before `a`. -/
def Ahead (l : List α) (b a : α) : Prop :=
  r b a ∧ (r a b → l.idxOf b < l.idxOf a)

instance [DecidableRel r] (l : List α) : DecidableRel (Ahead r l) :=
  fun b a => inferInstanceAs (Decidable (r b a ∧ (r a b → l.idxOf b < l.idxOf a)))

variable {r}

theorem Ahead.asymm {l : List α} {a b : α} (h : Ahead r l b a) : ¬ Ahead r l a b := by
  intro h'
  have hba := h.2 h'.1
  have hab := h'.2 h.1
  exact Nat.lt_asymm hba hab

variable [DecidableRel r] [Std.Total r] [IsTrans α r]

/-- Each element of the sorted list is ahead of those that follow. -/
theorem pairwise_ahead {l : List α} (hl : l.Nodup) :
    (l.insertionSort r).Pairwise (Ahead r l) := by
  have hsorted := List.pairwise_insertionSort r l
  have hnodup : (l.insertionSort r).Nodup := (List.perm_insertionSort r l).nodup_iff.mpr hl
  rw [List.pairwise_iff_forall_sublist]
  intro b a hpair
  refine ⟨List.pairwise_iff_forall_sublist.mp hsorted hpair, fun hab => ?_⟩
  obtain ⟨-, hlt⟩ := (pair_sublist_iff_idxOf_lt hnodup).mp hpair
  have hb : b ∈ l := (List.mem_insertionSort r).mp (hpair.subset List.mem_cons_self)
  -- were `a` ahead in the input, it would have stayed so
  by_contra hle
  have hne : l.idxOf a ≠ l.idxOf b := by
    intro heq
    rw [(List.idxOf_inj hb).mp heq.symm] at hlt
    exact Nat.lt_irrefl _ hlt
  have hin : [a, b].Sublist l :=
    (pair_sublist_iff_idxOf_lt hl).mpr ⟨hb, by omega⟩
  obtain ⟨-, hgt⟩ :=
    (pair_sublist_iff_idxOf_lt hnodup).mp (List.pair_sublist_insertionSort hab hin)
  exact Nat.lt_asymm hlt hgt

/-- As many elements precede one in the sorted list as are ahead of it. -/
theorem countP_ahead {l pre post : List α} {a : α} (hl : l.Nodup)
    (h : l.insertionSort r = pre ++ a :: post) :
    l.countP (fun b => decide (Ahead r l b a)) = pre.length := by
  have hpairs := pairwise_ahead (r := r) hl
  rw [h, List.pairwise_append, List.pairwise_cons] at hpairs
  obtain ⟨-, ⟨hpost, -⟩, hpre⟩ := hpairs
  rw [← (List.perm_insertionSort r l).countP_eq, h, List.countP_append, List.countP_cons]
  have hbefore : pre.countP (fun b => decide (Ahead r l b a)) = pre.length :=
    List.countP_eq_length.mpr fun b hb => decide_eq_true (hpre b hb a List.mem_cons_self)
  have hafter : post.countP (fun b => decide (Ahead r l b a)) = 0 :=
    List.countP_eq_zero.mpr fun b hb hahead =>
      (hpost b hb).asymm (of_decide_eq_true hahead)
  have hself : ¬ Ahead r l a a := fun hahead => hahead.asymm hahead
  rw [hbefore, hafter, if_neg (by rwa [decide_eq_true_eq]), Nat.add_zero]

/-- The sorted list cut after `k` elements holds those that fewer than `k`
are ahead of. -/
theorem mem_take_iff {l : List α} (hl : l.Nodup) {k : Nat} {a : α} :
    a ∈ (l.insertionSort r).take k
      ↔ a ∈ l ∧ l.countP (fun b => decide (Ahead r l b a)) < k := by
  by_cases ha : a ∈ l
  · obtain ⟨pre, post, hsplit⟩ := List.append_of_mem ((List.mem_insertionSort r).mpr ha)
    have hnodup : (pre ++ a :: post).Nodup :=
      hsplit ▸ (List.perm_insertionSort r l).nodup_iff.mpr hl
    have hpre : a ∉ pre := fun hmem =>
      (List.nodup_append.mp hnodup).2.2 a hmem a List.mem_cons_self rfl
    rw [countP_ahead hl hsplit, hsplit, List.take_append]
    constructor
    · intro hmem
      refine ⟨ha, ?_⟩
      by_contra hlt
      have hnil : (a :: post).take (k - pre.length) = [] := by
        rw [Nat.sub_eq_zero_of_le (Nat.le_of_not_lt hlt), List.take_zero]
      rw [hnil, List.append_nil] at hmem
      exact hpre (List.mem_of_mem_take hmem)
    · rintro ⟨-, hlt⟩
      obtain ⟨n, hn⟩ := Nat.exists_eq_succ_of_ne_zero (Nat.sub_ne_zero_of_lt hlt)
      rw [hn, List.take_succ_cons]
      exact List.mem_append_right _ List.mem_cons_self
  · refine iff_of_false (fun hmem => ha ?_) fun h => ha h.1
    exact (List.mem_insertionSort r).mp (List.mem_of_mem_take hmem)

end StableSort
