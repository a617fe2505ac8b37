import Mathlib.Data.List.Sort

/-!
# The upper median

The element half way into the sorted list, of two the upper one. Whether
it is on one side of a cut is a matter of counting the elements on that
side (`upper_up_iff`, `upper_down_iff`). It cannot leave the range of a
strict majority of the elements, whatever the others are
(`exists_of_majority`).
-/

namespace Median

variable {α : Type*} (r : α → α → Prop) [DecidableRel r]

/-- `None` only for the empty list. -/
def upper (l : List α) : Option α :=
  (l.insertionSort r)[l.length / 2]?

variable {r}

theorem upper_isSome {l : List α} (hl : l ≠ []) : ∃ m, upper r l = some m := by
  have hpos : 0 < l.length := List.length_pos_of_ne_nil hl
  have hlt : l.length / 2 < (l.insertionSort r).length := by
    rw [List.length_insertionSort]
    exact Nat.div_lt_self hpos (by decide)
  exact ⟨_, List.getElem?_eq_getElem hlt⟩

/-- The list in order, split at the median. -/
theorem upper_split {l : List α} {m : α} (h : upper r l = some m) :
    ∃ pre post, l.insertionSort r = pre ++ m :: post ∧ pre.length = l.length / 2
      ∧ pre.length + post.length + 1 = l.length := by
  obtain ⟨hlt, hm⟩ := List.getElem?_eq_some_iff.mp h
  have hsplit : l.insertionSort r
      = (l.insertionSort r).take (l.length / 2)
        ++ m :: (l.insertionSort r).drop (l.length / 2 + 1) := by
    rw [← hm, ← List.drop_eq_getElem_cons hlt, List.take_append_drop]
  have hpre : ((l.insertionSort r).take (l.length / 2)).length = l.length / 2 :=
    List.length_take_of_le (Nat.le_of_lt hlt)
  refine ⟨_, _, hsplit, hpre, ?_⟩
  have hlen := congrArg List.length hsplit
  rw [List.length_insertionSort, List.length_append, List.length_cons] at hlen
  omega

/-- The median splits the list into entries that are at most the median
and entries that are at least the median. -/
theorem upper_sorted [Std.Total r] [IsTrans α r] {l : List α} {m : α} (h : upper r l = some m) :
    ∃ pre post : List α, (∀ a ∈ pre, r a m) ∧ (∀ b ∈ post, r m b) ∧ pre.length = l.length / 2
      ∧ pre.length + post.length + 1 = l.length
      ∧ ∀ p : α → Bool,
        l.countP p = pre.countP p + (post.countP p + if p m = true then 1 else 0) := by
  obtain ⟨pre, post, hsplit, hpre, hlen⟩ := upper_split h
  have hsorted := List.pairwise_insertionSort r l
  rw [hsplit, List.pairwise_append, List.pairwise_cons] at hsorted
  obtain ⟨-, ⟨hpost, -⟩, hbefore⟩ := hsorted
  refine ⟨pre, post, fun a ha => hbefore a ha m List.mem_cons_self, hpost, hpre, hlen,
    fun p => ?_⟩
  rw [← (List.perm_insertionSort r l).countP_eq, hsplit, List.countP_append, List.countP_cons]

section Counting

variable [Std.Total r] [IsTrans α r] {l : List α} {m : α} {p : α → Bool}

/-- What is closed upwards holds of the median exactly if it holds of the
upper half. -/
theorem upper_up_iff (h : upper r l = some m) (hup : ∀ a b, r a b → p a = true → p b = true) :
    p m = true ↔ l.length ≤ l.length / 2 + l.countP p := by
  obtain ⟨pre, post, hbefore, hpost, hpre, hlen, hcountP⟩ := upper_sorted h
  rw [hcountP]
  constructor
  · intro hm
    have hall : post.countP p = post.length :=
      List.countP_eq_length.mpr fun b hb => hup m b (hpost b hb) hm
    rw [if_pos hm]
    omega
  · intro hcount
    by_contra hm
    -- then nothing before the median has the property
    have hnone : pre.countP p = 0 :=
      List.countP_eq_zero.mpr fun a ha hpa => hm (hup a m (hbefore a ha) hpa)
    have hle : post.countP p ≤ post.length := List.countP_le_length
    rw [if_neg hm] at hcount
    omega

/-- What is closed downwards holds of the median exactly if it holds of
the lower half and one more. -/
theorem upper_down_iff (h : upper r l = some m)
    (hdown : ∀ a b, r a b → p b = true → p a = true) :
    p m = true ↔ l.length / 2 < l.countP p := by
  obtain ⟨pre, post, hbefore, hpost, hpre, hlen, hcountP⟩ := upper_sorted h
  rw [hcountP]
  constructor
  · intro hm
    have hall : pre.countP p = pre.length :=
      List.countP_eq_length.mpr fun a ha => hdown a m (hbefore a ha) hm
    rw [if_pos hm]
    omega
  · intro hcount
    by_contra hm
    have hnone : post.countP p = 0 :=
      List.countP_eq_zero.mpr fun b hb hpb => hm (hdown m b (hpost b hb) hpb)
    have hle : pre.countP p ≤ pre.length := List.countP_le_length
    rw [if_neg hm] at hcount
    omega

end Counting

/-- Of a strict majority some element is at most the median and some
element is at least the median. -/
theorem exists_of_majority [Std.Total r] [IsTrans α r] {β : Type*} {f : β → α} {l : List β}
    {m : α} (h : upper r (l.map f) = some m) {p : β → Bool}
    (hmajority : l.length < 2 * l.countP p) :
    (∃ a ∈ l, p a = true ∧ r (f a) m) ∧ ∃ b ∈ l, p b = true ∧ r m (f b) := by
  classical
  have hrefl : ∀ x : α, r x x := fun x => (Std.Total.total (r := r) x x).elim id id
  have hlen : (l.map f).length = l.length := List.length_map f
  have hcount : ∀ q : α → Bool, (∀ a ∈ l, p a = true → q (f a) = true) →
      l.countP p ≤ (l.map f).countP q := by
    intro q hq
    rw [List.countP_map]
    exact List.countP_mono_left hq
  constructor
  · let above : α → Bool := fun x => decide (∃ a ∈ l, p a = true ∧ r (f a) x)
    have habove := hcount above fun a ha hpa => decide_eq_true ⟨a, ha, hpa, hrefl _⟩
    have hup : ∀ x y, r x y → above x = true → above y = true := by
      intro x y hxy hx
      obtain ⟨a, ha, hpa, hax⟩ := of_decide_eq_true hx
      exact decide_eq_true ⟨a, ha, hpa, IsTrans.trans _ _ _ hax hxy⟩
    exact of_decide_eq_true ((upper_up_iff h hup).mpr (by omega))
  · let below : α → Bool := fun x => decide (∃ b ∈ l, p b = true ∧ r x (f b))
    have hbelow := hcount below fun b hb hpb => decide_eq_true ⟨b, hb, hpb, hrefl _⟩
    have hdown : ∀ x y, r x y → below y = true → below x = true := by
      intro x y hxy hy
      obtain ⟨b, hb, hpb, hyb⟩ := of_decide_eq_true hy
      exact decide_eq_true ⟨b, hb, hpb, IsTrans.trans _ _ _ hxy hyb⟩
    exact of_decide_eq_true ((upper_down_iff h hdown).mpr (by omega))

end Median
