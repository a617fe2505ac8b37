import Mathlib.Data.List.Flatten

/-!
# Attempts up to the first success

Code that tries one alternative after the other and stops at the first
that works makes a prefix of the attempts it is prepared to make.
`upToFirst ok as` is that prefix: `as` through its first success, all of
it if there is none. What such code does is then described without its
loop: the list of attempts it would make if all failed, cut by
`upToFirst`, with the outcome of the last attempt made as the outcome of
the whole.
-/

namespace Attempts

variable {α β : Type*} (ok : α → Bool)

/-- The list through its first success. -/
def upToFirst : List α → List α
  | [] => []
  | a :: as => if ok a then [a] else a :: upToFirst as

@[simp] theorem upToFirst_nil : upToFirst ok [] = [] := rfl

variable {ok}

theorem upToFirst_cons_ok {a : α} (h : ok a = true) (as : List α) :
    upToFirst ok (a :: as) = [a] := by
  rw [upToFirst, if_pos h]

theorem upToFirst_cons_fail {a : α} (h : ok a = false) (as : List α) :
    upToFirst ok (a :: as) = a :: upToFirst ok as := by
  rw [upToFirst, if_neg (by simp [h])]

/-- With a success in the first part, the second part is not reached. -/
theorem upToFirst_append_of_any {as : List α} (h : as.any ok = true) (bs : List α) :
    upToFirst ok (as ++ bs) = upToFirst ok as := by
  induction as with
  | nil => simp at h
  | cons a as ih =>
      cases ha : ok a with
      | true => rw [List.cons_append, upToFirst_cons_ok ha, upToFirst_cons_ok ha]
      | false =>
          rw [List.cons_append, upToFirst_cons_fail ha, upToFirst_cons_fail ha,
            ih (by simpa [ha] using h)]

/-- Without one, all of it is tried and the second part follows. -/
theorem upToFirst_append_of_not_any {as : List α} (h : as.any ok = false)
    (bs : List α) : upToFirst ok (as ++ bs) = as ++ upToFirst ok bs := by
  induction as with
  | nil => rfl
  | cons a as ih =>
      rw [List.any_cons, Bool.or_eq_false_iff] at h
      rw [List.cons_append, upToFirst_cons_fail h.1, ih h.2, List.cons_append]

theorem upToFirst_of_not_any {as : List α} (h : as.any ok = false) :
    upToFirst ok as = as := by
  have happ := upToFirst_append_of_not_any h []
  simpa using happ

theorem upToFirst_prefix (as : List α) : upToFirst ok as <+: as := by
  induction as with
  | nil => exact List.prefix_refl _
  | cons a as ih =>
      cases ha : ok a with
      | true => exact ⟨as, by rw [upToFirst_cons_ok ha]; rfl⟩
      | false =>
          rw [upToFirst_cons_fail ha]
          exact List.cons_prefix_cons.mpr ⟨rfl, ih⟩

/-- Only the last attempt made can be a success, and it is one as soon as
the list holds one. -/
theorem any_ok_iff_getLast? {as : List α} :
    as.any ok = true ↔ ∃ a, (upToFirst ok as).getLast? = some a ∧ ok a = true := by
  induction as with
  | nil => simp
  | cons a as ih =>
      cases ha : ok a with
      | true => simp [upToFirst_cons_ok ha, ha]
      | false =>
          rw [upToFirst_cons_fail ha, List.any_cons, ha, Bool.false_or, ih]
          cases hu : upToFirst ok as with
          | nil => simp [ha]
          | cons b bs => simp

end Attempts
