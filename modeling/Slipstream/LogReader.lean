import Mathlib.Data.List.Nodup

/-!
# Reading a log by a cursor

A reader of an append-only log asks for the entry after the last one it
has, which it names by a key. `After key log m e` is what it asks for,
`after` computes it, and `Follows` relates what has been read to the
cursor: it is a contiguous part of the log that ends at the entry the
cursor names. Where the keys are distinct, the entry after the cursor
extends what has been read (`Follows.extend`); the log may grow between
the question and the answer (`Follows.grow`, `After.grow`).

Nothing here depends on what the entries and keys are.
-/

namespace LogReader

variable {α ι : Type*} (key : α → ι)

/-- The entry that comes directly after one with the key. -/
def after [DecidableEq ι] (m : ι) : List α → Option α
  | [] => none
  | e :: es => if key e = m then es.head? else after m es

/-- `e` comes directly after an entry with the key. -/
def After (log : List α) (m : ι) (e : α) : Prop :=
  ∃ xs d ys, log = xs ++ d :: e :: ys ∧ key d = m

/-- `read` is a contiguous part of the log, and the cursor is the key of
its last entry. -/
structure Follows (log read : List α) (cursor : Option ι) : Prop where
  contiguous : read <:+: log
  cursor_eq : cursor = read.getLast?.map key

variable {key} {log read : List α}

theorem after_of_eq_some [DecidableEq ι] {m : ι} {e : α} (h : after key m log = some e) :
    After key log m e := by
  induction log with
  | nil => cases h
  | cons d es ih =>
      rw [after] at h
      split at h
      · rename_i hd
        obtain ⟨ys, rfl⟩ := List.head?_eq_some_iff.mp h
        exact ⟨[], d, ys, rfl, hd⟩
      · obtain ⟨xs, d', ys, rfl, hd'⟩ := ih h
        exact ⟨d :: xs, d', ys, rfl, hd'⟩

theorem After.grow {m : ι} {e : α} (h : After key log m e) (more : List α) :
    After key (log ++ more) m e := by
  obtain ⟨xs, d, ys, rfl, hd⟩ := h
  exact ⟨xs, d, ys ++ more, by simp, hd⟩

theorem After.mem {m : ι} {e : α} (h : After key log m e) : e ∈ log := by
  obtain ⟨xs, d, ys, rfl, -⟩ := h
  simp

/-- What follows an entry is determined by its key. -/
theorem rest_unique (hdistinct : (log.map key).Nodup) {xs ys xs' ys' : List α} {d d' : α}
    (h : log = xs ++ d :: ys) (h' : log = xs' ++ d' :: ys') (hkey : key d = key d') :
    ys = ys' := by
  have hd : d = d' :=
    List.inj_on_of_nodup_map hdistinct (by simp [h]) (by simp [h']) hkey
  subst hd
  have hnotMem : d ∉ xs ++ ys :=
    (List.nodup_cons.mp (List.nodup_middle.mp (h ▸ hdistinct.of_map key))).1
  rw [List.mem_append, not_or] at hnotMem
  have hsame := (List.append_cons_inj_of_notMem hnotMem.1 hnotMem.2).mp (h.symm.trans h')
  exact hsame.2.2

namespace Follows

theorem nil : Follows key log [] none := ⟨List.nil_infix, rfl⟩

theorem grow {cursor : Option ι} (h : Follows key log read cursor) (more : List α) :
    Follows key (log ++ more) read cursor :=
  ⟨h.contiguous.trans (List.infix_append' [] log more), h.cursor_eq⟩

/-- Without a cursor nothing has been read, and any entry may come first. -/
theorem start {e : α} (h : Follows key log read none) (he : e ∈ log) :
    Follows key log (read ++ [e]) (some (key e)) := by
  have hread : read = [] := by
    have hlast := h.cursor_eq
    cases hget : read.getLast? with
    | none => exact List.getLast?_eq_none_iff.mp hget
    | some d => rw [hget] at hlast; cases hlast
  subst hread
  obtain ⟨xs, ys, rfl⟩ := List.mem_iff_append.mp he
  exact ⟨⟨xs, ys, by simp⟩, rfl⟩

/-- The entry after the cursor extends what has been read. -/
theorem extend (hdistinct : (log.map key).Nodup) {m : ι} {e : α}
    (h : Follows key log read (some m)) (he : After key log m e) :
    Follows key log (read ++ [e]) (some (key e)) := by
  obtain ⟨d, hlast, hd⟩ := Option.map_eq_some_iff.mp h.cursor_eq.symm
  obtain ⟨front, rfl⟩ := List.getLast?_eq_some_iff.mp hlast
  obtain ⟨xs, ys, hlog⟩ := h.contiguous
  obtain ⟨xs', d', ys', hlog', hd'⟩ := he
  have hsplit : log = (xs ++ front) ++ d :: ys := by simp [← hlog]
  have hys := rest_unique hdistinct hsplit hlog' (hd.trans hd'.symm)
  refine ⟨⟨xs, ys', ?_⟩, by simp⟩
  simp [hsplit, hys]

end Follows

end LogReader
