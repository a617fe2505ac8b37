import Mathlib.Data.List.TakeWhile
import Slipstream.Hex
import Slipstream.Utf8

/-!
# Form-encoded queries

`application/x-www-form-urlencoded`: pairs of a name and a value, joined
by `&`, with `=` between the two. In a name or a value a `+` is a blank
and a percent sign with two digits is a byte; the bytes are read as
UTF-8.

`serialize` writes what `parse` reads (`parse_serialize`). A text that is
not encoded at all may still be read as it was meant: `decode_eq_iff`
says which texts decode to themselves. That no others do is a matter of
length, as decoding never makes a text longer (`length_decode_le`).
-/

namespace FormUrl

open Utf8

/-! ## Decoding -/

def pieces : List Char → List Piece
  | [] => []
  | '%' :: h :: l :: cs =>
      match Hex.digit h, Hex.digit l with
      | some x, some y => .byte (UInt8.ofNat (16 * x + y)) :: pieces cs
      | _, _ => .char '%' :: pieces (h :: l :: cs)
  | '+' :: cs => .char ' ' :: pieces cs
  | c :: cs => .char c :: pieces cs

/-- The text that a name or a value stands for. -/
def decode (cs : List Char) : String := text (pieces cs)

/-- The name up to the first `=`, and the value behind it. -/
def field (cs : List Char) : String × String :=
  (decode (cs.takeWhile (· ≠ '=')), decode ((cs.dropWhile (· ≠ '=')).drop 1))

/-- The pairs of a query; nothing is no pair. -/
def parse (query : List Char) : List (String × String) :=
  ((query.splitOn '&').filter (· ≠ [])).map field

/-! ## Texts that decode to themselves -/

/-- A percent sign with two digits. -/
def HasEscape (cs : List Char) : Prop :=
  ∃ h l, ['%', h, l] <:+: cs ∧ (Hex.digit h).isSome ∧ (Hex.digit l).isSome

/-- Nothing in the text has a meaning of its own inside of a field. -/
structure Literal (cs : List Char) : Prop where
  plus : '+' ∉ cs
  escape : ¬ HasEscape cs

theorem pieces_of_ne {c : Char} (h : c ≠ '%') (cs : List Char) :
    pieces (c :: cs) = .char (if c = '+' then ' ' else c) :: pieces cs := by
  by_cases hplus : c = '+'
  · subst hplus
    rfl
  · rw [if_neg hplus, pieces]
    · rintro a b rest rfl
      exact absurd rfl h
    · exact hplus

theorem pieces_percent_of_not {cs : List Char}
    (h : ∀ a b rest, cs = a :: b :: rest → (Hex.digit a).isSome → ¬ (Hex.digit b).isSome) :
    pieces ('%' :: cs) = .char '%' :: pieces cs := by
  match cs with
  | [] => rfl
  | [_] => rfl
  | a :: b :: rest =>
      rw [pieces]
      split
      · rename_i x y ha hb
        exact absurd (Option.isSome_iff_exists.mpr ⟨y, hb⟩)
          (h a b rest rfl (Option.isSome_iff_exists.mpr ⟨x, ha⟩))
      · rfl

theorem length_pieces_le (cs : List Char) : (pieces cs).length ≤ cs.length := by
  fun_induction pieces cs with
  | case1 => exact Nat.le_refl 0
  | case2 h l cs x y _ _ ih => simp only [List.length_cons]; omega
  | case3 h l cs _ ih => simpa using ih
  | case4 cs ih => simpa using ih
  | case5 c cs _ _ ih => simpa using ih

/-- Decoding makes no text longer. -/
theorem length_decode_le (cs : List Char) : (decode cs).toList.length ≤ cs.length :=
  Nat.le_trans (length_text_le _) (length_pieces_le cs)

theorem hasEscape_cons {c : Char} {cs : List Char} :
    HasEscape (c :: cs)
      ↔ (∃ h l rest, c = '%' ∧ cs = h :: l :: rest ∧ (Hex.digit h).isSome
        ∧ (Hex.digit l).isSome) ∨ HasEscape cs := by
  constructor
  · rintro ⟨h, l, hsub, hh, hl⟩
    rcases List.infix_cons_iff.mp hsub with ⟨rest, hrest⟩ | hsub
    · obtain ⟨rfl, rfl⟩ := List.cons.inj hrest
      exact .inl ⟨h, l, rest, rfl, rfl, hh, hl⟩
    · exact .inr ⟨h, l, hsub, hh, hl⟩
  · rintro (⟨h, l, rest, rfl, rfl, hh, hl⟩ | ⟨h, l, hsub, hh, hl⟩)
    · exact ⟨h, l, ⟨[], rest, rfl⟩, hh, hl⟩
    · exact ⟨h, l, List.infix_cons hsub, hh, hl⟩

theorem literal_cons {c : Char} {cs : List Char} :
    Literal (c :: cs)
      ↔ c ≠ '+' ∧ (c = '%' → ∀ h l rest, cs = h :: l :: rest →
        (Hex.digit h).isSome → ¬ (Hex.digit l).isSome) ∧ Literal cs := by
  constructor
  · rintro ⟨hplus, hesc⟩
    rw [List.mem_cons, not_or] at hplus
    rw [hasEscape_cons, not_or] at hesc
    refine ⟨fun h => hplus.1 h.symm, ?_, hplus.2, hesc.2⟩
    rintro rfl h l rest rfl hh hl
    exact hesc.1 ⟨h, l, rest, rfl, rfl, hh, hl⟩
  · rintro ⟨hc, hpct, hplus, hesc⟩
    refine ⟨by simp [hplus, Ne.symm hc], ?_⟩
    rw [hasEscape_cons]
    rintro (⟨h, l, rest, rfl, rfl, hh, hl⟩ | hcs)
    · exact hpct rfl h l rest rfl hh hl
    · exact hesc hcs

theorem pieces_of_literal {cs : List Char} (h : Literal cs) : pieces cs = cs.map .char := by
  fun_induction pieces cs with
  | case1 => rfl
  | case2 a b cs x y hy hx _ =>
      exact absurd (Option.isSome_iff_exists.mpr ⟨y, hy⟩)
        ((literal_cons.mp h).2.1 rfl a b cs rfl (Option.isSome_iff_exists.mpr ⟨x, hx⟩))
  | case3 a b cs _ ih =>
      rw [ih (literal_cons.mp h).2.2]
      rfl
  | case4 cs _ => exact absurd rfl (literal_cons.mp h).1
  | case5 c cs _ _ ih => rw [ih (literal_cons.mp h).2.2, List.map_cons]

theorem literal_of_decode {cs : List Char} (h : (decode cs).toList = cs) : Literal cs := by
  unfold decode at h
  fun_induction pieces cs with
  | case1 => exact ⟨List.not_mem_nil, by rintro ⟨a, b, hsub, -⟩; simp at hsub⟩
  | case2 a b cs x y hx hy _ =>
      -- three characters for one byte, which nothing makes up for
      have hlen := length_text_le (.byte (UInt8.ofNat (16 * x + y)) :: pieces cs)
      have hcs := length_pieces_le cs
      rw [h] at hlen
      simp only [List.length_cons] at hlen
      omega
  | case3 a b cs hdigit ih =>
      rw [toList_text_char] at h
      refine literal_cons.mpr ⟨by decide, fun _ => ?_, ih (List.cons.inj h).2⟩
      rintro a' b' rest heq ha hb
      obtain ⟨rfl, hbs⟩ := List.cons.inj heq
      obtain ⟨rfl, rfl⟩ := List.cons.inj hbs
      obtain ⟨x, hx⟩ := Option.isSome_iff_exists.mp ha
      obtain ⟨y, hy⟩ := Option.isSome_iff_exists.mp hb
      exact hdigit x y hx hy
  | case4 cs _ =>
      rw [toList_text_char] at h
      exact absurd (List.cons.inj h).1 (by decide)
  | case5 c cs hpct hplus ih =>
      rw [toList_text_char] at h
      refine literal_cons.mpr ⟨hplus, ?_, ih (List.cons.inj h).2⟩
      rintro rfl a b rest rfl _ _
      exact hpct a b rest rfl rfl

theorem decode_eq_iff {cs : List Char} : decode cs = String.ofList cs ↔ Literal cs := by
  constructor
  · intro h
    exact literal_of_decode (by rw [h, String.toList_ofList])
  · intro h
    rw [decode, pieces_of_literal h, ← toList_text_chars cs, String.ofList_toList,
      toList_text_chars]

/-! ## Fields and separators -/

section Separators

variable {sep : Char} {cs : List Char}

theorem forall_ne_of_not_mem (h : sep ∉ cs) : ∀ c ∈ cs, decide (c ≠ sep) = true := by
  intro c hc
  rw [decide_eq_true_eq]
  rintro rfl
  exact h hc

theorem takeWhile_ne_append (h : sep ∉ cs) (rest : List Char) :
    (cs ++ sep :: rest).takeWhile (· ≠ sep) = cs := by
  rw [List.takeWhile_append_of_pos (forall_ne_of_not_mem h)]
  simp

theorem dropWhile_ne_append (h : sep ∉ cs) (rest : List Char) :
    (cs ++ sep :: rest).dropWhile (· ≠ sep) = sep :: rest := by
  rw [List.dropWhile_append_of_pos (forall_ne_of_not_mem h)]
  simp

theorem takeWhile_ne_self (h : sep ∉ cs) : cs.takeWhile (· ≠ sep) = cs :=
  List.takeWhile_eq_self_iff.mpr (forall_ne_of_not_mem h)

theorem dropWhile_ne_self (h : sep ∉ cs) : cs.dropWhile (· ≠ sep) = [] :=
  List.dropWhile_eq_nil_iff.mpr (forall_ne_of_not_mem h)

end Separators

theorem field_append_cons {name : List Char} (h : '=' ∉ name) (value : List Char) :
    field (name ++ '=' :: value) = (decode name, decode value) := by
  rw [field, takeWhile_ne_append h, dropWhile_ne_append h, List.drop_succ_cons, List.drop_zero]

/-- Up to the first separator, a query is a field; `parse` goes on behind
it. -/
theorem parse_field_append {name : List Char} (hamp : '&' ∉ name) (heq : '=' ∉ name)
    (cs : List Char) :
    parse (name ++ '=' :: cs)
      = (decode name, decode (cs.takeWhile (· ≠ '&')))
        :: parse ((cs.dropWhile (· ≠ '&')).drop 1) := by
  by_cases hmem : '&' ∈ cs
  · obtain ⟨value, rest, rfl, hvalue⟩ := List.eq_append_cons_of_mem hmem
    have hfield : '&' ∉ name ++ '=' :: value := by simp [hamp, hvalue]
    rw [takeWhile_ne_append hvalue, dropWhile_ne_append hvalue, ← field_append_cons heq,
      ← List.cons_append, ← List.append_assoc, parse,
      List.splitOn_append_cons_self_of_not_mem hfield]
    simp [parse]
  · have hfield : '&' ∉ name ++ '=' :: cs := by simp [hamp, hmem]
    rw [takeWhile_ne_self hmem, dropWhile_ne_self hmem, ← field_append_cons heq, parse,
      List.splitOn_eq_singleton hfield]
    simp [parse]

/-! ## Encoding -/

/-- A percent sign and the two digits of the byte, in upper case. -/
def percent (b : UInt8) : List Char :=
  ['%', (Nat.digitChar (b.toNat / 16)).toUpper, (Nat.digitChar (b.toNat % 16)).toUpper]

def unreserved (c : Char) : Bool := c.isAlphanum || ['*', '-', '.', '_'].contains c

def encodeChar (c : Char) : List Char :=
  if c = ' ' then ['+']
  else if unreserved c then [c]
  else (String.utf8EncodeChar c).flatMap percent

def encode (s : String) : List Char := s.toList.flatMap encodeChar

def serialize (ps : List (String × String)) : List Char :=
  ['&'].intercalate (ps.map fun (name, value) => encode name ++ '=' :: encode value)

theorem digit_toUpper_digitChar {n : Nat} (h : n < 16) :
    Hex.digit (Nat.digitChar n).toUpper = some n := by
  have hall : ∀ n, n < 16 → Hex.digit (Nat.digitChar n).toUpper = some n := by decide
  exact hall n h

theorem pieces_percent (b : UInt8) (cs : List Char) :
    pieces (percent b ++ cs) = .byte b :: pieces cs := by
  have hb := b.toNat_lt
  have hbyte : UInt8.ofNat (16 * (b.toNat / 16) + b.toNat % 16) = b := by
    rw [Nat.div_add_mod, UInt8.ofNat_toNat]
  simp only [percent, List.cons_append, List.nil_append, pieces]
  rw [digit_toUpper_digitChar (by omega), digit_toUpper_digitChar (by omega)]
  dsimp only
  rw [hbyte]

theorem bytes_pieces_percents (bs : List UInt8) (cs : List Char) :
    (pieces (bs.flatMap percent ++ cs)).flatMap Piece.bytes
      = bs ++ (pieces cs).flatMap Piece.bytes := by
  induction bs with
  | nil => rfl
  | cons b bs ih =>
      rw [List.flatMap_cons, List.append_assoc, pieces_percent, List.flatMap_cons, ih]
      rfl

theorem bytes_pieces_encodeChar (c : Char) (cs : List Char) :
    (pieces (encodeChar c ++ cs)).flatMap Piece.bytes
      = String.utf8EncodeChar c ++ (pieces cs).flatMap Piece.bytes := by
  unfold encodeChar
  split_ifs with hblank hraw
  · subst hblank
    rfl
  · have hplus : c ≠ '+' := by
      rintro rfl
      exact absurd hraw (by decide)
    have hpct : c ≠ '%' := by
      rintro rfl
      exact absurd hraw (by decide)
    rw [List.singleton_append, pieces_of_ne hpct, if_neg hplus]
    rfl
  · exact bytes_pieces_percents _ cs

theorem decode_encode (s : String) : decode (encode s) = s := by
  have hbytes : ∀ cs : List Char, (pieces (cs.flatMap encodeChar)).flatMap Piece.bytes
      = cs.flatMap String.utf8EncodeChar := by
    intro cs
    induction cs with
    | nil => rfl
    | cons c cs ih => rw [List.flatMap_cons, bytes_pieces_encodeChar, ih, List.flatMap_cons]
  rw [decode, text, encode, hbytes]
  exact fromUtf8Lossy_bytes s

theorem not_separator_of_mem_percents {bs : List UInt8} {c : Char}
    (h : c ∈ bs.flatMap percent) : c ≠ '&' ∧ c ≠ '=' := by
  have hdigit : ∀ n, n < 16 → (Nat.digitChar n).toUpper ≠ '&'
      ∧ (Nat.digitChar n).toUpper ≠ '=' := by decide
  obtain ⟨b, -, hb⟩ := List.mem_flatMap.mp h
  have hlt := b.toNat_lt
  simp only [percent, List.mem_cons, List.not_mem_nil, or_false] at hb
  rcases hb with rfl | rfl | rfl
  · decide
  · exact hdigit _ (by omega)
  · exact hdigit _ (by omega)

/-- What is written for a character separates nothing. -/
theorem not_separator_of_mem_encode {s : String} {c : Char} (h : c ∈ encode s) :
    c ≠ '&' ∧ c ≠ '=' := by
  obtain ⟨d, -, hc⟩ := List.mem_flatMap.mp h
  unfold encodeChar at hc
  split_ifs at hc with hblank hraw
  · rw [List.mem_singleton] at hc
    subst hc
    decide
  · rw [List.mem_singleton] at hc
    subst hc
    constructor <;>
    · rintro rfl
      exact absurd hraw (by decide)
  · exact not_separator_of_mem_percents hc

/-- What is serialized is parsed to the same pairs, whatever they are. -/
theorem parse_serialize (ps : List (String × String)) : parse (serialize ps) = ps := by
  have hamp : ∀ s : String, '&' ∉ encode s := fun s h => (not_separator_of_mem_encode h).1 rfl
  have heq : ∀ s : String, '=' ∉ encode s := fun s h => (not_separator_of_mem_encode h).2 rfl
  induction ps with
  | nil => rfl
  | cons p ps ih =>
      obtain ⟨name, value⟩ := p
      cases ps with
      | nil =>
          rw [serialize, List.map_singleton, List.intercalate_singleton,
            parse_field_append (hamp name) (heq name), takeWhile_ne_self (hamp value),
            dropWhile_ne_self (hamp value), decode_encode, decode_encode]
          rfl
      | cons q qs =>
          have hserialize : serialize ((name, value) :: q :: qs)
              = encode name ++ '=' :: (encode value ++ '&' :: serialize (q :: qs)) := by
            simp [serialize, List.intercalate]
          rw [hserialize, parse_field_append (hamp name) (heq name),
            takeWhile_ne_append (hamp value), dropWhile_ne_append (hamp value), decode_encode,
            decode_encode, List.drop_succ_cons, List.drop_zero, ih]

end FormUrl
