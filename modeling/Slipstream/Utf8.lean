import Slipstream.Bytes

/-!
# UTF-8, with lossy decoding

The bytes of a string, and the lossy decoder of `String::from_utf8_lossy`:
well-formed sequences become their characters, and each maximal
ill-formed chunk (a first byte together with the continuation bytes that
could still have completed it) becomes one replacement character. The
decoder never fails; on the bytes of a string it gives the string back
(`fromUtf8Lossy_bytes`), and it makes no text out of nothing
(`fromUtf8Lossy_eq_empty_iff`).

A string cut at a byte is a string only if no character lies across the
cut; `sliceTo` panics otherwise (`sliceTo_of_straddles`).
-/

namespace Utf8

/-- The UTF-8 encoding of a string. -/
def bytes (s : String) : List UInt8 := s.toList.flatMap String.utf8EncodeChar

/-- U+FFFD. -/
def replacement : Char := Char.ofNat 0xFFFD

def isContinuation (b : UInt8) : Bool := decide (0x80 ≤ b ∧ b ≤ 0xBF)

/-- The second bytes a three- or four-byte sequence may go on with. -/
def secondOk (first second : UInt8) : Bool :=
  if first = 0xE0 then decide (0xA0 ≤ second ∧ second ≤ 0xBF)
  else if first = 0xED then decide (0x80 ≤ second ∧ second ≤ 0x9F)
  else if first = 0xF0 then decide (0x90 ≤ second ∧ second ≤ 0xBF)
  else if first = 0xF4 then decide (0x80 ≤ second ∧ second ≤ 0x8F)
  else isContinuation second

/-- Length of the ill-formed chunk at the head of a list that does not
start with a well-formed sequence. -/
def badLength : List UInt8 → Nat
  | [] => 1
  | [_] => 1
  | first :: second :: rest =>
      if 0xE0 ≤ first ∧ first ≤ 0xEF then
        if secondOk first second then 2 else 1
      else if 0xF0 ≤ first ∧ first ≤ 0xF4 then
        if secondOk first second then
          match rest with
          | third :: _ => if isContinuation third then 3 else 2
          | [] => 2
        else 1
      else 1

/-- The decoding loop; every round consumes at least one byte, so the
length of the input is fuel enough. -/
def lossyChars : Nat → List UInt8 → List Char
  | 0, _ => []
  | _ + 1, [] => []
  | fuel + 1, b :: bs =>
      match (b :: bs).toByteArray.utf8DecodeChar? 0 with
      | some c => c :: lossyChars fuel ((b :: bs).drop c.utf8Size)
      | none => replacement :: lossyChars fuel ((b :: bs).drop (badLength (b :: bs)))

def fromUtf8Lossy (l : List UInt8) : String :=
  String.ofList (lossyChars l.length l)

theorem lossyChars_nil (fuel : Nat) : lossyChars fuel [] = [] := by
  cases fuel <;> rfl

/-- A well-formed sequence at the head is one round of the loop. -/
theorem lossyChars_encode (c : Char) (rest : List UInt8) (fuel : Nat) :
    lossyChars (fuel + 1) (String.utf8EncodeChar c ++ rest)
      = c :: lossyChars fuel rest := by
  have hlen : (String.utf8EncodeChar c).length = c.utf8Size :=
    String.length_utf8EncodeChar c
  have hdec : (String.utf8EncodeChar c ++ rest).toByteArray.utf8DecodeChar? 0
      = some c := by
    rw [List.toByteArray_append]
    exact ByteArray.utf8DecodeChar?_utf8EncodeChar_append
  have hdrop : (String.utf8EncodeChar c ++ rest).drop c.utf8Size = rest := by
    rw [← hlen, List.drop_left]
  cases henc : String.utf8EncodeChar c ++ rest with
  | nil =>
      have hpos := c.utf8Size_pos
      rw [List.append_eq_nil_iff] at henc
      rw [henc.1, List.length_nil] at hlen
      omega
  | cons b bs =>
      rw [henc] at hdec hdrop
      simp only [lossyChars, hdec, hdrop]

theorem lossyChars_flatMap (cs : List Char) : ∀ {fuel : Nat},
    cs.length ≤ fuel →
      lossyChars fuel (cs.flatMap String.utf8EncodeChar) = cs := by
  induction cs with
  | nil => intro fuel _; exact lossyChars_nil fuel
  | cons c cs ih =>
      intro fuel hfuel
      obtain ⟨n, rfl⟩ : ∃ n, fuel = n + 1 :=
        ⟨fuel - 1, by rw [List.length_cons] at hfuel; omega⟩
      rw [List.flatMap_cons, lossyChars_encode,
        ih (by rw [List.length_cons] at hfuel; omega)]

theorem length_le_flatMap (cs : List Char) :
    cs.length ≤ (cs.flatMap String.utf8EncodeChar).length := by
  induction cs with
  | nil => simp
  | cons c cs ih =>
      have hlen := String.length_utf8EncodeChar c
      have hpos := c.utf8Size_pos
      rw [List.flatMap_cons, List.length_append, List.length_cons]
      omega

/-- Decoding the bytes of a string gives the string back. -/
theorem fromUtf8Lossy_bytes (s : String) : fromUtf8Lossy (bytes s) = s := by
  rw [fromUtf8Lossy, bytes, lossyChars_flatMap _ (length_le_flatMap _),
    String.ofList_toList]

theorem bytes_eq_nil {s : String} (h : bytes s = []) : s = "" := by
  rw [← fromUtf8Lossy_bytes s, h]
  rfl

theorem fromUtf8Lossy_eq_empty_iff {l : List UInt8} : fromUtf8Lossy l = "" ↔ l = [] := by
  constructor
  · intro h
    cases l with
    | nil => rfl
    | cons b bs =>
        have hchars : lossyChars (bs.length + 1) (b :: bs) = [] := by
          rw [← String.toList_ofList (l := lossyChars _ _)]
          exact congrArg String.toList h
        rw [lossyChars] at hchars
        split at hchars
        · cases hchars
        · cases hchars
  · rintro rfl
    rfl

/-! ## Rounds of the loop -/

theorem badLength_pos (bs : List UInt8) : 0 < badLength bs := by
  unfold badLength
  split
  · exact Nat.one_pos
  · exact Nat.one_pos
  · split_ifs <;> first | (split <;> (try split_ifs) <;> decide) | decide

/-- More fuel than bytes makes no difference. -/
theorem lossyChars_congr_fuel : ∀ {fuel fuel' : Nat} {l : List UInt8}, l.length ≤ fuel →
    l.length ≤ fuel' → lossyChars fuel l = lossyChars fuel' l := by
  intro fuel
  induction fuel with
  | zero =>
      intro fuel' l h _
      rw [List.eq_nil_of_length_eq_zero (Nat.le_zero.mp h), lossyChars_nil, lossyChars_nil]
  | succ fuel ih =>
      intro fuel' l h h'
      cases l with
      | nil => rw [lossyChars_nil, lossyChars_nil]
      | cons b bs =>
          cases fuel' with
          | zero => cases h'
          | succ fuel' =>
              have hdrop : ∀ {n : Nat}, 0 < n →
                  lossyChars fuel ((b :: bs).drop n) = lossyChars fuel' ((b :: bs).drop n) := by
                intro n hn
                rw [List.length_cons] at h h'
                refine ih ?_ ?_ <;>
                · rw [List.length_drop, List.length_cons]
                  omega
              rw [lossyChars, lossyChars]
              split
              · rename_i c _
                rw [hdrop c.utf8Size_pos]
              · rw [hdrop (badLength_pos _)]

/-! ## Pieces

Decoding makes at most one character of every character and every stray
byte that the input is put together from: what is decoded at once starts
with one of them, and goes on with stray bytes only. -/

section Pieces

/-- A whole character, or any byte. -/
inductive Piece where
  | char (c : Char)
  | byte (b : UInt8)

def Piece.bytes : Piece → List UInt8
  | .char c => String.utf8EncodeChar c
  | .byte b => [b]

theorem isContinuation_not_first {b : UInt8} (h : isContinuation b = true) :
    ¬ b.IsUTF8FirstByte := by
  have hall : ∀ n : Fin 64, ¬ (UInt8.ofNat (128 + n)).IsUTF8FirstByte := by decide
  obtain ⟨hlo, hhi⟩ := of_decide_eq_true h
  have hlo' : 128 ≤ b.toNat := UInt8.le_iff_toNat_le.mp hlo
  have hhi' : b.toNat ≤ 191 := UInt8.le_iff_toNat_le.mp hhi
  have hb := hall ⟨b.toNat - 128, by omega⟩
  rwa [show 128 + (b.toNat - 128) = b.toNat by omega, UInt8.ofNat_toNat] at hb

theorem secondOk_not_first {first second : UInt8} (h : secondOk first second = true) :
    ¬ second.IsUTF8FirstByte := by
  have hwithin : ∀ {lo hi : UInt8}, 0x80 ≤ lo → hi ≤ 0xBF →
      decide (lo ≤ second ∧ second ≤ hi) = true → isContinuation second = true := by
    intro lo hi hlo hhi hdec
    obtain ⟨h1, h2⟩ := of_decide_eq_true hdec
    exact decide_eq_true ⟨UInt8.le_trans hlo h1, UInt8.le_trans h2 hhi⟩
  refine isContinuation_not_first ?_
  unfold secondOk at h
  split_ifs at h
  · exact hwithin (by decide) (by decide) h
  · exact hwithin (by decide) (by decide) h
  · exact hwithin (by decide) (by decide) h
  · exact hwithin (by decide) (by decide) h
  · exact h

theorem exists_append_of_decode {l : List UInt8} {c : Char}
    (h : l.toByteArray.utf8DecodeChar? 0 = some c) :
    ∃ rest, l = String.utf8EncodeChar c ++ rest := by
  obtain ⟨rest, hrest⟩ := ByteArray.exists_of_utf8DecodeChar?_eq_some h
  have hlist := congrArg (fun b => b.data.toList) hrest
  simp only [List.data_toByteArray, ByteArray.data_append, Array.toList_append] at hlist
  exact ⟨rest.data.toList, by simpa using hlist⟩

/-- The first `n` bytes, as far as there are as many, do not start a
character. -/
def Continues (n : Nat) (bs : List UInt8) : Prop :=
  ∀ i b, i < n → bs[i]? = some b → ¬ b.IsUTF8FirstByte

/-- What is dropped behind a first byte are stray bytes. -/
theorem drop_pieces : ∀ {n : Nat} {ps : List Piece}, Continues n (ps.flatMap Piece.bytes) →
    ∃ qs : List Piece, qs.flatMap Piece.bytes = (ps.flatMap Piece.bytes).drop n
      ∧ qs.length ≤ ps.length := by
  intro n
  induction n with
  | zero => exact fun {ps} _ => ⟨ps, rfl, Nat.le_refl _⟩
  | succ n ih =>
      intro ps h
      cases ps with
      | nil => exact ⟨[], rfl, Nat.le_refl _⟩
      | cons p ps =>
          cases p with
          | char c =>
              have hpos : 0 < (String.utf8EncodeChar c).length := by
                rw [String.length_utf8EncodeChar]
                exact c.utf8Size_pos
              refine absurd (UInt8.isUTF8FirstByte_getElem_utf8EncodeChar.mpr rfl)
                (h 0 (String.utf8EncodeChar c)[0] (Nat.succ_pos n) ?_)
              rw [List.flatMap_cons, Piece.bytes, List.getElem?_append_left hpos,
                List.getElem?_eq_getElem hpos]
          | byte b =>
              obtain ⟨qs, hqs, hlen⟩ := @ih ps fun i x hi hx =>
                h (i + 1) x (Nat.succ_lt_succ hi) hx
              exact ⟨qs, hqs, Nat.le_trans hlen (Nat.le_succ _)⟩

theorem continues_of_decode {b : UInt8} {bs : List UInt8} {c : Char}
    (h : (b :: bs).toByteArray.utf8DecodeChar? 0 = some c) : Continues (c.utf8Size - 1) bs := by
  obtain ⟨rest, hrest⟩ := exists_append_of_decode h
  intro i x hi hx
  have hlt : i + 1 < (String.utf8EncodeChar c).length := by
    rw [String.length_utf8EncodeChar]
    omega
  have hcons : (b :: bs)[i + 1]? = some x := hx
  rw [hrest, List.getElem?_append_left hlt, List.getElem?_eq_getElem hlt] at hcons
  obtain rfl := Option.some.inj hcons
  rw [UInt8.isUTF8FirstByte_getElem_utf8EncodeChar]
  exact Nat.succ_ne_zero i

theorem continues_badLength (b : UInt8) (bs : List UInt8) :
    Continues (badLength (b :: bs) - 1) bs := by
  have hnone : Continues 0 bs := fun i x hi => absurd hi (Nat.not_lt_zero i)
  cases bs with
  | nil => exact fun i x _ hx => by cases hx
  | cons second rest =>
      have hone : secondOk b second = true → Continues 1 (second :: rest) := by
        intro hsecond i x hi hx
        obtain rfl := Nat.lt_one_iff.mp hi
        obtain rfl := Option.some.inj hx
        exact secondOk_not_first hsecond
      simp only [badLength]
      split_ifs with h3 hsecond h4 hsecond
      · exact hone hsecond
      · exact hnone
      · cases rest with
        | nil => exact hone hsecond
        | cons third rest =>
            dsimp only
            split_ifs with hthird
            · intro i x hi hx
              match i, hi with
              | 0, _ => exact hone hsecond 0 x Nat.one_pos hx
              | 1, _ =>
                  obtain rfl := Option.some.inj hx
                  exact isContinuation_not_first hthird
            · exact hone hsecond
      · exact hnone
      · exact hnone

theorem length_lossyChars_le : ∀ {fuel : Nat} {ps : List Piece},
    (lossyChars fuel (ps.flatMap Piece.bytes)).length ≤ ps.length := by
  intro fuel
  induction fuel with
  | zero => exact fun {ps} => Nat.zero_le _
  | succ fuel ih =>
      intro ps
      have hround : ∀ {b : UInt8} {ps : List Piece} {n : Nat},
          Continues n (ps.flatMap Piece.bytes) →
            (lossyChars fuel ((b :: ps.flatMap Piece.bytes).drop (n + 1))).length ≤ ps.length := by
        intro b ps n hn
        obtain ⟨qs, hqs, hlen⟩ := drop_pieces hn
        rw [List.drop_succ_cons, ← hqs]
        exact Nat.le_trans ih hlen
      match ps with
      | [] => exact Nat.le_refl 0
      | .char c :: ps =>
          rw [List.flatMap_cons, Piece.bytes, lossyChars_encode]
          exact Nat.succ_le_succ ih
      | .byte b :: ps =>
          show (lossyChars (fuel + 1) (b :: ps.flatMap Piece.bytes)).length ≤ _
          rw [lossyChars]
          split
          · rename_i c hc
            have hcont := hround (b := b) (continues_of_decode hc)
            rw [Nat.sub_add_cancel c.utf8Size_pos] at hcont
            exact Nat.succ_le_succ hcont
          · have hcont := @hround b ps _ (continues_badLength b _)
            rw [Nat.sub_add_cancel (badLength_pos _)] at hcont
            exact Nat.succ_le_succ hcont

/-- The text of some pieces. -/
def text (ps : List Piece) : String := fromUtf8Lossy (ps.flatMap Piece.bytes)

theorem length_text_le (ps : List Piece) : (text ps).toList.length ≤ ps.length := by
  rw [text, fromUtf8Lossy, String.toList_ofList]
  exact length_lossyChars_le

/-- Characters at the head of the pieces are the head of the text. -/
theorem toList_text_char (c : Char) (ps : List Piece) :
    (text (.char c :: ps)).toList = c :: (text ps).toList := by
  have hpos := c.utf8Size_pos
  have hlen := String.length_utf8EncodeChar c
  simp only [text, fromUtf8Lossy, String.toList_ofList, List.flatMap_cons, Piece.bytes]
  rw [List.length_append, hlen, show c.utf8Size = c.utf8Size - 1 + 1 by omega,
    Nat.add_right_comm, lossyChars_encode]
  exact congrArg (c :: ·) (lossyChars_congr_fuel (Nat.le_add_left ..) (Nat.le_refl _))

theorem toList_text_chars (cs : List Char) : (text (cs.map .char)).toList = cs := by
  induction cs with
  | nil => rfl
  | cons c cs ih => rw [List.map_cons, toList_text_char, ih]

end Pieces

/-! ## Cutting a string at a byte -/

section Cut

/-- The bytes of `&s[..n]`. -/
def sliceTo (s : String) (n : Nat) : Bytes.Checked (List UInt8) :=
  if String.Pos.Raw.isValid s ⟨n⟩ then .ok ((bytes s).take n) else .error .sliceOutOfRange

def encodedLength (cs : List Char) : Nat := (cs.flatMap String.utf8EncodeChar).length

/-- A character of `s` has bytes on both sides of the cut. -/
def Straddles (s : String) (n : Nat) : Prop :=
  ∃ before c after, s.toList = before ++ c :: after
    ∧ encodedLength before < n ∧ n < encodedLength before + c.utf8Size

@[simp] theorem encodedLength_cons (c : Char) (cs : List Char) :
    encodedLength (c :: cs) = c.utf8Size + encodedLength cs := by
  simp [encodedLength]

@[simp] theorem encodedLength_append (cs ds : List Char) :
    encodedLength (cs ++ ds) = encodedLength cs + encodedLength ds := by
  simp [encodedLength]

/-- Wherever a text is cut, it is between two characters or across one. -/
theorem cut_cases {cs : List Char} : ∀ {n : Nat}, n ≤ encodedLength cs →
    (∃ i, n = encodedLength (cs.take i))
      ∨ ∃ before c after, cs = before ++ c :: after
        ∧ encodedLength before < n ∧ n < encodedLength before + c.utf8Size := by
  induction cs with
  | nil => exact fun {n} hn => .inl ⟨0, Nat.le_zero.mp hn⟩
  | cons c cs ih =>
      intro n hn
      rw [encodedLength_cons] at hn
      rcases Nat.eq_zero_or_pos n with rfl | hpos
      · exact .inl ⟨0, rfl⟩
      by_cases hlt : n < c.utf8Size
      · exact .inr ⟨[], c, cs, rfl, hpos, by simpa [encodedLength] using hlt⟩
      · rcases ih (n := n - c.utf8Size) (by omega) with ⟨i, hi⟩ | ⟨before, d, after, hcs, hlo, hhi⟩
        · refine .inl ⟨i + 1, ?_⟩
          rw [List.take_succ_cons, encodedLength_cons]
          omega
        · refine .inr ⟨c :: before, d, after, by rw [hcs]; rfl, ?_, ?_⟩
          · rw [encodedLength_cons]
            omega
          · rw [encodedLength_cons]
            omega

theorem isValid_iff_not_straddles {s : String} {n : Nat} (hn : n ≤ (bytes s).length) :
    String.Pos.Raw.isValid s ⟨n⟩ = true ↔ ¬ Straddles s n := by
  have hlen : ∀ cs : List Char, (String.ofList cs).utf8ByteSize = encodedLength cs := by
    intro cs
    simp [← String.size_toByteArray, List.utf8Encode, encodedLength]
  rw [String.Pos.Raw.isValid_eq_true_iff, String.Pos.Raw.isValid_iff_exists_take_toList]
  simp only [hlen]
  constructor
  · rintro ⟨i, rfl⟩ ⟨before, c, after, hs, hlo, hhi⟩
    rw [hs, List.take_append, encodedLength_append] at hlo hhi
    by_cases hi : i ≤ before.length
    · rw [Nat.sub_eq_zero_of_le hi, List.take_zero] at hlo
      have hsplit := congrArg encodedLength (List.take_append_drop i before)
      rw [encodedLength_append] at hsplit
      simp only [encodedLength, List.flatMap_nil, List.length_nil] at hlo hsplit
      omega
    · obtain ⟨k, hk⟩ : ∃ k, i - before.length = k + 1 := ⟨i - before.length - 1, by omega⟩
      rw [hk, List.take_succ_cons, encodedLength_cons, List.take_of_length_le (by omega)] at hhi
      omega
  · intro hnot
    rcases @cut_cases s.toList n hn with hcut | hcross
    · exact hcut
    · exact absurd hcross hnot

theorem sliceTo_of_not_straddles {s : String} {n : Nat} (hn : n ≤ (bytes s).length)
    (h : ¬ Straddles s n) : sliceTo s n = .ok ((bytes s).take n) :=
  if_pos ((isValid_iff_not_straddles hn).mpr h)

theorem sliceTo_of_straddles {s : String} {n : Nat} (hn : n ≤ (bytes s).length)
    (h : Straddles s n) : sliceTo s n = .error .sliceOutOfRange :=
  if_neg fun hvalid => (isValid_iff_not_straddles hn).mp hvalid h

/-- Nothing lies across the end of a string. -/
theorem not_straddles_of_le {s : String} {n : Nat} (h : (bytes s).length ≤ n) :
    ¬ Straddles s n := by
  rintro ⟨before, c, after, hs, -, hhi⟩
  have hlen : (bytes s).length = encodedLength before + (c.utf8Size + encodedLength after) := by
    rw [← encodedLength_cons, ← encodedLength_append, ← hs]
    rfl
  omega

end Cut

end Utf8
