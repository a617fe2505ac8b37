import Mathlib.Data.List.GetD
import Mathlib.Data.List.Nodup
import Mathlib.Data.List.TakeWhile
import Mathlib.Data.Nat.Digits.Lemmas

/-!
# Numerals in other bases

A list of digits, the most significant first, is written in another base:
as many zeros as it begins with, and then the number it stands for. That
loses nothing, since the numeral of a number does not begin with zero
(`recode_recode`). An `Alphabet` gives each digit a character.
-/

namespace Radix

/-! ## Alphabets -/

/-- The characters of the digits below `b`. -/
structure Alphabet (b : Nat) where
  chars : List Char
  length_eq : chars.length = b
  nodup : chars.Nodup

namespace Alphabet

variable {b : Nat} (A : Alphabet b)

/-- The character of a digit, blank where there is none. -/
def char (n : Nat) : Char := A.chars.getD n ' '

def digit (c : Char) : Option Nat := if c ∈ A.chars then some (A.chars.idxOf c) else none

theorem char_mem {n : Nat} (h : n < b) : A.char n ∈ A.chars := by
  have hlt : n < A.chars.length := A.length_eq.symm ▸ h
  unfold char
  rw [List.getD_eq_getElem _ _ hlt]
  exact List.getElem_mem hlt

theorem digit_char {n : Nat} (h : n < b) : A.digit (A.char n) = some n := by
  have hlt : n < A.chars.length := A.length_eq.symm ▸ h
  unfold digit
  rw [if_pos (A.char_mem h)]
  unfold char
  rw [List.getD_eq_getElem _ _ hlt, A.nodup.idxOf_getElem n hlt]

theorem mapM_digit_map_char {ds : List Nat} (h : ∀ d ∈ ds, d < b) :
    (ds.map A.char).mapM A.digit = some ds := by
  induction ds with
  | nil => rfl
  | cons d ds ih =>
      obtain ⟨hd, hds⟩ := List.forall_mem_cons.mp h
      simp [A.digit_char hd, ih hds]

end Alphabet

/-! ## Changing the base -/

/-- The number a list of digits stands for. -/
def number (b : Nat) (ds : List Nat) : Nat := Nat.ofDigits b ds.reverse

/-- The numeral of a number, none for zero. -/
def numeral (b n : Nat) : List Nat := (Nat.digits b n).reverse

/-- The zeros a list begins with. -/
def zeros (ds : List Nat) : List Nat := ds.takeWhile fun d => decide (d = 0)

def recode (b c : Nat) (ds : List Nat) : List Nat := zeros ds ++ numeral c (number b ds)

theorem eq_zero_of_mem_zeros {d : Nat} {ds : List Nat} (h : d ∈ zeros ds) : d = 0 := by
  have hd := List.mem_takeWhile_imp (p := fun d : Nat => decide (d = 0)) h
  simpa using hd

theorem zeros_eq_replicate (ds : List Nat) : zeros ds = List.replicate (zeros ds).length 0 :=
  List.eq_replicate_of_mem fun _ hd => eq_zero_of_mem_zeros hd

theorem number_zeros_append (b : Nat) (ds es : List Nat) :
    number b (zeros ds ++ es) = number b es := by
  unfold number
  rw [List.reverse_append, Nat.ofDigits_append, zeros_eq_replicate, List.reverse_replicate]
  simp

theorem mem_numeral_lt {b n d : Nat} (hb : 1 < b) (h : d ∈ numeral b n) : d < b :=
  Nat.digits_lt_base hb (List.mem_reverse.mp h)

theorem number_numeral (b n : Nat) : number b (numeral b n) = n := by
  unfold number numeral
  rw [List.reverse_reverse, Nat.ofDigits_digits]

/-- A numeral does not begin with zero. -/
theorem zeros_numeral (b n : Nat) : zeros (numeral b n) = [] := by
  unfold zeros numeral
  cases hd : (Nat.digits b n).reverse with
  | nil => rfl
  | cons d ds =>
      have hne : Nat.digits b n ≠ [] := fun h => by simp [h] at hd
      have hn : n ≠ 0 := Nat.digits_ne_nil_iff_ne_zero.mp hne
      have hlast : (Nat.digits b n).getLast hne = d := by
        have hhead : (Nat.digits b n).reverse.head? = some d := by rw [hd]; rfl
        rw [List.head?_reverse, List.getLast?_eq_some_getLast hne] at hhead
        exact Option.some.inj hhead
      have hzero : d ≠ 0 := hlast ▸ Nat.getLast_digit_ne_zero b hn
      simp [hzero]

/-- The zeros that the list begins with are those of the recoded one. -/
theorem zeros_recode (b c : Nat) (ds : List Nat) : zeros (recode b c ds) = zeros ds := by
  have hall : ∀ d ∈ zeros ds, decide (d = 0) = true := fun d hd =>
    decide_eq_true (eq_zero_of_mem_zeros hd)
  show (zeros ds ++ numeral c (number b ds)).takeWhile (fun d => decide (d = 0)) = zeros ds
  rw [List.takeWhile_append_of_pos hall]
  show zeros ds ++ zeros (numeral c (number b ds)) = zeros ds
  rw [zeros_numeral, List.append_nil]

theorem number_recode (b c : Nat) (ds : List Nat) : number c (recode b c ds) = number b ds := by
  unfold recode
  rw [number_zeros_append, number_numeral]

/-- Behind its zeros a list of digits is the numeral of its number. -/
theorem zeros_append_numeral {b : Nat} (hb : 1 < b) {ds : List Nat} (h : ∀ d ∈ ds, d < b) :
    zeros ds ++ numeral b (number b ds) = ds := by
  have hsplit : zeros ds ++ ds.dropWhile (fun d => decide (d = 0)) = ds :=
    List.takeWhile_append_dropWhile
  generalize hes : ds.dropWhile (fun d => decide (d = 0)) = es at hsplit
  have hnumber : number b ds = number b es := by
    rw [← hsplit]
    exact number_zeros_append b ds es
  rw [hnumber]
  conv_rhs => rw [← hsplit]
  congr 1
  unfold numeral number
  rw [Nat.digits_ofDigits b hb, List.reverse_reverse]
  · intro d hd
    refine h d ?_
    rw [← hsplit]
    exact List.mem_append_right _ (List.mem_reverse.mp hd)
  · intro hne
    have hne' : es ≠ [] := fun h => hne (by rw [h]; rfl)
    rw [List.getLast_reverse hne]
    have hhead := List.head_dropWhile_not (fun d => decide (d = 0)) (hes ▸ hne')
    simp only [hes] at hhead
    exact of_decide_eq_false hhead

theorem recode_recode {b : Nat} (hb : 1 < b) (c : Nat) {ds : List Nat} (h : ∀ d ∈ ds, d < b) :
    recode c b (recode b c ds) = ds := by
  show zeros (recode b c ds) ++ numeral b (number c (recode b c ds)) = ds
  rw [zeros_recode, number_recode, zeros_append_numeral hb h]

theorem mem_recode_lt {b c : Nat} (hc : 1 < c) {ds : List Nat} :
    ∀ d ∈ recode b c ds, d < c := by
  intro d hd
  rcases List.mem_append.mp hd with hzero | hnumeral
  · have h0 : d = 0 := eq_zero_of_mem_zeros hzero
    omega
  · exact mem_numeral_lt hc hnumeral

/-! ## Texts of bytes -/

section Bytes

variable {b : Nat} (A : Alphabet b)

def encode (bytes : List UInt8) : List Char :=
  (recode 256 b (bytes.map UInt8.toNat)).map A.char

def decode (cs : List Char) : Option (List UInt8) :=
  (cs.mapM A.digit).map fun ds => (recode b 256 ds).map UInt8.ofNat

theorem decode_encode (hb : 1 < b) (bytes : List UInt8) :
    decode A (encode A bytes) = some bytes := by
  have hbyte : ∀ d ∈ bytes.map UInt8.toNat, d < 256 := by
    intro d hd
    obtain ⟨x, -, rfl⟩ := List.mem_map.mp hd
    exact x.toNat_lt
  unfold decode encode
  rw [A.mapM_digit_map_char (mem_recode_lt hb), Option.map_some, recode_recode (by decide) b hbyte,
    List.map_map]
  congr 1
  exact List.map_id'' (fun x => UInt8.ofNat_toNat) bytes

end Bytes

end Radix
