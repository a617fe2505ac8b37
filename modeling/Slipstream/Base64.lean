import Slipstream.Radix

/-!
# Base64

The standard alphabet and the padded form of base64. Three bytes are
four digits of six bits each; one or two bytes that are left at the end
have their last digit filled up with zero bits and the group with `=`.

The reader is strict: it takes a padded group at the end only, and no
bits in the filling. `decode_encode` is the round trip, one group at a
time.
-/

namespace Base64

def standard : Radix.Alphabet 64 where
  chars := "ABCDEFGHIJKLMNOPQRSTUVWXYZabcdefghijklmnopqrstuvwxyz0123456789+/".toList
  length_eq := by decide
  nodup := by decide

/-- The digit with the value `n`. -/
def char (n : Nat) : Char := standard.char n

def digit (c : Char) : Option Nat := standard.digit c

def pad : Char := '='

def encode : List UInt8 → List Char
  | [] => []
  | [a] => [char (a.toNat / 4), char (a.toNat % 4 * 16), pad, pad]
  | [a, b] =>
      [char (a.toNat / 4), char (a.toNat % 4 * 16 + b.toNat / 16), char (b.toNat % 16 * 4), pad]
  | a :: b :: c :: rest =>
      char (a.toNat / 4) :: char (a.toNat % 4 * 16 + b.toNat / 16)
        :: char (b.toNat % 16 * 4 + c.toNat / 64) :: char (c.toNat % 64) :: encode rest

/-- A group without padding. -/
def group (w x y z : Char) : Option (List UInt8) := do
  let w ← digit w
  let x ← digit x
  let y ← digit y
  let z ← digit z
  pure
    [UInt8.ofNat (w * 4 + x / 16), UInt8.ofNat (x % 16 * 16 + y / 4),
      UInt8.ofNat (y % 4 * 64 + z)]

/-- The last group, which may be padded. -/
def lastGroup (w x y z : Char) : Option (List UInt8) :=
  if z = pad then
    if y = pad then do
      let w ← digit w
      let x ← digit x
      if x % 16 = 0 then pure [UInt8.ofNat (w * 4 + x / 16)] else none
    else do
      let w ← digit w
      let x ← digit x
      let y ← digit y
      if y % 4 = 0 then
        pure [UInt8.ofNat (w * 4 + x / 16), UInt8.ofNat (x % 16 * 16 + y / 4)]
      else none
  else group w x y z

def decode : List Char → Option (List UInt8)
  | [] => some []
  | w :: x :: y :: z :: rest =>
      if rest = [] then lastGroup w x y z
      else do
        let first ← group w x y z
        let others ← decode rest
        pure (first ++ others)
  | _ => none

/-! ## One group -/

@[simp] theorem digit_char {n : Nat} (h : n < 64) : digit (char n) = some n :=
  standard.digit_char h

theorem char_ne_pad {n : Nat} (h : n < 64) : char n ≠ pad := by
  intro heq
  have hmem : pad ∈ standard.chars := heq ▸ standard.char_mem h
  exact absurd hmem (by decide)

theorem ofNat_toNat {x : UInt8} {n : Nat} (h : n = x.toNat) : UInt8.ofNat n = x := by
  rw [h, UInt8.ofNat_toNat]

theorem group_encode (a b c : UInt8) :
    group (char (a.toNat / 4)) (char (a.toNat % 4 * 16 + b.toNat / 16))
        (char (b.toNat % 16 * 4 + c.toNat / 64)) (char (c.toNat % 64)) = some [a, b, c] := by
  have ha := a.toNat_lt
  have hb := b.toNat_lt
  have hc := c.toNat_lt
  unfold group
  rw [digit_char (by omega), digit_char (by omega), digit_char (by omega), digit_char (by omega)]
  have hfirst : a.toNat / 4 * 4 + (a.toNat % 4 * 16 + b.toNat / 16) / 16 = a.toNat := by omega
  have hsecond : (a.toNat % 4 * 16 + b.toNat / 16) % 16 * 16
      + (b.toNat % 16 * 4 + c.toNat / 64) / 4 = b.toNat := by omega
  have hthird : (b.toNat % 16 * 4 + c.toNat / 64) % 4 * 64 + c.toNat % 64 = c.toNat := by omega
  show some [UInt8.ofNat _, UInt8.ofNat _, UInt8.ofNat _] = some [a, b, c]
  rw [ofNat_toNat hfirst, ofNat_toNat hsecond, ofNat_toNat hthird]

theorem lastGroup_one (a : UInt8) :
    lastGroup (char (a.toNat / 4)) (char (a.toNat % 4 * 16)) pad pad = some [a] := by
  have ha := a.toNat_lt
  have hfill : a.toNat % 4 * 16 % 16 = 0 := by omega
  have hbyte : a.toNat / 4 * 4 + a.toNat % 4 * 16 / 16 = a.toNat := by omega
  unfold lastGroup
  rw [if_pos rfl, if_pos rfl, digit_char (by omega), digit_char (by omega)]
  show (if _ then some [UInt8.ofNat _] else none) = some [a]
  rw [if_pos hfill, ofNat_toNat hbyte]

theorem lastGroup_two (a b : UInt8) :
    lastGroup (char (a.toNat / 4)) (char (a.toNat % 4 * 16 + b.toNat / 16))
        (char (b.toNat % 16 * 4)) pad = some [a, b] := by
  have ha := a.toNat_lt
  have hb := b.toNat_lt
  have hfirst : a.toNat / 4 * 4 + (a.toNat % 4 * 16 + b.toNat / 16) / 16 = a.toNat := by omega
  have hsecond : (a.toNat % 4 * 16 + b.toNat / 16) % 16 * 16 + b.toNat % 16 * 4 / 4
      = b.toNat := by omega
  have hfill : b.toNat % 16 * 4 % 4 = 0 := by omega
  unfold lastGroup
  rw [if_pos rfl, if_neg (char_ne_pad (by omega)), digit_char (by omega), digit_char (by omega),
    digit_char (by omega)]
  show (if _ then some [UInt8.ofNat _, UInt8.ofNat _] else none) = some [a, b]
  rw [if_pos hfill, ofNat_toNat hfirst, ofNat_toNat hsecond]

theorem lastGroup_three (a b c : UInt8) :
    lastGroup (char (a.toNat / 4)) (char (a.toNat % 4 * 16 + b.toNat / 16))
        (char (b.toNat % 16 * 4 + c.toNat / 64)) (char (c.toNat % 64)) = some [a, b, c] := by
  have hc := c.toNat_lt
  unfold lastGroup
  rw [if_neg (char_ne_pad (by omega)), group_encode]

/-! ## The round trip -/

theorem encode_eq_nil {bytes : List UInt8} (h : encode bytes = []) : bytes = [] := by
  induction bytes using encode.induct with
  | case1 => rfl
  | _ => simp [encode] at h

theorem decode_encode (bytes : List UInt8) : decode (encode bytes) = some bytes := by
  induction bytes using encode.induct with
  | case1 => rfl
  | case2 a =>
      show (if ([] : List Char) = [] then _ else _) = _
      rw [if_pos rfl, lastGroup_one]
  | case3 a b =>
      show (if ([] : List Char) = [] then _ else _) = _
      rw [if_pos rfl, lastGroup_two]
  | case4 a b c rest ih =>
      rw [encode, decode]
      by_cases hlast : encode rest = []
      · rw [if_pos hlast, lastGroup_three, encode_eq_nil hlast]
      · rw [if_neg hlast, group_encode, ih]
        rfl

end Base64
