import Mathlib.Data.List.Basic

/-!
# Hexadecimal text

Two digits a byte, high half first, in either case. `decode` refuses an
odd number of digits and anything that is no digit; what it accepts is
the text that `encode` writes, up to the case of the letters
(`decode_eq_some_iff`).
-/

namespace Hex

/-- The value of a digit. -/
def digit (c : Char) : Option Nat :=
  if 48 ≤ c.toNat ∧ c.toNat ≤ 57 then some (c.toNat - 48)
  else if 97 ≤ c.toNat ∧ c.toNat ≤ 102 then some (c.toNat - 87)
  else if 65 ≤ c.toNat ∧ c.toNat ≤ 70 then some (c.toNat - 55)
  else none

def decode : List Char → Option (List UInt8)
  | [] => some []
  | [_] => none
  | high :: low :: cs => do
      let h ← digit high
      let l ← digit low
      let bs ← decode cs
      pure (UInt8.ofNat (16 * h + l) :: bs)

def encode : List UInt8 → List Char
  | [] => []
  | b :: bs => Nat.digitChar (b.toNat / 16) :: Nat.digitChar (b.toNat % 16) :: encode bs

/-! ## Digits -/

theorem toNat_digitChar {n : Nat} (h : n < 16) :
    (Nat.digitChar n).toNat = if n < 10 then n + 48 else n + 87 := by
  have hall : ∀ n, n < 16 → (Nat.digitChar n).toNat = if n < 10 then n + 48 else n + 87 := by
    decide
  exact hall n h

theorem toNat_toLower (c : Char) :
    c.toLower.toNat = if 65 ≤ c.toNat ∧ c.toNat ≤ 90 then c.toNat + 32 else c.toNat := by
  have hupper : c.val ≥ 'A'.val ∧ c.val ≤ 'Z'.val ↔ 65 ≤ c.toNat ∧ c.toNat ≤ 90 := by
    rw [ge_iff_le, UInt32.le_iff_toNat_le, UInt32.le_iff_toNat_le]
    exact Iff.rfl
  unfold Char.toLower
  split
  · rename_i h
    have hrange := hupper.mp h
    have hadd : (c.val + ('a'.val - 'A'.val)).toNat = (c.toNat + 32) % 2 ^ 32 :=
      UInt32.toNat_add ..
    rw [if_pos hrange]
    show (c.val + ('a'.val - 'A'.val)).toNat = c.toNat + 32
    rw [hadd]
    omega
  · rename_i h
    rw [if_neg fun hr => h (hupper.mpr hr)]

/-- A digit is one that is written for its value, in either case. -/
theorem digit_eq_some_iff {c : Char} {n : Nat} :
    digit c = some n ↔ n < 16 ∧ c.toLower = Nat.digitChar n := by
  have hlower := toNat_toLower c
  unfold digit
  constructor
  · intro h
    have hn : n < 16 := by
      split_ifs at h <;> cases h <;> omega
    refine ⟨hn, Char.toNat_inj.mp ?_⟩
    rw [hlower, toNat_digitChar hn]
    split_ifs at h <;> cases h <;> split_ifs <;> omega
  · rintro ⟨hn, hc⟩
    rw [hc, toNat_digitChar hn] at hlower
    split_ifs at hlower ⊢ <;> first | omega | (congr 1; omega)

/-! ## Texts -/

/-- Two digits as one byte, and back. -/
theorem byte_eq_iff {h l : Nat} (hh : h < 16) (hl : l < 16) {b : UInt8} :
    UInt8.ofNat (16 * h + l) = b ↔ h = b.toNat / 16 ∧ l = b.toNat % 16 := by
  have hb := b.toNat_lt
  rw [← UInt8.toNat_inj, UInt8.toNat_ofNat_of_lt' (by show _ < 256; omega)]
  omega

/-- What is decoded is the text of the bytes, in lower case. -/
theorem decode_eq_some_iff : ∀ {cs : List Char} {bs : List UInt8},
    decode cs = some bs ↔ cs.map Char.toLower = encode bs
  | [], [] => iff_of_true rfl rfl
  | [], b :: bs => iff_of_false (by simp [decode]) (by simp [encode])
  | [c], [] => iff_of_false (by simp [decode]) (by simp [encode])
  | [c], b :: bs => iff_of_false (by simp [decode]) (by simp [encode])
  | high :: low :: cs, [] => by
      refine iff_of_false (fun h => ?_) (by simp [encode])
      simp only [decode, Option.bind_eq_bind, Option.bind_eq_some_iff] at h
      obtain ⟨h, -, l, -, bs, -, heq⟩ := h
      cases heq
  | high :: low :: cs, b :: bs => by
      have hb := b.toNat_lt
      have ih := @decode_eq_some_iff cs bs
      simp only [decode, Option.bind_eq_bind, Option.bind_eq_some_iff, encode, List.map_cons,
        List.cons.injEq]
      constructor
      · rintro ⟨h, hhigh, l, hlow, bs', hcs, heq⟩
        obtain ⟨hbyte, rfl⟩ := List.cons.inj (Option.some.inj heq)
        obtain ⟨hh, hhigh⟩ := digit_eq_some_iff.mp hhigh
        obtain ⟨hl, hlow⟩ := digit_eq_some_iff.mp hlow
        obtain ⟨rfl, rfl⟩ := (byte_eq_iff hh hl).mp hbyte
        exact ⟨hhigh, hlow, ih.mp hcs⟩
      · rintro ⟨hhigh, hlow, hcs⟩
        refine ⟨_, digit_eq_some_iff.mpr ⟨by omega, hhigh⟩, _,
          digit_eq_some_iff.mpr ⟨by omega, hlow⟩, bs, ih.mpr hcs, ?_⟩
        rw [(byte_eq_iff (b := b) (by omega) (by omega)).mpr ⟨rfl, rfl⟩]
        rfl

/-- A text is decoded to `n` bytes exactly when it is `2 * n` digits. -/
theorem decode_length_iff : ∀ {n : Nat} {cs : List Char},
    (∃ bs, decode cs = some bs ∧ bs.length = n)
      ↔ cs.length = 2 * n ∧ ∀ c ∈ cs, (digit c).isSome = true
  | 0, [] => iff_of_true ⟨[], rfl, rfl⟩ (by simp)
  | n + 1, [] => by
      refine iff_of_false ?_ (by simp)
      rintro ⟨bs, hbs, hlen⟩
      cases hbs
      cases hlen
  | n, [c] => by
      refine iff_of_false ?_ (by rw [List.length_singleton]; omega)
      rintro ⟨bs, hbs, -⟩
      cases hbs
  | 0, high :: low :: cs => by
      refine iff_of_false ?_ (by simp)
      rintro ⟨bs, hbs, hlen⟩
      obtain rfl := List.eq_nil_of_length_eq_zero hlen
      have htext := decode_eq_some_iff.mp hbs
      cases htext
  | n + 1, high :: low :: cs => by
      have ih := @decode_length_iff n cs
      have hlen : (high :: low :: cs).length = 2 * (n + 1) ↔ cs.length = 2 * n := by
        simp only [List.length_cons]
        omega
      rw [hlen, List.forall_mem_cons, List.forall_mem_cons, Option.isSome_iff_exists,
        Option.isSome_iff_exists]
      simp only [decode, Option.bind_eq_bind, Option.bind_eq_some_iff]
      constructor
      · rintro ⟨bs, ⟨h, hhigh, l, hlow, bs', hcs, heq⟩, hn⟩
        obtain rfl := Option.some.inj heq
        obtain ⟨hl, hdigits⟩ := ih.mp ⟨bs', hcs, Nat.succ.inj hn⟩
        exact ⟨hl, ⟨h, hhigh⟩, ⟨l, hlow⟩, hdigits⟩
      · rintro ⟨hl, ⟨h, hhigh⟩, ⟨l, hlow⟩, hdigits⟩
        obtain ⟨bs, hcs, rfl⟩ := ih.mpr ⟨hl, hdigits⟩
        exact ⟨_, ⟨h, hhigh, l, hlow, bs, hcs, rfl⟩, rfl⟩

end Hex
