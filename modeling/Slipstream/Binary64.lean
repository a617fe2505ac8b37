import Mathlib.Algebra.Order.Floor.Semifield
import Mathlib.Data.Rat.Floor
import Mathlib.Tactic.FieldSimp
import Mathlib.Tactic.Linarith
import Mathlib.Tactic.NormNum
import Mathlib.Tactic.Positivity
import Mathlib.Tactic.Ring

/-!
# Doubles

The positive normal doubles by their exact values. `HasValue x q` says
that the double `x` is one of them and that its value is `q`; there is a
rule for each operation:

* an integer of 53 binary digits is exact (`hasValue_toFloat`);
* a product and a quotient are off by no more than a share of
  `2 ^ (-53)`, unless they leave the range (`HasValue.mul`,
  `HasValue.div`);
* a conversion to an integer drops the fraction (`HasValue.toUInt64`).

An `ExtendedMantissa` is a mantissa with two more bits, which stand for
all the digits that follow. `Brackets` is what they say of the number
that is rounded.
-/

namespace Binary64

open Float.Model
open Float.Model.UnpackedFloat (ExtendedMantissa Accuracy Sign)

/-! ## The bits that are left over -/

inductive Brackets : ExtendedMantissa → ℚ → Prop where
  | exact (m : ℕ) : Brackets ⟨m, false, false⟩ m
  | below {m : ℕ} {v : ℚ} (hlo : m < v) (hhi : v < m + 1 / 2) : Brackets ⟨m, false, true⟩ v
  | half (m : ℕ) : Brackets ⟨m, true, false⟩ (m + 1 / 2)
  | above {m : ℕ} {v : ℚ} (hlo : m + 1 / 2 < v) (hhi : v < m + 1) : Brackets ⟨m, true, true⟩ v

theorem Brackets.le {em : ExtendedMantissa} {v : ℚ} (h : Brackets em v) : em.mantissa ≤ v := by
  cases h with
  | exact m => exact le_rfl
  | below hlo hhi => exact hlo.le
  | half m => simp
  | above hlo hhi => linarith

theorem Brackets.lt {em : ExtendedMantissa} {v : ℚ} (h : Brackets em v) :
    v < em.mantissa + 1 := by
  cases h with
  | exact m => linarith
  | below hlo hhi => linarith
  | half m => linarith
  | above hlo hhi => exact hhi

theorem Brackets.abs_roundedMantissa_sub_le {em : ExtendedMantissa} {v : ℚ}
    (h : Brackets em v) : |(em.roundedMantissa : ℚ) - v| ≤ 1 / 2 := by
  rw [abs_le]
  cases h with
  | exact m =>
    show -(1 / 2 : ℚ) ≤ (m : ℚ) - m ∧ (m : ℚ) - m ≤ 1 / 2
    constructor <;> linarith
  | @below m v hlo hhi =>
    show -(1 / 2 : ℚ) ≤ (m : ℚ) - v ∧ (m : ℚ) - v ≤ 1 / 2
    constructor <;> linarith
  | half m =>
    show -(1 / 2 : ℚ) ≤ ((m + m % 2 : ℕ) : ℚ) - (m + 1 / 2) ∧
      ((m + m % 2 : ℕ) : ℚ) - (m + 1 / 2) ≤ 1 / 2
    have hmod : ((m % 2 : ℕ) : ℚ) ≤ 1 := by
      exact_mod_cast (by omega : m % 2 ≤ 1)
    have hpos : (0 : ℚ) ≤ ((m % 2 : ℕ) : ℚ) := by positivity
    push_cast at *
    constructor <;> linarith
  | @above m v hlo hhi =>
    show -(1 / 2 : ℚ) ≤ ((m + 1 : ℕ) : ℚ) - v ∧ ((m + 1 : ℕ) : ℚ) - v ≤ 1 / 2
    push_cast
    constructor <;> linarith

theorem Brackets.roundedMantissa_le {em : ExtendedMantissa} {v : ℚ} (h : Brackets em v) :
    em.mantissa ≤ em.roundedMantissa ∧ em.roundedMantissa ≤ em.mantissa + 1 := by
  cases h with
  | exact m => exact ⟨le_rfl, Nat.le_succ m⟩
  | @below m v hlo hhi => exact ⟨le_rfl, Nat.le_succ m⟩
  | half m =>
    show m ≤ m + m % 2 ∧ m + m % 2 ≤ m + 1
    omega
  | @above m v hlo hhi => exact ⟨Nat.le_succ m, le_rfl⟩

theorem shiftRightOne_even (q : ℕ) (r s : Bool) :
    ExtendedMantissa.shiftRightOne ⟨2 * q, r, s⟩ = ⟨q, false, r || s⟩ := by
  unfold ExtendedMantissa.shiftRightOne
  simp

theorem shiftRightOne_odd (q : ℕ) (r s : Bool) :
    ExtendedMantissa.shiftRightOne ⟨2 * q + 1, r, s⟩ = ⟨q, true, r || s⟩ := by
  unfold ExtendedMantissa.shiftRightOne
  have hdiv : (2 * q + 1) / 2 = q := by omega
  have hmod : (2 * q + 1) % 2 = 1 := by omega
  simp [hdiv, hmod]

/-- The lowest bit of the mantissa becomes the first of the two. -/
theorem Brackets.shiftRightOne {em : ExtendedMantissa} {v : ℚ} (h : Brackets em v) :
    Brackets em.shiftRightOne (v / 2) := by
  obtain ⟨m, r, s⟩ := em
  obtain ⟨q, rfl | rfl⟩ := m.even_or_odd'
  · rw [shiftRightOne_even]
    cases h with
    | exact =>
      have hv : ((2 * q : ℕ) : ℚ) / 2 = q := by push_cast; ring
      rw [hv]
      exact .exact q
    | below hlo hhi =>
      push_cast at hlo hhi
      exact .below (by linarith) (by linarith)
    | half =>
      push_cast
      exact .below (by linarith) (by linarith)
    | above hlo hhi =>
      push_cast at hlo hhi
      exact .below (by linarith) (by linarith)
  · rw [shiftRightOne_odd]
    cases h with
    | exact =>
      have hv : ((2 * q + 1 : ℕ) : ℚ) / 2 = q + 1 / 2 := by push_cast; ring
      rw [hv]
      exact .half q
    | below hlo hhi =>
      push_cast at hlo hhi
      exact .above (by linarith) (by linarith)
    | half =>
      push_cast
      exact .above (by linarith) (by linarith)
    | above hlo hhi =>
      push_cast at hlo hhi
      exact .above (by linarith) (by linarith)

theorem shiftRight_succ (em : ExtendedMantissa) (k : ℕ) :
    em >>> (k + 1) = (em >>> k).shiftRightOne := rfl

theorem Brackets.shiftRight {em : ExtendedMantissa} {v : ℚ} (h : Brackets em v) (k : ℕ) :
    Brackets (em >>> k) (v / 2 ^ k) := by
  induction k with
  | zero =>
    rw [pow_zero, div_one]
    exact h
  | succ k ih =>
    rw [shiftRight_succ, pow_succ, ← div_div]
    exact ih.shiftRightOne

theorem mantissa_shiftRight (em : ExtendedMantissa) (k : ℕ) :
    (em >>> k).mantissa = em.mantissa / 2 ^ k := by
  induction k with
  | zero =>
    rw [pow_zero, Nat.div_one]
    rfl
  | succ k ih =>
    rw [shiftRight_succ, pow_succ, ← Nat.div_div_eq_div_mul, ← ih]
    rfl

/-- What is left of a quotient. -/
theorem brackets_fraction (q : ℕ) {r d : ℕ} (hr : r < d) :
    Brackets (ExtendedMantissa.ofMantissaAndAccuracy q (UnpackedFloat.accuracyOfFraction r d))
      (q + r / d) := by
  have hd : (0 : ℚ) < d := by exact_mod_cast (Nat.zero_le r).trans_lt hr
  unfold UnpackedFloat.accuracyOfFraction
  split
  · rename_i hzero
    rw [hzero, Nat.cast_zero, zero_div, add_zero]
    exact .exact q
  · rename_i hne
    have hrpos : (0 : ℚ) < r := by exact_mod_cast Nat.pos_of_ne_zero hne
    have hfrac : (0 : ℚ) < r / d := div_pos hrpos hd
    cases hcmp : compare (2 * r) d with
    | lt =>
      have hlt : (2 * r : ℚ) < d := by exact_mod_cast Nat.compare_eq_lt.mp hcmp
      refine .below (by linarith) ?_
      rw [add_lt_add_iff_left, div_lt_div_iff₀ hd (by norm_num)]
      linarith
    | eq =>
      have heq : (2 * r : ℚ) = d := by exact_mod_cast Nat.compare_eq_eq.mp hcmp
      have hhalf : (r : ℚ) / d = 1 / 2 := by
        rw [div_eq_div_iff hd.ne' (by norm_num)]
        linarith
      rw [hhalf]
      exact .half q
    | gt =>
      have hgt : (d : ℚ) < 2 * r := by exact_mod_cast Nat.compare_eq_gt.mp hcmp
      refine .above ?_ ?_
      · rw [add_lt_add_iff_left, div_lt_div_iff₀ (by norm_num) hd]
        linarith
      · rw [add_lt_add_iff_left, div_lt_one hd]
        exact_mod_cast hr

theorem brackets_div (m : ℕ) {d : ℕ} (hd : 0 < d) :
    Brackets (ExtendedMantissa.ofMantissaAndAccuracy (m / d)
      (UnpackedFloat.accuracyOfFraction (m % d) d)) (m / d) := by
  have hsplit : (m : ℚ) / d = (m / d : ℕ) + (m % d : ℕ) / d := by
    have hd' : (d : ℚ) ≠ 0 := by exact_mod_cast hd.ne'
    have hm : (m : ℚ) = d * (m / d : ℕ) + (m % d : ℕ) := by
      exact_mod_cast (Nat.div_add_mod m d).symm
    calc (m : ℚ) / d = (d * (m / d : ℕ) + (m % d : ℕ)) / d := by rw [← hm]
      _ = (m / d : ℕ) + (m % d : ℕ) / d := by rw [add_div, mul_div_cancel_left₀ _ hd']
  rw [hsplit]
  exact brackets_fraction _ (Nat.mod_lt m hd)

/-! ## Rounding -/

/-- Where the exponent of a normal double stays in its range, with one to
spare below. -/
structure InRange (q : ℚ) : Prop where
  lo : (2 : ℚ) ^ (-1021 : ℤ) ≤ q
  hi : q < (2 : ℚ) ^ (1023 : ℤ)

theorem inRange_of_lt {q : ℚ} (hlo : 1 / 2 ^ 64 ≤ q) (hhi : q < 2 ^ 64) : InRange q where
  lo := by
    calc (2 : ℚ) ^ (-1021 : ℤ) ≤ 2 ^ (-64 : ℤ) := zpow_le_zpow_right₀ (by norm_num) (by norm_num)
      _ = 1 / 2 ^ 64 := by norm_num
      _ ≤ q := hlo
  hi := by
    calc q < 2 ^ 64 := hhi
      _ = (2 : ℚ) ^ (64 : ℤ) := by norm_num
      _ ≤ 2 ^ (1023 : ℤ) := zpow_le_zpow_right₀ (by norm_num) (by norm_num)

/-- A positive normal double, unpacked. -/
structure HasDigits (u : UnpackedFloat) (m : ℕ) (e : ℤ) : Prop where
  mantissa_lo : 2 ^ 52 ≤ m
  mantissa_hi : m < 2 ^ 53
  exponent_lo : -1074 ≤ e
  exponent_hi : e ≤ 971
  eq : u = .finite .positive m e (by omega)

theorem HasDigits.pos {u : UnpackedFloat} {m : ℕ} {e : ℤ} (h : HasDigits u m e) : 0 < m := by
  have hlo := h.mantissa_lo
  omega

theorem HasDigits.log2_eq {u : UnpackedFloat} {m : ℕ} {e : ℤ} (h : HasDigits u m e) :
    m.log2 = 52 :=
  (Nat.log2_eq_iff h.pos.ne').mpr ⟨h.mantissa_lo, h.mantissa_hi⟩

theorem sign_packComponents (b : BitVec 11) (f : BitVec 52) :
    Sign.ofBitVec (UnpackedFloat.unpackSign
      (UnpackedFloat.packComponents Format.binary64 .positive b f)) = .positive := by
  have hsign : UnpackedFloat.unpackSign
      (UnpackedFloat.packComponents Format.binary64 .positive b f) = 0#1 := by
    unfold UnpackedFloat.unpackSign UnpackedFloat.packComponents BitVec.extractLsb
    rw [BitVec.extractLsb'_append_eq_of_le (by decide),
      BitVec.extractLsb'_append_eq_of_le (by decide)]
    rfl
  rw [hsign]
  rfl

theorem unpack_packComponents {b : BitVec 11} {f : BitVec 52} {m : ℕ} {e : ℤ} (hpos : 0 < m)
    (hzero : b ≠ 0#11) (hones : b ≠ -1#11) (hm : ((1#1 ++ f) : BitVec 53).toNat = m)
    (he : (b.toNat : ℤ) - 1075 = e) :
    UnpackedFloat.unpack Format.binary64
        (UnpackedFloat.packComponents Format.binary64 .positive b f) =
      .finite .positive m e hpos := by
  subst hm he
  have hexponent : UnpackedFloat.unpackExponent
      (UnpackedFloat.packComponents Format.binary64 .positive b f) = b :=
    UnpackedFloat.unpackExponent_packComponents
  have hmantissa : UnpackedFloat.unpackMantissa
      (UnpackedFloat.packComponents Format.binary64 .positive b f) = f :=
    UnpackedFloat.unpackMantissa_packComponents
  have hsign := sign_packComponents b f
  generalize UnpackedFloat.packComponents Format.binary64 .positive b f = x at *
  subst hexponent hmantissa
  unfold UnpackedFloat.unpack
  dsimp only
  rw [if_neg hones, if_neg hzero]
  generalize Sign.ofBitVec (UnpackedFloat.unpackSign x) = sign at *
  subst hsign
  rfl

theorem unpack_pack {u : UnpackedFloat} {m : ℕ} {e : ℤ} (h : HasDigits u m e) :
    (pack u).unpack = u := by
  have hpos := h.pos
  have hlog := h.log2_eq
  obtain ⟨hlo, hhi, helo, hehi, rfl⟩ := h
  obtain ⟨b, hb⟩ : ∃ b : ℕ, e + 1075 = b := ⟨(e + 1075).toNat, by omega⟩
  have hbits : (BitVec.ofNat 11 b).toNat = b := by
    rw [BitVec.toNat_ofNat, Nat.mod_eq_of_lt (by omega)]
  have hfrac : (BitVec.ofNat 52 m).toNat = m - 2 ^ 52 := by
    rw [BitVec.toNat_ofNat, Nat.mod_eq_sub_mod hlo, Nat.mod_eq_of_lt (by omega)]
  have hnorm : ((1#1 ++ BitVec.ofNat 52 m) : BitVec 53).toNat = m := by
    rw [BitVec.toNat_append, ← Nat.shiftLeft_add_eq_or_of_lt (BitVec.isLt _), hfrac]
    simp only [Nat.shiftLeft_eq, BitVec.toNat_ofNat]
    omega
  have hpack : UnpackedFloat.pack Format.binary64 (.finite .positive m e hpos) =
      UnpackedFloat.packComponents Format.binary64 .positive (BitVec.ofNat 11 b)
        (BitVec.ofNat 52 m) := by
    have hexp : (e + (Format.binary64.exponentBias : ℤ) + (52 : ℕ)).toNat = b := by
      have hbias : (Format.binary64.exponentBias : ℤ) = 1023 := rfl
      rw [hbias]
      omega
    unfold UnpackedFloat.pack
    simp only [hlog]
    rw [hexp, if_neg (by omega), if_pos (by decide)]
  show UnpackedFloat.unpack Format.binary64 (UnpackedFloat.pack Format.binary64 _) = _
  rw [hpack]
  apply unpack_packComponents hpos _ _ hnorm
  · rw [hbits]
    omega
  · intro hzero
    have hnat := congrArg BitVec.toNat hzero
    rw [hbits] at hnat
    simp at hnat
    omega
  · intro hones
    have hnat := congrArg BitVec.toNat hones
    rw [hbits] at hnat
    simp at hnat
    omega

theorem two_zpow_lt_iff {a b : ℤ} : (2 : ℚ) ^ a < 2 ^ b ↔ a < b :=
  zpow_lt_zpow_iff_right₀ (by norm_num)

/-- The leading digit of a number in range. -/
theorem log2_bounds {em : ExtendedMantissa} {v : ℚ} {e : ℤ} (hpos : 0 < em.mantissa)
    (h : Brackets em v) (hr : InRange (v * 2 ^ e)) :
    -1021 ≤ (em.mantissa.log2 : ℤ) + e ∧ (em.mantissa.log2 : ℤ) + e ≤ 1022 := by
  have he : (0 : ℚ) < 2 ^ e := zpow_pos (by norm_num) e
  have hlo : (2 : ℚ) ^ (em.mantissa.log2 : ℤ) ≤ v := by
    have hself : 2 ^ em.mantissa.log2 ≤ em.mantissa := Nat.log2_self_le hpos.ne'
    calc (2 : ℚ) ^ (em.mantissa.log2 : ℤ) ≤ em.mantissa := by
          rw [zpow_natCast]
          exact_mod_cast hself
      _ ≤ v := h.le
  have hhi : v < (2 : ℚ) ^ ((em.mantissa.log2 : ℤ) + 1) := by
    have hself : em.mantissa + 1 ≤ 2 ^ (em.mantissa.log2 + 1) := Nat.lt_log2_self
    calc v < em.mantissa + 1 := h.lt
      _ ≤ (2 : ℚ) ^ ((em.mantissa.log2 : ℤ) + 1) := by exact_mod_cast hself
  have hup : (2 : ℚ) ^ ((em.mantissa.log2 : ℤ) + e) < 2 ^ (1023 : ℤ) := by
    rw [zpow_add₀ (by norm_num)]
    exact (mul_le_mul_of_nonneg_right hlo he.le).trans_lt hr.hi
  have hdown : (2 : ℚ) ^ (-1021 : ℤ) < 2 ^ ((em.mantissa.log2 : ℤ) + 1 + e) := by
    rw [zpow_add₀ (by norm_num)]
    exact hr.lo.trans_lt (mul_lt_mul_of_pos_right hhi he)
  rw [two_zpow_lt_iff] at hup hdown
  omega

theorem shiftToTargetExponent_eq {m : ℕ} {e : ℤ} (acc : Accuracy) (hm : 52 ≤ m.log2)
    (hlo : -1022 ≤ (m.log2 : ℤ) + e) :
    UnpackedFloat.shiftToTargetExponent Format.binary64 m e acc =
      (ExtendedMantissa.ofMantissaAndAccuracy m acc >>> (m.log2 - 52),
        e + (m.log2 - 52 : ℕ)) := by
  have htarget : Format.binary64.targetExponent (totalExponent m e) = m.log2 + e - 52 := by
    have hbits : (Format.binary64.mantissaBits : ℤ) = 53 := rfl
    have hmin : Format.binary64.minExponent = -1074 := rfl
    unfold Format.targetExponent totalExponent
    omega
  have hshift : ((m.log2 : ℤ) + e - 52 - e).toNat = m.log2 - 52 := by omega
  unfold UnpackedFloat.shiftToTargetExponent UnpackedFloat.shiftToExponent
  simp only [htarget, hshift]

theorem mantissa_ofMantissaAndAccuracy (m : ℕ) (acc : Accuracy) :
    (ExtendedMantissa.ofMantissaAndAccuracy m acc).mantissa = m := by
  cases acc with
  | exact => rfl
  | inexact o => cases o <;> rfl

/-- A number that has 53 digits is not shifted any more. -/
theorem shiftToTargetExponent_exact {m : ℕ} {e : ℤ} (hlo : 2 ^ 52 ≤ m) (hhi : m < 2 ^ 53)
    (he : -1074 ≤ e) :
    UnpackedFloat.shiftToTargetExponent Format.binary64 m e .exact =
      (⟨m, false, false⟩, e) := by
  have hlog : m.log2 = 52 := (Nat.log2_eq_iff (by omega)).mpr ⟨hlo, hhi⟩
  rw [shiftToTargetExponent_eq .exact (by omega) (by omega), hlog, Nat.sub_self, Nat.cast_zero,
    add_zero]
  rfl

/-- A number that the rounding has given a 54th digit is shifted by one. -/
theorem shiftToTargetExponent_carry {e : ℤ} (he : -1074 ≤ e) :
    UnpackedFloat.shiftToTargetExponent Format.binary64 (2 ^ 53) e .exact =
      (⟨2 ^ 52, false, false⟩, e + 1) := by
  have hlog : (2 ^ 53 : ℕ).log2 = 53 := Nat.log2_two_pow
  rw [shiftToTargetExponent_eq .exact (by omega) (by omega), hlog]
  show (ExtendedMantissa.shiftRightOne ⟨2 * 2 ^ 52, false, false⟩, e + 1) = _
  rw [shiftRightOne_even]
  rfl

/-- Half a unit in the last of 53 places, as a share of the number. -/
theorem abs_sub_le_of_rounded {r k : ℕ} {v : ℚ} (e : ℤ) (hv : 2 ^ 52 ≤ v / 2 ^ k)
    (hr : |(r : ℚ) - v / 2 ^ k| ≤ 1 / 2) :
    |(r : ℚ) * 2 ^ (e + k) - v * 2 ^ e| ≤ v * 2 ^ e / 2 ^ 53 := by
  have hunit : (0 : ℚ) < 2 ^ (e + k) := zpow_pos (by norm_num) _
  have hscale : v * 2 ^ e = v / 2 ^ k * 2 ^ (e + k) := by
    have hk : (2 : ℚ) ^ k ≠ 0 := pow_ne_zero k (by norm_num)
    rw [zpow_add₀ (by norm_num), zpow_natCast, mul_comm ((2 : ℚ) ^ e), ← mul_assoc,
      div_mul_cancel₀ v hk]
  rw [hscale, ← sub_mul, abs_mul, abs_of_pos hunit, mul_div_right_comm]
  exact mul_le_mul_of_nonneg_right (by linarith) hunit.le

theorem roundWithAccuracy_eq {m m' : ℕ} {e e₁ e' : ℤ} {acc : Accuracy} {em : ExtendedMantissa}
    (hfirst : UnpackedFloat.shiftToTargetExponent Format.binary64 m e acc = (em, e₁))
    (hsecond : UnpackedFloat.shiftToTargetExponent Format.binary64 em.roundedMantissa e₁ .exact =
      (⟨m', false, false⟩, e')) (hpos : 0 < m') :
    UnpackedFloat.roundWithAccuracy Format.binary64 .positive m e acc =
      .finite .positive m' e' hpos := by
  unfold UnpackedFloat.roundWithAccuracy
  generalize UnpackedFloat.shiftToTargetExponent Format.binary64 m e acc = first at hfirst ⊢
  subst hfirst
  dsimp only
  generalize UnpackedFloat.shiftToTargetExponent Format.binary64 em.roundedMantissa e₁ .exact =
    second at hsecond ⊢
  subst hsecond
  dsimp only
  rw [dif_neg hpos.ne']

/-- A rounding leaves 53 digits, and is off by no more than half a unit of
the last. -/
theorem roundWithAccuracy_hasDigits {m : ℕ} {e : ℤ} {acc : Accuracy} {v : ℚ} (hm : 2 ^ 52 ≤ m)
    (h : Brackets (ExtendedMantissa.ofMantissaAndAccuracy m acc) v)
    (hr : InRange (v * 2 ^ e)) :
    ∃ m' e', HasDigits (UnpackedFloat.roundWithAccuracy Format.binary64 .positive m e acc) m' e' ∧
      |(m' : ℚ) * 2 ^ e' - v * 2 ^ e| ≤ v * 2 ^ e / 2 ^ 53 := by
  have hmant := mantissa_ofMantissaAndAccuracy m acc
  have hpos : 0 < m := by omega
  obtain ⟨hlo, hhi⟩ := log2_bounds (by rw [hmant]; exact hpos) h hr
  rw [hmant] at hlo hhi
  have hlog : 52 ≤ m.log2 := (Nat.le_log2 hpos.ne').mpr hm
  obtain ⟨k, hk⟩ : ∃ k, m.log2 - 52 = k := ⟨_, rfl⟩
  have hshift := h.shiftRight k
  have hfirst := shiftToTargetExponent_eq (e := e) acc hlog (by omega)
  rw [hk] at hfirst
  have hmantissa : (ExtendedMantissa.ofMantissaAndAccuracy m acc >>> k).mantissa = m / 2 ^ k := by
    rw [mantissa_shiftRight, hmant]
  generalize ExtendedMantissa.ofMantissaAndAccuracy m acc >>> k = em at hshift hfirst hmantissa
  have hmin : 2 ^ 52 ≤ em.mantissa := by
    rw [hmantissa, Nat.le_div_iff_mul_le (by positivity), ← pow_add,
      show 52 + k = m.log2 by omega]
    exact Nat.log2_self_le hpos.ne'
  have hmax : em.mantissa < 2 ^ 53 := by
    rw [hmantissa, Nat.div_lt_iff_lt_mul (by positivity), ← pow_add,
      show 53 + k = m.log2 + 1 by omega]
    exact Nat.lt_log2_self
  obtain ⟨hrlo, hrhi⟩ := hshift.roundedMantissa_le
  have herr := abs_sub_le_of_rounded e
    ((by exact_mod_cast hmin : (2 : ℚ) ^ 52 ≤ em.mantissa).trans hshift.le)
    hshift.abs_roundedMantissa_sub_le
  by_cases hcarry : em.roundedMantissa < 2 ^ 53
  · have hround := roundWithAccuracy_eq hfirst
      (shiftToTargetExponent_exact (by omega) hcarry (by omega)) (by omega)
    exact ⟨_, _, ⟨by omega, hcarry, by omega, by omega, hround⟩, herr⟩
  · have hfull : em.roundedMantissa = 2 ^ 53 := by omega
    have hsecond := shiftToTargetExponent_carry (e := e + k) (by omega)
    rw [← hfull] at hsecond
    have hround := roundWithAccuracy_eq hfirst hsecond (by decide)
    refine ⟨_, _, ⟨le_rfl, by decide, by omega, by omega, hround⟩, ?_⟩
    have hsame : ((2 ^ 52 : ℕ) : ℚ) * 2 ^ (e + k + 1) = em.roundedMantissa * 2 ^ (e + k) := by
      rw [hfull, zpow_add₀ (by norm_num) (e + k) 1]
      push_cast
      ring
    rw [hsame]
    exact herr

/-! ## Doubles by their values -/

def HasValue (x : Float) (q : ℚ) : Prop :=
  ∃ m e, HasDigits x.toModel.unpack m e ∧ q = m * 2 ^ e

theorem hasValue_of_pack {x : Float} {u : UnpackedFloat} {m : ℕ} {e : ℤ} (h : HasDigits u m e)
    (hx : x.toModel = pack u) : HasValue x (m * 2 ^ e) := by
  refine ⟨m, e, ?_, rfl⟩
  rw [hx, unpack_pack h]
  exact h

theorem HasValue.mul {x y : Float} {a b : ℚ} (hx : HasValue x a) (hy : HasValue y b)
    (hr : InRange (a * b)) : ∃ c, HasValue (x * y) c ∧ |c - a * b| ≤ a * b / 2 ^ 53 := by
  obtain ⟨m, e, hm, rfl⟩ := hx
  obtain ⟨n, f, hn, rfl⟩ := hy
  have hprod : (m : ℚ) * 2 ^ e * (n * 2 ^ f) = (m * n : ℕ) * 2 ^ (e + f) := by
    rw [zpow_add₀ (by norm_num)]
    push_cast
    ring
  rw [hprod] at hr ⊢
  have hlong : 2 ^ 52 ≤ m * n :=
    hm.mantissa_lo.trans (Nat.le_mul_of_pos_right m hn.pos)
  have hexact : Brackets (ExtendedMantissa.ofMantissaAndAccuracy (m * n) .exact) (m * n : ℕ) :=
    .exact _
  obtain ⟨m', e', hd, herr⟩ := roundWithAccuracy_hasDigits hlong hexact hr
  refine ⟨_, hasValue_of_pack hd ?_, herr⟩
  have hxy : (x * y).toModel =
      pack (UnpackedFloat.mul Format.binary64 x.toModel.unpack y.toModel.unpack) := rfl
  rw [hxy, hm.eq, hn.eq]
  rfl

/-- A quotient of 53 digits by 53 digits is taken with 53 more digits. -/
theorem divCore_eq {m n : ℕ} {e f : ℤ} (hm : m.log2 = 52) (hn : n.log2 = 52)
    (hef : -1021 ≤ e - f) :
    UnpackedFloat.divCore Format.binary64 m e n f =
      (m * 2 ^ 53 / n, e - f - 53, UnpackedFloat.accuracyOfFraction (m * 2 ^ 53 % n) n) := by
  have htarget : min (e - f)
      (Format.binary64.targetExponent (totalExponent m e - totalExponent n f)) = e - f - 53 := by
    have hbits : (Format.binary64.mantissaBits : ℤ) = 53 := rfl
    have hmin : Format.binary64.minExponent = -1074 := rfl
    unfold Format.targetExponent totalExponent
    omega
  have hshift : (e - f - (e - f - 53)).toNat = 53 := by omega
  unfold UnpackedFloat.divCore
  simp only [htarget, hshift, Nat.shiftLeft_eq]

theorem HasValue.div {x y : Float} {a b : ℚ} (hx : HasValue x a) (hy : HasValue y b)
    (hr : InRange (a / b)) : ∃ c, HasValue (x / y) c ∧ |c - a / b| ≤ a / b / 2 ^ 53 := by
  obtain ⟨m, e, hm, rfl⟩ := hx
  obtain ⟨n, f, hn, rfl⟩ := hy
  have hnpos : (0 : ℚ) < n := by exact_mod_cast hn.pos
  have hquot : (m : ℚ) * 2 ^ e / (n * 2 ^ f) = m / n * 2 ^ (e - f) := by
    rw [mul_div_mul_comm, ← zpow_sub₀ (by norm_num)]
  have hlong : (m : ℚ) / n * 2 ^ (e - f) = (m * 2 ^ 53 : ℕ) / n * 2 ^ (e - f - 53) := by
    rw [zpow_sub₀ (by norm_num) (e - f) 53]
    push_cast
    ring
  have hef : -1021 ≤ e - f := by
    have htwo : (m : ℚ) / n < 2 ^ (1 : ℤ) := by
      rw [div_lt_iff₀ hnpos]
      have hmn : m < 2 * n := by
        have := hm.mantissa_hi
        have := hn.mantissa_lo
        omega
      exact_mod_cast hmn
    have hlt : (2 : ℚ) ^ (-1021 : ℤ) < 2 ^ (1 + (e - f)) := by
      rw [zpow_add₀ (by norm_num)]
      calc (2 : ℚ) ^ (-1021 : ℤ) ≤ m / n * 2 ^ (e - f) := hquot ▸ hr.lo
        _ < _ := mul_lt_mul_of_pos_right htwo (zpow_pos (by norm_num) _)
    rw [two_zpow_lt_iff] at hlt
    omega
  rw [hquot, hlong] at hr ⊢
  have hmin : 2 ^ 52 ≤ m * 2 ^ 53 / n := by
    rw [Nat.le_div_iff_mul_le hn.pos]
    exact Nat.mul_le_mul hm.mantissa_lo hn.mantissa_hi.le
  obtain ⟨m', e', hd, herr⟩ :=
    roundWithAccuracy_hasDigits hmin (brackets_div (m * 2 ^ 53) hn.pos) hr
  refine ⟨_, hasValue_of_pack hd ?_, herr⟩
  have hxy : (x / y).toModel =
      pack (UnpackedFloat.div Format.binary64 x.toModel.unpack y.toModel.unpack) := rfl
  have hcore := divCore_eq (hm.log2_eq) (hn.log2_eq) hef
  rw [hxy, hm.eq, hn.eq]
  show pack (UnpackedFloat.roundWithAccuracy Format.binary64 .positive
    (UnpackedFloat.divCore Format.binary64 m e n f).1
    (UnpackedFloat.divCore Format.binary64 m e n f).2.1
    (UnpackedFloat.divCore Format.binary64 m e n f).2.2) = _
  rw [hcore]

theorem hasValue_toFloat {n : UInt64} (hpos : 0 < n.toNat) (hn : n.toNat < 2 ^ 53) :
    HasValue n.toFloat n.toNat := by
  generalize hm : n.toNat = m at hpos hn
  have hlog : m.log2 < 53 := (Nat.log2_lt hpos.ne').mpr hn
  obtain ⟨k, hk⟩ : ∃ k, 52 - m.log2 = k := ⟨_, rfl⟩
  have hlo : 2 ^ 52 ≤ m * 2 ^ k := by
    calc 2 ^ 52 = 2 ^ m.log2 * 2 ^ k := by rw [← pow_add, show m.log2 + k = 52 by omega]
      _ ≤ m * 2 ^ k := Nat.mul_le_mul_right _ (Nat.log2_self_le hpos.ne')
  have hhi : m * 2 ^ k < 2 ^ 53 := by
    calc m * 2 ^ k < 2 ^ (m.log2 + 1) * 2 ^ k :=
          Nat.mul_lt_mul_of_pos_right Nat.lt_log2_self (by positivity)
      _ = 2 ^ 53 := by rw [← pow_add, show m.log2 + 1 + k = 53 by omega]
  have hdecrease : UnpackedFloat.decreaseExponent m 0
      (Format.binary64.targetExponent (totalExponent m 0)) = (m * 2 ^ k, -(k : ℤ)) := by
    have htarget : Format.binary64.targetExponent (totalExponent m 0) = m.log2 - 52 := by
      have hbits : (Format.binary64.mantissaBits : ℤ) = 53 := rfl
      have hmin : Format.binary64.minExponent = -1074 := rfl
      unfold Format.targetExponent totalExponent
      omega
    have hshift : (0 - ((m.log2 : ℤ) - 52)).toNat = k := by omega
    unfold UnpackedFloat.decreaseExponent
    rw [htarget, hshift]
    simp [Nat.shiftLeft_eq]
  have hexact := shiftToTargetExponent_exact (e := -(k : ℤ)) hlo hhi (by omega)
  have hround := roundWithAccuracy_eq hexact hexact (by omega)
  have hd : HasDigits (UnpackedFloat.roundWithAccuracy Format.binary64 .positive (m * 2 ^ k)
      (-(k : ℤ)) .exact) (m * 2 ^ k) (-(k : ℤ)) :=
    ⟨hlo, hhi, by omega, by omega, hround⟩
  have hpack : n.toFloat.toModel = pack (UnpackedFloat.roundWithAccuracy Format.binary64 .positive
      (m * 2 ^ k) (-(k : ℤ)) .exact) := by
    have hn : n.toFloat.toModel =
        pack (UnpackedFloat.normalize Format.binary64 (m : ℤ) 0 .positive) := by
      rw [← hm]
      rfl
    have hcmp : compare (m : ℤ) 0 = .gt := by
      rw [compare_gt_iff_gt]
      omega
    rw [hn]
    unfold UnpackedFloat.normalize
    rw [hcmp]
    show pack (UnpackedFloat.roundWithAccuracy Format.binary64 .positive
      (UnpackedFloat.decreaseExponent m 0
        (Format.binary64.targetExponent (totalExponent m 0))).1
      (UnpackedFloat.decreaseExponent m 0
        (Format.binary64.targetExponent (totalExponent m 0))).2 .exact) = _
    rw [hdecrease]
  have hvalue : ((m * 2 ^ k : ℕ) : ℚ) * 2 ^ (-(k : ℤ)) = m := by
    have htwo : (2 : ℚ) ^ k ≠ 0 := pow_ne_zero k (by norm_num)
    rw [zpow_neg, zpow_natCast]
    push_cast
    rw [mul_assoc, mul_inv_cancel₀ htwo, mul_one]
  rw [← hvalue]
  exact hasValue_of_pack hd hpack

theorem toNat_roundToInt (m : ℕ) (e : ℤ) :
    (UnpackedFloat.roundToInt .positive m e).toNat = ⌊(m : ℚ) * 2 ^ e⌋₊ := by
  obtain ⟨k, rfl | rfl⟩ := e.eq_nat_or_neg
  · have hfloor : (m : ℚ) * 2 ^ (k : ℤ) = (m * 2 ^ k : ℕ) := by
      rw [zpow_natCast]
      push_cast
      rfl
    rw [hfloor, Nat.floor_natCast]
    unfold UnpackedFloat.roundToInt UnpackedFloat.decreaseExponent UnpackedFloat.shiftToExponent
    simp only [sub_zero, Int.toNat_natCast, sub_self, Int.toNat_zero, Nat.shiftLeft_eq]
    rfl
  · have hfloor : (m : ℚ) * 2 ^ (-(k : ℤ)) = (m : ℚ) / (2 ^ k : ℕ) := by
      rw [zpow_neg, zpow_natCast, div_eq_mul_inv]
      push_cast
      rfl
    rw [hfloor, Nat.floor_div_eq_div]
    unfold UnpackedFloat.roundToInt UnpackedFloat.decreaseExponent UnpackedFloat.shiftToExponent
    have hleft : (-(k : ℤ) - 0).toNat = 0 := by omega
    have hright : (0 - (-(k : ℤ) - (0 : ℕ))).toNat = k := by omega
    simp only [hleft, hright, Nat.shiftLeft_zero]
    show (ExtendedMantissa.ofMantissaAndAccuracy m .exact >>> k).mantissa = _
    rw [mantissa_shiftRight, mantissa_ofMantissaAndAccuracy]

theorem HasValue.toUInt64 {x : Float} {a : ℚ} (h : HasValue x a) :
    x.toUInt64.toNat = min ⌊a⌋₊ (2 ^ 64 - 1) := by
  obtain ⟨m, e, hd, rfl⟩ := h
  have hclamp (n : ℕ) : (UInt64.ofNatClamp n).toNat = min n (2 ^ 64 - 1) := by
    unfold UInt64.ofNatClamp
    have hsize : UInt64.size = 2 ^ 64 := rfl
    split
    · rw [UInt64.toNat_ofNatLT]
      omega
    · rw [UInt64.toNat_ofNatLT]
      omega
  have hx : x.toUInt64 = UInt64.ofNatClamp (UnpackedFloat.toInt 0 (UInt64.size - 1)
      x.toModel.unpack).toNat := rfl
  rw [hx, hd.eq, hclamp]
  congr 1
  exact toNat_roundToInt m e

end Binary64
