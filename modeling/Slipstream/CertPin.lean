import Mathlib.Data.List.DropRight
import Slipstream.Hex

/-!
# The pinned server certificate

The QUIC transport checks the server's certificate against a SHA-256
digest taken from the environment, and checks nothing where it has no
digest. It has none if the variable is not set, and also if its value is
not one: every step of `SkipServerVerification.new` that fails ends in
the same `none`. `acceptsPinnedOnly_iff` says for which values the
verifier accepts the pinned certificate only.
-/

namespace Slipstream

/-- The `White_Space` property of Unicode. -/
def isWhitespace (c : Char) : Bool :=
  (9 ≤ c.toNat && c.toNat ≤ 13) || c.toNat == 0x20 || c.toNat == 0x85 || c.toNat == 0xa0
    || c.toNat == 0x1680 || (0x2000 ≤ c.toNat && c.toNat ≤ 0x200a) || c.toNat == 0x2028
    || c.toNat == 0x2029 || c.toNat == 0x202f || c.toNat == 0x205f || c.toNat == 0x3000

/-- `str::trim`. -/
def trim (s : String) : List Char :=
  (s.toList.dropWhile isWhitespace).rdropWhile isWhitespace

/-- Why `std::env::var` has no value. -/
inductive VarError where
  | notPresent
  | notUnicode
deriving Repr, DecidableEq

inductive TlsError where
  | general (msg : String)
deriving Repr, DecidableEq

/-- A SHA-256 digest. -/
abbrev Digest := { bytes : List UInt8 // bytes.length = 32 }

structure SkipServerVerification where
  pinnedSha256 : Option (List UInt8)
deriving Repr, DecidableEq

namespace SkipServerVerification

/-- The verifier for a value of `SLIPSTREAM_PINNED_CERT_SHA256`. -/
def new (pinnedCertSha256 : Except VarError String) : SkipServerVerification where
  pinnedSha256 :=
    (pinnedCertSha256.toOption.bind fun h => Hex.decode (trim h)).filter fun b =>
      b.length == 32

variable (sha256 : List UInt8 → Digest)

def verifyServerCert (v : SkipServerVerification) (endEntity : List UInt8) :
    Except TlsError Unit :=
  match v.pinnedSha256 with
  | some expected =>
      if (sha256 endEntity).val = expected then .ok ()
      else .error (.general "server certificate fingerprint mismatch")
  | none => .ok ()

/-- The value is the hex form of the certificate's digest, in either
case, between blanks. -/
def Pins (value : String) (endEntity : List UInt8) : Prop :=
  (trim value).map Char.toLower = Hex.encode (sha256 endEntity).val

/-- A certificate is accepted only if it is the pinned one. -/
def AcceptsPinnedOnly (value : String) (endEntity : List UInt8) : Prop :=
  verifyServerCert sha256 (new (.ok value)) endEntity = .ok () → Pins sha256 value endEntity

/-- Between blanks the value is 64 hex digits. -/
def IsDigest (value : String) : Prop :=
  (trim value).length = 64 ∧ ∀ c ∈ trim value, (Hex.digit c).isSome = true

theorem isDigest_iff {value : String} :
    IsDigest value ↔ ∃ pin, Hex.decode (trim value) = some pin ∧ pin.length = 32 :=
  (@Hex.decode_length_iff 32 (trim value)).symm

theorem new_of_isDigest {value : String} {pin : List UInt8}
    (hdecode : Hex.decode (trim value) = some pin) (hlen : pin.length = 32) :
    new (.ok value) = ⟨some pin⟩ := by
  have hval : (Except.ok value : Except VarError String).toOption = some value := rfl
  rw [new, hval, Option.bind_some, hdecode, Option.filter_some, hlen]
  rfl

/-- A value that is no digest counts as none. -/
theorem new_of_not_isDigest {value : String} (h : ¬ IsDigest value) :
    new (.ok value) = ⟨none⟩ := by
  have hval : (Except.ok value : Except VarError String).toOption = some value := rfl
  rw [new, hval, Option.bind_some]
  cases hdecode : Hex.decode (trim value) with
  | none => rfl
  | some pin =>
      have hlen : pin.length ≠ 32 := fun hlen => h (isDigest_iff.mpr ⟨pin, hdecode, hlen⟩)
      rw [Option.filter_some, if_neg (by simpa using hlen)]

/-- A value pins a certificate to the digest it decodes to. -/
theorem pins_iff {value : String} {endEntity : List UInt8} :
    Pins sha256 value endEntity
      ↔ Hex.decode (trim value) = some (sha256 endEntity).val :=
  Hex.decode_eq_some_iff.symm

/-- Pinning does not fail open exactly for the values that are a
digest. -/
theorem acceptsPinnedOnly_iff (value : String) (endEntity : List UInt8) :
    AcceptsPinnedOnly sha256 value endEntity ↔ IsDigest value := by
  unfold AcceptsPinnedOnly
  rw [pins_iff]
  constructor
  · intro h
    by_contra hnot
    rw [new_of_not_isDigest hnot] at h
    exact hnot (isDigest_iff.mpr ⟨_, h rfl, (sha256 endEntity).property⟩)
  · intro h hok
    obtain ⟨pin, hdecode, hlen⟩ := isDigest_iff.mp h
    rw [new_of_isDigest hdecode hlen, verifyServerCert] at hok
    dsimp only at hok
    split at hok
    · rename_i heq
      rw [hdecode, heq]
    · cases hok

/-- The digest of `certificate`, as `sha256sum` prints it. -/
def fingerprint : List UInt8 :=
  [0x1b, 0x65, 0xf6, 0x8a, 0x52, 0x2c, 0x85, 0x87, 0x15, 0xf5, 0xdd, 0x95, 0x1c, 0xd0, 0x40,
    0x2d, 0xc1, 0x66, 0x91, 0x77, 0x88, 0x14, 0xbf, 0x07, 0x59, 0x82, 0x2b, 0x7a, 0x25, 0x74,
    0x21, 0xd0]

def certificate : List UInt8 := [0x30, 0x03, 0x02, 0x01, 0x01]

/-- A pin in the notation with colons accepts any certificate. -/
theorem colons_accept_any :
    let sha256 : List UInt8 → Digest := fun _ => ⟨fingerprint, rfl⟩
    let value := "AB:CD:EF"
    verifyServerCert sha256 (new (.ok value)) certificate = .ok ()
      ∧ ¬ AcceptsPinnedOnly sha256 value certificate := by
  intro sha256 value
  have hopen : verifyServerCert sha256 (new (.ok value)) certificate = .ok () := by decide
  refine ⟨hopen, fun h => ?_⟩
  have hpins := h hopen
  revert hpins
  unfold Pins
  decide

end SkipServerVerification

end Slipstream
