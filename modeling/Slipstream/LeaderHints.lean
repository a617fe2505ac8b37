import Slipstream.MultiRegion
import Slipstream.QuicTotal
import Slipstream.WsMessage

/-!
# Leader hints and their validity

A hint reaches a `MultiRegionClient` as a QUIC payload, a WebSocket or a
gRPC message, or as the JSON of an HTTP response. If it passes the
confidence and the cooldown check it is turned into a recommendation,
whose validity is the number of its slots times 400 ms, in plain `u64`
arithmetic: a panic or a wrapped value, depending on the build, where a
server reports slots for which it does not fit.

The QUIC decoder adds the slots that remain to the current slot, so its
hints are always in range; the others pass on what the server says
(`check_safe_iff`).
-/

namespace Slipstream

/-! ## The hints of each transport -/

/-- The gRPC message. -/
structure GrpcLeaderHint where
  timestamp : UInt64
  slot : UInt64
  expiresAtSlot : UInt64
  preferredRegion : String
  backupRegions : List String
  confidence : UInt32
  leaderPubkey : String
  metadata : Option WsLeaderHintMetadata
deriving DecidableEq

/-- `GrpcTransport::convert_leader_hint`. -/
def GrpcLeaderHint.convert (proto : GrpcLeaderHint) : LeaderHint where
  timestamp := proto.timestamp
  slot := proto.slot
  expiresAtSlot := proto.expiresAtSlot
  preferredRegion := proto.preferredRegion
  backupRegions := proto.backupRegions
  confidence := proto.confidence
  leaderPubkey := proto.leaderPubkey
  metadata :=
    match proto.metadata with
    | some m => ⟨m.tpuRttMs, m.regionScore, none, none⟩
    | none => ⟨0, 0.0, none, none⟩

/-- A hint as a transport gets it. -/
inductive HintMessage where
  | quic (payload : List UInt8)
  | webSocket (hint : WsLeaderHint)
  | grpc (proto : GrpcLeaderHint)
  | http (hint : LeaderHint)

open Bytes

/-- What the transport hands on, if anything. -/
def HintMessage.leaderHint : HintMessage → Checked (Option LeaderHint)
  | .quic payload => do
      match ← QuicStream.decode .leaderHints payload with
      | some (.leaderHint hint) => pure (some hint)
      | _ => pure none
  | .webSocket hint => pure (some (convertLeaderHint hint))
  | .grpc proto => pure (some proto.convert)
  | .http hint => pure (some hint)

/-! ## From a hint to a recommendation -/

namespace Routing

/-- What happens on an overflow: a panic, or the value modulo `2^64`. -/
inductive Build where
  | debug
  | release
deriving Repr, DecidableEq

/-- `a - b` in `u64`. -/
def sub (build : Build) (a b : UInt64) : Checked UInt64 :=
  match build with
  | .debug => if b ≤ a then .ok (a - b) else .error .arithmeticOverflow
  | .release => .ok (a - b)

/-- `a * b` in `u64`. -/
def mul (build : Build) (a b : UInt64) : Checked UInt64 :=
  match build with
  | .debug => checkedMul a b
  | .release => .ok (a * b)

/-- `(hint.expires_at_slot - hint.slot) * 400`. -/
def validForMs (build : Build) (hint : LeaderHint) : Checked UInt64 := do
  mul build (← sub build hint.expiresAtSlot hint.slot) 400

def recommend (build : Build) (hint : LeaderHint) : Checked RoutingRecommendation := do
  let validForMs ← validForMs build hint
  pure
    { bestRegion := hint.preferredRegion
      leaderPubkey := hint.leaderPubkey
      slot := hint.slot
      confidence := hint.confidence
      expectedRttMs := some hint.metadata.tpuRttMs
      fallbackRegions := hint.backupRegions
      fallbackStrategy := .sequential
      validForMs := validForMs }

structure MultiRegionConfig where
  minSwitchConfidence : UInt32 := 60
  switchCooldownMs : UInt64 := 500
deriving Repr, DecidableEq

def MultiRegionConfig.cooldown (config : MultiRegionConfig) : Duration :=
  .fromMillis config.switchCooldownMs.toNat

/-- The hint is dropped for its confidence, or because of the cooldown. -/
def drops (config : MultiRegionConfig) (lastSwitch : Option Nat) (now : Nat)
    (hint : LeaderHint) : Bool :=
  decide (hint.confidence < config.minSwitchConfidence)
    || lastSwitch.any fun last => decide (now - last < config.cooldown)

/-- An update up to the point where it takes the routing lock; the body
of the listener and `update_routing_from_hint` are the same here. -/
def check (build : Build) (config : MultiRegionConfig) (lastSwitch : Option Nat) (now : Nat)
    (hint : LeaderHint) : Checked (Option RoutingRecommendation) :=
  if drops config lastSwitch now hint then pure none
  else do pure (some (← recommend build hint))

/-! ## The range of the slots -/

/-- The slots do not run backwards, and the validity is below `2^64`. -/
def InRange (slot expiresAtSlot : UInt64) : Prop :=
  slot ≤ expiresAtSlot ∧ (expiresAtSlot.toNat - slot.toNat) * 400 < 2 ^ 64

instance (slot expiresAtSlot : UInt64) : Decidable (InRange slot expiresAtSlot) :=
  inferInstanceAs (Decidable (_ ∧ _))

theorem toNat_validForMs {slot expiresAtSlot : UInt64} (h : InRange slot expiresAtSlot) :
    ((expiresAtSlot - slot) * 400).toNat = (expiresAtSlot.toNat - slot.toNat) * 400 := by
  obtain ⟨hle, hlt⟩ := h
  have h400 : (400 : UInt64).toNat = 400 := rfl
  rw [UInt64.toNat_mul, UInt64.toNat_sub_of_le _ _ hle, h400, Nat.mod_eq_of_lt hlt]

/-- In range both builds compute the same validity. -/
theorem validForMs_of_inRange (build : Build) {hint : LeaderHint}
    (h : InRange hint.slot hint.expiresAtSlot) :
    validForMs build hint = .ok ((hint.expiresAtSlot - hint.slot) * 400) := by
  cases build with
  | release => rfl
  | debug =>
      have hmul : (hint.expiresAtSlot - hint.slot).toNat * (400 : UInt64).toNat < 2 ^ 64 := by
        rw [UInt64.toNat_sub_of_le _ _ h.1]
        exact h.2
      rw [validForMs, sub]
      simp only [h.1, if_true]
      exact checkedMul_ok hmul

/-- Out of range the debug build panics. -/
theorem validForMs_debug {hint : LeaderHint}
    (h : ¬ InRange hint.slot hint.expiresAtSlot) :
    validForMs .debug hint = .error .arithmeticOverflow := by
  rw [validForMs, sub]
  by_cases hle : hint.slot ≤ hint.expiresAtSlot
  · have hmul : ¬ (hint.expiresAtSlot - hint.slot).toNat * (400 : UInt64).toNat < 2 ^ 64 := by
      rw [UInt64.toNat_sub_of_le _ _ hle]
      exact fun hlt => h ⟨hle, hlt⟩
    simp only [hle, if_true]
    exact if_neg hmul
  · simp only [hle, if_false]
    rfl

/-- Out of range the value is not the one in the integers, whatever the
build makes of it. -/
theorem ne_validity_of_not_inRange {slot expiresAtSlot : UInt64}
    (h : ¬ InRange slot expiresAtSlot) (v : UInt64) :
    (v.toNat : Int) ≠ ((expiresAtSlot.toNat : Int) - slot.toNat) * 400 := by
  intro heq
  have hv := v.toNat_lt
  have hle : slot.toNat ≤ expiresAtSlot.toNat := by omega
  exact h ⟨hle, by omega⟩

theorem recommend_of_inRange (build : Build) {hint : LeaderHint}
    (h : InRange hint.slot hint.expiresAtSlot) :
    recommend build hint = .ok (MultiRegion.recommendationOf hint) := by
  rw [recommend, validForMs_of_inRange build h]
  rfl

/-- There is one recommendation a hint can become. -/
theorem recommend_eq_ok {build : Build} {hint : LeaderHint} {r : RoutingRecommendation}
    (h : recommend build hint = .ok r) : r = MultiRegion.recommendationOf hint := by
  by_cases hrange : InRange hint.slot hint.expiresAtSlot
  · exact Except.ok.inj (h.symm.trans (recommend_of_inRange build hrange))
  · cases build with
    | debug =>
        rw [recommend, validForMs_debug hrange] at h
        cases h
    | release => exact (Except.ok.inj h).symm

theorem check_of_drops (build : Build) {config : MultiRegionConfig} {lastSwitch : Option Nat}
    {now : Nat} {hint : LeaderHint} (h : drops config lastSwitch now hint = true) :
    check build config lastSwitch now hint = .ok none := if_pos h

theorem check_of_keeps (build : Build) {config : MultiRegionConfig} {lastSwitch : Option Nat}
    {now : Nat} {hint : LeaderHint} (h : drops config lastSwitch now hint = false) :
    check build config lastSwitch now hint = (recommend build hint).map some := by
  rw [check, h]
  cases hr : recommend build hint <;> rfl

/-- Whatever the build, the update goes on, with the validity of the
hint, or a bounded one where that is out of range. -/
def Safe (bound : UInt64) (config : MultiRegionConfig) (lastSwitch : Option Nat) (now : Nat)
    (hint : LeaderHint) : Prop :=
  ∀ build, ∃ kept, check build config lastSwitch now hint = .ok kept
    ∧ ∀ r ∈ kept,
      (InRange hint.slot hint.expiresAtSlot →
          r.validForMs.toNat = (hint.expiresAtSlot.toNat - hint.slot.toNat) * 400)
        ∧ (¬ InRange hint.slot hint.expiresAtSlot → r.validForMs ≤ bound)

/-- In this build the update goes on, and computes in `u64` what it would
in the integers. -/
def Exact (build : Build) (config : MultiRegionConfig) (lastSwitch : Option Nat) (now : Nat)
    (hint : LeaderHint) : Prop :=
  ∃ kept, check build config lastSwitch now hint = .ok kept
    ∧ ∀ r ∈ kept,
      (r.validForMs.toNat : Int) = ((hint.expiresAtSlot.toNat : Int) - hint.slot.toNat) * 400

section Check

variable {config : MultiRegionConfig} {lastSwitch : Option Nat} {now : Nat}
  {hint : LeaderHint}

/-- A hint that is dropped or in range passes, and is kept with its
validity. -/
theorem check_of_inRange (build : Build)
    (h : drops config lastSwitch now hint = true ∨ InRange hint.slot hint.expiresAtSlot) :
    ∃ kept, check build config lastSwitch now hint = .ok kept
      ∧ ∀ r ∈ kept, InRange hint.slot hint.expiresAtSlot
        ∧ r.validForMs.toNat = (hint.expiresAtSlot.toNat - hint.slot.toNat) * 400 := by
  cases hdrops : drops config lastSwitch now hint with
  | true =>
      refine ⟨none, check_of_drops build hdrops, fun r hr => ?_⟩
      cases hr
  | false =>
      rcases h with hdrop | hrange
      · rw [hdrops] at hdrop
        cases hdrop
      · refine ⟨some (MultiRegion.recommendationOf hint), ?_, fun r hr => ?_⟩
        · rw [check_of_keeps build hdrops, recommend_of_inRange build hrange]
          rfl
        · obtain rfl := Option.some.inj hr
          exact ⟨hrange, toNat_validForMs hrange⟩

theorem safe_iff (bound : UInt64) :
    Safe bound config lastSwitch now hint
      ↔ drops config lastSwitch now hint = true ∨ InRange hint.slot hint.expiresAtSlot := by
  constructor
  · intro hsafe
    by_contra hno
    obtain ⟨hdrops, hout⟩ := not_or.mp hno
    -- the debug build does not get to a value
    obtain ⟨kept, hcheck, -⟩ := hsafe .debug
    rw [check_of_keeps .debug (Bool.eq_false_of_not_eq_true hdrops), recommend,
      validForMs_debug hout] at hcheck
    cases hcheck
  · intro h build
    obtain ⟨kept, hcheck, hkept⟩ := check_of_inRange build h
    refine ⟨kept, hcheck, fun r hr => ?_⟩
    obtain ⟨hrange, hvalid⟩ := hkept r hr
    exact ⟨fun _ => hvalid, fun hout => absurd hrange hout⟩

theorem exact_iff (build : Build) :
    Exact build config lastSwitch now hint
      ↔ drops config lastSwitch now hint = true ∨ InRange hint.slot hint.expiresAtSlot := by
  constructor
  · rintro ⟨kept, hcheck, hexact⟩
    by_contra hno
    obtain ⟨hdrops, hout⟩ := not_or.mp hno
    rw [check_of_keeps build (Bool.eq_false_of_not_eq_true hdrops)] at hcheck
    obtain ⟨r, -, rfl⟩ := map_eq_ok_iff.mp hcheck
    exact ne_validity_of_not_inRange hout r.validForMs (hexact r rfl)
  · intro h
    obtain ⟨kept, hcheck, hkept⟩ := check_of_inRange build h
    refine ⟨kept, hcheck, fun r hr => ?_⟩
    obtain ⟨⟨hle, -⟩, hvalid⟩ := hkept r hr
    have hslots : hint.slot.toNat ≤ hint.expiresAtSlot.toNat := hle
    omega

end Check

end Routing

/-! ## The hints that are in range -/

open Routing

/-- What a decoder makes of a payload is in range: the slot is a
timestamp by 400, and what is added to it is 32 bits wide. -/
theorem inRange_decode {payload : List UInt8} {hint : LeaderHint}
    (h : QuicStream.decode .leaderHints payload = .ok (some (.leaderHint hint))) :
    InRange hint.slot hint.expiresAtSlot := by
  obtain ⟨o, ho⟩ := QuicStream.noPanic_read payload .leaderHints
  cases o with
  | none =>
      rw [QuicStream.decode_of_read_none ho] at h
      cases h
  | some m =>
      rw [QuicStream.decode_of_read_some ho] at h
      have hkind := QuicStream.read_kind ho
      cases m with
      | leaderHint m =>
          rw [QuicStream.WireMessage.toItem_eq (m := .leaderHint m) trivial] at h
          obtain rfl := StreamItem.leaderHint.inj (Option.some.inj (Except.ok.inj h))
          have hts := m.timestamp.toNat_lt
          have hslots := m.slotsRemaining.toNat_lt
          have hadd : (m.timestamp / 400 + m.slotsRemaining.toUInt64).toNat
              = m.timestamp.toNat / 400 + m.slotsRemaining.toNat := by
            rw [UInt64.toNat_add, UInt64.toNat_div, UInt32.toNat_toUInt64]
            have h400 : (400 : UInt64).toNat = 400 := rfl
            rw [h400, Nat.mod_eq_of_lt (by omega)]
          have hslot : (m.timestamp / 400).toNat = m.timestamp.toNat / 400 :=
            UInt64.toNat_div ..
          refine ⟨?_, ?_⟩
          · rw [UInt64.le_iff_toNat_le]
            dsimp only
            omega
          · dsimp only
            omega
      | _ => cases hkind

/-- What a message has to be for its hint to be in range: from QUIC it
always is. -/
def HintMessage.InRange : HintMessage → Prop
  | .quic _ => True
  | .webSocket hint => Routing.InRange hint.slot hint.expiresAtSlot
  | .grpc proto => Routing.InRange proto.slot proto.expiresAtSlot
  | .http hint => Routing.InRange hint.slot hint.expiresAtSlot

theorem HintMessage.inRange_iff {m : HintMessage} {hint : LeaderHint}
    (h : m.leaderHint = .ok (some hint)) :
    m.InRange ↔ Routing.InRange hint.slot hint.expiresAtSlot := by
  cases m with
  | quic payload =>
      refine iff_of_true trivial ?_
      rw [HintMessage.leaderHint] at h
      cases hdecode : QuicStream.decode .leaderHints payload with
      | error e =>
          rw [hdecode] at h
          cases h
      | ok item =>
          rw [hdecode] at h
          cases item with
          | none => cases h
          | some item =>
              cases item with
              | leaderHint hint' =>
                  obtain rfl := Option.some.inj (Except.ok.inj h)
                  exact inRange_decode hdecode
              | _ => cases h
  | webSocket ws =>
      obtain rfl := Option.some.inj (Except.ok.inj h)
      exact Iff.rfl
  | grpc proto =>
      obtain rfl := Option.some.inj (Except.ok.inj h)
      exact Iff.rfl
  | http hint' =>
      obtain rfl := Option.some.inj (Except.ok.inj h)
      exact Iff.rfl

/-- The hint of a message is safe, in every build, exactly if it is
dropped or the message is in range; and no single build computes the
right validity of any other. -/
theorem check_safe_iff {m : HintMessage} {hint : LeaderHint}
    (h : m.leaderHint = .ok (some hint)) (bound : UInt64) (config : MultiRegionConfig)
    (lastSwitch : Option Nat) (now : Nat) :
    (Safe bound config lastSwitch now hint
        ↔ drops config lastSwitch now hint = true ∨ m.InRange)
      ∧ ∀ build, Exact build config lastSwitch now hint
        ↔ drops config lastSwitch now hint = true ∨ m.InRange := by
  rw [HintMessage.inRange_iff h]
  exact ⟨safe_iff bound, exact_iff⟩

/-- A WebSocket hint for these slots. -/
def wsHint (slot expiresAtSlot : UInt64) : WsLeaderHint where
  timestamp := 1706011200000
  slot := slot
  expiresAtSlot := expiresAtSlot
  preferredRegion := "us-west"
  backupRegions := ["us-east"]
  confidence := 85
  leaderPubkey := none
  metadata := none

theorem check_safe_four :
    Safe 0 {} none 0 (convertLeaderHint (wsHint 12345678 12345682)) :=
  (@check_safe_iff (.webSocket (wsHint 12345678 12345682)) _ rfl 0 {} none 0).1.mpr
    (.inr ⟨by decide, by decide⟩)

/-- The server reports a slot one behind the current one. A debug build
panics, and a release build installs a validity of almost `2^64` ms. -/
theorem expired_unsafe :
    check .debug {} none 0 (convertLeaderHint (wsHint 12345678 12345677))
        = .error .arithmeticOverflow
      ∧ (check .release {} none 0 (convertLeaderHint (wsHint 12345678 12345677))).map
          (fun kept => kept.map fun r => r.validForMs) = .ok (some 18446744073709551216)
      ∧ ¬ Safe 0xFFFFFFFFFFFFFFFF {} none 0
          (convertLeaderHint (wsHint 12345678 12345677)) := by
  refine ⟨by rfl, by rfl, fun h => ?_⟩
  obtain ⟨kept, hcheck, -⟩ := h .debug
  cases hcheck

end Slipstream
