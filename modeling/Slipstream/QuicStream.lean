import Slipstream.Bytes
import Slipstream.Types
import Slipstream.Utf8

/-!
# QUIC stream messages

The five kinds of message a QUIC subscription carries: what the wire
holds of each (`WireMessage`), its encoding, the hand-written parsers of
the decoders (`read`), and what the decoders make of a message they have
read (`toItem`).

A parser applied to a prefix of an encoding, or to an encoding with
anything behind it, returns the message exactly when all of it is there
(`read_eq_whenWhole`); the parsers of the other kinds are stopped by the type
byte. `decode_format` puts this together for the decoders.
-/

namespace Slipstream

/-- The type byte of a stream. -/
def StreamKind.typeByte : StreamKind → UInt8
  | .leaderHints => 0x02
  | .tipInstructions => 0x03
  | .priorityFees => 0x04
  | .latestBlockhash => 0x06
  | .latestSlot => 0x07

theorem StreamKind.typeByte_inj {k l : StreamKind} (h : k.typeByte = l.typeByte) : k = l := by
  cases k <;> cases l <;> first | rfl | exact absurd h (by decide)

namespace QuicStream

open Bytes

/-! ## What is on the wire -/

structure WireLeaderHint where
  regionId : String
  /-- Scaled to 10000. -/
  confidence : UInt16
  slotsRemaining : UInt32
  leaderPubkey : String
  timestamp : UInt64
deriving Repr, DecidableEq

structure WireTipInstruction where
  senderId : String
  tipWallet : String
  tipAmountLamports : UInt64
  tier : String
  expectedLatencyMs : UInt32
  confidence : UInt32
  validUntilSlot : UInt64
  timestamp : UInt64
deriving Repr, DecidableEq

structure WirePriorityFee where
  microLamportsPerCu : UInt64
  percentile : UInt8
  sampleCount : UInt32
  timestamp : UInt64
deriving Repr, DecidableEq

inductive WireMessage where
  | leaderHint (m : WireLeaderHint)
  | tipInstruction (m : WireTipInstruction)
  | priorityFee (m : WirePriorityFee)
  | latestBlockhash (m : LatestBlockhash)
  | latestSlot (m : LatestSlot)
deriving Repr, DecidableEq

/-! ## The parsers -/

/-- The leader's pubkey and the offset past it; a pubkey that does not
fit is passed over. -/
def readPubkey (d : List UInt8) (pubkeyLen : UInt8) (offset : Nat) :
    Checked (String × Nat) :=
  if 0 < pubkeyLen.toNat ∧ offset + pubkeyLen.toNat ≤ d.length then do
    let pubkey ← slice d offset (offset + pubkeyLen.toNat)
    pure (Utf8.fromUtf8Lossy pubkey, offset + pubkeyLen.toNat)
  else pure ("", offset + min pubkeyLen.toNat (d.length - offset))

def readLeaderHint (d : List UInt8) : Checked (Option WireLeaderHint) :=
  if d.length < 2 then pure none else do
  let ty ← index d 0
  if ty ≠ StreamKind.leaderHints.typeByte then pure none else
  let offset := 1
  if d.length ≤ offset then pure none else
  let regionLen ← index d offset
  let offset := offset + 1
  -- at least the region, the confidence, the slots and a length byte
  if d.length < offset + regionLen.toNat + 7 then pure none else
  let region ← slice d offset (offset + regionLen.toNat)
  let offset := offset + regionLen.toNat
  let confidence ← u16At d offset
  let offset := offset + 2
  let slotsRemaining ← u32At d offset
  let offset := offset + 4
  if d.length ≤ offset then pure none else
  let pubkeyLen ← index d offset
  let offset := offset + 1
  let (leaderPubkey, offset) ← readPubkey d pubkeyLen offset
  if d.length < offset + 8 then pure none else
  let timestamp ← u64At d offset
  pure (some
    { regionId := Utf8.fromUtf8Lossy region
      confidence := confidence
      slotsRemaining := slotsRemaining
      leaderPubkey := leaderPubkey
      timestamp := timestamp })

def readTipInstruction (d : List UInt8) : Checked (Option WireTipInstruction) :=
  if d.length < 2 then pure none else do
  let ty ← index d 0
  if ty ≠ StreamKind.tipInstructions.typeByte then pure none else
  let offset := 1
  let senderLen ← index d offset
  let offset := offset + 1
  if d.length < offset + senderLen.toNat then pure none else
  let sender ← slice d offset (offset + senderLen.toNat)
  let offset := offset + senderLen.toNat
  if d.length < offset + 1 then pure none else
  let walletLen ← index d offset
  let offset := offset + 1
  if d.length < offset + walletLen.toNat then pure none else
  let wallet ← slice d offset (offset + walletLen.toNat)
  let offset := offset + walletLen.toNat
  if d.length < offset + 8 then pure none else
  let tipAmountLamports ← u64At d offset
  let offset := offset + 8
  if d.length < offset + 1 then pure none else
  let tierLen ← index d offset
  let offset := offset + 1
  if d.length < offset + tierLen.toNat then pure none else
  let tier ← slice d offset (offset + tierLen.toNat)
  let offset := offset + tierLen.toNat
  if d.length < offset + 4 then pure none else
  let expectedLatencyMs ← u32At d offset
  let offset := offset + 4
  if d.length < offset + 4 then pure none else
  let confidence ← u32At d offset
  let offset := offset + 4
  if d.length < offset + 8 then pure none else
  let validUntilSlot ← u64At d offset
  let offset := offset + 8
  if d.length < offset + 8 then pure none else
  let timestamp ← u64At d offset
  pure (some
    { senderId := Utf8.fromUtf8Lossy sender
      tipWallet := Utf8.fromUtf8Lossy wallet
      tipAmountLamports := tipAmountLamports
      tier := Utf8.fromUtf8Lossy tier
      expectedLatencyMs := expectedLatencyMs
      confidence := confidence
      validUntilSlot := validUntilSlot
      timestamp := timestamp })

def readPriorityFee (d : List UInt8) : Checked (Option WirePriorityFee) :=
  if d.length < 22 then pure none else do
  let ty ← index d 0
  if ty ≠ StreamKind.priorityFees.typeByte then pure none else
  let microLamportsPerCu ← u64At d 1
  let percentile ← index d 9
  let sampleCount ← u32At d 10
  let timestamp ← u64At d 14
  pure (some
    { microLamportsPerCu := microLamportsPerCu
      percentile := percentile
      sampleCount := sampleCount
      timestamp := timestamp })

def readLatestBlockhash (d : List UInt8) : Checked (Option LatestBlockhash) :=
  if d.length < 2 then pure none else do
  let ty ← index d 0
  if ty ≠ StreamKind.latestBlockhash.typeByte then pure none else
  let offset := 1
  let hashLen ← index d offset
  let offset := offset + 1
  if d.length < offset + hashLen.toNat + 16 then pure none else
  let blockhash ← slice d offset (offset + hashLen.toNat)
  let offset := offset + hashLen.toNat
  let lastValidBlockHeight ← u64At d offset
  let offset := offset + 8
  let timestamp ← u64At d offset
  pure (some
    { blockhash := Utf8.fromUtf8Lossy blockhash
      lastValidBlockHeight := lastValidBlockHeight
      timestamp := timestamp })

def readLatestSlot (d : List UInt8) : Checked (Option LatestSlot) :=
  if d.length < 17 then pure none else do
  let ty ← index d 0
  if ty ≠ StreamKind.latestSlot.typeByte then pure none else
  let slot ← u64At d 1
  let timestamp ← u64At d 9
  pure (some { slot := slot, timestamp := timestamp })

/-- The parser of the decoder of each kind. -/
def read : StreamKind → List UInt8 → Checked (Option WireMessage)
  | .leaderHints, d => do pure ((← readLeaderHint d).map .leaderHint)
  | .tipInstructions, d => do pure ((← readTipInstruction d).map .tipInstruction)
  | .priorityFees, d => do pure ((← readPriorityFee d).map .priorityFee)
  | .latestBlockhash, d => do pure ((← readLatestBlockhash d).map .latestBlockhash)
  | .latestSlot, d => do pure ((← readLatestSlot d).map .latestSlot)

/-! ## What the decoders make of a message -/

/-- The slot is estimated from the time, at 400 ms a slot. -/
def WireLeaderHint.toLeaderHint (m : WireLeaderHint) : Checked LeaderHint := do
  let confidence := (m.confidence / 100).toUInt32
  let slot := m.timestamp / 400
  let expiresAtSlot ← checkedAdd slot m.slotsRemaining.toUInt64
  pure
    { timestamp := m.timestamp
      slot := slot
      expiresAtSlot := expiresAtSlot
      preferredRegion := m.regionId
      backupRegions := []
      confidence := confidence
      leaderPubkey := m.leaderPubkey
      metadata := ⟨0, confidence.toFloat / 100.0, none, none⟩ }

def WireTipInstruction.toTipInstruction (m : WireTipInstruction) : TipInstruction where
  timestamp := m.timestamp
  sender := m.senderId
  senderName := m.senderId
  tipWalletAddress := m.tipWallet
  tipAmountSol := m.tipAmountLamports.toFloat / 1000000000.0
  tipTier := m.tier
  expectedLatencyMs := m.expectedLatencyMs
  confidence := m.confidence
  validUntilSlot := m.validUntilSlot
  alternativeSenders := []

def speedTier (percentile : UInt8) : String :=
  if percentile ≤ 50 then "low"
  else if percentile ≤ 75 then "medium"
  else "high"

def landingProbability (percentile : UInt8) : UInt32 :=
  if percentile ≤ 25 then 50
  else if percentile ≤ 50 then 70
  else if percentile ≤ 75 then 85
  else if percentile ≤ 90 then 95
  else 99

def networkCongestion (price : UInt64) : String :=
  if 100000 < price then "high"
  else if 10000 < price then "medium"
  else "low"

def computeUnitLimit : UInt32 := 200000

/-- The cost of a full compute budget: micro-lamports, then SOL. -/
def WirePriorityFee.toPriorityFee (m : WirePriorityFee) : Checked PriorityFee := do
  let cost ← checkedMul m.microLamportsPerCu computeUnitLimit.toUInt64
  pure
    { timestamp := m.timestamp
      speed := speedTier m.percentile
      computeUnitPrice := m.microLamportsPerCu
      computeUnitLimit := computeUnitLimit
      estimatedCostSol := cost.toFloat / 1e15
      landingProbability := landingProbability m.percentile
      networkCongestion := networkCongestion m.microLamportsPerCu
      recentSuccessRate := m.sampleCount.toFloat / 100.0 }

def WireMessage.toItem : WireMessage → Checked StreamItem
  | .leaderHint m => do pure (.leaderHint (← m.toLeaderHint))
  | .tipInstruction m => pure (.tipInstruction m.toTipInstruction)
  | .priorityFee m => do pure (.priorityFee (← m.toPriorityFee))
  | .latestBlockhash m => pure (.latestBlockhash m)
  | .latestSlot m => pure (.latestSlot m)

/-- The decoder a subscription of the kind hands to its task. -/
def decode (kind : StreamKind) (d : List UInt8) : Checked (Option StreamItem) := do
  match ← read kind d with
  | some m => do pure (some (← m.toItem))
  | none => pure none

/-! ## The wire format -/

def encodeText (s : String) : List UInt8 :=
  UInt8.ofNat (Utf8.bytes s).length :: Utf8.bytes s

namespace WireMessage

def kind : WireMessage → StreamKind
  | .leaderHint _ => .leaderHints
  | .tipInstruction _ => .tipInstructions
  | .priorityFee _ => .priorityFees
  | .latestBlockhash _ => .latestBlockhash
  | .latestSlot _ => .latestSlot

/-- The first byte, as the decoders document it. -/
def typeByte : WireMessage → UInt8
  | .leaderHint _ => 0x02
  | .tipInstruction _ => 0x03
  | .priorityFee _ => 0x04
  | .latestBlockhash _ => 0x06
  | .latestSlot _ => 0x07

/-- What follows the type byte. -/
def encodeFields : WireMessage → List UInt8
  | .leaderHint m =>
      encodeText m.regionId ++ (beU16 m.confidence ++ (beU32 m.slotsRemaining
        ++ (encodeText m.leaderPubkey ++ beU64 m.timestamp)))
  | .tipInstruction m =>
      encodeText m.senderId ++ (encodeText m.tipWallet ++ (beU64 m.tipAmountLamports
        ++ (encodeText m.tier ++ (beU32 m.expectedLatencyMs ++ (beU32 m.confidence
        ++ (beU64 m.validUntilSlot ++ beU64 m.timestamp))))))
  | .priorityFee m =>
      beU64 m.microLamportsPerCu ++ (m.percentile :: (beU32 m.sampleCount
        ++ beU64 m.timestamp))
  | .latestBlockhash m =>
      encodeText m.blockhash ++ (beU64 m.lastValidBlockHeight ++ beU64 m.timestamp)
  | .latestSlot m => beU64 m.slot ++ beU64 m.timestamp

def encode (m : WireMessage) : List UInt8 := m.typeByte :: m.encodeFields

theorem encode_eq (m : WireMessage) : m.encode = m.kind.typeByte :: m.encodeFields := by
  cases m <;> rfl

/-- The texts of a message. -/
def texts : WireMessage → List String
  | .leaderHint m => [m.regionId, m.leaderPubkey]
  | .tipInstruction m => [m.senderId, m.tipWallet, m.tier]
  | .priorityFee _ => []
  | .latestBlockhash m => [m.blockhash]
  | .latestSlot _ => []

/-- The length byte of every text can hold its length. -/
def Fits (m : WireMessage) : Prop := ∀ s ∈ m.texts, (Utf8.bytes s).length ≤ 255

instance (m : WireMessage) : Decidable m.Fits :=
  inferInstanceAs (Decidable (∀ s ∈ m.texts, (Utf8.bytes s).length ≤ 255))

/-- The cost estimate stays below 2^64. -/
def CostFits : WireMessage → Prop
  | .priorityFee m => m.microLamportsPerCu.toNat * 200000 < 2 ^ 64
  | _ => True

instance : ∀ m : WireMessage, Decidable m.CostFits
  | .leaderHint _ => isTrue trivial
  | .tipInstruction _ => isTrue trivial
  | .priorityFee m =>
      inferInstanceAs (Decidable (m.microLamportsPerCu.toNat * 200000 < 2 ^ 64))
  | .latestBlockhash _ => isTrue trivial
  | .latestSlot _ => isTrue trivial

/-- What a subscriber is to get for the message. -/
def item : WireMessage → StreamItem
  | .leaderHint m =>
      .leaderHint
        { timestamp := m.timestamp
          slot := m.timestamp / 400
          expiresAtSlot := m.timestamp / 400 + m.slotsRemaining.toUInt64
          preferredRegion := m.regionId
          backupRegions := []
          confidence := (m.confidence / 100).toUInt32
          leaderPubkey := m.leaderPubkey
          metadata := ⟨0, (m.confidence / 100).toUInt32.toFloat / 100.0, none, none⟩ }
  | .tipInstruction m =>
      .tipInstruction
        { timestamp := m.timestamp
          sender := m.senderId
          senderName := m.senderId
          tipWalletAddress := m.tipWallet
          tipAmountSol := m.tipAmountLamports.toFloat / 1000000000.0
          tipTier := m.tier
          expectedLatencyMs := m.expectedLatencyMs
          confidence := m.confidence
          validUntilSlot := m.validUntilSlot
          alternativeSenders := [] }
  | .priorityFee m =>
      .priorityFee
        { timestamp := m.timestamp
          speed :=
            if m.percentile ≤ 50 then "low"
            else if m.percentile ≤ 75 then "medium"
            else "high"
          computeUnitPrice := m.microLamportsPerCu
          computeUnitLimit := 200000
          estimatedCostSol := (m.microLamportsPerCu * 200000).toFloat / 1e15
          landingProbability :=
            if m.percentile ≤ 25 then 50
            else if m.percentile ≤ 50 then 70
            else if m.percentile ≤ 75 then 85
            else if m.percentile ≤ 90 then 95
            else 99
          networkCongestion :=
            if m.microLamportsPerCu ≤ 10000 then "low"
            else if m.microLamportsPerCu ≤ 100000 then "medium"
            else "high"
          recentSuccessRate := m.sampleCount.toFloat / 100.0 }
  | .latestBlockhash m => .latestBlockhash m
  | .latestSlot m => .latestSlot m

end WireMessage

/-! ## Reading a text -/

section Text

variable {α : Type} {d rest : List UInt8} {off : Nat} {s : String} {r : Checked (Option α)}

theorem sees_textLength (h : Sees d off (encodeText s ++ rest))
    (hs : (Utf8.bytes s).length ≤ 255) (hlen : off < d.length) :
    ∃ len, index d off = .ok len ∧ len.toNat = (Utf8.bytes s).length
      ∧ Sees d (off + 1) (Utf8.bytes s ++ rest) := by
  obtain ⟨hread, hnext⟩ := Sees.index h hlen
  have hlt : (Utf8.bytes s).length < 2 ^ 8 := by omega
  exact ⟨_, hread, UInt8.toNat_ofNat_of_lt' hlt, hnext⟩

theorem sees_text {len : UInt8} (h : Sees d off (Utf8.bytes s ++ rest))
    (hlen : len.toNat = (Utf8.bytes s).length) (hroom : off + len.toNat ≤ d.length) :
    slice d off (off + len.toNat) = .ok (Utf8.bytes s)
      ∧ Sees d (off + len.toNat) rest := by
  rw [hlen] at hroom ⊢
  exact h.slice hroom

theorem readPubkey_of_le {len : UInt8} (h : Sees d off (Utf8.bytes s ++ rest))
    (hlen : len.toNat = (Utf8.bytes s).length) (hroom : off + len.toNat ≤ d.length) :
    readPubkey d len off = .ok (s, off + len.toNat) := by
  obtain ⟨hread, -⟩ := sees_text h hlen hroom
  unfold readPubkey
  by_cases hpos : 0 < len.toNat
  · rw [if_pos ⟨hpos, hroom⟩, hread]
    show Except.ok (Utf8.fromUtf8Lossy (Utf8.bytes s), off + len.toNat) = _
    rw [Utf8.fromUtf8Lossy_bytes]
  · have hzero : len.toNat = 0 := by omega
    have hempty : s = "" :=
      Utf8.bytes_eq_nil (List.eq_nil_of_length_eq_zero (hlen.symm.trans hzero))
    rw [if_neg fun h => hpos h.1, hzero, Nat.zero_min, hempty]
    rfl

theorem readPubkey_of_lt {len : UInt8} (hoff : off ≤ d.length)
    (hshort : d.length < off + len.toNat) : readPubkey d len off = .ok ("", d.length) := by
  unfold readPubkey
  have hend : off + min len.toNat (d.length - off) = d.length := by omega
  rw [if_neg fun h => Nat.not_le_of_lt hshort h.2, hend]
  rfl

/-- The type byte behind the first length check. -/
theorem typeField {k : StreamKind} {n : Nat} {p : Checked (Option α)}
    (h : Sees d 0 (k.typeByte :: rest)) (hpos : 0 < n) (hcut : d.length < n → r = .ok none)
    (hgo : n ≤ d.length → Sees d 1 rest → p = r) :
    (if d.length < n then pure none
      else index d 0 >>= fun ty => if ty ≠ k.typeByte then pure none else p) = r := by
  refine unless_cut hcut fun hlen => ?_
  obtain ⟨hread, hnext⟩ := h.index (by omega)
  exact bind_of_ok hread
    (unless_cut (fun hne => absurd rfl hne) fun _ => hgo (by omega) hnext)

/-- The length byte of a text behind a length check. -/
theorem lengthField {k : UInt8 → Checked (Option α)} (h : Sees d off (encodeText s ++ rest))
    (hs : (Utf8.bytes s).length ≤ 255) (hcut : d.length < off + 1 → r = .ok none)
    (hgo : ∀ len, len.toNat = (Utf8.bytes s).length → off + 1 ≤ d.length →
      Sees d (off + 1) (Utf8.bytes s ++ rest) → k len = r) :
    (if d.length < off + 1 then pure none else index d off >>= k) = r := by
  refine unless_cut hcut fun hlen => ?_
  obtain ⟨len, hread, htext, hnext⟩ := sees_textLength h hs (by omega)
  exact bind_of_ok hread (hgo len htext (by omega) hnext)

/-- The text itself behind a length check. -/
theorem textField {len : UInt8} {k : List UInt8 → Checked (Option α)}
    (h : Sees d off (Utf8.bytes s ++ rest)) (hlen : len.toNat = (Utf8.bytes s).length)
    (hcut : d.length < off + len.toNat → r = .ok none)
    (hgo : off + len.toNat ≤ d.length → Sees d (off + len.toNat) rest →
      k (Utf8.bytes s) = r) :
    (if d.length < off + len.toNat then pure none
      else slice d off (off + len.toNat) >>= k) = r := by
  refine unless_cut hcut fun hroom => ?_
  obtain ⟨hread, hnext⟩ := sees_text h hlen (by omega)
  exact bind_of_ok hread (hgo (by omega) hnext)

end Text

/-! ## One kind of message

The buffer `d` is a prefix of the encoding with anything behind it. The
parsers compare the offset with the length field by field; `hcut` says
what a failed comparison means. -/

section Kind

variable {d t : List UInt8}

theorem readLeaderHint_eq_whenWhole {m : WireLeaderHint} (hfit : (WireMessage.leaderHint m).Fits)
    (hpre : d <+: (WireMessage.leaderHint m).encode ++ t) :
    readLeaderHint d = whenWhole (WireMessage.leaderHint m).encode.length d m := by
  have hs := Sees.start hpre
  generalize htotal : (WireMessage.leaderHint m).encode.length = total
  have hcut : d.length < total → whenWhole total d m = .ok none := whenWhole_of_lt
  simp only [WireMessage.encode_eq, WireMessage.encodeFields, List.cons_append,
    List.append_assoc] at hs
  simp only [WireMessage.encode, WireMessage.encodeFields, encodeText, List.length_cons,
    List.length_append, length_beU16, length_beU32, length_beU64] at htotal
  have hregion : (Utf8.bytes m.regionId).length ≤ 255 := hfit _ (by simp [WireMessage.texts])
  have hpubkey : (Utf8.bytes m.leaderPubkey).length ≤ 255 :=
    hfit _ (by simp [WireMessage.texts])
  refine typeField hs (by decide) (fun h => hcut (by omega)) fun h2 hs => ?_
  refine unless_cut (fun h => hcut (by omega)) fun _ => ?_
  obtain ⟨regionLen, hread, hregionLen, hs⟩ := sees_textLength hs hregion (by omega)
  refine bind_of_ok hread (unless_cut (fun h => hcut (by omega)) fun hmin => ?_)
  obtain ⟨hread, hs⟩ := sees_text hs hregionLen (by omega)
  refine bind_of_ok hread ?_
  obtain ⟨hread, hs⟩ := hs.u16At (by omega)
  refine bind_of_ok hread ?_
  obtain ⟨hread, hs⟩ := hs.u32At (by omega)
  refine bind_of_ok hread (unless_cut (fun h => hcut (by omega)) fun _ => ?_)
  obtain ⟨pubkeyLen, hread, hpubkeyLen, hs⟩ := sees_textLength hs hpubkey (by omega)
  refine bind_of_ok hread ?_
  by_cases hroom : 1 + 1 + regionLen.toNat + 2 + 4 + 1 + pubkeyLen.toNat ≤ d.length
  · refine bind_of_ok (readPubkey_of_le hs hpubkeyLen hroom) ?_
    obtain ⟨-, hs⟩ := sees_text hs hpubkeyLen hroom
    refine hs.u64Field (fun h => hcut (by omega)) fun hlen _ => ?_
    rw [whenWhole_of_le (by omega)]
    simp only [Utf8.fromUtf8Lossy_bytes]
    rfl
  · refine bind_of_ok (readPubkey_of_lt hs.le (Nat.lt_of_not_le hroom)) ?_
    exact unless_cut (fun _ => hcut (by omega))
      fun h => absurd (Nat.lt_add_of_pos_right (by decide)) h

theorem readTipInstruction_eq_whenWhole {m : WireTipInstruction}
    (hfit : (WireMessage.tipInstruction m).Fits)
    (hpre : d <+: (WireMessage.tipInstruction m).encode ++ t) :
    readTipInstruction d = whenWhole (WireMessage.tipInstruction m).encode.length d m := by
  have hs := Sees.start hpre
  generalize htotal : (WireMessage.tipInstruction m).encode.length = total
  have hcut : d.length < total → whenWhole total d m = .ok none := whenWhole_of_lt
  simp only [WireMessage.encode_eq, WireMessage.encodeFields, List.cons_append,
    List.append_assoc] at hs
  simp only [WireMessage.encode, WireMessage.encodeFields, encodeText, List.length_cons,
    List.length_append, length_beU32, length_beU64] at htotal
  have hsender : (Utf8.bytes m.senderId).length ≤ 255 := hfit _ (by simp [WireMessage.texts])
  have hwallet : (Utf8.bytes m.tipWallet).length ≤ 255 := hfit _ (by simp [WireMessage.texts])
  have htier : (Utf8.bytes m.tier).length ≤ 255 := hfit _ (by simp [WireMessage.texts])
  refine typeField hs (by decide) (fun h => hcut (by omega)) fun h2 hs => ?_
  obtain ⟨senderLen, hread, hsenderLen, hs⟩ := sees_textLength hs hsender (by omega)
  refine bind_of_ok hread ?_
  refine textField hs hsenderLen (fun h => hcut (by omega)) fun _ hs => ?_
  refine lengthField hs hwallet (fun h => hcut (by omega)) fun walletLen hwalletLen _ hs => ?_
  refine textField hs hwalletLen (fun h => hcut (by omega)) fun _ hs => ?_
  refine hs.u64Field (fun h => hcut (by omega)) fun _ hs => ?_
  refine lengthField hs htier (fun h => hcut (by omega)) fun tierLen htierLen _ hs => ?_
  refine textField hs htierLen (fun h => hcut (by omega)) fun _ hs => ?_
  refine hs.u32Field (fun h => hcut (by omega)) fun _ hs => ?_
  refine hs.u32Field (fun h => hcut (by omega)) fun _ hs => ?_
  refine hs.u64Field (fun h => hcut (by omega)) fun _ hs => ?_
  refine hs.u64Field (fun h => hcut (by omega)) fun hlen _ => ?_
  rw [whenWhole_of_le (by omega)]
  simp only [Utf8.fromUtf8Lossy_bytes]
  rfl

theorem readPriorityFee_eq_whenWhole {m : WirePriorityFee}
    (hpre : d <+: (WireMessage.priorityFee m).encode ++ t) :
    readPriorityFee d = whenWhole (WireMessage.priorityFee m).encode.length d m := by
  have hs := Sees.start hpre
  generalize htotal : (WireMessage.priorityFee m).encode.length = total
  have hcut : d.length < total → whenWhole total d m = .ok none := whenWhole_of_lt
  simp only [WireMessage.encode_eq, WireMessage.encodeFields, List.cons_append,
    List.append_assoc] at hs
  simp only [WireMessage.encode, WireMessage.encodeFields, List.length_cons,
    List.length_append, length_beU32, length_beU64] at htotal
  refine typeField hs (by decide) (fun h => hcut (by omega)) fun hlen hs => ?_
  obtain ⟨hread, hs⟩ := hs.u64At (by omega)
  refine bind_of_ok hread ?_
  obtain ⟨hread, hs⟩ := hs.index (by omega)
  refine bind_of_ok hread ?_
  obtain ⟨hread, hs⟩ := hs.u32At (by omega)
  refine bind_of_ok hread ?_
  obtain ⟨hread, -⟩ := hs.u64At (by omega)
  refine bind_of_ok hread ?_
  rw [whenWhole_of_le (by omega)]
  rfl

theorem readLatestBlockhash_eq_whenWhole {m : LatestBlockhash}
    (hfit : (WireMessage.latestBlockhash m).Fits)
    (hpre : d <+: (WireMessage.latestBlockhash m).encode ++ t) :
    readLatestBlockhash d = whenWhole (WireMessage.latestBlockhash m).encode.length d m := by
  have hs := Sees.start hpre
  generalize htotal : (WireMessage.latestBlockhash m).encode.length = total
  have hcut : d.length < total → whenWhole total d m = .ok none := whenWhole_of_lt
  simp only [WireMessage.encode_eq, WireMessage.encodeFields, List.cons_append,
    List.append_assoc] at hs
  simp only [WireMessage.encode, WireMessage.encodeFields, encodeText, List.length_cons,
    List.length_append, length_beU64] at htotal
  have hhash : (Utf8.bytes m.blockhash).length ≤ 255 := hfit _ (by simp [WireMessage.texts])
  refine typeField hs (by decide) (fun h => hcut (by omega)) fun h2 hs => ?_
  obtain ⟨hashLen, hread, hhashLen, hs⟩ := sees_textLength hs hhash (by omega)
  refine bind_of_ok hread (unless_cut (fun h => hcut (by omega)) fun hlen => ?_)
  obtain ⟨hread, hs⟩ := sees_text hs hhashLen (by omega)
  refine bind_of_ok hread ?_
  obtain ⟨hread, hs⟩ := hs.u64At (by omega)
  refine bind_of_ok hread ?_
  obtain ⟨hread, -⟩ := hs.u64At (by omega)
  refine bind_of_ok hread ?_
  rw [whenWhole_of_le (by omega)]
  simp only [Utf8.fromUtf8Lossy_bytes]
  rfl

theorem readLatestSlot_eq_whenWhole {m : LatestSlot}
    (hpre : d <+: (WireMessage.latestSlot m).encode ++ t) :
    readLatestSlot d = whenWhole (WireMessage.latestSlot m).encode.length d m := by
  have hs := Sees.start hpre
  generalize htotal : (WireMessage.latestSlot m).encode.length = total
  have hcut : d.length < total → whenWhole total d m = .ok none := whenWhole_of_lt
  simp only [WireMessage.encode_eq, WireMessage.encodeFields, List.cons_append,
    List.append_assoc] at hs
  simp only [WireMessage.encode, WireMessage.encodeFields, List.length_cons,
    List.length_append, length_beU64] at htotal
  refine typeField hs (by decide) (fun h => hcut (by omega)) fun hlen hs => ?_
  obtain ⟨hread, hs⟩ := hs.u64At (by omega)
  refine bind_of_ok hread ?_
  obtain ⟨hread, -⟩ := hs.u64At (by omega)
  refine bind_of_ok hread ?_
  rw [whenWhole_of_le (by omega)]
  rfl

/-- Of a prefix of an encoding, with or without anything behind it, the
parser of its kind returns the message if all of it is there. -/
theorem read_eq_whenWhole {m : WireMessage} (hfit : m.Fits) (hpre : d <+: m.encode ++ t) :
    read m.kind d = whenWhole m.encode.length d m := by
  have hmap : ∀ {α : Type} {x : Checked (Option α)} {n : Nat} {a : α} (f : α → WireMessage),
      x = whenWhole n d a →
        (do pure ((← x).map f) : Checked (Option WireMessage)) = whenWhole n d (f a) := by
    intro α x n a f hx
    rw [hx]
    by_cases h : n ≤ d.length
    · rw [whenWhole_of_le h, whenWhole_of_le h]
      rfl
    · rw [whenWhole_of_lt (Nat.lt_of_not_le h), whenWhole_of_lt (Nat.lt_of_not_le h)]
      rfl
  cases m with
  | leaderHint m => exact hmap .leaderHint (readLeaderHint_eq_whenWhole hfit hpre)
  | tipInstruction m => exact hmap .tipInstruction (readTipInstruction_eq_whenWhole hfit hpre)
  | priorityFee m => exact hmap .priorityFee (readPriorityFee_eq_whenWhole hpre)
  | latestBlockhash m => exact hmap .latestBlockhash (readLatestBlockhash_eq_whenWhole hfit hpre)
  | latestSlot m => exact hmap .latestSlot (readLatestSlot_eq_whenWhole hpre)

/-- The parser of a kind stops at another kind's type byte. -/
theorem read_of_typeByte_ne {k : StreamKind} {b : UInt8} {rest : List UInt8}
    (h : b ≠ k.typeByte) : read k (b :: rest) = .ok none := by
  cases k <;>
    exact bind_of_ok (unless_cut (fun _ => rfl) fun _ => bind_of_ok rfl (if_pos h)) rfl

end Kind

/-! ## The decoders -/

theorem costFits_iff (m : WirePriorityFee) :
    (WireMessage.priorityFee m).CostFits
      ↔ m.microLamportsPerCu.toNat * computeUnitLimit.toUInt64.toNat < 2 ^ 64 := by
  have hlimit : computeUnitLimit.toUInt64.toNat = 200000 := rfl
  rw [hlimit]
  exact Iff.rfl

theorem networkCongestion_eq (price : UInt64) :
    networkCongestion price =
      if price ≤ 10000 then "low" else if price ≤ 100000 then "medium" else "high" := by
  have hle {n : UInt64} : ¬ n < price ↔ price ≤ n := UInt64.not_lt
  unfold networkCongestion
  by_cases hlow : price ≤ 10000
  · have hmid : price ≤ 100000 := UInt64.le_trans hlow (by decide)
    rw [if_neg (hle.mpr hmid), if_neg (hle.mpr hlow), if_pos hlow]
  · rw [if_neg hlow, if_pos (UInt64.not_le.mp hlow)]
    by_cases hmid : price ≤ 100000
    · rw [if_neg (hle.mpr hmid), if_pos hmid]
    · rw [if_pos (UInt64.not_le.mp hmid), if_neg hmid]

/-- Within its bounds the arithmetic of a decoder does not overflow. -/
theorem WireMessage.toItem_eq {m : WireMessage} (h : m.CostFits) : m.toItem = .ok m.item := by
  cases m with
  | leaderHint m =>
      have hts := m.timestamp.toNat_lt
      have hslots := m.slotsRemaining.toNat_lt
      have hadd : (m.timestamp / 400).toNat + m.slotsRemaining.toUInt64.toNat < 2 ^ 64 := by
        rw [UInt64.toNat_div, UInt32.toNat_toUInt64]
        show m.timestamp.toNat / 400 + m.slotsRemaining.toNat < 2 ^ 64
        omega
      simp only [toItem, WireLeaderHint.toLeaderHint, checkedAdd_ok hadd]
      rfl
  | tipInstruction m => rfl
  | priorityFee m =>
      have hmul := checkedMul_ok ((costFits_iff m).mp h)
      simp only [toItem, WirePriorityFee.toPriorityFee, hmul, networkCongestion_eq]
      rfl
  | latestBlockhash m => rfl
  | latestSlot m => rfl

/-- A fee that costs too much makes its decoder panic. -/
theorem WireMessage.toItem_costly {m : WireMessage} (h : ¬ m.CostFits) :
    m.toItem = .error .arithmeticOverflow := by
  cases m with
  | priorityFee m =>
      have hmul : checkedMul m.microLamportsPerCu computeUnitLimit.toUInt64
          = .error .arithmeticOverflow := by
        rw [checkedMul, if_neg fun hlt => h ((costFits_iff m).mpr hlt)]
      simp only [toItem, WirePriorityFee.toPriorityFee, hmul]
      rfl
  | _ => exact absurd trivial h

theorem decode_of_read_none {k : StreamKind} {d : List UInt8} (h : read k d = .ok none) :
    decode k d = .ok none := by
  rw [decode, h]
  rfl

theorem decode_of_read_some {k : StreamKind} {d : List UInt8} {m : WireMessage}
    (h : read k d = .ok (some m)) : decode k d = m.toItem.map some := by
  rw [decode, h]
  cases hitem : m.toItem <;> simp only [hitem, bind, Except.bind] <;> rfl

theorem read_encode_append {m : WireMessage} (hfit : m.Fits) (t : List UInt8) :
    read m.kind (m.encode ++ t) = .ok (some m) := by
  rw [read_eq_whenWhole hfit (List.prefix_refl _), whenWhole_of_le (by simp)]

theorem read_of_kind_ne {m : WireMessage} {k : StreamKind} (h : k ≠ m.kind)
    (t : List UInt8) : read k (m.encode ++ t) = .ok none := by
  rw [WireMessage.encode_eq]
  exact read_of_typeByte_ne fun hb => h (StreamKind.typeByte_inj hb).symm

/-- The stream format: every field of a message comes back, whatever
follows it, a message that is cut off is not decoded, and neither is a
message of another kind. -/
theorem decode_format {m : WireMessage} (hfit : m.Fits) :
    (∀ t, read m.kind (m.encode ++ t) = .ok (some m))
    ∧ (m.CostFits → ∀ t, decode m.kind (m.encode ++ t) = .ok (some m.item))
    ∧ (∀ d, d <+: m.encode → d ≠ m.encode → decode m.kind d = .ok none)
    ∧ ∀ k t, k ≠ m.kind → decode k (m.encode ++ t) = .ok none := by
  refine ⟨read_encode_append hfit, fun hcost t => ?_, fun d hpre hne => ?_, fun k t hk => ?_⟩
  · rw [decode_of_read_some (read_encode_append hfit t), WireMessage.toItem_eq hcost]
    rfl
  · have hlt : d.length < m.encode.length :=
      Nat.lt_of_le_of_ne hpre.length_le fun h => hne (hpre.eq_of_length h)
    have hpre' : d <+: m.encode ++ [] := by rwa [List.append_nil]
    exact decode_of_read_none ((read_eq_whenWhole hfit hpre').trans (whenWhole_of_lt hlt))
  · exact decode_of_read_none (read_of_kind_ne hk t)

def fee : WireMessage :=
  .priorityFee
    { microLamportsPerCu := 25000
      percentile := 75
      sampleCount := 150
      timestamp := 1706011200000 }

theorem decode_fee :
    decode .priorityFees (fee.encode ++ [0xff]) = .ok (some fee.item)
      ∧ decode .priorityFees (fee.encode.take 21) = .ok none
      ∧ decode .latestSlot (fee.encode ++ []) = .ok none := by
  have hfit : fee.Fits := by decide
  have hcost : fee.CostFits := by decide
  refine ⟨(decode_format hfit).2.1 hcost _, ?_, ?_⟩
  · exact (decode_format hfit).2.2.1 _ (List.take_prefix ..) (by decide)
  · exact (decode_format hfit).2.2.2 _ _ (by decide)

end QuicStream

end Slipstream
