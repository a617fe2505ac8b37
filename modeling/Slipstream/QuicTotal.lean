import Slipstream.QuicStream

/-!
# The QUIC decoders on arbitrary payloads

`decode_format` is about what a server that keeps to the format sends.
Here the payload is any sequence of bytes: every index and every slice
of the five parsers is within the length checks before it, and of the
two operations on values off the wire one can leave its type, the cost
of a priority fee. `noPanic_decode_iff` puts both together.

Offsets are at most a length byte and a few fixed fields past a length
that was checked, which `usize` has room for; they are plain numbers.
-/

namespace Slipstream

namespace QuicStream

open Bytes

section Parsers

variable (d : List UInt8)

theorem noPanic_readPubkey (pubkeyLen : UInt8) (offset : Nat) :
    NoPanic (readPubkey d pubkeyLen offset) := by
  refine noPanic_ite (fun h => ?_) fun _ => noPanic_pure _
  exact (noPanic_slice (by omega) h.2).bind fun _ _ => noPanic_pure _

theorem noPanic_readLeaderHint : NoPanic (readLeaderHint d) := by
  refine noPanic_ite (fun _ => noPanic_pure _) fun h2 => ?_
  refine (noPanic_index (by omega)).bind fun _ _ => ?_
  refine noPanic_ite (fun _ => noPanic_pure _) fun _ => ?_
  refine noPanic_ite (fun _ => noPanic_pure _) fun _ => ?_
  refine (noPanic_index (by omega)).bind fun regionLen _ => ?_
  refine noPanic_ite (fun _ => noPanic_pure _) fun hmin => ?_
  refine (noPanic_slice (by omega) (by omega)).bind fun _ _ => ?_
  refine (noPanic_u16At (by omega)).bind fun _ _ => ?_
  refine (noPanic_u32At (by omega)).bind fun _ _ => ?_
  refine noPanic_ite (fun _ => noPanic_pure _) fun hlen => ?_
  refine (noPanic_index (by omega)).bind fun pubkeyLen _ => ?_
  refine (noPanic_readPubkey d pubkeyLen _).bind fun _ _ => ?_
  refine noPanic_ite (fun _ => noPanic_pure _) fun htime => ?_
  exact (noPanic_u64At (by omega)).bind fun _ _ => noPanic_pure _

theorem noPanic_readTipInstruction : NoPanic (readTipInstruction d) := by
  refine noPanic_ite (fun _ => noPanic_pure _) fun h2 => ?_
  refine (noPanic_index (by omega)).bind fun _ _ => ?_
  refine noPanic_ite (fun _ => noPanic_pure _) fun _ => ?_
  refine (noPanic_index (by omega)).bind fun senderLen _ => ?_
  refine noPanic_ite (fun _ => noPanic_pure _) fun hsender => ?_
  refine (noPanic_slice (by omega) (by omega)).bind fun _ _ => ?_
  refine noPanic_ite (fun _ => noPanic_pure _) fun hlen => ?_
  refine (noPanic_index (by omega)).bind fun walletLen _ => ?_
  refine noPanic_ite (fun _ => noPanic_pure _) fun hwallet => ?_
  refine (noPanic_slice (by omega) (by omega)).bind fun _ _ => ?_
  refine noPanic_ite (fun _ => noPanic_pure _) fun hamount => ?_
  refine (noPanic_u64At (by omega)).bind fun _ _ => ?_
  refine noPanic_ite (fun _ => noPanic_pure _) fun hlen => ?_
  refine (noPanic_index (by omega)).bind fun tierLen _ => ?_
  refine noPanic_ite (fun _ => noPanic_pure _) fun htier => ?_
  refine (noPanic_slice (by omega) (by omega)).bind fun _ _ => ?_
  refine noPanic_ite (fun _ => noPanic_pure _) fun hlatency => ?_
  refine (noPanic_u32At (by omega)).bind fun _ _ => ?_
  refine noPanic_ite (fun _ => noPanic_pure _) fun hconfidence => ?_
  refine (noPanic_u32At (by omega)).bind fun _ _ => ?_
  refine noPanic_ite (fun _ => noPanic_pure _) fun hslot => ?_
  refine (noPanic_u64At (by omega)).bind fun _ _ => ?_
  refine noPanic_ite (fun _ => noPanic_pure _) fun htime => ?_
  exact (noPanic_u64At (by omega)).bind fun _ _ => noPanic_pure _

theorem noPanic_readPriorityFee : NoPanic (readPriorityFee d) := by
  refine noPanic_ite (fun _ => noPanic_pure _) fun hlen => ?_
  refine (noPanic_index (by omega)).bind fun _ _ => ?_
  refine noPanic_ite (fun _ => noPanic_pure _) fun _ => ?_
  refine (noPanic_u64At (by omega)).bind fun _ _ => ?_
  refine (noPanic_index (by omega)).bind fun _ _ => ?_
  refine (noPanic_u32At (by omega)).bind fun _ _ => ?_
  exact (noPanic_u64At (by omega)).bind fun _ _ => noPanic_pure _

theorem noPanic_readLatestBlockhash : NoPanic (readLatestBlockhash d) := by
  refine noPanic_ite (fun _ => noPanic_pure _) fun h2 => ?_
  refine (noPanic_index (by omega)).bind fun _ _ => ?_
  refine noPanic_ite (fun _ => noPanic_pure _) fun _ => ?_
  refine (noPanic_index (by omega)).bind fun hashLen _ => ?_
  refine noPanic_ite (fun _ => noPanic_pure _) fun hlen => ?_
  refine (noPanic_slice (by omega) (by omega)).bind fun _ _ => ?_
  refine (noPanic_u64At (by omega)).bind fun _ _ => ?_
  exact (noPanic_u64At (by omega)).bind fun _ _ => noPanic_pure _

theorem noPanic_readLatestSlot : NoPanic (readLatestSlot d) := by
  refine noPanic_ite (fun _ => noPanic_pure _) fun hlen => ?_
  refine (noPanic_index (by omega)).bind fun _ _ => ?_
  refine noPanic_ite (fun _ => noPanic_pure _) fun _ => ?_
  refine (noPanic_u64At (by omega)).bind fun _ _ => ?_
  exact (noPanic_u64At (by omega)).bind fun _ _ => noPanic_pure _

theorem noPanic_read (k : StreamKind) : NoPanic (read k d) := by
  cases k with
  | leaderHints => exact (noPanic_readLeaderHint d).bind fun _ _ => noPanic_pure _
  | tipInstructions => exact (noPanic_readTipInstruction d).bind fun _ _ => noPanic_pure _
  | priorityFees => exact (noPanic_readPriorityFee d).bind fun _ _ => noPanic_pure _
  | latestBlockhash => exact (noPanic_readLatestBlockhash d).bind fun _ _ => noPanic_pure _
  | latestSlot => exact (noPanic_readLatestSlot d).bind fun _ _ => noPanic_pure _

end Parsers

/-! ## The cost of a fee -/

/-- A payload long enough for a priority fee and marked as one. -/
def IsFee (d : List UInt8) : Prop :=
  22 ≤ d.length ∧ d[0]? = some StreamKind.priorityFees.typeByte

/-- The compute-unit price such a payload holds. -/
def feePrice (d : List UInt8) : Nat := fromBe ((d.drop 1).take 8)

/-- A fee whose price, at the full compute budget, is beyond `u64`. -/
def CostlyFee (d : List UInt8) : Prop := IsFee d ∧ 2 ^ 64 ≤ feePrice d * 200000

theorem readPriorityFee_eq_none {d : List UInt8} (h : ¬ IsFee d) :
    readPriorityFee d = .ok none := by
  refine unless_cut (fun _ => rfl) fun hlen => ?_
  refine bind_of_ok (index_ok (by omega)) (unless_cut (fun _ => rfl) fun hty => ?_)
  refine absurd ⟨by omega, ?_⟩ h
  rw [List.getElem?_eq_getElem (by omega)]
  exact congrArg some (not_not.mp hty)

theorem readPriorityFee_eq_some {d : List UInt8} (h : IsFee d) :
    ∃ m, readPriorityFee d = .ok (some m) ∧ m.microLamportsPerCu.toNat = feePrice d := by
  obtain ⟨hlen, hty⟩ := h
  have hfirst : index d 0 = .ok StreamKind.priorityFees.typeByte := by
    rw [index, hty]
  have hprice : feePrice d < 2 ^ 64 := by
    have hlt := fromBe_lt ((d.drop 1).take 8)
    rwa [List.length_take, List.length_drop, Nat.min_eq_left (by omega)] at hlt
  refine ⟨⟨UInt64.ofNat (feePrice d), d[9], UInt32.ofNat (fromBe ((d.drop 10).take 4)),
    UInt64.ofNat (fromBe ((d.drop 14).take 8))⟩, ?_, UInt64.toNat_ofNat_of_lt' hprice⟩
  refine unless_cut (fun hshort => by omega) fun _ => ?_
  refine bind_of_ok hfirst (unless_cut (fun hne => absurd rfl hne) fun _ => ?_)
  refine bind_of_ok (u64At_ok (by omega)) (bind_of_ok (index_ok (by omega)) ?_)
  exact bind_of_ok (u32At_ok (by omega)) (bind_of_ok (u64At_ok (by omega)) rfl)

theorem read_kind {k : StreamKind} {d : List UInt8} {m : WireMessage}
    (h : read k d = .ok (some m)) : m.kind = k := by
  have hmap : ∀ {α : Type} {x : Checked (Option α)} (f : α → WireMessage),
      (do pure ((← x).map f) : Checked (Option WireMessage)) = .ok (some m) →
        ∃ a, m = f a := by
    intro α x f hx
    cases x with
    | error e => cases hx
    | ok o =>
        cases o with
        | none => cases hx
        | some a => exact ⟨a, (Option.some.inj (Except.ok.inj hx)).symm⟩
  cases k with
  | leaderHints => obtain ⟨a, rfl⟩ := hmap .leaderHint h; rfl
  | tipInstructions => obtain ⟨a, rfl⟩ := hmap .tipInstruction h; rfl
  | priorityFees => obtain ⟨a, rfl⟩ := hmap .priorityFee h; rfl
  | latestBlockhash => obtain ⟨a, rfl⟩ := hmap .latestBlockhash h; rfl
  | latestSlot => obtain ⟨a, rfl⟩ := hmap .latestSlot h; rfl

theorem noPanic_toItem_iff (m : WireMessage) : NoPanic (m.toItem.map some) ↔ m.CostFits := by
  constructor
  · rintro ⟨a, ha⟩
    by_contra hcost
    rw [m.toItem_costly hcost] at ha
    cases ha
  · intro hcost
    rw [WireMessage.toItem_eq hcost]
    exact ⟨_, rfl⟩

/-- Whatever the payload, a decoder returns, save that of the priority
fees on a fee that costs too much. -/
theorem noPanic_decode_iff (k : StreamKind) (d : List UInt8) :
    NoPanic (decode k d) ↔ ¬ (k = .priorityFees ∧ CostlyFee d) := by
  obtain ⟨o, ho⟩ := noPanic_read d k
  cases o with
  | none =>
      refine iff_of_true ⟨none, decode_of_read_none ho⟩ ?_
      rintro ⟨rfl, hfee, -⟩
      obtain ⟨m, hm, -⟩ := readPriorityFee_eq_some hfee
      rw [read, hm] at ho
      cases ho
  | some m =>
      rw [decode_of_read_some ho, noPanic_toItem_iff]
      obtain rfl := read_kind ho
      cases m with
      | priorityFee m =>
          have hfee : IsFee d := by
            by_contra hnot
            rw [WireMessage.kind, read, readPriorityFee_eq_none hnot] at ho
            cases ho
          obtain ⟨m', hm', hprice⟩ := readPriorityFee_eq_some hfee
          rw [WireMessage.kind, read, hm'] at ho
          obtain rfl := WireMessage.priorityFee.inj (Option.some.inj (Except.ok.inj ho))
          show m'.microLamportsPerCu.toNat * 200000 < 2 ^ 64 ↔ ¬ (_ ∧ IsFee d ∧ _)
          rw [hprice]
          constructor
          · rintro hlt ⟨-, -, hle⟩
            omega
          · intro hnot
            exact Nat.lt_of_not_le fun hle => hnot ⟨rfl, hfee, hle⟩
      | _ => exact iff_of_true trivial fun h => by cases h.1

/-- A price of 2^64 / 200000 micro-lamports, rounded up. -/
def costlyFee : List UInt8 :=
  [0x04, 0x00, 0x00, 0x53, 0xe2, 0xd6, 0x23, 0x8d, 0xa4, 75, 0, 0, 0, 1,
    0, 0, 0, 0, 0, 0, 0, 0]

theorem decode_costlyFee :
    decode .priorityFees costlyFee = .error .arithmeticOverflow
      ∧ ¬ NoPanic (decode .priorityFees costlyFee) := by
  have hfail : decode .priorityFees costlyFee = .error .arithmeticOverflow := by decide
  refine ⟨hfail, ?_⟩
  rintro ⟨o, ho⟩
  rw [hfail] at ho
  cases ho

end QuicStream

end Slipstream
