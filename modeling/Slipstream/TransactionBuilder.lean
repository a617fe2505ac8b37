import Slipstream.Binary64
import Slipstream.LatestTip
import Slipstream.QuicStream

/-!
# The transaction builder

The workers quote a tip in lamports, a `TipInstruction` has it in SOL, as
a double, and `from_tip_instruction` makes lamports of it again. The two
conversions together lose at most one lamport, and add none
(`tipInfo_fromTipInstruction`): the product is cut off, not rounded, so
15 lamports come back as 14.
-/

namespace Slipstream

structure TransactionBuilder where
  tipWallet : Option String := none
  tipLamports : UInt64 := 0
  computeUnitPrice : Option UInt64 := none
  computeUnitLimit : Option UInt32 := none
  preferredSender : Option String := none
  broadcastMode : Bool := false
  dedupId : Option String := none
  maxRetries : UInt32 := 2
  timeoutMs : UInt64 := 30000

namespace TransactionBuilder

/-- `(sol * 1_000_000_000.0) as u64`, which saturates. -/
def lamportsOfSol (sol : Float) : UInt64 := (sol * 1000000000.0).toUInt64

def fromTipInstruction (b : TransactionBuilder) (tip : TipInstruction) : TransactionBuilder :=
  { b with
    tipWallet := some tip.tipWalletAddress
    tipLamports := lamportsOfSol tip.tipAmountSol
    preferredSender := some tip.sender }

def fromPriorityFee (b : TransactionBuilder) (fee : PriorityFee) : TransactionBuilder :=
  { b with
    computeUnitPrice := some fee.computeUnitPrice
    computeUnitLimit := some fee.computeUnitLimit }

def tipInfo (b : TransactionBuilder) : Option (String × UInt64) :=
  b.tipWallet.map fun w => (w, b.tipLamports)

def feeInfo (b : TransactionBuilder) : Option (UInt64 × UInt32) :=
  match b.computeUnitPrice, b.computeUnitLimit with
  | some price, some limit => some (price, limit)
  | some price, none => some (price, 200000)
  | none, _ => none

def buildOptions (b : TransactionBuilder) : SubmitOptions where
  broadcastMode := b.broadcastMode
  preferredSender := b.preferredSender
  maxRetries := b.maxRetries
  timeoutMs := b.timeoutMs
  dedupId := b.dedupId
  retry := none
  tpuSubmission := false

/-- A call on the builder. -/
inductive Call where
  | tipWallet (wallet : String)
  | tipLamports (lamports : UInt64)
  | tipSol (sol : Float)
  | fromTipInstruction (tip : TipInstruction)
  | computeUnitPrice (price : UInt64)
  | computeUnitLimit (limit : UInt32)
  | fromPriorityFee (fee : PriorityFee)
  | preferredSender (sender : String)
  | broadcast (enabled : Bool)
  | dedupId (id : String)
  | maxRetries (retries : UInt32)
  | timeoutMs (ms : UInt64)

def call (b : TransactionBuilder) : Call → TransactionBuilder
  | .tipWallet wallet => { b with tipWallet := some wallet }
  | .tipLamports lamports => { b with tipLamports := lamports }
  | .tipSol sol => { b with tipLamports := lamportsOfSol sol }
  | .fromTipInstruction tip => b.fromTipInstruction tip
  | .computeUnitPrice price => { b with computeUnitPrice := some price }
  | .computeUnitLimit limit => { b with computeUnitLimit := some limit }
  | .fromPriorityFee fee => b.fromPriorityFee fee
  | .preferredSender sender => { b with preferredSender := some sender }
  | .broadcast enabled => { b with broadcastMode := enabled }
  | .dedupId id => { b with dedupId := some id }
  | .maxRetries retries => { b with maxRetries := retries }
  | .timeoutMs ms => { b with timeoutMs := ms }

def Call.setsTip : Call → Bool
  | .tipWallet _ | .tipLamports _ | .tipSol _ | .fromTipInstruction _ => true
  | _ => false

theorem tipInfo_call {b : TransactionBuilder} {c : Call} (h : c.setsTip = false) :
    (b.call c).tipInfo = b.tipInfo := by
  cases c with
  | tipWallet | tipLamports | tipSol | fromTipInstruction => cases h
  | _ => rfl

theorem tipInfo_foldl_call {cs : List Call} (h : ∀ c ∈ cs, c.setsTip = false)
    (b : TransactionBuilder) : (cs.foldl call b).tipInfo = b.tipInfo := by
  induction cs generalizing b with
  | nil => rfl
  | cons c cs ih =>
    rw [List.foldl_cons, ih (fun c' hc' => h c' (List.mem_cons_of_mem c hc')),
      tipInfo_call (h c List.mem_cons_self)]

/-! ## Lamports and SOL -/

open Binary64

theorem hasValue_lamportsPerSol : HasValue 1000000000.0 (10 ^ 9) := by
  have heq : (1000000000.0 : Float) = (1000000000 : UInt64).toFloat := by decide +kernel
  rw [heq]
  have h := hasValue_toFloat (n := 1000000000) (by decide) (by decide)
  norm_num at h ⊢
  exact h

/-- Two roundings and a truncation, on the exact values. -/
theorem floor_of_roundings {n : ℕ} {y z : ℚ} (hpos : 0 < n) (hn : n < 2 ^ 52)
    (hy : |y - (n : ℚ) / 10 ^ 9| ≤ (n : ℚ) / 10 ^ 9 / 2 ^ 53)
    (hz : |z - y * 10 ^ 9| ≤ y * 10 ^ 9 / 2 ^ 53) : ⌊z⌋₊ = n ∨ ⌊z⌋₊ + 1 = n := by
  have hn' : (n : ℚ) ≤ 2 ^ 52 - 1 := by
    have hle : n + 1 ≤ 2 ^ 52 := hn
    have hle' : ((n + 1 : ℕ) : ℚ) ≤ (2 ^ 52 : ℕ) := by exact_mod_cast hle
    push_cast at hle'
    linarith
  have hpos' : (1 : ℚ) ≤ n := by exact_mod_cast hpos
  rw [abs_le] at hy hz
  have hlo : (n : ℚ) - 1 < z := by linarith
  have hhi : z < n + 1 := by linarith
  have hle : ⌊z⌋₊ ≤ n := by
    have hlt : ⌊z⌋₊ < n + 1 := by
      rw [Nat.floor_lt (by linarith)]
      push_cast
      exact hhi
    omega
  have hge : n - 1 ≤ ⌊z⌋₊ := by
    apply Nat.le_floor
    rw [Nat.cast_sub hpos, Nat.cast_one]
    exact hlo.le
  omega

theorem lamportsOfSol_toFloat {n : UInt64} (hn : n.toNat < 2 ^ 52) :
    (lamportsOfSol (n.toFloat / 1000000000.0)).toNat = n.toNat ∨
      (lamportsOfSol (n.toFloat / 1000000000.0)).toNat + 1 = n.toNat := by
  rcases Nat.eq_zero_or_pos n.toNat with hzero | hpos
  · obtain rfl : n = 0 := UInt64.toNat_inj.mp hzero
    left
    decide +kernel
  · have hlamports := hasValue_toFloat hpos (by omega)
    have hpos' : (1 : ℚ) ≤ n.toNat := by exact_mod_cast hpos
    have hn' : (n.toNat : ℚ) < 2 ^ 52 := by exact_mod_cast hn
    obtain ⟨y, hsol, hy⟩ := hlamports.div hasValue_lamportsPerSol
      (inRange_of_lt (by linarith) (by linarith))
    have hy' := abs_le.mp hy
    obtain ⟨z, hprod, hz⟩ := hsol.mul hasValue_lamportsPerSol
      (inRange_of_lt (by linarith) (by linarith))
    have hfloor := floor_of_roundings hpos hn hy hz
    have hcast := hprod.toUInt64
    unfold lamportsOfSol
    omega

/-! ## The tip that is paid -/

/-- A tip as the client gets it, with the wallet and the amount that the
worker has sent. -/
inductive Quoted : TipInstruction → String → UInt64 → Prop where
  | http (raw : RawTip) (now : UInt64) :
      Quoted (raw.toTipInstruction now) (raw.tipWallet.getD "") raw.tipAmountLamports
  | quic (m : QuicStream.WireTipInstruction) :
      Quoted m.toTipInstruction m.tipWallet m.tipAmountLamports

theorem Quoted.tipAmountSol {tip : TipInstruction} {wallet : String} {lamports : UInt64}
    (h : Quoted tip wallet lamports) : tip.tipAmountSol = lamports.toFloat / 1000000000.0 := by
  have heq : (1000000000 : Float) = 1000000000.0 := by decide +kernel
  cases h with
  | http raw now =>
    rw [← heq]
    rfl
  | quic m => rfl

theorem Quoted.tipWalletAddress {tip : TipInstruction} {wallet : String} {lamports : UInt64}
    (h : Quoted tip wallet lamports) : tip.tipWalletAddress = wallet := by
  cases h <;> rfl

/-- A builder that has taken a tip pays the wallet that was quoted, and
what was quoted or a lamport less, whatever else is set after it. -/
theorem tipInfo_fromTipInstruction {tip : TipInstruction} {wallet : String} {lamports : UInt64}
    (htip : Quoted tip wallet lamports) (hmax : lamports.toNat < 2 ^ 52)
    (before : TransactionBuilder) {after : List Call} (hafter : ∀ c ∈ after, c.setsTip = false) :
    ∃ paid : UInt64,
      (after.foldl call (before.fromTipInstruction tip)).tipInfo = some (wallet, paid) ∧
        (paid.toNat = lamports.toNat ∨ paid.toNat + 1 = lamports.toNat) := by
  refine ⟨lamportsOfSol tip.tipAmountSol, ?_, ?_⟩
  · rw [tipInfo_foldl_call hafter, ← htip.tipWalletAddress]
    rfl
  · rw [htip.tipAmountSol]
    exact lamportsOfSol_toFloat hmax

/-- A small tip over HTTP. -/
def smallTip : RawTip where
  senderId := some "0slot"
  tipWallet := some "TipWallet1"
  tipAmountLamports := 15

theorem smallTip_paid :
    ∃ paid : UInt64,
      ([Call.computeUnitPrice 5000, Call.broadcast true].foldl call
        (fromTipInstruction {} (smallTip.toTipInstruction 0))).tipInfo =
          some ("TipWallet1", paid) ∧
        (paid.toNat = 15 ∨ paid.toNat + 1 = 15) :=
  tipInfo_fromTipInstruction (.http smallTip 0) (by decide) {} (by decide)

example : lamportsOfSol (smallTip.toTipInstruction 0).tipAmountSol = 14 := by decide +kernel

end TransactionBuilder

end Slipstream
