import Slipstream.Bytes
import Slipstream.Types
import Slipstream.Utf8

/-!
# The answer to a QUIC submission

A worker answers a submission with one record: the status, then
optional fields with hand-written length prefixes and flags. The parser
keeps a running offset and, where a field is cut off, goes on with the
next one.

`parseResponse_format` is what can be relied on: a whole record is read
back as it was written; of a record that was cut off every field is
either right or absent, although the fields after the cut are read from
whatever the offset was left at; and on no buffer at all does the parser
read out of bounds.
-/

namespace Slipstream

namespace QuicResponse

open Bytes

inductive ResponseStatus where
  | accepted
  | duplicate
  | rateLimited
  | serverError
deriving Repr, DecidableEq

namespace ResponseStatus

def fromByte (value : UInt8) : Option ResponseStatus :=
  if value = 0x01 then some .accepted
  else if value = 0x02 then some .duplicate
  else if value = 0x03 then some .rateLimited
  else if value = 0x04 then some .serverError
  else none

def toByte : ResponseStatus → UInt8
  | .accepted => 0x01
  | .duplicate => 0x02
  | .rateLimited => 0x03
  | .serverError => 0x04

theorem fromByte_toByte (s : ResponseStatus) : fromByte s.toByte = some s := by
  cases s <;> rfl

end ResponseStatus

/-- An unknown status byte counts as a failure. -/
def transactionStatus : Option ResponseStatus → TransactionStatus
  | some .accepted => .sent
  | some .duplicate => .duplicate
  | some .rateLimited => .rateLimited
  | some .serverError => .failed
  | none => .failed

/-! ## The parser -/

/-- The fields of an answer as the parser leaves them: a missing latency
is 0. -/
structure Fields where
  status : TransactionStatus
  signature : Option String
  error : Option String
  senderId : Option String
  region : Option String
  slotSent : Option UInt64
  slotAccepted : Option UInt64
  latencies : UInt32 × UInt32
deriving Repr, DecidableEq

/-- The fields, with every value the offset had on the way. -/
structure Parsed where
  fields : Fields
  trail : List Nat
deriving Repr, DecidableEq

def parseSignature (base58 : List UInt8 → String) (hasSignature : Bool) (d : List UInt8)
    (c : Cursor) : Checked (Option String × Cursor) :=
  if hasSignature ∧ c.offset + 64 ≤ d.length then do
    let sig ← slice d c.offset (c.offset + 64)
    pure (some (base58 sig), c.advance 64)
  else if hasSignature then pure (none, c.moveTo (min d.length (c.offset + 64)))
  else pure (none, c)

def parseError (d : List UInt8) (c : Cursor) : Checked (Option String × Cursor) :=
  if c.offset + 2 ≤ d.length then do
    let errorLen ← u16At d c.offset
    let c := c.advance 2
    if 0 < errorLen.toNat ∧ c.offset + errorLen.toNat ≤ d.length then
      let msg ← slice d c.offset (c.offset + errorLen.toNat)
      pure (some (Utf8.fromUtf8Lossy msg), c.advance errorLen.toNat)
    else
      let left ← checkedSub d.length c.offset
      pure (none, c.advance (min errorLen.toNat left))
  else pure (none, c)

/-- The sender and the region: a length byte and as much text. -/
def parseText (d : List UInt8) (c : Cursor) : Checked (Option String × Cursor) :=
  if c.offset < d.length then do
    let len ← index d c.offset
    let c := c.advance 1
    if 0 < len.toNat ∧ c.offset + len.toNat ≤ d.length then
      let text ← slice d c.offset (c.offset + len.toNat)
      pure (some (Utf8.fromUtf8Lossy text), c.advance len.toNat)
    else pure (none, c.advance (min len.toNat (d.length - c.offset)))
  else pure (none, c)

/-- Either slot: a flag, and the slot if it is 1. -/
def parseSlot (d : List UInt8) (c : Cursor) : Checked (Option UInt64 × Cursor) :=
  if c.offset < d.length then do
    let flag ← index d c.offset
    let c := c.advance 1
    if flag = 1 then
      if c.offset + 8 ≤ d.length then
        let slot ← u64At d c.offset
        pure (some slot, c.advance 8)
      else pure (none, c)
    else pure (none, c)
  else pure (none, c)

def parseLatencies (d : List UInt8) (c : Cursor) : Checked (UInt32 × UInt32) :=
  if c.offset + 8 ≤ d.length then do
    let total ← u32At d c.offset
    let sender ← u32At d (c.offset + 4)
    pure (total, sender)
  else pure (0, 0)

/-- For buffers of at least six bytes. -/
def parseResponse (base58 : List UInt8 → String) (d : List UInt8) : Checked Parsed := do
  let _respRequestId ← u32At d 0
  let statusByte ← index d 4
  let hasSignature ← index d 5
  let (signature, c) ← parseSignature base58 (hasSignature != 0) d (.start 6)
  let (error, c) ← parseError d c
  let (senderId, c) ← parseText d c
  let (region, c) ← parseText d c
  let (slotSent, c) ← parseSlot d c
  let (slotAccepted, c) ← parseSlot d c
  let latencies ← parseLatencies d c
  pure
    { fields :=
        { status := transactionStatus (ResponseStatus.fromByte statusByte)
          signature := signature
          error := error
          senderId := senderId
          region := region
          slotSent := slotSent
          slotAccepted := slotAccepted
          latencies := latencies }
      trail := c.trail }

/-- The result a submission returns; the ids and the time are fresh. -/
def Fields.result (f : Fields) (requestId transactionId : String) (timestamp : UInt64) :
    TransactionResult :=
  let (latencyMs, senderLatencyMs) := f.latencies
  { requestId := requestId
    transactionId := transactionId
    signature := f.signature
    status := f.status
    slotSent := f.slotSent
    slotAccepted := f.slotAccepted
    timestamp := timestamp
    routing :=
      if f.senderId.isSome ∨ f.region.isSome ∨ 0 < latencyMs then
        some
          { region := f.region.getD ""
            sender := f.senderId.getD ""
            -- a saturating subtraction
            routingLatencyMs :=
              if senderLatencyMs ≤ latencyMs then latencyMs - senderLatencyMs else 0
            senderLatencyMs := senderLatencyMs
            totalLatencyMs := latencyMs }
      else none
    error := f.error.map fun msg => ⟨"QUIC_ERROR", msg, none⟩ }

/-- What a submission makes of the outcome of `read_to_end(1024)`. -/
def respond (base58 : List UInt8 → String) (requestId transactionId : String)
    (timestamp : UInt64) (read : Except String (List UInt8)) :
    Checked (Except SdkError TransactionResult) :=
  match read with
  | .error e => pure (.error (.connection ("Failed to read response: " ++ e)))
  | .ok d =>
      if d.length < 6 then
        pure (.error (.protocol
          ("Response too short: " ++ toString d.length ++ " bytes")))
      else do
        let p ← parseResponse base58 d
        pure (.ok (p.fields.result requestId transactionId timestamp))

/-! ## The wire format -/

/-- A non-empty text whose length fits its length field. -/
abbrev Text (bound : Nat) := { s : String // s ≠ "" ∧ (Utf8.bytes s).length < bound }

abbrev Signature := { sig : List UInt8 // sig.length = 64 }

/-- What a worker has to say about a submission. -/
structure SubmitResponse where
  requestId : UInt32
  status : ResponseStatus
  signature : Option Signature
  error : Option (Text (2 ^ 16))
  senderId : Option (Text (2 ^ 8))
  region : Option (Text (2 ^ 8))
  slotSent : Option UInt64
  slotAccepted : Option UInt64
  latencyMs : UInt32
  senderLatencyMs : UInt32

def encodeSignature : Option Signature → List UInt8
  | some sig => sig.val
  | none => []

/-- The bytes of a text, none if there is no text. -/
def textBytes {bound : Nat} : Option (Text bound) → List UInt8
  | some s => Utf8.bytes s.val
  | none => []

def encodeError (x : Option (Text (2 ^ 16))) : List UInt8 :=
  beU16 (UInt16.ofNat (textBytes x).length) ++ textBytes x

def encodeText (x : Option (Text (2 ^ 8))) : List UInt8 :=
  UInt8.ofNat (textBytes x).length :: textBytes x

def encodeSlot : Option UInt64 → List UInt8
  | some slot => 1 :: beU64 slot
  | none => [0]

def encodeLatencies (l : UInt32 × UInt32) : List UInt8 := beU32 l.1 ++ beU32 l.2

namespace SubmitResponse

/-- What follows the six bytes of the header. -/
def encodeFields (r : SubmitResponse) : List UInt8 :=
  encodeSignature r.signature ++ (encodeError r.error ++ (encodeText r.senderId
    ++ (encodeText r.region ++ (encodeSlot r.slotSent ++ (encodeSlot r.slotAccepted
    ++ encodeLatencies (r.latencyMs, r.senderLatencyMs))))))

def encode (r : SubmitResponse) : List UInt8 :=
  beU32 r.requestId ++ r.status.toByte :: (if r.signature.isSome then 1 else 0)
    :: r.encodeFields

/-- What the client is to learn of the response. -/
def fields (base58 : List UInt8 → String) (r : SubmitResponse) : Fields where
  status :=
    match r.status with
    | .accepted => .sent
    | .duplicate => .duplicate
    | .rateLimited => .rateLimited
    | .serverError => .failed
  signature := r.signature.map fun sig => base58 sig.val
  error := r.error.map Subtype.val
  senderId := r.senderId.map Subtype.val
  region := r.region.map Subtype.val
  slotSent := r.slotSent
  slotAccepted := r.slotAccepted
  latencies := (r.latencyMs, r.senderLatencyMs)

/-- Each status byte is given its own status. -/
theorem status_fields (base58 : List UInt8 → String) (r : SubmitResponse) :
    transactionStatus (some r.status) = (r.fields base58).status := by
  unfold fields
  cases r.status <;> rfl

end SubmitResponse

/-! ## One field -/

theorem length_textBytes_lt {bound : Nat} (hpos : 0 < bound) (x : Option (Text bound)) :
    (textBytes x).length < bound := by
  cases x with
  | none => exact hpos
  | some s => exact s.property.2

theorem textBytes_eq_nil {bound : Nat} {x : Option (Text bound)} (h : textBytes x = []) :
    x = none := by
  cases x with
  | none => rfl
  | some s => exact absurd (Utf8.bytes_eq_nil h) s.property.1

theorem fromUtf8Lossy_textBytes {bound : Nat} {x : Option (Text bound)}
    (h : 0 < (textBytes x).length) :
    some (Utf8.fromUtf8Lossy (textBytes x)) = x.map Subtype.val := by
  cases x with
  | none => exact absurd h (Nat.lt_irrefl 0)
  | some s => exact congrArg some (Utf8.fromUtf8Lossy_bytes s.val)

/-- Behind a length that was read as `len`: in front of the body, which
has this length, or at the end of a buffer that was cut off. -/
def AtBody (d : List UInt8) (total len off : Nat) (body rest : List UInt8) : Prop :=
  (len = body.length ∧ Sees d off (body ++ rest) ∧ off + (body.length + rest.length) = total)
    ∨ (d.length < total ∧ d.length ≤ off)

section Body

variable {bound total len off : Nat} {d rest : List UInt8} {x : Option (Text bound)}

theorem AtBody.whole (h : AtBody d total len off (textBytes x) rest) (hpos : 0 < len)
    (hroom : off + len ≤ d.length) :
    Recovered d total none (some (Utf8.fromUtf8Lossy ((d.drop off).take len)))
        (x.map Subtype.val)
      ∧ Reached d total 1 (off + len) rest := by
  rcases h with ⟨rfl, hsees, htotal⟩ | ⟨-, hend⟩
  · obtain ⟨htake, hnext⟩ := hsees.advance hroom
    rw [htake]
    exact ⟨.inl (fromUtf8Lossy_textBytes hpos), .inl ⟨hnext, by omega⟩⟩
  · omega

theorem AtBody.cut (h : AtBody d total len off (textBytes x) rest) (hoff : off ≤ d.length)
    (hno : ¬ (0 < len ∧ off + len ≤ d.length)) :
    Recovered d total none none (x.map Subtype.val)
      ∧ Reached d total 1 (off + min len (d.length - off)) rest := by
  rcases h with ⟨rfl, hsees, htotal⟩ | ⟨hlt, hend⟩
  · by_cases hzero : (textBytes x).length = 0
    · have hnil : textBytes x = [] := List.eq_nil_of_length_eq_zero hzero
      rw [hnil, List.nil_append] at hsees
      rw [hzero, textBytes_eq_nil hnil, Nat.zero_min, Nat.add_zero]
      exact ⟨.inl rfl, .inl ⟨hsees, by omega⟩⟩
    · have hshort : d.length < off + (textBytes x).length := by omega
      exact ⟨.inr ⟨rfl, by omega⟩, .inr ⟨by omega, by omega⟩⟩
  · exact ⟨.inr ⟨rfl, hlt⟩, .inr ⟨hlt, by omega⟩⟩

end Body

/-- Behind a flag: in front of the slot it announces, behind a slot that
is absent, or in what is left of a buffer that was cut off. -/
inductive AtSlot (d : List UInt8) (total : Nat) (flag : UInt8) (off : Nat) :
    Option UInt64 → List UInt8 → Prop where
  | present {slot rest} : flag = 1 → Sees d off (beU64 slot ++ rest) →
      off + (8 + rest.length) = total → AtSlot d total flag off (some slot) rest
  | absent {rest} : flag ≠ 1 → Sees d off rest → off + rest.length = total →
      AtSlot d total flag off none rest
  | cut {x rest} : d.length < total → d.length ≤ off + 6 → AtSlot d total flag off x rest

section Slot

variable {total off : Nat} {d rest : List UInt8} {x : Option UInt64}

theorem length_encodeSlot_pos (x : Option UInt64) : 0 < (encodeSlot x).length := by
  cases x <;> exact Nat.succ_pos _

theorem atSlot_of_reached (h : Reached d total 7 off (encodeSlot x ++ rest))
    (hlen : off < d.length) : AtSlot d total d[off] (off + 1) x rest := by
  rcases h with ⟨hsees, htotal⟩ | ⟨hlt, hleft⟩
  · cases x with
    | none =>
        obtain ⟨hread, hnext⟩ := hsees.index hlen
        rw [index_ok hlen] at hread
        simp only [encodeSlot, List.length_append, List.length_cons, List.length_nil] at htotal
        refine .absent ?_ hnext (by omega)
        rw [Except.ok.inj hread]
        decide
    | some slot =>
        obtain ⟨hread, hnext⟩ := hsees.index hlen
        rw [index_ok hlen] at hread
        simp only [encodeSlot, List.length_append, List.length_cons, length_beU64] at htotal
        exact .present (Except.ok.inj hread) hnext (by omega)
  · exact .cut hlt (by omega)

variable {flag : UInt8}

theorem AtSlot.whole (h : AtSlot d total flag off x rest) (hflag : flag = 1)
    (hroom : off + 8 ≤ d.length) :
    Recovered d total none (some (UInt64.ofNat (fromBe ((d.drop off).take 8)))) x
      ∧ Reached d total 7 (off + 8) rest := by
  cases h with
  | present _ hsees htotal =>
      obtain ⟨hread, hnext⟩ := hsees.u64At hroom
      rw [u64At_ok hroom] at hread
      exact ⟨.inl (congrArg some (Except.ok.inj hread)), .inl ⟨hnext, by omega⟩⟩
  | absent hne => exact absurd hflag hne
  | cut hlt hleft => omega

theorem AtSlot.unread (h : AtSlot d total flag off x rest)
    (hno : ¬ (flag = 1 ∧ off + 8 ≤ d.length)) :
    Recovered d total none none x ∧ Reached d total 7 off rest := by
  cases h with
  | present hflag hsees htotal =>
      have hshort : d.length < off + 8 := Nat.lt_of_not_le fun h => hno ⟨hflag, h⟩
      exact ⟨.inr ⟨rfl, by omega⟩, .inr ⟨by omega, by omega⟩⟩
  | absent _ hsees htotal => exact ⟨.inl rfl, .inl ⟨hsees, htotal⟩⟩
  | cut hlt hleft => exact ⟨.inr ⟨rfl, hlt⟩, .inr ⟨hlt, by omega⟩⟩

end Slot

/-- A field parser went from `c` to `c'` and returned `v`: on a prefix
of an encoding that has the field `x`, encoded as `enc`, at `c`, it
recovered it and reached what follows. -/
def Reads {α : Type} (d : List UInt8) (slack : Nat) (c c' : Cursor) (enc : List UInt8)
    (absent v x : α) : Prop :=
  ∀ rest total, Reached d total slack c.offset (enc ++ rest) →
    Recovered d total absent v x ∧ Reached d total slack c'.offset rest

/-- The absent value is right where the field does not fit any more. -/
theorem Reads.of_short {α : Type} {d enc : List UInt8} {slack : Nat} {c c' : Cursor}
    {absent x : α} (hshort : d.length < c.offset + enc.length)
    (hleft : d.length ≤ c'.offset + slack) : Reads d slack c c' enc absent absent x := by
  intro rest total h
  have hlt : d.length < total := h.length_lt hshort
  exact ⟨.inr ⟨rfl, hlt⟩, .inr ⟨hlt, hleft⟩⟩

section Field

variable {d : List UInt8} {c : Cursor}

theorem parseSignature_spec (base58 : List UInt8 → String) (b : Bool)
    (hc : c.Within d.length) :
    ∃ v c', parseSignature base58 b d c = .ok (v, c') ∧ c'.Within d.length
      ∧ ∀ sig : Option Signature, b = sig.isSome →
        Reads d 0 c c' (encodeSignature sig) none v (sig.map fun s => base58 s.val) := by
  have hoff := hc.offset_le
  unfold parseSignature
  by_cases hroom : b = true ∧ c.offset + 64 ≤ d.length
  · rw [if_pos hroom, slice_ok (Nat.le_add_right ..) hroom.2]
    refine ⟨_, _, rfl, hc.advance hroom.2, fun sig hsig rest total h => ?_⟩
    rcases h with ⟨hsees, htotal⟩ | ⟨-, hend⟩
    · cases sig with
      | none => exact absurd (hroom.1.symm.trans hsig) (by simp)
      | some sig =>
          simp only [encodeSignature, List.length_append, sig.property] at hsees htotal
          obtain ⟨htake, hnext⟩ := hsees.advance (by rw [sig.property]; exact hroom.2)
          rw [sig.property] at htake hnext
          rw [Nat.add_sub_cancel_left, htake]
          exact ⟨.inl rfl, .inl ⟨hnext, by rw [Cursor.offset_advance]; omega⟩⟩
    · omega
  · rw [if_neg hroom]
    cases b with
    | true =>
        rw [if_pos rfl]
        have hshort : d.length < c.offset + 64 := Nat.lt_of_not_le fun h => hroom ⟨rfl, h⟩
        rw [Nat.min_eq_left (Nat.le_of_lt hshort)]
        refine ⟨_, _, rfl, hc.moveTo (Nat.le_refl _), fun sig hsig => ?_⟩
        cases sig with
        | none => cases hsig
        | some sig =>
            refine Reads.of_short ?_ (Nat.le_refl _)
            rw [encodeSignature, sig.property]
            exact hshort
    | false =>
        rw [if_neg Bool.false_ne_true]
        refine ⟨_, _, rfl, hc, fun sig hsig rest total h => ?_⟩
        cases sig with
        | none => exact ⟨.inl rfl, h⟩
        | some sig => cases hsig

theorem parseError_spec (hc : c.Within d.length) :
    ∃ v c', parseError d c = .ok (v, c') ∧ c'.Within d.length
      ∧ ∀ x, Reads d 1 c c' (encodeError x) none v (x.map Subtype.val) := by
  have hoff := hc.offset_le
  unfold parseError
  by_cases hlen : c.offset + 2 ≤ d.length
  · rw [if_pos hlen, u16At_ok hlen]
    generalize hn : UInt16.ofNat (fromBe ((d.drop c.offset).take 2)) = errorLen
    have hc2 : (c.advance 2).Within d.length := hc.advance hlen
    have hbody : ∀ {x rest total}, Reached d total 1 c.offset (encodeError x ++ rest) →
        AtBody d total errorLen.toNat (c.offset + 2) (textBytes x) rest := by
      intro x rest total h
      rcases h with ⟨hsees, htotal⟩ | ⟨-, hend⟩
      · rw [encodeError, List.append_assoc] at hsees htotal
        obtain ⟨hread, hnext⟩ := hsees.u16At hlen
        rw [u16At_ok hlen, hn] at hread
        have hlt := length_textBytes_lt (by decide) x
        refine .inl ⟨?_, hnext, ?_⟩
        · rw [Except.ok.inj hread, UInt16.toNat_ofNat_of_lt' hlt]
        · simp only [List.length_append, length_beU16] at htotal
          omega
      · omega
    by_cases hroom : 0 < errorLen.toNat ∧ (c.advance 2).offset + errorLen.toNat ≤ d.length
    · refine ⟨_, (c.advance 2).advance errorLen.toNat, ?_, hc2.advance hroom.2,
        fun x rest total h => (hbody h).whole hroom.1 hroom.2⟩
      simp only [bind, Except.bind]
      rw [if_pos hroom, slice_ok (Nat.le_add_right ..) hroom.2, Nat.add_sub_cancel_left]
      rfl
    · refine ⟨none, (c.advance 2).advance (min errorLen.toNat (d.length - (c.offset + 2))),
        ?_, hc2.advance ?_, fun x rest total h => (hbody h).cut hlen hroom⟩
      · simp only [bind, Except.bind]
        rw [if_neg hroom, checkedSub_ok hc2.offset_le]
        rfl
      · rw [Cursor.offset_advance]
        omega
  · rw [if_neg hlen]
    refine ⟨none, c, rfl, hc, fun x => Reads.of_short ?_ (by omega)⟩
    rw [encodeError, List.length_append, length_beU16]
    omega

theorem parseText_spec (hc : c.Within d.length) :
    ∃ v c', parseText d c = .ok (v, c') ∧ c'.Within d.length
      ∧ ∀ x, Reads d 1 c c' (encodeText x) none v (x.map Subtype.val) := by
  have hoff := hc.offset_le
  unfold parseText
  by_cases hlen : c.offset < d.length
  · rw [if_pos hlen, index_ok hlen]
    generalize hn : d[c.offset] = len
    have hc1 : (c.advance 1).Within d.length := hc.advance hlen
    have hbody : ∀ {x rest total}, Reached d total 1 c.offset (encodeText x ++ rest) →
        AtBody d total len.toNat (c.offset + 1) (textBytes x) rest := by
      intro x rest total h
      rcases h with ⟨hsees, htotal⟩ | ⟨hlt, hend⟩
      · rw [encodeText, List.cons_append] at hsees htotal
        obtain ⟨hread, hnext⟩ := hsees.index hlen
        rw [index_ok hlen, hn] at hread
        have hlt := length_textBytes_lt (by decide) x
        refine .inl ⟨?_, hnext, ?_⟩
        · rw [Except.ok.inj hread, UInt8.toNat_ofNat_of_lt' hlt]
        · simp only [List.length_append, List.length_cons] at htotal
          omega
      · exact .inr ⟨hlt, by omega⟩
    by_cases hroom : 0 < len.toNat ∧ (c.advance 1).offset + len.toNat ≤ d.length
    · refine ⟨_, (c.advance 1).advance len.toNat, ?_, hc1.advance hroom.2,
        fun x rest total h => (hbody h).whole hroom.1 hroom.2⟩
      simp only [bind, Except.bind]
      rw [if_pos hroom, slice_ok (Nat.le_add_right ..) hroom.2, Nat.add_sub_cancel_left]
      rfl
    · refine ⟨none, (c.advance 1).advance (min len.toNat (d.length - (c.offset + 1))),
        ?_, hc1.advance ?_, fun x rest total h => (hbody h).cut hlen hroom⟩
      · simp only [bind, Except.bind]
        rw [if_neg hroom]
        rfl
      · rw [Cursor.offset_advance]
        omega
  · rw [if_neg hlen]
    refine ⟨none, c, rfl, hc, fun x => Reads.of_short ?_ (by omega)⟩
    rw [encodeText, List.length_cons]
    omega

theorem parseSlot_spec (hc : c.Within d.length) :
    ∃ v c', parseSlot d c = .ok (v, c') ∧ c'.Within d.length
      ∧ ∀ x, Reads d 7 c c' (encodeSlot x) none v x := by
  have hoff := hc.offset_le
  unfold parseSlot
  by_cases hlen : c.offset < d.length
  · rw [if_pos hlen, index_ok hlen]
    simp only [bind, Except.bind]
    have hc1 : (c.advance 1).Within d.length := hc.advance hlen
    by_cases hflag : d[c.offset] = 1
    · by_cases hroom : (c.advance 1).offset + 8 ≤ d.length
      · rw [if_pos hflag, if_pos hroom, u64At_ok hroom]
        exact ⟨_, _, rfl, hc1.advance hroom,
          fun x rest total h => (atSlot_of_reached h hlen).whole hflag hroom⟩
      · rw [if_pos hflag, if_neg hroom]
        exact ⟨none, c.advance 1, rfl, hc1,
          fun x rest total h => (atSlot_of_reached h hlen).unread fun hno => hroom hno.2⟩
    · rw [if_neg hflag]
      exact ⟨none, c.advance 1, rfl, hc1,
        fun x rest total h => (atSlot_of_reached h hlen).unread fun hno => hflag hno.1⟩
  · rw [if_neg hlen]
    refine ⟨none, c, rfl, hc, fun x => Reads.of_short ?_ (by omega)⟩
    have hpos := length_encodeSlot_pos x
    omega

theorem parseLatencies_spec :
    ∃ v, parseLatencies d c = .ok v
      ∧ ∀ x total, Reached d total 7 c.offset (encodeLatencies x) →
        Recovered d total (0, 0) v x := by
  unfold parseLatencies
  by_cases hroom : c.offset + 8 ≤ d.length
  · have hfirst : c.offset + 4 ≤ d.length := by omega
    have hsecond : c.offset + 4 + 4 ≤ d.length := by omega
    rw [if_pos hroom, u32At_ok hfirst, u32At_ok hsecond]
    refine ⟨_, rfl, fun x total h => ?_⟩
    rcases h with ⟨hsees, -⟩ | ⟨-, hend⟩
    · obtain ⟨hread₁, hnext⟩ := hsees.u32At hfirst
      rw [← List.append_nil (beU32 x.2)] at hnext
      obtain ⟨hread₂, -⟩ := hnext.u32At hsecond
      rw [u32At_ok hfirst] at hread₁
      rw [u32At_ok hsecond] at hread₂
      exact .inl (Prod.ext (Except.ok.inj hread₁) (Except.ok.inj hread₂))
    · omega
  · rw [if_neg hroom]
    refine ⟨_, rfl, fun x total h => .inr ⟨rfl, ?_⟩⟩
    rw [← List.append_nil (encodeLatencies x)] at h
    refine h.length_lt ?_
    rw [encodeLatencies, List.length_append, length_beU32, length_beU32]
    omega

end Field

/-! ## The whole answer -/

/-- What was read of the fields `g`: each is right or absent. -/
structure Fields.OrAbsent (f g : Fields) : Prop where
  status : f.status = g.status
  signature : f.signature = g.signature ∨ f.signature = none
  error : f.error = g.error ∨ f.error = none
  senderId : f.senderId = g.senderId ∨ f.senderId = none
  region : f.region = g.region ∨ f.region = none
  slotSent : f.slotSent = g.slotSent ∨ f.slotSent = none
  slotAccepted : f.slotAccepted = g.slotAccepted ∨ f.slotAccepted = none
  latencies : f.latencies = g.latencies ∨ f.latencies = (0, 0)

/-- The fields read from a prefix `d` of an encoding of `total` bytes. -/
structure Fields.RecoveredFrom (d : List UInt8) (total : Nat) (f g : Fields) : Prop where
  status : f.status = g.status
  signature : Recovered d total none f.signature g.signature
  error : Recovered d total none f.error g.error
  senderId : Recovered d total none f.senderId g.senderId
  region : Recovered d total none f.region g.region
  slotSent : Recovered d total none f.slotSent g.slotSent
  slotAccepted : Recovered d total none f.slotAccepted g.slotAccepted
  latencies : Recovered d total (0, 0) f.latencies g.latencies

theorem Fields.RecoveredFrom.orAbsent {d : List UInt8} {total : Nat} {f g : Fields}
    (h : f.RecoveredFrom d total g) : f.OrAbsent g where
  status := h.status
  signature := h.signature.eq_or_absent
  error := h.error.eq_or_absent
  senderId := h.senderId.eq_or_absent
  region := h.region.eq_or_absent
  slotSent := h.slotSent.eq_or_absent
  slotAccepted := h.slotAccepted.eq_or_absent
  latencies := h.latencies.eq_or_absent

theorem Fields.RecoveredFrom.eq_of_le {d : List UInt8} {total : Nat} {f g : Fields}
    (h : f.RecoveredFrom d total g) (hlen : total ≤ d.length) : f = g := by
  cases f
  cases g
  obtain ⟨rfl, h₁, h₂, h₃, h₄, h₅, h₆, h₇⟩ := h
  obtain rfl := h₁.eq_of_le hlen
  obtain rfl := h₂.eq_of_le hlen
  obtain rfl := h₃.eq_of_le hlen
  obtain rfl := h₄.eq_of_le hlen
  obtain rfl := h₅.eq_of_le hlen
  obtain rfl := h₆.eq_of_le hlen
  obtain rfl := h₇.eq_of_le hlen
  rfl

/-- The six bytes every answer has. -/
theorem sees_header {r : SubmitResponse} {d : List UInt8} (hpre : d <+: r.encode)
    (hlen : 6 ≤ d.length) :
    index d 4 = .ok r.status.toByte
      ∧ index d 5 = .ok (if r.signature.isSome then 1 else 0)
      ∧ Reached d r.encode.length 0 6 r.encodeFields := by
  obtain ⟨-, h4⟩ := (Sees.start hpre).u32At (by omega)
  obtain ⟨hstatus, h5⟩ := h4.index (by omega)
  obtain ⟨hflag, h6⟩ := h5.index (by omega)
  refine ⟨hstatus, hflag, .inl ⟨h6, ?_⟩⟩
  simp only [SubmitResponse.encode, List.length_append, List.length_cons, length_beU32]
  omega

theorem parseResponse_spec (base58 : List UInt8 → String) {d : List UInt8}
    (hlen : 6 ≤ d.length) :
    ∃ p, parseResponse base58 d = .ok p ∧ (∀ off ∈ p.trail, off ≤ d.length)
      ∧ ∀ r : SubmitResponse, d <+: r.encode →
        p.fields.RecoveredFrom d r.encode.length (r.fields base58) := by
  have hread0 := u32At_ok (show 0 + 4 ≤ d.length by omega)
  have hread4 := index_ok (show 4 < d.length by omega)
  have hread5 := index_ok (show 5 < d.length by omega)
  obtain ⟨signature, c₁, hsig, hc₁, rsig⟩ :=
    parseSignature_spec base58 (d[5] != 0) (Cursor.within_start hlen)
  obtain ⟨error, c₂, herr, hc₂, rerr⟩ := parseError_spec hc₁
  obtain ⟨senderId, c₃, hsender, hc₃, rsender⟩ := parseText_spec hc₂
  obtain ⟨region, c₄, hregion, hc₄, rregion⟩ := parseText_spec hc₃
  obtain ⟨slotSent, c₅, hsent, hc₅, rsent⟩ := parseSlot_spec hc₄
  obtain ⟨slotAccepted, c₆, hacc, hc₆, racc⟩ := parseSlot_spec hc₅
  obtain ⟨latencies, hlat, rlat⟩ := @parseLatencies_spec d c₆
  let f : Fields :=
    { status := transactionStatus (ResponseStatus.fromByte d[4])
      signature := signature
      error := error
      senderId := senderId
      region := region
      slotSent := slotSent
      slotAccepted := slotAccepted
      latencies := latencies }
  refine ⟨⟨f, c₆.trail⟩, ?_, hc₆.trail_le, fun r hpre => ?_⟩
  · simp only [parseResponse, hread0, hread4, hread5, bind, Except.bind, hsig, herr,
      hsender, hregion, hsent, hacc, hlat]
    rfl
  · obtain ⟨hstatus, hflag, h6⟩ := sees_header hpre hlen
    rw [hread4] at hstatus
    rw [hread5] at hflag
    have hsome : (d[5] != 0) = r.signature.isSome := by
      rw [Except.ok.inj hflag]
      cases r.signature <;> rfl
    -- the offset goes from field to field; behind a cut it has at most
    -- one byte left up to the texts, and at most seven in the slots
    obtain ⟨g₁, h₁⟩ := rsig r.signature hsome _ _ h6
    obtain ⟨g₂, h₂⟩ := rerr r.error _ _ (h₁.mono (by decide))
    obtain ⟨g₃, h₃⟩ := rsender r.senderId _ _ h₂
    obtain ⟨g₄, h₄⟩ := rregion r.region _ _ h₃
    obtain ⟨g₅, h₅⟩ := rsent r.slotSent _ _ (h₄.mono (by decide))
    obtain ⟨g₆, h₆⟩ := racc r.slotAccepted _ _ h₅
    refine ⟨?_, g₁, g₂, g₃, g₄, g₅, g₆, rlat _ _ h₆⟩
    show transactionStatus (ResponseStatus.fromByte d[4]) = (r.fields base58).status
    rw [Except.ok.inj hstatus, ResponseStatus.fromByte_toByte, SubmitResponse.status_fields]

/-- The answer format: whole answers are read back, cut-off ones give
right or absent fields, and no buffer makes the parser leave it. -/
theorem parseResponse_format (base58 : List UInt8 → String) :
    (∀ r : SubmitResponse,
      ∃ p, parseResponse base58 r.encode = .ok p ∧ p.fields = r.fields base58)
    ∧ (∀ (r : SubmitResponse) (d : List UInt8), d <+: r.encode → 6 ≤ d.length →
      ∃ p, parseResponse base58 d = .ok p ∧ p.fields.OrAbsent (r.fields base58))
    ∧ ∀ d : List UInt8, 6 ≤ d.length →
      ∃ p, parseResponse base58 d = .ok p ∧ ∀ off ∈ p.trail, off ≤ d.length := by
  refine ⟨fun r => ?_, fun r d hpre hlen => ?_, fun d hlen => ?_⟩
  · have hlen : 6 ≤ r.encode.length := by
      simp only [SubmitResponse.encode, List.length_append, List.length_cons, length_beU32]
      omega
    obtain ⟨p, hp, -, hrec⟩ := parseResponse_spec base58 hlen
    exact ⟨p, hp, (hrec r (List.prefix_refl _)).eq_of_le (Nat.le_refl _)⟩
  · obtain ⟨p, hp, -, hrec⟩ := parseResponse_spec base58 hlen
    exact ⟨p, hp, (hrec r hpre).orAbsent⟩
  · obtain ⟨p, hp, htrail, -⟩ := parseResponse_spec base58 hlen
    exact ⟨p, hp, htrail⟩

/-- A rejection; it has no signature to encode. -/
def rejection : SubmitResponse where
  requestId := 7
  status := .rateLimited
  signature := none
  error := some ⟨"slow", by decide⟩
  senderId := some ⟨"jito", by decide⟩
  region := none
  slotSent := some 4265028000
  slotAccepted := none
  latencyMs := 12
  senderLatencyMs := 5

/-- The rejection, cut off inside the sender. -/
theorem parseResponse_rejection :
    ∃ p, parseResponse (fun _ => "") (rejection.encode.take 16) = .ok p
      ∧ p.fields.OrAbsent (rejection.fields fun _ => "") :=
  (parseResponse_format fun _ => "").2.1 rejection _ (List.take_prefix ..) (by decide)

/-! ## The result of a submission -/

section Respond

variable (base58 : List UInt8 → String) (requestId transactionId : String)
  (timestamp : UInt64)

/-- Whatever the worker sends, the submission returns. -/
theorem respond_returns (read : Except String (List UInt8)) :
    ∃ answer, respond base58 requestId transactionId timestamp read = .ok answer := by
  cases read with
  | error e => exact ⟨_, rfl⟩
  | ok d =>
      simp only [respond]
      by_cases hlen : d.length < 6
      · rw [if_pos hlen]
        exact ⟨_, rfl⟩
      · obtain ⟨p, hp, -⟩ := parseResponse_spec base58 (Nat.le_of_not_lt hlen)
        rw [if_neg hlen, hp]
        exact ⟨_, rfl⟩

/-- A whole answer becomes the result of the submission. -/
theorem respond_encode (r : SubmitResponse) :
    respond base58 requestId transactionId timestamp (.ok r.encode)
      = .ok (.ok ((r.fields base58).result requestId transactionId timestamp)) := by
  have hlen : ¬ r.encode.length < 6 := by
    simp only [SubmitResponse.encode, List.length_append, List.length_cons, length_beU32]
    omega
  obtain ⟨p, hp, -, hrec⟩ := parseResponse_spec base58 (Nat.le_of_not_lt hlen)
  have hfields : p.fields = r.fields base58 :=
    (hrec r (List.prefix_refl _)).eq_of_le (Nat.le_refl _)
  simp only [respond]
  rw [if_neg hlen, hp, ← hfields]
  rfl

end Respond

end QuicResponse

end Slipstream
