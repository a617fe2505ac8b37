import Slipstream.WsMessage

/-!
# The receive loop of a WebSocket submit

`submit_transaction` sends the transaction and then takes messages off
the shared queue until one of them settles its request. `SubmitLoop`
holds the locals of that loop, `onMessage` is one round of it, and
`result` what is computed after the loop was left.

Only messages that carry the request's own id are acted upon
(`onMessage_eq_ignored_iff`).
-/

namespace Slipstream

/-- The locals of the loop, with their values before the first round. -/
structure SubmitLoop where
  requestId : String
  timeout : Duration
  transactionId : String := ""
  signature : Option String := none
  slot : Option UInt64 := none
  slotSent : Option UInt64 := none
  slotAccepted : Option UInt64 := none
  status : TransactionStatus := .pending
  routing : Option RoutingInfo := none
  error : Option TransactionError := none
deriving Repr, DecidableEq

namespace SubmitLoop

inductive Round where
  | ignored
  | next (l : SubmitLoop)
  | finished (l : SubmitLoop)
deriving DecidableEq

/-- The loop after a `SubmitTransaction` has been sent. -/
def start (requestId : String) (options : SubmitOptions) : SubmitLoop where
  requestId := requestId
  timeout := .fromMillis options.timeoutMs.toNat

def onAccepted (l : SubmitLoop) (transactionId : String) : SubmitLoop :=
  { l with transactionId := transactionId, status := .processing }

/-- What both an update and a confirmation carry. -/
def withProgress (l : SubmitLoop) (signature : Option String)
    (slot slotSent slotAccepted : Option UInt64) : SubmitLoop :=
  { l with
    signature := signature.or l.signature
    slot := slot.or l.slot
    slotSent := slotSent.or l.slotSent
    slotAccepted := slotAccepted.or l.slotAccepted }

def onUpdate (l : SubmitLoop) (u : WsTransactionUpdate) : Round :=
  let l := if u.transactionId = "" then l else { l with transactionId := u.transactionId }
  let l := l.withProgress u.signature u.slot u.slotSent u.slotAccepted
  let l := { l with routing := u.routing.or l.routing }
  match u.status with
  | "pending" => .next { l with status := .pending }
  | "processing" => .next { l with status := .processing }
  | "sent" => .next { l with status := .sent }
  -- both leave the loop before the status is assigned
  | "confirmed" => .finished l
  | "failed" => .finished l
  | _ => .next { l with status := .processing }

def onConfirmed (l : SubmitLoop) (c : WsTransactionConfirmed) : SubmitLoop :=
  let l := { l with transactionId := c.transactionId }
  let l := l.withProgress c.signature c.slot c.slotSent c.slotAccepted
  { l with status := .confirmed, routing := c.routing }

def onFailed (l : SubmitLoop) (transactionId : String) (error : TransactionError) :
    SubmitLoop :=
  { l with transactionId := transactionId, status := .failed, error := some error }

def onMessage (l : SubmitLoop) : ServerMessage → Round
  | .transactionAccepted requestId transactionId =>
      if requestId = l.requestId then .next (l.onAccepted transactionId) else .ignored
  | .transactionUpdate update =>
      if update.requestId = l.requestId then l.onUpdate update else .ignored
  | .transactionConfirmed confirmed =>
      if confirmed.requestId = l.requestId then .finished (l.onConfirmed confirmed)
      else .ignored
  | .transactionFailed requestId transactionId error =>
      if requestId = l.requestId then .finished (l.onFailed transactionId error)
      else .ignored
  | _ => .ignored

/-- After the loop: where the transaction landed, and how many slots
after it was sent. -/
def result (l : SubmitLoop) (timestamp : UInt64) : TransactionResult :=
  let slotLanded := if l.status = .confirmed then l.slot else none
  let slotDelta :=
    match l.slotSent, slotLanded with
    | some sent, some landed => if sent ≤ landed then some (landed - sent) else none
    | _, _ => none
  { requestId := l.requestId
    transactionId := l.transactionId
    signature := l.signature
    status := l.status
    slot := l.slot
    slotSent := l.slotSent
    slotAccepted := l.slotAccepted
    slotLanded := slotLanded
    slotDelta := slotDelta
    timestamp := timestamp
    routing := l.routing
    error := l.error }

theorem onUpdate_ne_ignored (l : SubmitLoop) (u : WsTransactionUpdate) :
    l.onUpdate u ≠ .ignored := by
  simp only [onUpdate]
  split <;> simp

/-- A loop passes over the messages that answer another request, or
none. -/
theorem onMessage_eq_ignored_iff (l : SubmitLoop) (msg : ServerMessage) :
    l.onMessage msg = .ignored ↔ msg.requestId ≠ some l.requestId := by
  cases msg with
  | transactionAccepted requestId _ => simp [onMessage, ServerMessage.requestId]
  | transactionUpdate update =>
      simp [onMessage, ServerMessage.requestId, onUpdate_ne_ignored]
  | transactionConfirmed confirmed => simp [onMessage, ServerMessage.requestId]
  | transactionFailed requestId _ _ => simp [onMessage, ServerMessage.requestId]
  | _ => simp [onMessage, ServerMessage.requestId]

end SubmitLoop

end Slipstream
