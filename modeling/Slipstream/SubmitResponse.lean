import Slipstream.Types

/-!
# The HTTP and gRPC answers to a submit

Both transports get a single response to a submission and convert it to a
`TransactionResult`. HTTP names the status by a word (`parseStatus`),
gRPC by a number (`convertStatus`); whatever is neither counts as
pending.
-/

namespace Slipstream

/-! ## HTTP -/

/-- `to_lowercase` of one character, as far as a comparison with a word
of ASCII letters can tell: besides the capitals the Kelvin sign, and no
other character, becomes an ASCII letter alone. -/
def lowerChar (c : Char) : Char :=
  if c = '\u212a' then 'k' else c.toLower

def toLowercase (s : String) : String := String.ofList (s.toList.map lowerChar)

def parseStatus (status : String) : TransactionStatus :=
  match toLowercase status with
  | "pending" => .pending
  | "processing" => .processing
  | "sent" => .sent
  | "confirmed" => .confirmed
  | "failed" => .failed
  | "duplicate" => .duplicate
  | "rate_limited" | "ratelimited" => .rateLimited
  | "insufficient_tokens" | "insufficienttokens" => .insufficientTokens
  | _ => .pending

structure HttpSubmitResponse where
  requestId : String
  transactionId : String
  signature : Option String
  status : String
  slot : Option UInt64
  timestamp : UInt64
  routing : Option RoutingInfo
  error : Option TransactionError
deriving Repr, DecidableEq

def HttpSubmitResponse.toResult (r : HttpSubmitResponse) : TransactionResult where
  requestId := r.requestId
  transactionId := r.transactionId
  signature := r.signature
  status := parseStatus r.status
  slot := r.slot
  timestamp := r.timestamp
  routing := r.routing
  error := r.error

/-! ## gRPC -/

/-- The routing of a response, with the fields that are converted. -/
structure GrpcRoutingInfo where
  selectedRegion : String
  selectedSender : String
deriving Repr, DecidableEq

structure ConfirmationInfo where
  signature : String
  slot : UInt64
  routingLatencyMs : UInt32
  senderLatencyMs : UInt32
  totalLatencyMs : UInt32
deriving Repr, DecidableEq

structure GrpcErrorInfo where
  code : String
  message : String
  details : AList fun _ : String => String
deriving DecidableEq

structure TransactionResponse where
  requestId : String
  transactionId : String
  status : Int32
  timestamp : UInt64
  routing : Option GrpcRoutingInfo
  confirmation : Option ConfirmationInfo
  error : Option GrpcErrorInfo
deriving DecidableEq

def convertStatus (status : Int32) : TransactionStatus :=
  match status.toInt with
  | 1 => .pending
  | 2 => .processing
  | 3 => .sent
  | 4 => .confirmed
  | 5 => .failed
  | _ => .pending

/-- The first response on the stream as a result. `json` writes the
details of an error as JSON text. -/
def TransactionResponse.toResult (json : (AList fun _ : String => String) → String)
    (r : TransactionResponse) : TransactionResult where
  requestId := r.requestId
  transactionId := r.transactionId
  signature := r.confirmation.map fun c => c.signature
  status := convertStatus r.status
  slot := r.confirmation.map fun c => c.slot
  timestamp := r.timestamp
  routing :=
    r.confirmation.map fun c =>
      { region := (r.routing.map fun i => i.selectedRegion).getD ""
        sender := (r.routing.map fun i => i.selectedSender).getD ""
        routingLatencyMs := c.routingLatencyMs
        senderLatencyMs := c.senderLatencyMs
        totalLatencyMs := c.totalLatencyMs }
  error :=
    r.error.map fun e =>
      { code := e.code
        message := e.message
        details := if e.details.entries = [] then none else some (json e.details) }

/-- A routing that was reported arrives with its region and its sender. -/
def TransactionResponse.RoutingKept (r : TransactionResponse) (res : TransactionResult) :
    Prop :=
  ∀ i ∈ r.routing, ∃ info ∈ res.routing,
    info.region = i.selectedRegion ∧ info.sender = i.selectedSender

/-- The conversion looks at the routing under a confirmation only. -/
theorem TransactionResponse.routingKept_iff
    (json : (AList fun _ : String => String) → String) (r : TransactionResponse) :
    r.RoutingKept (r.toResult json) ↔ (r.routing ≠ none → r.confirmation ≠ none) := by
  unfold RoutingKept toResult
  cases hr : r.routing with
  | none => simp
  | some i =>
      cases hc : r.confirmation with
      | none => simp
      | some c => simp

end Slipstream
