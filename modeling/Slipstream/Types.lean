import Mathlib.Data.List.AList

/-!
# Message and connection types

The records the client, the transports and the server exchange, with the
fields the modelled functions read or return. `u64` and `u32` are the
fixed-width integers, `f64` is `Float`, a `HashMap` is an association
list with distinct keys, and a `Duration` counts nanoseconds.
-/

namespace Slipstream

abbrev Duration := Nat

namespace Duration

def fromMillis (n : Nat) : Duration := n * 1000000

def fromSecs (n : Nat) : Duration := n * 1000000000

end Duration

/-! ## Errors -/

inductive SdkError where
  | config (msg : String)
  | connection (msg : String)
  | auth (msg : String)
  | protocol (msg : String)
  | transaction (msg : String)
  | timeout (after : Duration)
  | allProtocolsFailed
  | rateLimited (msg : String)
  | notConnected
  | streamClosed
  | insufficientTokens
  | internal (msg : String)
deriving Repr, DecidableEq

instance decidableEqExcept {ε α : Type} [DecidableEq ε] [DecidableEq α] :
    DecidableEq (Except ε α)
  | .error a, .error b => decidable_of_iff (a = b) (by simp)
  | .ok a, .ok b => decidable_of_iff (a = b) (by simp)
  | .error _, .ok _ => isFalse (by simp)
  | .ok _, .error _ => isFalse (by simp)

theorem map_eq_ok_iff {ε α β : Type} {f : α → β} {x : Except ε α} {b : β} :
    x.map f = .ok b ↔ ∃ a, x = .ok a ∧ f a = b := by
  cases x with
  | error e => simp [Except.map]
  | ok a => simp [Except.map]

/-! ## Protocols and worker endpoints -/

inductive Protocol where
  | quic
  | grpc
  | webSocket
  | http
deriving Repr, DecidableEq

/-- All protocols, in fallback order. -/
def Protocol.fallbackOrder : List Protocol := [.quic, .grpc, .webSocket, .http]

/-- The addresses a worker advertises. The legacy ones are dialled at
connect time only, during a port migration; HTTP has none. -/
structure WorkerEndpoint where
  id : String
  region : String
  quic : Option String
  grpc : Option String
  websocket : Option String
  http : Option String
  legacyQuic : Option String
  legacyGrpc : Option String
  legacyWebsocket : Option String
deriving Repr, DecidableEq

namespace WorkerEndpoint

/-- All protocols at the same host, on the standard ports. -/
def new (id region ip : String) : WorkerEndpoint where
  id := id
  region := region
  quic := some (ip ++ ":4433")
  grpc := some ("http://" ++ ip ++ ":10000")
  websocket := some ("ws://" ++ ip ++ ":9000/ws")
  http := some ("http://" ++ ip ++ ":9000")
  legacyQuic := none
  legacyGrpc := none
  legacyWebsocket := none

def withEndpoints (id region : String) (quic grpc websocket http : Option String) :
    WorkerEndpoint where
  id := id
  region := region
  quic := quic
  grpc := grpc
  websocket := websocket
  http := http
  legacyQuic := none
  legacyGrpc := none
  legacyWebsocket := none

def withLegacy (w : WorkerEndpoint) (quic grpc websocket : Option String) :
    WorkerEndpoint :=
  { w with legacyQuic := quic, legacyGrpc := grpc, legacyWebsocket := websocket }

def getEndpoint (w : WorkerEndpoint) : Protocol → Option String
  | .quic => w.quic
  | .grpc => w.grpc
  | .webSocket => w.websocket
  | .http => w.http

def getLegacyEndpoint (w : WorkerEndpoint) : Protocol → Option String
  | .quic => w.legacyQuic
  | .grpc => w.legacyGrpc
  | .webSocket => w.legacyWebsocket
  | .http => none

/-- The worker with the primary endpoint of one protocol replaced. -/
def withPrimaryEndpoint (w : WorkerEndpoint) (p : Protocol) (e : Option String) :
    WorkerEndpoint :=
  match p with
  | .quic => { w with quic := e }
  | .grpc => { w with grpc := e }
  | .webSocket => { w with websocket := e }
  | .http => { w with http := e }

@[simp] theorem getEndpoint_withPrimaryEndpoint (w : WorkerEndpoint) (p : Protocol)
    (e : Option String) : (w.withPrimaryEndpoint p e).getEndpoint p = e := by
  cases p <;> rfl

end WorkerEndpoint

/-! ## Stream messages -/

structure LeaderHintMetadata where
  tpuRttMs : UInt32
  regionScore : Float
  leaderTpuAddress : Option String
  regionRttMs : Option (AList fun _ : String => UInt32)
deriving DecidableEq

/-- Which region is closest to the current leader. -/
structure LeaderHint where
  timestamp : UInt64
  slot : UInt64
  expiresAtSlot : UInt64
  preferredRegion : String
  backupRegions : List String
  confidence : UInt32
  leaderPubkey : String
  metadata : LeaderHintMetadata
deriving DecidableEq

structure AlternativeSender where
  sender : String
  tipAmountSol : Float
  confidence : UInt32
deriving DecidableEq

structure TipInstruction where
  timestamp : UInt64
  sender : String
  senderName : String
  tipWalletAddress : String
  tipAmountSol : Float
  tipTier : String
  expectedLatencyMs : UInt32
  confidence : UInt32
  validUntilSlot : UInt64
  alternativeSenders : List AlternativeSender
deriving DecidableEq

structure PriorityFee where
  timestamp : UInt64
  speed : String
  computeUnitPrice : UInt64
  computeUnitLimit : UInt32
  estimatedCostSol : Float
  landingProbability : UInt32
  networkCongestion : String
  recentSuccessRate : Float
deriving DecidableEq

structure LatestBlockhash where
  blockhash : String
  lastValidBlockHeight : UInt64
  timestamp : UInt64
deriving Repr, DecidableEq

structure LatestSlot where
  slot : UInt64
  timestamp : UInt64
deriving Repr, DecidableEq

/-- What a subscription delivers. -/
inductive StreamItem where
  | leaderHint (hint : LeaderHint)
  | tipInstruction (tip : TipInstruction)
  | priorityFee (fee : PriorityFee)
  | latestBlockhash (blockhash : LatestBlockhash)
  | latestSlot (slot : LatestSlot)
deriving DecidableEq

/-- The streams a client can subscribe to. -/
inductive StreamKind where
  | leaderHints
  | tipInstructions
  | priorityFees
  | latestBlockhash
  | latestSlot
deriving Repr, DecidableEq

/-! ## Transaction results -/

inductive TransactionStatus where
  | pending
  | processing
  | sent
  | confirmed
  | failed
  | duplicate
  | rateLimited
  | insufficientTokens
deriving Repr, DecidableEq

def TransactionStatus.isTerminal : TransactionStatus → Bool
  | .pending | .processing | .sent => false
  | .confirmed | .failed | .duplicate | .rateLimited | .insufficientTokens => true

structure RoutingInfo where
  region : String
  sender : String
  routingLatencyMs : UInt32
  senderLatencyMs : UInt32
  totalLatencyMs : UInt32
deriving Repr, DecidableEq

/-- The JSON of `details` is carried as its text. -/
structure TransactionError where
  code : String
  message : String
  details : Option String
deriving Repr, DecidableEq

structure TransactionResult where
  requestId : String
  transactionId : String
  signature : Option String := none
  status : TransactionStatus
  slot : Option UInt64 := none
  slotSent : Option UInt64 := none
  slotAccepted : Option UInt64 := none
  slotLanded : Option UInt64 := none
  slotDelta : Option UInt64 := none
  commitmentLevel : Option String := none
  confirmations : Option UInt64 := none
  slotProcessed : Option UInt64 := none
  slotConfirmed : Option UInt64 := none
  slotFinalized : Option UInt64 := none
  timestamp : UInt64
  routing : Option RoutingInfo := none
  error : Option TransactionError := none
deriving Repr, DecidableEq

/-! ## Submission options and connection information -/

structure RetryOptions where
  maxRetries : UInt32 := 2
  backoffBaseMs : UInt64 := 100
deriving Repr, DecidableEq

structure SubmitOptions where
  broadcastMode : Bool := false
  preferredSender : Option String := none
  maxRetries : UInt32 := 2
  timeoutMs : UInt64 := 30000
  dedupId : Option String := none
  retry : Option RetryOptions := none
  tpuSubmission : Bool := false
deriving Repr, DecidableEq

structure RateLimitInfo where
  rps : UInt32
  burst : UInt32
deriving Repr, DecidableEq

structure ConnectionInfo where
  sessionId : String
  protocol : String
  region : Option String
  serverTime : UInt64
  features : List String
  rateLimit : RateLimitInfo
deriving Repr, DecidableEq

end Slipstream
