import Slipstream.Types

/-!
# WebSocket server messages

What the server sends over the WebSocket, and the conversions of its
stream messages to the types the subscriptions hand out. A tip, a fee, a
blockhash and a slot have the same fields on both sides; a leader hint
may come without its leader and without its metadata.
-/

namespace Slipstream

structure WsLeaderHintMetadata where
  tpuRttMs : UInt32
  regionScore : Float
deriving DecidableEq

structure WsLeaderHint where
  timestamp : UInt64
  slot : UInt64
  expiresAtSlot : UInt64
  preferredRegion : String
  backupRegions : List String
  confidence : UInt32
  leaderPubkey : Option String
  metadata : Option WsLeaderHintMetadata
deriving DecidableEq

/-- The reply to `Connect`. -/
structure WsConnected where
  sessionId : String
  region : Option String
  serverTime : UInt64
  features : List String
  rateLimit : RateLimitInfo
deriving Repr, DecidableEq

structure WsTransactionUpdate where
  requestId : String
  transactionId : String
  status : String
  signature : Option String
  slot : Option UInt64
  slotSent : Option UInt64
  slotAccepted : Option UInt64
  timestamp : UInt64
  routing : Option RoutingInfo
deriving Repr, DecidableEq

structure WsTransactionConfirmed where
  requestId : String
  transactionId : String
  signature : Option String
  slot : Option UInt64
  slotSent : Option UInt64
  slotAccepted : Option UInt64
  routing : Option RoutingInfo
deriving Repr, DecidableEq

inductive ServerMessage where
  | connected (reply : WsConnected)
  | error (code message : String)
  | leaderHint (hint : WsLeaderHint)
  | tipInstruction (tip : TipInstruction)
  | priorityFee (fee : PriorityFee)
  | latestBlockhash (blockhash : LatestBlockhash)
  | latestSlot (slot : LatestSlot)
  | transactionAccepted (requestId transactionId : String)
  | transactionUpdate (update : WsTransactionUpdate)
  | transactionConfirmed (confirmed : WsTransactionConfirmed)
  | transactionFailed (requestId transactionId : String) (error : TransactionError)
  | heartbeat
deriving DecidableEq

def convertLeaderHint (ws : WsLeaderHint) : LeaderHint where
  timestamp := ws.timestamp
  slot := ws.slot
  expiresAtSlot := ws.expiresAtSlot
  preferredRegion := ws.preferredRegion
  backupRegions := ws.backupRegions
  confidence := ws.confidence
  leaderPubkey := ws.leaderPubkey.getD ""
  metadata :=
    match ws.metadata with
    | some m => ⟨m.tpuRttMs, m.regionScore, none, none⟩
    | none => ⟨0, 0.0, none, none⟩

/-- The item a message carries for a stream: the matching arm of the
stream's forwarder, its conversion included. -/
def ServerMessage.itemFor : StreamKind → ServerMessage → Option StreamItem
  | .leaderHints, .leaderHint hint => some (.leaderHint (convertLeaderHint hint))
  | .tipInstructions, .tipInstruction tip => some (.tipInstruction tip)
  | .priorityFees, .priorityFee fee => some (.priorityFee fee)
  | .latestBlockhash, .latestBlockhash blockhash => some (.latestBlockhash blockhash)
  | .latestSlot, .latestSlot slot => some (.latestSlot slot)
  | _, _ => none

/-- The request a transaction message answers. -/
def ServerMessage.requestId : ServerMessage → Option String
  | .transactionAccepted requestId _ => some requestId
  | .transactionUpdate update => some update.requestId
  | .transactionConfirmed confirmed => some confirmed.requestId
  | .transactionFailed requestId _ _ => some requestId
  | _ => none

end Slipstream
