import Slipstream.Records
import Slipstream.WsMessage

/-!
# The text of the server's messages

What the WebSocket receiver makes of a text frame, and the HTTP transport
of the item of a poll. Both read records out of JSON. Two parameters stand
for the JSON library: `json` takes a text to the value it is, `f64` a value
to a number with a fraction.
-/

namespace Slipstream

namespace ServerText

open JsonText (Value)

open Records

section Readers

variable (f64 : Value → Option Float)

/-! ## The records of the WebSocket messages -/

def rateLimitInfo : Record RateLimitInfo where
  layout := needed ["rps", "burst"]
  read fields := do
    let rps ← required "rps" u32 fields
    let burst ← required "burst" u32 fields
    pure ⟨rps, burst⟩

def wsLeaderHintMetadata : Record WsLeaderHintMetadata where
  layout := needed ["tpuRttMs", "regionScore"]
  read fields := do
    let tpuRttMs ← required "tpuRttMs" u32 fields
    let regionScore ← required "regionScore" f64 fields
    pure ⟨tpuRttMs, regionScore⟩

def wsLeaderHint : Record WsLeaderHint where
  layout :=
    needed ["timestamp", "slot", "expiresAtSlot", "preferredRegion"] ++
    spared ["backupRegions"] ++
    needed ["confidence", "leaderPubkey", "metadata"]
  read fields := do
    let timestamp ← required "timestamp" u64 fields
    let slot ← required "slot" u64 fields
    let expiresAtSlot ← required "expiresAtSlot" u64 fields
    let preferredRegion ← required "preferredRegion" string fields
    let backupRegions ← defaulted ["backupRegions"] [] (array string) fields
    let confidence ← required "confidence" u32 fields
    let leaderPubkey ← orNull "leaderPubkey" string fields
    let metadata ← orNull "metadata" (wsLeaderHintMetadata f64).value fields
    pure
      { timestamp := timestamp
        slot := slot
        expiresAtSlot := expiresAtSlot
        preferredRegion := preferredRegion
        backupRegions := backupRegions
        confidence := confidence
        leaderPubkey := leaderPubkey
        metadata := metadata }

def alternativeSender : Record AlternativeSender where
  layout := needed ["sender", "tipAmountSol", "confidence"]
  read fields := do
    let sender ← required "sender" string fields
    let tipAmountSol ← required "tipAmountSol" f64 fields
    let confidence ← required "confidence" u32 fields
    pure ⟨sender, tipAmountSol, confidence⟩

def tipInstruction : Record TipInstruction where
  layout :=
    needed ["timestamp", "sender", "senderName", "tipWalletAddress", "tipAmountSol", "tipTier",
      "expectedLatencyMs", "confidence", "validUntilSlot"] ++
    spared ["alternativeSenders"]
  read fields := do
    let timestamp ← required "timestamp" u64 fields
    let sender ← required "sender" string fields
    let senderName ← required "senderName" string fields
    let tipWalletAddress ← required "tipWalletAddress" string fields
    let tipAmountSol ← required "tipAmountSol" f64 fields
    let tipTier ← required "tipTier" string fields
    let expectedLatencyMs ← required "expectedLatencyMs" u32 fields
    let confidence ← required "confidence" u32 fields
    let validUntilSlot ← required "validUntilSlot" u64 fields
    let alternativeSenders ←
      defaulted ["alternativeSenders"] [] (array (alternativeSender f64).value) fields
    pure
      { timestamp := timestamp
        sender := sender
        senderName := senderName
        tipWalletAddress := tipWalletAddress
        tipAmountSol := tipAmountSol
        tipTier := tipTier
        expectedLatencyMs := expectedLatencyMs
        confidence := confidence
        validUntilSlot := validUntilSlot
        alternativeSenders := alternativeSenders }

def priorityFee : Record PriorityFee where
  layout :=
    needed ["timestamp", "speed", "computeUnitPrice", "computeUnitLimit", "estimatedCostSol",
      "landingProbability", "networkCongestion", "recentSuccessRate"]
  read fields := do
    let timestamp ← required "timestamp" u64 fields
    let speed ← required "speed" string fields
    let computeUnitPrice ← required "computeUnitPrice" u64 fields
    let computeUnitLimit ← required "computeUnitLimit" u32 fields
    let estimatedCostSol ← required "estimatedCostSol" f64 fields
    let landingProbability ← required "landingProbability" u32 fields
    let networkCongestion ← required "networkCongestion" string fields
    let recentSuccessRate ← required "recentSuccessRate" f64 fields
    pure
      { timestamp := timestamp
        speed := speed
        computeUnitPrice := computeUnitPrice
        computeUnitLimit := computeUnitLimit
        estimatedCostSol := estimatedCostSol
        landingProbability := landingProbability
        networkCongestion := networkCongestion
        recentSuccessRate := recentSuccessRate }

def latestBlockhash : Record LatestBlockhash where
  layout := needed ["blockhash", "lastValidBlockHeight", "timestamp"]
  read fields := do
    let blockhash ← required "blockhash" string fields
    let lastValidBlockHeight ← required "lastValidBlockHeight" u64 fields
    let timestamp ← required "timestamp" u64 fields
    pure ⟨blockhash, lastValidBlockHeight, timestamp⟩

def latestSlot : Record LatestSlot where
  layout := needed ["slot", "timestamp"]
  read fields := do
    let slot ← required "slot" u64 fields
    let timestamp ← required "timestamp" u64 fields
    pure ⟨slot, timestamp⟩

/-- Each field may have either of two names, or be missing. -/
def wsRoutingInfo : Record RoutingInfo where
  layout := spared ["region", "sender", "routingLatencyMs", "senderLatencyMs", "totalLatencyMs"]
  read fields := do
    let region ← defaulted ["region", "selectedRegion"] "" string fields
    let sender ← defaulted ["sender", "selectedSender"] "" string fields
    let routingLatencyMs ← defaulted ["routingLatencyMs", "routing_latency_ms"] 0 u32 fields
    let senderLatencyMs ← defaulted ["senderLatencyMs", "sender_latency_ms"] 0 u32 fields
    let totalLatencyMs ← defaulted ["totalLatencyMs", "total_latency_ms"] 0 u32 fields
    pure
      { region := region
        sender := sender
        routingLatencyMs := routingLatencyMs
        senderLatencyMs := senderLatencyMs
        totalLatencyMs := totalLatencyMs }

def text (v : Value) : String := String.ofList (JsonText.render v)

def wsErrorInfo : Record TransactionError where
  layout := needed ["code", "message", "details"]
  read fields := do
    let code ← required "code" string fields
    let message ← required "message" string fields
    let details ← orNull "details" some fields
    pure ⟨code, message, details.map text⟩

/-! ## The messages -/

def connected : Record WsConnected where
  layout := needed ["session_id", "region", "server_time", "features", "rate_limit"]
  read fields := do
    let sessionId ← required "session_id" string fields
    let region ← orNull "region" string fields
    let serverTime ← required "server_time" u64 fields
    let features ← required "features" (array string) fields
    let rateLimit ← required "rate_limit" rateLimitInfo.value fields
    pure
      { sessionId := sessionId
        region := region
        serverTime := serverTime
        features := features
        rateLimit := rateLimit }

def error : Record ServerMessage where
  layout := needed ["code", "message"]
  read fields := do
    let code ← required "code" string fields
    let message ← required "message" string fields
    pure (.error code message)

def transactionAccepted : Record ServerMessage where
  layout := needed ["request_id", "transaction_id"]
  read fields := do
    let requestId ← required "request_id" string fields
    let transactionId ← required "transaction_id" string fields
    pure (.transactionAccepted requestId transactionId)

def transactionUpdate : Record WsTransactionUpdate where
  layout :=
    needed ["request_id", "transaction_id", "status"] ++
    spared ["signature", "slot", "slot_sent", "slot_accepted"] ++
    needed ["timestamp"] ++
    spared ["routing"]
  read fields := do
    let requestId ← required "request_id" string fields
    let transactionId ← required "transaction_id" string fields
    let status ← required "status" string fields
    let signature ← orNull "signature" string fields
    let slot ← orNull "slot" u64 fields
    let slotSent ← orNull "slot_sent" u64 fields
    let slotAccepted ← orNull "slot_accepted" u64 fields
    let timestamp ← required "timestamp" u64 fields
    let routing ← orNull "routing" wsRoutingInfo.value fields
    pure
      { requestId := requestId
        transactionId := transactionId
        status := status
        signature := signature
        slot := slot
        slotSent := slotSent
        slotAccepted := slotAccepted
        timestamp := timestamp
        routing := routing }

def transactionConfirmed : Record WsTransactionConfirmed where
  layout :=
    needed ["request_id", "transaction_id"] ++
    spared ["signature", "slot", "slot_sent", "slot_accepted", "routing"]
  read fields := do
    let requestId ← required "request_id" string fields
    let transactionId ← required "transaction_id" string fields
    let signature ← orNull "signature" string fields
    let slot ← orNull "slot" u64 fields
    let slotSent ← orNull "slot_sent" u64 fields
    let slotAccepted ← orNull "slot_accepted" u64 fields
    let routing ← orNull "routing" wsRoutingInfo.value fields
    pure
      { requestId := requestId
        transactionId := transactionId
        signature := signature
        slot := slot
        slotSent := slotSent
        slotAccepted := slotAccepted
        routing := routing }

def transactionFailed : Record ServerMessage where
  layout := needed ["request_id", "transaction_id", "error"]
  read fields := do
    let requestId ← required "request_id" string fields
    let transactionId ← required "transaction_id" string fields
    let error ← required "error" wsErrorInfo.value fields
    pure (.transactionFailed requestId transactionId error)

def heartbeat : Record ServerMessage where
  layout := []
  read _ := pure .heartbeat

/-- The record of a variant, by its tag. -/
def serverMessage (tag : String) : Option (Record ServerMessage) :=
  match tag with
  | "connected" => some (connected.map .connected)
  | "error" => some error
  | "leader_hint" => some ((wsLeaderHint f64).map .leaderHint)
  | "tip_instruction" => some ((tipInstruction f64).map .tipInstruction)
  | "priority_fee" => some ((priorityFee f64).map .priorityFee)
  | "latest_blockhash" => some (latestBlockhash.map .latestBlockhash)
  | "latest_slot" => some (latestSlot.map .latestSlot)
  | "transaction_accepted" => some transactionAccepted
  | "transaction_update" => some (transactionUpdate.map .transactionUpdate)
  | "transaction_confirmed" => some (transactionConfirmed.map .transactionConfirmed)
  | "transaction_failed" => some transactionFailed
  | "heartbeat" => some heartbeat
  | _ => none

/-- A text frame; what cannot be read is logged and passed over. -/
def readFrame (json : JsonText.Reader) (frame : List UInt8) : Option ServerMessage :=
  (json frame).bind (tagged (serverMessage f64))

end Readers

/-! ## What a server writes -/

/-- How a server writes missing values, numbers with a fraction and the
details of an error. -/
structure Writer where
  nulls : Bool
  f64 : Float → Value
  json : String → Value

namespace Writer

variable (w : Writer)

def rateLimitInfo (info : RateLimitInfo) : Value :=
  .obj [("rps", num32 info.rps), ("burst", num32 info.burst)]

def wsLeaderHintMetadata (m : WsLeaderHintMetadata) : Value :=
  .obj [("tpuRttMs", num32 m.tpuRttMs), ("regionScore", w.f64 m.regionScore)]

def alternativeSender (a : AlternativeSender) : Value :=
  .obj [("sender", .str a.sender), ("tipAmountSol", w.f64 a.tipAmountSol),
    ("confidence", num32 a.confidence)]

def routingInfo (r : RoutingInfo) : Value :=
  .obj [("region", .str r.region), ("sender", .str r.sender),
    ("routingLatencyMs", num32 r.routingLatencyMs),
    ("senderLatencyMs", num32 r.senderLatencyMs), ("totalLatencyMs", num32 r.totalLatencyMs)]

def transactionError (e : TransactionError) : Value :=
  .obj ([("code", .str e.code), ("message", .str e.message)] ++
    writeOption w.nulls "details" (e.details.map w.json))

def message : ServerMessage → Fields
  | .connected c =>
      [("type", .str "connected"), ("session_id", .str c.sessionId)] ++
        writeOption w.nulls "region" (c.region.map .str) ++
        [("server_time", num64 c.serverTime), ("features", strings c.features),
          ("rate_limit", rateLimitInfo c.rateLimit)]
  | .error code text => [("type", .str "error"), ("code", .str code), ("message", .str text)]
  | .leaderHint h =>
      [("type", .str "leader_hint"), ("timestamp", num64 h.timestamp), ("slot", num64 h.slot),
          ("expiresAtSlot", num64 h.expiresAtSlot), ("preferredRegion", .str h.preferredRegion),
          ("backupRegions", strings h.backupRegions), ("confidence", num32 h.confidence)] ++
        writeOption w.nulls "leaderPubkey" (h.leaderPubkey.map .str) ++
        writeOption w.nulls "metadata" (h.metadata.map w.wsLeaderHintMetadata)
  | .tipInstruction t =>
      [("type", .str "tip_instruction"), ("timestamp", num64 t.timestamp),
        ("sender", .str t.sender), ("senderName", .str t.senderName),
        ("tipWalletAddress", .str t.tipWalletAddress), ("tipAmountSol", w.f64 t.tipAmountSol),
        ("tipTier", .str t.tipTier), ("expectedLatencyMs", num32 t.expectedLatencyMs),
        ("confidence", num32 t.confidence), ("validUntilSlot", num64 t.validUntilSlot),
        ("alternativeSenders", .arr (t.alternativeSenders.map w.alternativeSender))]
  | .priorityFee f =>
      [("type", .str "priority_fee"), ("timestamp", num64 f.timestamp), ("speed", .str f.speed),
        ("computeUnitPrice", num64 f.computeUnitPrice),
        ("computeUnitLimit", num32 f.computeUnitLimit),
        ("estimatedCostSol", w.f64 f.estimatedCostSol),
        ("landingProbability", num32 f.landingProbability),
        ("networkCongestion", .str f.networkCongestion),
        ("recentSuccessRate", w.f64 f.recentSuccessRate)]
  | .latestBlockhash b =>
      [("type", .str "latest_blockhash"), ("blockhash", .str b.blockhash),
        ("lastValidBlockHeight", num64 b.lastValidBlockHeight), ("timestamp", num64 b.timestamp)]
  | .latestSlot s =>
      [("type", .str "latest_slot"), ("slot", num64 s.slot), ("timestamp", num64 s.timestamp)]
  | .transactionAccepted requestId transactionId =>
      [("type", .str "transaction_accepted"), ("request_id", .str requestId),
        ("transaction_id", .str transactionId)]
  | .transactionUpdate u =>
      [("type", .str "transaction_update"), ("request_id", .str u.requestId),
          ("transaction_id", .str u.transactionId), ("status", .str u.status)] ++
        writeOption w.nulls "signature" (u.signature.map .str) ++
        writeOption w.nulls "slot" (u.slot.map num64) ++
        writeOption w.nulls "slot_sent" (u.slotSent.map num64) ++
        writeOption w.nulls "slot_accepted" (u.slotAccepted.map num64) ++
        [("timestamp", num64 u.timestamp)] ++
        writeOption w.nulls "routing" (u.routing.map routingInfo)
  | .transactionConfirmed c =>
      [("type", .str "transaction_confirmed"), ("request_id", .str c.requestId),
          ("transaction_id", .str c.transactionId)] ++
        writeOption w.nulls "signature" (c.signature.map .str) ++
        writeOption w.nulls "slot" (c.slot.map num64) ++
        writeOption w.nulls "slot_sent" (c.slotSent.map num64) ++
        writeOption w.nulls "slot_accepted" (c.slotAccepted.map num64) ++
        writeOption w.nulls "routing" (c.routing.map routingInfo)
  | .transactionFailed requestId transactionId e =>
      [("type", .str "transaction_failed"), ("request_id", .str requestId),
        ("transaction_id", .str transactionId), ("error", w.transactionError e)]
  | .heartbeat => [("type", .str "heartbeat")]

/-- The numbers with a fraction. -/
def floats : ServerMessage → List Float
  | .leaderHint h => h.metadata.toList.map fun m => m.regionScore
  | .tipInstruction t => t.tipAmountSol :: t.alternativeSenders.map fun a => a.tipAmountSol
  | .priorityFee f => [f.estimatedCostSol, f.recentSuccessRate]
  | _ => []

def details : ServerMessage → Option String
  | .transactionFailed _ _ e => e.details
  | _ => none

/-- What is written in place of a number or of details reads as them. -/
structure Fits (f64 : Value → Option Float) (m : ServerMessage) : Prop where
  floats : ∀ x ∈ floats m, f64 (w.f64 x) = some x
  details : ∀ d ∈ details m, w.json d ≠ .null ∧ text (w.json d) = d

/-- What the field `type` of a message has. -/
def tag : ServerMessage → String
  | .connected _ => "connected"
  | .error _ _ => "error"
  | .leaderHint _ => "leader_hint"
  | .tipInstruction _ => "tip_instruction"
  | .priorityFee _ => "priority_fee"
  | .latestBlockhash _ => "latest_blockhash"
  | .latestSlot _ => "latest_slot"
  | .transactionAccepted _ _ => "transaction_accepted"
  | .transactionUpdate _ => "transaction_update"
  | .transactionConfirmed _ => "transaction_confirmed"
  | .transactionFailed _ _ _ => "transaction_failed"
  | .heartbeat => "heartbeat"

/-- The names that the reader of a message looks for. -/
def known : ServerMessage → List String
  | .connected _ => ["type", "session_id", "region", "server_time", "features", "rate_limit"]
  | .error _ _ => ["type", "code", "message"]
  | .leaderHint _ =>
      ["type", "timestamp", "slot", "expiresAtSlot", "preferredRegion", "backupRegions",
        "confidence", "leaderPubkey", "metadata"]
  | .tipInstruction _ =>
      ["type", "timestamp", "sender", "senderName", "tipWalletAddress", "tipAmountSol", "tipTier",
        "expectedLatencyMs", "confidence", "validUntilSlot", "alternativeSenders"]
  | .priorityFee _ =>
      ["type", "timestamp", "speed", "computeUnitPrice", "computeUnitLimit", "estimatedCostSol",
        "landingProbability", "networkCongestion", "recentSuccessRate"]
  | .latestBlockhash _ => ["type", "blockhash", "lastValidBlockHeight", "timestamp"]
  | .latestSlot _ => ["type", "slot", "timestamp"]
  | .transactionAccepted _ _ => ["type", "request_id", "transaction_id"]
  | .transactionUpdate _ =>
      ["type", "request_id", "transaction_id", "status", "signature", "slot", "slot_sent",
        "slot_accepted", "timestamp", "routing"]
  | .transactionConfirmed _ =>
      ["type", "request_id", "transaction_id", "signature", "slot", "slot_sent", "slot_accepted",
        "routing"]
  | .transactionFailed _ _ _ => ["type", "request_id", "transaction_id", "error"]
  | .heartbeat => ["type"]

/-! ## Reading back -/

section ReadBack

variable {w : Writer} {f64 : Value → Option Float}

theorem read_rateLimitInfo (info : RateLimitInfo) :
    ServerText.rateLimitInfo.value (rateLimitInfo info) = some info := by
  simp [Record.value, rateLimitInfo, ServerText.rateLimitInfo, required, field]

theorem read_wsLeaderHintMetadata {m : WsLeaderHintMetadata}
    (h : f64 (w.f64 m.regionScore) = some m.regionScore) :
    (ServerText.wsLeaderHintMetadata f64).value (w.wsLeaderHintMetadata m) = some m := by
  simp [Record.value, wsLeaderHintMetadata, ServerText.wsLeaderHintMetadata, required, field, h]

theorem read_alternativeSender {a : AlternativeSender}
    (h : f64 (w.f64 a.tipAmountSol) = some a.tipAmountSol) :
    (ServerText.alternativeSender f64).value (w.alternativeSender a) = some a := by
  simp [Record.value, alternativeSender, ServerText.alternativeSender, required, field, h]

theorem read_routingInfo (r : RoutingInfo) :
    wsRoutingInfo.value (routingInfo r) = some r := by
  simp [Record.value, routingInfo, wsRoutingInfo, defaulted, field]

theorem read_transactionError {e : TransactionError}
    (h : ∀ d ∈ e.details, w.json d ≠ .null ∧ text (w.json d) = d) :
    wsErrorInfo.value (w.transactionError e) = some e := by
  have hdetails : (orNull "details" some
      ([("code", .str e.code), ("message", .str e.message)] ++
        writeOption w.nulls "details" (e.details.map w.json))) = some (e.details.map w.json) := by
    have hpick : pick (some none) (nullable some) (written w.nulls (e.details.map w.json))
        = some (e.details.map w.json) := by
      have hnonnull : ∀ v ∈ e.details.map w.json, id v ≠ .null ∧ some (id v) = some v := by
        intro v hv
        obtain ⟨d, hd, rfl⟩ := Option.map_eq_some_iff.mp hv
        exact ⟨(h d hd).1, rfl⟩
      have hwritten := pick_written w.nulls hnonnull
      rwa [Option.map_id] at hwritten
    simpa [orNull, field] using hpick
  have htext : (e.details.map w.json).map text = e.details := by
    cases he : e.details with
    | none => rfl
    | some d => simp [(h d he).2]
  show wsErrorInfo.read _ = some e
  simp only [wsErrorInfo]
  rw [hdetails]
  simp [required, field, htext]

theorem values_type (m : ServerMessage) : values ["type"] (w.message m) = [.str (tag m)] := by
  cases m <;> simp [message, tag]

theorem type_mem_known (m : ServerMessage) : "type" ∈ known m := by
  cases m <;> exact List.mem_cons_self

/-- The tag is found wherever it stands. -/
theorem tagged_among {m : ServerMessage} {fields : Fields} (h : Among (known m) (w.message m) fields)
    {r : Record ServerMessage} (hvariant : serverMessage f64 (tag m) = some r) :
    tagged (serverMessage f64) (.obj fields) = r.read fields := by
  have hnames : ["type"] ⊆ known m := List.cons_subset.mpr ⟨type_mem_known m, List.nil_subset _⟩
  have htag : required "type" string fields = some (tag m) := by
    unfold required
    rw [field_among h hnames]
    exact required_of_values (values_type m)
  rw [tagged_obj htag, hvariant, Option.bind_some]

/-- A message is read whatever the order of its fields, and whatever
other fields there are. -/
theorem serverMessage_among {m : ServerMessage} {fields : Fields} (hfits : w.Fits f64 m)
    (h : Among (known m) (w.message m) fields) :
    tagged (serverMessage f64) (.obj fields) = some m := by
  obtain ⟨hfloats, hdetails⟩ := hfits
  cases m with
  | connected c =>
    rw [tagged_among h rfl]
    simp only [known] at h
    simp (disch := decide) only [Record.map, connected, required, orNull, field_among h]
    simp [message, field, read_rateLimitInfo]
  | error code text =>
    rw [tagged_among h rfl]
    simp only [known] at h
    simp (disch := decide) only [ServerText.error, required, field_among h]
    simp [message, field]
  | leaderHint hint =>
    rw [tagged_among h rfl]
    simp only [known] at h
    have hread : ∀ m ∈ hint.metadata, (ServerText.wsLeaderHintMetadata f64).value
        (w.wsLeaderHintMetadata m) = some m := fun m hm =>
      read_wsLeaderHintMetadata (hfloats _ (List.mem_map_of_mem (Option.mem_toList.mpr hm)))
    have hmetadata := pick_written_record w.nulls hread
    simp (disch := decide) only [Record.map, wsLeaderHint, required, defaulted, orNull,
      field_among h]
    simp [message, field, hmetadata]
  | tipInstruction tip =>
    rw [tagged_among h rfl]
    simp only [known] at h
    have hamount := hfloats tip.tipAmountSol List.mem_cons_self
    have hread : ∀ a ∈ tip.alternativeSenders, (ServerText.alternativeSender f64).value
        (w.alternativeSender a) = some a := fun a ha =>
      read_alternativeSender (hfloats _ (List.mem_cons_of_mem _ (List.mem_map_of_mem ha)))
    have hsenders := array_map hread
    simp (disch := decide) only [Record.map, tipInstruction, required, defaulted, field_among h]
    simp [message, field, hamount, hsenders]
  | priorityFee fee =>
    rw [tagged_among h rfl]
    simp only [known] at h
    have hcost := hfloats fee.estimatedCostSol List.mem_cons_self
    have hrate := hfloats fee.recentSuccessRate (List.mem_cons_of_mem _ List.mem_cons_self)
    simp (disch := decide) only [Record.map, priorityFee, required, field_among h]
    simp [message, field, hcost, hrate]
  | latestBlockhash b =>
    rw [tagged_among h rfl]
    simp only [known] at h
    simp (disch := decide) only [Record.map, latestBlockhash, required, field_among h]
    simp [message, field]
  | latestSlot s =>
    rw [tagged_among h rfl]
    simp only [known] at h
    simp (disch := decide) only [Record.map, latestSlot, required, field_among h]
    simp [message, field]
  | transactionAccepted requestId transactionId =>
    rw [tagged_among h rfl]
    simp only [known] at h
    simp (disch := decide) only [transactionAccepted, required, field_among h]
    simp [message, field]
  | transactionUpdate u =>
    rw [tagged_among h rfl]
    simp only [known] at h
    have hread : ∀ r ∈ u.routing, wsRoutingInfo.value (routingInfo r) = some r :=
      fun r _ => read_routingInfo r
    have hrouting := pick_written_record w.nulls hread
    simp (disch := decide) only [Record.map, transactionUpdate, required, orNull, field_among h]
    simp [message, field, hrouting]
  | transactionConfirmed c =>
    rw [tagged_among h rfl]
    simp only [known] at h
    have hread : ∀ r ∈ c.routing, wsRoutingInfo.value (routingInfo r) = some r :=
      fun r _ => read_routingInfo r
    have hrouting := pick_written_record w.nulls hread
    simp (disch := decide) only [Record.map, transactionConfirmed, required, orNull, field_among h]
    simp [message, field, hrouting]
  | transactionFailed requestId transactionId e =>
    rw [tagged_among h rfl]
    simp only [known] at h
    simp (disch := decide) only [transactionFailed, required, field_among h]
    simp [message, field, read_transactionError hdetails]
  | heartbeat => exact tagged_among h rfl

/-- A frame that the JSON library takes for the fields of a message. -/
theorem readFrame_written {json : JsonText.Reader} {frame : List UInt8} {m : ServerMessage}
    {fields : Fields} (hframe : json frame = some (.obj fields)) (hfits : w.Fits f64 m)
    (h : Among (known m) (w.message m) fields) : readFrame f64 json frame = some m := by
  unfold readFrame
  rw [hframe]
  exact serverMessage_among hfits h

end ReadBack

/-- Missing values as `null`; nothing else to choose for a message without
fractions and details. -/
def plain : Writer := ⟨true, fun _ => .null, fun _ => .null⟩

def landed : WsTransactionConfirmed where
  requestId := "r-1"
  transactionId := "t-1"
  signature := some "5sig"
  slot := some 7
  slotSent := some 5
  slotAccepted := none
  routing := some ⟨"eu-west", "0slot", 1, 20, 21⟩

/-- The fields in the opposite order, behind one of the server's own. -/
def landedFields : Fields :=
  ("traceId", .str "f00") :: (plain.message (.transactionConfirmed landed)).reverse

theorem landed_read :
    readFrame (fun _ => none) JsonText.decode (JsonText.encode (.obj landedFields)) =
      some (.transactionConfirmed landed) := by
  refine readFrame_written (w := plain) (JsonText.decode_encode _) ⟨nofun, nofun⟩
    ⟨[("traceId", .str "f00")], ?_, ?_⟩
  · exact ((List.reverse_perm _).cons _).trans (List.perm_append_singleton _ _).symm
  · intro f hf
    rw [List.mem_singleton.mp hf]
    decide

end Writer

/-! ## The items of a poll -/

section Items

variable (f64 : Value → Option Float)

/-- The last one counts of fields with the same name. -/
def map {α : Type} (read : Value → Option α) (fields : Fields) :
    Option (AList fun _ : String => α) := do
  let entries ← fields.mapM fun f => (read f.2).map fun a => (f.1, a)
  pure (entries.foldl (fun m e => m.insert e.1 e.2) ∅)

def leaderHintMetadata : Record LeaderHintMetadata where
  layout := needed ["tpuRttMs", "regionScore"] ++ spared ["leaderTpuAddress", "regionRttMs"]
  read fields := do
    let tpuRttMs ← required "tpuRttMs" u32 fields
    let regionScore ← required "regionScore" f64 fields
    let leaderTpuAddress ← orNull "leaderTpuAddress" string fields
    let regionRttMs ← orNull "regionRttMs" (object (map u32)) fields
    pure ⟨tpuRttMs, regionScore, leaderTpuAddress, regionRttMs⟩

/-- The backup regions, the leader and the metadata are not optional
here. -/
def leaderHint : Record LeaderHint where
  layout :=
    needed ["timestamp", "slot", "expiresAtSlot", "preferredRegion", "backupRegions", "confidence",
      "leaderPubkey", "metadata"]
  read fields := do
    let timestamp ← required "timestamp" u64 fields
    let slot ← required "slot" u64 fields
    let expiresAtSlot ← required "expiresAtSlot" u64 fields
    let preferredRegion ← required "preferredRegion" string fields
    let backupRegions ← required "backupRegions" (array string) fields
    let confidence ← required "confidence" u32 fields
    let leaderPubkey ← required "leaderPubkey" string fields
    let metadata ← required "metadata" (leaderHintMetadata f64).value fields
    pure
      { timestamp := timestamp
        slot := slot
        expiresAtSlot := expiresAtSlot
        preferredRegion := preferredRegion
        backupRegions := backupRegions
        confidence := confidence
        leaderPubkey := leaderPubkey
        metadata := metadata }

/-- The `data` of a poll of a stream. -/
def pollItem : StreamKind → Value → Option StreamItem
  | .leaderHints => ((leaderHint f64).map .leaderHint).value
  | .tipInstructions => ((tipInstruction f64).map .tipInstruction).value
  | .priorityFees => ((priorityFee f64).map .priorityFee).value
  | .latestBlockhash => (latestBlockhash.map .latestBlockhash).value
  | .latestSlot => (latestSlot.map .latestSlot).value

end Items

/-- The `type` of a stream's WebSocket messages. -/
def messageType : StreamKind → String
  | .leaderHints => "leader_hint"
  | .tipInstructions => "tip_instruction"
  | .priorityFees => "priority_fee"
  | .latestBlockhash => "latest_blockhash"
  | .latestSlot => "latest_slot"

/-- What the WebSocket leaves of an item: it has no field for the leader's
address and for the round trips by region. -/
def overWebSocket : StreamItem → StreamItem
  | .leaderHint hint =>
      .leaderHint
        { hint with
          metadata := { hint.metadata with leaderTpuAddress := none, regionRttMs := none } }
  | item => item

section Transports

variable {f64 : Value → Option Float} {fields : Fields}

theorem required_type (htype : ∀ f ∈ fields, f.1 ≠ "type") (tag : String) :
    required "type" string (("type", .str tag) :: fields) = some tag := by
  have hnil : values ["type"] fields = [] :=
    values_eq_nil fun f hf hmem => htype f hf (List.mem_singleton.mp hmem)
  have hvalues : values ["type"] (("type", .str tag) :: fields) = [.str tag] := by
    rw [values_cons, if_pos (List.mem_singleton_self _), hnil]
  rw [required_of_values hvalues, string_str]

/-- By their places, the WebSocket takes two fields and the poll up to four. -/
theorem wsLeaderHintMetadata_of_poll {v : Value} {m : LeaderHintMetadata}
    (hobject : ∃ metadata, v = .obj metadata) (h : (leaderHintMetadata f64).value v = some m) :
    (wsLeaderHintMetadata f64).value v = some ⟨m.tpuRttMs, m.regionScore⟩ := by
  obtain ⟨metadata, rfl⟩ := hobject
  simp only [Record.value, leaderHintMetadata, bind, pure, Option.bind_eq_some_iff] at h
  obtain ⟨tpuRttMs, htpu, regionScore, hscore, address, -, rtts, -, heq⟩ := h
  obtain rfl := Option.some.inj heq
  simp only [Record.value, wsLeaderHintMetadata]
  rw [htpu, hscore]
  rfl

example :
    ((leaderHintMetadata fun _ => some 1.0).value
        (.arr [.num 12, .num 1, .null, .null])).isSome = true
      ∧ (wsLeaderHintMetadata fun _ => some 1.0).value
        (.arr [.num 12, .num 1, .null, .null]) = none :=
  ⟨rfl, rfl⟩

theorem wsLeaderHint_of_poll {hint : LeaderHint}
    (hobject : ∀ v ∈ values ["metadata"] fields, ∃ metadata, v = .obj metadata)
    (h : (leaderHint f64).read fields = some hint) :
    ∃ ws, (wsLeaderHint f64).read fields = some ws ∧
      StreamItem.leaderHint (convertLeaderHint ws) = overWebSocket (.leaderHint hint) := by
  simp only [leaderHint, bind, pure, Option.bind_eq_some_iff] at h
  obtain ⟨timestamp, htimestamp, slot, hslot, expires, hexpires, region, hregion, backups,
    hbackups, confidence, hconfidence, leader, hleader, metadata, hmetadata, heq⟩ := h
  obtain rfl := Option.some.inj heq
  have hbackups' := defaulted_of_required [] hbackups
  have hleader' := orNull_of_required hleader rfl fun _ _ => id
  have hmetadata' := orNull_of_required hmetadata rfl fun v hv =>
    wsLeaderHintMetadata_of_poll (hobject v hv)
  refine ⟨⟨timestamp, slot, expires, region, backups, confidence, some leader,
    some ⟨metadata.tpuRttMs, metadata.regionScore⟩⟩, ?_, rfl⟩
  simp only [wsLeaderHint]
  rw [htimestamp, hslot, hexpires, hregion, hbackups', hconfidence, hleader', hmetadata']
  rfl

/-- A record that both transports read alike. -/
theorem item_of_poll {α : Type} {r : Record α} {poll : α → StreamItem}
    {message : α → ServerMessage} {kind : StreamKind} {item : StreamItem} {tag : String × Value}
    (hitem : (r.map poll).value (.obj fields) = some item)
    (hskip : r.read (tag :: fields) = r.read fields)
    (hmessage : ∀ a, (message a).itemFor kind = some (overWebSocket (poll a))) :
    ∃ msg, (r.map message).read (tag :: fields) = some msg ∧
      msg.itemFor kind = some (overWebSocket item) := by
  obtain ⟨a, ha, rfl⟩ := Option.map_eq_some_iff.mp hitem
  refine ⟨message a, ?_, hmessage a⟩
  show (r.read _).map message = _
  rw [hskip, ha]
  rfl

/-- What the HTTP transport makes an item of, the WebSocket receiver makes
the same item of, short of the leader's address and the round trips by
region. -/
theorem webSocket_of_poll {json : JsonText.Reader} {frame : List UInt8} {kind : StreamKind}
    {item : StreamItem} (hitem : pollItem f64 kind (.obj fields) = some item)
    (hmetadata : ∀ v ∈ values ["metadata"] fields, ∃ metadata, v = .obj metadata)
    (htype : ∀ f ∈ fields, f.1 ≠ "type")
    (hframe : json frame = some (.obj (("type", .str (messageType kind)) :: fields))) :
    ∃ msg, readFrame f64 json frame = some msg ∧
      msg.itemFor kind = some (overWebSocket item) := by
  have hread : readFrame f64 json frame = (serverMessage f64 (messageType kind)).bind fun r =>
      r.read (("type", .str (messageType kind)) :: fields) := by
    unfold readFrame
    rw [hframe, Option.bind_some, tagged_obj (required_type htype _)]
  rw [hread]
  cases kind with
  | leaderHints =>
    obtain ⟨hint, hhint, rfl⟩ := Option.map_eq_some_iff.mp hitem
    have hskip : (wsLeaderHint f64).read (("type", .str "leader_hint") :: fields) =
        (wsLeaderHint f64).read fields := by
      simp (disch := decide) only [wsLeaderHint, required, defaulted, orNull,
        field_cons_of_not_mem]
    obtain ⟨ws, hws, heq⟩ := wsLeaderHint_of_poll hmetadata hhint
    refine ⟨.leaderHint ws, ?_, congrArg some heq⟩
    show ((wsLeaderHint f64).read _).map _ = _
    rw [messageType, hskip, hws]
    rfl
  | tipInstructions =>
    refine item_of_poll hitem ?_ fun _ => rfl
    simp (disch := decide) only [tipInstruction, required, defaulted, messageType,
      field_cons_of_not_mem]
  | priorityFees =>
    refine item_of_poll hitem ?_ fun _ => rfl
    simp (disch := decide) only [priorityFee, required, messageType, field_cons_of_not_mem]
  | latestBlockhash =>
    refine item_of_poll hitem ?_ fun _ => rfl
    simp (disch := decide) only [latestBlockhash, required, messageType, field_cons_of_not_mem]
  | latestSlot =>
    refine item_of_poll hitem ?_ fun _ => rfl
    simp (disch := decide) only [latestSlot, required, messageType, field_cons_of_not_mem]

end Transports

/-- A hint with everything that a poll may have. -/
def fullHint : Fields :=
  [("timestamp", .num 1700), ("slot", .num 9), ("expiresAtSlot", .num 13),
    ("preferredRegion", .str "eu-west"), ("backupRegions", .arr [.str "us-east"]),
    ("confidence", .num 90), ("leaderPubkey", .str "Leader1"),
    ("metadata", .obj [("tpuRttMs", .num 12), ("regionScore", .num 1),
      ("leaderTpuAddress", .str "10.0.0.9:8000"), ("regionRttMs", .obj [("eu-west", .num 3)])])]

def fullHintItem (score : Float) : LeaderHint where
  timestamp := 1700
  slot := 9
  expiresAtSlot := 13
  preferredRegion := "eu-west"
  backupRegions := ["us-east"]
  confidence := 90
  leaderPubkey := "Leader1"
  metadata := ⟨12, score, some "10.0.0.9:8000", some (AList.insert "eu-west" 3 ∅)⟩

def fullHintFrame : List UInt8 :=
  JsonText.encode (.obj (("type", .str "leader_hint") :: fullHint))

theorem fullHint_overWebSocket :
    ∃ msg, readFrame (fun _ => some 1.0) JsonText.decode fullHintFrame = some msg ∧
      msg.itemFor .leaderHints = some (overWebSocket (.leaderHint (fullHintItem 1.0))) := by
  have hitem : pollItem (fun _ => some 1.0) .leaderHints (.obj fullHint) =
      some (.leaderHint (fullHintItem 1.0)) := rfl
  refine webSocket_of_poll hitem ?_ (by decide) (JsonText.decode_encode _)
  intro v hv
  obtain rfl := List.mem_singleton.mp hv
  exact ⟨_, rfl⟩

end ServerText

end Slipstream
