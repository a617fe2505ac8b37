import Slipstream.Accounts
import Slipstream.ServerText
import Slipstream.Verdict

/-!
# The text of a result

The result of a submission comes as JSON twice: in the answer to a
submission over HTTP, and when the status of a transaction is asked for.
The two readers differ. The first one takes any text for the status and
keeps no slots but the one the transaction landed in; the second one knows
the words of the status, also as the name of a field that is `null`, and
has a default for each field of the routing.

So what the status call takes as an object the submission takes as the
same result, short of the timing, if the status is a bare word and no part
of the routing is missing, and not at all otherwise
(`submitAnswer_of_status`). A service that writes whole results can answer
both calls alike (`result_read_back`).
-/

namespace Slipstream

open JsonText (Value)
open Records
open ServerText (Writer text wsErrorInfo)

namespace ResultText

/-! ## The answer to a submission -/

def routingNames : List String :=
  ["region", "sender", "routingLatencyMs", "senderLatencyMs", "totalLatencyMs"]

def httpRoutingInfo : Record RoutingInfo where
  layout := needed ["region", "sender", "routingLatencyMs", "senderLatencyMs", "totalLatencyMs"]
  read fields := do
    let region ← required "region" string fields
    let sender ← required "sender" string fields
    let routingLatencyMs ← required "routingLatencyMs" u32 fields
    let senderLatencyMs ← required "senderLatencyMs" u32 fields
    let totalLatencyMs ← required "totalLatencyMs" u32 fields
    pure ⟨region, sender, routingLatencyMs, senderLatencyMs, totalLatencyMs⟩

/-- The records of an error are read alike on all transports. -/
def httpErrorInfo : Record TransactionError := wsErrorInfo

def httpSubmitResponse : Record HttpSubmitResponse where
  layout :=
    needed ["requestId", "transactionId", "signature", "status", "slot", "timestamp", "routing",
      "error"]
  read fields := do
    let requestId ← required "requestId" string fields
    let transactionId ← required "transactionId" string fields
    let signature ← orNull "signature" string fields
    let status ← required "status" string fields
    let slot ← orNull "slot" u64 fields
    let timestamp ← required "timestamp" u64 fields
    let routing ← orNull "routing" httpRoutingInfo.value fields
    let error ← orNull "error" httpErrorInfo.value fields
    pure
      { requestId := requestId
        transactionId := transactionId
        signature := signature
        status := status
        slot := slot
        timestamp := timestamp
        routing := routing
        error := error }

/-! ## The status of a transaction -/

def statusWord : TransactionStatus → String
  | .pending => "pending"
  | .processing => "processing"
  | .sent => "sent"
  | .confirmed => "confirmed"
  | .failed => "failed"
  | .duplicate => "duplicate"
  | .rateLimited => "rate_limited"
  | .insufficientTokens => "insufficient_tokens"

def statuses : List TransactionStatus :=
  [.pending, .processing, .sent, .confirmed, .failed, .duplicate, .rateLimited,
    .insufficientTokens]

def statusOfWord (word : String) : Option TransactionStatus :=
  statuses.find? fun status => statusWord status = word

/-- A variant without data is its name, or an object that has `null` under
it. -/
def transactionStatus : Value → Option TransactionStatus
  | .str word => statusOfWord word
  | .obj [(word, .null)] => statusOfWord word
  | _ => none

def routingInfo : Record RoutingInfo where
  layout := spared ["region", "sender", "routingLatencyMs", "senderLatencyMs", "totalLatencyMs"]
  read fields := do
    let region ← defaulted ["region"] "" string fields
    let sender ← defaulted ["sender"] "" string fields
    let routingLatencyMs ← defaulted ["routingLatencyMs"] 0 u32 fields
    let senderLatencyMs ← defaulted ["senderLatencyMs"] 0 u32 fields
    let totalLatencyMs ← defaulted ["totalLatencyMs"] 0 u32 fields
    pure ⟨region, sender, routingLatencyMs, senderLatencyMs, totalLatencyMs⟩

def transactionError : Record TransactionError := wsErrorInfo

def transactionResult : Record TransactionResult where
  layout :=
    needed ["requestId", "transactionId", "signature", "status", "slot", "slotSent", "slotAccepted",
      "slotLanded", "slotDelta"] ++
    spared ["commitmentLevel", "confirmations", "slotProcessed", "slotConfirmed",
      "slotFinalized"] ++
    needed ["timestamp", "routing", "error"]
  read fields := do
    let requestId ← required "requestId" string fields
    let transactionId ← required "transactionId" string fields
    let signature ← orNull "signature" string fields
    let status ← required "status" transactionStatus fields
    let slot ← orNull "slot" u64 fields
    let slotSent ← orNull "slotSent" u64 fields
    let slotAccepted ← orNull "slotAccepted" u64 fields
    let slotLanded ← orNull "slotLanded" u64 fields
    let slotDelta ← orNull "slotDelta" u64 fields
    let commitmentLevel ← orNull "commitmentLevel" string fields
    let confirmations ← orNull "confirmations" u64 fields
    let slotProcessed ← orNull "slotProcessed" u64 fields
    let slotConfirmed ← orNull "slotConfirmed" u64 fields
    let slotFinalized ← orNull "slotFinalized" u64 fields
    let timestamp ← required "timestamp" u64 fields
    let routing ← orNull "routing" routingInfo.value fields
    let error ← orNull "error" transactionError.value fields
    pure
      { requestId := requestId
        transactionId := transactionId
        signature := signature
        status := status
        slot := slot
        slotSent := slotSent
        slotAccepted := slotAccepted
        slotLanded := slotLanded
        slotDelta := slotDelta
        commitmentLevel := commitmentLevel
        confirmations := confirmations
        slotProcessed := slotProcessed
        slotConfirmed := slotConfirmed
        slotFinalized := slotFinalized
        timestamp := timestamp
        routing := routing
        error := error }

end ResultText

/-- `send` is how the network takes the request. -/
def SlipstreamClient.getTransactionStatus (cfg : Config)
    (send : RestRequest → Except ReqwestError (RestReply TransactionResult)) (signature : String) :
    Except SdkError TransactionResult :=
  RestReply.result "Failed to get transaction status: "
    (fun status =>
      if status = 404 then
        some (.internal ("Transaction not found for signature: " ++ signature))
      else none)
    (send (restRequest cfg (.getTransactionStatus signature)))

namespace ResultText

/-! ## From one reader to the other -/

/-- What the answer to a submission keeps of a result. -/
def submitted (r : TransactionResult) : TransactionResult where
  requestId := r.requestId
  transactionId := r.transactionId
  signature := r.signature
  status := r.status
  slot := r.slot
  timestamp := r.timestamp
  routing := r.routing
  error := r.error

def wholeRoutingValue : Value → Bool
  | .obj routing => routingNames.all fun name => !(values [name] routing).isEmpty
  | .arr items => decide (items.length = routingNames.length)
  | _ => true

/-- Wherever there is a routing, all its fields are there. -/
def wholeRouting (fields : Fields) : Bool := (values ["routing"] fields).all wholeRoutingValue

/-- The status is a text. -/
def bareStatus (fields : Fields) : Bool :=
  (values ["status"] fields).all fun v => (string v).isSome

theorem parseStatus_statusWord (status : TransactionStatus) :
    parseStatus (statusWord status) = status := by
  cases status <;> rfl

theorem parseStatus_of_statusOfWord {word : String} {status : TransactionStatus}
    (h : statusOfWord word = some status) : parseStatus word = status := by
  have heq := List.find?_some h
  rw [decide_eq_true_eq] at heq
  rw [← heq, parseStatus_statusWord]

/-- A bare word of a status is read as it by both. -/
theorem status_of_required {fields : Fields} {status : TransactionStatus}
    (h : required "status" transactionStatus fields = some status) :
    (required "status" string fields).map parseStatus
      = if bareStatus fields then some status else none := by
  obtain ⟨v, hvalues, hv⟩ := required_eq_some h
  unfold bareStatus
  rw [required_of_values hvalues, hvalues, List.all_cons, List.all_nil, Bool.and_true]
  cases v with
  | str word => exact congrArg some (parseStatus_of_statusOfWord hv)
  | _ => rfl

/-- A field with a default, for a reader that has none. -/
theorem required_of_defaulted {α : Type} {name : String} {default a : α}
    {read : Value → Option α} {fields : Fields}
    (h : defaulted [name] default read fields = some a) :
    required name read fields = if (values [name] fields).isEmpty then none else some a := by
  unfold defaulted field at h
  unfold required field
  cases hvalues : values [name] fields with
  | nil => rfl
  | cons v rest =>
    rw [hvalues] at h
    cases rest with
    | nil => exact h
    | cons w rest => cases h

theorem httpRoutingInfo_of_routingInfo {fields : Fields} {r : RoutingInfo}
    (h : routingInfo.read fields = some r) :
    httpRoutingInfo.read fields
      = if routingNames.all (fun name => !(values [name] fields).isEmpty)
        then some r else none := by
  simp only [routingInfo, bind, pure, Option.bind_eq_some_iff] at h
  obtain ⟨region, hregion, sender, hsender, routing, hrouting, sending, hsending, total, htotal,
    heq⟩ := h
  obtain rfl := Option.some.inj heq
  simp only [httpRoutingInfo]
  rw [required_of_defaulted hregion, required_of_defaulted hsender, required_of_defaulted hrouting,
    required_of_defaulted hsending, required_of_defaulted htotal]
  simp only [routingNames, List.all_cons, List.all_nil, Bool.and_true, Bool.and_eq_true,
    Bool.not_eq_true']
  split_ifs <;> simp_all

theorem httpRoutingInfo_value {v : Value} {r : RoutingInfo} (h : routingInfo.value v = some r) :
    httpRoutingInfo.value v = if wholeRoutingValue v then some r else none := by
  cases v with
  | obj routing => exact httpRoutingInfo_of_routingInfo h
  | arr items =>
    have h' : (inOrder (spared routingNames) items).bind routingInfo.read = some r := h
    show (inOrder (needed routingNames) items).bind httpRoutingInfo.read
      = if decide (items.length = routingNames.length) then some r else none
    rw [inOrder_spared] at h'
    rw [inOrder_needed]
    by_cases hlength : items.length = routingNames.length
    · rw [if_pos hlength.le, Option.bind_some] at h'
      rw [if_pos hlength, if_pos (decide_eq_true hlength), Option.bind_some,
        httpRoutingInfo_of_routingInfo h', if_pos]
      refine List.all_eq_true.mpr fun name hname => ?_
      have hmem : name ∈ (routingNames.zip items).map Prod.fst := by
        rwa [List.map_fst_zip hlength.ge]
      simp [values_ne_nil_of_mem hmem]
    · rw [if_neg hlength, if_neg (by simpa using hlength)]
      rfl
  | _ => cases h

/-- The routing of a result, for the reader of a submission. -/
theorem routing_of_orNull {fields : Fields} {o : Option RoutingInfo}
    (h : orNull "routing" routingInfo.value fields = some o) :
    orNull "routing" httpRoutingInfo.value fields
      = if wholeRouting fields then some o else none := by
  unfold orNull field at h ⊢
  unfold wholeRouting
  cases hvalues : values ["routing"] fields with
  | nil =>
    rw [hvalues] at h
    exact h
  | cons v rest =>
    rw [hvalues] at h
    cases rest with
    | cons w rest => cases h
    | nil =>
      rw [List.all_cons, List.all_nil, Bool.and_true]
      rw [pick_singleton] at h ⊢
      by_cases hnull : v = .null
      · subst hnull
        exact h
      · rw [nullable_of_ne hnull] at h ⊢
        obtain ⟨r, hr, rfl⟩ := Option.map_eq_some_iff.mp h
        rw [httpRoutingInfo_value hr]
        split <;> rfl

/-- What the submission can read of a result. -/
def submittable (fields : Fields) : Bool := bareStatus fields && wholeRouting fields

/-- What the status call takes as a result, the submission takes as the
same one, but it wants a bare status and its routing whole. -/
theorem submit_of_status {fields : Fields} {r : TransactionResult}
    (h : transactionResult.read fields = some r) :
    (httpSubmitResponse.read fields).map HttpSubmitResponse.toResult
      = if submittable fields then some (submitted r) else none := by
  simp only [transactionResult] at h
  obtain ⟨requestId, hrequestId, h⟩ := Option.bind_eq_some_iff.mp h
  obtain ⟨transactionId, htransactionId, h⟩ := Option.bind_eq_some_iff.mp h
  obtain ⟨signature, hsignature, h⟩ := Option.bind_eq_some_iff.mp h
  obtain ⟨status, hstatus, h⟩ := Option.bind_eq_some_iff.mp h
  obtain ⟨slot, hslot, h⟩ := Option.bind_eq_some_iff.mp h
  obtain ⟨_, -, h⟩ := Option.bind_eq_some_iff.mp h
  obtain ⟨_, -, h⟩ := Option.bind_eq_some_iff.mp h
  obtain ⟨_, -, h⟩ := Option.bind_eq_some_iff.mp h
  obtain ⟨_, -, h⟩ := Option.bind_eq_some_iff.mp h
  obtain ⟨_, -, h⟩ := Option.bind_eq_some_iff.mp h
  obtain ⟨_, -, h⟩ := Option.bind_eq_some_iff.mp h
  obtain ⟨_, -, h⟩ := Option.bind_eq_some_iff.mp h
  obtain ⟨_, -, h⟩ := Option.bind_eq_some_iff.mp h
  obtain ⟨_, -, h⟩ := Option.bind_eq_some_iff.mp h
  obtain ⟨timestamp, htimestamp, h⟩ := Option.bind_eq_some_iff.mp h
  obtain ⟨routing, hrouting, h⟩ := Option.bind_eq_some_iff.mp h
  obtain ⟨error, herror, h⟩ := Option.bind_eq_some_iff.mp h
  obtain rfl := Option.some.inj h
  have hword := status_of_required hstatus
  have herror' : orNull "error" httpErrorInfo.value fields = some error := herror
  simp only [httpSubmitResponse]
  rw [hrequestId, htransactionId, hsignature, hslot, htimestamp, routing_of_orNull hrouting,
    herror']
  unfold submittable
  cases hread : required "status" string fields with
  | none =>
    rw [hread] at hword
    cases hbare : bareStatus fields with
    | false => rfl
    | true =>
      rw [hbare] at hword
      cases hword
  | some word =>
    rw [hread] at hword
    cases hbare : bareStatus fields with
    | false =>
      rw [hbare] at hword
      cases hword
    | true =>
      rw [hbare] at hword
      obtain rfl := Option.some.inj hword
      cases wholeRouting fields <;> rfl

/-! ## What a service writes -/

def resultNames : List String :=
  ["requestId", "transactionId", "signature", "status", "slot", "slotSent", "slotAccepted",
    "slotLanded", "slotDelta", "commitmentLevel", "confirmations", "slotProcessed",
    "slotConfirmed", "slotFinalized", "timestamp", "routing", "error"]

def resultFields (w : Writer) (r : TransactionResult) : Fields :=
  [("requestId", .str r.requestId), ("transactionId", .str r.transactionId)] ++
    writeOption w.nulls "signature" (r.signature.map .str) ++
    [("status", .str (statusWord r.status))] ++
    writeOption w.nulls "slot" (r.slot.map num64) ++
    writeOption w.nulls "slotSent" (r.slotSent.map num64) ++
    writeOption w.nulls "slotAccepted" (r.slotAccepted.map num64) ++
    writeOption w.nulls "slotLanded" (r.slotLanded.map num64) ++
    writeOption w.nulls "slotDelta" (r.slotDelta.map num64) ++
    writeOption w.nulls "commitmentLevel" (r.commitmentLevel.map .str) ++
    writeOption w.nulls "confirmations" (r.confirmations.map num64) ++
    writeOption w.nulls "slotProcessed" (r.slotProcessed.map num64) ++
    writeOption w.nulls "slotConfirmed" (r.slotConfirmed.map num64) ++
    writeOption w.nulls "slotFinalized" (r.slotFinalized.map num64) ++
    [("timestamp", num64 r.timestamp)] ++
    writeOption w.nulls "routing" (r.routing.map Writer.routingInfo) ++
    writeOption w.nulls "error" (r.error.map w.transactionError)

section ReadBack

variable {w : Writer} {r : TransactionResult} {fields : Fields}
  (hfits : ∀ e ∈ r.error, ∀ d ∈ e.details, w.json d ≠ .null ∧ text (w.json d) = d)
  (h : Among resultNames (resultFields w r) fields)

theorem transactionStatus_statusWord (status : TransactionStatus) :
    transactionStatus (.str (statusWord status)) = some status := by
  cases status <;> rfl

theorem read_routingInfo (routing : RoutingInfo) :
    routingInfo.value (Writer.routingInfo routing) = some routing := by
  simp [Record.value, Writer.routingInfo, routingInfo, defaulted, field]

include h in
theorem bareStatus_among : bareStatus fields = true := by
  have hperm : (values ["status"] fields).Perm (values ["status"] (resultFields w r)) :=
    values_among h (by decide)
  unfold bareStatus
  rw [hperm.all_eq]
  simp [resultFields]

include h in
theorem wholeRouting_among : wholeRouting fields = true := by
  have hperm : (values ["routing"] fields).Perm (values ["routing"] (resultFields w r)) :=
    values_among h (by decide)
  have hwritten : values ["routing"] (resultFields w r)
      = written w.nulls (r.routing.map Writer.routingInfo) := by
    simp [resultFields]
  unfold wholeRouting
  rw [hperm.all_eq, hwritten]
  cases r.routing with
  | none => cases w.nulls <;> rfl
  | some routing => rfl

include hfits h in
theorem transactionResult_among : transactionResult.read fields = some r := by
  have hrouting := pick_written_record (o := r.routing) w.nulls fun x _ => read_routingInfo x
  have herror := pick_written_record (o := r.error) w.nulls fun e he =>
    Writer.read_transactionError (hfits e he)
  simp (disch := decide) only [transactionResult, required, orNull, field_among h]
  simp [resultFields, field, transactionStatus_statusWord, hrouting, transactionError, herror]

end ReadBack

/-! ## Both calls -/

/-- What the HTTP transport makes of the answer to a submission. -/
def submitAnswer (json : JsonText.Reader) (statusCode : UInt16) (body : List UInt8)
    (invalid : String) : Except SdkError TransactionResult :=
  Verdict.httpSubmit statusCode (Utf8.fromUtf8Lossy body)
    (match (json body).bind httpSubmitResponse.value with
      | some response => .ok response
      | none => .error (.protocol invalid))

section Answers

variable {json : JsonText.Reader} {statusCode : UInt16} {body : List UInt8} {fields : Fields}
  (hbody : json body = some (.obj fields)) (hcode : Verdict.isSuccess statusCode = true)

include hbody hcode

theorem submitAnswer_of_fields (invalid : String) :
    submitAnswer json statusCode body invalid
      = ((httpSubmitResponse.read fields).map HttpSubmitResponse.toResult).elim
          (.error (.protocol invalid)) .ok := by
  have hread : (json body).bind httpSubmitResponse.value = httpSubmitResponse.read fields := by
    rw [hbody]
    rfl
  unfold submitAnswer
  rw [hread, Verdict.httpSubmit_success hcode]
  cases httpSubmitResponse.read fields <;> rfl

/-- What the status call reads out of an object, the submission reads out of
it as the same result, if its status is bare and its routing whole, and not
at all otherwise. -/
theorem submitAnswer_of_status {r : TransactionResult}
    (h : transactionResult.read fields = some r) (invalid : String) :
    submitAnswer json statusCode body invalid
      = if submittable fields then .ok (submitted r) else .error (.protocol invalid) := by
  rw [submitAnswer_of_fields hbody hcode, submit_of_status h]
  split <;> rfl

end Answers

/-- A routing without the sender: the submission cannot be read. -/
def senderless : Fields :=
  [("requestId", .str "r-1"), ("transactionId", .str "t-1"), ("status", .str "sent"),
    ("timestamp", .num 1700), ("routing", .obj [("region", .str "eu-west")])]

def senderlessResult : TransactionResult where
  requestId := "r-1"
  transactionId := "t-1"
  status := .sent
  timestamp := 1700
  routing := some ⟨"eu-west", "", 0, 0, 0⟩

theorem senderless_refused :
    submitAnswer JsonText.decode 200 (JsonText.encode (.obj senderless)) "missing field" =
      .error (.protocol "missing field") := by
  have hread : transactionResult.read senderless = some senderlessResult := rfl
  exact submitAnswer_of_status (JsonText.decode_encode _) (by decide) hread _

/-- A result that a service writes in any order, and with fields of its own,
is what the status call returns and, but for the timing, the submission. -/
theorem result_read_back {w : Writer} {json : JsonText.Reader} {r : TransactionResult}
    {fields : Fields} {body : List UInt8}
    (hfits : ∀ e ∈ r.error, ∀ d ∈ e.details, w.json d ≠ .null ∧ text (w.json d) = d)
    (h : Among resultNames (resultFields w r) fields) (hbody : json body = some (.obj fields))
    {cfg : Config} {signature invalid : String}
    {send : RestRequest → Except ReqwestError (RestReply TransactionResult)} {status : Nat}
    {statusCode : UInt16} (hstatus : 200 ≤ status ∧ status < 300)
    (hcode : Verdict.isSuccess statusCode = true)
    (hsend : send (SlipstreamClient.restRequest cfg (.getTransactionStatus signature))
      = .ok (RestAnswer.reply ⟨status, body⟩ json transactionResult.value invalid)) :
    SlipstreamClient.getTransactionStatus cfg send signature = .ok r
      ∧ submitAnswer json statusCode body invalid = .ok (submitted r) := by
  have hread := transactionResult_among hfits h
  constructor
  · unfold SlipstreamClient.getTransactionStatus
    rw [hsend]
    exact result_reply hstatus (if_neg (by omega)) hbody hread
  · rw [submitAnswer_of_fields hbody hcode, submit_of_status hread, submittable,
      bareStatus_among h, wholeRouting_among h]
    rfl

def landedAfterTwo : TransactionResult where
  requestId := "r-1"
  transactionId := "t-1"
  signature := some "5sig"
  status := .confirmed
  slot := some 7
  slotSent := some 5
  slotDelta := some 2
  timestamp := 1700
  routing := some ⟨"eu-west", "0slot", 1, 20, 21⟩

def landedAfterTwoBody : List UInt8 :=
  JsonText.encode (.obj (resultFields Writer.plain landedAfterTwo).reverse)

theorem landedAfterTwo_read :
    SlipstreamClient.getTransactionStatus localConfig
        (fun _ => .ok (RestAnswer.reply ⟨200, landedAfterTwoBody⟩ JsonText.decode
          transactionResult.value "")) "5sig" = .ok landedAfterTwo
      ∧ submitAnswer JsonText.decode 202 landedAfterTwoBody ""
        = .ok (submitted landedAfterTwo) := by
  have hamong : Among resultNames (resultFields Writer.plain landedAfterTwo)
      (resultFields Writer.plain landedAfterTwo).reverse := by
    refine ⟨[], ?_, nofun⟩
    rw [List.append_nil]
    exact List.reverse_perm _
  exact result_read_back (fun _ he => by cases he) hamong (JsonText.decode_encode _) (by decide)
    (by decide) rfl

end ResultText

end Slipstream
