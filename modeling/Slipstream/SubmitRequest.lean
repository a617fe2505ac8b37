import Slipstream.Transport

/-!
# What a submission puts on the wire

The request each transport builds from a transaction and its options: a
frame of bytes over QUIC, a protobuf message over gRPC, a JSON message
over WebSocket and a JSON body over HTTP. JSON and protobuf are kept as
the values that the serializers are handed, with the names and the
skipped fields of the source.

What of the options a server can read back from a request is
`Request.carried`. Three of the transports carry all of them, QUIC a
single one (`carried_submitRequest`); `requests_differ_iff` says what
that means for two submissions that differ in their options.
-/

namespace Slipstream

inductive Json where
  | bool (b : Bool)
  | num (n : Nat)
  | str (s : String)
  | obj (fields : List (String × Json))

namespace Json

/-- A field that is left out where the value is absent. -/
def skipNone (name : String) (value : Option String) : List (String × Json) :=
  match value with
  | some s => [(name, .str s)]
  | none => []

/-- A field that is left out where the value is `false`. -/
def skipFalse (name : String) (value : Bool) : List (String × Json) :=
  if value then [(name, .bool true)] else []

def get? (name : String) : Json → Option Json
  | .obj fields => fields.lookup name
  | _ => none

def bool? : Json → Option Bool
  | .bool b => some b
  | _ => none

def num? : Json → Option Nat
  | .num n => some n
  | _ => none

def str? : Json → Option String
  | .str s => some s
  | _ => none

theorem lookup_skipNone (name key : String) (value : Option String) :
    (skipNone name value).lookup key = if key = name then value.map .str else none := by
  cases value with
  | none => simp [skipNone]
  | some s =>
      by_cases h : key = name
      · simp [skipNone, h]
      · have hb : (key == name) = false := by simpa using h
        simp [skipNone, List.lookup_cons, hb, h]

theorem lookup_skipFalse (name key : String) (value : Bool) :
    (skipFalse name value).lookup key
      = if key = name ∧ value = true then some (.bool true) else none := by
  cases value with
  | false => simp [skipFalse]
  | true =>
      by_cases h : key = name
      · simp [skipFalse, h]
      · have hb : (key == name) = false := by simpa using h
        simp [skipFalse, List.lookup_cons, hb, h]

end Json

/-! ## The four requests -/

section Requests

variable (base64 : List UInt8 → String)

/-- The options of a WebSocket and of an HTTP submission. -/
def optionsJson (o : SubmitOptions) : Json :=
  .obj
    ([("broadcastMode", .bool o.broadcastMode)]
      ++ Json.skipNone "preferredSender" o.preferredSender
      ++ [("maxRetries", .num o.maxRetries.toNat), ("timeoutMs", .num o.timeoutMs.toNat)]
      ++ Json.skipFalse "tpuSubmission" o.tpuSubmission)

namespace QuicTransport

/-- `StreamType::TransactionSubmit` or `StreamType::TpuSubmit`. -/
def submitStreamType (o : SubmitOptions) : UInt8 :=
  if o.tpuSubmission then 0x0b else 0x01

def submitFrame (transaction : List UInt8) (o : SubmitOptions) : List UInt8 :=
  submitStreamType o :: transaction

end QuicTransport

/-- `ClientMessage::SubmitTransaction`. -/
def WebSocketTransport.submitMessage (requestId : String) (transaction : List UInt8)
    (o : SubmitOptions) : Json :=
  .obj
    ([("type", .str "submit_transaction"), ("request_id", .str requestId),
        ("transaction", .str (base64 transaction))]
      ++ Json.skipNone "dedup_id" o.dedupId
      ++ [("options", optionsJson o)])

structure TransactionOptions where
  broadcastMode : Bool
  preferredSender : String
  maxRetries : UInt32
  timeoutMs : UInt64
  tpuSubmission : Bool
deriving Repr, DecidableEq

structure TransactionRequest where
  requestId : String
  transaction : List UInt8
  dedupId : String
  options : Option TransactionOptions
deriving Repr, DecidableEq

def GrpcTransport.submitRequest (requestId : String) (transaction : List UInt8)
    (o : SubmitOptions) : TransactionRequest where
  requestId := requestId
  transaction := transaction
  dedupId := o.dedupId.getD ""
  options :=
    some
      { broadcastMode := o.broadcastMode
        preferredSender := o.preferredSender.getD ""
        maxRetries := o.maxRetries
        timeoutMs := o.timeoutMs
        tpuSubmission := o.tpuSubmission }

/-- A `POST`. -/
structure HttpRequest where
  url : String
  authorization : Option String
  body : Json

namespace HttpTransport

def authHeader (t : HttpTransport) : Option String :=
  t.config.map fun c => "Bearer " ++ c.apiKey

def submitRequest (t : HttpTransport) (requestId : String) (transaction : List UInt8)
    (o : SubmitOptions) : HttpRequest where
  url := t.baseUrl ++ "/v1/transactions/submit"
  authorization := t.authHeader
  body :=
    .obj
      ([("requestId", .str requestId), ("transaction", .str (base64 transaction))]
        ++ Json.skipNone "dedupId" o.dedupId
        ++ [("options", optionsJson o)])

end HttpTransport

inductive Request where
  | quic (frame : List UInt8)
  | grpc (request : TransactionRequest)
  | webSocket (message : Json)
  | http (request : HttpRequest)

/-- What `submit_transaction` sends, with the request id it generated. -/
def Transport.submitRequest (t : Transport) (requestId : String)
    (transaction : List UInt8) (o : SubmitOptions) : Request :=
  match t with
  | .quic _ => .quic (QuicTransport.submitFrame transaction o)
  | .grpc _ => .grpc (GrpcTransport.submitRequest requestId transaction o)
  | .webSocket _ =>
      .webSocket (WebSocketTransport.submitMessage base64 requestId transaction o)
  | .http t => .http (t.submitRequest base64 requestId transaction o)

end Requests

/-! ## What a server can read back -/

/-- The options of a submission as far as a request carries them. A
blank dedup id or sender is none. -/
structure Carried where
  dedupId : Option String := none
  preferredSender : Option String := none
  broadcastMode : Option Bool := none
  maxRetries : Option Nat := none
  tpuSubmission : Bool
deriving Repr, DecidableEq

def nonBlank (s : Option String) : Option String := s.filter fun s => decide (s ≠ "")

def SubmitOptions.carried (o : SubmitOptions) : Carried where
  dedupId := nonBlank o.dedupId
  preferredSender := nonBlank o.preferredSender
  broadcastMode := some o.broadcastMode
  maxRetries := some o.maxRetries.toNat
  tpuSubmission := o.tpuSubmission

/-- The options in a JSON request that names the dedup id `dedupName`. -/
def Json.carried (dedupName : String) (request : Json) : Carried :=
  let option? := fun name => (request.get? "options").bind fun o => o.get? name
  { dedupId := nonBlank ((request.get? dedupName).bind Json.str?)
    preferredSender := nonBlank ((option? "preferredSender").bind Json.str?)
    broadcastMode := (option? "broadcastMode").bind Json.bool?
    maxRetries := (option? "maxRetries").bind Json.num?
    tpuSubmission := ((option? "tpuSubmission").bind Json.bool?).getD false }

def Request.carried : Request → Carried
  | .quic frame => { tpuSubmission := decide (frame.head? = some 0x0b) }
  | .grpc request =>
      { dedupId := nonBlank (some request.dedupId)
        preferredSender := nonBlank (request.options.map fun o => o.preferredSender)
        broadcastMode := request.options.map fun o => o.broadcastMode
        maxRetries := request.options.map fun o => o.maxRetries.toNat
        tpuSubmission := (request.options.map fun o => o.tpuSubmission).getD false }
  | .webSocket message => message.carried "dedup_id"
  | .http request => request.body.carried "dedupId"

theorem nonBlank_getD (s : Option String) : nonBlank (some (s.getD "")) = nonBlank s := by
  cases s <;> simp [nonBlank]

theorem bind_str?_map_str (s : Option String) : (s.map Json.str).bind Json.str? = s := by
  cases s <;> rfl

theorem get?_optionsJson (o : SubmitOptions) :
    (optionsJson o).get? "preferredSender" = o.preferredSender.map .str
      ∧ (optionsJson o).get? "broadcastMode" = some (.bool o.broadcastMode)
      ∧ (optionsJson o).get? "maxRetries" = some (.num o.maxRetries.toNat)
      ∧ (optionsJson o).get? "tpuSubmission"
        = if o.tpuSubmission = true then some (.bool true) else none := by
  unfold optionsJson Json.get?
  simp [List.lookup_append, Json.lookup_skipNone, Json.lookup_skipFalse, List.lookup_cons]

/-- A JSON request carries the options, whatever its other fields. -/
theorem carried_json {dedupName : String} {request : Json} {o : SubmitOptions}
    (hdedup : request.get? dedupName = o.dedupId.map .str)
    (hoptions : request.get? "options" = some (optionsJson o)) :
    request.carried dedupName = o.carried := by
  obtain ⟨hsender, hbroadcast, hretries, htpu⟩ := get?_optionsJson o
  unfold Json.carried SubmitOptions.carried
  simp only [hdedup, hoptions, Option.bind_some, hsender, hbroadcast, hretries, htpu,
    bind_str?_map_str]
  cases o.tpuSubmission <;> rfl

/-- Three of the four requests carry all the options. -/
theorem carried_submitRequest (base64 : List UInt8 → String) (t : Transport)
    (requestId : String) (transaction : List UInt8) (o : SubmitOptions) :
    (t.submitRequest base64 requestId transaction o).carried
      = if t.protocol = .quic then { tpuSubmission := o.tpuSubmission } else o.carried := by
  cases t with
  | quic t =>
      have htpu : decide ((QuicTransport.submitFrame transaction o).head? = some 0x0b)
          = o.tpuSubmission := by
        show decide (some (QuicTransport.submitStreamType o) = some 0x0b) = o.tpuSubmission
        unfold QuicTransport.submitStreamType
        cases o.tpuSubmission <;> decide
      show Carried.mk none none none none _ = Carried.mk none none none none _
      rw [htpu]
  | grpc t =>
      show Carried.mk (nonBlank (some (o.dedupId.getD "")))
        (nonBlank (some (o.preferredSender.getD ""))) _ _ _ = o.carried
      rw [nonBlank_getD, nonBlank_getD]
      rfl
  | webSocket t =>
      refine carried_json ?_ ?_
      · simp [WebSocketTransport.submitMessage, Json.get?, List.lookup_append,
          Json.lookup_skipNone, List.lookup_cons]
      · simp [WebSocketTransport.submitMessage, Json.get?, List.lookup_append,
          Json.lookup_skipNone, List.lookup_cons]
  | http t =>
      refine carried_json ?_ ?_
      · simp [HttpTransport.submitRequest, Json.get?, List.lookup_append,
          Json.lookup_skipNone, List.lookup_cons]
      · simp [HttpTransport.submitRequest, Json.get?, List.lookup_append,
          Json.lookup_skipNone, List.lookup_cons]

/-! ## Two submissions of one transaction -/

/-- Submissions with different instructions for the server. -/
def SubmitOptions.Differ (a b : SubmitOptions) : Prop :=
  (a.dedupId ≠ b.dedupId ∧ a.dedupId ≠ some "" ∧ b.dedupId ≠ some "")
    ∨ (a.preferredSender ≠ b.preferredSender ∧ a.preferredSender ≠ some ""
      ∧ b.preferredSender ≠ some "")
    ∨ a.broadcastMode ≠ b.broadcastMode
    ∨ a.maxRetries ≠ b.maxRetries
    ∨ a.tpuSubmission ≠ b.tpuSubmission

theorem nonBlank_of_ne {s : Option String} (h : s ≠ some "") : nonBlank s = s := by
  cases s with
  | none => rfl
  | some t =>
      have ht : t ≠ "" := fun heq => h (congrArg some heq)
      simp [nonBlank, ht]

theorem carried_ne_of_differ {a b : SubmitOptions} (h : a.Differ b) :
    a.carried ≠ b.carried := by
  intro heq
  rcases h with ⟨hne, ha, hb⟩ | ⟨hne, ha, hb⟩ | hne | hne | hne
  · have hdedup : nonBlank a.dedupId = nonBlank b.dedupId := congrArg Carried.dedupId heq
    rw [nonBlank_of_ne ha, nonBlank_of_ne hb] at hdedup
    exact hne hdedup
  · have hsender : nonBlank a.preferredSender = nonBlank b.preferredSender :=
      congrArg Carried.preferredSender heq
    rw [nonBlank_of_ne ha, nonBlank_of_ne hb] at hsender
    exact hne hsender
  · exact hne (Option.some.inj (congrArg Carried.broadcastMode heq))
  · exact hne (UInt32.toNat_inj.mp (Option.some.inj (congrArg Carried.maxRetries heq)))
  · exact hne (congrArg Carried.tpuSubmission heq)

/-- Two submissions that differ in their options differ on the wire, the
request id aside, unless they go over QUIC and agree on the TPU. -/
theorem requests_differ_iff (base64 : List UInt8 → String) (t : Transport)
    (transaction : List UInt8) {a b : SubmitOptions} (h : a.Differ b) :
    (∀ requestId, t.submitRequest base64 requestId transaction a
        ≠ t.submitRequest base64 requestId transaction b)
      ↔ t.protocol ≠ .quic ∨ a.tpuSubmission ≠ b.tpuSubmission := by
  constructor
  · intro hdiffer
    by_contra hsame
    push Not at hsame
    obtain ⟨hquic, htpu⟩ := hsame
    cases t with
    | quic t =>
        refine hdiffer "" ?_
        show Request.quic _ = Request.quic _
        unfold QuicTransport.submitFrame QuicTransport.submitStreamType
        rw [htpu]
    | grpc t => cases hquic
    | webSocket t => cases hquic
    | http t => cases hquic
  · intro hcarries requestId heq
    have hcarried := congrArg Request.carried heq
    rw [carried_submitRequest, carried_submitRequest] at hcarried
    by_cases hquic : t.protocol = .quic
    · rw [if_pos hquic, if_pos hquic] at hcarried
      rcases hcarries with hne | hne
      · exact hne hquic
      · exact hne (congrArg Carried.tpuSubmission hcarried)
    · rw [if_neg hquic, if_neg hquic] at hcarried
      exact carried_ne_of_differ h hcarried

def ordered (id : String) : SubmitOptions where
  dedupId := some id

/-- The dedup id is not in the QUIC frame. -/
theorem dedupId_dropped :
    (ordered "order-1").Differ (ordered "order-2")
      ∧ (Transport.new .quic).submitRequest (fun _ => "AQID") "req-1" [1, 2, 3]
          (ordered "order-1")
        = (Transport.new .quic).submitRequest (fun _ => "AQID") "req-1" [1, 2, 3]
          (ordered "order-2") :=
  ⟨.inl (by decide), rfl⟩

theorem dedupId_sent :
    (Transport.new .http).submitRequest (fun _ => "AQID") "req-1" [1, 2, 3] (ordered "order-1")
      ≠ (Transport.new .http).submitRequest (fun _ => "AQID") "req-1" [1, 2, 3]
        (ordered "order-2") := by
  have hdiffer : (ordered "order-1").Differ (ordered "order-2") := .inl (by decide)
  have hcarries : (Transport.new .http).protocol ≠ .quic := by decide
  exact (requests_differ_iff (fun _ => "AQID") (Transport.new .http) [1, 2, 3] hdiffer).mpr
    (.inl hcarries) "req-1"

end Slipstream
