import Slipstream.Base64
import Slipstream.JsonText
import Slipstream.SubmitRequest

/-!
# Submissions as bytes

What leaves the process for a submission, down to the bytes of the JSON
texts, and what a server makes of it: it takes the text apart and
decodes the base64 of the transaction. gRPC is left as the message that
is handed to protobuf.

The texts in a submission are the application's: the sender and the
dedup id may hold quotes, line breaks or what looks like another field.
`submission_read_back` says that none of it matters: the server has the
transaction, the request id and the options that were submitted.
-/

namespace Slipstream

/-- The standard engine of the base64 library. -/
def base64 (bytes : List UInt8) : String := String.ofList (Base64.encode bytes)

def fromBase64 (text : String) : Option (List UInt8) := Base64.decode text.toList

theorem fromBase64_base64 (bytes : List UInt8) : fromBase64 (base64 bytes) = some bytes := by
  unfold fromBase64 base64
  rw [String.toList_ofList, Base64.decode_encode]

/-! ## JSON texts -/

namespace Json

mutual

def value : Json → JsonText.Value
  | .bool b => .bool b
  | .num n => .num n
  | .str s => .str s
  | .obj fields => .obj (fieldValues fields)

def fieldValues : List (String × Json) → List (String × JsonText.Value)
  | [] => []
  | (name, j) :: fields => (name, j.value) :: fieldValues fields

end

mutual

/-- A value without nulls, arrays and reals. -/
def ofValue : JsonText.Value → Option Json
  | .null => none
  | .bool b => some (.bool b)
  | .num n => some (.num n)
  | .real _ => none
  | .str s => some (.str s)
  | .arr _ => none
  | .obj fields => (ofFields fields).map .obj

def ofFields : List (String × JsonText.Value) → Option (List (String × Json))
  | [] => some []
  | (name, v) :: fields => do
      let j ← ofValue v
      let js ← ofFields fields
      pure ((name, j) :: js)

end

mutual

theorem ofValue_value : ∀ j : Json, ofValue j.value = some j
  | .bool _ => rfl
  | .num _ => rfl
  | .str _ => rfl
  | .obj fields => by
      rw [value, ofValue, ofFields_fieldValues fields]
      rfl

theorem ofFields_fieldValues : ∀ fields : List (String × Json),
    ofFields (fieldValues fields) = some fields
  | [] => rfl
  | (name, j) :: fields => by
      rw [fieldValues, ofFields, ofValue_value j, ofFields_fieldValues fields]
      rfl

end

def encode (j : Json) : List UInt8 := JsonText.encode j.value

def decode (bytes : List UInt8) : Option Json := (JsonText.decode bytes).bind ofValue

theorem decode_encode (j : Json) : decode j.encode = some j := by
  unfold decode encode
  rw [JsonText.decode_encode, Option.bind_some, ofValue_value]

end Json

/-! ## What a server receives -/

/-- A submission outside the process. -/
inductive Sent where
  /-- A stream of the QUIC connection, up to its end. -/
  | stream (bytes : List UInt8)
  | message (request : TransactionRequest)
  | text (bytes : List UInt8)
  | post (url : String) (authorization : Option String) (body : List UInt8)
deriving Repr, DecidableEq

namespace Request

def sent : Request → Sent
  | .quic frame => .stream frame
  | .grpc request => .message request
  | .webSocket message => .text message.encode
  | .http request => .post request.url request.authorization request.body.encode

/-- The request a server reads. -/
def received : Sent → Option Request
  | .stream bytes => some (.quic bytes)
  | .message request => some (.grpc request)
  | .text bytes => (Json.decode bytes).map .webSocket
  | .post url authorization body =>
      (Json.decode body).map fun j => .http ⟨url, authorization, j⟩

theorem received_sent (r : Request) : received r.sent = some r := by
  cases r with
  | quic frame => rfl
  | grpc request => rfl
  | webSocket message => simp only [sent, received, Json.decode_encode, Option.map_some]
  | http request => simp only [sent, received, Json.decode_encode, Option.map_some]

end Request

/-- The field of a JSON request that has the transaction. -/
def Json.transaction (request : Json) : Option (List UInt8) :=
  ((request.get? "transaction").bind Json.str?).bind fromBase64

/-- The transaction in a request; over QUIC it is what follows the type
of the stream. -/
def Request.transaction : Request → Option (List UInt8)
  | .quic [] => none
  | .quic (streamType :: transaction) =>
      if streamType = 0x01 ∨ streamType = 0x0b then some transaction else none
  | .grpc request => some request.transaction
  | .webSocket message => message.transaction
  | .http request => request.body.transaction

def Request.id : Request → Option String
  | .quic _ => none
  | .grpc request => some request.requestId
  | .webSocket message => (message.get? "request_id").bind Json.str?
  | .http request => (request.body.get? "requestId").bind Json.str?

theorem transaction_submitFrame (transaction : List UInt8) (o : SubmitOptions) :
    (Request.quic (QuicTransport.submitFrame transaction o)).transaction = some transaction := by
  have htype : QuicTransport.submitStreamType o = 0x01
      ∨ QuicTransport.submitStreamType o = 0x0b := by
    unfold QuicTransport.submitStreamType
    cases o.tpuSubmission with
    | true => exact .inr rfl
    | false => exact .inl rfl
  show (if _ then some transaction else none) = some transaction
  rw [if_pos htype]

theorem Json.transaction_of_get? {request : Json} {transaction : List UInt8}
    (h : request.get? "transaction" = some (.str (base64 transaction))) :
    request.transaction = some transaction := by
  unfold Json.transaction
  rw [h]
  exact fromBase64_base64 transaction

/-- What the request of a submission says, before it is sent. -/
theorem transaction_submitRequest (t : Transport) (requestId : String)
    (transaction : List UInt8) (o : SubmitOptions) :
    (t.submitRequest base64 requestId transaction o).transaction = some transaction := by
  cases t with
  | quic t => exact transaction_submitFrame transaction o
  | grpc t => rfl
  | webSocket t => exact Json.transaction_of_get? rfl
  | http t => exact Json.transaction_of_get? rfl

theorem id_submitRequest (t : Transport) (requestId : String)
    (transaction : List UInt8) (o : SubmitOptions) :
    (t.submitRequest base64 requestId transaction o).id
      = if t.protocol = .quic then none else some requestId := by
  cases t with
  | quic t => rfl
  | grpc t => rfl
  | webSocket t => rfl
  | http t => rfl

/-- Whatever the application put into the options, the server reads the
transaction, the request id and the options it carries. -/
theorem submission_read_back (t : Transport) (requestId : String)
    (transaction : List UInt8) (o : SubmitOptions) :
    ∃ r, Request.received (t.submitRequest base64 requestId transaction o).sent = some r
      ∧ r.transaction = some transaction
      ∧ r.id = (if t.protocol = .quic then none else some requestId)
      ∧ r.carried = if t.protocol = .quic then { tpuSubmission := o.tpuSubmission }
          else o.carried :=
  ⟨_, Request.received_sent _, transaction_submitRequest t requestId transaction o,
    id_submitRequest t requestId transaction o,
    carried_submitRequest base64 t requestId transaction o⟩

end Slipstream
