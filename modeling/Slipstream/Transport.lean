import Slipstream.FallbackChain
import Slipstream.WsMessage

/-!
# The four transports

The connection state of each transport and its `connect`,
`disconnect` and `is_connected`. A live connection is identified by the
address it was established on; `Transport.establishedOn` reads it off.
Everything outside the process is the `Network`: what each address
answers to a dial of each protocol, and after how long.

The transports differ in what a second `connect` does. QUIC reuses the
connection it has; gRPC, WebSocket and HTTP resolve the endpoint of the
configuration they are given and dial it.
-/

namespace Slipstream

/-! ## The network -/

/-- What a gRPC server says to `GetConnectionStatus`. -/
structure ConnectionStatusResponse where
  connected : Bool
  sessionId : String
  region : String
  serverTime : UInt64
  enabledFeatures : List String
  rateLimit : Option RateLimitInfo
deriving Repr, DecidableEq

/-- What follows once the WebSocket is open. -/
inductive WsHandshake where
  | sendFailed (msg : String)
  | noReply
  | closed
  | reply (msg : ServerMessage)

/-- The answer of the HTTP health check. -/
structure HealthResponse where
  success : Bool
  status : String
deriving Repr, DecidableEq

/-- For each protocol the outcome of dialling each address. A QUIC dial
that succeeds ends with the message of an accepted authentication. -/
structure Network where
  quic : String → Dialled String
  grpc : String → Dialled ConnectionStatusResponse
  webSocket : String → Dialled WsHandshake
  http : String → Dialled HealthResponse
  uuid : Protocol → String → String
  unixMillis : UInt64

/-- A `connect` call: the dials it made, what it returned, and the
transport after it. -/
structure Connected (τ : Type) where
  dialled : List Dial
  took : Duration
  result : Except SdkError ConnectionInfo
  transport : τ

/-! ## QUIC -/

structure QuicTransport where
  connection : Option String := none
  config : Option Config := none
  connected : Bool := false
  sessionId : Option String := none
deriving Repr, DecidableEq

namespace QuicTransport

def isConnected (t : QuicTransport) : Bool := t.connected

def connectionInfo (net : Network) (sessionId : String) (region : Option String) :
    ConnectionInfo where
  sessionId := sessionId
  protocol := "quic"
  region := region
  serverTime := net.unixMillis
  features := ["streaming", "bidirectional"]
  rateLimit := ⟨1000, 2000⟩

/-- `ok:<key_prefix>[:<region>]` names the session and the region; any
other accepted message gets a fresh session id. -/
def parseAuthResult (uuid authResult : String) : String × Option String :=
  match authResult.toList with
  | 'o' :: 'k' :: ':' :: payload =>
      let keyPrefix := payload.takeWhile (· ≠ ':')
      let region :=
        match payload.dropWhile (· ≠ ':') with
        | [] => none
        | _ :: rest => some (String.ofList rest)
      ("quic-" ++ String.ofList keyPrefix, region)
  | _ => (uuid, none)

def connect (net : Network) (t : QuicTransport) (cfg : Config) :
    Connected QuicTransport :=
  if t.isConnected then
    -- already connected: the existing connection is reused
    { dialled := []
      took := 0
      result := .ok (connectionInfo net (t.sessionId.getD "") cfg.region)
      transport := t }
  else
    let endpoint := cfg.getEndpoint .quic
    let t := { t with config := some cfg }
    let answer := net.quic endpoint
    match answer.result with
    | .error e => ⟨[⟨.quic, endpoint⟩], answer.took, .error e, t⟩
    | .ok authResult =>
        let (sessionId, serverRegion) :=
          parseAuthResult (net.uuid .quic endpoint) authResult
        { dialled := [⟨.quic, endpoint⟩]
          took := answer.took
          result :=
            .ok (connectionInfo net sessionId (serverRegion.or cfg.region))
          transport :=
            { t with
              connection := some endpoint
              sessionId := some sessionId
              connected := true } }

theorem connect_of_connected {net : Network} {t : QuicTransport} {cfg : Config}
    (h : t.isConnected = true) :
    t.connect net cfg
      = ⟨[], 0, .ok (connectionInfo net (t.sessionId.getD "") cfg.region), t⟩ := by
  unfold connect
  rw [if_pos h]

/-- A `connect` that fails leaves the flag down. -/
theorem isConnected_connect_of_error {net : Network} {t : QuicTransport} {cfg : Config}
    {e : SdkError} (h : t.isConnected = false) (herr : (t.connect net cfg).result = .error e) :
    (t.connect net cfg).transport.isConnected = false := by
  have hif : ¬ t.isConnected = true := by simp [h]
  unfold connect at herr ⊢
  rw [if_neg hif] at herr ⊢
  dsimp only at herr ⊢
  split at herr
  · exact h
  · cases herr

theorem isConnected_connect {net : Network} {t : QuicTransport} {cfg : Config}
    {info : ConnectionInfo} (h : (t.connect net cfg).result = .ok info) :
    (t.connect net cfg).transport.isConnected = true := by
  unfold connect at h ⊢
  by_cases hconn : t.isConnected = true
  · rw [if_pos hconn]
    exact hconn
  · rw [if_neg hconn] at h ⊢
    dsimp only at h ⊢
    split at h
    · cases h
    · rfl

def disconnect (t : QuicTransport) : QuicTransport :=
  { t with connected := false, connection := none, sessionId := none }

end QuicTransport

/-! ## gRPC -/

structure GrpcTransport where
  client : Option String := none
  config : Option Config := none
  connected : Bool := false
  sessionId : Option String := none
deriving Repr, DecidableEq

namespace GrpcTransport

def isConnected (t : GrpcTransport) : Bool := t.connected

def connect (net : Network) (t : GrpcTransport) (cfg : Config) :
    Connected GrpcTransport :=
  let endpoint := cfg.getEndpoint .grpc
  let t := { t with config := some cfg }
  let answer := net.grpc endpoint
  match answer.result with
  | .error e => ⟨[⟨.grpc, endpoint⟩], answer.took, .error e, t⟩
  | .ok status =>
      if !status.connected then
        ⟨[⟨.grpc, endpoint⟩], answer.took,
          .error (.auth "Server rejected connection"), t⟩
      else
        { dialled := [⟨.grpc, endpoint⟩]
          took := answer.took
          result :=
            .ok
              { sessionId := status.sessionId
                protocol := "grpc"
                region := some status.region
                serverTime := status.serverTime
                features := status.enabledFeatures
                rateLimit := status.rateLimit.getD ⟨100, 200⟩ }
          transport :=
            { t with
              client := some endpoint
              sessionId := some status.sessionId
              connected := true } }

theorem dialled_connect (net : Network) (t : GrpcTransport) (cfg : Config) :
    (t.connect net cfg).dialled = [⟨.grpc, cfg.getEndpoint .grpc⟩] := by
  unfold connect
  dsimp only
  split
  · rfl
  · split <;> rfl

theorem isConnected_connect {net : Network} {t : GrpcTransport} {cfg : Config}
    {info : ConnectionInfo} (h : (t.connect net cfg).result = .ok info) :
    (t.connect net cfg).transport.isConnected = true := by
  unfold connect at h ⊢
  dsimp only at h ⊢
  split at h
  · cases h
  · split at h
    · cases h
    · rename_i hstatus
      rw [if_neg hstatus]
      rfl

def disconnect (t : GrpcTransport) : GrpcTransport :=
  { t with connected := false, client := none, sessionId := none }

end GrpcTransport

/-! ## WebSocket -/

structure WebSocketTransport where
  sink : Option String := none
  config : Option Config := none
  connected : Bool := false
  sessionId : Option String := none
deriving Repr, DecidableEq

namespace WebSocketTransport

def isConnected (t : WebSocketTransport) : Bool := t.connected

/-- The reply to `Connect`, awaited for five seconds. -/
def awaitConnected : WsHandshake → Except SdkError WsConnected
  | .sendFailed msg => .error (.connection ("Failed to send message: " ++ msg))
  | .noReply => .error (.timeout (.fromSecs 5))
  | .closed => .error (.connection "Connection closed before response")
  | .reply (.connected reply) => .ok reply
  | .reply (.error code message) =>
      .error (.auth ("Connection rejected: " ++ code ++ " - " ++ message))
  | .reply _ => .error (.protocol "Unexpected response to connect")

def connect (net : Network) (t : WebSocketTransport) (cfg : Config) :
    Connected WebSocketTransport :=
  let endpoint := cfg.getEndpoint .webSocket
  let t := { t with config := some cfg }
  let answer := net.webSocket endpoint
  match answer.result with
  | .error e => ⟨[⟨.webSocket, endpoint⟩], answer.took, .error e, t⟩
  | .ok handshake =>
      -- the sink of the new socket is stored before the handshake
      let t := { t with sink := some endpoint }
      match awaitConnected handshake with
      | .error e => ⟨[⟨.webSocket, endpoint⟩], answer.took, .error e, t⟩
      | .ok reply =>
          { dialled := [⟨.webSocket, endpoint⟩]
            took := answer.took
            result :=
              .ok
                { sessionId := reply.sessionId
                  protocol := "websocket"
                  region := reply.region
                  serverTime := reply.serverTime
                  features := reply.features
                  rateLimit := reply.rateLimit }
            transport :=
              { t with sessionId := some reply.sessionId, connected := true } }

theorem dialled_connect (net : Network) (t : WebSocketTransport) (cfg : Config) :
    (t.connect net cfg).dialled = [⟨.webSocket, cfg.getEndpoint .webSocket⟩] := by
  unfold connect
  dsimp only
  split
  · rfl
  · split <;> rfl

theorem isConnected_connect {net : Network} {t : WebSocketTransport} {cfg : Config}
    {info : ConnectionInfo} (h : (t.connect net cfg).result = .ok info) :
    (t.connect net cfg).transport.isConnected = true := by
  unfold connect at h ⊢
  dsimp only at h ⊢
  split at h
  · cases h
  · split at h
    · cases h
    · rfl

def disconnect (t : WebSocketTransport) : WebSocketTransport :=
  { t with connected := false, sink := none, sessionId := none }

end WebSocketTransport

/-! ## HTTP -/

structure HttpTransport where
  baseUrl : String := ""
  config : Option Config := none
  connected : Bool := false
  sessionId : Option String := none
deriving Repr, DecidableEq

namespace HttpTransport

def isConnected (t : HttpTransport) : Bool := t.connected

def connect (net : Network) (t : HttpTransport) (cfg : Config) :
    Connected HttpTransport :=
  let endpoint := cfg.getEndpoint .http
  let t := { t with baseUrl := endpoint, config := some cfg }
  let answer := net.http endpoint
  match answer.result with
  | .error e => ⟨[⟨.http, endpoint⟩], answer.took, .error e, t⟩
  | .ok response =>
      if !response.success then
        ⟨[⟨.http, endpoint⟩], answer.took,
          .error (.connection ("HTTP health check returned status " ++ response.status)),
          t⟩
      else
        let sessionId := net.uuid .http endpoint
        { dialled := [⟨.http, endpoint⟩]
          took := answer.took
          result :=
            .ok
              { sessionId := sessionId
                protocol := "http"
                region := cfg.region
                serverTime := net.unixMillis
                features := ["polling"]
                rateLimit := ⟨100, 200⟩ }
          transport := { t with connected := true, sessionId := some sessionId } }

theorem dialled_connect (net : Network) (t : HttpTransport) (cfg : Config) :
    (t.connect net cfg).dialled = [⟨.http, cfg.getEndpoint .http⟩] := by
  unfold connect
  dsimp only
  split
  · rfl
  · split <;> rfl

theorem isConnected_connect {net : Network} {t : HttpTransport} {cfg : Config}
    {info : ConnectionInfo} (h : (t.connect net cfg).result = .ok info) :
    (t.connect net cfg).transport.isConnected = true := by
  unfold connect at h ⊢
  dsimp only at h ⊢
  split at h
  · cases h
  · split at h
    · cases h
    · rename_i hsuccess
      rw [if_neg hsuccess]
      rfl

def disconnect (t : HttpTransport) : HttpTransport :=
  { t with connected := false, sessionId := none }

end HttpTransport

/-! ## Any transport -/

inductive Transport where
  | quic (t : QuicTransport)
  | grpc (t : GrpcTransport)
  | webSocket (t : WebSocketTransport)
  | http (t : HttpTransport)
deriving Repr, DecidableEq

/-- Wrap the transport a `connect` left behind. -/
def Connected.map {τ υ : Type} (f : τ → υ) (c : Connected τ) : Connected υ :=
  ⟨c.dialled, c.took, c.result, f c.transport⟩

namespace Transport

/-- A transport that has not connected yet. -/
def new : Protocol → Transport
  | .quic => .quic {}
  | .grpc => .grpc {}
  | .webSocket => .webSocket {}
  | .http => .http {}

def protocol : Transport → Protocol
  | .quic _ => .quic
  | .grpc _ => .grpc
  | .webSocket _ => .webSocket
  | .http _ => .http

def isConnected : Transport → Bool
  | .quic t => t.isConnected
  | .grpc t => t.isConnected
  | .webSocket t => t.isConnected
  | .http t => t.isConnected

/-- The address of the connection the transport would use. -/
def establishedOn : Transport → Option String
  | .quic t => t.connection
  | .grpc t => t.client
  | .webSocket t => t.sink
  | .http t => if t.connected then some t.baseUrl else none

def connect (net : Network) (t : Transport) (cfg : Config) : Connected Transport :=
  match t with
  | .quic t => (t.connect net cfg).map .quic
  | .grpc t => (t.connect net cfg).map .grpc
  | .webSocket t => (t.connect net cfg).map .webSocket
  | .http t => (t.connect net cfg).map .http

def disconnect : Transport → Transport
  | .quic t => .quic t.disconnect
  | .grpc t => .grpc t.disconnect
  | .webSocket t => .webSocket t.disconnect
  | .http t => .http t.disconnect

theorem isConnected_disconnect (t : Transport) : t.disconnect.isConnected = false := by
  cases t <;> rfl

/-- `connect` keeps the kind of transport. -/
theorem protocol_connect (net : Network) (t : Transport) (cfg : Config) :
    (t.connect net cfg).transport.protocol = t.protocol := by
  cases t <;> rfl

end Transport

/-- Instantiates and connects the transport of the protocol. -/
def defaultConnector (net : Network) : Connector Transport := fun cfg p =>
  let c := (Transport.new p).connect net cfg
  { took := c.took
    result := c.result.map fun _ => c.transport }

end Slipstream
