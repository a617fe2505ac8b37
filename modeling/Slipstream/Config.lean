import Slipstream.Types

/-!
# Configuration

The client's configuration, with the fields that decide what is dialled
and how long it may take: `Config.getEndpoint` resolves the address for
a protocol (selected worker, then explicit endpoint, then the local
default), `Config.withLegacyEndpoint` is the variant that dials the
worker's legacy address through the same resolution.
-/

namespace Slipstream

structure ProtocolTimeouts where
  quic : Duration := .fromMillis 2000
  grpc : Duration := .fromMillis 3000
  websocket : Duration := .fromMillis 3000
  http : Duration := .fromMillis 5000
deriving Repr, DecidableEq

structure Config where
  apiKey : String
  region : Option String := none
  endpoint : Option String := none
  protocolTimeouts : ProtocolTimeouts := {}
  preferredProtocol : Option Protocol := none
  selectedWorker : Option WorkerEndpoint := none
  keepalive : Bool := true
  keepaliveInterval : Duration := .fromSecs 5
deriving Repr, DecidableEq

namespace Config

def validate (c : Config) : Except SdkError Unit :=
  if c.apiKey = "" then .error (.config "api_key is required")
  else if "sk_".toList <+: c.apiKey.toList then .ok ()
  else .error (.config "api_key must start with 'sk_'")

/-- Last resort of the resolution: local development. -/
def defaultEndpoint : Protocol → String
  | .quic => "quic://localhost:4433"
  | .grpc => "http://localhost:10000"
  | .webSocket => "ws://localhost:9000/ws"
  | .http => "http://localhost:9091"

/-- The address the selected worker advertises for a protocol. -/
def workerEndpoint (c : Config) (p : Protocol) : Option String :=
  c.selectedWorker.bind fun w => w.getEndpoint p

def getEndpoint (c : Config) (p : Protocol) : String :=
  match c.workerEndpoint p with
  | some e => e
  | none =>
      match c.endpoint with
      | some e => e
      | none => defaultEndpoint p

/-- The variant that dials the legacy endpoint for `p`: present when the
selected worker advertises one that differs from its primary. -/
def withLegacyEndpoint (c : Config) (p : Protocol) : Option Config := do
  let worker ← c.selectedWorker
  let legacy ← worker.getLegacyEndpoint p
  if some legacy = worker.getEndpoint p then none
  else
    some { c with selectedWorker := some (worker.withPrimaryEndpoint p (some legacy)) }

/-- The legacy address itself, under the conditions of
`withLegacyEndpoint`. -/
def legacyEndpoint (c : Config) (p : Protocol) : Option String :=
  (c.selectedWorker.bind fun w => w.getLegacyEndpoint p).filter fun e =>
    decide (some e ≠ c.workerEndpoint p)

/-- What the legacy variant dials for `p` is the legacy address. -/
theorem map_getEndpoint_withLegacyEndpoint (c : Config) (p : Protocol) :
    (c.withLegacyEndpoint p).map (fun c' => c'.getEndpoint p) = c.legacyEndpoint p := by
  cases hw : c.selectedWorker with
  | none => simp [withLegacyEndpoint, legacyEndpoint, hw]
  | some w =>
      cases hl : w.getLegacyEndpoint p with
      | none => simp [withLegacyEndpoint, legacyEndpoint, hw, hl]
      | some e =>
          by_cases heq : w.getEndpoint p = some e
          · simp [withLegacyEndpoint, legacyEndpoint, workerEndpoint, hw, hl, heq,
              Option.filter]
          · have hne : ¬ some e = w.getEndpoint p := fun h => heq h.symm
            simp [withLegacyEndpoint, legacyEndpoint, workerEndpoint, hw, hl, hne,
              getEndpoint, Option.filter]

end Config

end Slipstream
