import Slipstream.Discovery
import Slipstream.Records
import Slipstream.Verdict

/-!
# The answer of the discovery service

`discover` asks for the workers and reads the answer, or says in one of
three errors what went wrong. An older service does not know of the
legacy ports, or of any but the QUIC port, and a newer one may have
fields that this client does not know: what either writes is read
(`discover_eq`).
-/

namespace Slipstream

namespace DiscoveryClient

open JsonText (Value)

open Records

open Verdict (isSuccess)

/-! ## Reading -/

/-- What the client checks of a region, but does not use. -/
structure DiscoveryRegion where
  id : String
  name : String
  lat : Option Float
  lon : Option Float
  leaderRttMs : Option Float

def DiscoveryRegion.floats (r : DiscoveryRegion) : List Float :=
  [r.lat, r.lon, r.leaderRttMs].flatMap Option.toList

section Readers

variable (f64 : Value → Option Float)

def readRegion : Record DiscoveryRegion where
  layout := needed ["id", "name", "lat", "lon", "leader_rtt_ms"]
  read fields := do
    let id ← required "id" string fields
    let name ← required "name" string fields
    let lat ← orNull "lat" f64 fields
    let lon ← orNull "lon" f64 fields
    let leaderRttMs ← orNull "leader_rtt_ms" f64 fields
    pure ⟨id, name, lat, lon, leaderRttMs⟩

def defaultGrpcPort : UInt16 := 10000

def readPorts : Record WorkerPorts where
  layout :=
    needed ["quic"] ++
    spared ["grpc", "ws", "http", "legacy_quic", "legacy_grpc", "legacy_ws"]
  read fields := do
    let quic ← required "quic" u16 fields
    let grpc ← defaulted ["grpc"] defaultGrpcPort u16 fields
    let ws ← orNull "ws" u16 fields
    let http ← orNull "http" u16 fields
    let legacyQuic ← orNull "legacy_quic" u16 fields
    let legacyGrpc ← orNull "legacy_grpc" u16 fields
    let legacyWs ← orNull "legacy_ws" u16 fields
    pure
      { quic := quic
        grpc := grpc
        ws := ws
        http := http
        legacyQuic := legacyQuic
        legacyGrpc := legacyGrpc
        legacyWs := legacyWs }

def readWorker : Record DiscoveryWorker where
  layout := needed ["id", "region", "ip", "ports", "healthy", "version"]
  read fields := do
    let id ← required "id" string fields
    let region ← required "region" string fields
    let ip ← required "ip" string fields
    let ports ← required "ports" readPorts.value fields
    let healthy ← required "healthy" bool fields
    let _version ← orNull "version" string fields
    pure ⟨id, region, ip, ports, healthy⟩

def readResponse : Record DiscoveryResponse where
  layout := needed ["regions", "workers", "recommended_region"]
  read fields := do
    let _regions ← required "regions" (array (readRegion f64).value) fields
    let workers ← required "workers" (array readWorker.value) fields
    let recommendedRegion ← orNull "recommended_region" string fields
    pure ⟨workers, recommendedRegion⟩

/-- A response to the request; `status` is the status as a text. -/
structure Answer where
  statusCode : UInt16
  status : String
  body : List UInt8

/-- `get` is the request, by URL; a failure of it comes with a text. `json` is
the library's part in reading the body. -/
def discover (json : JsonText.Reader) (discoveryUrl : String)
    (get : String → Except String Answer) (invalid : String) :
    Except SdkError DiscoveryResponse :=
  match get (discoveryUrl ++ "/v1/discovery") with
  | .error e => .error (.connection ("Discovery request failed: " ++ e))
  | .ok answer =>
      if !isSuccess answer.statusCode then
        .error (.connection ("Discovery failed (HTTP " ++ answer.status ++ "): "
          ++ Utf8.fromUtf8Lossy answer.body))
      else
        match (json answer.body).bind (readResponse f64).value with
        | some discovery => .ok discovery
        | none => .error (.connection ("Invalid discovery response: " ++ invalid))

end Readers

/-! ## Writing -/

/-- A service: whether it writes a missing value as `null`, whether it
leaves out a gRPC port that is the default, and how it writes fractions. -/
structure Service where
  nulls : Bool
  omitsGrpc : Bool
  f64 : Float → Value

namespace Service

variable (s : Service)

def ports (p : WorkerPorts) : Fields :=
  [("quic", num16 p.quic)] ++
    (if s.omitsGrpc ∧ p.grpc = defaultGrpcPort then [] else [("grpc", num16 p.grpc)]) ++
    writeOption s.nulls "ws" (p.ws.map num16) ++
    writeOption s.nulls "http" (p.http.map num16) ++
    writeOption s.nulls "legacy_quic" (p.legacyQuic.map num16) ++
    writeOption s.nulls "legacy_grpc" (p.legacyGrpc.map num16) ++
    writeOption s.nulls "legacy_ws" (p.legacyWs.map num16)

/-- The names each reader looks for. -/
def portNames : List String :=
  ["quic", "grpc", "ws", "http", "legacy_quic", "legacy_grpc", "legacy_ws"]

def workerNames : List String := ["id", "region", "ip", "ports", "healthy", "version"]

def regionNames : List String := ["id", "name", "lat", "lon", "leader_rtt_ms"]

def responseNames : List String := ["regions", "workers", "recommended_region"]

inductive Ports (p : WorkerPorts) : Value → Prop where
  | intro {fields : Fields} (h : Among portNames (s.ports p) fields) : Ports p (.obj fields)

inductive Worker (w : DiscoveryWorker) : Value → Prop where
  | intro {ports : Value} {version : Option String} {fields : Fields}
      (hports : s.Ports w.ports ports)
      (h : Among workerNames
        ([("id", .str w.id), ("region", .str w.region), ("ip", .str w.ip), ("ports", ports),
          ("healthy", .bool w.healthy)]
          ++ writeOption s.nulls "version" (version.map .str)) fields) :
      Worker w (.obj fields)

/-- What is written for the numbers reads as them. -/
inductive Region (f64 : Value → Option Float) (r : DiscoveryRegion) : Value → Prop where
  | intro {fields : Fields}
      (hfits : ∀ x ∈ r.floats, s.f64 x ≠ .null ∧ f64 (s.f64 x) = some x)
      (h : Among regionNames
        ([("id", .str r.id), ("name", .str r.name)] ++
          writeOption s.nulls "lat" (r.lat.map s.f64) ++
          writeOption s.nulls "lon" (r.lon.map s.f64) ++
          writeOption s.nulls "leader_rtt_ms" (r.leaderRttMs.map s.f64)) fields) :
      Region f64 r (.obj fields)

/-- What the service may write for a response, with its objects in any
order and with fields of its own at every level. -/
inductive Response (f64 : Value → Option Float) (r : DiscoveryResponse) : Value → Prop where
  | intro {regions : List DiscoveryRegion} {rs ws : List Value} {fields : Fields}
      (hregions : List.Forall₂ (s.Region f64) regions rs)
      (hworkers : List.Forall₂ s.Worker r.workers ws)
      (h : Among responseNames
        ([("regions", .arr rs), ("workers", .arr ws)] ++
          writeOption s.nulls "recommended_region" (r.recommendedRegion.map .str)) fields) :
      Response f64 r (.obj fields)

end Service

section ReadBack

variable {s : Service} {f64 : Value → Option Float}

theorem readPorts_of_written {p : WorkerPorts} {v : Value} (h : s.Ports p v) :
    readPorts.value v = some p := by
  obtain ⟨hamong⟩ := h
  simp only [Record.value]
  simp (disch := decide) only [readPorts, required, defaulted, orNull, field_among hamong]
  by_cases hgrpc : s.omitsGrpc = true ∧ p.grpc = defaultGrpcPort
  · obtain ⟨homits, hport⟩ := hgrpc
    simp [Service.ports, field, homits, hport]
    rw [← hport]
  · simp [Service.ports, field, hgrpc]

theorem readWorker_of_written {w : DiscoveryWorker} {v : Value} (h : s.Worker w v) :
    readWorker.value v = some w := by
  obtain ⟨hports, hamong⟩ := h
  have hread := readPorts_of_written hports
  simp only [Record.value]
  simp (disch := decide) only [readWorker, required, orNull, field_among hamong]
  simp [field, hread]

theorem readRegion_of_written {r : DiscoveryRegion} {v : Value} (h : s.Region f64 r v) :
    (readRegion f64).value v = some r := by
  obtain ⟨hfits, hamong⟩ := h
  have hlat := pick_written (o := r.lat) s.nulls fun x hx =>
    hfits x (by simp [DiscoveryRegion.floats, Option.mem_def.mp hx])
  have hlon := pick_written (o := r.lon) s.nulls fun x hx =>
    hfits x (by simp [DiscoveryRegion.floats, Option.mem_def.mp hx])
  have hrtt := pick_written (o := r.leaderRttMs) s.nulls fun x hx =>
    hfits x (by simp [DiscoveryRegion.floats, Option.mem_def.mp hx])
  simp only [Record.value]
  simp (disch := decide) only [readRegion, required, orNull, field_among hamong]
  simp [field, hlat, hlon, hrtt]

theorem readResponse_of_written {r : DiscoveryResponse} {v : Value} (h : s.Response f64 r v) :
    (readResponse f64).value v = some r := by
  obtain ⟨hregions, hworkers, hamong⟩ := h
  have hreadRegions := array_forall₂ (hregions.imp fun region v hv => readRegion_of_written hv)
  have hreadWorkers := array_forall₂ (hworkers.imp fun w v hv => readWorker_of_written hv)
  simp only [Record.value]
  simp (disch := decide) only [readResponse, required, orNull, field_among hamong]
  simp [field, hreadRegions, hreadWorkers]

/-- What an old or a new service answers is what the client gets. -/
theorem discover_eq {json : JsonText.Reader} {discoveryUrl invalid status : String}
    {statusCode : UInt16} {body : List UInt8} {get : String → Except String Answer}
    {r : DiscoveryResponse} {v : Value}
    (hget : get (discoveryUrl ++ "/v1/discovery") = .ok ⟨statusCode, status, body⟩)
    (hstatus : isSuccess statusCode = true) (hbody : json body = some v)
    (h : s.Response f64 r v) : discover f64 json discoveryUrl get invalid = .ok r := by
  unfold discover
  rw [hget]
  simp only [hstatus, Bool.not_true, Bool.false_eq_true, if_false]
  rw [hbody, Option.bind_some, readResponse_of_written h]

end ReadBack

/-- No nulls, and no port that it need not write. -/
def oldService : Service := ⟨false, true, fun _ => .null⟩

def oldWorker : DiscoveryWorker where
  id := "w-1"
  region := "eu-west"
  ip := "10.0.0.1"
  ports := { quic := 4433 }
  healthy := true

def oldWorkerValue : Value :=
  .obj [("id", .str "w-1"), ("region", .str "eu-west"), ("ip", .str "10.0.0.1"),
    ("ports", .obj [("quic", num16 4433)]), ("healthy", .bool true)]

/-- What it answers, with a time that the client does not know of. -/
def oldValue : Value :=
  .obj [("generated_at", .num 1700), ("regions", .arr []), ("workers", .arr [oldWorkerValue]),
    ("recommended_region", .str "eu-west")]

theorem oldWorker_written : oldService.Worker oldWorker oldWorkerValue := by
  have hports : oldService.Ports oldWorker.ports (.obj [("quic", num16 4433)]) :=
    .intro (Among.refl _ _)
  exact .intro hports (Among.refl _ ([("id", .str "w-1"), ("region", .str "eu-west"),
    ("ip", .str "10.0.0.1"), ("ports", .obj [("quic", num16 4433)]), ("healthy", .bool true)] ++
      writeOption false "version" ((none : Option String).map .str)))

theorem oldValue_written :
    oldService.Response (fun _ => none) ⟨[oldWorker], some "eu-west"⟩ oldValue := by
  refine .intro .nil (.cons oldWorker_written .nil) ⟨[("generated_at", .num 1700)], ?_, ?_⟩
  · exact (List.perm_append_singleton _ _).symm
  · intro f hf
    rw [List.mem_singleton.mp hf]
    decide

theorem oldValue_discovered :
    discover (fun _ => none) JsonText.decode "https://discovery"
        (fun _ => .ok ⟨200, "200 OK", JsonText.encode oldValue⟩) "" =
      .ok ⟨[oldWorker], some "eu-west"⟩ :=
  discover_eq rfl (by decide) (JsonText.decode_encode _) oldValue_written

end DiscoveryClient

end Slipstream
