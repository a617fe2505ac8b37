import Slipstream.Transport

/-!
# Connecting a client

A client is connected in two steps: the fallback chain returns a
transport it has connected, and `connect` is called on that transport
once more, with the configuration the chain was given. The health
monitor's `reconnect` makes the same two calls.

The second call keeps the chain's connection for QUIC only. The other
transports dial the primary endpoint again, whatever the chain had
settled on, so that a connection the chain found on a legacy endpoint is
given up for one that may not come about (`keepsEndpoint_iff`).
-/

namespace Slipstream

/-- The chain's transport, connected with the original configuration. -/
def establish (net : Network) (selectBest : Except SdkError WorkerEndpoint)
    (cfg : Config) : Attempted (Transport × ConnectionInfo) :=
  let chain : FallbackChain := ⟨cfg.protocolTimeouts⟩
  let chained := chain.connect (defaultConnector net) selectBest cfg
  match chained.result with
  | .error e => ⟨chained.dialled, .error e⟩
  | .ok transport =>
      let c := transport.connect net cfg
      { dialled := chained.dialled ++ c.dialled
        result := c.result.map fun info => (c.transport, info) }

/-- `connect` with an explicit endpoint or worker, up to the set-up of
the background tasks. -/
def SlipstreamClient.connect (net : Network)
    (selectBest : Except SdkError WorkerEndpoint) (cfg : Config) :
    Attempted (Transport × ConnectionInfo) :=
  match cfg.validate with
  | .error e => ⟨[], .error e⟩
  | .ok () => establish net selectBest cfg

/-- The transport the monitor puts in place of the lost one. -/
def HealthMonitor.reconnect (net : Network)
    (selectBest : Except SdkError WorkerEndpoint) (cfg : Config) :
    Attempted Transport :=
  let established := establish net selectBest cfg
  ⟨established.dialled, established.result.map Prod.fst⟩

/-! ## Chains over a mapped connector -/

def Dialled.map {τ υ : Type} (f : τ → υ) (d : Dialled τ) : Dialled υ :=
  ⟨d.took, d.result.map f⟩

def Attempted.map {τ υ : Type} (f : τ → υ) (a : Attempted τ) : Attempted υ :=
  ⟨a.dialled, a.result.map f⟩

namespace FallbackChain

section Map

variable {τ υ : Type} (f : τ → υ) (connector : Connector τ)

theorem attempt_map (cfg : Config) (p : Protocol) (timeout : Duration) :
    attempt (fun cfg p => (connector cfg p).map f) cfg p timeout
      = (attempt connector cfg p timeout).map f := by
  by_cases h : timeout < (connector cfg p).took
  · simp [attempt, Attempted.map, Dialled.map, h, Except.map]
  · simp [attempt, Attempted.map, Dialled.map, h]

theorem tryProtocolWith_map (chain : FallbackChain) (cfg : Config) (p : Protocol) :
    chain.tryProtocolWith (fun cfg p => (connector cfg p).map f) cfg p
      = (chain.tryProtocolWith connector cfg p).map f := by
  unfold tryProtocolWith
  simp only [attempt_map]
  generalize attempt connector cfg p (chain.timeoutFor p) = primary
  obtain ⟨dialled, result⟩ := primary
  cases result with
  | ok t => rfl
  | error e =>
      simp only [Attempted.map, Except.map]
      cases isConnectFailure e with
      | false => rfl
      | true => cases cfg.withLegacyEndpoint p <;> rfl

theorem tryInOrder_map (chain : FallbackChain) (cfg : Config) (ps : List Protocol) :
    ∀ lastError : Option SdkError,
      chain.tryInOrder (fun cfg p => (connector cfg p).map f) cfg ps lastError
        = (chain.tryInOrder connector cfg ps lastError).map f := by
  induction ps with
  | nil => intro lastError; rfl
  | cons p ps ih =>
      intro lastError
      unfold tryInOrder
      simp only [tryProtocolWith_map, ih]
      cases skips cfg p with
      | true => rfl
      | false =>
          generalize chain.tryProtocolWith connector cfg p = tried
          obtain ⟨dialled, result⟩ := tried
          cases result <;> rfl

/-- What is read off the transport commutes with running the chain. -/
theorem connect_map (chain : FallbackChain)
    (selectBest : Except SdkError WorkerEndpoint) (cfg : Config) :
    chain.connect (fun cfg p => (connector cfg p).map f) selectBest cfg
      = (chain.connect connector selectBest cfg).map f := by
  unfold connect
  simp only [tryProtocolWith_map, tryInOrder_map]
  cases (resolveConfig selectBest cfg).preferredProtocol <;> rfl

end Map

end FallbackChain

/-! ## What the production connector establishes -/

/-- The connection a transport holds. -/
structure Established where
  protocol : Protocol
  endpoint : Option String
  connected : Bool
deriving Repr, DecidableEq

def Transport.established (t : Transport) : Established :=
  ⟨t.protocol, t.establishedOn, t.isConnected⟩

/-- The error of a dial, and nothing where it went through. -/
def Network.failure (net : Network) (endpoint : String) : Protocol → Except SdkError Unit
  | .quic =>
      match (net.quic endpoint).result with
      | .error e => .error e
      | .ok _ => .ok ()
  | .grpc =>
      match (net.grpc endpoint).result with
      | .error e => .error e
      | .ok status =>
          if status.connected then .ok ()
          else .error (.auth "Server rejected connection")
  | .webSocket =>
      match (net.webSocket endpoint).result with
      | .error e => .error e
      | .ok handshake =>
          match WebSocketTransport.awaitConnected handshake with
          | .error e => .error e
          | .ok _ => .ok ()
  | .http =>
      match (net.http endpoint).result with
      | .error e => .error e
      | .ok response =>
          if response.success then .ok ()
          else
            .error (.connection ("HTTP health check returned status " ++ response.status))

def Network.took (net : Network) (endpoint : String) : Protocol → Duration
  | .quic => (net.quic endpoint).took
  | .grpc => (net.grpc endpoint).took
  | .webSocket => (net.webSocket endpoint).took
  | .http => (net.http endpoint).took

/-- A dial of an address, as a connection established or an error. -/
def Network.dial (net : Network) (endpoint : String) (p : Protocol) :
    Dialled Established where
  took := net.took endpoint p
  result := (net.failure endpoint p).map fun _ => ⟨p, some endpoint, true⟩

/-- Connecting a transport that holds no connection is a dial of the
configuration's endpoint. -/
theorem connect_new (net : Network) (cfg : Config) (p : Protocol) :
    ((defaultConnector net cfg p).map Transport.established)
      = net.dial (cfg.getEndpoint p) p := by
  unfold defaultConnector Network.dial Network.failure Network.took Dialled.map
  cases p with
  | quic =>
      simp only [Transport.new, Transport.connect, Connected.map, QuicTransport.connect,
        QuicTransport.isConnected]
      cases (net.quic (cfg.getEndpoint .quic)).result <;> rfl
  | grpc =>
      simp only [Transport.new, Transport.connect, Connected.map, GrpcTransport.connect]
      cases (net.grpc (cfg.getEndpoint .grpc)).result with
      | error e => rfl
      | ok status => cases hconn : status.connected <;> simp only [hconn] <;> rfl
  | webSocket =>
      simp only [Transport.new, Transport.connect, Connected.map,
        WebSocketTransport.connect]
      cases (net.webSocket (cfg.getEndpoint .webSocket)).result with
      | error e => rfl
      | ok handshake =>
          cases hawait : WebSocketTransport.awaitConnected handshake <;>
            simp only [hawait] <;> rfl
  | http =>
      simp only [Transport.new, Transport.connect, Connected.map, HttpTransport.connect]
      cases (net.http (cfg.getEndpoint .http)).result with
      | error e => rfl
      | ok response => cases hok : response.success <;> simp only [hok] <;> rfl

/-! ## Which protocol the chain settles on -/

namespace FallbackChain

theorem protocol_of_mem_dialsOf {τ : Type} {chain : FallbackChain}
    {out : String → Protocol → Dialled τ} {cfg : Config} {p : Protocol} {d : Dial}
    (h : d ∈ chain.dialsOf out cfg p) : d.protocol = p := by
  unfold dialsOf at h
  rcases List.mem_cons.mp h with rfl | h
  · rfl
  · split at h
    · obtain ⟨e, -, rfl⟩ := List.mem_map.mp h
      rfl
    · simp at h

theorem protocol_mem_of_mem_plan {τ : Type} {chain : FallbackChain}
    {out : String → Protocol → Dialled τ} {cfg : Config} {ps : List Protocol} {d : Dial}
    (h : d ∈ ps.flatMap (chain.dialsOf out cfg)) : d.protocol ∈ ps := by
  obtain ⟨p, hp, hd⟩ := List.mem_flatMap.mp h
  rw [protocol_of_mem_dialsOf hd]
  exact hp

/-- QUIC is dialled first wherever it is dialled. -/
theorem eligible_of_mem_quic {cfg : Config} (h : .quic ∈ eligible cfg) :
    ∃ rest, eligible cfg = .quic :: rest ∧ .quic ∉ rest := by
  unfold eligible at h ⊢
  cases hpref : cfg.preferredProtocol with
  | some preferred =>
      simp only [hpref, List.mem_singleton] at h
      exact ⟨[], by rw [h], by simp⟩
  | none =>
      simp only [hpref, List.mem_filter] at h
      rw [List.filter_cons, if_pos h.2]
      exact ⟨_, rfl, by simp⟩

/-- QUIC can be had: it is eligible, and its endpoint or, after a connect
failure, its legacy endpoint answers in time. -/
def QuicReachable (chain : FallbackChain) (net : Network) (cfg : Config) : Prop :=
  .quic ∈ eligible cfg
    ∧ (chain.dialsOf net.dial cfg .quic).any (chain.succeeds net.dial) = true

/-- The chain settles on QUIC exactly when QUIC can be had. -/
theorem protocol_eq_quic_iff {chain : FallbackChain} {net : Network} {cfg : Config}
    {d : Dial} (hok : chain.succeeds net.dial d = true)
    (hlast : (Attempts.upToFirst (chain.succeeds net.dial)
      (chain.plan net.dial cfg)).getLast? = some d) :
    d.protocol = .quic ↔ chain.QuicReachable net cfg := by
  have hmem : d ∈ Attempts.upToFirst (chain.succeeds net.dial) (chain.plan net.dial cfg) :=
    List.mem_of_getLast? hlast
  unfold plan QuicReachable at *
  by_cases hel : .quic ∈ eligible cfg
  · obtain ⟨rest, heq, hrest⟩ := eligible_of_mem_quic hel
    rw [heq, List.flatMap_cons] at hmem
    cases hany : (chain.dialsOf net.dial cfg .quic).any (chain.succeeds net.dial) with
    | true =>
        rw [Attempts.upToFirst_append_of_any hany] at hmem
        have hd := (Attempts.upToFirst_prefix _).subset hmem
        exact iff_of_true (protocol_of_mem_dialsOf hd) ⟨hel, rfl⟩
    | false =>
        rw [Attempts.upToFirst_append_of_not_any hany] at hmem
        rcases List.mem_append.mp hmem with hd | hd
        · have hnot := List.any_eq_false.mp hany d hd
          exact absurd hok hnot
        · have hp := protocol_mem_of_mem_plan ((Attempts.upToFirst_prefix _).subset hd)
          refine iff_of_false (fun hq => hrest (hq ▸ hp)) ?_
          simp
  · have hp := protocol_mem_of_mem_plan ((Attempts.upToFirst_prefix _).subset hmem)
    exact iff_of_false (fun hq => hel (hq ▸ hp)) fun h => hel h.1

theorem outcome_dial_eq_ok {chain : FallbackChain} {net : Network} {d : Dial}
    {e : Established} (h : chain.outcome net.dial d = .ok e) :
    e = ⟨d.protocol, some d.endpoint, true⟩ := by
  have hdial := outcome_eq_ok h
  unfold Network.dial at hdial
  cases hfail : net.failure d.endpoint d.protocol with
  | error e' => rw [hfail] at hdial; cases hdial
  | ok u =>
      rw [hfail] at hdial
      exact (Except.ok.inj hdial).symm

/-- The transport the chain returns is connected, on an address of its
plan, and it is a QUIC transport exactly when QUIC can be had. -/
theorem connect_established {chain : FallbackChain} {net : Network}
    {selectBest : Except SdkError WorkerEndpoint} {cfg : Config} {t : Transport}
    (hcfg : cfg.selectedWorker ≠ none ∨ cfg.endpoint ≠ none)
    (h : (chain.connect (defaultConnector net) selectBest cfg).result = .ok t) :
    t.isConnected = true
      ∧ (∃ d ∈ chain.plan net.dial cfg, t.establishedOn = some d.endpoint
        ∧ t.protocol = d.protocol)
      ∧ (t.protocol = .quic ↔ chain.QuicReachable net cfg) := by
  have hconn : (fun cfg p => (defaultConnector net cfg p).map Transport.established)
      = byEndpoint net.dial := by
    funext cfg p
    exact connect_new net cfg p
  have hmap := connect_map Transport.established (defaultConnector net) chain selectBest cfg
  rw [hconn] at hmap
  have hres : (chain.connect (byEndpoint net.dial) selectBest cfg).result
      = .ok t.established := by
    rw [hmap, Attempted.map, h]
    rfl
  have hplan := (@connect_follows _ chain net.dial selectBest cfg).2
  rw [hres, resolveConfig_of_configured hcfg, lastOutcome] at hplan
  cases hlast : (Attempts.upToFirst (chain.succeeds net.dial)
      (chain.plan net.dial cfg)).getLast? with
  | none => rw [hlast] at hplan; cases hplan
  | some d =>
      rw [hlast] at hplan
      have hd : t.established = ⟨d.protocol, some d.endpoint, true⟩ :=
        outcome_dial_eq_ok hplan.symm
      have hproto : t.protocol = d.protocol := congrArg Established.protocol hd
      refine ⟨congrArg Established.connected hd,
        ⟨d, (Attempts.upToFirst_prefix _).subset (List.mem_of_getLast? hlast),
          congrArg Established.endpoint hd, hproto⟩, ?_⟩
      rw [hproto]
      exact protocol_eq_quic_iff (succeeds_eq_true.mpr ⟨_, hplan.symm⟩) hlast

end FallbackChain

/-! ## The second connect -/

theorem connect_of_quic (net : Network) {t : Transport} (cfg : Config)
    (hconn : t.isConnected = true) (hp : t.protocol = .quic) :
    (t.connect net cfg).dialled = []
      ∧ (∃ info, (t.connect net cfg).result = .ok info)
      ∧ (t.connect net cfg).transport = t := by
  cases t with
  | quic t =>
      unfold Transport.connect Connected.map
      dsimp only
      rw [QuicTransport.connect_of_connected hconn]
      exact ⟨rfl, ⟨_, rfl⟩, rfl⟩
  | grpc t => cases hp
  | webSocket t => cases hp
  | http t => cases hp

/-- Every other transport dials the primary endpoint of the configuration
it is given. -/
theorem dialled_connect_of_not_quic {net : Network} {t : Transport} {cfg : Config}
    (hp : t.protocol ≠ .quic) :
    (t.connect net cfg).dialled = [⟨t.protocol, cfg.getEndpoint t.protocol⟩] := by
  cases t with
  | quic t => exact absurd rfl hp
  | grpc t => exact t.dialled_connect net cfg
  | webSocket t => exact t.dialled_connect net cfg
  | http t => exact t.dialled_connect net cfg

/-- A `connect` that returns Ok leaves the transport connected. -/
theorem isConnected_connect {net : Network} {t : Transport} {cfg : Config}
    {info : ConnectionInfo} (h : (t.connect net cfg).result = .ok info) :
    (t.connect net cfg).transport.isConnected = true := by
  cases t with
  | quic t => exact QuicTransport.isConnected_connect h
  | grpc t => exact GrpcTransport.isConnected_connect h
  | webSocket t => exact WebSocketTransport.isConnected_connect h
  | http t => exact HttpTransport.isConnected_connect h

theorem SlipstreamClient.isConnected_of_connect {net : Network}
    {selectBest : Except SdkError WorkerEndpoint} {cfg : Config} {t : Transport}
    {info : ConnectionInfo}
    (h : (SlipstreamClient.connect net selectBest cfg).result = .ok (t, info)) :
    t.isConnected = true := by
  unfold SlipstreamClient.connect establish at h
  split at h
  · cases h
  · dsimp only at h
    split at h
    · cases h
    · rename_i transport _
      obtain ⟨info', hres, heq⟩ := map_eq_ok_iff.mp h
      obtain ⟨rfl, -⟩ := Prod.mk.inj heq
      exact isConnected_connect hres

theorem keeps_connect_iff (net : Network) {t : Transport} (cfg : Config)
    (hconn : t.isConnected = true) :
    ((∃ info, (t.connect net cfg).result = .ok info)
        ∧ (t.connect net cfg).transport.established = t.established
        ∧ (t.connect net cfg).dialled = [])
      ↔ t.protocol = .quic := by
  constructor
  · rintro ⟨-, -, hdialled⟩
    by_contra hp
    rw [dialled_connect_of_not_quic hp] at hdialled
    cases hdialled
  · intro hp
    obtain ⟨hdialled, hres, ht⟩ := connect_of_quic net cfg hconn hp
    exact ⟨hres, by rw [ht], hdialled⟩

/-- The chain's transport and the one kept are on the same connection,
and nothing was dialled after the chain. -/
def Keeps (chained kept : Attempted Transport) : Prop :=
  ∃ t t', chained.result = .ok t ∧ kept.result = .ok t'
    ∧ t'.established = t.established
    ∧ kept.dialled = chained.dialled

/-- The chain of a configuration, with its own timeouts. -/
def chained (net : Network) (selectBest : Except SdkError WorkerEndpoint) (cfg : Config) :
    Attempted Transport :=
  (⟨cfg.protocolTimeouts⟩ : FallbackChain).connect (defaultConnector net) selectBest cfg

theorem establish_of_chained {net : Network} {selectBest : Except SdkError WorkerEndpoint}
    {cfg : Config} {t : Transport} (h : (chained net selectBest cfg).result = .ok t) :
    establish net selectBest cfg
      = ⟨(chained net selectBest cfg).dialled ++ (t.connect net cfg).dialled,
          (t.connect net cfg).result.map fun info => ((t.connect net cfg).transport, info)⟩ := by
  unfold chained at h
  unfold establish chained
  simp only [h]

theorem keeps_establish_iff {net : Network} {selectBest : Except SdkError WorkerEndpoint}
    {cfg : Config} {t : Transport} (hconn : t.isConnected = true)
    (h : (chained net selectBest cfg).result = .ok t) :
    Keeps (chained net selectBest cfg) ((establish net selectBest cfg).map Prod.fst)
      ↔ t.protocol = .quic := by
  rw [← keeps_connect_iff net cfg hconn, establish_of_chained h]
  unfold Keeps Attempted.map
  constructor
  · rintro ⟨t₀, t', h₀, hres, hest, hdialled⟩
    rw [h] at h₀
    obtain rfl := Except.ok.inj h₀
    obtain ⟨pair, hpair, ht⟩ := map_eq_ok_iff.mp hres
    obtain ⟨info, hinfo, rfl⟩ := map_eq_ok_iff.mp hpair
    have hkept : (t.connect net cfg).transport = t' := ht
    exact ⟨⟨info, hinfo⟩, by rw [hkept, hest], List.append_right_eq_self.mp hdialled⟩
  · rintro ⟨⟨info, hinfo⟩, hest, hdialled⟩
    refine ⟨t, (t.connect net cfg).transport, h, ?_, hest, ?_⟩
    · rw [hinfo]; rfl
    · rw [hdialled, List.append_nil]

/-- The client and the health monitor keep the connection the chain
established exactly when QUIC could be had. -/
theorem keepsEndpoint_iff {net : Network} {selectBest : Except SdkError WorkerEndpoint}
    {cfg : Config} {t : Transport}
    (hcfg : cfg.selectedWorker ≠ none ∨ cfg.endpoint ≠ none)
    (hvalid : cfg.validate = .ok ())
    (h : (chained net selectBest cfg).result = .ok t) :
    (Keeps (chained net selectBest cfg)
        ((SlipstreamClient.connect net selectBest cfg).map Prod.fst)
      ∧ Keeps (chained net selectBest cfg) (HealthMonitor.reconnect net selectBest cfg))
      ↔ (⟨cfg.protocolTimeouts⟩ : FallbackChain).QuicReachable net cfg := by
  have hclient : SlipstreamClient.connect net selectBest cfg
      = establish net selectBest cfg := by
    unfold SlipstreamClient.connect
    rw [hvalid]
  have hmonitor : HealthMonitor.reconnect net selectBest cfg
      = (establish net selectBest cfg).map Prod.fst := rfl
  obtain ⟨hconn, -, hquic⟩ := FallbackChain.connect_established hcfg h
  rw [hclient, hmonitor, and_self, keeps_establish_iff hconn h, hquic]

/-! ## A migration that QUIC survives and gRPC does not -/

def refused {α : Type} (_ : String) : Dialled α :=
  ⟨0, .error (.connection "connection refused")⟩

/-- Only the legacy QUIC port answers. -/
def quicMigration : Network where
  quic := fun e => if e = FallbackChain.legacyQuic then ⟨0, .ok "ok:sk_test_1"⟩ else refused e
  grpc := refused
  webSocket := refused
  http := refused
  uuid := fun _ _ => ""
  unixMillis := 0

def quicWorker : Config :=
  FallbackChain.configWithWorker FallbackChain.primaryQuic (some FallbackChain.legacyQuic)

theorem keepsEndpoint_quicMigration :
    Keeps (chained quicMigration (.error .notConnected) quicWorker)
      (HealthMonitor.reconnect quicMigration (.error .notConnected) quicWorker) := by
  have hcfg : quicWorker.selectedWorker ≠ none := by decide
  have hvalid : quicWorker.validate = .ok () := by decide
  have hchain : ∃ t, (chained quicMigration (.error .notConnected) quicWorker).result
      = .ok t := ⟨_, rfl⟩
  obtain ⟨t, ht⟩ := hchain
  have hquic : (⟨quicWorker.protocolTimeouts⟩ : FallbackChain).QuicReachable
      quicMigration quicWorker := ⟨by decide, by decide⟩
  exact ((keepsEndpoint_iff (.inl hcfg) hvalid ht).mpr hquic).2

/-- Only the legacy gRPC port answers. -/
def grpcMigration : Network where
  quic := refused
  grpc := fun e =>
    if e = "http://10.0.0.1:10000" then
      ⟨0, .ok ⟨true, "session-1", "us-east", 0, [], none⟩⟩
    else refused e
  webSocket := refused
  http := refused
  uuid := fun _ _ => ""
  unixMillis := 0

def grpcWorker : Config where
  apiKey := "sk_test_12345678"
  selectedWorker :=
    some ((WorkerEndpoint.withEndpoints "worker-1" "us-east" none
      (some "http://10.0.0.1:10002") none none).withLegacy none
      (some "http://10.0.0.1:10000") none)

/-- The chain connects on the legacy port; the client does not connect. -/
theorem grpcMigration_not_kept :
    (chained grpcMigration (.error .notConnected) grpcWorker).result.map
        Transport.established
        = .ok ⟨.grpc, some "http://10.0.0.1:10000", true⟩
      ∧ (SlipstreamClient.connect grpcMigration (.error .notConnected) grpcWorker).result
        = .error (.connection "connection refused")
      ∧ ¬ Keeps (chained grpcMigration (.error .notConnected) grpcWorker)
        ((SlipstreamClient.connect grpcMigration (.error .notConnected) grpcWorker).map
          Prod.fst) := by
  refine ⟨by decide, by decide, ?_⟩
  rintro ⟨t, t', -, hkept, -⟩
  cases hkept

end Slipstream
