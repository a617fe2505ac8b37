import Slipstream.DiscoveryConnect

/-!
# What a reused QUIC connection reports

The chain connects a transport and drops what `connect` returned; the
client keeps what the second `connect` returns. `reported` is the chain
with the first result kept (`chained_eq`).

For QUIC the second call finds the transport connected and answers from
the session it has stored, but with the region of the configuration: the
region the server has named in its authentication reply is not stored
anywhere. So the client reports the connection as it was reported first
exactly if the server named no other region (`reportsFirst_iff`).
-/

namespace Slipstream

/-! ## What the chain returns -/

namespace FallbackChain

section Results

variable {τ : Type} {connector : Connector τ} {x : τ}

theorem result_attempt {cfg : Config} {p : Protocol} {timeout : Duration}
    (h : (attempt connector cfg p timeout).result = .ok x) :
    (connector cfg p).result = .ok x := by
  unfold attempt at h
  dsimp only at h
  split at h
  · cases h
  · exact h

theorem region_withLegacyEndpoint {cfg legacy : Config} {p : Protocol}
    (h : cfg.withLegacyEndpoint p = some legacy) : legacy.region = cfg.region := by
  unfold Config.withLegacyEndpoint at h
  obtain ⟨worker, -, h⟩ := Option.bind_eq_some_iff.mp h
  obtain ⟨address, -, h⟩ := Option.bind_eq_some_iff.mp h
  split at h
  · cases h
  · obtain rfl := Option.some.inj h
    rfl

theorem region_resolveConfig (selectBest : Except SdkError WorkerEndpoint) (cfg : Config) :
    (resolveConfig selectBest cfg).region = cfg.region := by
  unfold resolveConfig
  split
  · cases selectBest with
    | ok worker => rfl
    | error e => rfl
  · rfl

/-- The connector has returned it, for a configuration with the region. -/
def ReturnedIn (connector : Connector τ) (region : Option String) (x : τ) : Prop :=
  ∃ cfg p, cfg.region = region ∧ (connector cfg p).result = .ok x

theorem returnedIn_tryProtocolWith {chain : FallbackChain} {cfg : Config} {p : Protocol}
    (h : (chain.tryProtocolWith connector cfg p).result = .ok x) :
    ReturnedIn connector cfg.region x := by
  unfold tryProtocolWith at h
  dsimp only at h
  split at h
  · exact ⟨cfg, p, rfl, result_attempt h⟩
  · rename_i e herror
    split at h
    · split at h
      · rename_i legacy hlegacy
        exact ⟨legacy, p, region_withLegacyEndpoint hlegacy, result_attempt h⟩
      · rw [herror] at h
        cases h
    · rw [herror] at h
      cases h

theorem returnedIn_tryInOrder {chain : FallbackChain} {cfg : Config} (ps : List Protocol) :
    ∀ {lastError : Option SdkError},
      (chain.tryInOrder connector cfg ps lastError).result = .ok x →
        ReturnedIn connector cfg.region x := by
  induction ps with
  | nil => intro lastError h; cases h
  | cons p ps ih =>
      intro lastError h
      unfold tryInOrder at h
      split at h
      · exact ih h
      · dsimp only at h
        split at h
        · exact returnedIn_tryProtocolWith h
        · exact ih h

theorem returnedIn_connect {chain : FallbackChain}
    {selectBest : Except SdkError WorkerEndpoint} {cfg : Config}
    (h : (chain.connect connector selectBest cfg).result = .ok x) :
    ReturnedIn connector cfg.region x := by
  unfold connect at h
  rw [← region_resolveConfig selectBest cfg]
  dsimp only at h
  split at h
  · exact returnedIn_tryProtocolWith h
  · exact returnedIn_tryInOrder _ h

end Results

end FallbackChain

/-! ## The first call -/

/-- Instantiates and connects the transport, and keeps what `connect`
returned. -/
def reportingConnector (net : Network) : Connector (Transport × ConnectionInfo) := fun cfg p =>
  let c := (Transport.new p).connect net cfg
  { took := c.took
    result := c.result.map fun info => (c.transport, info) }

def reported (net : Network) (selectBest : Except SdkError WorkerEndpoint) (cfg : Config) :
    Attempted (Transport × ConnectionInfo) :=
  (⟨cfg.protocolTimeouts⟩ : FallbackChain).connect (reportingConnector net) selectBest cfg

/-- The production chain is the reporting one without the reports. -/
theorem chained_eq (net : Network) (selectBest : Except SdkError WorkerEndpoint)
    (cfg : Config) : chained net selectBest cfg = (reported net selectBest cfg).map Prod.fst := by
  have hconnector : (fun cfg p => (reportingConnector net cfg p).map Prod.fst)
      = defaultConnector net := by
    funext cfg p
    unfold reportingConnector defaultConnector Dialled.map
    dsimp only
    cases ((Transport.new p).connect net cfg).result with
    | ok info => rfl
    | error e => rfl
  unfold chained reported
  rw [← hconnector, FallbackChain.connect_map]

/-- The region in an accepted authentication reply. -/
def serverRegion (authResult : String) : Option String :=
  (QuicTransport.parseAuthResult "" authResult).2

theorem snd_parseAuthResult (uuid authResult : String) :
    (QuicTransport.parseAuthResult uuid authResult).2 = serverRegion authResult := by
  unfold serverRegion QuicTransport.parseAuthResult
  split
  · rfl
  · rfl

/-- A QUIC transport after its first `connect`, which returned `first`
on the reply `authResult`. -/
structure QuicTransport.Authenticated (net : Network) (t : QuicTransport)
    (first : ConnectionInfo) (authResult : String) : Prop where
  connected : t.isConnected = true
  sessionId : t.sessionId = some first.sessionId
  reply : ∃ endpoint, t.connection = some endpoint
    ∧ (net.quic endpoint).result = .ok authResult

theorem QuicTransport.authenticated_connect {net : Network} {cfg : Config}
    {first : ConnectionInfo}
    (h : (QuicTransport.connect net {} cfg).result = .ok first) :
    ∃ authResult, (QuicTransport.connect net {} cfg).transport.Authenticated net first authResult
      ∧ first.region = (serverRegion authResult).or cfg.region := by
  unfold QuicTransport.connect at h ⊢
  rw [if_neg (by decide)] at h ⊢
  dsimp only at h ⊢
  cases hanswer : (net.quic (cfg.getEndpoint .quic)).result with
  | error e =>
      rw [hanswer] at h
      cases h
  | ok authResult =>
      rw [hanswer] at h
      obtain rfl := Except.ok.inj h
      refine ⟨authResult, ⟨rfl, rfl, _, rfl, hanswer⟩, ?_⟩
      rw [← snd_parseAuthResult]
      rfl

theorem authenticated_of_reported {net : Network}
    {selectBest : Except SdkError WorkerEndpoint} {cfg : Config} {t : QuicTransport}
    {first : ConnectionInfo} (h : (reported net selectBest cfg).result = .ok (.quic t, first)) :
    ∃ authResult, t.Authenticated net first authResult
      ∧ first.region = (serverRegion authResult).or cfg.region := by
  obtain ⟨cfg', p, hregion, hresult⟩ := FallbackChain.returnedIn_connect h
  obtain ⟨info, hinfo, heq⟩ := map_eq_ok_iff.mp hresult
  obtain ⟨ht, rfl⟩ := Prod.mk.inj heq
  cases p with
  | quic =>
      obtain rfl := Transport.quic.inj ht
      rw [← hregion]
      exact QuicTransport.authenticated_connect hinfo
  | grpc => cases ht
  | webSocket => cases ht
  | http => cases ht

/-! ## The second call -/

theorem reported_of_establish {net : Network} {selectBest : Except SdkError WorkerEndpoint}
    {cfg : Config} {t : QuicTransport} {info : ConnectionInfo}
    (h : (establish net selectBest cfg).result = .ok (.quic t, info)) :
    ∃ first authResult, (reported net selectBest cfg).result = .ok (.quic t, first)
      ∧ t.Authenticated net first authResult
      ∧ first.region = (serverRegion authResult).or cfg.region
      ∧ info = QuicTransport.connectionInfo net (t.sessionId.getD "") cfg.region := by
  cases hchain : (chained net selectBest cfg).result with
  | error e =>
      unfold establish at h
      unfold chained at hchain
      simp only [hchain] at h
      cases h
  | ok chosen =>
      rw [establish_of_chained hchain] at h
      obtain ⟨info', hresult, heq⟩ := map_eq_ok_iff.mp h
      obtain ⟨htransport, rfl⟩ := Prod.mk.inj heq
      rw [chained_eq] at hchain
      obtain ⟨⟨t', first⟩, hreported, rfl⟩ := map_eq_ok_iff.mp hchain
      have hprotocol : t'.protocol = .quic := by
        rw [← Transport.protocol_connect net t' cfg, htransport]
        rfl
      cases t' with
      | quic t' =>
          obtain ⟨authResult, hauth, hregion⟩ := authenticated_of_reported hreported
          unfold Transport.connect Connected.map at htransport hresult
          dsimp only at htransport hresult
          rw [QuicTransport.connect_of_connected hauth.connected] at htransport hresult
          obtain rfl := Transport.quic.inj htransport
          exact ⟨first, authResult, hreported, hauth, hregion, (Except.ok.inj hresult).symm⟩
      | grpc t' => cases hprotocol
      | webSocket t' => cases hprotocol
      | http t' => cases hprotocol

namespace SlipstreamClient

theorem establish_of_finishConnect {net : Network}
    {selectBest : Except SdkError WorkerEndpoint} {cfg : Config} {client : SlipstreamClient}
    (h : finishConnect cfg (establish net selectBest cfg) = .ok client) :
    (establish net selectBest client.config).result
      = .ok (client.transport, client.connectionInfo) := by
  obtain ⟨⟨transport, info⟩, hresult, rfl⟩ := map_eq_ok_iff.mp h
  exact hresult

theorem establish_of_tryWorkers {env : Surroundings} {cfg : Config} {region : String}
    {client : SlipstreamClient} (ws : List WorkerEndpoint) :
    ∀ {lastError : Option SdkError}, tryWorkers env cfg region ws lastError = .ok client →
      (establish env.net env.selectBest client.config).result
        = .ok (client.transport, client.connectionInfo) := by
  induction ws with
  | nil => intro lastError h; cases h
  | cons w ws ih =>
      intro lastError h
      rw [tryWorkers] at h
      split at h
      · rename_i client' hfinish
        obtain rfl := Except.ok.inj h
        exact establish_of_finishConnect hfinish
      · exact ih h

/-- A client keeps what the second `connect` returned. -/
theorem establish_of_connectAny {env : Surroundings} {cfg : Config}
    {client : SlipstreamClient} (h : connectAny env cfg = .ok client) :
    (establish env.net env.selectBest client.config).result
      = .ok (client.transport, client.connectionInfo) := by
  unfold connectAny at h
  split at h
  · split at h
    · cases h
    · split at h
      · cases h
      · unfold connectDiscovered at h
        split at h
        · cases h
        · split at h
          · cases h
          · exact establish_of_tryWorkers _ h
  · unfold connect at h
    split at h
    · cases h
    · exact establish_of_finishConnect h

/-- The client reports the connection as it was reported first, in the
region the server names or else in that of the configuration. -/
structure ReportsFirst (client : SlipstreamClient) (first : ConnectionInfo)
    (serverRegion : Option String) : Prop where
  sessionId : client.connectionInfo.sessionId = first.sessionId
  region : client.connectionInfo.region = first.region
  server : client.connectionInfo.region = serverRegion.or client.config.region

theorem or_eq_right_iff {α : Type} {x y : Option α} : y = x.or y ↔ x = none ∨ x = y := by
  cases x with
  | none => exact iff_of_true rfl (.inl rfl)
  | some a =>
      rw [Option.some_or, eq_comm]
      constructor
      · exact .inr
      · rintro (hnone | heq)
        · cases hnone
        · exact heq

/-- A client on QUIC reports the connection as it was reported first
exactly if the server has named no region, or the configured one. -/
theorem reportsFirst_iff {env : Surroundings} {cfg : Config} {client : SlipstreamClient}
    {t : QuicTransport} (h : connectAny env cfg = .ok client)
    (hquic : client.transport = .quic t) :
    ∃ first authResult,
      (reported env.net env.selectBest client.config).result = .ok (.quic t, first)
        ∧ t.Authenticated env.net first authResult
        ∧ (client.ReportsFirst first (serverRegion authResult)
          ↔ serverRegion authResult = none
            ∨ serverRegion authResult = client.config.region) := by
  have hestablish := establish_of_connectAny h
  rw [hquic] at hestablish
  obtain ⟨first, authResult, hreported, hauth, hregion, hinfo⟩ :=
    reported_of_establish hestablish
  refine ⟨first, authResult, hreported, hauth, ?_⟩
  have hconfigured : client.connectionInfo.region = client.config.region := by
    rw [hinfo]
    rfl
  rw [← or_eq_right_iff]
  constructor
  · exact fun hreports => hconfigured.symm.trans hreports.server
  · intro heq
    refine ⟨?_, ?_, hconfigured.trans heq⟩
    · rw [hinfo, hauth.sessionId]
      rfl
    · rw [hconfigured, hregion]
      exact heq

/-- A server that accepts every QUIC connection with the message. -/
def accepting (authResult : String) : Surroundings where
  net :=
    { quic := fun _ => ⟨0, .ok authResult⟩
      grpc := refused
      webSocket := refused
      http := refused
      uuid := fun _ _ => ""
      unixMillis := 0 }
  discover := .error .notConnected
  pings := .inOrder fun _ => ⟨0, 0, fun _ => none⟩
  selectBest := .error .notConnected

def westConfig : Config where
  apiKey := "sk_live_12345678"
  endpoint := some "10.0.0.1:4433"
  region := some "us-west"

/-- The server does not name its region. -/
theorem prefixOnly_reportsFirst :
    ∃ client first, connectAny (accepting "ok:sk_live_12345678") westConfig = .ok client
      ∧ client.ReportsFirst first none := by
  have hclient : ∃ client t,
      connectAny (accepting "ok:sk_live_12345678") westConfig = .ok client
        ∧ client.transport = .quic t ∧ t.connection = some "10.0.0.1:4433" := by
    exact ⟨_, _, rfl, rfl, rfl⟩
  obtain ⟨client, t, hconnect, hquic, hconnection⟩ := hclient
  obtain ⟨first, authResult, -, hauth, hiff⟩ := reportsFirst_iff hconnect hquic
  obtain ⟨endpoint, -, hreply⟩ := hauth.reply
  obtain rfl := Except.ok.inj hreply
  have hnone : serverRegion "ok:sk_live_12345678" = none := by decide
  exact ⟨client, first, hconnect, hnone ▸ hiff.mpr (.inl hnone)⟩

/-- The server names another region: the first call returns it, and the
client keeps its own. -/
theorem otherRegion_not_reported :
    ∃ client first,
      connectAny (accepting "ok:sk_live_12345678:us-east") westConfig = .ok client
        ∧ (reported (accepting "ok:sk_live_12345678:us-east").net (.error .notConnected)
          westConfig).result = .ok (client.transport, first)
        ∧ client.connectionInfo.sessionId = first.sessionId
        ∧ first.region = some "us-east"
        ∧ client.connectionInfo.region = some "us-west"
        ∧ ¬ client.ReportsFirst first (serverRegion "ok:sk_live_12345678:us-east") := by
  refine ⟨_, _, rfl, rfl, rfl, rfl, rfl, fun h => ?_⟩
  have hregion := h.region
  revert hregion
  decide

end SlipstreamClient

end Slipstream
