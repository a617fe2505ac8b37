import Mathlib.Data.List.Sort
import Slipstream.Connect
import Slipstream.Credentials
import Slipstream.Discovery
import Slipstream.Selector

/-!
# Connecting through discovery

`SlipstreamClient::connect` as a whole. A configuration with an endpoint
or a worker is connected as it is; with neither, the client asks the
discovery service, takes the workers of the best region, those that
answer a ping fastest first, and connects to the first it can.

A client is then on an address its configuration has
(`carries_establish`), and of a discovered worker that is one of the
worker's own exactly if the worker covers the preferred protocol
(`Config.Carries.advertises_iff`). It comes to no client without trying a
worker, although one is healthy, where neither the preferred nor the
recommended region has a healthy one (`healthy_found_iff`).
-/

namespace Slipstream

/-- A connected client, with what it keeps of the connection. -/
structure SlipstreamClient where
  config : Config
  transport : Transport
  connectionInfo : ConnectionInfo
deriving Repr, DecidableEq

/-- What a `connect` meets: the network, what the discovery service
answers, and what becomes of the pings. -/
structure Surroundings where
  net : Network
  discover : Except SdkError DiscoveryResponse
  pings : Pings
  selectBest : Except SdkError WorkerEndpoint

namespace SlipstreamClient

/-- The client keeps the configuration it was connected with. -/
def finishConnect (cfg : Config) (established : Attempted (Transport × ConnectionInfo)) :
    Except SdkError SlipstreamClient :=
  established.result.map fun (transport, info) => ⟨cfg, transport, info⟩

/-- What the workers are ranked by; unreachable and unmeasured ones come
last. -/
def rankOf (latencies : Latencies) (w : WorkerEndpoint) : UInt64 :=
  (((latencies.lookup w.id).filter fun m => m.reachable).map fun m => m.rttMs).getD
    0xFFFFFFFFFFFFFFFF

/-- A stable sort. -/
def rank (latencies : Latencies) (endpoints : List WorkerEndpoint) : List WorkerEndpoint :=
  endpoints.insertionSort fun v w => rankOf latencies v ≤ rankOf latencies w

/-- The healthy workers of a region in the order they are tried. -/
def rankedWorkers (env : Surroundings) (response : DiscoveryResponse) (region : String) :
    List WorkerEndpoint :=
  let endpoints :=
    (DiscoveryClient.workersForRegion response region).map DiscoveryClient.workerToEndpoint
  let selector : WorkerSelector := { workers := endpoints }
  rank (selector.measureAll env.pings).latencies endpoints

def workerConfig (cfg : Config) (region : String) (w : WorkerEndpoint) : Config :=
  { cfg with selectedWorker := some w, region := some region }

/-- The loop over the workers, with the last error so far. -/
def tryWorkers (env : Surroundings) (cfg : Config) (region : String) :
    List WorkerEndpoint → Option SdkError → Except SdkError SlipstreamClient
  | [], lastError =>
      .error (lastError.getD
        (.connection ("All workers in region '" ++ region ++ "' rejected connection")))
  | w :: ws, _ =>
      let config := workerConfig cfg region w
      match finishConnect config (establish env.net env.selectBest config) with
      | .ok client => .ok client
      | .error e => tryWorkers env cfg region ws (some e)

def connectDiscovered (env : Surroundings) (cfg : Config) (response : DiscoveryResponse) :
    Except SdkError SlipstreamClient :=
  match DiscoveryClient.bestRegion response cfg.region with
  | none => .error (.connection "No healthy workers found via discovery")
  | some region =>
      if DiscoveryClient.workersForRegion response region = [] then
        .error (.connection ("No healthy workers in region '" ++ region ++ "'"))
      else tryWorkers env cfg region (rankedWorkers env response region) none

/-- `SlipstreamClient::connect`. -/
def connectAny (env : Surroundings) (cfg : Config) : Except SdkError SlipstreamClient :=
  if cfg.endpoint.isNone ∧ cfg.selectedWorker.isNone then
    match cfg.validate with
    | .error e => .error e
    | .ok () =>
        match env.discover with
        | .error e => .error e
        | .ok response => connectDiscovered env cfg response
  else finishConnect cfg (connect env.net env.selectBest cfg)

/-! ## The worker the loop ends at -/

theorem mem_rankedWorkers {env : Surroundings} {response : DiscoveryResponse}
    {region : String} {w : WorkerEndpoint} (h : w ∈ rankedWorkers env response region) :
    w.region = region ∧ w.getEndpoint .quic ≠ none := by
  unfold rankedWorkers rank at h
  rw [List.mem_insertionSort, List.mem_map] at h
  obtain ⟨worker, hworker, rfl⟩ := h
  obtain ⟨-, hregion, -⟩ := DiscoveryClient.mem_workersForRegion.mp hworker
  exact ⟨hregion, DiscoveryClient.quic_workerToEndpoint worker⟩

/-- The worker can be connected, on this network. -/
def connectable (env : Surroundings) (cfg : Config) (region : String) (w : WorkerEndpoint) :
    Bool :=
  (establish env.net env.selectBest (workerConfig cfg region w)).result.isOk

theorem connectable_eq_true {env : Surroundings} {cfg : Config} {region : String}
    {w : WorkerEndpoint} :
    connectable env cfg region w = true
      ↔ ∃ established,
        (establish env.net env.selectBest (workerConfig cfg region w)).result
          = .ok established := by
  unfold connectable
  cases (establish env.net env.selectBest (workerConfig cfg region w)).result <;>
    simp [Except.isOk, Except.toBool]

section Loop

variable {env : Surroundings} {cfg : Config} {region : String} {w : WorkerEndpoint}
  {lastError : Option SdkError}

theorem tryWorkers_of_connectable (h : connectable env cfg region w = true)
    (ws : List WorkerEndpoint) :
    tryWorkers env cfg region (w :: ws) lastError
      = finishConnect (workerConfig cfg region w)
        (establish env.net env.selectBest (workerConfig cfg region w)) := by
  obtain ⟨established, hres⟩ := connectable_eq_true.mp h
  rw [tryWorkers]
  simp only [finishConnect, hres, Except.map]

theorem tryWorkers_of_not_connectable (h : connectable env cfg region w = false)
    (ws : List WorkerEndpoint) :
    ∃ e, tryWorkers env cfg region (w :: ws) lastError
      = tryWorkers env cfg region ws (some e) := by
  cases hres : (establish env.net env.selectBest (workerConfig cfg region w)).result with
  | ok established =>
      rw [connectable_eq_true.mpr ⟨established, hres⟩] at h
      cases h
  | error e =>
      refine ⟨e, ?_⟩
      rw [tryWorkers]
      simp only [finishConnect, hres, Except.map]

/-- The loop ends at the first worker that can be connected. -/
theorem tryWorkers_of_find (ws : List WorkerEndpoint) : ∀ {lastError : Option SdkError},
    ws.find? (connectable env cfg region) = some w →
      tryWorkers env cfg region ws lastError
        = finishConnect (workerConfig cfg region w)
          (establish env.net env.selectBest (workerConfig cfg region w)) := by
  induction ws with
  | nil => intro lastError h; cases h
  | cons v ws ih =>
      intro lastError h
      rw [List.find?_cons] at h
      cases hv : connectable env cfg region v with
      | true =>
          rw [hv] at h
          obtain rfl := Option.some.inj h
          exact tryWorkers_of_connectable hv ws
      | false =>
          rw [hv] at h
          obtain ⟨e, he⟩ := @tryWorkers_of_not_connectable _ _ _ _ lastError hv ws
          rw [he, ih h]

theorem tryWorkers_of_find_none (ws : List WorkerEndpoint) :
    ∀ {lastError : Option SdkError}, ws.find? (connectable env cfg region) = none →
      ∃ e, tryWorkers env cfg region ws lastError = .error e := by
  induction ws with
  | nil => exact fun _ => ⟨_, rfl⟩
  | cons v ws ih =>
      intro lastError h
      rw [List.find?_cons] at h
      cases hv : connectable env cfg region v with
      | true => rw [hv] at h; cases h
      | false =>
          rw [hv] at h
          obtain ⟨e, he⟩ := @tryWorkers_of_not_connectable _ _ _ _ lastError hv ws
          rw [he]
          exact ih h

end Loop

/-- The first worker discovery leads to that can be connected. -/
def firstConnectable (env : Surroundings) (cfg : Config) (response : DiscoveryResponse) :
    Option WorkerEndpoint :=
  (DiscoveryClient.bestRegion response cfg.region).bind fun region =>
    (rankedWorkers env response region).find? (connectable env cfg region)

section Discovered

variable {env : Surroundings} {cfg : Config} {response : DiscoveryResponse}
  {w : WorkerEndpoint}

theorem rankedWorkers_eq_nil {region : String}
    (h : DiscoveryClient.workersForRegion response region = []) :
    rankedWorkers env response region = [] := by
  simp [rankedWorkers, rank, h]

/-- Discovery ends in a client of the first worker that can be connected,
which is a worker of the best region. -/
theorem connectDiscovered_of_first (h : firstConnectable env cfg response = some w) :
    DiscoveryClient.bestRegion response cfg.region = some w.region
      ∧ DiscoveryClient.Serves response w.region
      ∧ w.getEndpoint .quic ≠ none
      ∧ ∃ transport info,
        (establish env.net env.selectBest (workerConfig cfg w.region w)).result
          = .ok (transport, info)
        ∧ connectDiscovered env cfg response
          = .ok ⟨workerConfig cfg w.region w, transport, info⟩ := by
  obtain ⟨region, hbest, hfind⟩ := Option.bind_eq_some_iff.mp h
  obtain ⟨rfl, hquic⟩ := mem_rankedWorkers (List.mem_of_find?_eq_some hfind)
  obtain ⟨established, hres⟩ := connectable_eq_true.mp (List.find?_some hfind)
  have hne : DiscoveryClient.workersForRegion response w.region ≠ [] := by
    intro hnil
    rw [rankedWorkers_eq_nil hnil] at hfind
    cases hfind
  refine ⟨hbest, DiscoveryClient.serves_iff.mpr hne, hquic, established.1, established.2, hres,
    ?_⟩
  unfold connectDiscovered
  simp only [hbest, if_neg hne, tryWorkers_of_find _ hfind, finishConnect, hres, Except.map]

theorem connectDiscovered_of_none (h : firstConnectable env cfg response = none) :
    ∃ e, connectDiscovered env cfg response = .error e := by
  unfold connectDiscovered
  cases hbest : DiscoveryClient.bestRegion response cfg.region with
  | none => exact ⟨_, rfl⟩
  | some region =>
      dsimp only
      by_cases hnil : DiscoveryClient.workersForRegion response region = []
      · rw [if_pos hnil]
        exact ⟨_, rfl⟩
      · rw [if_neg hnil]
        rw [firstConnectable, hbest, Option.bind_some] at h
        exact tryWorkers_of_find_none _ h

/-! ## Healthy workers -/

/-- Discovery chooses a region with a healthy worker, the preferred one if
it has one, and goes on to its workers. -/
structure FindsHealthy (env : Surroundings) (cfg : Config) (response : DiscoveryResponse) :
    Prop where
  best : ∃ region, DiscoveryClient.bestRegion response cfg.region = some region
    ∧ DiscoveryClient.workersForRegion response region ≠ []
    ∧ connectDiscovered env cfg response
      = tryWorkers env cfg region (rankedWorkers env response region) none
  preferred : ∀ pref ∈ cfg.region, DiscoveryClient.Serves response pref →
    DiscoveryClient.bestRegion response cfg.region = some pref

theorem findsHealthy_of_serves {region : String}
    (hbest : DiscoveryClient.bestRegion response cfg.region = some region)
    (hserves : DiscoveryClient.Serves response region) : FindsHealthy env cfg response := by
  have hne := DiscoveryClient.serves_iff.mp hserves
  refine ⟨⟨region, hbest, hne, ?_⟩, ?_⟩
  · unfold connectDiscovered
    simp only [hbest, if_neg hne]
  · intro pref hpref hpserves
    rw [hpref] at hbest ⊢
    rw [hbest, (DiscoveryClient.eq_preferred_iff hbest hserves).mpr hpserves]

theorem findsHealthy_iff_serves :
    FindsHealthy env cfg response
      ↔ ∃ region, DiscoveryClient.bestRegion response cfg.region = some region
        ∧ DiscoveryClient.Serves response region := by
  constructor
  · intro h
    obtain ⟨region, hbest, hne, -⟩ := h.best
    exact ⟨region, hbest, DiscoveryClient.serves_iff.mpr hne⟩
  · rintro ⟨region, hbest, hserves⟩
    exact findsHealthy_of_serves hbest hserves

/-- Discovery comes to a healthy worker where there is one exactly if the
preferred or the recommended region has one. -/
theorem healthy_found_iff (env : Surroundings) (cfg : Config) (response : DiscoveryResponse) :
    ((∃ w ∈ response.workers, w.healthy = true) → FindsHealthy env cfg response)
      ↔ (¬ ∃ w ∈ response.workers, w.healthy = true)
        ∨ (∃ pref ∈ cfg.region, DiscoveryClient.Serves response pref)
        ∨ ∃ region ∈ response.recommendedRegion, DiscoveryClient.Serves response region := by
  rw [findsHealthy_iff_serves, DiscoveryClient.bestRegion_serves_iff]
  exact imp_iff_not_or

/-- A healthy worker, and no region preferred or recommended. -/
def unrecommended : DiscoveryResponse where
  workers := [⟨"worker-1", "us-west", "10.0.0.1", { quic := 4433 }, true⟩]
  recommendedRegion := none

theorem unrecommended_not_found :
    (∃ w ∈ unrecommended.workers, w.healthy = true)
      ∧ ∀ env, connectDiscovered env { apiKey := "sk_test" } unrecommended
          = .error (.connection "No healthy workers found via discovery")
        ∧ ¬ FindsHealthy env { apiKey := "sk_test" } unrecommended := by
  refine ⟨⟨_, List.mem_singleton_self _, rfl⟩, fun env => ⟨rfl, fun h => ?_⟩⟩
  obtain ⟨region, hbest, -⟩ := h.best
  cases hbest

end Discovered

end SlipstreamClient

/-! ## The address a client is on -/

/-- The transport is on an address the configuration has for its
protocol. -/
structure Config.Carries (cfg : Config) (t : Transport) : Prop where
  eligible : t.protocol ∈ FallbackChain.eligible cfg
  endpoint : t.establishedOn = some (cfg.getEndpoint t.protocol)
    ∨ t.protocol = .quic ∧ cfg.legacyEndpoint .quic ≠ none
      ∧ t.establishedOn = cfg.legacyEndpoint .quic

/-- A transport that dials is then on the address it dialled. -/
theorem establishedOn_connect {net : Network} {t : Transport} {cfg : Config}
    {info : ConnectionInfo} (hp : t.protocol ≠ .quic)
    (h : (t.connect net cfg).result = .ok info) :
    (t.connect net cfg).transport.establishedOn = some (cfg.getEndpoint t.protocol) := by
  cases t with
  | quic t => exact absurd rfl hp
  | grpc t =>
      unfold Transport.connect Connected.map GrpcTransport.connect at h ⊢
      dsimp only at h ⊢
      split at h
      · cases h
      · split at h
        · cases h
        · rename_i hstatus
          rw [if_neg hstatus]
          rfl
  | webSocket t =>
      unfold Transport.connect Connected.map WebSocketTransport.connect at h ⊢
      dsimp only at h ⊢
      split at h
      · cases h
      · split at h
        · cases h
        · rfl
  | http t =>
      unfold Transport.connect Connected.map HttpTransport.connect at h ⊢
      dsimp only at h ⊢
      split at h
      · cases h
      · split at h
        · cases h
        · rename_i hsuccess
          rw [if_neg hsuccess]
          rfl

/-- A protocol's dials go to its endpoint and to its legacy endpoint. -/
theorem FallbackChain.endpoint_of_mem_plan {chain : FallbackChain} {net : Network}
    {cfg : Config} {d : Dial} (h : d ∈ chain.plan net.dial cfg) :
    d.protocol ∈ eligible cfg
      ∧ (d.endpoint = cfg.getEndpoint d.protocol
        ∨ cfg.legacyEndpoint d.protocol = some d.endpoint) := by
  refine ⟨protocol_mem_of_mem_plan h, ?_⟩
  obtain ⟨p, -, hd⟩ := List.mem_flatMap.mp h
  obtain rfl := protocol_of_mem_dialsOf hd
  rcases List.mem_cons.mp hd with heq | hd
  · exact .inl (congrArg Dial.endpoint heq)
  · split at hd
    · obtain ⟨e, he, heq⟩ := List.mem_map.mp hd
      rw [Option.mem_toList] at he
      exact .inr (by rw [he, ← heq])
    · cases hd

theorem carries_establish {net : Network} {selectBest : Except SdkError WorkerEndpoint}
    {cfg : Config} {t : Transport} {info : ConnectionInfo}
    (hcfg : cfg.selectedWorker ≠ none ∨ cfg.endpoint ≠ none)
    (h : (establish net selectBest cfg).result = .ok (t, info)) : cfg.Carries t := by
  cases hchain : (chained net selectBest cfg).result with
  | error e =>
      unfold establish at h
      unfold chained at hchain
      simp only [hchain] at h
      cases h
  | ok chosen =>
      rw [establish_of_chained hchain] at h
      obtain ⟨hconn, ⟨d, hd, hon, hproto⟩, -⟩ :=
        FallbackChain.connect_established hcfg hchain
      obtain ⟨hel, hend⟩ := FallbackChain.endpoint_of_mem_plan hd
      rw [← hproto] at hel hend
      obtain ⟨info', hres, heq⟩ := map_eq_ok_iff.mp h
      obtain ⟨rfl, -⟩ := Prod.mk.inj heq
      by_cases hquic : chosen.protocol = .quic
      -- the chain's own connection, which may be the legacy one
      · obtain ⟨-, -, hsame⟩ := connect_of_quic net cfg hconn hquic
        rw [hsame]
        refine ⟨hel, ?_⟩
        rw [hon]
        rcases hend with hprimary | hlegacy
        · exact .inl (congrArg some hprimary)
        · rw [hquic] at hlegacy
          exact .inr ⟨hquic, by rw [hlegacy]; exact Option.some_ne_none _, hlegacy.symm⟩
      · have hsame := Transport.protocol_connect net chosen cfg
        exact ⟨hsame ▸ hel, .inl (by rw [hsame]; exact establishedOn_connect hquic hres)⟩

namespace Config.Carries

variable {cfg : Config} {t : Transport}

/-- An explicit endpoint is the address, whatever the protocol. -/
theorem establishedOn_of_endpoint {endpoint : String} (h : cfg.Carries t)
    (hw : cfg.selectedWorker = none) (he : cfg.endpoint = some endpoint) :
    t.establishedOn = some endpoint := by
  rcases h.endpoint with hon | ⟨-, hlegacy, -⟩
  · rw [hon, getEndpoint, workerEndpoint, hw, Option.bind_none, he]
  · rw [legacyEndpoint, hw] at hlegacy
    exact absurd rfl hlegacy

/-- A worker's client is on an address of the worker exactly if the worker
covers the preferred protocol. -/
theorem advertises_iff {w : WorkerEndpoint} (h : cfg.Carries t)
    (hw : cfg.selectedWorker = some w) (he : cfg.endpoint = none)
    (hquic : w.getEndpoint .quic ≠ none) :
    (∃ e, t.establishedOn = some e ∧ w.Advertises e)
      ↔ ∀ p ∈ cfg.preferredProtocol, w.Covers p := by
  constructor
  · rintro ⟨e, hon, hadv⟩ p hp
    have hproto : t.protocol = p := by
      have hel := h.eligible
      rw [FallbackChain.eligible, hp] at hel
      exact List.mem_singleton.mp hel
    rcases h.endpoint with hprimary | ⟨hq, -⟩
    · rw [hon, hproto] at hprimary
      rw [Option.some.inj hprimary] at hadv
      exact (advertises_getEndpoint_iff hw he p).mp hadv
    · rw [← hproto, hq]
      exact .inl hquic
  · intro hcovers
    rcases h.endpoint with hprimary | ⟨-, hne, hlegacy⟩
    · refine ⟨_, hprimary, (advertises_getEndpoint_iff hw he _).mpr ?_⟩
      have hel := h.eligible
      cases hpref : cfg.preferredProtocol with
      | some p =>
          rw [FallbackChain.eligible, hpref] at hel
          rw [List.mem_singleton.mp hel]
          exact hcovers p hpref
      -- with no preference the chain skips what the worker lacks
      | none =>
          rw [FallbackChain.eligible, hpref] at hel
          have hskip := of_decide_eq_true (List.mem_filter.mp hel).2
          exact covers_of_not_skips hw (FallbackChain.skips_eq_false.mpr hskip)
    · obtain ⟨e, hsome⟩ := Option.ne_none_iff_exists'.mp hne
      exact ⟨e, hlegacy.trans hsome, advertises_legacyEndpoint hw hsome⟩

end Config.Carries

end Slipstream
