import Slipstream.DiscoveryConnect
import Slipstream.Lts

/-!
# The region map

`MultiRegionClient` connects a client for a region on first use: it
selects one of the region's workers and connects with the worker's HTTP
endpoint as the explicit endpoint and the region as the preferred one. A
worker may have no HTTP endpoint. Then the client is connected through
discovery, which knows nothing of the selected worker and passes over a
region without healthy workers for the recommended one.

`sound_iff_findsRegion` says what keeps every client under the region of
the worker it is connected to: discovery is not asked, or it has a
healthy worker of the region and the one it leads to covers the preferred
protocol.
-/

namespace Slipstream

namespace RegionMap

/-! ## A region's client -/

/-- A client in the map, and the worker that had been selected for it. -/
structure RegionClient where
  client : SlipstreamClient
  selected : WorkerEndpoint

/-- Whose client it is: discovery puts a worker of its own into the
configuration. -/
def RegionClient.worker (c : RegionClient) : WorkerEndpoint :=
  c.client.config.selectedWorker.getD c.selected

/-- The client is a worker's of the region, and on one of its addresses. -/
structure RegionClient.InRegion (c : RegionClient) (region : String) : Prop where
  region : c.worker.region = region
  address : ∃ e, c.client.transport.establishedOn = some e ∧ c.worker.Advertises e

def regionConfig (config : Config) (region : String) (worker : WorkerEndpoint) : Config :=
  { config with endpoint := worker.http, region := some region }

def connectRegion (config : Config) (region : String) (worker : WorkerEndpoint)
    (env : Surroundings) : Except SdkError RegionClient :=
  (SlipstreamClient.connectAny env (regionConfig config region worker)).map fun client =>
    ⟨client, worker⟩

/-! ## The multi-region client -/

/-- A call of `ensure_region_connected` that has found no client. -/
inductive Task where
  | selecting (region : String)
  | connecting (region : String) (worker : WorkerEndpoint)

/-- `handed` are the transactions that have been handed over, each with
the region it was for. -/
structure State where
  selector : WorkerSelector
  regionClients : AList fun _ : String => RegionClient := ∅
  tasks : List Task := []
  handed : List (String × RegionClient) := []

inductive Action where
  | ensureRegionConnected (region : String)
  | select (i : Nat) (r : WorkerSelector.Readings)
  /-- Connecting depends on nothing that is shared, so it is one step with
  the insertion after it. -/
  | connect (i : Nat) (env : Surroundings)
  | submitToRegion (region : String)
  /-- The health monitor of a region's client has reconnected it, or tried
  to. -/
  | reconnect (region : String) (net : Network)
      (selectBest : Except SdkError WorkerEndpoint)
  /-- Other uses of the selector, which change its measurements only. -/
  | measured (latencies : Latencies)
  | disconnectAll

/-- `new` measures all workers and goes on to ensure the region of the
best one. -/
def new (workers : List WorkerEndpoint) (pings : Pings) (r : WorkerSelector.Readings) :
    Except SdkError State :=
  if workers = [] then .error (.config "No workers provided for multi-region client")
  else
    let measured := WorkerSelector.measureAll { workers := workers } pings
    let (selector, best) := measured.selectBest r
    best.map fun worker => { selector := selector, tasks := [.selecting worker.region] }

/-- The same with the workers that the discovery service knows of. -/
def connectWithConfig (discover : Except SdkError DiscoveryResponse) (pings : Pings)
    (r : WorkerSelector.Readings) : Except SdkError State :=
  match discover with
  | .error e => .error e
  | .ok response =>
      let workers := DiscoveryClient.toWorkerEndpoints response.workers
      if workers = [] then .error (.connection "No healthy workers found via discovery")
      else new workers pings r

def step (config : Config) (s : State) : Action → Option State
  | .ensureRegionConnected region =>
      match s.regionClients.lookup region with
      | some _ => some s
      | none => some { s with tasks := s.tasks ++ [.selecting region] }
  | .select i r =>
      match s.tasks[i]? with
      | some (.selecting region) =>
          match s.selector.selectBestInRegion region r with
          | (selector, .ok worker) =>
              some
                { s with
                  selector := selector
                  tasks := s.tasks.set i (.connecting region worker) }
          | (selector, .error _) =>
              some { s with selector := selector, tasks := s.tasks.eraseIdx i }
      | _ => none
  | .connect i env =>
      match s.tasks[i]? with
      | some (.connecting region worker) =>
          let s := { s with tasks := s.tasks.eraseIdx i }
          match connectRegion config region worker env with
          | .ok c => some { s with regionClients := s.regionClients.insert region c }
          | .error _ => some s
      | _ => none
  | .submitToRegion region =>
      (s.regionClients.lookup region).map fun c => { s with handed := (region, c) :: s.handed }
  | .reconnect region net selectBest =>
      match s.regionClients.lookup region with
      | some c =>
          match (HealthMonitor.reconnect net selectBest c.client.config).result with
          | .ok transport =>
              let c := { c with client := { c.client with transport := transport } }
              some { s with regionClients := s.regionClients.insert region c }
          | .error _ => some s
      | none => none
  | .measured latencies =>
      some { s with selector := { s.selector with latencies := latencies } }
  | .disconnectAll => some { s with regionClients := ∅ }

/-- What each action can do, in one place. -/
inductive Step (config : Config) (s : State) : Action → State → Prop where
  | found {region : String} : Step config s (.ensureRegionConnected region) s
  | missing {region : String} :
      Step config s (.ensureRegionConnected region)
        { s with tasks := s.tasks ++ [.selecting region] }
  | selected {i : Nat} {r : WorkerSelector.Readings} {region : String}
      {selector : WorkerSelector} {worker : WorkerEndpoint}
      (hsel : s.selector.selectBestInRegion region r = (selector, .ok worker)) :
      Step config s (.select i r)
        { s with selector := selector, tasks := s.tasks.set i (.connecting region worker) }
  | notSelected {i : Nat} {r : WorkerSelector.Readings} {region : String}
      {selector : WorkerSelector} {e : SdkError}
      (hsel : s.selector.selectBestInRegion region r = (selector, .error e)) :
      Step config s (.select i r)
        { s with selector := selector, tasks := s.tasks.eraseIdx i }
  | connected {i : Nat} {env : Surroundings} {region : String} {worker : WorkerEndpoint}
      {c : RegionClient} (hi : s.tasks[i]? = some (.connecting region worker))
      (hc : connectRegion config region worker env = .ok c) :
      Step config s (.connect i env)
        { s with
          tasks := s.tasks.eraseIdx i
          regionClients := s.regionClients.insert region c }
  | notConnected {i : Nat} {env : Surroundings} {region : String} {worker : WorkerEndpoint}
      {e : SdkError} (hi : s.tasks[i]? = some (.connecting region worker))
      (he : connectRegion config region worker env = .error e) :
      Step config s (.connect i env) { s with tasks := s.tasks.eraseIdx i }
  | submitted {region : String} {c : RegionClient}
      (hc : s.regionClients.lookup region = some c) :
      Step config s (.submitToRegion region) { s with handed := (region, c) :: s.handed }
  | reconnected {region : String} {net : Network}
      {selectBest : Except SdkError WorkerEndpoint} {c : RegionClient} {transport : Transport}
      (hc : s.regionClients.lookup region = some c)
      (ht : (HealthMonitor.reconnect net selectBest c.client.config).result = .ok transport) :
      Step config s (.reconnect region net selectBest)
        { s with
          regionClients := s.regionClients.insert region
            { c with client := { c.client with transport := transport } } }
  | notReconnected {region : String} {net : Network}
      {selectBest : Except SdkError WorkerEndpoint} :
      Step config s (.reconnect region net selectBest) s
  | measured {latencies : Latencies} :
      Step config s (.measured latencies)
        { s with selector := { s.selector with latencies := latencies } }
  | disconnectAll : Step config s .disconnectAll { s with regionClients := ∅ }

theorem step_cases {config : Config} {s t : State} {a : Action}
    (h : step config s a = some t) : Step config s a t := by
  cases a with
  | ensureRegionConnected region =>
      simp only [step] at h
      split at h
      · exact Option.some.inj h ▸ .found
      · exact Option.some.inj h ▸ .missing
  | select i r =>
      simp only [step] at h
      split at h
      · split at h
        · rename_i hsel
          exact Option.some.inj h ▸ .selected hsel
        · rename_i hsel
          exact Option.some.inj h ▸ .notSelected hsel
      · cases h
  | connect i env =>
      simp only [step] at h
      split at h
      · rename_i hi
        split at h
        · rename_i hc
          exact Option.some.inj h ▸ .connected hi hc
        · rename_i he
          exact Option.some.inj h ▸ .notConnected hi he
      · cases h
  | submitToRegion region =>
      obtain ⟨c, hc, rfl⟩ := Option.map_eq_some_iff.mp h
      exact .submitted hc
  | reconnect region net selectBest =>
      simp only [step] at h
      split at h
      · rename_i hc
        split at h
        · rename_i ht
          exact Option.some.inj h ▸ .reconnected hc ht
        · exact Option.some.inj h ▸ .notReconnected
      · cases h
  | measured latencies => exact Option.some.inj h ▸ .measured
  | disconnectAll => exact Option.some.inj h ▸ .disconnectAll

/-! ## Where a client is -/

/-- How a client of a region came about: with an explicit endpoint, that
of the region's worker, or through discovery. -/
inductive Origin (region : String) (c : RegionClient) : Prop where
  | endpoint {e : String} (hconfig : c.client.config.selectedWorker = none)
      (he : c.client.config.endpoint = some e) (hhttp : c.selected.http = some e)
      (hregion : c.selected.region = region)
  | discovered {w : WorkerEndpoint} (hconfig : c.client.config.selectedWorker = some w)
      (he : c.client.config.endpoint = none) (hquic : w.getEndpoint .quic ≠ none)

structure Settled (region : String) (c : RegionClient) : Prop where
  carries : c.client.config.Carries c.client.transport
  origin : Origin region c

theorem Origin.configured {region : String} {c : RegionClient} (h : Origin region c) :
    c.client.config.selectedWorker ≠ none ∨ c.client.config.endpoint ≠ none := by
  cases h with
  | endpoint _ he => exact .inr (by rw [he]; exact Option.some_ne_none _)
  | discovered hconfig => exact .inl (by rw [hconfig]; exact Option.some_ne_none _)

/-- What `InRegion` comes to on the configuration: the right region, and
a worker that covers the preferred protocol where there is a choice. -/
def RegionClient.Placed (c : RegionClient) (region : String) : Prop :=
  c.worker.region = region
    ∧ ∀ w ∈ c.client.config.selectedWorker,
      ∀ p ∈ c.client.config.preferredProtocol, w.Covers p

theorem Settled.inRegion_iff {region : String} {c : RegionClient} (h : Settled region c) :
    c.InRegion region ↔ c.Placed region := by
  cases h.origin with
  | @endpoint e hconfig he hhttp hregion =>
      have hworker : c.worker = c.selected := by
        rw [RegionClient.worker, hconfig, Option.getD_none]
      refine iff_of_true ⟨hworker ▸ hregion, e, ?_, ?_⟩ ⟨hworker ▸ hregion, ?_⟩
      · exact h.carries.establishedOn_of_endpoint hconfig he
      · exact ⟨.http, .inl (hworker ▸ hhttp)⟩
      · intro w hw
        rw [hconfig] at hw
        cases hw
  | @discovered w hconfig he hquic =>
      have hworker : c.worker = w := by
        rw [RegionClient.worker, hconfig, Option.getD_some]
      have hadv := h.carries.advertises_iff hconfig he hquic
      constructor
      · intro hin
        refine ⟨hin.region, fun w' hw' => ?_⟩
        rw [hconfig] at hw'
        obtain rfl := Option.some.inj hw'
        exact hadv.mp (hworker ▸ hin.address)
      · intro hplaced
        refine ⟨hplaced.1, ?_⟩
        rw [hworker]
        exact hadv.mpr (hplaced.2 w hconfig)

/-- A reconnect leaves a client where it is. -/
theorem Settled.reconnect {region : String} {c : RegionClient} (h : Settled region c)
    {net : Network} {selectBest : Except SdkError WorkerEndpoint} {transport : Transport}
    (ht : (HealthMonitor.reconnect net selectBest c.client.config).result = .ok transport) :
    Settled region { c with client := { c.client with transport := transport } } where
  carries := by
    obtain ⟨established, hres, rfl⟩ := map_eq_ok_iff.mp ht
    exact carries_establish h.origin.configured hres
  origin := by
    cases h.origin with
    | endpoint hconfig he hhttp hregion => exact .endpoint hconfig he hhttp hregion
    | discovered hconfig he hquic => exact .discovered hconfig he hquic

/-! ## What a connect finds -/

/-- Discovery is not asked, or it leads nowhere, or it has a healthy worker
of the region and leads to one that covers the preferred protocol. -/
def FindsRegion (config : Config) (region : String) (worker : WorkerEndpoint)
    (env : Surroundings) : Prop :=
  worker.http = none → config.validate = .ok () →
    ∀ response, env.discover = .ok response →
      ∀ w ∈ SlipstreamClient.firstConnectable env (regionConfig config region worker) response,
        DiscoveryClient.Serves response region ∧ ∀ p ∈ config.preferredProtocol, w.Covers p

section Connect

variable {config : Config} {region : String} {worker : WorkerEndpoint} {env : Surroundings}

theorem connectAny_of_http {e : String} (hhttp : worker.http = some e) :
    SlipstreamClient.connectAny env (regionConfig config region worker)
      = SlipstreamClient.finishConnect (regionConfig config region worker)
        (SlipstreamClient.connect env.net env.selectBest
          (regionConfig config region worker)) := by
  unfold SlipstreamClient.connectAny
  rw [if_neg]
  rintro ⟨hnone, -⟩
  rw [regionConfig, hhttp] at hnone
  cases hnone

theorem connectAny_of_no_http (hworker : config.selectedWorker = none)
    (hhttp : worker.http = none) :
    SlipstreamClient.connectAny env (regionConfig config region worker)
      = match config.validate with
        | .error e => .error e
        | .ok () =>
            match env.discover with
            | .error e => .error e
            | .ok response =>
                SlipstreamClient.connectDiscovered env (regionConfig config region worker)
                  response := by
  unfold SlipstreamClient.connectAny
  exact if_pos ⟨by rw [regionConfig, hhttp]; rfl, by rw [regionConfig, hworker]; rfl⟩

/-- With the endpoint of the region's worker the client is in the region. -/
theorem connectRegion_of_http (hworker : config.selectedWorker = none)
    (hregion : worker.region = region) {e : String} (hhttp : worker.http = some e)
    {c : RegionClient} (h : connectRegion config region worker env = .ok c) :
    Settled region c ∧ c.Placed region := by
  rw [connectRegion, connectAny_of_http hhttp] at h
  obtain ⟨client, hclient, rfl⟩ := map_eq_ok_iff.mp h
  obtain ⟨established, hres, rfl⟩ := map_eq_ok_iff.mp hclient
  have hest : (establish env.net env.selectBest
      (regionConfig config region worker)).result = .ok established := by
    unfold SlipstreamClient.connect at hres
    split at hres
    · cases hres
    · exact hres
  have hconfigured : (regionConfig config region worker).selectedWorker ≠ none
      ∨ (regionConfig config region worker).endpoint ≠ none :=
    .inr (by rw [regionConfig, hhttp]; exact Option.some_ne_none _)
  refine ⟨⟨carries_establish hconfigured hest, .endpoint hworker hhttp hhttp hregion⟩,
    ?_, fun w hw => ?_⟩
  · rw [RegionClient.worker, SlipstreamClient.config, regionConfig, hworker]
    exact hregion
  · rw [SlipstreamClient.config, regionConfig, hworker] at hw
    cases hw

/-- A client that discovery has led to. -/
theorem connectDiscovered_ok {response : DiscoveryResponse} {client : SlipstreamClient}
    (hhttp : worker.http = none)
    (h : SlipstreamClient.connectDiscovered env (regionConfig config region worker) response
      = .ok client) :
    ∃ w, SlipstreamClient.firstConnectable env (regionConfig config region worker) response
        = some w
      ∧ Settled region ⟨client, worker⟩
      ∧ (RegionClient.Placed ⟨client, worker⟩ region
        ↔ DiscoveryClient.Serves response region
          ∧ ∀ p ∈ config.preferredProtocol, w.Covers p) := by
  cases hfirst : SlipstreamClient.firstConnectable env (regionConfig config region worker)
      response with
  | none =>
      obtain ⟨e, he⟩ := SlipstreamClient.connectDiscovered_of_none hfirst
      rw [he] at h
      cases h
  | some w =>
      obtain ⟨hbest, hserves, hquic, transport, info, hres, hok⟩ :=
        SlipstreamClient.connectDiscovered_of_first hfirst
      obtain rfl := Except.ok.inj (hok.symm.trans h)
      have hconfigured : (SlipstreamClient.workerConfig (regionConfig config region worker)
          w.region w).selectedWorker ≠ none := Option.some_ne_none _
      refine ⟨w, rfl, ⟨carries_establish (.inl hconfigured) hres,
        .discovered rfl hhttp hquic⟩, ?_⟩
      have hregion : w.region = region ↔ DiscoveryClient.Serves response region :=
        DiscoveryClient.eq_preferred_iff hbest hserves
      unfold RegionClient.Placed
      refine and_congr hregion ?_
      constructor
      · exact fun hcovers => hcovers w rfl
      · intro hcovers w' hw'
        obtain rfl := Option.some.inj hw'
        exact hcovers

/-- What a connect for a region comes to. -/
theorem connectRegion_ok (hworker : config.selectedWorker = none)
    (hregion : worker.region = region) {c : RegionClient}
    (h : connectRegion config region worker env = .ok c) :
    Settled region c ∧ (c.Placed region ↔ FindsRegion config region worker env) := by
  cases hhttp : worker.http with
  | some e =>
      obtain ⟨hsettled, hplaced⟩ := connectRegion_of_http hworker hregion hhttp h
      refine ⟨hsettled, iff_of_true hplaced fun hnone => ?_⟩
      rw [hhttp] at hnone
      cases hnone
  | none =>
      rw [connectRegion, connectAny_of_no_http hworker hhttp] at h
      obtain ⟨client, hclient, rfl⟩ := map_eq_ok_iff.mp h
      cases hvalid : config.validate with
      | error err =>
          rw [hvalid] at hclient
          cases hclient
      | ok u =>
          cases hresponse : env.discover with
          | error err =>
              rw [hvalid, hresponse] at hclient
              cases hclient
          | ok response =>
              rw [hvalid, hresponse] at hclient
              obtain ⟨w, hfirst, hsettled, hplaced⟩ := connectDiscovered_ok hhttp hclient
              refine ⟨hsettled, hplaced.trans ?_⟩
              constructor
              · intro hfinds _ _ response' hresponse' w' hw'
                obtain rfl := Except.ok.inj (hresponse.symm.trans hresponse')
                obtain rfl := Option.some.inj (hfirst.symm.trans hw')
                exact hfinds
              · exact fun hfinds => hfinds hhttp hvalid response hresponse w hfirst

/-- Nothing is found wrong with a connect that fails. -/
theorem findsRegion_of_error (hworker : config.selectedWorker = none) {e : SdkError}
    (h : connectRegion config region worker env = .error e) :
    FindsRegion config region worker env := by
  intro hhttp hvalid response hresponse w hw
  obtain ⟨-, -, -, transport, info, -, hok⟩ := SlipstreamClient.connectDiscovered_of_first hw
  rw [connectRegion, connectAny_of_no_http hworker hhttp, hvalid, hresponse] at h
  dsimp only at h
  rw [hok] at h
  cases h

end Connect

/-! ## Runs -/

/-- Every client is under the region of its worker, and so is every client
that a transaction was handed to. -/
structure Sound (s : State) : Prop where
  stored : ∀ region c, s.regionClients.lookup region = some c → c.InRegion region
  handed : ∀ h ∈ s.handed, h.2.InRegion h.1

/-- Every connect finds the region. -/
def ConnectFinds (config : Config) (s : State) : Action → Prop
  | .connect i env =>
      match s.tasks[i]? with
      | some (.connecting region worker) => FindsRegion config region worker env
      | _ => True
  | _ => True

structure Inv (s : State) : Prop where
  clients : ∀ region c, s.regionClients.lookup region = some c → Settled region c
  tasks : ∀ region worker, .connecting region worker ∈ s.tasks → worker.region = region

theorem lookup_insert_cases {m : AList fun _ : String => RegionClient} {k r : String}
    {c d : RegionClient} (h : (m.insert k c).lookup r = some d) :
    r = k ∧ d = c ∨ m.lookup r = some d := by
  by_cases hr : r = k
  · rw [hr, AList.lookup_insert] at h
    exact .inl ⟨hr, (Option.some.inj h).symm⟩
  · rw [AList.lookup_insert_ne hr] at h
    exact .inr h

/-- A worker that is being connected to was so before, or has just been
selected. -/
theorem connecting_step {config : Config} {s t : State} {a : Action} {region : String}
    {worker : WorkerEndpoint} (hstep : step config s a = some t)
    (hmem : .connecting region worker ∈ t.tasks) :
    .connecting region worker ∈ s.tasks
      ∨ worker ∈ s.selector.workers ∧ worker.region = region := by
  cases step_cases hstep with
  | missing =>
      rcases List.mem_append.mp hmem with hmem | hmem
      · exact .inl hmem
      · cases List.mem_singleton.mp hmem
  | selected hsel =>
      rcases List.mem_or_eq_of_mem_set hmem with hmem | heq
      · exact .inl hmem
      · obtain ⟨rfl, rfl⟩ := Task.connecting.inj heq
        exact .inr (WorkerSelector.selectBestInRegion_ok hsel)
  | notSelected => exact .inl (List.mem_of_mem_eraseIdx hmem)
  | connected => exact .inl (List.mem_of_mem_eraseIdx hmem)
  | notConnected => exact .inl (List.mem_of_mem_eraseIdx hmem)
  | found => exact .inl hmem
  | submitted => exact .inl hmem
  | reconnected => exact .inl hmem
  | notReconnected => exact .inl hmem
  | measured => exact .inl hmem
  | disconnectAll => exact .inl hmem

/-- A client of the map was there before, has just been connected, or is
one that was there with the transport of a reconnect. -/
theorem clients_step {config : Config} {s t : State} {a : Action} {region : String}
    {d : RegionClient} (hstep : step config s a = some t)
    (hd : t.regionClients.lookup region = some d) :
    s.regionClients.lookup region = some d
      ∨ (∃ worker env, .connecting region worker ∈ s.tasks
        ∧ connectRegion config region worker env = .ok d)
      ∨ ∃ c net selectBest transport, s.regionClients.lookup region = some c
        ∧ (HealthMonitor.reconnect net selectBest c.client.config).result = .ok transport
        ∧ d = { c with client := { c.client with transport := transport } } := by
  cases step_cases hstep with
  | connected hi hc =>
      rcases lookup_insert_cases hd with ⟨rfl, rfl⟩ | hold
      · exact .inr (.inl ⟨_, _, List.mem_of_getElem? hi, hc⟩)
      · exact .inl hold
  | reconnected hc ht =>
      rcases lookup_insert_cases hd with ⟨rfl, rfl⟩ | hold
      · exact .inr (.inr ⟨_, _, _, _, hc, ht, rfl⟩)
      · exact .inl hold
  | disconnectAll =>
      rw [AList.lookup_empty] at hd
      cases hd
  | found => exact .inl hd
  | missing => exact .inl hd
  | selected => exact .inl hd
  | notSelected => exact .inl hd
  | notConnected => exact .inl hd
  | submitted => exact .inl hd
  | notReconnected => exact .inl hd
  | measured => exact .inl hd

theorem settled_step {config : Config} (hworker : config.selectedWorker = none) {s t : State}
    {a : Action} (h : Inv s) (hstep : step config s a = some t) {region : String}
    {d : RegionClient} (hd : t.regionClients.lookup region = some d) : Settled region d := by
  rcases clients_step hstep hd with hold | ⟨worker, env, hmem, hc⟩ | ⟨c, _, _, _, hc, ht, rfl⟩
  · exact h.clients region d hold
  · exact (connectRegion_ok hworker (h.tasks region worker hmem) hc).1
  · exact (h.clients region c hc).reconnect ht

theorem inv_step {config : Config} (hworker : config.selectedWorker = none) {s t : State}
    {a : Action} (h : Inv s) (hstep : step config s a = some t) : Inv t where
  clients := fun _ _ => settled_step hworker h hstep
  tasks := by
    intro region worker hmem
    rcases connecting_step hstep hmem with hold | ⟨-, hregion⟩
    · exact h.tasks region worker hold
    · exact hregion

/-- A step keeps the map sound exactly if its connect finds the region. -/
theorem sound_step {config : Config} (hworker : config.selectedWorker = none) {s t : State}
    {a : Action} (h : Inv s) (hs : Sound s) (hstep : step config s a = some t) :
    Sound t ↔ ConnectFinds config s a := by
  cases step_cases hstep with
  | found => exact iff_of_true hs trivial
  | missing => exact iff_of_true ⟨hs.stored, hs.handed⟩ trivial
  | selected => exact iff_of_true ⟨hs.stored, hs.handed⟩ trivial
  | notSelected => exact iff_of_true ⟨hs.stored, hs.handed⟩ trivial
  | @connected i env region worker c hi hc =>
      have hregion := h.tasks _ _ (List.mem_of_getElem? hi)
      obtain ⟨hsettled, hplaced⟩ := connectRegion_ok hworker hregion hc
      unfold ConnectFinds
      simp only [hi]
      rw [← hplaced, ← hsettled.inRegion_iff]
      constructor
      · exact fun ht => ht.stored region c (AList.lookup_insert ..)
      · intro hin
        refine ⟨fun r d hd => ?_, hs.handed⟩
        rcases lookup_insert_cases hd with ⟨rfl, rfl⟩ | hold
        · exact hin
        · exact hs.stored r d hold
  | notConnected hi he =>
      refine iff_of_true ⟨hs.stored, hs.handed⟩ ?_
      unfold ConnectFinds
      simp only [hi]
      exact findsRegion_of_error hworker he
  | submitted hc =>
      refine iff_of_true ⟨hs.stored, fun x hx => ?_⟩ trivial
      rcases List.mem_cons.mp hx with rfl | hx
      · exact hs.stored _ _ hc
      · exact hs.handed x hx
  | @reconnected region net selectBest c transport hc ht =>
      refine iff_of_true ⟨fun r d hd => ?_, hs.handed⟩ trivial
      rcases lookup_insert_cases hd with ⟨rfl, rfl⟩ | hold
      -- the configuration is the same, and so is the place
      · have hsettled := h.clients _ _ hc
        have hplaced : c.Placed _ := hsettled.inRegion_iff.mp (hs.stored _ _ hc)
        exact (hsettled.reconnect ht).inRegion_iff.mpr hplaced
      · exact hs.stored r d hold
  | notReconnected => exact iff_of_true hs trivial
  | measured => exact iff_of_true ⟨hs.stored, hs.handed⟩ trivial
  | disconnectAll =>
      refine iff_of_true ⟨fun r c hc => ?_, hs.handed⟩ trivial
      rw [AList.lookup_empty] at hc
      cases hc

theorem new_ok {workers : List WorkerEndpoint} {pings : Pings} {r : WorkerSelector.Readings}
    {s : State} (h : new workers pings r = .ok s) :
    ∃ selector region, s = { selector := selector, tasks := [.selecting region] }
      ∧ selector.workers = workers := by
  unfold new at h
  split at h
  · cases h
  · have hsame := WorkerSelector.workers_selectBest
      (WorkerSelector.measureAll { workers := workers } pings) r
    obtain ⟨worker, -, rfl⟩ := map_eq_ok_iff.mp h
    exact ⟨_, _, rfl, hsame⟩

/-- Either way the client comes from a list of workers. -/
theorem connectWithConfig_ok {discover : Except SdkError DiscoveryResponse} {pings : Pings}
    {r : WorkerSelector.Readings} {s : State} (h : connectWithConfig discover pings r = .ok s) :
    ∃ workers, new workers pings r = .ok s := by
  unfold connectWithConfig at h
  split at h
  · cases h
  · dsimp only at h
    split at h
    · cases h
    · exact ⟨_, h⟩

theorem inv_new {workers : List WorkerEndpoint} {pings : Pings} {r : WorkerSelector.Readings}
    {s : State} (h : new workers pings r = .ok s) : Inv s ∧ Sound s := by
  obtain ⟨selector, region, rfl, -⟩ := new_ok h
  refine ⟨⟨fun r c hc => ?_, fun r w hmem => ?_⟩, ⟨fun r c hc => ?_, fun x hx => ?_⟩⟩
  · rw [AList.lookup_empty] at hc
    cases hc
  · cases List.mem_singleton.mp hmem
  · rw [AList.lookup_empty] at hc
    cases hc
  · cases hx

/-- In a run of a multi-region client, built from a configuration without
a worker, each client is under the region of its worker exactly if every
connect finds the region it is for. -/
theorem sound_iff_findsRegion {config : Config} (hworker : config.selectedWorker = none)
    {workers : List WorkerEndpoint} {pings : Pings} {r : WorkerSelector.Readings} {s : State}
    (hnew : new workers pings r = .ok s) (as : List Action) :
    Lts.Along (step config) Sound s as
      ↔ Lts.Guarded (step config) (ConnectFinds config) s as :=
  Lts.along_iff_guarded (fun _ _ _ => inv_step hworker) (fun _ _ _ => sound_step hworker)
    (inv_new hnew).1 (inv_new hnew).2

/-! ## Workers with an HTTP endpoint -/

/-- What is selected is on the list. -/
structure Listed (workers : List WorkerEndpoint) (s : State) : Prop where
  selector : s.selector.workers = workers
  tasks : ∀ region worker, .connecting region worker ∈ s.tasks → worker ∈ workers

/-- A selection leaves the list of workers alone, and nothing else touches
it. -/
theorem workers_step {config : Config} {s t : State} {a : Action}
    (hstep : step config s a = some t) : t.selector.workers = s.selector.workers := by
  cases step_cases hstep with
  | @selected i r region selector worker hsel =>
      have hsame := s.selector.workers_selectBestInRegion region r
      rwa [hsel] at hsame
  | @notSelected i r region selector e hsel =>
      have hsame := s.selector.workers_selectBestInRegion region r
      rwa [hsel] at hsame
  | found => rfl
  | missing => rfl
  | connected => rfl
  | notConnected => rfl
  | submitted => rfl
  | reconnected => rfl
  | notReconnected => rfl
  | measured => rfl
  | disconnectAll => rfl

theorem listed_step {config : Config} {workers : List WorkerEndpoint} {s t : State}
    {a : Action} (h : Listed workers s) (hstep : step config s a = some t) :
    Listed workers t where
  selector := (workers_step hstep).trans h.selector
  tasks := by
    intro region worker hmem
    rcases connecting_step hstep hmem with hold | ⟨hlisted, -⟩
    · exact h.tasks region worker hold
    · exact h.selector ▸ hlisted

theorem listed_new {workers : List WorkerEndpoint} {pings : Pings}
    {r : WorkerSelector.Readings} {s : State} (h : new workers pings r = .ok s) :
    Listed workers s := by
  obtain ⟨selector, region, rfl, hworkers⟩ := new_ok h
  exact ⟨hworkers, fun r w hmem => by cases List.mem_singleton.mp hmem⟩

/-- Discovery is never asked if every worker has an HTTP endpoint. -/
theorem connectFinds_of_http {config : Config} {workers : List WorkerEndpoint}
    (hhttp : ∀ w ∈ workers, w.http ≠ none) {s : State} (hs : Listed workers s)
    (as : List Action) : Lts.Guarded (step config) (ConnectFinds config) s as := by
  refine Lts.guarded_of_inv (fun _ _ _ => listed_step) (fun s a t hs _ => ?_) hs
  cases a with
  | connect i env =>
      simp only [ConnectFinds]
      split
      · rename_i hi
        exact fun hnone => absurd hnone (hhttp _ (hs.tasks _ _ (List.mem_of_getElem? hi)))
      · trivial
  | ensureRegionConnected region => trivial
  | select i r => trivial
  | submitToRegion region => trivial
  | reconnect region net selectBest => trivial
  | measured latencies => trivial
  | disconnectAll => trivial

/-! ## A region that discovery passes over -/

def accepting : Network where
  quic := fun _ => ⟨0, .ok "ok:sk_test_1"⟩
  grpc := refused
  webSocket := refused
  http := refused
  uuid := fun _ _ => ""
  unixMillis := 0

/-- No ping is answered. -/
def unanswered : Pings := .inOrder fun _ => ⟨0, 0, fun _ => none⟩

def atOnce : WorkerSelector.Readings := ⟨fun _ => 0, unanswered, fun _ => 0⟩

/-- Only a worker in `us-west` is healthy. -/
def onlyWest : Surroundings where
  net := accepting
  discover :=
    .ok
      { workers :=
          [⟨"w1", "us-west", "203.0.113.10", { quic := 4433 }, true⟩,
            ⟨"w2", "eu-central", "203.0.113.20", { quic := 4433 }, false⟩]
        recommendedRegion := some "us-west" }
  pings := unanswered
  selectBest := .error .notConnected

def keyOnly : Config := { apiKey := "sk_test_12345678" }

def west : WorkerEndpoint := .new "w1" "us-west" "203.0.113.10"

/-- With an HTTP endpoint the worker that was selected is the one that the
transaction is handed to. -/
theorem west_in_west :
    ∃ s, new [west] unanswered atOnce = .ok s
      ∧ Lts.Along (step keyOnly) Sound s
        [.select 0 atOnce, .connect 0 onlyWest, .submitToRegion "us-west"]
      ∧ (Lts.run (step keyOnly) s
          [.select 0 atOnce, .connect 0 onlyWest, .submitToRegion "us-west"]).map
          (fun t => t.handed.map fun h => h.2.client.transport.establishedOn)
        = some [some "http://203.0.113.10:9000"] := by
  have hnew : new [west] unanswered atOnce = .ok _ := rfl
  have hhttp : ∀ w ∈ [west], w.http ≠ none := by
    intro w hw
    rw [List.mem_singleton.mp hw]
    decide
  refine ⟨_, hnew, ?_, by decide⟩
  exact (sound_iff_findsRegion rfl hnew _).mpr
    (connectFinds_of_http hhttp (listed_new hnew) _)

/-- The client for `eu-central` is connected to a worker in `us-west`, and
handed a transaction. -/
theorem central_in_west :
    ∃ s, new [.withEndpoints "w2" "eu-central" (some "203.0.113.20:4433") none none none]
        unanswered atOnce = .ok s
      ∧ ¬ Lts.Along (step keyOnly) Sound s
        [.select 0 atOnce, .connect 0 onlyWest, .submitToRegion "eu-central"] := by
  refine ⟨_, rfl, fun h => ?_⟩
  have hlast := h _ _ (List.prefix_refl _) rfl
  have hregion := (hlast.handed _ List.mem_cons_self).region
  revert hregion
  decide

end RegionMap

end Slipstream
