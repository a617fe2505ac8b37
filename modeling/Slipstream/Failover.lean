import Slipstream.DiscoveryConnect
import Slipstream.StableSort

/-!
# Which workers a connect tries

`connectAny` goes through the workers of the chosen region until one can
be connected. `loopWorkers` is the loop with the workers it has tried,
and `loopWorkers_spec` says how it ends: at the first worker that can be
connected, or with all of them tried and the last one's error.

The order is that of a stable sort by what was measured
(`StableSort.pairwise_ahead`). A ping that is answered is answered
within the selector's timeout (`rttMs_le_measureWorkers`), so no
measured RTT meets the sentinel that ranks the workers without one.
-/

namespace Slipstream

namespace WorkerSelector

/-- A worker is found reachable only within the timeout. -/
theorem rttMs_le_pingWorker {endpoint : Option String} {timeout : Duration} {ping : Ping}
    (h : (pingWorker endpoint timeout ping).reachable = true) :
    (pingWorker endpoint timeout ping).rttMs.toNat ≤ timeout / 1000000 := by
  unfold pingWorker at h ⊢
  cases endpoint with
  | none => cases h
  | some endpoint =>
      dsimp only at h ⊢
      by_cases htime : timeout < ping.took
      · rw [if_pos htime] at h
        cases h
      · rw [if_neg htime] at h ⊢
        cases hhead : ping.head (healthUrl endpoint) with
        | none =>
            rw [hhead] at h
            cases h
        | some success =>
            have hle : ping.took / 1000000 ≤ timeout / 1000000 :=
              Nat.div_le_div_right (Nat.le_of_not_lt htime)
            dsimp only
            rw [UInt64.toNat_ofNat']
            exact (Nat.mod_le _ _).trans hle

theorem rttMs_le_measureWorkers {s : WorkerSelector}
    (hs : ∀ id m, s.latencies.lookup id = some m → m.reachable = true →
      m.rttMs.toNat ≤ s.pingTimeout / 1000000)
    (workers : List WorkerEndpoint) (pings : Pings) {id : String} {m : LatencyMeasurement}
    (hm : (s.measureWorkers workers pings).latencies.lookup id = some m)
    (hreach : m.reachable = true) : m.rttMs.toNat ≤ s.pingTimeout / 1000000 := by
  revert id m
  refine List.foldlRecOn (motive := fun latencies : Latencies =>
    ∀ {id : String} {m : LatencyMeasurement}, latencies.lookup id = some m →
      m.reachable = true → m.rttMs.toNat ≤ s.pingTimeout / 1000000)
    (pings.finish workers) _ (hs _ _) ?_
  rintro latencies hlat ⟨v, ping⟩ - id m hm hreach
  dsimp only at hm
  by_cases hid : id = v.id
  · rw [hid, AList.lookup_insert] at hm
    obtain rfl := Option.some.inj hm
    exact rttMs_le_pingWorker hreach
  · rw [AList.lookup_insert_ne hid] at hm
    exact hlat hm hreach

end WorkerSelector

namespace SlipstreamClient

/-! ## The order -/

/-- The RTT of a worker that was reached. -/
def measuredRtt (latencies : Latencies) (w : WorkerEndpoint) : Option UInt64 :=
  ((latencies.lookup w.id).filter fun m => m.reachable).map fun m => m.rttMs

/-- `v` was reached as fast as `w`, or `w` was not reached; between two
alike the discovery response decides. -/
structure Before (latencies : Latencies) (endpoints : List WorkerEndpoint)
    (v w : WorkerEndpoint) : Prop where
  rtt : ∀ rtt ∈ measuredRtt latencies w, ∃ rtt' ∈ measuredRtt latencies v, rtt' ≤ rtt
  tie : measuredRtt latencies v = measuredRtt latencies w →
    endpoints.idxOf v < endpoints.idxOf w

/-- What a worker is ranked by, as an order. -/
def Ranked (latencies : Latencies) (v w : WorkerEndpoint) : Prop :=
  rankOf latencies v ≤ rankOf latencies w

instance (latencies : Latencies) : DecidableRel (Ranked latencies) :=
  fun v w => inferInstanceAs (Decidable (rankOf latencies v ≤ rankOf latencies w))

instance (latencies : Latencies) : Std.Total (Ranked latencies) where
  total v w := Nat.le_total (rankOf latencies v).toNat (rankOf latencies w).toNat

instance (latencies : Latencies) : IsTrans WorkerEndpoint (Ranked latencies) where
  trans _ _ _ := Nat.le_trans

/-- With every measured RTT below the sentinel the sort leaves no worker
before one that was reached faster. -/
theorem before_of_ahead {latencies : Latencies} {endpoints : List WorkerEndpoint}
    (hlat : ∀ w, ∀ rtt ∈ measuredRtt latencies w, rtt.toNat < 0xFFFFFFFFFFFFFFFF)
    {v w : WorkerEndpoint} (h : StableSort.Ahead (Ranked latencies) endpoints v w) :
    Before latencies endpoints v w where
  rtt := by
    intro rtt hrtt
    have hrank : rankOf latencies w = rtt := by
      change (measuredRtt latencies w).getD _ = rtt
      rw [hrtt, Option.getD_some]
    have hle : (rankOf latencies v).toNat ≤ rtt.toNat := hrank ▸ h.1
    cases hv : measuredRtt latencies v with
    | some rtt' =>
        have hrank' : rankOf latencies v = rtt' := by
          change (measuredRtt latencies v).getD _ = rtt'
          rw [hv, Option.getD_some]
        exact ⟨rtt', rfl, hrank' ▸ hle⟩
    | none =>
        -- the sentinel is above every measured RTT
        have hrank' : rankOf latencies v = 0xFFFFFFFFFFFFFFFF := by
          change (measuredRtt latencies v).getD _ = _
          rw [hv, Option.getD_none]
        rw [hrank'] at hle
        exact absurd (hlat w rtt hrtt) (Nat.not_lt.mpr hle)
  tie := by
    intro heq
    refine h.2 (Nat.le_of_eq ?_)
    change ((measuredRtt latencies w).getD _).toNat = ((measuredRtt latencies v).getD _).toNat
    rw [heq]

/-- The endpoints of the region's healthy workers, as discovery has
them. -/
def regionEndpoints (response : DiscoveryResponse) (region : String) : List WorkerEndpoint :=
  (DiscoveryClient.workersForRegion response region).map DiscoveryClient.workerToEndpoint

/-- What the pings of a connect leave in its selector. -/
def connectLatencies (env : Surroundings) (response : DiscoveryResponse) (region : String) :
    Latencies :=
  (WorkerSelector.measureAll { workers := regionEndpoints response region }
    env.pings).latencies

theorem measuredRtt_lt {env : Surroundings} {response : DiscoveryResponse} {region : String}
    (w : WorkerEndpoint) {rtt : UInt64}
    (h : rtt ∈ measuredRtt (connectLatencies env response region) w) :
    rtt.toNat < 0xFFFFFFFFFFFFFFFF := by
  obtain ⟨m, hm, rfl⟩ := Option.map_eq_some_iff.mp h
  obtain ⟨hlookup, hreach⟩ := Option.filter_eq_some_iff.mp hm
  have hnone : ∀ id m, (∅ : Latencies).lookup id = some m → m.reachable = true →
      m.rttMs.toNat ≤ Duration.fromSecs 2 / 1000000 := by
    intro id m hm
    rw [AList.lookup_empty] at hm
    cases hm
  have hle := WorkerSelector.rttMs_le_measureWorkers
    (s := { workers := regionEndpoints response region }) hnone _ env.pings hlookup hreach
  have hbound : Duration.fromSecs 2 / 1000000 < 0xFFFFFFFFFFFFFFFF := by decide
  exact Nat.lt_of_le_of_lt hle hbound

theorem pairwise_before {env : Surroundings} {response : DiscoveryResponse} {region : String}
    (hnodup : (regionEndpoints response region).Nodup) :
    (rankedWorkers env response region).Pairwise
      (Before (connectLatencies env response region) (regionEndpoints response region)) :=
  (StableSort.pairwise_ahead (r := Ranked (connectLatencies env response region)) hnodup).imp
    fun h => before_of_ahead (fun w _ => measuredRtt_lt w) h

theorem perm_rankedWorkers (env : Surroundings) (response : DiscoveryResponse)
    (region : String) :
    (rankedWorkers env response region).Perm (regionEndpoints response region) :=
  List.perm_insertionSort _ _

/-! ## The loop -/

/-- The loop over the workers with those it has tried. -/
structure WorkerLoop where
  tried : List WorkerEndpoint
  result : Except SdkError SlipstreamClient

def loopWorkers (env : Surroundings) (cfg : Config) (region : String) :
    List WorkerEndpoint → Option SdkError → WorkerLoop
  | [], lastError =>
      { tried := []
        result :=
          .error (lastError.getD
            (.connection ("All workers in region '" ++ region ++ "' rejected connection"))) }
  | w :: ws, _ =>
      let config := workerConfig cfg region w
      match finishConnect config (establish env.net env.selectBest config) with
      | .ok client => ⟨[w], .ok client⟩
      | .error e =>
          let rest := loopWorkers env cfg region ws (some e)
          ⟨w :: rest.tried, rest.result⟩

section Loop

variable {env : Surroundings} {cfg : Config} {region : String}

theorem loopWorkers_result (ws : List WorkerEndpoint) :
    ∀ lastError : Option SdkError,
      (loopWorkers env cfg region ws lastError).result
        = tryWorkers env cfg region ws lastError := by
  induction ws with
  | nil => exact fun _ => rfl
  | cons w ws ih =>
      intro lastError
      rw [loopWorkers, tryWorkers]
      dsimp only
      cases finishConnect (workerConfig cfg region w)
          (establish env.net env.selectBest (workerConfig cfg region w)) with
      | ok client => rfl
      | error e => exact ih (some e)

/-- What the chain and the connect after it make of a worker. -/
def attemptWorker (env : Surroundings) (cfg : Config) (region : String)
    (w : WorkerEndpoint) : Except SdkError (Transport × ConnectionInfo) :=
  (establish env.net env.selectBest (workerConfig cfg region w)).result

/-- How the loop ends. -/
inductive LoopEnd (env : Surroundings) (cfg : Config) (region : String)
    (ws : List WorkerEndpoint) : WorkerLoop → Prop where
  | connected {pre post : List WorkerEndpoint} {w : WorkerEndpoint} {transport : Transport}
      {info : ConnectionInfo} (hws : ws = pre ++ w :: post)
      (hpre : ∀ v ∈ pre, ∃ e, attemptWorker env cfg region v = .error e)
      (hw : attemptWorker env cfg region w = .ok (transport, info)) :
      LoopEnd env cfg region ws
        ⟨pre ++ [w], .ok ⟨workerConfig cfg region w, transport, info⟩⟩
  | exhausted {pre : List WorkerEndpoint} {w : WorkerEndpoint} {e : SdkError}
      (hws : ws = pre ++ [w])
      (hpre : ∀ v ∈ pre, ∃ e, attemptWorker env cfg region v = .error e)
      (hw : attemptWorker env cfg region w = .error e) :
      LoopEnd env cfg region ws ⟨ws, .error e⟩

/-- One more worker that could not be connected, before all others. -/
theorem LoopEnd.cons {w : WorkerEndpoint} {ws : List WorkerEndpoint} {loop : WorkerLoop}
    (h : LoopEnd env cfg region ws loop) {e : SdkError}
    (hw : attemptWorker env cfg region w = .error e) :
    LoopEnd env cfg region (w :: ws) ⟨w :: loop.tried, loop.result⟩ := by
  cases h with
  | @connected pre post w' transport info hws hpre hok =>
      refine @LoopEnd.connected env cfg region (w :: ws) (w :: pre) post w' transport info
        (congrArg (List.cons w) hws) (fun v hv => ?_) hok
      rcases List.mem_cons.mp hv with rfl | hv
      · exact ⟨e, hw⟩
      · exact hpre v hv
  | @exhausted pre w' e' hws hpre herr =>
      refine @LoopEnd.exhausted env cfg region (w :: ws) (w :: pre) w' e'
        (congrArg (List.cons w) hws) (fun v hv => ?_) herr
      rcases List.mem_cons.mp hv with rfl | hv
      · exact ⟨e, hw⟩
      · exact hpre v hv

theorem loopEnd_of_ok {w : WorkerEndpoint} {established : Transport × ConnectionInfo}
    (hw : attemptWorker env cfg region w = .ok established) (ws : List WorkerEndpoint)
    (lastError : Option SdkError) :
    LoopEnd env cfg region (w :: ws) (loopWorkers env cfg region (w :: ws) lastError) := by
  have hend : LoopEnd env cfg region (w :: ws)
      ⟨[] ++ [w], .ok ⟨workerConfig cfg region w, established.1, established.2⟩⟩ :=
    .connected rfl (fun v hv => by cases hv) hw
  unfold attemptWorker at hw
  rw [loopWorkers]
  simp only [finishConnect, hw, Except.map]
  exact hend

theorem loopWorkers_of_error {w : WorkerEndpoint} {e : SdkError}
    (hw : attemptWorker env cfg region w = .error e) (ws : List WorkerEndpoint)
    (lastError : Option SdkError) :
    loopWorkers env cfg region (w :: ws) lastError
      = ⟨w :: (loopWorkers env cfg region ws (some e)).tried,
          (loopWorkers env cfg region ws (some e)).result⟩ := by
  unfold attemptWorker at hw
  rw [loopWorkers]
  simp only [finishConnect, hw, Except.map]

theorem loopWorkers_spec (w : WorkerEndpoint) (ws : List WorkerEndpoint) :
    ∀ lastError : Option SdkError,
      LoopEnd env cfg region (w :: ws) (loopWorkers env cfg region (w :: ws) lastError) := by
  induction ws generalizing w with
  | nil =>
      intro lastError
      cases hw : attemptWorker env cfg region w with
      | ok established => exact loopEnd_of_ok hw [] lastError
      | error e =>
          rw [loopWorkers_of_error hw]
          have hnone : ∀ v ∈ ([] : List WorkerEndpoint),
              ∃ e, attemptWorker env cfg region v = .error e := by
            intro v hv
            cases hv
          exact .exhausted rfl hnone hw
  | cons v ws ih =>
      intro lastError
      cases hw : attemptWorker env cfg region w with
      | ok established => exact loopEnd_of_ok hw (v :: ws) lastError
      | error e =>
          rw [loopWorkers_of_error hw]
          exact (ih v (some e)).cons hw

theorem loopEnd_loopWorkers {ws : List WorkerEndpoint} (hne : ws ≠ [])
    (lastError : Option SdkError) :
    LoopEnd env cfg region ws (loopWorkers env cfg region ws lastError) := by
  obtain ⟨w, ws, rfl⟩ := List.exists_cons_of_ne_nil hne
  exact loopWorkers_spec w ws lastError

end Loop

/-! ## Connecting through discovery -/

/-- What a connect through discovery does with the workers of the region
it has chosen. -/
structure FailsOver (env : Surroundings) (cfg : Config) (response : DiscoveryResponse)
    (region : String) (loop : WorkerLoop) : Prop where
  healthy : ∀ w ∈ loop.tried, ∃ worker ∈ response.workers,
    worker.region = region ∧ worker.healthy = true
      ∧ w = DiscoveryClient.workerToEndpoint worker
  once : (loop.tried.map fun w => w.id).Nodup
  order : loop.tried.Pairwise
    (Before (connectLatencies env response region) (regionEndpoints response region))
  /-- No worker is passed over. -/
  skipped : ∀ v ∈ loop.tried, ∀ w ∈ regionEndpoints response region, w ∉ loop.tried →
    Before (connectLatencies env response region) (regionEndpoints response region) v w
  connected : ∀ client, loop.result = .ok client →
    ∃ pre w, loop.tried = pre ++ [w]
      ∧ (∀ v ∈ pre, ∃ e, attemptWorker env cfg region v = .error e)
      ∧ attemptWorker env cfg region w = .ok (client.transport, client.connectionInfo)
      ∧ client.config.selectedWorker = some w ∧ client.config.region = some region
  failed : ∀ e, loop.result = .error e →
    (∀ w ∈ regionEndpoints response region, w ∈ loop.tried)
      ∧ (∀ v ∈ loop.tried, ∃ e, attemptWorker env cfg region v = .error e)
      ∧ ∃ w, loop.tried.getLast? = some w ∧ attemptWorker env cfg region w = .error e

section FailsOver

variable {env : Surroundings} {cfg : Config} {response : DiscoveryResponse} {region : String}

/-- The workers tried are those ranked first. -/
theorem LoopEnd.prefix {ws : List WorkerEndpoint} {loop : WorkerLoop}
    (h : LoopEnd env cfg region ws loop) : loop.tried <+: ws := by
  cases h with
  | @connected pre post w transport info hws hpre hw =>
      exact ⟨post, by rw [hws, List.append_assoc]; rfl⟩
  | exhausted => exact List.prefix_refl ws

theorem failsOver_of_loopEnd {loop : WorkerLoop}
    (hids : ((regionEndpoints response region).map fun w => w.id).Nodup)
    (h : LoopEnd env cfg region (rankedWorkers env response region) loop) :
    FailsOver env cfg response region loop := by
  have hperm := perm_rankedWorkers env response region
  have hbefore := @pairwise_before env _ _ (hids.of_map _)
  obtain ⟨post, hpost⟩ := h.prefix
  rw [← hpost] at hperm hbefore
  refine ⟨fun w hw => ?_, ?_, ?_, fun v hv w hw hnot => ?_, fun client hok => ?_,
    fun e herr => ?_⟩
  · obtain ⟨worker, hworker, rfl⟩ :=
      List.mem_map.mp (hperm.mem_iff.mp (List.mem_append_left _ hw))
    obtain ⟨hmem, hregion, hhealthy⟩ := DiscoveryClient.mem_workersForRegion.mp hworker
    exact ⟨worker, hmem, hregion, hhealthy, rfl⟩
  · have hall := (hperm.map fun w => w.id).nodup_iff.mpr hids
    rw [List.map_append] at hall
    exact (List.nodup_append.mp hall).1
  · exact (List.pairwise_append.mp hbefore).1
  · rcases List.mem_append.mp (hperm.mem_iff.mpr hw) with hw | hw
    · exact absurd hw hnot
    · exact (List.pairwise_append.mp hbefore).2.2 v hv w hw
  · cases h with
    | @connected pre post w transport info hws hpre hw =>
        obtain rfl := Except.ok.inj hok
        exact ⟨pre, w, rfl, hpre, hw, rfl, rfl⟩
    | exhausted => cases hok
  · cases h with
    | connected => cases herr
    | @exhausted pre w e' hws hpre hw =>
        obtain rfl := Except.error.inj herr
        refine ⟨fun w hw => (perm_rankedWorkers env response region).mem_iff.mpr hw, ?_, w, ?_,
          hw⟩
        · intro v hv
          rw [hws] at hv
          rcases List.mem_append.mp hv with hv | hv
          · exact hpre v hv
          · rw [List.mem_singleton.mp hv]
            exact ⟨_, hw⟩
        · rw [hws, List.getLast?_concat]

/-- A connect through discovery goes through the healthy workers of the
chosen region, the fastest first, to the first that can be connected. -/
theorem connectAny_failsOver (hendpoint : cfg.endpoint = none)
    (hworker : cfg.selectedWorker = none) (hvalid : cfg.validate = .ok ())
    (hdiscover : env.discover = .ok response)
    (hbest : DiscoveryClient.bestRegion response cfg.region = some region)
    (hhealthy : DiscoveryClient.workersForRegion response region ≠ [])
    (hids : ((DiscoveryClient.workersForRegion response region).map fun w => w.id).Nodup) :
    let loop := loopWorkers env cfg region (rankedWorkers env response region) none
    connectAny env cfg = loop.result ∧ FailsOver env cfg response region loop := by
  intro loop
  have hids' : ((regionEndpoints response region).map fun w => w.id).Nodup := by
    rw [regionEndpoints, List.map_map]
    exact hids
  constructor
  · have hconnect : connectAny env cfg = connectDiscovered env cfg response := by
      unfold connectAny
      rw [if_pos ⟨by rw [hendpoint]; rfl, by rw [hworker]; rfl⟩, hvalid, hdiscover]
    rw [hconnect, connectDiscovered, hbest]
    dsimp only
    rw [if_neg hhealthy, loopWorkers_result]
  · have hne : rankedWorkers env response region ≠ [] := by
      intro hnil
      have hperm := perm_rankedWorkers env response region
      rw [hnil] at hperm
      exact hhealthy (List.map_eq_nil_iff.mp hperm.nil_eq.symm)
    exact failsOver_of_loopEnd hids' (loopEnd_loopWorkers hne none)

/-- Two workers, of which the second answers pings faster and accepts no
connection. -/
def twoWorkers : DiscoveryResponse where
  workers :=
    [⟨"w1", "us-west", "203.0.113.10", { quic := 4433, http := some 9000 }, true⟩,
      ⟨"w2", "us-west", "203.0.113.20", { quic := 4433, http := some 9000 }, true⟩]
  recommendedRegion := some "us-west"

def onlyFirst : Surroundings where
  net :=
    { quic := fun e => if e = "203.0.113.10:4433" then ⟨0, .ok "ok:sk_test_1"⟩ else refused e
      grpc := refused
      webSocket := refused
      http := refused
      uuid := fun _ _ => ""
      unixMillis := 0 }
  discover := .ok twoWorkers
  pings := .inOrder fun w =>
    ⟨0, .fromMillis (if w.id = "w2" then 5 else 20), fun _ => some true⟩
  selectBest := .error .notConnected

/-- The faster worker is tried first, and the slower one connected. -/
theorem onlyFirst_failsOver :
    let loop := loopWorkers onlyFirst { apiKey := "sk_test" } "us-west"
      (rankedWorkers onlyFirst twoWorkers "us-west") none
    loop.tried.map (fun w => w.id) = ["w2", "w1"]
      ∧ connectAny onlyFirst { apiKey := "sk_test" } = loop.result
      ∧ FailsOver onlyFirst { apiKey := "sk_test" } twoWorkers "us-west" loop :=
  ⟨by decide, connectAny_failsOver rfl rfl rfl rfl rfl (by decide) (by decide)⟩

end FailsOver

end SlipstreamClient

end Slipstream
