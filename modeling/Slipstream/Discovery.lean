import Slipstream.Types

/-!
# Discovery

What the discovery service answers, as far as the client reads it, and
the choice of a region: the preferred one if it has a healthy worker,
else the one the service recommends.
-/

namespace Slipstream

/-- The ports a worker listens on. The legacy ones are there during a
port migration only. -/
structure WorkerPorts where
  quic : UInt16
  grpc : UInt16 := 10000
  ws : Option UInt16 := none
  http : Option UInt16 := none
  legacyQuic : Option UInt16 := none
  legacyGrpc : Option UInt16 := none
  legacyWs : Option UInt16 := none
deriving Repr, DecidableEq

structure DiscoveryWorker where
  id : String
  region : String
  ip : String
  ports : WorkerPorts
  healthy : Bool
deriving Repr, DecidableEq

structure DiscoveryResponse where
  workers : List DiscoveryWorker
  recommendedRegion : Option String
deriving Repr, DecidableEq

namespace DiscoveryClient

/-- The healthy workers of a region. -/
def workersForRegion (response : DiscoveryResponse) (region : String) :
    List DiscoveryWorker :=
  response.workers.filter fun w => decide (w.region = region) && w.healthy

/-- `preferred` if it has a healthy worker, else what the service
recommends. -/
def bestRegion (response : DiscoveryResponse) : Option String → Option String
  | some pref =>
      if response.workers.any fun w => decide (w.region = pref) && w.healthy then some pref
      else response.recommendedRegion
  | none => response.recommendedRegion

def authority (ip : String) (port : UInt16) : String := ip ++ ":" ++ toString port.toNat

/-- QUIC and gRPC always have a port. -/
def workerToEndpoint (worker : DiscoveryWorker) : WorkerEndpoint :=
  let http := fun port => "http://" ++ authority worker.ip port
  let ws := fun port => "ws://" ++ authority worker.ip port ++ "/ws"
  (WorkerEndpoint.withEndpoints worker.id worker.region
      (some (authority worker.ip worker.ports.quic)) (some (http worker.ports.grpc))
      (worker.ports.ws.map ws) (worker.ports.http.map http)).withLegacy
    (worker.ports.legacyQuic.map (authority worker.ip))
    (worker.ports.legacyGrpc.map http)
    (worker.ports.legacyWs.map ws)

def toWorkerEndpoints (workers : List DiscoveryWorker) : List WorkerEndpoint :=
  (workers.filter fun w => w.healthy).map workerToEndpoint

/-! ## The region of a choice -/

theorem mem_workersForRegion {response : DiscoveryResponse} {region : String}
    {w : DiscoveryWorker} :
    w ∈ workersForRegion response region
      ↔ w ∈ response.workers ∧ w.region = region ∧ w.healthy = true := by
  rw [workersForRegion, List.mem_filter, Bool.and_eq_true, decide_eq_true_eq]

/-- The region has a healthy worker. -/
def Serves (response : DiscoveryResponse) (region : String) : Prop :=
  ∃ w ∈ response.workers, w.region = region ∧ w.healthy = true

theorem serves_iff {response : DiscoveryResponse} {region : String} :
    Serves response region ↔ workersForRegion response region ≠ [] := by
  unfold Serves
  constructor
  · rintro ⟨w, hw, hregion⟩ hnil
    have hmem := mem_workersForRegion.mpr ⟨hw, hregion⟩
    rw [hnil] at hmem
    cases hmem
  · intro hne
    obtain ⟨w, hmem⟩ := List.exists_mem_of_ne_nil _ hne
    obtain ⟨hw, hregion⟩ := mem_workersForRegion.mp hmem
    exact ⟨w, hw, hregion⟩

/-- A preferred region is chosen if it has a healthy worker, and passed
over for the recommended one if it has none. -/
theorem bestRegion_some (response : DiscoveryResponse) (pref : String) :
    (Serves response pref ∧ bestRegion response (some pref) = some pref)
      ∨ (¬ Serves response pref
        ∧ bestRegion response (some pref) = response.recommendedRegion) := by
  have hany : (response.workers.any fun w => decide (w.region = pref) && w.healthy) = true
      ↔ Serves response pref := by
    rw [List.any_eq_true]
    unfold Serves
    simp only [Bool.and_eq_true, decide_eq_true_eq]
  by_cases hserves : Serves response pref
  · exact .inl ⟨hserves, if_pos (hany.mpr hserves)⟩
  · exact .inr ⟨hserves, if_neg fun h => hserves (hany.mp h)⟩

/-- The chosen region has a healthy worker exactly if the preferred or the
recommended one has. -/
theorem bestRegion_serves_iff (response : DiscoveryResponse) (preferred : Option String) :
    (∃ region, bestRegion response preferred = some region ∧ Serves response region)
      ↔ (∃ pref ∈ preferred, Serves response pref)
        ∨ ∃ region ∈ response.recommendedRegion, Serves response region := by
  cases preferred with
  | none =>
      constructor
      · rintro ⟨region, hbest, hserves⟩
        exact .inr ⟨region, hbest, hserves⟩
      · rintro (⟨pref, hpref, -⟩ | ⟨region, hrec, hserves⟩)
        · cases hpref
        · exact ⟨region, hrec, hserves⟩
  | some pref =>
      rcases bestRegion_some response pref with ⟨hpref, hbest⟩ | ⟨hpref, hbest⟩
      · exact iff_of_true ⟨pref, hbest, hpref⟩ (.inl ⟨pref, rfl, hpref⟩)
      · rw [hbest]
        constructor
        · rintro ⟨region, hrec, hserves⟩
          exact .inr ⟨region, hrec, hserves⟩
        · rintro (⟨pref', hpref', hserves⟩ | ⟨region, hrec, hserves⟩)
          · rw [Option.some.inj hpref'] at hpref
            exact absurd hserves hpref
          · exact ⟨region, hrec, hserves⟩

/-- Where the chosen region has a healthy worker, it is the preferred one
exactly if that has a healthy worker. -/
theorem eq_preferred_iff {response : DiscoveryResponse} {pref region : String}
    (hbest : bestRegion response (some pref) = some region)
    (hserves : Serves response region) : region = pref ↔ Serves response pref := by
  rcases bestRegion_some response pref with ⟨hpref, hchosen⟩ | ⟨hpref, -⟩
  · rw [hbest] at hchosen
    exact iff_of_true (Option.some.inj hchosen) hpref
  · refine iff_of_false (fun heq => ?_) hpref
    rw [heq] at hserves
    exact hpref hserves

theorem quic_workerToEndpoint (w : DiscoveryWorker) :
    (workerToEndpoint w).getEndpoint .quic ≠ none := by
  simp [workerToEndpoint, WorkerEndpoint.withEndpoints, WorkerEndpoint.withLegacy,
    WorkerEndpoint.getEndpoint]

end DiscoveryClient

end Slipstream
