import Slipstream.FallbackChain

/-!
# Where the API key goes

The addresses a client with a selected worker talks to: what its
fallback chain dials, for any connector, and the base URL of its REST
calls, all but one of which send the API key. Both come from
`Config.getEndpoint`, which ends in a local default for a protocol the
worker has no endpoint for. The loop of the chain skips such a protocol;
the preferred protocol and the REST calls do not ask
(`toWorkerOnly_iff`).
-/

namespace Slipstream

/-! ## REST calls -/

inductive Method where
  | get
  | post
  | delete
deriving Repr, DecidableEq

/-- A REST call of the client, with what it puts into the URL. -/
inductive RestCall where
  | fetchInitialTip
  | getRoutingRecommendation
  | getRegions
  | getSenders
  | getBalance
  | getDepositAddress
  | getUsageHistory (limit offset : Option UInt32)
  | getDepositHistory (limit offset : Option UInt32)
  | getPendingDeposit
  | getFreeTierUsage
  | submitBundle
  | registerWebhook
  | getWebhook
  | deleteWebhook
  | getLandingRates (start stop : Option String)
  | getTransactionStatus (signature : String)
  | rpc
deriving Repr, DecidableEq

namespace RestCall

def method : RestCall → Method
  | .submitBundle | .registerWebhook | .rpc => .post
  | .deleteWebhook => .delete
  | _ => .get

/-- The parameters that are set, behind a question mark if there are
any. -/
def query (params : List (String × Option String)) : String :=
  let set := params.filterMap fun (name, value) => value.map fun v => name ++ "=" ++ v
  if set = [] then "" else "?" ++ String.intercalate "&" set

def page (limit offset : Option UInt32) : String :=
  query [("limit", limit.map fun n => toString n.toNat),
    ("offset", offset.map fun n => toString n.toNat)]

def path : RestCall → String
  | .fetchInitialTip => "/v1/tip-instructions"
  | .getRoutingRecommendation => "/v1/routing/recommendation"
  | .getRegions => "/v1/config/regions"
  | .getSenders => "/v1/config/senders"
  | .getBalance => "/v1/balance"
  | .getDepositAddress => "/v1/deposit-address"
  | .getUsageHistory limit offset => "/v1/usage-history" ++ page limit offset
  | .getDepositHistory limit offset => "/v1/deposit-history" ++ page limit offset
  | .getPendingDeposit => "/v1/deposit-pending"
  | .getFreeTierUsage => "/v1/free-tier-usage"
  | .submitBundle => "/v1/bundles/submit"
  | .registerWebhook | .getWebhook | .deleteWebhook => "/v1/webhooks"
  | .getLandingRates start stop =>
      "/v1/metrics/landing-rates" ++ query [("start", start), ("end", stop)]
  | .getTransactionStatus signature => "/v1/transactions/" ++ signature ++ "/status"
  | .rpc => "/v1/rpc"

/-- The regions are public. -/
def authorized : RestCall → Bool
  | .getRegions => false
  | _ => true

end RestCall

structure RestRequest where
  method : Method
  baseUrl : String
  path : String
  authorization : Option String
deriving Repr, DecidableEq

def SlipstreamClient.restRequest (cfg : Config) (call : RestCall) : RestRequest where
  method := call.method
  baseUrl := cfg.getEndpoint .http
  path := call.path
  authorization := if call.authorized then some ("Bearer " ++ cfg.apiKey) else none

/-! ## The worker's endpoints -/

/-- A primary or a legacy endpoint of the worker. -/
def WorkerEndpoint.Advertises (w : WorkerEndpoint) (endpoint : String) : Prop :=
  ∃ p, w.getEndpoint p = some endpoint ∨ w.getLegacyEndpoint p = some endpoint

/-- Nothing is dialled, and no request with the key is sent, but to the
worker. -/
structure ToWorkerOnly {τ : Type} (chain : FallbackChain) (connector : Connector τ)
    (selectBest : Except SdkError WorkerEndpoint) (cfg : Config) (w : WorkerEndpoint) :
    Prop where
  dialled : ∀ d ∈ (chain.connect connector selectBest cfg).dialled, w.Advertises d.endpoint
  requested : ∀ call, (SlipstreamClient.restRequest cfg call).authorization ≠ none →
    w.Advertises (SlipstreamClient.restRequest cfg call).baseUrl

/-- The worker has an endpoint for the protocol (or advertises the very
address that is the default for it). -/
def WorkerEndpoint.Covers (w : WorkerEndpoint) (p : Protocol) : Prop :=
  w.getEndpoint p ≠ none ∨ w.Advertises (Config.defaultEndpoint p)

section Worker

variable {cfg : Config} {w : WorkerEndpoint} (hw : cfg.selectedWorker = some w)
include hw

theorem advertises_getEndpoint_iff (he : cfg.endpoint = none) (p : Protocol) :
    w.Advertises (cfg.getEndpoint p) ↔ w.Covers p := by
  have hworker : cfg.workerEndpoint p = w.getEndpoint p := by
    rw [Config.workerEndpoint, hw, Option.bind_some]
  unfold WorkerEndpoint.Covers Config.getEndpoint
  rw [hworker, he]
  cases hp : w.getEndpoint p with
  | none => simp
  | some e => exact iff_of_true ⟨p, .inl hp⟩ (.inl (by simp))

theorem advertises_legacyEndpoint {p : Protocol} {e : String}
    (h : cfg.legacyEndpoint p = some e) : w.Advertises e := by
  obtain ⟨hlegacy, -⟩ := Option.filter_eq_some_iff.mp h
  rw [hw, Option.bind_some] at hlegacy
  exact ⟨p, .inr hlegacy⟩

theorem covers_of_not_skips {p : Protocol} (h : FallbackChain.skips cfg p = false) :
    w.Covers p := by
  rcases FallbackChain.skips_eq_false.mp h with hnone | hp
  · rw [hw] at hnone
    cases hnone
  · rw [Config.workerEndpoint, hw, Option.bind_some] at hp
    exact .inl hp

end Worker

/-! ## What the chain dials, for any connector -/

namespace FallbackChain

variable {τ : Type} {chain : FallbackChain} {connector : Connector τ} {cfg : Config}

/-- One protocol: its endpoint first, and then at most its legacy one. -/
theorem dialled_tryProtocolWith (chain : FallbackChain) (connector : Connector τ)
    (cfg : Config) (p : Protocol) :
    ∃ ds, (chain.tryProtocolWith connector cfg p).dialled = ⟨p, cfg.getEndpoint p⟩ :: ds
      ∧ ∀ d ∈ ds, cfg.legacyEndpoint p = some d.endpoint := by
  have hprimary : ∀ c, (attempt connector c p (chain.timeoutFor p)).dialled
      = [⟨p, c.getEndpoint p⟩] := fun _ => rfl
  unfold tryProtocolWith
  dsimp only
  split
  · exact ⟨[], hprimary cfg, by simp⟩
  · split
    · cases hlegacy : cfg.withLegacyEndpoint p with
      | none => exact ⟨[], hprimary cfg, by simp⟩
      | some legacy =>
          refine ⟨[⟨p, legacy.getEndpoint p⟩], rfl, fun d hd => ?_⟩
          rw [List.mem_singleton.mp hd]
          exact legacyEndpoint_of_withLegacyEndpoint hlegacy
    · exact ⟨[], hprimary cfg, by simp⟩

/-- The loop dials for protocols it does not skip. -/
theorem mem_dialled_tryInOrder {d : Dial} : ∀ {ps : List Protocol} {lastError : Option SdkError},
    d ∈ (chain.tryInOrder connector cfg ps lastError).dialled →
      ∃ p, skips cfg p = false ∧ d ∈ (chain.tryProtocolWith connector cfg p).dialled
  | [], _, h => by cases h
  | p :: ps, lastError, h => by
      cases hskip : skips cfg p with
      | true =>
          rw [tryInOrder, if_pos hskip] at h
          exact mem_dialled_tryInOrder h
      | false =>
          rw [tryInOrder, if_neg (by simp [hskip])] at h
          dsimp only at h
          split at h
          · exact ⟨p, hskip, h⟩
          · rcases List.mem_append.mp h with h | h
            · exact ⟨p, hskip, h⟩
            · exact mem_dialled_tryInOrder h

end FallbackChain

section Worker

variable {τ : Type} {cfg : Config} {w : WorkerEndpoint} (hw : cfg.selectedWorker = some w)
  (he : cfg.endpoint = none)
include hw he

theorem advertises_dialled_iff (chain : FallbackChain) (connector : Connector τ) (p : Protocol) :
    (∀ d ∈ (chain.tryProtocolWith connector cfg p).dialled, w.Advertises d.endpoint)
      ↔ w.Covers p := by
  obtain ⟨ds, hds, hlegacy⟩ := chain.dialled_tryProtocolWith connector cfg p
  rw [hds, List.forall_mem_cons, advertises_getEndpoint_iff hw he]
  exact and_iff_left fun d hd => advertises_legacyEndpoint hw (hlegacy d hd)

/-- With a worker and no explicit endpoint, nothing goes anywhere else
exactly when the worker covers HTTP and the preferred protocol. -/
theorem toWorkerOnly_iff (chain : FallbackChain) (connector : Connector τ)
    (selectBest : Except SdkError WorkerEndpoint) :
    ToWorkerOnly chain connector selectBest cfg w
      ↔ w.Covers .http ∧ ∀ p ∈ cfg.preferredProtocol, w.Covers p := by
  have hresolve : FallbackChain.resolveConfig selectBest cfg = cfg :=
    FallbackChain.resolveConfig_of_configured (.inl (by rw [hw]; simp)) selectBest
  have hdialled : (∀ d ∈ (chain.connect connector selectBest cfg).dialled,
      w.Advertises d.endpoint) ↔ ∀ p ∈ cfg.preferredProtocol, w.Covers p := by
    rw [FallbackChain.connect, hresolve]
    cases hpref : cfg.preferredProtocol with
    | some p =>
        rw [advertises_dialled_iff hw he]
        simp
    | none =>
        refine iff_of_true (fun d hd => ?_) (by simp)
        obtain ⟨p, hskip, hd⟩ := FallbackChain.mem_dialled_tryInOrder hd
        exact (advertises_dialled_iff hw he chain connector p).mpr
          (covers_of_not_skips hw hskip) d hd
  have hrequested : (∀ call, (SlipstreamClient.restRequest cfg call).authorization ≠ none →
      w.Advertises (SlipstreamClient.restRequest cfg call).baseUrl) ↔ w.Covers .http := by
    rw [← advertises_getEndpoint_iff hw he .http]
    constructor
    · intro h
      exact h .getBalance (by simp [SlipstreamClient.restRequest, RestCall.authorized])
    · intro h call _
      exact h
  constructor
  · intro h
    exact ⟨hrequested.mp h.requested, hdialled.mp h.dialled⟩
  · rintro ⟨hhttp, hpref⟩
    exact ⟨hdialled.mpr hpref, hrequested.mpr hhttp⟩

end Worker

/-! ## A worker without an HTTP port -/

def quicWorkerOnly : WorkerEndpoint :=
  .withEndpoints "worker-1" "us-east" (some "10.0.0.1:4433")
    (some "http://10.0.0.1:10000") none none

def quicOnly : Config where
  apiKey := "sk_test_12345678"
  selectedWorker := some quicWorkerOnly

def unreachable : Connector Unit := fun _ _ => ⟨0, .error .notConnected⟩

/-- The balance is asked from the local default, with the key. -/
theorem key_to_localhost :
    SlipstreamClient.restRequest quicOnly .getBalance
        = ⟨.get, "http://localhost:9091", "/v1/balance", some "Bearer sk_test_12345678"⟩
      ∧ ¬ ToWorkerOnly {} unreachable (.error .notConnected) quicOnly quicWorkerOnly := by
  refine ⟨by decide, fun h => ?_⟩
  obtain ⟨p, hp⟩ := h.requested .getBalance (by decide)
  cases p <;> revert hp <;> decide

def allPorts : Config where
  apiKey := "sk_test_12345678"
  preferredProtocol := some .webSocket
  selectedWorker := some (.new "worker-1" "us-east" "10.0.0.1")

theorem toWorkerOnly_allPorts :
    ToWorkerOnly {} unreachable (.error .notConnected) allPorts
      (.new "worker-1" "us-east" "10.0.0.1") :=
  (toWorkerOnly_iff rfl rfl _ _ _).mpr ⟨.inl (by decide), fun p hp => by
    obtain rfl := Option.some.inj hp
    exact .inl (by decide)⟩

end Slipstream
