import Slipstream.Credentials
import Slipstream.Payloads

/-!
# Bundles

Two calls that take a list of transactions. `submit_bundle` sends all of
them in one request, so that they land together or not at all;
`simulate_bundle` sends them one after the other to the RPC proxy, which
takes a token for each, and stops at the first one that fails.

What a bundle costs is the number of its requests: one or none for a
submission (`submitBundleWithTip_sends`), and for a simulation as many
as were tried, the last of which is the one that failed
(`simulateBundle_tries`). An error of the proxy, unlike a transaction
that fails, leaves nothing of the simulations before it.
-/

namespace Slipstream

/-! ## Replies -/

/-- An error of the HTTP client, with its message. -/
inductive ReqwestError where
  | timeout
  | connect (msg : String)
  | other (msg : String)
deriving Repr, DecidableEq

def SdkError.fromReqwest : ReqwestError → SdkError
  | .timeout => .timeout (.fromSecs 30)
  | .connect msg => .connection msg
  | .other msg => .protocol msg

/-- A reply to a REST call: its text, blank if it cannot be read, and
what comes of deserializing it. -/
structure RestReply (α : Type) where
  status : Nat
  text : String
  json : Except ReqwestError α

namespace RestReply

variable {α : Type}

def isSuccess (r : RestReply α) : Bool := decide (200 ≤ r.status ∧ r.status < 300)

/-- How the client's calls take a reply, but for the statuses some of
them treat on their own. -/
def result (failed : String) (special : Nat → Option SdkError)
    (reply : Except ReqwestError (RestReply α)) : Except SdkError α :=
  match reply with
  | .error e => .error (.fromReqwest e)
  | .ok r =>
      if r.status = 401 then .error (.auth "Invalid API key")
      else
        match special r.status with
        | some e => .error e
        | none =>
            if r.isSuccess then r.json.mapError .fromReqwest
            else .error (.internal (failed ++ r.text))

end RestReply

structure RestPost where
  request : RestRequest
  body : List UInt8
deriving Repr, DecidableEq

/-! ## Submitting a bundle -/

structure BundleResult where
  bundleId : String
  accepted : Bool
  signatures : List String
  senderId : Option String
  error : Option String
deriving Repr, DecidableEq

def validateBundleSize (n : Nat) : Except SdkError Unit :=
  if n < 2 ∨ 5 < n then .error (.config "Bundle must contain 2-5 transactions") else .ok ()

/-- The fields of `json!` are sorted. -/
def bundleBody (transactions : List (List UInt8)) (tipLamports : Option UInt64) :
    JsonText.Value :=
  .obj
    [("tip_lamports", (tipLamports.map fun n => .num n.toNat).getD .null),
      ("transactions", .arr (transactions.map fun tx => .str (base64 tx)))]

/-- A call: what it posts and what it returns. -/
structure RestExchange (α : Type) where
  posts : List RestPost
  result : Except SdkError α

namespace SlipstreamClient

def submitBundleWithTip (cfg : Config) (reply : Except ReqwestError (RestReply BundleResult))
    (transactions : List (List UInt8)) (tipLamports : Option UInt64) :
    RestExchange BundleResult :=
  match validateBundleSize transactions.length with
  | .error e => ⟨[], .error e⟩
  | .ok () =>
      { posts :=
          [{ request := restRequest cfg .submitBundle
             body := JsonText.encode (bundleBody transactions tipLamports) }]
        result := RestReply.result "Failed to submit bundle: " (fun _ => none) reply }

def submitBundle (cfg : Config) (reply : Except ReqwestError (RestReply BundleResult))
    (transactions : List (List UInt8)) : RestExchange BundleResult :=
  submitBundleWithTip cfg reply transactions none

end SlipstreamClient

/-- The bundle a server reads out of a body. -/
def readBundle (body : List UInt8) : Option (List (List UInt8) × Option Nat) := do
  let v ← JsonText.decode body
  let items ← (v.get? "transactions").bind JsonText.Value.items?
  let transactions ← items.mapM fun item : JsonText.Value => item.str?.bind fromBase64
  pure (transactions, (v.get? "tip_lamports").bind JsonText.Value.num?)

theorem mapM_fromBase64 (transactions : List (List UInt8)) :
    (transactions.map fun tx => JsonText.Value.str (base64 tx)).mapM
      (fun item : JsonText.Value => item.str?.bind fromBase64) = some transactions := by
  induction transactions with
  | nil => rfl
  | cons tx transactions ih =>
      have htx : (JsonText.Value.str (base64 tx)).str?.bind fromBase64 = some tx :=
        fromBase64_base64 tx
      rw [List.map_cons, List.mapM_cons, htx, ih]
      rfl

theorem readBundle_bundleBody (transactions : List (List UInt8)) (tipLamports : Option UInt64) :
    readBundle (JsonText.encode (bundleBody transactions tipLamports))
      = some (transactions, tipLamports.map UInt64.toNat) := by
  have htip : ((bundleBody transactions tipLamports).get? "tip_lamports").bind
      JsonText.Value.num? = tipLamports.map UInt64.toNat := by
    cases tipLamports <;> rfl
  unfold readBundle
  rw [JsonText.decode_encode]
  show ((transactions.map fun tx => JsonText.Value.str (base64 tx)).mapM
    (fun item : JsonText.Value => item.str?.bind fromBase64)).bind (fun transactions' =>
      some (transactions', ((bundleBody transactions tipLamports).get? "tip_lamports").bind
        JsonText.Value.num?)) = _
  rw [mapM_fromBase64, htip]
  rfl

/-- A bundle of the right size is sent whole, in one request with the
key, and any other one not at all. -/
theorem submitBundleWithTip_sends (cfg : Config)
    (reply : Except ReqwestError (RestReply BundleResult))
    (transactions : List (List UInt8)) (tipLamports : Option UInt64) :
    (SlipstreamClient.submitBundleWithTip cfg reply transactions tipLamports).posts.map
        (fun post => (post.request, readBundle post.body))
      = if 2 ≤ transactions.length ∧ transactions.length ≤ 5 then
          [({ method := .post
              baseUrl := cfg.getEndpoint .http
              path := "/v1/bundles/submit"
              authorization := some ("Bearer " ++ cfg.apiKey) },
            some (transactions, tipLamports.map UInt64.toNat))]
        else [] := by
  unfold SlipstreamClient.submitBundleWithTip validateBundleSize
  by_cases hsize : transactions.length < 2 ∨ 5 < transactions.length
  · rw [if_pos hsize, if_neg (by omega)]
    rfl
  · rw [if_neg hsize, if_pos (by omega)]
    show [(_, readBundle (JsonText.encode (bundleBody transactions tipLamports)))] = _
    rw [readBundle_bundleBody]
    rfl

/-! ## The RPC proxy -/

structure RpcError where
  code : Int
  message : String
deriving Repr, DecidableEq

/-- A response of the proxy. `V` are the JSON values of a response,
which may be anything. -/
structure RpcResponse (V : Type) where
  result : Option V
  error : Option RpcError

structure SimulationResult (V : Type) where
  err : Option V
  logs : List String
  unitsConsumed : UInt64
  returnData : Option V

/-- What the calls do with such a value: `value` is its field of that
name, `simulation` deserializes it. -/
structure RpcValues (V : Type) where
  value : V → Option V
  simulation : V → Except String (SimulationResult V)

def rpcBody (method : String) (params : JsonText.Value) : JsonText.Value :=
  .obj [("id", .num 1), ("jsonrpc", .str "2.0"), ("method", .str method), ("params", params)]

def simulateParams (transaction : List UInt8) : JsonText.Value :=
  .arr
    [.str (base64 transaction),
      .obj
        [("commitment", .str "confirmed"), ("encoding", .str "base64"),
          ("replaceRecentBlockhash", .bool true)]]

namespace SlipstreamClient

variable {V : Type}

/-- What `rpc` returns for a reply. -/
def rpcResult (reply : Except ReqwestError (RestReply (RpcResponse V))) :
    Except SdkError (RpcResponse V) :=
  RestReply.result "RPC proxy error: "
    (fun status =>
      if status = 402 then some (.internal "Insufficient token balance for RPC query") else none)
    reply

def simulateResult (values : RpcValues V)
    (reply : Except ReqwestError (RestReply (RpcResponse V))) :
    Except SdkError (SimulationResult V) :=
  match rpcResult reply with
  | .error e => .error e
  | .ok response =>
      match response.error with
      | some error =>
          .error (.internal ("RPC error " ++ toString error.code ++ ": " ++ error.message))
      | none =>
          match response.result with
          | none => .error (.internal "No result in RPC response")
          | some result =>
              (values.simulation ((values.value result).getD result)).mapError fun e =>
                .internal ("Failed to parse simulation result: " ++ e)

def simulatePost (cfg : Config) (transaction : List UInt8) : RestPost where
  request := restRequest cfg .rpc
  body := JsonText.encode (rpcBody "simulateTransaction" (simulateParams transaction))

/-- The loop of `simulate_bundle` from its `i`-th request on; the proxy
has the `i`-th reply for it. -/
def simulateFrom (cfg : Config) (values : RpcValues V)
    (replies : Nat → Except ReqwestError (RestReply (RpcResponse V))) :
    Nat → List (List UInt8) → List (SimulationResult V) →
      RestExchange (List (SimulationResult V))
  | _, [], results => ⟨[], .ok results⟩
  | i, tx :: txs, results =>
      match simulateResult values (replies i) with
      | .error e => ⟨[simulatePost cfg tx], .error e⟩
      | .ok sim =>
          if sim.err.isSome then ⟨[simulatePost cfg tx], .ok (results ++ [sim])⟩
          else
            let rest := simulateFrom cfg values replies (i + 1) txs (results ++ [sim])
            ⟨simulatePost cfg tx :: rest.posts, rest.result⟩

def simulateBundle (cfg : Config) (values : RpcValues V)
    (replies : Nat → Except ReqwestError (RestReply (RpcResponse V)))
    (transactions : List (List UInt8)) : RestExchange (List (SimulationResult V)) :=
  simulateFrom cfg values replies 0 transactions []

end SlipstreamClient

/-- The transaction the proxy is to simulate. -/
def readSimulation (body : List UInt8) : Option (List UInt8) := do
  let v ← JsonText.decode body
  let params ← (v.get? "params").bind JsonText.Value.items?
  let text ← params.head?.bind JsonText.Value.str?
  fromBase64 text

theorem readSimulation_simulatePost (cfg : Config) (transaction : List UInt8) :
    readSimulation (SlipstreamClient.simulatePost cfg transaction).body = some transaction := by
  unfold readSimulation SlipstreamClient.simulatePost
  rw [JsonText.decode_encode]
  exact fromBase64_base64 transaction

section Simulations

variable {V : Type}

/-- The answers to the first requests were simulations that passed. -/
def Passed (answer : Nat → Except SdkError (SimulationResult V))
    (sims : List (SimulationResult V)) : Prop :=
  ∀ i sim, sims[i]? = some sim → answer i = .ok sim ∧ sim.err = none

/-- How a simulation of `count` transactions may end, after how many
requests, and with what. -/
inductive Tried (answer : Nat → Except SdkError (SimulationResult V)) (count : Nat) :
    Nat → Except SdkError (List (SimulationResult V)) → Prop where
  | passed {sims : List (SimulationResult V)} (hpassed : Passed answer sims)
      (hcount : sims.length = count) : Tried answer count count (.ok sims)
  | failed {sims : List (SimulationResult V)} {sim : SimulationResult V}
      (hpassed : Passed answer sims) (hlt : sims.length < count)
      (hlast : answer sims.length = .ok sim) (hfailed : sim.err ≠ none) :
      Tried answer count (sims.length + 1) (.ok (sims ++ [sim]))
  | aborted {sims : List (SimulationResult V)} {e : SdkError}
      (hpassed : Passed answer sims) (hlt : sims.length < count)
      (hlast : answer sims.length = .error e) :
      Tried answer count (sims.length + 1) (.error e)

theorem Passed.append {answer : Nat → Except SdkError (SimulationResult V)}
    {sims : List (SimulationResult V)} {sim : SimulationResult V} (h : Passed answer sims)
    (hlast : answer sims.length = .ok sim) (hpassed : sim.err = none) :
    Passed answer (sims ++ [sim]) := by
  intro i sim' hi
  rcases Nat.lt_trichotomy i sims.length with hlt | rfl | hgt
  · rw [List.getElem?_append_left hlt] at hi
    exact h i sim' hi
  · rw [List.getElem?_concat_length] at hi
    obtain rfl := Option.some.inj hi
    exact ⟨hlast, hpassed⟩
  · rw [List.getElem?_eq_none (by simp; omega)] at hi
    cases hi

/-- From the `i`-th request on, with as many results that passed. -/
theorem simulateFrom_tries (cfg : Config) (values : RpcValues V)
    (replies : Nat → Except ReqwestError (RestReply (RpcResponse V))) :
    ∀ (txs : List (List UInt8)) (results : List (SimulationResult V)),
      Passed (fun i => SlipstreamClient.simulateResult values (replies i)) results →
        ∃ n ≤ txs.length,
          (SlipstreamClient.simulateFrom cfg values replies results.length txs results).posts
              = (txs.take n).map (SlipstreamClient.simulatePost cfg)
            ∧ Tried (fun i => SlipstreamClient.simulateResult values (replies i))
                (results.length + txs.length) (results.length + n)
                (SlipstreamClient.simulateFrom cfg values replies results.length txs
                  results).result
  | [], results, hpassed => ⟨0, Nat.le_refl 0, rfl, .passed hpassed rfl⟩
  | tx :: txs, results, hpassed => by
      have hlt : results.length < results.length + (tx :: txs).length := by
        rw [List.length_cons]
        omega
      rw [SlipstreamClient.simulateFrom]
      cases hanswer : SlipstreamClient.simulateResult values (replies results.length) with
      | error e => exact ⟨1, by simp, rfl, .aborted hpassed hlt hanswer⟩
      | ok sim =>
          dsimp only
          by_cases herr : sim.err.isSome = true
          · rw [if_pos herr]
            exact ⟨1, by simp, rfl, .failed hpassed hlt hanswer (Option.isSome_iff_ne_none.mp herr)⟩
          · have hnone : sim.err = none := by simpa using herr
            obtain ⟨n, hn, hposts, htried⟩ := simulateFrom_tries cfg values replies txs
              (results ++ [sim]) (hpassed.append hanswer hnone)
            rw [if_neg herr]
            rw [List.length_append, List.length_singleton] at hposts htried
            refine ⟨n + 1, by simp [hn], ?_, ?_⟩
            · rw [List.take_succ_cons, List.map_cons, ← hposts]
            · have hcount : results.length + (tx :: txs).length
                  = results.length + 1 + txs.length := by
                rw [List.length_cons]
                omega
              have hsent : results.length + (n + 1) = results.length + 1 + n := by omega
              rw [hcount, hsent]
              exact htried

/-- The proxy is sent the first transactions, one by one and as they
are, up to the one that did not pass. -/
theorem simulateBundle_tries (cfg : Config) (values : RpcValues V)
    (replies : Nat → Except ReqwestError (RestReply (RpcResponse V)))
    (transactions : List (List UInt8)) :
    ∃ n ≤ transactions.length,
      (SlipstreamClient.simulateBundle cfg values replies transactions).posts.map
          (fun post => (post.request, readSimulation post.body))
        = (transactions.take n).map (fun tx =>
            ({ method := .post
               baseUrl := cfg.getEndpoint .http
               path := "/v1/rpc"
               authorization := some ("Bearer " ++ cfg.apiKey) }, some tx))
      ∧ Tried (fun i => SlipstreamClient.simulateResult values (replies i)) transactions.length n
          (SlipstreamClient.simulateBundle cfg values replies transactions).result := by
  have hnone : Passed (fun i => SlipstreamClient.simulateResult values (replies i)) [] := by
    intro i sim hi
    cases hi
  obtain ⟨n, hn, hposts, htried⟩ := simulateFrom_tries cfg values replies transactions [] hnone
  rw [List.length_nil] at hposts
  rw [List.length_nil, Nat.zero_add, Nat.zero_add] at htried
  refine ⟨n, hn, ?_, htried⟩
  show (SlipstreamClient.simulateFrom cfg values replies 0 transactions []).posts.map _ = _
  rw [hposts, List.map_map]
  refine List.map_congr_left fun tx _ => ?_
  show (SlipstreamClient.restRequest cfg .rpc, readSimulation _) = _
  rw [readSimulation_simulatePost]
  rfl

end Simulations

end Slipstream
