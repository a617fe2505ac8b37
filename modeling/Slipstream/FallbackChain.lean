import Slipstream.Attempts
import Slipstream.Config

/-!
# The fallback chain

`FallbackChain.connect` tries the protocols in order; within a protocol
it dials the primary endpoint and, after a connect failure, once the
legacy endpoint. The model runs it over an arbitrary `Connector` and
keeps the dials made, in order, next to the result.

The specification has no loop: `plan` lists the dials the chain would
make if none succeeded, and `connect_eq_plan` says that the dials made
are the plan through its first success and that the result is the
outcome of the last of them.
-/

namespace Slipstream

/-- What a dial comes to, and after how long. -/
structure Dialled (τ : Type) where
  took : Duration
  result : Except SdkError τ

/-- Establishing a single connection for a protocol. -/
abbrev Connector (τ : Type) := Config → Protocol → Dialled τ

structure Dial where
  protocol : Protocol
  endpoint : String
deriving Repr, DecidableEq

/-- The dials made, in order, and what came of them. -/
structure Attempted (τ : Type) where
  dialled : List Dial
  result : Except SdkError τ

structure FallbackChain where
  timeouts : ProtocolTimeouts := {}
deriving Repr, DecidableEq

namespace FallbackChain

def timeoutFor (chain : FallbackChain) : Protocol → Duration
  | .quic => chain.timeouts.quic
  | .grpc => chain.timeouts.grpc
  | .webSocket => chain.timeouts.websocket
  | .http => chain.timeouts.http

/-- Connect failures could succeed on another port; every other error
would be the same there. -/
def isConnectFailure : SdkError → Bool
  | .connection _ => true
  | .timeout _ => true
  | _ => false

section Connect

variable {τ : Type} (chain : FallbackChain) (connector : Connector τ)

/-- A single connect attempt, bounded by the protocol timeout. -/
def attempt (cfg : Config) (p : Protocol) (timeout : Duration) : Attempted τ where
  dialled := [⟨p, cfg.getEndpoint p⟩]
  result :=
    if timeout < (connector cfg p).took then .error (.timeout timeout)
    else (connector cfg p).result

def tryProtocolWith (cfg : Config) (p : Protocol) : Attempted τ :=
  let timeout := chain.timeoutFor p
  let primary := attempt connector cfg p timeout
  match primary.result with
  | .ok _ => primary
  | .error primaryErr =>
      if isConnectFailure primaryErr then
        match cfg.withLegacyEndpoint p with
        | some legacyConfig =>
            let legacy := attempt connector legacyConfig p timeout
            ⟨primary.dialled ++ legacy.dialled, legacy.result⟩
        | none => primary
      else primary

/-- The selected worker has no endpoint for the protocol. -/
def skips (cfg : Config) (p : Protocol) : Bool :=
  match cfg.selectedWorker with
  | some worker => (worker.getEndpoint p).isNone
  | none => false

/-- The loop over the protocols, with the last error so far. -/
def tryInOrder (cfg : Config) : List Protocol → Option SdkError → Attempted τ
  | [], lastError => ⟨[], .error (lastError.getD .allProtocolsFailed)⟩
  | p :: ps, lastError =>
      if skips cfg p then tryInOrder cfg ps lastError
      else
        let tried := chain.tryProtocolWith connector cfg p
        match tried.result with
        | .ok _ => tried
        | .error e =>
            let rest := tryInOrder cfg ps (some e)
            ⟨tried.dialled ++ rest.dialled, rest.result⟩

/-- With neither an endpoint nor a worker, `selectBest` picks a worker
(and the defaults remain where it fails). -/
def resolveConfig (selectBest : Except SdkError WorkerEndpoint) (cfg : Config) :
    Config :=
  if cfg.endpoint.isNone ∧ cfg.selectedWorker.isNone then
    match selectBest with
    | .ok worker => { cfg with selectedWorker := some worker }
    | .error _ => cfg
  else cfg

def connect (selectBest : Except SdkError WorkerEndpoint) (cfg : Config) :
    Attempted τ :=
  let config := resolveConfig selectBest cfg
  match config.preferredProtocol with
  | some preferred => chain.tryProtocolWith connector config preferred
  | none => chain.tryInOrder connector config Protocol.fallbackOrder none

end Connect

theorem resolveConfig_of_configured {cfg : Config}
    (h : cfg.selectedWorker ≠ none ∨ cfg.endpoint ≠ none)
    (selectBest : Except SdkError WorkerEndpoint) :
    resolveConfig selectBest cfg = cfg := by
  unfold resolveConfig
  rw [if_neg]
  rintro ⟨he, hw⟩
  rcases h with h | h
  · exact h (Option.isNone_iff_eq_none.mp hw)
  · exact h (Option.isNone_iff_eq_none.mp he)

/-! ## The plan -/

/-- The protocols worth dialling, in order. -/
def eligible (cfg : Config) : List Protocol :=
  match cfg.preferredProtocol with
  | some preferred => [preferred]
  | none =>
      [.quic, .grpc, .webSocket, .http].filter fun p =>
        decide (cfg.selectedWorker = none ∨ cfg.workerEndpoint p ≠ none)

section Plan

variable {τ : Type} (chain : FallbackChain) (out : String → Protocol → Dialled τ)

/-- The connector whose answer depends on the address and the protocol
only. -/
def byEndpoint : Connector τ := fun cfg p => out (cfg.getEndpoint p) p

/-- What a dial comes to if it may take so long. -/
def within (limit : Duration) (d : Dial) : Except SdkError τ :=
  if limit < (out d.endpoint d.protocol).took then .error (.timeout limit)
  else (out d.endpoint d.protocol).result

/-- What a dial comes to once the protocol's timeout bounds it. -/
def outcome (d : Dial) : Except SdkError τ :=
  match d.protocol with
  | .quic => within out chain.timeouts.quic d
  | .grpc => within out chain.timeouts.grpc d
  | .webSocket => within out chain.timeouts.websocket d
  | .http => within out chain.timeouts.http d

def succeeds (d : Dial) : Bool := (chain.outcome out d).isOk

/-- The dial was refused or broke, or ran into its timeout. -/
def connectFails (d : Dial) : Bool :=
  match chain.outcome out d with
  | .error (.connection _) => true
  | .error (.timeout _) => true
  | _ => false

/-- The dials of one protocol: its endpoint, and after a connect failure
the legacy endpoint where one is advertised. -/
def dialsOf (cfg : Config) (p : Protocol) : List Dial :=
  let primary : Dial := ⟨p, cfg.getEndpoint p⟩
  primary ::
    if chain.connectFails out primary then
      (cfg.legacyEndpoint p).toList.map fun e => ⟨p, e⟩
    else []

/-- Every dial the chain makes as long as none succeeds. -/
def plan (cfg : Config) : List Dial :=
  (eligible cfg).flatMap (chain.dialsOf out cfg)

/-- The outcome of the last of some dials, `e` where none was made. -/
def lastOutcome (e : SdkError) (dials : List Dial) : Except SdkError τ :=
  match dials.getLast? with
  | some d => chain.outcome out d
  | none => .error e

end Plan

/-! ## The chain follows the plan -/

section Follows

variable {τ : Type} {chain : FallbackChain} {out : String → Protocol → Dialled τ}

theorem outcome_eq_within (d : Dial) :
    chain.outcome out d = within out (chain.timeoutFor d.protocol) d := by
  obtain ⟨p, endpoint⟩ := d
  cases p <;> rfl

theorem attempt_byEndpoint (cfg : Config) (p : Protocol) :
    attempt (byEndpoint out) cfg p (chain.timeoutFor p)
      = ⟨[⟨p, cfg.getEndpoint p⟩], chain.outcome out ⟨p, cfg.getEndpoint p⟩⟩ := by
  rw [outcome_eq_within]
  rfl

/-- A dial succeeds only with what the address answers. -/
theorem outcome_eq_ok {d : Dial} {t : τ} (h : chain.outcome out d = .ok t) :
    (out d.endpoint d.protocol).result = .ok t := by
  rw [outcome_eq_within, within] at h
  split at h
  · cases h
  · exact h

/-- The legacy endpoint is tried after the errors that could be due to
the port. -/
theorem connectFails_of_error {d : Dial} {e : SdkError} (h : chain.outcome out d = .error e) :
    chain.connectFails out d = isConnectFailure e := by
  unfold connectFails
  rw [h]
  cases e <;> rfl

theorem succeeds_eq_true {d : Dial} :
    chain.succeeds out d = true ↔ ∃ t, chain.outcome out d = .ok t := by
  unfold succeeds
  cases chain.outcome out d <;> simp [Except.isOk, Except.toBool]

theorem succeeds_eq_false {d : Dial} :
    chain.succeeds out d = false ↔ ∃ e, chain.outcome out d = .error e := by
  unfold succeeds
  cases chain.outcome out d <;> simp [Except.isOk, Except.toBool]

/-- The legacy dial of a protocol is an attempt with the legacy variant
of the configuration. -/
theorem legacyEndpoint_of_withLegacyEndpoint {cfg legacy : Config} {p : Protocol}
    (h : cfg.withLegacyEndpoint p = some legacy) :
    cfg.legacyEndpoint p = some (legacy.getEndpoint p) := by
  rw [← cfg.map_getEndpoint_withLegacyEndpoint p, h, Option.map_some]

theorem legacyEndpoint_of_withLegacyEndpoint_none {cfg : Config} {p : Protocol}
    (h : cfg.withLegacyEndpoint p = none) : cfg.legacyEndpoint p = none := by
  rw [← cfg.map_getEndpoint_withLegacyEndpoint p, h, Option.map_none]

/-- One protocol: its dials through the first success. -/
theorem tryProtocolWith_follows (cfg : Config) (p : Protocol) (e₀ : SdkError) :
    (chain.tryProtocolWith (byEndpoint out) cfg p).dialled
        = Attempts.upToFirst (chain.succeeds out) (chain.dialsOf out cfg p)
      ∧ (chain.tryProtocolWith (byEndpoint out) cfg p).result
        = chain.lastOutcome out e₀
            (Attempts.upToFirst (chain.succeeds out) (chain.dialsOf out cfg p)) := by
  unfold tryProtocolWith dialsOf
  simp only [attempt_byEndpoint]
  cases hprim : chain.outcome out ⟨p, cfg.getEndpoint p⟩ with
  | ok t =>
      have hok : chain.succeeds out ⟨p, cfg.getEndpoint p⟩ = true :=
        succeeds_eq_true.mpr ⟨t, hprim⟩
      rw [Attempts.upToFirst_cons_ok hok]
      exact ⟨rfl, hprim.symm⟩
  | error e =>
      have hfail : chain.succeeds out ⟨p, cfg.getEndpoint p⟩ = false :=
        succeeds_eq_false.mpr ⟨e, hprim⟩
      have hclass : chain.connectFails out ⟨p, cfg.getEndpoint p⟩ = isConnectFailure e :=
        connectFails_of_error hprim
      rw [Attempts.upToFirst_cons_fail hfail, hclass]
      cases hconn : isConnectFailure e with
      | false => exact ⟨by simp [hconn], by simp [hconn, lastOutcome, hprim]⟩
      | true =>
          cases hleg : cfg.withLegacyEndpoint p with
          | none =>
              rw [legacyEndpoint_of_withLegacyEndpoint_none hleg]
              exact ⟨by simp [hconn], by simp [hconn, lastOutcome, hprim]⟩
          | some legacy =>
              rw [legacyEndpoint_of_withLegacyEndpoint hleg]
              have hone : Attempts.upToFirst (chain.succeeds out)
                  [⟨p, legacy.getEndpoint p⟩] = [⟨p, legacy.getEndpoint p⟩] := by
                unfold Attempts.upToFirst
                split <;> rfl
              simp [hconn, hone, lastOutcome]

/-- A protocol is passed over with its result an error exactly when none
of its dials succeeds. -/
theorem any_dialsOf_eq (cfg : Config) (p : Protocol) :
    (chain.dialsOf out cfg p).any (chain.succeeds out)
      = (chain.tryProtocolWith (byEndpoint out) cfg p).result.isOk := by
  have hres : (chain.tryProtocolWith (byEndpoint out) cfg p).result = _ :=
    (tryProtocolWith_follows cfg p .allProtocolsFailed).2
  rw [hres, Bool.eq_iff_iff, Attempts.any_ok_iff_getLast?, lastOutcome]
  cases (Attempts.upToFirst (chain.succeeds out) (chain.dialsOf out cfg p)).getLast? with
  | none => simp [Except.isOk, Except.toBool]
  | some d => simp [succeeds]

theorem skips_eq_false {cfg : Config} {p : Protocol} :
    skips cfg p = false ↔ cfg.selectedWorker = none ∨ cfg.workerEndpoint p ≠ none := by
  unfold skips Config.workerEndpoint
  cases cfg.selectedWorker with
  | none => simp
  | some worker => simp [Option.isNone_eq_false_iff, Option.isSome_iff_ne_none]

/-- The loop: the dials of the protocols not skipped, through the first
success, and the last error carried along. -/
theorem tryInOrder_follows (cfg : Config) (ps : List Protocol) :
    ∀ lastError : Option SdkError,
      (chain.tryInOrder (byEndpoint out) cfg ps lastError).dialled
          = Attempts.upToFirst (chain.succeeds out)
              ((ps.filter fun p => !skips cfg p).flatMap (chain.dialsOf out cfg))
        ∧ (chain.tryInOrder (byEndpoint out) cfg ps lastError).result
          = chain.lastOutcome out (lastError.getD .allProtocolsFailed)
              (Attempts.upToFirst (chain.succeeds out)
                ((ps.filter fun p => !skips cfg p).flatMap (chain.dialsOf out cfg))) := by
  induction ps with
  | nil => intro lastError; exact ⟨rfl, rfl⟩
  | cons p ps ih =>
      intro lastError
      cases hskip : skips cfg p with
      | true =>
          rw [List.filter_cons_of_neg (by simp [hskip]), tryInOrder, if_pos hskip]
          exact ih lastError
      | false =>
          rw [List.filter_cons_of_pos (by simp [hskip]), List.flatMap_cons, tryInOrder,
            if_neg (by simp [hskip])]
          have hany := @any_dialsOf_eq τ chain out cfg p
          obtain ⟨hd, hr⟩ := @tryProtocolWith_follows τ chain out cfg p
            (lastError.getD .allProtocolsFailed)
          cases hres : (chain.tryProtocolWith (byEndpoint out) cfg p).result with
          | ok t =>
              rw [hres] at hany
              simp only [hres]
              rw [Attempts.upToFirst_append_of_any hany]
              exact ⟨hd, by rw [← hr, hres]⟩
          | error e =>
              rw [hres] at hany
              simp only [hres]
              obtain ⟨hd', hr'⟩ := ih (some e)
              rw [Attempts.upToFirst_append_of_not_any hany]
              rw [Attempts.upToFirst_of_not_any hany] at hd hr
              refine ⟨by rw [hd, hd'], ?_⟩
              -- the error carried along is the outcome of this protocol's last dial
              simp only [hr', lastOutcome, List.getLast?_append, Option.getD_some]
              cases (Attempts.upToFirst (chain.succeeds out)
                ((ps.filter fun p => !skips cfg p).flatMap (chain.dialsOf out cfg))).getLast? with
              | some d => rfl
              | none =>
                  rw [hres, lastOutcome] at hr
                  simpa using hr

/-- For any configuration, once the worker selection has been settled. -/
theorem connect_follows (selectBest : Except SdkError WorkerEndpoint) (cfg : Config) :
    (chain.connect (byEndpoint out) selectBest cfg).dialled
        = Attempts.upToFirst (chain.succeeds out)
            (chain.plan out (resolveConfig selectBest cfg))
      ∧ (chain.connect (byEndpoint out) selectBest cfg).result
        = chain.lastOutcome out .allProtocolsFailed
            (Attempts.upToFirst (chain.succeeds out)
              (chain.plan out (resolveConfig selectBest cfg))) := by
  unfold connect plan eligible
  generalize resolveConfig selectBest cfg = config
  cases hpref : config.preferredProtocol with
  | some preferred =>
      simp only [hpref, List.flatMap_cons, List.flatMap_nil, List.append_nil]
      exact tryProtocolWith_follows config preferred .allProtocolsFailed
  | none =>
      have hfilter :
          (fun p => decide (config.selectedWorker = none ∨ config.workerEndpoint p ≠ none))
            = fun p => !skips config p := by
        funext p
        rw [Bool.eq_iff_iff, decide_eq_true_eq, Bool.not_eq_true', skips_eq_false]
      simp only [hpref, hfilter]
      exact tryInOrder_follows config Protocol.fallbackOrder none

end Follows

/-- The chain dials its plan through the first success and returns the
outcome of the last dial made, `AllProtocolsFailed` if there was none. -/
theorem connect_eq_plan {τ : Type} (chain : FallbackChain)
    (out : String → Protocol → Dialled τ) (selectBest : Except SdkError WorkerEndpoint)
    {cfg : Config} (h : cfg.selectedWorker ≠ none ∨ cfg.endpoint ≠ none) :
    (chain.connect (byEndpoint out) selectBest cfg).dialled
        = Attempts.upToFirst (chain.succeeds out) (chain.plan out cfg)
      ∧ (chain.connect (byEndpoint out) selectBest cfg).result
        = chain.lastOutcome out .allProtocolsFailed
            (Attempts.upToFirst (chain.succeeds out) (chain.plan out cfg)) := by
  have hall := @connect_follows τ chain out selectBest cfg
  rwa [resolveConfig_of_configured h] at hall

/-! ## The legacy retry, once -/

def primaryQuic : String := "10.0.0.1:4435"
def legacyQuic : String := "10.0.0.1:4433"

/-- A configuration whose worker exposes a primary QUIC endpoint and,
optionally, a legacy one. -/
def configWithWorker (primary : String) (legacy : Option String) : Config where
  apiKey := "sk_test_12345678"
  selectedWorker :=
    some ((WorkerEndpoint.withEndpoints "worker-1" "us-east" (some primary) none none
      none).withLegacy legacy none none)

/-- Only the legacy endpoint answers. -/
def migrated (endpoint : String) (_ : Protocol) : Dialled Unit where
  took := 0
  result :=
    if endpoint = legacyQuic then .ok () else .error (.connection "connection refused")

theorem connect_eq_plan_migrated :
    (({} : FallbackChain).connect (byEndpoint migrated) (.error .notConnected)
        (configWithWorker primaryQuic (some legacyQuic))).dialled
        = [⟨.quic, primaryQuic⟩, ⟨.quic, legacyQuic⟩]
      ∧ (({} : FallbackChain).connect (byEndpoint migrated) (.error .notConnected)
        (configWithWorker primaryQuic (some legacyQuic))).result = .ok () := by
  have hcfg : (configWithWorker primaryQuic (some legacyQuic)).selectedWorker ≠ none := by
    decide
  obtain ⟨hdialled, hresult⟩ :=
    connect_eq_plan {} migrated (.error .notConnected) (.inl hcfg)
  rw [hdialled, hresult]
  decide

end FallbackChain

end Slipstream
