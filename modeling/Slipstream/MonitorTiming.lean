import Mathlib.Algebra.Order.BigOperators.Group.List
import Mathlib.Algebra.Order.Ring.Nat
import Slipstream.HealthMonitor

/-!
# How long connecting takes, and how often it is tried

The fallback chain bounds each dial by the timeout of its protocol, so a
connect takes at most the sum of the timeouts of what it dials
(`connectTook_le`).

The health monitor's loop waits for the next tick of a five-second
interval and, after a failed reconnect, for the backoff. A tick that was
missed is made up for at once. `checks` puts the rounds of the loop on a
time line: a failed attempt is followed by the next one after its backoff
and not much later, and however many ticks are made up for there are no more
checks than ticks (`paced`). Each round is a run of the untimed monitor
(`round_run`).
-/

namespace Slipstream

/-! ## The fallback chain -/

namespace FallbackChain

section Took

variable {τ : Type} (chain : FallbackChain) (connector : Connector τ)

def attemptTook (cfg : Config) (p : Protocol) (timeout : Duration) : Duration :=
  min (connector cfg p).took timeout

def tryProtocolTook (cfg : Config) (p : Protocol) : Duration :=
  let timeout := chain.timeoutFor p
  let took := attemptTook connector cfg p timeout
  match (attempt connector cfg p timeout).result with
  | .ok _ => took
  | .error primaryErr =>
      if isConnectFailure primaryErr then
        match cfg.withLegacyEndpoint p with
        | some legacyConfig => took + attemptTook connector legacyConfig p timeout
        | none => took
      else took

def tryInOrderTook (cfg : Config) : List Protocol → Duration
  | [] => 0
  | p :: ps =>
      if skips cfg p then tryInOrderTook cfg ps
      else
        let took := chain.tryProtocolTook connector cfg p
        match (chain.tryProtocolWith connector cfg p).result with
        | .ok _ => took
        | .error _ => took + tryInOrderTook cfg ps

/-- How long `connect` takes, once the worker is selected. -/
def connectTook (selectBest : Except SdkError WorkerEndpoint) (cfg : Config) : Duration :=
  let config := resolveConfig selectBest cfg
  match config.preferredProtocol with
  | some preferred => chain.tryProtocolTook connector config preferred
  | none => chain.tryInOrderTook connector config Protocol.fallbackOrder

variable {chain connector}

end Took

end FallbackChain

/-! ## The health monitor -/

namespace HealthMonitor

/-- How long a reconnect takes: the chain, and the second `connect` of the
transport it returns. -/
def reconnectTook (net : Network) (selectBest : Except SdkError WorkerEndpoint) (cfg : Config) :
    Duration :=
  let chain : FallbackChain := ⟨cfg.protocolTimeouts⟩
  chain.connectTook (defaultConnector net) selectBest cfg
    + match (chain.connect (defaultConnector net) selectBest cfg).result with
      | .error _ => 0
      | .ok transport => (transport.connect net cfg).took

/-- `check_interval`. -/
def checkInterval : Duration := .fromSecs 5

/-- The delay that the backoff varies. -/
def baseDelay (failures : Nat) : Nat := min (1000 * 2 ^ min failures 6) 60000

theorem thousand_le_baseDelay (failures : Nat) : 1000 ≤ baseDelay failures := by
  have hpow : 1 ≤ 2 ^ min failures 6 := Nat.one_le_two_pow
  unfold baseDelay
  omega

/-- The backoff is the delay, a quarter more or less. -/
theorem calculateBackoff_bounds (failures random : Nat) :
    baseDelay failures - baseDelay failures / 4 ≤ calculateBackoff failures random
      ∧ calculateBackoff failures random ≤ baseDelay failures + baseDelay failures / 4 := by
  have hbase := thousand_le_baseDelay failures
  have hunfold : calculateBackoff failures random
      = (max ((baseDelay failures : Int)
          + if 0 < baseDelay failures / 4 then
              ((random % (baseDelay failures / 4 * 2) : Nat) : Int) - (baseDelay failures / 4 : Nat)
            else 0) 100).toNat := rfl
  rw [hunfold, if_pos (by omega)]
  have hmod : random % (baseDelay failures / 4 * 2) < baseDelay failures / 4 * 2 :=
    Nat.mod_lt _ (by omega)
  omega

/-- What the surroundings contribute to one round of the loop. -/
structure Round where
  /-- How late the tick is noticed and the lock taken. -/
  late : Duration := 0
  isConnected : Bool
  net : Network
  selectBest : Except SdkError WorkerEndpoint
  random : Nat
  /-- What putting a new transport in place and resubscribing takes. -/
  settling : Duration := 0

/-- The monitor between two rounds: `deadline` is that of the next tick. -/
structure Monitor where
  config : Config
  now : Duration
  deadline : Duration
  consecutiveFailures : Nat := 0

inductive Outcome where
  | healthy
  | reconnected
  | failed (failures : Nat)
deriving Repr, DecidableEq

/-- A health check: when it was made, and when it was over, with the attempt
to reconnect if it started one. -/
structure Check where
  made : Duration
  ended : Duration
  outcome : Outcome
deriving Repr, DecidableEq

/-- One round of `monitor_loop`. -/
def round (m : Monitor) (r : Round) : Check × Monitor :=
  let made := max m.now m.deadline + r.late
  let m := { m with deadline := m.deadline + checkInterval }
  if r.isConnected then
    (⟨made, made, .healthy⟩, { m with now := made, consecutiveFailures := 0 })
  else
    let ended := made + reconnectTook r.net r.selectBest m.config
    match (reconnect r.net r.selectBest m.config).result with
    | .ok _ =>
        let ended := ended + r.settling
        (⟨made, ended, .reconnected⟩, { m with now := ended, consecutiveFailures := 0 })
    | .error _ =>
        let failures := m.consecutiveFailures + 1
        (⟨made, ended, .failed failures⟩,
          { m with
            now := ended + .fromMillis (calculateBackoff failures r.random)
            consecutiveFailures := failures })

def checks : Monitor → List Round → List Check
  | _, [] => []
  | m, r :: rs => (round m r).1 :: checks (round m r).2 rs

/-- The least and the longest pause after a check. -/
def Outcome.leastPause : Outcome → Duration
  | .failed failures => .fromMillis (baseDelay failures - baseDelay failures / 4)
  | _ => 0

def Outcome.longestPause : Outcome → Duration
  | .failed failures => .fromMillis (baseDelay failures + baseDelay failures / 4)
  | _ => 0

/-- What a round says about the time of the next one. -/
structure Leads (m : Monitor) (c : Check) (m' : Monitor) : Prop where
  made : m.deadline ≤ c.made
  least : c.ended + c.outcome.leastPause ≤ m'.now
  longest : m'.now ≤ c.ended + c.outcome.longestPause
  deadline : m'.deadline = m.deadline + checkInterval

theorem round_leads (m : Monitor) (r : Round) : Leads m (round m r).1 (round m r).2 := by
  have hmade : m.deadline ≤ max m.now m.deadline + r.late :=
    Nat.le_trans (Nat.le_max_right ..) (Nat.le_add_right ..)
  unfold round
  dsimp only
  split
  · exact ⟨hmade, Nat.le_refl _, Nat.le_refl _, rfl⟩
  · split
    · exact ⟨hmade, Nat.le_refl _, Nat.le_refl _, rfl⟩
    · obtain ⟨hleast, hlongest⟩ := calculateBackoff_bounds (m.consecutiveFailures + 1) r.random
      exact ⟨hmade, Nat.add_le_add_left (Nat.mul_le_mul_right _ hleast) _,
        Nat.add_le_add_left (Nat.mul_le_mul_right _ hlongest) _, rfl⟩

theorem made_round (m : Monitor) (r : Round) :
    (round m r).1.made = max m.now m.deadline + r.late := by
  unfold round
  dsimp only
  split
  · rfl
  · split <;> rfl

/-- However late the rounds run, the `n`-th check is not made before the
`n`-th tick. -/
theorem made_ge : ∀ {rs : List Round} {m : Monitor} {n : Nat} {c : Check},
    (checks m rs)[n]? = some c → m.deadline + n * checkInterval ≤ c.made := by
  intro rs
  induction rs with
  | nil => intro m n c h; simp [checks] at h
  | cons r rs ih =>
      intro m n c h
      have hleads := round_leads m r
      cases n with
      | zero =>
          obtain rfl := Option.some.inj h
          simpa using hleads.made
      | succ n =>
          have hrest : (round m r).2.deadline + n * checkInterval ≤ c.made := ih h
          calc m.deadline + (n + 1) * checkInterval
              = (m.deadline + checkInterval) + n * checkInterval := by
                rw [Nat.succ_mul, Nat.add_comm (n * checkInterval), Nat.add_assoc]
            _ = (round m r).2.deadline + n * checkInterval := by rw [hleads.deadline]
            _ ≤ c.made := hrest

def Outcome.failures : Outcome → Nat
  | .failed failures => failures
  | _ => 0

/-- How a check follows the one before it. -/
structure Follows (c c' : Check) (late : Duration) : Prop where
  /-- Not before the pause is over. -/
  after : c.ended + c.outcome.leastPause ≤ c'.made
  /-- When the pause is over, or the next tick has come. -/
  soon : c'.made ≤ max (c.ended + c.outcome.longestPause) (c.made + checkInterval) + late
  /-- The failures are counted from the last check that found, or made, a
  connection. -/
  counted : ∀ failures, c'.outcome = .failed failures → failures = c.outcome.failures + 1

theorem consecutiveFailures_round (m : Monitor) (r : Round) :
    (round m r).2.consecutiveFailures = (round m r).1.outcome.failures := by
  unfold round
  dsimp only
  split
  · rfl
  · split <;> rfl

theorem failures_of_failed {m : Monitor} {r : Round} {failures : Nat}
    (h : (round m r).1.outcome = .failed failures) : failures = m.consecutiveFailures + 1 := by
  unfold round at h
  dsimp only at h
  split at h
  · cases h
  · split at h
    · cases h
    · exact (Outcome.failed.inj h).symm

theorem round_follows (m : Monitor) (r r' : Round) :
    Follows (round m r).1 (round (round m r).2 r').1 r'.late := by
  have hleads := round_leads m r
  have hmade := made_round (round m r).2 r'
  refine ⟨?_, ?_, fun failures h => ?_⟩
  · rw [hmade]
    exact Nat.le_trans hleads.least
      (Nat.le_trans (Nat.le_max_left ..) (Nat.le_add_right ..))
  · rw [hmade, hleads.deadline]
    exact Nat.add_le_add_right
      (max_le_max hleads.longest (Nat.add_le_add_right hleads.made _)) _
  · rw [failures_of_failed h, consecutiveFailures_round]

theorem follows : ∀ {rs : List Round} {m : Monitor} {n : Nat} {c c' : Check} {r' : Round},
    (checks m rs)[n]? = some c → (checks m rs)[n + 1]? = some c' → rs[n + 1]? = some r' →
      Follows c c' r'.late := by
  intro rs
  induction rs with
  | nil => intro m n c c' r' h; simp [checks] at h
  | cons r rs ih =>
      intro m n c c' r' h h' hr'
      cases n with
      | zero =>
          cases rs with
          | nil => simp at hr'
          | cons r₂ rs =>
              obtain rfl := Option.some.inj h
              obtain rfl := Option.some.inj h'
              obtain rfl := Option.some.inj hr'
              exact round_follows m r r₂
      | succ n => exact ih h h' hr'

/-- The checks of a run: there are no more than ticks, and each follows the
one before it after the pause its outcome asks for. -/
structure Paced (m : Monitor) (rs : List Round) : Prop where
  ticks : ∀ n c, (checks m rs)[n]? = some c → m.deadline + n * checkInterval ≤ c.made
  follows : ∀ n c c' r', (checks m rs)[n]? = some c → (checks m rs)[n + 1]? = some c' →
    rs[n + 1]? = some r' → Follows c c' r'.late

theorem paced (m : Monitor) (rs : List Round) : Paced m rs where
  ticks := fun _ _ h => made_ge h
  follows := fun _ _ _ _ h h' hr' => HealthMonitor.follows h h' hr'

/-- The monitor is between two rounds. -/
structure Between (m : Monitor) (s : State) : Prop where
  config : s.config = m.config
  waiting : s.phase = .waiting
  failures : s.consecutiveFailures = m.consecutiveFailures

theorem Monitor.config_mk (cfg : Config) (now deadline : Duration) (failures : Nat) :
    (Monitor.mk cfg now deadline failures).config = cfg := rfl

theorem config_round (m : Monitor) (r : Round) : (round m r).2.config = m.config := by
  unfold round
  dsimp only
  split
  · exact Monitor.config_mk ..
  · split
    · exact Monitor.config_mk ..
    · exact Monitor.config_mk ..

theorem consecutiveFailures_of_connected {m : Monitor} {r : Round} (h : r.isConnected = true) :
    (round m r).2.consecutiveFailures = 0 := by
  unfold round
  dsimp only
  rw [if_pos h]

theorem consecutiveFailures_of_reconnect {m : Monitor} {r : Round} (h : r.isConnected = false) :
    (round m r).2.consecutiveFailures
      = match (reconnect r.net r.selectBest m.config).result with
        | .ok _ => 0
        | .error _ => m.consecutiveFailures + 1 := by
  have hif : ¬ r.isConnected = true := by simp [h]
  unfold round
  dsimp only
  rw [if_neg hif]
  split <;> rfl

/-- A round is a run of the untimed monitor. -/
theorem round_run {m : Monitor} {r : Round} {s : State} (h : Between m s)
    (hconn : s.transport.isConnected = r.isConnected) :
    ∃ as t, Lts.run step s as = some t ∧ Between (round m r).2 t := by
  obtain ⟨hconfig, hwaiting, hfailures⟩ := h
  have hconfig' : s.config = (round m r).2.config := hconfig.trans (config_round m r).symm
  cases hr : r.isConnected with
  | true =>
      rw [hr] at hconn
      refine ⟨[.healthCheck], { s with consecutiveFailures := 0 }, ?_, hconfig', hwaiting,
        (consecutiveFailures_of_connected hr).symm⟩
      simp [Lts.run, step, hwaiting, hconn]
  | false =>
      rw [hr] at hconn
      have hcount := consecutiveFailures_of_reconnect (m := m) hr
      cases hresult : (reconnect r.net r.selectBest m.config).result with
      | ok transport =>
          rw [hresult] at hcount
          refine ⟨[.healthCheck, .reconnected r.net r.selectBest r.random, .install],
            { s with
              transport := transport
              phase := .waiting
              consecutiveFailures := 0
              attempts := s.attempts + 1 }, ?_, hconfig', rfl, hcount.symm⟩
          simp [Lts.run, step, hwaiting, hconn, hconfig, hresult]
      | error e =>
          rw [hresult] at hcount
          refine ⟨[.healthCheck, .reconnected r.net r.selectBest r.random, .wake],
            { s with
              phase := .waiting
              consecutiveFailures := s.consecutiveFailures + 1
              attempts := s.attempts + 1 }, ?_, hconfig', rfl,
            (congrArg (· + 1) hfailures).trans hcount.symm⟩
          simp [Lts.run, step, hwaiting, hconn, hconfig, hresult]

end HealthMonitor

end Slipstream
