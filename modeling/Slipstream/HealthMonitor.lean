import Mathlib.Algebra.Group.Nat.Defs
import Slipstream.Connect
import Slipstream.Lts

/-!
# The health monitor and disconnect

A connected client shares its transport with two background tasks. The
keepalive task pings until the transport is disconnected or a ping
fails. The health monitor reads `is_connected` on every tick and, when
it is false, starts a reconnect whose transport replaces the shared one.

`disconnect` stops the keepalive task and disconnects the transport; it
does not stop the monitor, which cannot tell a user's disconnect from a
lost connection. `final_iff_noLateCheck` is the exact condition under
which a disconnect is final: no health check runs after it has returned.
-/

namespace Slipstream

namespace HealthMonitor

/-! ## Backoff -/

/-- Exponential backoff in milliseconds, capped at a minute, with a
jitter of a quarter either way. -/
def calculateBackoff (attempt random : Nat) : Nat :=
  let exp := min attempt 6
  let baseMs : Nat := 1000 * 2 ^ exp
  let cappedMs : Nat := min baseMs 60000
  let jitterRange : Nat := cappedMs / 4
  let jitter : Int :=
    if 0 < jitterRange then (↑(random % (jitterRange * 2)) : Int) - ↑jitterRange else 0
  (max (↑cappedMs + jitter) 100).toNat

/-! ## The client, its monitor and its keepalive task -/

inductive Phase where
  | waiting
  | reconnecting
  /-- A connected transport that is not in place yet. -/
  | installing (transport : Transport)
  | backingOff (ms : Nat)
deriving DecidableEq

inductive Keepalive where
  | off
  | running
  | stopped
deriving Repr, DecidableEq

/-- `attempts` counts the connection attempts the monitor has started,
`disconnected` says that a call of `disconnect` has returned. -/
structure State where
  config : Config
  transport : Transport
  phase : Phase := .waiting
  consecutiveFailures : Nat := 0
  keepalive : Keepalive
  attempts : Nat := 0
  disconnected : Bool := false

inductive Action where
  | healthCheck
  /-- What a reconnect comes to is up to the network. -/
  | reconnected (net : Network) (selectBest : Except SdkError WorkerEndpoint)
      (random : Nat)
  | install
  | wake
  | keepalivePing (ok : Bool)
  /-- `disconnect` aborts the keepalive task, then takes the transport. -/
  | abortKeepalive
  | disconnect
  /-- Any other call of the user: they share the transport and leave its
  connected flag alone. -/
  | userCall

def step (s : State) : Action → Option State
  | .healthCheck =>
      if s.phase = .waiting then
        if s.transport.isConnected then some { s with consecutiveFailures := 0 }
        else some { s with phase := .reconnecting, attempts := s.attempts + 1 }
      else none
  | .reconnected net selectBest random =>
      if s.phase = .reconnecting then
        match (reconnect net selectBest s.config).result with
        | .ok transport => some { s with phase := .installing transport }
        | .error _ =>
            let failures := s.consecutiveFailures + 1
            some
              { s with
                consecutiveFailures := failures
                phase := .backingOff (calculateBackoff failures random) }
      else none
  | .install =>
      match s.phase with
      | .installing transport =>
          some
            { s with
              transport := transport
              phase := .waiting
              consecutiveFailures := 0 }
      | _ => none
  | .wake =>
      match s.phase with
      | .backingOff _ => some { s with phase := .waiting }
      | _ => none
  | .keepalivePing ok =>
      if s.keepalive = .running then
        if s.transport.isConnected ∧ ok then some s
        else some { s with keepalive := .stopped }
      else none
  | .abortKeepalive =>
      some { s with keepalive := if s.keepalive = .off then .off else .stopped }
  | .disconnect =>
      some { s with transport := s.transport.disconnect, disconnected := true }
  | .userCall => some s

/-- What each action can do, in one place. -/
inductive Step (s : State) : Action → State → Prop where
  | healthy (hwait : s.phase = .waiting) (hconn : s.transport.isConnected = true) :
      Step s .healthCheck { s with consecutiveFailures := 0 }
  | lost (hwait : s.phase = .waiting) (hconn : s.transport.isConnected = false) :
      Step s .healthCheck { s with phase := .reconnecting, attempts := s.attempts + 1 }
  | dialled {net selectBest random transport} (hphase : s.phase = .reconnecting) :
      Step s (.reconnected net selectBest random)
        { s with phase := .installing transport }
  | dialFailed {net selectBest random failures ms} (hphase : s.phase = .reconnecting) :
      Step s (.reconnected net selectBest random)
        { s with consecutiveFailures := failures, phase := .backingOff ms }
  | install {transport} (hphase : s.phase = .installing transport) :
      Step s .install
        { s with transport := transport, phase := .waiting, consecutiveFailures := 0 }
  | wake {ms} (hphase : s.phase = .backingOff ms) :
      Step s .wake { s with phase := .waiting }
  | ping {ok keepalive} : Step s (.keepalivePing ok) { s with keepalive := keepalive }
  | abortKeepalive {keepalive} : Step s .abortKeepalive { s with keepalive := keepalive }
  | disconnect :
      Step s .disconnect { s with transport := s.transport.disconnect, disconnected := true }
  | userCall : Step s .userCall s

theorem step_cases {s t : State} {a : Action} (h : step s a = some t) : Step s a t := by
  cases a with
  | healthCheck =>
      simp only [step] at h
      split at h
      · rename_i hwait
        split at h
        · rename_i hconn
          exact Option.some.inj h ▸ .healthy hwait hconn
        · rename_i hconn
          exact Option.some.inj h ▸ .lost hwait (Bool.not_eq_true _ ▸ hconn)
      · cases h
  | reconnected net selectBest random =>
      simp only [step] at h
      split at h
      · rename_i hphase
        split at h
        · exact Option.some.inj h ▸ .dialled hphase
        · exact Option.some.inj h ▸ .dialFailed hphase
      · cases h
  | install =>
      simp only [step] at h
      split at h
      · rename_i transport hphase
        exact Option.some.inj h ▸ .install hphase
      · cases h
  | wake =>
      simp only [step] at h
      split at h
      · rename_i ms hphase
        exact Option.some.inj h ▸ .wake hphase
      · cases h
  | keepalivePing ok =>
      simp only [step] at h
      split at h
      · split at h
        · exact Option.some.inj h ▸ .ping
        · exact Option.some.inj h ▸ .ping
      · cases h
  | abortKeepalive => exact Option.some.inj h ▸ .abortKeepalive
  | disconnect => exact Option.some.inj h ▸ .disconnect
  | userCall => exact Option.some.inj h ▸ .userCall

/-- The client as `finish_connect` sets it up. -/
def init (config : Config) (transport : Transport) : State where
  config := config
  transport := transport
  keepalive := if config.keepalive then .running else .off

/-! ## Disconnect is final -/

/-- Once `disconnect` has returned the transport is not connected and no
connection attempt has been started. -/
def Final (s : State) : Prop :=
  s.disconnected = true → s.transport.isConnected = false ∧ s.attempts = 0

/-- No health check after a disconnect. -/
def NoLateCheck (s : State) : Action → Prop
  | .healthCheck => s.disconnected = false
  | _ => True

/-- Up to the first attempt the monitor only waits, and the transport is
connected until it is disconnected. -/
structure Idle (s : State) : Prop where
  connected : s.disconnected = false → s.transport.isConnected = true ∧ s.attempts = 0
  waiting : s.attempts = 0 → s.phase = .waiting
    ∧ (s.disconnected = true → s.transport.isConnected = false)

theorem idle_init {config : Config} {transport : Transport}
    (h : transport.isConnected = true) : Idle (init config transport) where
  connected := fun _ => ⟨h, rfl⟩
  waiting := fun _ => ⟨rfl, fun hd => by cases hd⟩

/-- With no attempt started a disconnect has been final so far. -/
theorem Idle.final_iff {s : State} (h : Idle s) : Final s ↔ s.attempts = 0 := by
  constructor
  · intro hf
    cases hd : s.disconnected with
    | true => exact (hf hd).2
    | false => exact (h.connected hd).2
  · exact fun h0 hd => ⟨(h.waiting h0).2 hd, h0⟩

/-- A reconnect is under way only after an attempt. -/
theorem Idle.attempts_ne {s : State} (h : Idle s) (hphase : s.phase ≠ .waiting) :
    s.attempts ≠ 0 := fun h0 => hphase (h.waiting h0).1

theorem idle_step {s t : State} {a : Action} (h : Idle s) (hstep : step s a = some t) :
    Idle t := by
  cases step_cases hstep with
  | healthy => exact ⟨h.connected, h.waiting⟩
  | lost hwait hconn =>
      refine ⟨fun hd => ?_, fun h0 => by cases h0⟩
      rw [(h.connected hd).1] at hconn
      cases hconn
  | dialled hphase =>
      have hne := h.attempts_ne (by rw [hphase]; simp)
      exact ⟨h.connected, fun h0 => absurd h0 hne⟩
  | dialFailed hphase =>
      have hne := h.attempts_ne (by rw [hphase]; simp)
      exact ⟨h.connected, fun h0 => absurd h0 hne⟩
  | install hphase =>
      have hne := h.attempts_ne (by rw [hphase]; simp)
      exact ⟨fun hd => absurd (h.connected hd).2 hne, fun h0 => absurd h0 hne⟩
  | wake hphase => exact ⟨h.connected, fun h0 => ⟨rfl, (h.waiting h0).2⟩⟩
  | ping => exact ⟨h.connected, h.waiting⟩
  | abortKeepalive => exact ⟨h.connected, h.waiting⟩
  | disconnect =>
      exact ⟨fun hd => (by cases hd),
        fun h0 => ⟨(h.waiting h0).1, fun _ => s.transport.isConnected_disconnect⟩⟩
  | userCall => exact h

/-- A step keeps the disconnect final exactly when it is not a late
health check. -/
theorem final_step_iff {s t : State} {a : Action} (h : Idle s) (hf : Final s)
    (hstep : step s a = some t) : Final t ↔ NoLateCheck s a := by
  have h0 : s.attempts = 0 := h.final_iff.mp hf
  rw [(idle_step h hstep).final_iff]
  cases step_cases hstep with
  | healthy hwait hconn =>
      refine iff_of_true h0 ?_
      cases hd : s.disconnected with
      | false => exact hd
      | true =>
          rw [(hf hd).1] at hconn
          cases hconn
  | lost hwait hconn =>
      refine iff_of_false (Nat.succ_ne_zero _) fun hd => ?_
      rw [(h.connected hd).1] at hconn
      cases hconn
  | dialled => exact iff_of_true h0 trivial
  | dialFailed => exact iff_of_true h0 trivial
  | install => exact iff_of_true h0 trivial
  | wake => exact iff_of_true h0 trivial
  | ping => exact iff_of_true h0 trivial
  | abortKeepalive => exact iff_of_true h0 trivial
  | disconnect => exact iff_of_true h0 trivial
  | userCall => exact iff_of_true h0 trivial

/-- In every state of a run a returned disconnect has been final exactly
when the run makes no health check after a disconnect. -/
theorem final_iff_noLateCheck {net : Network} {selectBest : Except SdkError WorkerEndpoint}
    {config : Config} {transport : Transport} {info : ConnectionInfo}
    (h : (SlipstreamClient.connect net selectBest config).result = .ok (transport, info))
    (as : List Action) :
    Lts.Along step Final (init config transport) as
      ↔ Lts.Guarded step NoLateCheck (init config transport) as := by
  have hidle : Idle (init config transport) :=
    idle_init (SlipstreamClient.isConnected_of_connect h)
  exact Lts.along_iff_guarded (fun _ _ _ => idle_step) (fun _ _ _ => final_step_iff)
    hidle (hidle.final_iff.mpr rfl)

/-! ## A client that comes back -/

instance : DecidablePred Final := fun s =>
  inferInstanceAs (Decidable (s.disconnected = true →
    s.transport.isConnected = false ∧ s.attempts = 0))

instance (s : State) : ∀ a, Decidable (NoLateCheck s a)
  | .healthCheck => inferInstanceAs (Decidable (s.disconnected = false))
  | .reconnected .. => isTrue trivial
  | .install => isTrue trivial
  | .wake => isTrue trivial
  | .keepalivePing _ => isTrue trivial
  | .abortKeepalive => isTrue trivial
  | .disconnect => isTrue trivial
  | .userCall => isTrue trivial

def quicClient : Transport :=
  .quic
    { connection := some FallbackChain.legacyQuic
      config := quicWorker.withLegacyEndpoint .quic
      connected := true
      sessionId := some "quic-sk_test_1" }

theorem quicClient_connected :
    (SlipstreamClient.connect quicMigration (.error .notConnected) quicWorker).result
      = .ok (quicClient, QuicTransport.connectionInfo quicMigration "quic-sk_test_1" none) := by
  decide

theorem quicClient_final :
    Lts.Along step Final (init quicWorker quicClient)
      [.healthCheck, .userCall, .abortKeepalive, .disconnect] :=
  (final_iff_noLateCheck quicClient_connected _).mpr (by decide)

/-- The next health check after a disconnect reconnects the client. -/
theorem quicClient_comes_back :
    let as : List Action :=
      [.abortKeepalive, .disconnect, .healthCheck,
        .reconnected quicMigration (.error .notConnected) 0, .install]
    (Lts.run step (init quicWorker quicClient) as).map
        (fun s => (s.disconnected, s.transport.isConnected, s.attempts))
        = some (true, true, 1)
      ∧ ¬ Lts.Along step Final (init quicWorker quicClient) as := by
  decide

end HealthMonitor

end Slipstream
