import Slipstream.Config
import Slipstream.Resubscribe

/-!
# The cached tip

A client caches a tip. `connect` fetches a first one over HTTP and puts
it into the cache; the subscriptions hand their tips to the receivers
they have returned, and `set_latest_tip`, which is there for them, is
called by the fetch alone. So the cache has the last tip that was fetched
(`getLatestTip_eq`), and it has the last tip that was received as long as
no subscription delivers another one (`latest_iff_deliversCached`).
-/

namespace Slipstream

/-! ## The initial fetch -/

/-- A tip as the worker has it, with serde's defaults. -/
structure RawTip where
  senderId : Option String := none
  tipWallet : Option String := none
  tipAmountLamports : UInt64 := 0
  tier : Option String := none
  expectedLatencyMs : UInt32 := 0
  confidence : UInt32 := 0
  validUntilSlot : UInt64 := 0
  timestamp : UInt64 := 0

def RawTip.toTipInstruction (now : UInt64) (raw : RawTip) : TipInstruction where
  timestamp := if 0 < raw.timestamp then raw.timestamp else now
  sender := raw.senderId.getD ""
  senderName := raw.senderId.getD ""
  tipWalletAddress := raw.tipWallet.getD ""
  tipAmountSol := raw.tipAmountLamports.toFloat / 1000000000
  tipTier := raw.tier.getD "standard"
  expectedLatencyMs := raw.expectedLatencyMs
  confidence := raw.confidence
  validUntilSlot := raw.validUntilSlot
  alternativeSenders := []

/-- What comes of a GET request for tips. -/
inductive TipResponse where
  /-- No response, or an error status. -/
  | failed
  /-- The body is not a list of tips. -/
  | unreadable
  | tips (tips : List RawTip)

/-- By URL and `Authorization` header. -/
abbrev TipServer : Type := String → String → TipResponse

/-- The tip that `fetch_initial_tip` puts into the cache. -/
def initialTip (config : Config) (get : TipServer) (now : UInt64) : Option TipInstruction :=
  let baseUrl := config.getEndpoint .http
  match get (baseUrl ++ "/v1/tip-instructions") ("Bearer " ++ config.apiKey) with
  | .failed => none
  | .unreadable => none
  | .tips tips => tips.getLast?.map (RawTip.toTipInstruction now)

namespace LatestTip

/-! ## The client and its subscriptions -/

/-- A tip that the client has received. -/
structure Received where
  tip : TipInstruction
  fetched : Bool
deriving DecidableEq

/-- `received` is a history, the latest last. -/
structure State where
  config : Config
  streams : Resubscribe.State := {}
  latestTip : Option TipInstruction := none
  received : List Received := []

inductive Action where
  | fetchInitialTip (get : TipServer) (now : UInt64)
  /-- `subscribe_tip_instructions`, the other subscriptions, dropped
  receivers and reconnects. -/
  | streams (a : Resubscribe.Action)
  /-- A subscription gives the tip to its receiver. -/
  | deliver (i : Nat) (tip : TipInstruction)

namespace State

def getLatestTip (s : State) : Option TipInstruction := s.latestTip

def setLatestTip (s : State) (tip : TipInstruction) : State :=
  { s with latestTip := some tip }

def fetchInitialTip (s : State) (get : TipServer) (now : UInt64) : State :=
  match initialTip s.config get now with
  | some tip => { s.setLatestTip tip with received := s.received ++ [⟨tip, true⟩] }
  | none => s

def deliver (s : State) (tip : TipInstruction) : State :=
  { s with received := s.received ++ [⟨tip, false⟩] }

end State

def step (s : State) : Action → Option State
  | .fetchInitialTip get now => some (s.fetchInitialTip get now)
  | .streams a => (Resubscribe.step s.streams a).map fun streams => { s with streams := streams }
  | .deliver i tip =>
      match s.streams.receivers[i]? with
      | some r =>
          if r.kind = .tipInstructions ∧ r.alive = true then some (s.deliver tip) else none
      | none => none

/-- What each action can do, in one place. -/
inductive Step (s : State) : Action → State → Prop where
  | fetched {get : TipServer} {now : UInt64} {tip : TipInstruction}
      (htip : initialTip s.config get now = some tip) :
      Step s (.fetchInitialTip get now)
        { s with latestTip := some tip, received := s.received ++ [⟨tip, true⟩] }
  | fetchedNone {get : TipServer} {now : UInt64} : Step s (.fetchInitialTip get now) s
  | streams {a : Resubscribe.Action} {streams : Resubscribe.State} :
      Step s (.streams a) { s with streams := streams }
  | delivered {i : Nat} {tip : TipInstruction} :
      Step s (.deliver i tip) { s with received := s.received ++ [⟨tip, false⟩] }

theorem step_cases {s t : State} {a : Action} (h : step s a = some t) : Step s a t := by
  cases a with
  | fetchInitialTip get now =>
      obtain rfl := Option.some.inj h
      unfold State.fetchInitialTip
      cases htip : initialTip s.config get now with
      | some tip => exact .fetched htip
      | none => exact .fetchedNone
  | streams a =>
      obtain ⟨streams, -, rfl⟩ := Option.map_eq_some_iff.mp h
      exact .streams
  | deliver i tip =>
      simp only [step] at h
      split at h
      · split at h
        · exact Option.some.inj h ▸ .delivered
        · cases h
      · cases h

/-! ## What the cache has -/

/-- The last of some received tips. -/
def lastTip (received : List Received) : Option TipInstruction :=
  received.getLast?.map Received.tip

theorem lastTip_append (received : List Received) (r : Received) :
    lastTip (received ++ [r]) = some r.tip := by
  rw [lastTip, List.getLast?_concat, Option.map_some]

/-- The cache has the last tip that was fetched. -/
def Fetched (s : State) : Prop :=
  s.getLatestTip = lastTip (s.received.filter Received.fetched)

theorem fetched_step {s t : State} {a : Action} (h : Fetched s) (hstep : step s a = some t) :
    Fetched t := by
  cases step_cases hstep with
  | @fetched get now tip htip =>
      have hfilter : (s.received ++ [(⟨tip, true⟩ : Received)]).filter Received.fetched
          = s.received.filter Received.fetched ++ [⟨tip, true⟩] := by
        rw [List.filter_append, List.filter_singleton]
        rfl
      unfold Fetched
      rw [hfilter, lastTip_append]
      rfl
  | fetchedNone => exact h
  | streams => exact h
  | @delivered i tip =>
      have hfilter : (s.received ++ [(⟨tip, false⟩ : Received)]).filter Received.fetched
          = s.received.filter Received.fetched := by
        rw [List.filter_append, List.filter_singleton]
        exact List.append_nil _
      unfold Fetched
      rw [hfilter]
      exact h

theorem getLatestTip_eq {config : Config} {as : List Action} {t : State}
    (hrun : Lts.run step { config := config } as = some t) :
    t.getLatestTip = lastTip (t.received.filter Received.fetched) :=
  Lts.along_of_inv (fun _ _ _ => fetched_step) (rfl : Fetched { config := config }) as t
    (List.prefix_refl as) hrun

/-- The cache has the last tip that was received. -/
def Latest (s : State) : Prop :=
  s.getLatestTip = lastTip s.received

/-- A subscription delivers the tip that is in the cache. -/
def DeliversCached (s : State) : Action → Prop
  | .deliver _ tip => s.latestTip = some tip
  | _ => True

theorem latest_step_iff {s t : State} {a : Action} (h : Latest s) (hstep : step s a = some t) :
    Latest t ↔ DeliversCached s a := by
  cases step_cases hstep with
  | fetched htip =>
      refine iff_of_true ?_ trivial
      unfold Latest
      rw [lastTip_append]
      rfl
  | fetchedNone => exact iff_of_true h trivial
  | streams => exact iff_of_true h trivial
  | @delivered i tip =>
      unfold Latest
      rw [lastTip_append]
      exact Iff.rfl

/-- In every state of a run the cache has the tip received last exactly if
the subscriptions deliver no other tip than the one that is cached. -/
theorem latest_iff_deliversCached (config : Config) (as : List Action) :
    Lts.Along step Latest { config := config } as
      ↔ Lts.Guarded step DeliversCached { config := config } as :=
  Lts.along_iff_guarded (fun _ _ _ (_ : True) _ => trivial) (fun _ _ _ _ => latest_step_iff)
    trivial rfl

def standardTip (now : UInt64) : TipInstruction :=
  RawTip.toTipInstruction now { senderId := some "nozomi" }

/-- A tip is fetched, a subscription opened, and another tip delivered. -/
def subscribing : List Action :=
  [.fetchInitialTip (fun _ _ => .tips [{ senderId := some "nozomi" }]) 1,
    .streams (.subscribe .tipInstructions), .streams (.opened .tipInstructions true),
    .deliver 0 (standardTip 2)]

theorem subscribing_not_latest :
    ∃ t, Lts.run step { config := { apiKey := "sk_test_12345678" } } subscribing = some t
      ∧ t.getLatestTip = some (standardTip 1)
      ∧ lastTip t.received = some (standardTip 2)
      ∧ ¬ Lts.Along step Latest { config := { apiKey := "sk_test_12345678" } } subscribing := by
  refine ⟨_, rfl, rfl, rfl, fun h => ?_⟩
  have hlast : some (standardTip 1) = some (standardTip 2) :=
    h _ _ (List.prefix_refl _) rfl
  have htime := congrArg TipInstruction.timestamp (Option.some.inj hlast)
  revert htime
  decide

end LatestTip

end Slipstream
