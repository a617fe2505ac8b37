import Slipstream.LeaderHints
import Slipstream.Relay
import Slipstream.Transport

/-!
# gRPC subscriptions

Each `subscribe_*` call of the gRPC transport opens a server stream of its
own and starts a task that converts what comes on it and puts it into a
channel of 32 places. The task ends with its stream, or when the receiver
is gone; a `disconnect` of the transport drops the client and the session
but not the streams.

The model runs any number of subscriptions side by side, with the calls
of the transport, the server and the application between their steps.
Nothing a server sends on a stream is lost, repeated or handed to another
subscription (`delivers_along`), and no subscription waits for another
one, for the server or for the transport (`can_catch_up`).
-/

namespace Slipstream

/-! ## The messages -/

structure GrpcAlternativeSender where
  sender : String
  tipAmountSol : Float
  confidence : UInt32
deriving DecidableEq

structure GrpcTipInstruction where
  timestamp : UInt64
  sender : String
  senderName : String
  tipWalletAddress : String
  tipAmountSol : Float
  tipTier : String
  expectedLatencyMs : UInt32
  confidence : UInt32
  validUntilSlot : UInt64
  alternativeSenders : List GrpcAlternativeSender
deriving DecidableEq

/-- `GrpcTransport::convert_tip_instruction`. -/
def GrpcTipInstruction.convert (proto : GrpcTipInstruction) : TipInstruction where
  timestamp := proto.timestamp
  sender := proto.sender
  senderName := proto.senderName
  tipWalletAddress := proto.tipWalletAddress
  tipAmountSol := proto.tipAmountSol
  tipTier := proto.tipTier
  expectedLatencyMs := proto.expectedLatencyMs
  confidence := proto.confidence
  validUntilSlot := proto.validUntilSlot
  alternativeSenders :=
    proto.alternativeSenders.map fun a => ⟨a.sender, a.tipAmountSol, a.confidence⟩

structure GrpcPriorityFee where
  timestamp : UInt64
  speed : String
  computeUnitPrice : UInt64
  computeUnitLimit : UInt32
  estimatedCostSol : Float
  landingProbability : UInt32
  networkCongestion : String
  recentSuccessRate : Float
deriving DecidableEq

/-- `GrpcTransport::convert_priority_fee`. -/
def GrpcPriorityFee.convert (proto : GrpcPriorityFee) : PriorityFee where
  timestamp := proto.timestamp
  speed := proto.speed
  computeUnitPrice := proto.computeUnitPrice
  computeUnitLimit := proto.computeUnitLimit
  estimatedCostSol := proto.estimatedCostSol
  landingProbability := proto.landingProbability
  networkCongestion := proto.networkCongestion
  recentSuccessRate := proto.recentSuccessRate

/-- A message of one of the five server streams. The last two have the
fields of the SDK's own types. -/
inductive GrpcMessage where
  | leaderHint (proto : GrpcLeaderHint)
  | tipInstruction (proto : GrpcTipInstruction)
  | priorityFee (proto : GrpcPriorityFee)
  | latestBlockhash (proto : LatestBlockhash)
  | latestSlot (proto : LatestSlot)

namespace GrpcMessage

def kind : GrpcMessage → StreamKind
  | .leaderHint _ => .leaderHints
  | .tipInstruction _ => .tipInstructions
  | .priorityFee _ => .priorityFees
  | .latestBlockhash _ => .latestBlockhash
  | .latestSlot _ => .latestSlot

def convert : GrpcMessage → StreamItem
  | .leaderHint proto => .leaderHint proto.convert
  | .tipInstruction proto => .tipInstruction proto.convert
  | .priorityFee proto => .priorityFee proto.convert
  | .latestBlockhash proto =>
      .latestBlockhash ⟨proto.blockhash, proto.lastValidBlockHeight, proto.timestamp⟩
  | .latestSlot proto => .latestSlot ⟨proto.slot, proto.timestamp⟩

end GrpcMessage

/-- The type of the channel an item belongs to. -/
def StreamItem.kind : StreamItem → StreamKind
  | .leaderHint _ => .leaderHints
  | .tipInstruction _ => .tipInstructions
  | .priorityFee _ => .priorityFees
  | .latestBlockhash _ => .latestBlockhash
  | .latestSlot _ => .latestSlot

theorem GrpcMessage.kind_convert (m : GrpcMessage) : m.convert.kind = m.kind := by
  cases m <;> rfl

namespace GrpcStreams

/-! ## Subscribing -/

structure SubscriptionRequest where
  apiKey : String
  region : String
deriving Repr, DecidableEq

/-- A subscription that was accepted. -/
structure Subscription where
  kind : StreamKind
  request : SubscriptionRequest
  relay : Relay.State GrpcMessage StreamItem := {}

def streamName : StreamKind → String
  | .leaderHints => "leader hints"
  | .tipInstructions => "tip instructions"
  | .priorityFees => "priority fees"
  | .latestBlockhash => "latest blockhash"
  | .latestSlot => "latest slot"

/-- `subscribe_leader_hints` .. `subscribe_latest_slot`, with what the server
answers. -/
def subscribe (t : GrpcTransport) (kind : StreamKind) (answer : Except String Unit) :
    Except SdkError Subscription :=
  if t.isConnected = false then .error .notConnected
  else
    match t.client, t.config with
    | some _, some config =>
        match answer with
        | .ok () => .ok { kind := kind, request := ⟨config.apiKey, config.region.getD ""⟩ }
        | .error e =>
            .error (.connection ("Failed to subscribe to " ++ streamName kind ++ ": " ++ e))
    | _, _ => .error .notConnected

/-! ## The runs -/

structure State where
  transport : GrpcTransport
  subscriptions : List Subscription := []

inductive Action where
  | connect (net : Network) (config : Config)
  | disconnect
  | subscribe (kind : StreamKind) (answer : Except String Unit)
  /-- Something happens to one subscription: on its stream, in its task or
  to its receiver. -/
  | stream (i : Nat) (a : Relay.Action GrpcMessage)

/-- The places of a subscription's channel. -/
def capacity : Nat := 32

/-- A stream carries messages of its own type only. -/
def fits (kind : StreamKind) : Relay.Action GrpcMessage → Bool
  | .write m => decide (m.kind = kind)
  | _ => true

def step (s : State) : Action → Option State
  | .connect net config => some { s with transport := (s.transport.connect net config).transport }
  | .disconnect => some { s with transport := s.transport.disconnect }
  | .subscribe kind answer =>
      match subscribe s.transport kind answer with
      | .ok sub => some { s with subscriptions := s.subscriptions ++ [sub] }
      | .error _ => some s
  | .stream i a =>
      match s.subscriptions[i]? with
      | none => none
      | some sub =>
          if fits sub.kind a then
            (Relay.step GrpcMessage.convert capacity sub.relay a).map fun relay =>
              { s with subscriptions := s.subscriptions.set i { sub with relay := relay } }
          else none

/-- What each action does to the subscriptions. -/
inductive Step (s : State) : Action → List Subscription → Prop where
  | transport {a : Action} : Step s a s.subscriptions
  | opened {kind : StreamKind} {answer : Except String Unit} {sub : Subscription}
      (hsub : subscribe s.transport kind answer = .ok sub) :
      Step s (.subscribe kind answer) (s.subscriptions ++ [sub])
  | stream {i : Nat} {a : Relay.Action GrpcMessage} {sub : Subscription}
      {relay : Relay.State GrpcMessage StreamItem} (hsub : s.subscriptions[i]? = some sub)
      (hfits : fits sub.kind a = true)
      (hrelay : Relay.step GrpcMessage.convert capacity sub.relay a = some relay) :
      Step s (.stream i a) (s.subscriptions.set i { sub with relay := relay })

theorem step_cases {s t : State} {a : Action} (h : step s a = some t) :
    Step s a t.subscriptions := by
  cases a with
  | connect net config => exact Option.some.inj h ▸ .transport
  | disconnect => exact Option.some.inj h ▸ .transport
  | subscribe kind answer =>
      simp only [step] at h
      split at h
      · rename_i sub hsub
        exact Option.some.inj h ▸ .opened hsub
      · exact Option.some.inj h ▸ .transport
  | stream i a =>
      simp only [step] at h
      split at h
      · cases h
      · rename_i sub hsub
        split at h
        · rename_i hfits
          obtain ⟨relay, hrelay, rfl⟩ := Option.map_eq_some_iff.mp h
          exact .stream hsub hfits hrelay
        · cases h

/-! ## What is delivered -/

/-- The state of one subscription: what its relay keeps, and that its stream
has its own messages only. -/
structure Sound (sub : Subscription) : Prop where
  relay : Relay.Inv GrpcMessage.convert capacity sub.relay
  own : ∀ m ∈ sub.relay.written, m.kind = sub.kind

def Inv (s : State) : Prop := ∀ sub ∈ s.subscriptions, Sound sub

theorem sound_of_subscribe {t : GrpcTransport} {kind : StreamKind} {answer : Except String Unit}
    {sub : Subscription} (h : subscribe t kind answer = .ok sub) : Sound sub := by
  unfold subscribe at h
  split at h
  · cases h
  · split at h
    · split at h
      · obtain rfl := Except.ok.inj h
        exact ⟨Relay.inv_init, fun m hm => by cases hm⟩
      · cases h
    · cases h

theorem Sound.step {sub : Subscription} {relay : Relay.State GrpcMessage StreamItem}
    {a : Relay.Action GrpcMessage} (h : Sound sub) (hfits : fits sub.kind a = true)
    (hrelay : Relay.step GrpcMessage.convert capacity sub.relay a = some relay) :
    Sound { sub with relay := relay } := by
  refine ⟨h.relay.step hrelay, ?_⟩
  show ∀ m ∈ relay.written, m.kind = sub.kind
  cases Relay.step_cases hrelay with
  | @write m hopen =>
      intro m' hm'
      rcases List.mem_append.mp hm' with hold | hnew
      · exact h.own m' hold
      · rw [List.mem_singleton.mp hnew]
        exact of_decide_eq_true hfits
  | finish => exact h.own
  | read => exact h.own
  | sawEnd => exact h.own
  | sawDrop => exact h.own
  | send => exact h.own
  | take => exact h.own
  | drop => exact h.own

theorem Inv.step {s t : State} {a : Action} (h : Inv s) (hstep : step s a = some t) : Inv t := by
  intro sub hsub
  generalize hsubs : t.subscriptions = subs at hsub
  have hcases := step_cases hstep
  rw [hsubs] at hcases
  cases hcases with
  | transport => exact h sub hsub
  | opened hopened =>
      rcases List.mem_append.mp hsub with hold | hnew
      · exact h sub hold
      · rw [List.mem_singleton.mp hnew]
        exact sound_of_subscribe hopened
  | stream hget hfits hrelay =>
      rcases List.mem_or_eq_of_mem_set hsub with hold | rfl
      · exact h sub hold
      · exact (h _ (List.mem_of_getElem? hget)).step hfits hrelay

/-- What the receiver of a subscription gets. -/
structure Delivers (sub : Subscription) : Prop where
  /-- In order, from the start, and nothing else. -/
  inOrder : sub.relay.taken <+: sub.relay.written.map GrpcMessage.convert
  kind : ∀ item ∈ sub.relay.taken, item.kind = sub.kind
  /-- Nothing is dropped while there is a receiver. -/
  kept : sub.relay.receiver = true →
    sub.relay.taken ++ sub.relay.channel ++ sub.relay.task.held
        ++ sub.relay.unread.map GrpcMessage.convert
      = sub.relay.written.map GrpcMessage.convert
  /-- A channel that is closed and empty has handed over the whole stream,
  and the stream has ended. -/
  complete : sub.relay.receiver = true → sub.relay.task = .ended → sub.relay.channel = [] →
    sub.relay.finished = true ∧ sub.relay.taken = sub.relay.written.map GrpcMessage.convert

theorem Sound.delivers {sub : Subscription} (h : Sound sub) : Delivers sub where
  inOrder := h.relay.taken
  kind := by
    intro item hitem
    obtain ⟨m, hm, rfl⟩ := List.mem_map.mp (h.relay.taken.subset hitem)
    rw [m.kind_convert]
    exact h.own m hm
  kept := h.relay.whole
  complete := fun halive hended hempty => h.relay.complete hended halive hempty

/-- In every state of every run, whatever becomes of the transport and of the
other subscriptions. -/
theorem delivers_along (t : GrpcTransport) (as : List Action) :
    Lts.Along step (fun s => ∀ sub ∈ s.subscriptions, Delivers sub) { transport := t } as := by
  have hinit : Inv { transport := t } := fun sub hsub => by cases hsub
  exact (Lts.along_of_inv (fun _ _ _ => Inv.step) hinit).mono fun s h sub hsub =>
    (h sub hsub).delivers

/-! ## Catching up -/

/-- The task and the receiver of subscription `i`. -/
def Own (i : Nat) : Action → Prop
  | .stream j a => j = i ∧ Relay.Own a
  | _ => False

/-- Subscription `i` has this relay. -/
def Has (i : Nat) (relay : Relay.State GrpcMessage StreamItem) (s : State) : Prop :=
  ∃ sub, s.subscriptions[i]? = some sub ∧ sub.relay = relay

theorem Has.follow {i : Nat} {relay relay' : Relay.State GrpcMessage StreamItem} {s : State}
    {a : Relay.Action GrpcMessage} (h : Has i relay s) (hown : Relay.Own a)
    (hstep : Relay.step GrpcMessage.convert capacity relay a = some relay') :
    ∃ b t, Own i b ∧ step s b = some t ∧ Has i relay' t := by
  obtain ⟨sub, hsub, rfl⟩ := h
  have hfits : fits sub.kind a = true := by
    cases a with
    | read => rfl
    | send => rfl
    | take => rfl
    | write m => cases hown
    | finish => cases hown
    | drop => cases hown
  have hi : i < s.subscriptions.length := (List.getElem?_eq_some_iff.mp hsub).1
  refine ⟨.stream i a,
    { s with subscriptions := s.subscriptions.set i { sub with relay := relay' } },
    ⟨rfl, hown⟩, ?_, { sub with relay := relay' }, List.getElem?_set_self hi, rfl⟩
  simp [step, hsub, hfits, hstep]

/-- A receiver that is alive gets all that was written on its stream so far
by the steps of its own task, wherever the others stand and whether or not
the transport is still connected. -/
theorem can_catch_up {t : GrpcTransport} {as : List Action} {s : State} {i : Nat}
    {sub : Subscription} (hreach : Lts.run step { transport := t } as = some s)
    (hsub : s.subscriptions[i]? = some sub) (halive : sub.relay.receiver = true) :
    Lts.Can step (Own i) (fun u => ∃ relay, Has i relay u
      ∧ Relay.CaughtUp GrpcMessage.convert sub.relay.written relay) s := by
  have hinit : Inv { transport := t } := fun sub hsub => by cases hsub
  have hinv : Inv s :=
    Lts.along_of_inv (fun _ _ _ => Inv.step) hinit as s (List.prefix_refl _) hreach
  have hsound := hinv sub (List.mem_of_getElem? hsub)
  exact Lts.Can.simulate (R := Has i) (fun _ _ _ _ h hown hstep => h.follow hown hstep)
    ⟨sub, hsub, rfl⟩ (hsound.relay.can_reach_caughtUp (by decide) halive)

def onWorker : GrpcTransport where
  client := some "http://203.0.113.10:10000"
  config := some { apiKey := "sk_test_12345678" }
  connected := true

/-- A slot is written, and the transport disconnected before it is read. -/
def disconnecting : List Action :=
  [.subscribe .latestSlot (.ok ()), .stream 0 (.write (.latestSlot ⟨7, 1⟩)), .disconnect]

def unreadSlot : Subscription where
  kind := .latestSlot
  request := ⟨"sk_test_12345678", ""⟩
  relay := { written := [.latestSlot ⟨7, 1⟩], unread := [.latestSlot ⟨7, 1⟩] }

def disconnected : State where
  transport := onWorker.disconnect
  subscriptions := [unreadSlot]

theorem slot_taken_after_disconnect :
    Lts.Can step (Own 0) (fun u => ∃ relay, Has 0 relay u
      ∧ Relay.CaughtUp GrpcMessage.convert unreadSlot.relay.written relay) disconnected := by
  have hrun : Lts.run step { transport := onWorker } disconnecting = some disconnected := rfl
  have hsub : disconnected.subscriptions[0]? = some unreadSlot := rfl
  exact can_catch_up hrun hsub rfl

end GrpcStreams

end Slipstream
