import Slipstream.SharedQueue
import Slipstream.WsSubmit

/-!
# One queue for all WebSocket consumers

The receiver task of a WebSocket connection puts every message of the
server into one queue. The forwarder tasks of the subscriptions and the
receive loops of the submissions in flight all take from it: each locks
the queue, takes one message and acts on it if it is one of its own;
any other message it drops.

So a message reaches its addressee only if no one else takes it first.
`nothingLost` settles when that cannot happen: exactly in the states
where every task that could take the next message is one it is meant
for, or it is meant for none.
-/

namespace Slipstream

namespace WsDemux

/-! ## The consumers -/

/-- The task behind a subscription, and the channel it fills. A full
channel makes the task wait, so nothing is dropped for lack of room. -/
structure Forwarder where
  kind : StreamKind
  running : Bool := true
  receiverAlive : Bool := true
  delivered : List StreamItem := []
deriving DecidableEq

/-- A submission is waiting in its receive loop until it has an answer:
an error, or the locals the loop was left with. -/
inductive Consumer where
  | forwarder (f : Forwarder)
  | submit (l : SubmitLoop)
  | answered (answer : Except SdkError SubmitLoop)
deriving DecidableEq

/-- What happens to a consumer other than a message: the application
drops a subscription's receiver, a submission's deadline passes. -/
inductive Event where
  | dropReceiver
  | timeout
deriving Repr, DecidableEq

/-- One round of the loop of `subscribe_*`, with whether the message was
handed to the subscriber. -/
def Forwarder.receive (f : Forwarder) (msg : ServerMessage) : Forwarder × Bool :=
  match msg.itemFor f.kind with
  | some item =>
      if f.receiverAlive then ({ f with delivered := f.delivered ++ [item] }, true)
      else ({ f with running := false }, false)
  | none => (f, false)

namespace Consumer

def running : Consumer → Bool
  | .forwarder f => f.running
  | .submit _ => true
  | .answered _ => false

def receive (c : Consumer) (msg : ServerMessage) : Consumer × Bool :=
  match c with
  | .forwarder f => (.forwarder (f.receive msg).1, (f.receive msg).2)
  | .submit l =>
      match l.onMessage msg with
      | .ignored => (.submit l, false)
      | .next l => (.submit l, true)
      | .finished l => (.answered (.ok l), true)
  | .answered answer => (.answered answer, false)

/-- The queue is empty and its sender gone. -/
def hungUp : Consumer → Consumer
  | .forwarder f => .forwarder { f with running := false }
  | .submit _ => .answered (.error (.connection "Connection closed"))
  | .answered answer => .answered answer

def event : Consumer → Event → Option Consumer
  | .forwarder f, .dropReceiver => some (.forwarder { f with receiverAlive := false })
  | .submit l, .timeout => some (.answered (.error (.timeout l.timeout)))
  | _, _ => none

/-- Is the message meant for this consumer: a live subscription of its
type, or the waiting submission with its request id? -/
def serves : Consumer → ServerMessage → Bool
  | .forwarder f, msg => f.running && f.receiverAlive && (msg.itemFor f.kind).isSome
  | .submit l, msg => decide (msg.requestId = some l.requestId)
  | .answered _, _ => false

end Consumer

/-- The receiver task answers heartbeats itself. -/
def queued : ServerMessage → Bool
  | .heartbeat => false
  | _ => true

def consumers : SharedQueue.Discipline Consumer ServerMessage Event where
  queued := queued
  running := Consumer.running
  receive := Consumer.receive
  hungUp := Consumer.hungUp
  event := Consumer.event
  serves := Consumer.serves

abbrev State := SharedQueue.State Consumer ServerMessage
abbrev Action := SharedQueue.Action Consumer ServerMessage Event
abbrev step : State → Action → Option State := SharedQueue.step consumers

/-- A `subscribe_*` call that succeeded. -/
def subscribe (kind : StreamKind) : Action := .join (.forwarder { kind := kind })

/-- A `submit_transaction` call that has sent its message. -/
def submit (requestId : String) (options : SubmitOptions) : Action :=
  .join (.submit (.start requestId options))

/-! ## Handing on -/

theorem Forwarder.receive_snd (f : Forwarder) (msg : ServerMessage) :
    (f.receive msg).2 = (f.receiverAlive && (msg.itemFor f.kind).isSome) := by
  unfold receive
  cases msg.itemFor f.kind with
  | none => simp
  | some item => cases f.receiverAlive <;> rfl

theorem Consumer.submit_receive_snd (l : SubmitLoop) (msg : ServerMessage) :
    ((Consumer.submit l).receive msg).2 = decide (msg.requestId = some l.requestId) := by
  have hignored := l.onMessage_eq_ignored_iff msg
  simp only [Consumer.receive]
  by_cases hid : msg.requestId = some l.requestId
  · cases h : l.onMessage msg with
    | ignored => exact absurd hid (hignored.mp h)
    | next l' => simp [hid]
    | finished l' => simp [hid]
  · rw [hignored.mpr hid]
    simp [hid]

/-- Every consumer hands on its own messages, and only these. -/
theorem consumers_lawful : consumers.Lawful where
  running_of_serves := by
    intro c msg h
    cases c with
    | forwarder f =>
        have h' : (f.running && f.receiverAlive && (msg.itemFor f.kind).isSome) = true := h
        simp only [Bool.and_eq_true] at h'
        exact h'.1.1
    | submit l => rfl
    | answered answer => cases h
  handed_eq := by
    intro c msg hrun
    cases c with
    | forwarder f =>
        show (f.receive msg).2 = (f.running && f.receiverAlive && (msg.itemFor f.kind).isSome)
        have hrun' : f.running = true := hrun
        rw [f.receive_snd, hrun', Bool.true_and]
    | submit l => exact Consumer.submit_receive_snd l msg
    | answered answer => cases hrun

/-! ## Nothing is lost -/

/-- A run in which messages are taken off the queue in uncontended
states only loses no message that has a live addressee; and the
uncontended states are exactly those where the next message is safe
whichever task takes it. -/
theorem nothingLost (as : List Action) (s : State) :
    (Lts.Guarded step (SharedQueue.RecvUncontended consumers) {} as →
      Lts.Along step (fun s => s.lost = []) {} as)
    ∧ (SharedQueue.Uncontended consumers s
        ↔ ∀ i t, step s (.recv i) = some t → t.lost = s.lost) :=
  ⟨SharedQueue.nothing_lost consumers_lawful rfl,
    SharedQueue.uncontended_iff_keeps consumers_lawful s⟩

/-! ## A hint for the wrong task -/

def hint : WsLeaderHint where
  timestamp := 1706011200000
  slot := 4265028000
  expiresAtSlot := 4265028004
  preferredRegion := "us-west"
  backupRegions := []
  confidence := 85
  leaderPubkey := none
  metadata := none

/-- One stream only: every hint is delivered. -/
theorem nothingLost_oneStream :
    Lts.Along step (fun s => s.lost = []) {}
      [subscribe .leaderHints, .push (.leaderHint hint), .push .heartbeat, .recv 0] :=
  (nothingLost _ {}).1 (by decide)

/-- With two streams open the slot forwarder may win the hint, and drops
it. -/
theorem hint_lost :
    let as : List Action :=
      [subscribe .leaderHints, subscribe .latestSlot, .push (.leaderHint hint), .recv 1]
    (Lts.run step {} as).map (fun s => (s.queue, s.lost))
        = some ([], [.leaderHint hint])
      ∧ ¬ Lts.Along step (fun s => s.lost = []) {} as := by
  decide

end WsDemux

end Slipstream
