import Slipstream.ConnFlag
import Slipstream.WsSubmit

/-!
# The tasks of a WebSocket transport

A `connect` opens a socket, stores its sink and the ends of a new queue
in the transport, starts the receiver task, and only then sends the
handshake. The receiver task holds a sender of the queue, the transport
another one, the call a third until it returns. Forwarder tasks,
submissions and the handshake take from whatever queue the transport has,
one at a time: each waits for its message with the write lock of
`message_rx`, and the next one for that lock.

Two things follow. The transport's own sender is dropped only for that
of the next connection, so that nobody learns of the end of a connection
before there is another one (`hangsUp_iff`); a submission behind an idle
forwarder does not even come to its timeout (`closing_unnoticed`). And a
handshake that fails leaves behind what was stored before it; only a
failed dial leaves the transport alone (`atomic_iff_failsAtDial`).
-/

namespace Slipstream

namespace WsTasks

open ConnFlag.Ws (WsFrame)

/-! ## Tasks -/

def queueSlots : Nat := 256

def channelSlots : Nat := 32

inductive Receiver where
  | reading
  /-- `tx.send(msg)` waits for a slot of the queue. -/
  | sending (msg : ServerMessage)
  | ended
deriving DecidableEq

/-- What a `connect` creates: the socket with the frames that wait on it,
the receiver task, and the queue. `read` counts the frames the task has
read. -/
structure Conn where
  wire : List WsFrame := []
  receiver : Receiver := .reading
  queue : List ServerMessage := []
  read : Nat := 0

inductive Phase where
  | waiting
  /-- `tx.send(item)` waits for a slot of the channel. -/
  | holding (item : StreamItem)
  | ended
deriving DecidableEq

/-- The task behind a subscription, with the channel it fills. -/
structure Forwarder where
  kind : StreamKind
  phase : Phase := .waiting
  receiverAlive : Bool := true
  channel : List StreamItem := []
deriving DecidableEq

inductive Submission where
  /-- At its deadline check. -/
  | checking (l : SubmitLoop)
  /-- Past it, for the lock or for a message. -/
  | waiting (l : SubmitLoop)
  | answered (answer : Except SdkError SubmitLoop)
deriving DecidableEq

/-- The fields of `WebSocketTransport`, with the connections by number. -/
structure Fields where
  config : Option Config := none
  sink : Option Nat := none
  messageTx : Option Nat := none
  messageRx : Option Nat := none
  sessionId : Option String := none
  connected : Bool := false
deriving DecidableEq

/-- A `connect` that has dialled, with the fields as it found them.
`installed` once the receiving end of the new queue is stored. -/
structure Connecting where
  conn : Nat
  before : Fields
  installed : Bool := false

/-- A `connect` that has returned an error: the fields before and after,
and whether its receiver task goes on. -/
structure Failure where
  before : Fields
  after : Fields
  receiverLeft : Bool

structure Link where
  fields : Fields := {}
  connecting : Option Connecting := none
  failures : List Failure := []

structure Tasks where
  conns : List Conn := []
  forwarders : List Forwarder := []
  submissions : List Submission := []

/-- Who takes messages off the transport's queue. -/
inductive Consumer where
  | forwarder (i : Nat)
  | submission (j : Nat)
  /-- The `connect` that waits for its reply. -/
  | handshake
deriving DecidableEq

/-- `lock` is who has the write lock of `message_rx`. -/
structure State where
  link : Link := {}
  tasks : Tasks := {}
  lock : Option Consumer := none

/-- What touches the transport's fields. -/
inductive Call where
  /-- The dial fails, or takes more than ten seconds. -/
  | dialFailed (cfg : Config)
  /-- The sink and the sender of a new queue are stored. -/
  | dial (cfg : Config)
  /-- The receiver of the queue is stored, once the lock is free, and the
  receiver task starts. -/
  | install
  | sendFailed
  | reply
  | noReply
  | hungUp
  | disconnect

/-- What does not. -/
inductive Move where
  | subscribe (kind : StreamKind)
  | submit (requestId : String) (options : SubmitOptions)
  /-- The deadline has not passed. -/
  | submissionCheck (j : Nat)
  | submissionRecv (j : Nat)
  /-- The deadline has passed at the check, or over `recv()`. -/
  | submissionTimeout (j : Nat)
  /-- The application takes an item from a channel. -/
  | readChannel (i : Nat)
  | dropReceiver (i : Nat)
  | arrive (n : Nat) (frame : WsFrame)
  | receiver (n : Nat)
  | forwarder (i : Nat)

inductive Action where
  | call (c : Call)
  | move (m : Move)
  /-- The lock goes to one of those that wait for it. -/
  | lock (who : Consumer)

/-! ## The queue -/

/-- No sender of the queue is left. -/
def Closed (link : Link) (n : Nat) (c : Conn) : Prop :=
  c.receiver = .ended ∧ link.fields.messageTx ≠ some n
    ∧ link.connecting.map Connecting.conn ≠ some n

instance (link : Link) (n : Nat) (c : Conn) : Decidable (Closed link n c) :=
  inferInstanceAs (Decidable (_ ∧ _ ∧ _))

/-- `tx.send(msg)` of the receiver task: it fails if the other end has
been replaced, and waits if there is no slot. -/
def Conn.send (c : Conn) (current : Bool) (msg : ServerMessage) : Conn :=
  if current then
    if c.queue.length < queueSlots then
      { c with receiver := .reading, queue := c.queue ++ [msg] }
    else { c with receiver := .sending msg }
  else { c with receiver := .ended, wire := [] }

/-- A step of the receiver task. The stream goes with the task. -/
def Conn.receive (c : Conn) (current : Bool) : Option Conn :=
  match c.receiver with
  | .reading =>
      match c.wire with
      | [] => none
      | frame :: rest =>
          let c := { c with wire := rest, read := c.read + 1 }
          match frame with
          -- answered through the sink
          | .text (some .heartbeat) => some c
          | .text (some msg) => some (c.send current msg)
          | frame => some (if frame.ends then { c with receiver := .ended, wire := [] } else c)
  | .sending msg =>
      if current ∧ ¬ c.queue.length < queueSlots then none else some (c.send current msg)
  | .ended => none

/-- `tx.send(item)` of a forwarder. -/
def Forwarder.send (f : Forwarder) (item : StreamItem) : Forwarder :=
  if f.receiverAlive then
    if f.channel.length < channelSlots then
      { f with phase := .waiting, channel := f.channel ++ [item] }
    else { f with phase := .holding item }
  else { f with phase := .ended }

def Forwarder.receive (f : Forwarder) (msg : ServerMessage) : Forwarder :=
  match msg.itemFor f.kind with
  | some item => f.send item
  | none => f

def Submission.receive (l : SubmitLoop) (msg : ServerMessage) : Submission :=
  match l.onMessage msg with
  | .ignored => .checking l
  | .next l => .checking l
  | .finished l => .answered (.ok l)

/-- What a consumer gets: a message, or that there will be none. -/
inductive Received where
  | message (msg : ServerMessage)
  | hungUp

/-- `recv()` on the transport's queue, if it returns. -/
def Tasks.recv (tasks : Tasks) (link : Link) : Option (Received × List Conn) :=
  link.fields.messageRx.bind fun n =>
    tasks.conns[n]?.bind fun c =>
      match c.queue with
      | msg :: rest => some (.message msg, tasks.conns.set n { c with queue := rest })
      | [] => if Closed link n c then some (.hungUp, tasks.conns) else none

/-! ## Steps -/

/-- A step of a forwarder task. -/
def Tasks.forward (tasks : Tasks) (link : Link) (f : Forwarder) :
    Option (Forwarder × List Conn) :=
  match f.phase with
  | .waiting =>
      (tasks.recv link).map fun (received, conns) =>
        match received with
        | .message msg => (f.receive msg, conns)
        | .hungUp => ({ f with phase := .ended }, conns)
  | .holding item =>
      if f.receiverAlive ∧ ¬ f.channel.length < channelSlots then none
      else some (f.send item, tasks.conns)
  | .ended => none

def Submission.isWaiting : Submission → Bool
  | .waiting _ => true
  | _ => false

def Submission.isOngoing : Submission → Bool
  | .answered _ => false
  | _ => true

def Tasks.move (tasks : Tasks) (link : Link) : Move → Option Tasks
  | .subscribe kind =>
      if link.fields.connected ∧ link.connecting.isNone then
        some { tasks with forwarders := tasks.forwarders ++ [{ kind := kind }] }
      else none
  | .submit requestId options =>
      if link.fields.connected ∧ link.connecting.isNone then
        some
          { tasks with
            submissions := tasks.submissions ++ [.checking (.start requestId options)] }
      else none
  | .submissionCheck j =>
      match tasks.submissions[j]? with
      | some (.checking l) =>
          some { tasks with submissions := tasks.submissions.set j (.waiting l) }
      | _ => none
  | .submissionRecv j =>
      match tasks.submissions[j]? with
      | some (.waiting l) =>
          (tasks.recv link).map fun (received, conns) =>
            let submission :=
              match received with
              | .message msg => Submission.receive l msg
              | .hungUp => .answered (.error (.connection "Connection closed"))
            { tasks with conns := conns, submissions := tasks.submissions.set j submission }
      | _ => none
  | .submissionTimeout j =>
      match tasks.submissions[j]? with
      | some (.checking l) | some (.waiting l) =>
          some
            { tasks with
              submissions := tasks.submissions.set j (.answered (.error (.timeout l.timeout))) }
      | _ => none
  | .readChannel i =>
      tasks.forwarders[i]?.bind fun f =>
        if f.receiverAlive then
          some
            { tasks with
              forwarders := tasks.forwarders.set i { f with channel := f.channel.tail } }
        else none
  | .dropReceiver i =>
      tasks.forwarders[i]?.map fun f =>
        { tasks with
          forwarders := tasks.forwarders.set i { f with receiverAlive := false } }
  | .arrive n frame =>
      tasks.conns[n]?.bind fun c =>
        if c.receiver = .ended then none
        else
          some { tasks with conns := tasks.conns.set n { c with wire := c.wire ++ [frame] } }
  | .receiver n =>
      tasks.conns[n]?.bind fun c =>
        (c.receive (decide (link.fields.messageRx = some n))).map fun c' =>
          { tasks with conns := tasks.conns.set n c' }
  | .forwarder i =>
      tasks.forwarders[i]?.bind fun f =>
        (tasks.forward link f).map fun (f', conns) =>
          { tasks with conns := conns, forwarders := tasks.forwarders.set i f' }

/-- No call on the transport is under way. -/
def State.idle (s : State) : Bool :=
  s.link.connecting.isNone && s.tasks.submissions.all fun x => !x.isOngoing

/-- The receiver task of a connection goes on. -/
def Tasks.running (tasks : Tasks) (n : Nat) : Bool :=
  tasks.conns[n]?.any fun c => decide (c.receiver ≠ .ended)

/-- The `connect` under way that waits for its reply. -/
def Link.handshake (link : Link) : Option Connecting :=
  link.connecting.filter Connecting.installed

/-- `connect` returns an error. -/
def State.fail (s : State) (c : Connecting) : State :=
  { s with
    link :=
      { s.link with
        connecting := none
        failures :=
          s.link.failures ++ [⟨c.before, s.link.fields, s.tasks.running c.conn⟩] } }

/-- `connect` has a reply. -/
def State.answer (s : State) (c : Connecting) (msg : ServerMessage) : State :=
  match WebSocketTransport.awaitConnected (.reply msg) with
  | .ok reply =>
      { s with
        link :=
          { s.link with
            fields :=
              { s.link.fields with sessionId := some reply.sessionId, connected := true }
            connecting := none } }
  | .error _ => s.fail c

def State.call (s : State) : Call → Option State
  | .dialFailed cfg =>
      if s.idle then
        let fields := { s.link.fields with config := some cfg }
        some
          { s with
            link :=
              { s.link with
                fields := fields
                failures := s.link.failures ++ [⟨s.link.fields, fields, false⟩] } }
      else none
  | .dial cfg =>
      if s.idle then
        let n := s.tasks.conns.length
        some
          { s with
            link :=
              { s.link with
                fields :=
                  { s.link.fields with
                    config := some cfg
                    sink := some n
                    messageTx := some n }
                connecting := some { conn := n, before := s.link.fields } } }
      else none
  | .install =>
      (s.link.connecting.filter fun c => !c.installed).map fun c =>
        { s with
          link :=
            { s.link with
              fields := { s.link.fields with messageRx := some c.conn }
              connecting := some { c with installed := true } }
          tasks := { s.tasks with conns := s.tasks.conns ++ [{}] } }
  | .sendFailed => s.link.handshake.map s.fail
  | .reply =>
      s.link.handshake.bind fun c =>
        (s.tasks.recv s.link).bind fun (received, conns) =>
          match received with
          | .message msg =>
              some (State.answer { s with tasks := { s.tasks with conns := conns } } c msg)
          | .hungUp => none
  | .noReply => s.link.handshake.map s.fail
  | .hungUp =>
      s.link.handshake.bind fun c =>
        (s.tasks.recv s.link).bind fun (received, _) =>
          match received with
          | .message _ => none
          | .hungUp => some (s.fail c)
  | .disconnect =>
      if s.idle then
        some
          { s with
            link :=
              { s.link with
                fields :=
                  { s.link.fields with connected := false, sink := none, sessionId := none } } }
      else none

/-! ## The lock -/

/-- The consumer waits for the lock or, with the lock, for a message. -/
def State.waits (s : State) : Consumer → Bool
  | .forwarder i => s.tasks.forwarders[i]?.any fun f => decide (f.phase = .waiting)
  | .submission j => s.tasks.submissions[j]?.any Submission.isWaiting
  | .handshake => s.link.handshake.isSome

/-- Who does this with the lock, and gives it back. -/
def State.turn (s : State) : Action → Option Consumer
  | .call .reply => some .handshake
  | .call .noReply => some .handshake
  | .call .hungUp => some .handshake
  | .move (.submissionRecv j) => some (.submission j)
  | .move (.submissionTimeout j) =>
      if s.waits (.submission j) then some (.submission j) else none
  | .move (.forwarder i) => if s.waits (.forwarder i) then some (.forwarder i) else none
  | _ => none

/-- The lock lets the action through. -/
def State.admits (s : State) : Action → Bool
  | .call .install => s.lock.isNone
  -- the message of the handshake is sent before it waits for the reply
  | .call .sendFailed => decide (s.lock ≠ some .handshake)
  | .lock who => s.lock.isNone && s.waits who
  | a => (s.turn a).all fun who => decide (s.lock = some who)

/-- What an action does, but for giving the lock back. -/
def State.act (s : State) : Action → Option State
  | .call c => s.call c
  | .move m => (s.tasks.move s.link m).map fun tasks => { s with tasks := tasks }
  | .lock who => some { s with lock := some who }

def State.release (s : State) (turn : Option Consumer) : State :=
  { s with lock := if turn.isSome then none else s.lock }

def step (s : State) (a : Action) : Option State :=
  if s.admits a then (s.act a).map fun t => t.release (s.turn a) else none

theorem step_eq_some {s t : State} {a : Action} :
    step s a = some t
      ↔ s.admits a = true ∧ ∃ u, s.act a = some u ∧ u.release (s.turn a) = t := by
  unfold step
  by_cases hadmits : s.admits a = true
  · rw [if_pos hadmits, Option.map_eq_some_iff]
    exact (and_iff_right hadmits).symm
  · rw [if_neg hadmits]
    exact iff_of_false (fun h => by cases h) fun h => hadmits h.1

/-- An entry that is there, after it is replaced. -/
theorem getElem?_set_of_some {α : Type} {l : List α} {i : Nat} {a : α} (h : l[i]? = some a)
    (b : α) : (l.set i b)[i]? = some b :=
  List.getElem?_set_self (List.getElem?_eq_some_iff.mp h).1

/-! ## Connections by number -/

/-- A `connect` has stored the sender of its queue, but not the receiver. -/
def Link.replacing (link : Link) : Bool :=
  link.connecting.any fun c => !c.installed

theorem handshake_of_replacing {link : Link} (h : link.replacing = true) :
    link.handshake = none := by
  obtain ⟨c, hc, hnew⟩ := (Option.any_eq_true _ _).mp h
  have hinstalled : c.installed = false := by simpa using hnew
  rw [Link.handshake, hc, Option.filter_some_neg hinstalled]

theorem handshake_eq_some {link : Link} {c : Connecting} (h : link.handshake = some c) :
    link.connecting = some c ∧ c.installed = true :=
  Option.filter_eq_some_iff.mp h

/-- What each call can do, in one place. -/
inductive Called (s : State) : Call → State → Prop where
  | dialFailed {cfg : Config} (hnone : s.link.connecting = none) :
      Called s (.dialFailed cfg)
        { s with
          link :=
            { s.link with
              fields := { s.link.fields with config := some cfg }
              failures :=
                s.link.failures
                  ++ [⟨s.link.fields, { s.link.fields with config := some cfg }, false⟩] } }
  | dial {cfg : Config} (hnone : s.link.connecting = none) :
      Called s (.dial cfg)
        { s with
          link :=
            { s.link with
              fields :=
                { s.link.fields with
                  config := some cfg
                  sink := some s.tasks.conns.length
                  messageTx := some s.tasks.conns.length }
              connecting :=
                some { conn := s.tasks.conns.length, before := s.link.fields } } }
  | install {c : Connecting} (hc : s.link.connecting = some c) (hnew : c.installed = false) :
      Called s .install
        { s with
          link :=
            { s.link with
              fields := { s.link.fields with messageRx := some c.conn }
              connecting := some { c with installed := true } }
          tasks := { s.tasks with conns := s.tasks.conns ++ [{}] } }
  | sendFailed {c : Connecting} (hc : s.link.handshake = some c) :
      Called s .sendFailed (s.fail c)
  | reply {c : Connecting} {msg : ServerMessage} {conns : List Conn}
      (hc : s.link.handshake = some c)
      (hrecv : s.tasks.recv s.link = some (.message msg, conns)) :
      Called s .reply (State.answer { s with tasks := { s.tasks with conns := conns } } c msg)
  | noReply {c : Connecting} (hc : s.link.handshake = some c) : Called s .noReply (s.fail c)
  | hungUp {c : Connecting} (hc : s.link.handshake = some c) : Called s .hungUp (s.fail c)
  | disconnect (hnone : s.link.connecting = none) :
      Called s .disconnect
        { s with
          link :=
            { s.link with
              fields :=
                { s.link.fields with connected := false, sink := none, sessionId := none } } }

theorem connecting_of_idle {s : State} (h : s.idle = true) : s.link.connecting = none := by
  have hboth := Bool.and_eq_true_iff.mp h
  exact Option.isNone_iff_eq_none.mp hboth.1

theorem call_cases {s t : State} {c : Call} (h : s.call c = some t) : Called s c t := by
  cases c with
  | dialFailed cfg =>
      simp only [State.call] at h
      split at h
      · rename_i hidle
        exact Option.some.inj h ▸ .dialFailed (connecting_of_idle hidle)
      · cases h
  | dial cfg =>
      simp only [State.call] at h
      split at h
      · rename_i hidle
        exact Option.some.inj h ▸ .dial (connecting_of_idle hidle)
      · cases h
  | install =>
      obtain ⟨c, hc, rfl⟩ := Option.map_eq_some_iff.mp h
      obtain ⟨hconn, hnew⟩ := Option.filter_eq_some_iff.mp hc
      exact .install hconn (by simpa using hnew)
  | sendFailed =>
      obtain ⟨c, hc, rfl⟩ := Option.map_eq_some_iff.mp h
      exact .sendFailed hc
  | reply =>
      simp only [State.call, Option.bind_eq_some_iff] at h
      obtain ⟨c, hc, ⟨received, conns⟩, hrecv, ht⟩ := h
      cases received with
      | message msg => exact Option.some.inj ht ▸ .reply hc hrecv
      | hungUp => cases ht
  | noReply =>
      obtain ⟨c, hc, rfl⟩ := Option.map_eq_some_iff.mp h
      exact .noReply hc
  | hungUp =>
      simp only [State.call, Option.bind_eq_some_iff] at h
      obtain ⟨c, hc, ⟨received, conns⟩, -, ht⟩ := h
      cases received with
      | message msg => cases ht
      | hungUp => exact Option.some.inj ht ▸ .hungUp hc
  | disconnect =>
      simp only [State.call] at h
      split at h
      · rename_i hidle
        exact Option.some.inj h ▸ .disconnect (connecting_of_idle hidle)
      · cases h

/-- What a `connect` under way has stored. -/
structure Connecting.Stored (c : Connecting) (s : State) : Prop where
  sink : s.link.fields.sink = some c.conn
  messageTx : s.link.fields.messageTx = some c.conn
  before : c.before.sink ≠ some c.conn
  next : c.installed = false → c.conn = s.tasks.conns.length
  messageRx : c.installed = true →
    s.link.fields.messageRx = some c.conn ∧ c.conn < s.tasks.conns.length

/-- The number of a connection is new when it is dialled, and outside a
`connect` the transport has both ends of one queue. -/
structure Numbered (s : State) : Prop where
  sink : s.link.connecting = none →
    ∀ n, s.link.fields.sink = some n → n < s.tasks.conns.length
  paired : s.link.connecting = none → s.link.fields.messageTx = s.link.fields.messageRx
  connecting : ∀ c, s.link.connecting = some c → c.Stored s

theorem numbered_new : Numbered {} where
  sink := by
    intro _ n hn
    cases hn
  paired := fun _ => rfl
  connecting := by
    intro c hc
    cases hc

/-- What happens to a connection in a step. -/
inductive Conn.Step (current : Bool) : Conn → Conn → Prop where
  | taken {c : Conn} {msg : ServerMessage} {rest : List ServerMessage}
      (h : c.queue = msg :: rest) : Conn.Step current c { c with queue := rest }
  | arrived {c : Conn} (frame : WsFrame) (h : c.receiver ≠ .ended) :
      Conn.Step current c { c with wire := c.wire ++ [frame] }
  | received {c c' : Conn} (h : c.receive current = some c') : Conn.Step current c c'

/-- A step is of one connection at most. -/
inductive Moved (link : Link) (conns : List Conn) : List Conn → Prop where
  | none : Moved link conns conns
  | one {n : Nat} {c c' : Conn} (hn : conns[n]? = some c)
      (h : c.Step (decide (link.fields.messageRx = some n)) c') :
      Moved link conns (conns.set n c')

theorem Moved.length {link : Link} {conns conns' : List Conn} (h : Moved link conns conns') :
    conns'.length = conns.length := by
  cases h with
  | none => rfl
  | one hn h => exact List.length_set

theorem moved_recv {tasks : Tasks} {link : Link} {r : Received × List Conn}
    (h : tasks.recv link = some r) : Moved link tasks.conns r.2 := by
  simp only [Tasks.recv, Option.bind_eq_some_iff] at h
  obtain ⟨n, -, c, hn, h⟩ := h
  split at h
  · rename_i msg rest hqueue
    obtain rfl := Option.some.inj h
    exact .one hn (.taken hqueue)
  · split at h
    · obtain rfl := Option.some.inj h
      exact .none
    · cases h

theorem moved_forward {tasks : Tasks} {link : Link} {f : Forwarder}
    {r : Forwarder × List Conn} (h : tasks.forward link f = some r) :
    Moved link tasks.conns r.2 := by
  unfold Tasks.forward at h
  split at h
  · obtain ⟨⟨received, conns⟩, hrecv, rfl⟩ := Option.map_eq_some_iff.mp h
    have hmoved := moved_recv hrecv
    cases received with
    | message msg => exact hmoved
    | hungUp => exact hmoved
  · split at h
    · cases h
    · obtain rfl := Option.some.inj h
      exact .none
  · cases h

theorem moved_move {tasks tasks' : Tasks} {link : Link} {m : Move}
    (h : tasks.move link m = some tasks') : Moved link tasks.conns tasks'.conns := by
  cases m with
  | subscribe kind =>
      simp only [Tasks.move] at h
      split at h
      · exact Option.some.inj h ▸ .none
      · cases h
  | submit requestId options =>
      simp only [Tasks.move] at h
      split at h
      · exact Option.some.inj h ▸ .none
      · cases h
  | submissionRecv j =>
      simp only [Tasks.move] at h
      split at h
      · obtain ⟨⟨received, conns⟩, hrecv, rfl⟩ := Option.map_eq_some_iff.mp h
        exact moved_recv hrecv
      · cases h
  | submissionCheck j =>
      simp only [Tasks.move] at h
      split at h
      · exact Option.some.inj h ▸ .none
      · cases h
  | submissionTimeout j =>
      simp only [Tasks.move] at h
      split at h
      · exact Option.some.inj h ▸ .none
      · exact Option.some.inj h ▸ .none
      · cases h
  | readChannel i =>
      obtain ⟨f, -, h⟩ := Option.bind_eq_some_iff.mp h
      split at h
      · exact Option.some.inj h ▸ .none
      · cases h
  | dropReceiver i =>
      obtain ⟨f, -, rfl⟩ := Option.map_eq_some_iff.mp h
      exact .none
  | arrive n frame =>
      obtain ⟨c, hn, h⟩ := Option.bind_eq_some_iff.mp h
      split at h
      · cases h
      · rename_i hopen
        obtain rfl := Option.some.inj h
        exact .one hn (.arrived frame hopen)
  | receiver n =>
      obtain ⟨c, hn, h⟩ := Option.bind_eq_some_iff.mp h
      obtain ⟨c', hc', rfl⟩ := Option.map_eq_some_iff.mp h
      exact .one hn (.received hc')
  | forwarder i =>
      obtain ⟨f, -, h⟩ := Option.bind_eq_some_iff.mp h
      obtain ⟨⟨f', conns⟩, hforward, rfl⟩ := Option.map_eq_some_iff.mp h
      exact moved_forward hforward

/-- The fields of a `connect` whose handshake is over. -/
theorem numbered_fail {s : State} {c : Connecting} (h : Numbered s)
    (hc : s.link.handshake = some c) : Numbered (s.fail c) := by
  obtain ⟨hconn, hinstalled⟩ := handshake_eq_some hc
  have hstored := h.connecting c hconn
  obtain ⟨hrx, hlt⟩ := hstored.messageRx hinstalled
  refine ⟨fun _ n hn => ?_, fun _ => hstored.messageTx.trans hrx.symm, ?_⟩
  · obtain rfl := Option.some.inj (hstored.sink.symm.trans hn)
    exact hlt
  · intro c' hc'
    cases hc'

theorem numbered_answer {s : State} {c : Connecting} (h : Numbered s)
    (hc : s.link.handshake = some c) (msg : ServerMessage) : Numbered (s.answer c msg) := by
  have hfail := numbered_fail h hc
  unfold State.answer
  split
  · refine ⟨hfail.sink, hfail.paired, ?_⟩
    intro c' hc'
    cases hc'
  · exact hfail

theorem stored_of_conns {s : State} {c : Connecting} (h : c.Stored s) {tasks : Tasks}
    (hlen : tasks.conns.length = s.tasks.conns.length) :
    c.Stored { s with tasks := tasks } where
  sink := h.sink
  messageTx := h.messageTx
  before := h.before
  next := fun hinstalled => (h.next hinstalled).trans hlen.symm
  messageRx := fun hinstalled => ⟨(h.messageRx hinstalled).1, hlen ▸ (h.messageRx hinstalled).2⟩

theorem numbered_of_conns {s : State} (h : Numbered s) (tasks : Tasks)
    (hlen : tasks.conns.length = s.tasks.conns.length) :
    Numbered { s with tasks := tasks } where
  sink := fun hnone n hn => hlen ▸ h.sink hnone n hn
  paired := h.paired
  connecting := fun c hc => stored_of_conns (h.connecting c hc) hlen

theorem numbered_call {s t : State} {c : Call} (h : Numbered s) (hstep : s.call c = some t) :
    Numbered t := by
  cases call_cases hstep with
  | dialFailed hnone =>
      refine ⟨h.sink, h.paired, fun c hc => ?_⟩
      rw [hnone] at hc
      cases hc
  | dial hnone =>
      refine ⟨fun hc => ?_, fun hc => ?_, fun c hc => ?_⟩
      · cases hc
      · cases hc
      · obtain rfl := Option.some.inj hc
        refine ⟨rfl, rfl, fun hsink => ?_, fun _ => rfl, fun hinstalled => ?_⟩
        · exact Nat.lt_irrefl _ (h.sink hnone _ hsink)
        · cases hinstalled
  | @install c hconn hnew =>
      have hstored := h.connecting c hconn
      have hlt : c.conn < (s.tasks.conns ++ [({} : Conn)]).length := by
        rw [hstored.next hnew, List.length_append, List.length_singleton]
        exact Nat.lt_succ_self _
      refine ⟨fun hc => ?_, fun hc => ?_, fun c' hc' => ?_⟩
      · cases hc
      · cases hc
      · obtain rfl := Option.some.inj hc'
        refine ⟨hstored.sink, hstored.messageTx, hstored.before, fun hinstalled => ?_,
          fun _ => ⟨rfl, hlt⟩⟩
        cases hinstalled
  | sendFailed hc => exact numbered_fail h hc
  | @reply c msg conns hc hrecv =>
      have htaken := numbered_of_conns h { s.tasks with conns := conns } (moved_recv hrecv).length
      exact numbered_answer htaken hc msg
  | noReply hc => exact numbered_fail h hc
  | hungUp hc => exact numbered_fail h hc
  | disconnect hnone =>
      refine ⟨fun _ n hn => ?_, h.paired, fun c hc => ?_⟩
      · cases hn
      · rw [hnone] at hc
        cases hc

/-- The lock does not matter to the numbers. -/
theorem numbered_lock {s : State} (h : Numbered s) (lock : Option Consumer) :
    Numbered { s with lock := lock } where
  sink := h.sink
  paired := h.paired
  connecting := fun c hc =>
    let hstored := h.connecting c hc
    ⟨hstored.sink, hstored.messageTx, hstored.before, hstored.next, hstored.messageRx⟩

theorem numbered_step {s t : State} {a : Action} (h : Numbered s)
    (hstep : step s a = some t) : Numbered t := by
  obtain ⟨-, u, hact, rfl⟩ := step_eq_some.mp hstep
  refine numbered_lock ?_ _
  cases a with
  | call c => exact numbered_call h hact
  | move m =>
      obtain ⟨tasks, htasks, rfl⟩ := Option.map_eq_some_iff.mp hact
      exact numbered_of_conns h tasks (moved_move htasks).length
  | lock who => exact Option.some.inj hact ▸ numbered_lock h _

theorem numbered_run {as : List Action} {t : State} (hrun : Lts.run step {} as = some t) :
    Numbered t :=
  Lts.along_of_inv (fun _ _ _ => numbered_step) numbered_new as t (List.prefix_refl as) hrun

/-! ## The holder of the lock -/

/-- Who has the lock waits for a message. -/
def Held (s : State) : Prop :=
  ∀ who, s.lock = some who → s.waits who = true

theorem held_new : Held {} := by
  intro who hwho
  cases hwho

theorem waits_forwarder {s : State} {i : Nat} :
    s.waits (.forwarder i) = true
      ↔ ∃ f, s.tasks.forwarders[i]? = some f ∧ f.phase = .waiting := by
  rw [State.waits, Option.any_eq_true]
  exact exists_congr fun f => and_congr_right fun _ => decide_eq_true_iff

theorem waits_submission {s : State} {j : Nat} :
    s.waits (.submission j) = true ↔ ∃ l, s.tasks.submissions[j]? = some (.waiting l) := by
  rw [State.waits, Option.any_eq_true]
  constructor
  · rintro ⟨x, hx, hwaiting⟩
    cases x with
    | waiting l => exact ⟨l, hx⟩
    | checking l => cases hwaiting
    | answered answer => cases hwaiting
  · rintro ⟨l, hl⟩
    exact ⟨_, hl, rfl⟩

/-- Another forwarder has changed, or its own phase has not. -/
theorem waits_set_forwarder {s : State} {i : Nat} {f f' : Forwarder} {who : Consumer}
    (h : s.waits who = true) (hf : s.tasks.forwarders[i]? = some f)
    (hkept : f.phase = .waiting → f'.phase = .waiting) (conns : List Conn) :
    State.waits
      { s with
        tasks :=
          { s.tasks with conns := conns, forwarders := s.tasks.forwarders.set i f' } } who
      = true := by
  cases who with
  | forwarder k =>
      obtain ⟨g, hg, hwaiting⟩ := waits_forwarder.mp h
      refine waits_forwarder.mpr ?_
      by_cases hik : i = k
      · subst hik
        obtain rfl := Option.some.inj (hf.symm.trans hg)
        exact ⟨f', getElem?_set_of_some hf f', hkept hwaiting⟩
      · exact ⟨g, (List.getElem?_set_ne hik).trans hg, hwaiting⟩
  | _ => exact h

/-- A submission has changed that did not wait. -/
theorem waits_set_submission {s : State} {j : Nat} {x : Submission} {who : Consumer}
    (h : s.waits who = true) (hnot : s.waits (.submission j) = false) :
    State.waits
      { s with tasks := { s.tasks with submissions := s.tasks.submissions.set j x } } who
      = true := by
  cases who with
  | submission k =>
      have hjk : j ≠ k := by
        rintro rfl
        rw [h] at hnot
        cases hnot
      obtain ⟨l, hl⟩ := waits_submission.mp h
      exact waits_submission.mpr ⟨l, (List.getElem?_set_ne hjk).trans hl⟩
  | _ => exact h

/-- A call does not touch the lock but by giving it back. -/
theorem lock_call {s t : State} {c : Call} (h : s.call c = some t) : t.lock = s.lock := by
  cases call_cases h with
  | reply hc hrecv =>
      unfold State.answer
      split <;> rfl
  | _ => rfl

/-- A call on the transport does not take anybody's turn. -/
theorem waits_call {s t : State} {c : Call} {who : Consumer} (h : s.waits who = true)
    (hlock : s.lock = some who) (hadmits : s.admits (.call c) = true)
    (hturn : s.turn (.call c) = none) (hstep : s.call c = some t) : t.waits who = true := by
  cases call_cases hstep with
  | dialFailed hnone => exact h
  | dial hnone =>
      cases who with
      | handshake =>
          have hsome : (s.link.connecting.filter Connecting.installed).isSome = true := h
          rw [hnone] at hsome
          cases hsome
      | _ => exact h
  | install hc hnew =>
      rw [State.admits, hlock] at hadmits
      cases hadmits
  | sendFailed hc =>
      cases who with
      | handshake => exact absurd hlock (of_decide_eq_true hadmits)
      | _ => exact h
  | reply hc hrecv => cases hturn
  | noReply hc => cases hturn
  | hungUp hc => cases hturn
  | disconnect hnone => exact h

theorem getElem?_append_of_some {α : Type} {l : List α} {i : Nat} {a : α}
    (h : l[i]? = some a) (l' : List α) : (l ++ l')[i]? = some a := by
  rw [List.getElem?_append_left (List.getElem?_eq_some_iff.mp h).1, h]

/-- Nor does a step of somebody else's. -/
theorem waits_move {s : State} {m : Move} {tasks : Tasks} {who : Consumer}
    (h : s.waits who = true) (hturn : s.turn (.move m) = none)
    (hmove : s.tasks.move s.link m = some tasks) :
    State.waits { s with tasks := tasks } who = true := by
  cases m with
  | subscribe kind =>
      simp only [Tasks.move] at hmove
      split at hmove
      · obtain rfl := Option.some.inj hmove
        cases who with
        | forwarder i =>
            obtain ⟨f, hf, hwaiting⟩ := waits_forwarder.mp h
            exact waits_forwarder.mpr ⟨f, getElem?_append_of_some hf _, hwaiting⟩
        | _ => exact h
      · cases hmove
  | submit requestId options =>
      simp only [Tasks.move] at hmove
      split at hmove
      · obtain rfl := Option.some.inj hmove
        cases who with
        | submission j =>
            obtain ⟨l, hl⟩ := waits_submission.mp h
            exact waits_submission.mpr ⟨l, getElem?_append_of_some hl _⟩
        | _ => exact h
      · cases hmove
  | submissionCheck j =>
      simp only [Tasks.move] at hmove
      split at hmove
      · rename_i l hj
        obtain rfl := Option.some.inj hmove
        refine waits_set_submission h ?_
        rw [State.waits, hj]
        rfl
      · cases hmove
  | submissionRecv j => cases hturn
  | submissionTimeout j =>
      have hnot : s.waits (.submission j) = false := by
        cases hwaits : s.waits (.submission j) with
        | false => rfl
        | true =>
            rw [State.turn, hwaits] at hturn
            cases hturn
      simp only [Tasks.move] at hmove
      split at hmove
      · obtain rfl := Option.some.inj hmove
        exact waits_set_submission h hnot
      · obtain rfl := Option.some.inj hmove
        exact waits_set_submission h hnot
      · cases hmove
  | readChannel i =>
      obtain ⟨f, hf, hmove⟩ := Option.bind_eq_some_iff.mp hmove
      split at hmove
      · obtain rfl := Option.some.inj hmove
        refine waits_set_forwarder h hf (fun hwaiting => ?_) _
        exact hwaiting
      · cases hmove
  | dropReceiver i =>
      obtain ⟨f, hf, rfl⟩ := Option.map_eq_some_iff.mp hmove
      refine waits_set_forwarder h hf (fun hwaiting => ?_) _
      exact hwaiting
  | arrive n frame =>
      obtain ⟨c, -, hmove⟩ := Option.bind_eq_some_iff.mp hmove
      split at hmove
      · cases hmove
      · exact Option.some.inj hmove ▸ h
  | receiver n =>
      obtain ⟨c, -, hmove⟩ := Option.bind_eq_some_iff.mp hmove
      obtain ⟨c', -, rfl⟩ := Option.map_eq_some_iff.mp hmove
      exact h
  | forwarder i =>
      obtain ⟨f, hf, hmove⟩ := Option.bind_eq_some_iff.mp hmove
      obtain ⟨⟨f', conns⟩, -, rfl⟩ := Option.map_eq_some_iff.mp hmove
      refine waits_set_forwarder h hf (fun hwaiting => ?_) conns
      rw [State.turn, waits_forwarder.mpr ⟨f, hf, hwaiting⟩] at hturn
      cases hturn

theorem held_step {s t : State} {a : Action} (h : Held s) (hstep : step s a = some t) :
    Held t := by
  obtain ⟨hadmits, u, hact, rfl⟩ := step_eq_some.mp hstep
  intro who hwho
  cases hturn : s.turn a with
  | some other =>
      rw [hturn] at hwho
      cases hwho
  | none =>
      rw [hturn] at hwho
      cases a with
      | call c =>
          have hlock : s.lock = some who := (lock_call hact).symm.trans hwho
          exact waits_call (h who hlock) hlock hadmits hturn hact
      | move m =>
          obtain ⟨tasks, hmove, rfl⟩ := Option.map_eq_some_iff.mp hact
          have hlock : s.lock = some who := hwho
          exact waits_move (s := s) (h who hlock) hturn hmove
      | lock who' =>
          obtain rfl := Option.some.inj hact
          obtain rfl := Option.some.inj hwho
          exact (Bool.and_eq_true_iff.mp hadmits).2

theorem held_run {as : List Action} {t : State} (hrun : Lts.run step {} as = some t) :
    Held t :=
  Lts.along_of_inv (fun _ _ _ => held_step) held_new as t (List.prefix_refl as) hrun

/-! ## The end of the queue -/

/-- Nothing more comes of the connection: its receiver task has ended, and
the queue is empty. -/
structure Over (s : State) (n : Nat) (c : Conn) : Prop where
  connected : s.link.fields.connected = true
  current : s.link.fields.messageRx = some n
  conn : s.tasks.conns[n]? = some c
  ended : c.receiver = .ended
  empty : c.queue = []

/-- The tasks of the transport, and the calls that wait on its queue. -/
def Own : Action → Prop
  | .lock _ => True
  | .move (.receiver _) => True
  | .move (.forwarder _) => True
  | .move (.submissionCheck _) => True
  | .move (.submissionRecv _) => True
  | .call .reply => True
  | _ => False

/-- `recv()` returns `None`, and whoever waits on the queue comes to learn
that there is nothing to come. -/
structure HangsUp (s : State) (n : Nat) (c : Conn) : Prop where
  closed : Closed s.link n c
  recv : s.tasks.recv s.link = some (.hungUp, s.tasks.conns)
  submissions : ∀ (j : Nat) (x : Submission), s.tasks.submissions[j]? = some x →
    x.isOngoing = true →
      Lts.Can step Own
        (fun t => t.tasks.submissions[j]?
          = some (.answered (.error (.connection "Connection closed")))) s
  forwarders : ∀ (i : Nat) (f : Forwarder), s.tasks.forwarders[i]? = some f →
    f.phase = .waiting →
      Lts.Can step Own
        (fun t => t.tasks.forwarders[i]? = some { f with phase := .ended }) s

theorem recv_of_closed {s : State} {n : Nat} {c : Conn} (h : Over s n c)
    (hclosed : Closed s.link n c) :
    s.tasks.recv s.link = some (.hungUp, s.tasks.conns) := by
  unfold Tasks.recv
  rw [h.current, Option.bind_some, h.conn, Option.bind_some, h.empty]
  exact if_pos hclosed

/-- Nothing is to come on the queue, and no `connect` waits for a reply. -/
structure Hung (s : State) : Prop where
  recv : s.tasks.recv s.link = some (.hungUp, s.tasks.conns)
  handshake : s.link.handshake = none

section Hung

variable {s : State}

theorem step_submission_hung {j : Nat} {l : SubmitLoop} (h : Hung s)
    (hlock : s.lock = some (.submission j)) (hj : s.tasks.submissions[j]? = some (.waiting l)) :
    step s (.move (.submissionRecv j))
      = some
        { s with
          tasks :=
            { s.tasks with
              submissions := s.tasks.submissions.set j
                (.answered (.error (.connection "Connection closed"))) }
          lock := none } := by
  have hadmits : s.admits (.move (.submissionRecv j)) = true := decide_eq_true hlock
  rw [step, if_pos hadmits]
  simp only [State.act, Tasks.move, hj, h.recv, Option.map_some]
  rfl

theorem step_forwarder_hung {i : Nat} {f : Forwarder} (h : Hung s)
    (hlock : s.lock = some (.forwarder i)) (hi : s.tasks.forwarders[i]? = some f)
    (hwaiting : f.phase = .waiting) :
    step s (.move (.forwarder i))
      = some
        { s with
          tasks :=
            { s.tasks with
              forwarders := s.tasks.forwarders.set i { f with phase := .ended } }
          lock := none } := by
  have hturn : s.turn (.move (.forwarder i)) = some (.forwarder i) :=
    if_pos (waits_forwarder.mpr ⟨f, hi, hwaiting⟩)
  have hadmits : s.admits (.move (.forwarder i)) = true := by
    show (s.turn (.move (.forwarder i))).all _ = true
    rw [hturn]
    exact decide_eq_true hlock
  rw [step, if_pos hadmits, hturn]
  simp only [State.act, Tasks.move, Tasks.forward, hi, Option.bind_some, hwaiting, h.recv,
    Option.map_some]
  rfl

theorem step_lock {who : Consumer} (hfree : s.lock = none) (hwaits : s.waits who = true) :
    step s (.lock who) = some { s with lock := some who } := by
  have hadmits : s.admits (.lock who) = true := by
    rw [State.admits, hfree, hwaits]
    rfl
  rw [step, if_pos hadmits]
  rfl

theorem can_end_forwarder {i : Nat} {f : Forwarder} (h : Hung s)
    (hfree : ∀ who ∈ s.lock, who = .forwarder i) (hi : s.tasks.forwarders[i]? = some f)
    (hwaiting : f.phase = .waiting) :
    Lts.Can step Own
      (fun t => t.tasks.forwarders[i]? = some { f with phase := .ended }) s := by
  have hturn : ∀ t : State, Hung t → t.lock = some (.forwarder i) →
      t.tasks.forwarders[i]? = some f → Lts.Can step Own
        (fun t => t.tasks.forwarders[i]? = some { f with phase := .ended }) t := by
    intro t ht hlock hi
    have hown : Own (.move (.forwarder i)) := trivial
    exact .cons hown (step_forwarder_hung ht hlock hi hwaiting)
      (.here (getElem?_set_of_some hi _))
  cases hlock : s.lock with
  | none =>
      have hown : Own (.lock (.forwarder i)) := trivial
      exact .cons hown (step_lock hlock (waits_forwarder.mpr ⟨f, hi, hwaiting⟩))
        (hturn _ ⟨h.recv, h.handshake⟩ rfl hi)
  | some who => exact hturn s h (hfree who hlock ▸ hlock) hi

theorem can_end_submission {j : Nat} {l : SubmitLoop} (h : Hung s)
    (hfree : ∀ who ∈ s.lock, who = .submission j)
    (hj : s.tasks.submissions[j]? = some (.waiting l)) :
    Lts.Can step Own
      (fun t => t.tasks.submissions[j]?
        = some (.answered (.error (.connection "Connection closed")))) s := by
  have hturn : ∀ t : State, Hung t → t.lock = some (.submission j) →
      t.tasks.submissions[j]? = some (.waiting l) → Lts.Can step Own
        (fun t => t.tasks.submissions[j]?
          = some (.answered (.error (.connection "Connection closed")))) t := by
    intro t ht hlock hj
    have hown : Own (.move (.submissionRecv j)) := trivial
    exact .cons hown (step_submission_hung ht hlock hj) (.here (getElem?_set_of_some hj _))
  cases hlock : s.lock with
  | none =>
      have hown : Own (.lock (.submission j)) := trivial
      exact .cons hown (step_lock hlock (waits_submission.mpr ⟨l, hj⟩))
        (hturn _ ⟨h.recv, h.handshake⟩ rfl hj)
  | some who => exact hturn s h (hfree who hlock ▸ hlock) hj

/-- Whoever else has the lock has ended, and given it back. -/
structure Freed (s t : State) (who : Consumer) : Prop where
  hung : Hung t
  free : t.lock = none
  forwarders : ∀ i, who ≠ .forwarder i → t.tasks.forwarders[i]? = s.tasks.forwarders[i]?
  submissions : ∀ j, who ≠ .submission j → t.tasks.submissions[j]? = s.tasks.submissions[j]?

theorem exists_freed {who : Consumer} (h : Hung s) (hheld : Held s) (hlock : s.lock = some who) :
    ∃ a t, Own a ∧ step s a = some t ∧ Freed s t who := by
  have hwaits := hheld who hlock
  cases who with
  | forwarder i =>
      obtain ⟨f, hi, hwaiting⟩ := waits_forwarder.mp hwaits
      refine ⟨.move (.forwarder i), _, trivial, step_forwarder_hung h hlock hi hwaiting,
        ⟨h.recv, h.handshake⟩, rfl, fun k hne => ?_, fun j _ => rfl⟩
      exact List.getElem?_set_ne fun hik => hne (congrArg Consumer.forwarder hik)
  | submission j =>
      obtain ⟨l, hj⟩ := waits_submission.mp hwaits
      refine ⟨.move (.submissionRecv j), _, trivial, step_submission_hung h hlock hj,
        ⟨h.recv, h.handshake⟩, rfl, fun i _ => rfl, fun k hne => ?_⟩
      exact List.getElem?_set_ne fun hjk => hne (congrArg Consumer.submission hjk)
  | handshake =>
      rw [State.waits, h.handshake] at hwaits
      cases hwaits

/-- Nobody has the lock, or nobody else. -/
theorem free_or_freed (h : Hung s) (hheld : Held s) (who : Consumer) :
    (∀ other ∈ s.lock, other = who)
      ∨ ∃ a t other, other ≠ who ∧ Own a ∧ step s a = some t ∧ Freed s t other := by
  cases hlock : s.lock with
  | none => exact .inl fun other hother => by cases hother
  | some other =>
      by_cases heq : other = who
      · exact .inl fun _ hother => (Option.some.inj hother).symm.trans heq
      · obtain ⟨a, t, hown, hstep, hfreed⟩ := exists_freed h hheld hlock
        exact .inr ⟨a, t, other, heq, hown, hstep, hfreed⟩

theorem forwarders_of_hung {i : Nat} {f : Forwarder} (h : Hung s) (hheld : Held s)
    (hi : s.tasks.forwarders[i]? = some f) (hwaiting : f.phase = .waiting) :
    Lts.Can step Own
      (fun t => t.tasks.forwarders[i]? = some { f with phase := .ended }) s := by
  rcases free_or_freed h hheld (.forwarder i) with hfree | ⟨a, t, other, hne, hown, hstep, hfreed⟩
  · exact can_end_forwarder h hfree hi hwaiting
  · have hfree : ∀ who ∈ t.lock, who = .forwarder i := by
      rw [hfreed.free]
      exact fun _ hwho => by cases hwho
    have hi' := (hfreed.forwarders i hne).trans hi
    exact .cons hown hstep (can_end_forwarder hfreed.hung hfree hi' hwaiting)

theorem submissions_of_waiting {j : Nat} {l : SubmitLoop} (h : Hung s) (hheld : Held s)
    (hj : s.tasks.submissions[j]? = some (.waiting l)) :
    Lts.Can step Own
      (fun t => t.tasks.submissions[j]?
        = some (.answered (.error (.connection "Connection closed")))) s := by
  rcases free_or_freed h hheld (.submission j) with
    hfree | ⟨a, t, other, hne, hown, hstep, hfreed⟩
  · exact can_end_submission h hfree hj
  · have hfree : ∀ who ∈ t.lock, who = .submission j := by
      rw [hfreed.free]
      exact fun _ hwho => by cases hwho
    have hj' := (hfreed.submissions j hne).trans hj
    exact .cons hown hstep (can_end_submission hfreed.hung hfree hj')

theorem step_check {j : Nat} {l : SubmitLoop} (hj : s.tasks.submissions[j]? = some (.checking l)) :
    step s (.move (.submissionCheck j))
      = some
        { s with
          tasks :=
            { s.tasks with submissions := s.tasks.submissions.set j (.waiting l) } } := by
  have hadmits : s.admits (.move (.submissionCheck j)) = true := rfl
  rw [step, if_pos hadmits]
  simp only [State.act, Tasks.move, hj, Option.map_some]
  rfl

theorem submissions_of_hung {j : Nat} {x : Submission} (h : Hung s) (hheld : Held s)
    (hj : s.tasks.submissions[j]? = some x) (hongoing : x.isOngoing = true) :
    Lts.Can step Own
      (fun t => t.tasks.submissions[j]?
        = some (.answered (.error (.connection "Connection closed")))) s := by
  cases x with
  | checking l =>
      have hstep := step_check hj
      have hown : Own (.move (.submissionCheck j)) := trivial
      exact .cons hown hstep (submissions_of_waiting ⟨h.recv, h.handshake⟩ (held_step hheld hstep)
        (getElem?_set_of_some hj _))
  | waiting l => exact submissions_of_waiting h hheld hj
  | answered answer => cases hongoing

end Hung

theorem hangsUp_of_closed {s : State} {n : Nat} {c : Conn} (h : Over s n c) (hheld : Held s)
    (hclosed : Closed s.link n c) (hnone : s.link.handshake = none) : HangsUp s n c := by
  have hrecv := recv_of_closed h hclosed
  exact ⟨hclosed, hrecv, fun j x => submissions_of_hung ⟨hrecv, hnone⟩ hheld,
    fun i f => forwarders_of_hung ⟨hrecv, hnone⟩ hheld⟩

/-- The transport keeps a sender of the queue that it has the receiver of,
until there is another queue. -/
theorem closed_iff_replacing {s : State} {n : Nat} {c : Conn} (h : Over s n c)
    (hnum : Numbered s) : Closed s.link n c ↔ s.link.replacing = true := by
  unfold Link.replacing
  cases hconn : s.link.connecting with
  | none =>
      refine iff_of_false (fun hclosed => ?_) Bool.false_ne_true
      exact hclosed.2.1 ((hnum.paired hconn).trans h.current)
  | some c' =>
      have hstored := hnum.connecting c' hconn
      rw [Option.any_some]
      cases hinstalled : c'.installed with
      | true =>
          obtain ⟨hrx, -⟩ := hstored.messageRx hinstalled
          refine iff_of_false (fun hclosed => ?_) Bool.false_ne_true
          exact hclosed.2.1 (hstored.messageTx.trans (hrx.symm.trans h.current))
      | false =>
          obtain ⟨hlt, -⟩ := List.getElem?_eq_some_iff.mp h.conn
          have hne : c'.conn ≠ n := by
            rw [hstored.next hinstalled]
            exact Nat.ne_of_gt hlt
          refine iff_of_true ⟨h.ended, fun htx => ?_, fun hc => ?_⟩ rfl
          · exact hne (Option.some.inj (hstored.messageTx.symm.trans htx))
          · rw [hconn] at hc
            exact hne (Option.some.inj hc)

/-- Of the end of a connection nobody learns, unless the transport is
about to replace it. -/
theorem hangsUp_iff {as : List Action} {t : State} {n : Nat} {c : Conn}
    (hrun : Lts.run step {} as = some t) (h : Over t n c) :
    HangsUp t n c ↔ t.link.replacing = true := by
  have hclosed := closed_iff_replacing h (numbered_run hrun)
  constructor
  · exact fun hhangs => hclosed.mp hhangs.closed
  · intro hreplacing
    exact hangsUp_of_closed h (held_run hrun) (hclosed.mpr hreplacing)
      (handshake_of_replacing hreplacing)

def accepted : WsConnected where
  sessionId := "ws-1"
  region := none
  serverTime := 0
  features := []
  rateLimit := ⟨10, 20⟩

def keyOnly : Config := { apiKey := "sk_test_12345678" }

/-- A connect that the server accepts. -/
def connecting (n : Nat) : List Action :=
  [.call (.dial keyOnly), .call .install,
    .move (.arrive n (.text (some (.connected accepted)))), .move (.receiver n),
    .lock .handshake, .call .reply]

/-- A subscription waits for a message. -/
def subscribing : List Action :=
  connecting 0 ++ [.move (.subscribe .tipInstructions), .lock (.forwarder 0)]

/-- The server closes the connection. -/
def closing : List Action := [.move (.arrive 0 .close), .move (.receiver 0)]

/-- The subscription ends with the next connect. -/
theorem closing_hangsUp :
    ∃ t c, Lts.run step {} (subscribing ++ closing ++ [.call (.dial keyOnly)]) = some t
      ∧ Over t 0 c ∧ HangsUp t 0 c :=
  ⟨_, _, rfl, ⟨rfl, rfl, rfl, rfl, rfl⟩,
    (hangsUp_iff
      (rfl : Lts.run step {} (subscribing ++ closing ++ [.call (.dial keyOnly)]) = some _)
      ⟨rfl, rfl, rfl, rfl, rfl⟩).mpr rfl⟩

/-- A submission is under way as well. -/
def submitting : List Action :=
  [.move (.submit "req-1" {}), .move (.submissionCheck 0)]

/-- Until then the subscription waits, with the lock, and a submission for
that lock: it does not end, with its timeout neither. -/
theorem closing_unnoticed :
    ∃ t c, Lts.run step {} (subscribing ++ submitting ++ closing) = some t ∧ Over t 0 c
      ∧ ¬ HangsUp t 0 c
      ∧ (∀ a, Own a → step t a = none)
      ∧ step t (.move (.submissionTimeout 0)) = none
      ∧ t.tasks.submissions = [.waiting (.start "req-1" {})] := by
  refine ⟨_, _, rfl, ⟨rfl, rfl, rfl, rfl, rfl⟩, fun h => ?_, fun a ha => ?_, rfl, rfl⟩
  · exact h.closed.2.1 rfl
  · cases a with
    | call c =>
        cases c with
        | reply => rfl
        | _ => exact ha.elim
    | move m =>
        cases m with
        | submissionCheck j => cases j <;> rfl
        | submissionRecv j => rfl
        | receiver n => cases n <;> rfl
        | forwarder i => cases i <;> rfl
        | _ => exact ha.elim
    | lock who => rfl

/-! ## What a failed connect leaves behind -/

/-- The same connection; the configuration may differ. -/
structure Fields.Same (f g : Fields) : Prop where
  sink : f.sink = g.sink
  messageTx : f.messageTx = g.messageTx
  messageRx : f.messageRx = g.messageRx
  sessionId : f.sessionId = g.sessionId
  connected : f.connected = g.connected

/-- Every `connect` that has failed has left the transport as it was, and
no receiver task. -/
def Atomic (s : State) : Prop :=
  ∀ f ∈ s.link.failures, f.before.Same f.after ∧ f.receiverLeft = false

/-- A `connect` that has dialled is accepted. -/
def FailsAtDial (s : State) : Action → Prop
  | .call .sendFailed => False
  | .call .noReply => False
  | .call .hungUp => False
  | .call .reply => ∀ msg conns, s.tasks.recv s.link = some (.message msg, conns) →
      ∃ reply, msg = .connected reply
  | _ => True

/-- The sink of the failed attempt is in the place of the one before. -/
theorem not_atomic_fail {s : State} {c : Connecting}
    (hsink : s.link.fields.sink = some c.conn) (hbefore : c.before.sink ≠ some c.conn) :
    ¬ Atomic (s.fail c) := by
  intro h
  obtain ⟨hsame, -⟩ := h _ (List.mem_append_right _ (List.mem_singleton_self _))
  exact hbefore (hsame.sink.trans hsink)

theorem atomic_answer_iff {s : State} {c : Connecting} (h : Atomic s)
    (hsink : s.link.fields.sink = some c.conn) (hbefore : c.before.sink ≠ some c.conn)
    (msg : ServerMessage) :
    Atomic (s.answer c msg) ↔ ∃ reply, msg = .connected reply := by
  unfold State.answer
  cases msg with
  | connected reply => exact iff_of_true h ⟨reply, rfl⟩
  | _ =>
      refine iff_of_false (not_atomic_fail hsink hbefore) ?_
      rintro ⟨reply, hreply⟩
      cases hreply

/-- What the handshake of a `connect` is for. -/
theorem sink_of_handshake {s : State} {c : Connecting} (h : Numbered s)
    (hc : s.link.handshake = some c) :
    s.link.fields.sink = some c.conn ∧ c.before.sink ≠ some c.conn := by
  have hstored := h.connecting c (handshake_eq_some hc).1
  exact ⟨hstored.sink, hstored.before⟩

/-- A handshake that fails. -/
theorem not_atomic_of_handshake {s : State} {c : Connecting} (hnum : Numbered s)
    (hc : s.link.handshake = some c) : ¬ Atomic (s.fail c) := by
  obtain ⟨hsink, hbefore⟩ := sink_of_handshake hnum hc
  exact not_atomic_fail hsink hbefore

theorem atomic_call_iff {s t : State} {c : Call} (hnum : Numbered s) (h : Atomic s)
    (hstep : s.call c = some t) : Atomic t ↔ FailsAtDial s (.call c) := by
  cases call_cases hstep with
  | dialFailed =>
      refine iff_of_true (fun f hf => ?_) trivial
      rcases List.mem_append.mp hf with hf | hf
      · exact h f hf
      · rw [List.mem_singleton.mp hf]
        exact ⟨⟨rfl, rfl, rfl, rfl, rfl⟩, rfl⟩
  | dial => exact iff_of_true h trivial
  | install => exact iff_of_true h trivial
  | sendFailed hc => exact iff_of_false (not_atomic_of_handshake hnum hc) not_false
  | @reply c msg conns hc hrecv =>
      obtain ⟨hsink, hbefore⟩ := sink_of_handshake hnum hc
      refine (@atomic_answer_iff { s with tasks := { s.tasks with conns := conns } } c h hsink
        hbefore msg).trans ?_
      constructor
      · intro hreply msg' conns' hrecv'
        obtain ⟨hmsg, -⟩ := Prod.mk.inj (Option.some.inj (hrecv.symm.trans hrecv'))
        exact Received.message.inj hmsg ▸ hreply
      · exact fun hall => hall msg conns hrecv
  | noReply hc => exact iff_of_false (not_atomic_of_handshake hnum hc) not_false
  | hungUp hc => exact iff_of_false (not_atomic_of_handshake hnum hc) not_false
  | disconnect => exact iff_of_true h trivial

theorem atomic_step_iff {s t : State} {a : Action} (hnum : Numbered s) (h : Atomic s)
    (hstep : step s a = some t) : Atomic t ↔ FailsAtDial s a := by
  obtain ⟨-, u, hact, rfl⟩ := step_eq_some.mp hstep
  cases a with
  | call c =>
      have hiff := atomic_call_iff hnum h hact
      exact hiff
  | move m =>
      obtain ⟨tasks, -, rfl⟩ := Option.map_eq_some_iff.mp hact
      exact iff_of_true h trivial
  | lock who =>
      obtain rfl := Option.some.inj hact
      exact iff_of_true h trivial

theorem atomic_new : Atomic {} := by
  intro f hf
  cases hf

/-- A `connect` that fails leaves the transport as it was exactly if it
fails to dial. -/
theorem atomic_iff_failsAtDial (as : List Action) :
    Lts.Along step Atomic {} as ↔ Lts.Guarded step FailsAtDial {} as :=
  Lts.along_iff_guarded (fun _ _ _ => numbered_step) (fun _ _ _ => atomic_step_iff)
    numbered_new atomic_new

/-- A connected transport is connected once more, and the server does not
reply. -/
def reconnecting : List Action :=
  connecting 0 ++ [.call (.dial keyOnly), .call .install, .lock .handshake, .call .noReply]

/-- It still says it is connected, but on the socket of the attempt that
failed, whose receiver task goes on. -/
theorem reconnecting_not_atomic :
    ∃ t, Lts.run step {} reconnecting = some t
      ∧ t.link.fields
        = { config := some keyOnly
            sink := some 1
            messageTx := some 1
            messageRx := some 1
            sessionId := some "ws-1"
            connected := true }
      ∧ t.tasks.running 1 = true
      ∧ ¬ Lts.Along step Atomic {} reconnecting := by
  refine ⟨_, rfl, rfl, rfl, fun h => ?_⟩
  have hlast := h _ _ (List.prefix_refl _) rfl
  have hsink := (hlast _ (List.mem_singleton_self _)).1.sink
  revert hsink
  decide

end WsTasks

end Slipstream
