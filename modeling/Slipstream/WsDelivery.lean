import Slipstream.WsTasks

/-!
# Who gets a WebSocket message

The subscriptions and submissions of a transport, and a `connect` that
waits for its reply, all take from the one queue the transport has, and
every `connect` puts a new queue in its place. A message may be taken by
a task it is not for, or be left in a queue that is gone.

`sharedOut_along` is what holds all the same, in whatever order the tasks
run and whatever becomes of the connections: no message is taken twice,
or before one that arrived before it was taken, and what the application
reads from a subscription are the items of its kind among the messages
that the subscription's own task took, none twice and in that order.
-/

namespace Slipstream

namespace WsTasks

open ConnFlag.Ws (WsFrame)

/-! ## The history of a run -/

/-- The messages that came in on any connection, those that were taken
off a queue, with the subscription whose task took them if it was one,
and the items the application read from the channels. -/
structure History where
  arrived : List ServerMessage := []
  taken : List (Option Nat × ServerMessage) := []
  read : List (Nat × StreamItem) := []

namespace History

def took (h : History) (who : Option Nat) (msg : ServerMessage) : History :=
  { h with taken := h.taken ++ [(who, msg)] }

def reads (h : History) (i : Nat) (item : StreamItem) : History :=
  { h with read := h.read ++ [(i, item)] }

/-- The items that the messages a task took have for its subscription. -/
def itemsOf (h : History) (i : Nat) (kind : StreamKind) : List StreamItem :=
  h.taken.filterMap fun (who, msg) => if who = some i then msg.itemFor kind else none

def readBy (h : History) (i : Nat) : List StreamItem :=
  h.read.filterMap fun (j, item) => if j = i then some item else none

end History

/-- The next message on the transport's queue. -/
def Tasks.next (tasks : Tasks) (link : Link) : Option ServerMessage :=
  link.fields.messageRx.bind fun n => tasks.conns[n]?.bind fun c => c.queue.head?

def History.record (s : State) (a : Action) (h : History) : History :=
  match a with
  | .move (.arrive _ (.text (some msg))) => { h with arrived := h.arrived ++ [msg] }
  | .move (.forwarder i) =>
      match s.tasks.forwarders[i]?.map Forwarder.phase, s.tasks.next s.link with
      | some .waiting, some msg => h.took (some i) msg
      | _, _ => h
  | .move (.submissionRecv _) | .call .reply => ((s.tasks.next s.link).map (h.took none)).getD h
  | .move (.readChannel i) =>
      match s.tasks.forwarders[i]?.map Forwarder.channel with
      | some (item :: _) => h.reads i item
      | _ => h
  | _ => h

/-- The tasks with their history. -/
def recordedStep : History × State → Action → Option (History × State) :=
  Lts.recorded step History.record

/-! ## What is ahead -/

def Receiver.held : Receiver → List ServerMessage
  | .sending msg => [msg]
  | _ => []

def Phase.held : Phase → List StreamItem
  | .holding item => [item]
  | _ => []

def messages : WsFrame → List ServerMessage
  | .text (some msg) => [msg]
  | _ => []

/-- The messages that can still come out of the queue of a connection. -/
def Conn.ahead (c : Conn) : List ServerMessage :=
  c.queue ++ c.receiver.held ++ c.wire.flatMap messages

def ahead (link : Link) (conns : List Conn) : List ServerMessage :=
  ((link.fields.messageRx.bind fun n => conns[n]?).map Conn.ahead).getD []

/-- Only the connection whose queue the transport has counts. -/
theorem ahead_set (link : Link) {conns : List Conn} {n : Nat} {c : Conn} (hn : conns[n]? = some c)
    (c' : Conn) :
    (link.fields.messageRx = some n
        ∧ ahead link conns = c.ahead ∧ ahead link (conns.set n c') = c'.ahead)
      ∨ ahead link (conns.set n c') = ahead link conns := by
  by_cases hcurrent : link.fields.messageRx = some n
  · refine .inl ⟨hcurrent, ?_, ?_⟩
    · simp [ahead, hcurrent, hn]
    · simp [ahead, hcurrent, getElem?_set_of_some hn]
  · refine .inr ?_
    unfold ahead
    cases hrx : link.fields.messageRx with
    | none => rfl
    | some m =>
        have hne : n ≠ m := by
          rintro rfl
          exact hcurrent hrx
        rw [Option.bind_some, Option.bind_some, List.getElem?_set_ne hne]

theorem recv_message {tasks : Tasks} {link : Link} {msg : ServerMessage} {conns : List Conn}
    (h : tasks.recv link = some (.message msg, conns)) :
    tasks.next link = some msg ∧ ahead link tasks.conns = msg :: ahead link conns := by
  simp only [Tasks.recv, Option.bind_eq_some_iff] at h
  obtain ⟨n, hn, c, hc, h⟩ := h
  split at h
  · rename_i msg' rest hqueue
    obtain ⟨hmsg, rfl⟩ := Prod.mk.inj (Option.some.inj h)
    obtain rfl := Received.message.inj hmsg
    refine ⟨?_, ?_⟩
    · rw [Tasks.next, hn, Option.bind_some, hc, Option.bind_some, hqueue, List.head?_cons]
    · simp [ahead, hn, hc, getElem?_set_of_some hc, Conn.ahead, hqueue]
  · split at h
    · cases h
    · cases h

theorem recv_hungUp {tasks : Tasks} {link : Link} {conns : List Conn}
    (h : tasks.recv link = some (.hungUp, conns)) :
    tasks.next link = none ∧ conns = tasks.conns := by
  simp only [Tasks.recv, Option.bind_eq_some_iff] at h
  obtain ⟨n, hn, c, hc, h⟩ := h
  split at h
  · cases h
  · rename_i hqueue
    split at h
    · obtain ⟨-, rfl⟩ := Prod.mk.inj (Option.some.inj h)
      refine ⟨?_, rfl⟩
      rw [Tasks.next, hn, Option.bind_some, hc, Option.bind_some, hqueue, List.head?_nil]
    · cases h

theorem ahead_send (c : Conn) (msg : ServerMessage) (current : Bool) :
    (c.send current msg).ahead.Sublist (c.queue ++ [msg] ++ c.wire.flatMap messages) := by
  unfold Conn.send
  split
  · split
    · simp [Conn.ahead, Receiver.held]
    · simp [Conn.ahead, Receiver.held]
  · simp [Conn.ahead, Receiver.held]

/-- The receiver task loses messages, but neither adds nor reorders any. -/
theorem ahead_receive {c c' : Conn} {current : Bool} (h : c.receive current = some c') :
    c'.ahead.Sublist c.ahead := by
  unfold Conn.receive at h
  split at h
  · rename_i hreading
    split at h
    · cases h
    · rename_i frame rest hwire
      have hahead : c.ahead = c.queue ++ messages frame ++ rest.flatMap messages := by
        simp [Conn.ahead, hreading, hwire, Receiver.held]
      rw [hahead]
      split at h
      · obtain rfl := Option.some.inj h
        simp [Conn.ahead, hreading, Receiver.held]
      · obtain rfl := Option.some.inj h
        exact ahead_send { c with wire := rest, read := c.read + 1 } _ current
      · obtain rfl := Option.some.inj h
        split
        · simp [Conn.ahead, Receiver.held]
        · simp [Conn.ahead, hreading, Receiver.held]
  · rename_i msg hsending
    split at h
    · cases h
    · obtain rfl := Option.some.inj h
      have hahead : c.ahead = c.queue ++ [msg] ++ c.wire.flatMap messages := by
        rw [Conn.ahead, hsending]
        rfl
      rw [hahead]
      exact ahead_send c msg current
  · cases h

/-! ## What a subscription has -/

/-- The channel and the item its task holds, behind what has been read. -/
def Forwarder.all (f : Forwarder) (read : List StreamItem) : List StreamItem :=
  read ++ f.channel ++ f.phase.held

/-- A subscription whose task took messages with these items, and of which
these were read. -/
structure Forwarder.Got (f : Forwarder) (items read : List StreamItem) : Prop where
  own : f.all read <+: items
  whole : f.receiverAlive = true → f.all read = items

theorem Forwarder.Got.send {f : Forwarder} {items read : List StreamItem} {item : StreamItem}
    (hown : read ++ f.channel <+: items)
    (hwhole : f.receiverAlive = true → read ++ f.channel ++ [item] = items) :
    (f.send item).Got items read := by
  unfold Forwarder.send
  split
  · rename_i halive
    have hitems := hwhole halive
    split
    · refine ⟨?_, fun _ => ?_⟩
      · simp [Forwarder.all, Phase.held, ← hitems]
      · simp [Forwarder.all, Phase.held, ← hitems]
    · refine ⟨?_, fun _ => hitems⟩
      rw [← hitems]
      exact List.prefix_refl _
  · rename_i hgone
    refine ⟨?_, fun halive => absurd halive hgone⟩
    show read ++ f.channel ++ [] <+: items
    rw [List.append_nil]
    exact hown

theorem Forwarder.kind_send (f : Forwarder) (item : StreamItem) : (f.send item).kind = f.kind := by
  unfold Forwarder.send
  split
  · split <;> rfl
  · rfl

theorem Forwarder.kind_receive (f : Forwarder) (msg : ServerMessage) :
    (f.receive msg).kind = f.kind := by
  unfold Forwarder.receive
  split
  · exact f.kind_send _
  · rfl

theorem Forwarder.Got.channel {f : Forwarder} {items read : List StreamItem}
    (h : f.Got items read) : read ++ f.channel <+: items :=
  (List.prefix_append _ _).trans h.own

/-- A waiting task takes a message. -/
theorem Forwarder.Got.receive {f : Forwarder} {items read : List StreamItem}
    (h : f.Got items read) (hwaiting : f.phase = .waiting) (msg : ServerMessage) :
    (f.receive msg).Got (items ++ (msg.itemFor f.kind).toList) read := by
  unfold Forwarder.receive
  cases msg.itemFor f.kind with
  | none =>
      rw [Option.toList_none, List.append_nil]
      exact h
  | some item =>
      refine .send (h.channel.trans (List.prefix_append _ _)) fun halive => ?_
      have hall : f.all read = read ++ f.channel := by
        rw [Forwarder.all, hwaiting]
        exact List.append_nil _
      rw [← hall, h.whole halive, Option.toList_some]

/-- A task that holds an item puts it into the channel. -/
theorem Forwarder.Got.put {f : Forwarder} {items read : List StreamItem} {item : StreamItem}
    (h : f.Got items read) (hholding : f.phase = .holding item) :
    (f.send item).Got items read := by
  refine .send h.channel fun halive => ?_
  rw [← h.whole halive, Forwarder.all, hholding]
  rfl

/-! ## What a step does -/

/-- What becomes of the messages ahead, the subscriptions and the history
in a step. -/
inductive Passed (h : History) (s t : State) : History → Prop where
  | quiet (hahead : (ahead t.link t.tasks.conns).Sublist (ahead s.link s.tasks.conns))
      (hsame : t.tasks.forwarders = s.tasks.forwarders) : Passed h s t h
  | arrived {msg : ServerMessage}
      (hahead : (ahead t.link t.tasks.conns).Sublist (ahead s.link s.tasks.conns ++ [msg]))
      (hsame : t.tasks.forwarders = s.tasks.forwarders) :
      Passed h s t { h with arrived := h.arrived ++ [msg] }
  /-- By a submission, or for the reply to a `connect`. -/
  | taken {msg : ServerMessage}
      (hahead : ahead s.link s.tasks.conns = msg :: ahead t.link t.tasks.conns)
      (hsame : t.tasks.forwarders = s.tasks.forwarders) : Passed h s t (h.took none msg)
  | received {i : Nat} {f : Forwarder} {msg : ServerMessage}
      (hahead : ahead s.link s.tasks.conns = msg :: ahead t.link t.tasks.conns)
      (hf : s.tasks.forwarders[i]? = some f) (hwaiting : f.phase = .waiting)
      (hset : t.tasks.forwarders = s.tasks.forwarders.set i (f.receive msg)) :
      Passed h s t (h.took (some i) msg)
  | subscribed {kind : StreamKind}
      (hahead : ahead t.link t.tasks.conns = ahead s.link s.tasks.conns)
      (hnew : t.tasks.forwarders = s.tasks.forwarders ++ [{ kind := kind }]) : Passed h s t h
  | changed {i : Nat} {f f' : Forwarder}
      (hahead : ahead t.link t.tasks.conns = ahead s.link s.tasks.conns)
      (hf : s.tasks.forwarders[i]? = some f) (hkind : f'.kind = f.kind)
      (hgot : ∀ items read, f.Got items read → f'.Got items read)
      (hset : t.tasks.forwarders = s.tasks.forwarders.set i f') : Passed h s t h
  | read {i : Nat} {f : Forwarder} {item : StreamItem} {rest : List StreamItem}
      (hahead : ahead t.link t.tasks.conns = ahead s.link s.tasks.conns)
      (hf : s.tasks.forwarders[i]? = some f) (hchannel : f.channel = item :: rest)
      (hset : t.tasks.forwarders = s.tasks.forwarders.set i { f with channel := rest }) :
      Passed h s t (h.reads i item)

/-- Whoever has the lock afterwards. -/
theorem Passed.lock {h h' : History} {s t : State} (hpassed : Passed h s t h')
    (lock : Option Consumer) : Passed h s { t with lock := lock } h' := by
  cases hpassed with
  | quiet hahead hsame => exact .quiet hahead hsame
  | arrived hahead hsame => exact .arrived hahead hsame
  | taken hahead hsame => exact .taken hahead hsame
  | received hahead hf hwaiting hset => exact .received hahead hf hwaiting hset
  | subscribed hahead hnew => exact .subscribed hahead hnew
  | changed hahead hf hkind hgot hset => exact .changed hahead hf hkind hgot hset
  | read hahead hf hchannel hset => exact .read hahead hf hchannel hset

/-- A `connect` that stores a new queue leaves nothing ahead; the other
calls do not touch the queue, but for the reply to a `connect`. -/
theorem passed_call {h : History} {s t : State} {c : Call} (hnum : Numbered s)
    (hstep : s.call c = some t) : Passed h s t (h.record s (.call c)) := by
  cases call_cases hstep with
  | dialFailed hnone => exact .quiet (List.Sublist.refl _) rfl
  | dial hnone => exact .quiet (List.Sublist.refl _) rfl
  | @install c hconn hnew =>
      have hnext := (hnum.connecting c hconn).next hnew
      refine .quiet ?_ rfl
      simp [ahead, hnext, Conn.ahead, Receiver.held]
  | sendFailed hc => exact .quiet (List.Sublist.refl _) rfl
  | @reply c msg conns hc hrecv =>
      obtain ⟨hnext, hahead⟩ := recv_message hrecv
      have hrecord : h.record s (.call .reply) = h.took none msg := by
        rw [History.record, hnext]
        rfl
      rw [hrecord]
      unfold State.answer
      split
      · exact .taken hahead rfl
      · exact .taken hahead rfl
  | noReply hc => exact .quiet (List.Sublist.refl _) rfl
  | hungUp hc => exact .quiet (List.Sublist.refl _) rfl
  | disconnect hnone => exact .quiet (List.Sublist.refl _) rfl

theorem passed_submissionRecv {h : History} {s : State} {j : Nat} {tasks : Tasks}
    (hmove : s.tasks.move s.link (.submissionRecv j) = some tasks) :
    Passed h s { s with tasks := tasks } (h.record s (.move (.submissionRecv j))) := by
  simp only [Tasks.move] at hmove
  split at hmove
  · obtain ⟨⟨received, conns⟩, hrecv, rfl⟩ := Option.map_eq_some_iff.mp hmove
    cases received with
    | message msg =>
        obtain ⟨hnext, hahead⟩ := recv_message hrecv
        have hrecord : h.record s (.move (.submissionRecv j)) = h.took none msg := by
          rw [History.record, hnext]
          rfl
        rw [hrecord]
        exact .taken hahead rfl
    | hungUp =>
        obtain ⟨hnext, rfl⟩ := recv_hungUp hrecv
        have hrecord : h.record s (.move (.submissionRecv j)) = h := by
          rw [History.record, hnext]
          rfl
        rw [hrecord]
        exact .quiet (List.Sublist.refl _) rfl
  · cases hmove

theorem passed_readChannel {h : History} {s : State} {i : Nat} {tasks : Tasks}
    (hmove : s.tasks.move s.link (.readChannel i) = some tasks) :
    Passed h s { s with tasks := tasks } (h.record s (.move (.readChannel i))) := by
  obtain ⟨f, hf, hmove⟩ := Option.bind_eq_some_iff.mp hmove
  split at hmove
  · obtain rfl := Option.some.inj hmove
    rw [History.record, hf, Option.map_some]
    cases hchannel : f.channel with
    | nil =>
        refine .changed rfl hf ?_ ?_ rfl
        · rfl
        · rintro items read ⟨hown, hwhole⟩
          rw [Forwarder.all, hchannel] at hown hwhole
          exact ⟨hown, hwhole⟩
    | cons item rest => exact .read rfl hf hchannel rfl
  · cases hmove

theorem passed_arrive {h : History} {s : State} {n : Nat} {frame : WsFrame} {tasks : Tasks}
    (hmove : s.tasks.move s.link (.arrive n frame) = some tasks) :
    Passed h s { s with tasks := tasks } (h.record s (.move (.arrive n frame))) := by
  obtain ⟨c, hn, hmove⟩ := Option.bind_eq_some_iff.mp hmove
  split at hmove
  · cases hmove
  · obtain rfl := Option.some.inj hmove
    have hahead : (ahead s.link (s.tasks.conns.set n { c with wire := c.wire ++ [frame] })).Sublist
        (ahead s.link s.tasks.conns ++ messages frame) := by
      rcases ahead_set s.link hn { c with wire := c.wire ++ [frame] } with
        ⟨-, hold, hnew⟩ | hsame
      · rw [hold, hnew]
        simp [Conn.ahead]
      · rw [hsame]
        exact List.sublist_append_left _ _
    cases frame with
    | text msg =>
        cases msg with
        | some msg => exact .arrived hahead rfl
        | none => exact .quiet (by simpa [messages] using hahead) rfl
    | _ => exact .quiet (by simpa [messages] using hahead) rfl

theorem passed_receiver {h : History} {s : State} {n : Nat} {tasks : Tasks}
    (hmove : s.tasks.move s.link (.receiver n) = some tasks) :
    Passed h s { s with tasks := tasks } h := by
  obtain ⟨c, hn, hmove⟩ := Option.bind_eq_some_iff.mp hmove
  obtain ⟨c', hc', rfl⟩ := Option.map_eq_some_iff.mp hmove
  refine .quiet ?_ rfl
  rcases ahead_set s.link hn c' with ⟨-, hold, hnew⟩ | hsame
  · show (ahead s.link (s.tasks.conns.set n c')).Sublist _
    rw [hold, hnew]
    exact ahead_receive hc'
  · show (ahead s.link (s.tasks.conns.set n c')).Sublist _
    rw [hsame]

theorem passed_forwarder {h : History} {s : State} {i : Nat} {tasks : Tasks}
    (hmove : s.tasks.move s.link (.forwarder i) = some tasks) :
    Passed h s { s with tasks := tasks } (h.record s (.move (.forwarder i))) := by
  obtain ⟨f, hf, hmove⟩ := Option.bind_eq_some_iff.mp hmove
  obtain ⟨⟨f', conns⟩, hforward, rfl⟩ := Option.map_eq_some_iff.mp hmove
  unfold Tasks.forward at hforward
  split at hforward
  · rename_i hwaiting
    obtain ⟨⟨received, conns'⟩, hrecv, heq⟩ := Option.map_eq_some_iff.mp hforward
    cases received with
    | message msg =>
        obtain ⟨rfl, rfl⟩ := Prod.mk.inj heq
        obtain ⟨hnext, hahead⟩ := recv_message hrecv
        have hrecord : h.record s (.move (.forwarder i)) = h.took (some i) msg := by
          rw [History.record, hf, Option.map_some, hwaiting, hnext]
        rw [hrecord]
        exact .received hahead hf hwaiting rfl
    | hungUp =>
        obtain ⟨rfl, rfl⟩ := Prod.mk.inj heq
        obtain ⟨hnext, rfl⟩ := recv_hungUp hrecv
        have hrecord : h.record s (.move (.forwarder i)) = h := by
          rw [History.record, hf, Option.map_some, hwaiting, hnext]
        rw [hrecord]
        refine .changed rfl hf ?_ ?_ rfl
        · rfl
        · rintro items read ⟨hown, hwhole⟩
          rw [Forwarder.all, hwaiting] at hown hwhole
          exact ⟨hown, hwhole⟩
  · rename_i item hholding
    split at hforward
    · cases hforward
    · obtain ⟨rfl, rfl⟩ := Prod.mk.inj (Option.some.inj hforward)
      have hrecord : h.record s (.move (.forwarder i)) = h := by
        rw [History.record, hf, Option.map_some, hholding]
      rw [hrecord]
      exact .changed rfl hf (f.kind_send item) (fun _ _ hgot => hgot.put hholding) rfl
  · cases hforward

theorem passed_move {h : History} {s : State} {m : Move} {tasks : Tasks}
    (hmove : s.tasks.move s.link m = some tasks) :
    Passed h s { s with tasks := tasks } (h.record s (.move m)) := by
  cases m with
  | subscribe kind =>
      simp only [Tasks.move] at hmove
      split at hmove
      · obtain rfl := Option.some.inj hmove
        exact .subscribed rfl rfl
      · cases hmove
  | submit requestId options =>
      simp only [Tasks.move] at hmove
      split at hmove
      · obtain rfl := Option.some.inj hmove
        exact .quiet (List.Sublist.refl _) rfl
      · cases hmove
  | submissionRecv j => exact passed_submissionRecv hmove
  | submissionCheck j =>
      simp only [Tasks.move] at hmove
      split at hmove
      · obtain rfl := Option.some.inj hmove
        exact .quiet (List.Sublist.refl _) rfl
      · cases hmove
  | submissionTimeout j =>
      simp only [Tasks.move] at hmove
      split at hmove
      · obtain rfl := Option.some.inj hmove
        exact .quiet (List.Sublist.refl _) rfl
      · obtain rfl := Option.some.inj hmove
        exact .quiet (List.Sublist.refl _) rfl
      · cases hmove
  | readChannel i => exact passed_readChannel hmove
  | dropReceiver i =>
      obtain ⟨f, hf, rfl⟩ := Option.map_eq_some_iff.mp hmove
      refine .changed rfl hf ?_ ?_ rfl
      · rfl
      · rintro items read ⟨hown, -⟩
        exact ⟨hown, fun halive => Bool.noConfusion halive⟩
  | arrive n frame => exact passed_arrive hmove
  | receiver n => exact passed_receiver hmove
  | forwarder i => exact passed_forwarder hmove

theorem passed_step {h : History} {s t : State} {a : Action} (hnum : Numbered s)
    (hstep : step s a = some t) : Passed h s t (h.record s a) := by
  obtain ⟨-, u, hact, rfl⟩ := step_eq_some.mp hstep
  refine Passed.lock ?_ _
  cases a with
  | call c => exact passed_call hnum hact
  | move m =>
      obtain ⟨tasks, hmove, rfl⟩ := Option.map_eq_some_iff.mp hact
      exact passed_move hmove
  | lock who =>
      obtain rfl := Option.some.inj hact
      exact .quiet (List.Sublist.refl _) rfl

/-! ## The invariant -/

@[simp] theorem itemsOf_took_self (h : History) (i : Nat) (msg : ServerMessage)
    (kind : StreamKind) :
    (h.took (some i) msg).itemsOf i kind = h.itemsOf i kind ++ (msg.itemFor kind).toList := by
  unfold History.itemsOf History.took
  rw [List.filterMap_append]
  cases hitem : msg.itemFor kind <;> simp [hitem]

theorem itemsOf_took_ne (h : History) {who : Option Nat} {i : Nat} (hne : who ≠ some i)
    (msg : ServerMessage) (kind : StreamKind) :
    (h.took who msg).itemsOf i kind = h.itemsOf i kind := by
  simp [History.itemsOf, History.took, hne]

@[simp] theorem readBy_reads_self (h : History) (i : Nat) (item : StreamItem) :
    (h.reads i item).readBy i = h.readBy i ++ [item] := by
  simp [History.readBy, History.reads]

theorem readBy_reads_ne (h : History) {i j : Nat} (hne : j ≠ i) (item : StreamItem) :
    (h.reads j item).readBy i = h.readBy i := by
  simp [History.readBy, History.reads, hne]

structure Inv (h : History) (s : State) : Prop where
  numbered : Numbered s
  order : (h.taken.map Prod.snd ++ ahead s.link s.tasks.conns).Sublist h.arrived
  /-- The subscriptions to come have no history. -/
  fresh : ∀ i, s.tasks.forwarders.length ≤ i →
    (∀ kind, h.itemsOf i kind = []) ∧ h.readBy i = []
  got : ∀ (i : Nat) (f : Forwarder), s.tasks.forwarders[i]? = some f →
    f.Got (h.itemsOf i f.kind) (h.readBy i)

theorem inv_new : Inv {} {} where
  numbered := numbered_new
  order := List.Sublist.refl _
  fresh := fun _ _ => ⟨fun _ => rfl, rfl⟩
  got := by
    intro i f hf
    cases hf

section Steps

variable {h h' : History} {s t : State}

/-- One subscription changes with its history, the others keep both. -/
theorem got_set (hinv : Inv h s) {i : Nat} {f f' : Forwarder}
    (hf : s.tasks.forwarders[i]? = some f)
    (hset : t.tasks.forwarders = s.tasks.forwarders.set i f')
    (hself : f'.Got (h'.itemsOf i f'.kind) (h'.readBy i))
    (hothers : ∀ j, j ≠ i →
      (∀ kind, h'.itemsOf j kind = h.itemsOf j kind) ∧ h'.readBy j = h.readBy j) :
    (∀ j, t.tasks.forwarders.length ≤ j →
        (∀ kind, h'.itemsOf j kind = []) ∧ h'.readBy j = [])
      ∧ ∀ (j : Nat) (g : Forwarder), t.tasks.forwarders[j]? = some g →
        g.Got (h'.itemsOf j g.kind) (h'.readBy j) := by
  have hi : i < s.tasks.forwarders.length := (List.getElem?_eq_some_iff.mp hf).1
  rw [hset]
  refine ⟨fun j hj => ?_, fun j g hg => ?_⟩
  · rw [List.length_set] at hj
    obtain ⟨hitems, hread⟩ := hothers j (by omega)
    obtain ⟨hnone, hunread⟩ := hinv.fresh j hj
    exact ⟨fun kind => (hitems kind).trans (hnone kind), hread.trans hunread⟩
  · by_cases hji : j = i
    · subst hji
      rw [getElem?_set_of_some hf] at hg
      obtain rfl := Option.some.inj hg
      exact hself
    · rw [List.getElem?_set_ne (Ne.symm hji)] at hg
      obtain ⟨hitems, hread⟩ := hothers j hji
      rw [hitems, hread]
      exact hinv.got j g hg

/-- A message that is taken is no longer ahead. -/
theorem order_took {who : Option Nat} {msg : ServerMessage}
    (horder : (h.taken.map Prod.snd ++ ahead s.link s.tasks.conns).Sublist h.arrived)
    (hahead : ahead s.link s.tasks.conns = msg :: ahead t.link t.tasks.conns) :
    ((h.took who msg).taken.map Prod.snd ++ ahead t.link t.tasks.conns).Sublist
      (h.took who msg).arrived := by
  have hsame : (h.took who msg).taken.map Prod.snd ++ ahead t.link t.tasks.conns
      = h.taken.map Prod.snd ++ ahead s.link s.tasks.conns := by
    rw [hahead]
    simp [History.took]
  rw [hsame]
  exact horder

theorem Inv.passed (hinv : Inv h s) (hnum : Numbered t) (hpassed : Passed h s t h') :
    Inv h' t := by
  obtain ⟨-, horder, hfresh, hgot⟩ := id hinv
  cases hpassed with
  | quiet hahead hsame =>
      refine ⟨hnum, (hahead.append_left _).trans horder, ?_, ?_⟩
      · rw [hsame]
        exact hfresh
      · rw [hsame]
        exact hgot
  | @arrived msg hahead hsame =>
      refine ⟨hnum, ?_, ?_, ?_⟩
      · have hlonger := horder.append (List.Sublist.refl [msg])
        rw [List.append_assoc] at hlonger
        exact (hahead.append_left _).trans hlonger
      · rw [hsame]
        exact hfresh
      · rw [hsame]
        exact hgot
  | @taken msg hahead hsame =>
      have hother : ∀ i, (h.took none msg).readBy i = h.readBy i := fun i => rfl
      refine ⟨hnum, order_took horder hahead, ?_, ?_⟩
      · rw [hsame]
        intro i hi
        obtain ⟨hnone, hunread⟩ := hfresh i hi
        refine ⟨fun kind => ?_, hunread⟩
        rw [itemsOf_took_ne h (by simp), hnone kind]
      · rw [hsame]
        intro i f hf
        rw [itemsOf_took_ne h (by simp), hother]
        exact hgot i f hf
  | @received i f msg hahead hf hwaiting hset =>
      have hself := (hgot i f hf).receive hwaiting msg
      rw [← itemsOf_took_self, ← f.kind_receive msg] at hself
      obtain ⟨hfresh', hgot'⟩ := got_set hinv hf hset hself fun j hj =>
        ⟨fun kind => itemsOf_took_ne h (fun heq => hj (Option.some.inj heq).symm) msg kind, rfl⟩
      exact ⟨hnum, order_took horder hahead, hfresh', hgot'⟩
  | @subscribed kind hahead hnew =>
      refine ⟨hnum, hahead ▸ horder, fun i hi => ?_, fun i f hf => ?_⟩
      · rw [hnew, List.length_append] at hi
        exact hfresh i (by omega)
      · rw [hnew] at hf
        by_cases hi : i < s.tasks.forwarders.length
        · rw [List.getElem?_append_left hi] at hf
          exact hgot i f hf
        · obtain ⟨hnone, hunread⟩ := hfresh i (by omega)
          have hf' : f = { kind := kind } := by
            rw [List.getElem?_append_right (by omega)] at hf
            exact (List.mem_singleton.mp (List.mem_of_getElem? hf))
          rw [hnone, hunread, hf']
          exact ⟨List.prefix_refl _, fun _ => rfl⟩
  | @changed i f f' hahead hf hkind hkeeps hset =>
      have hself := hkeeps _ _ (hgot i f hf)
      rw [← hkind] at hself
      obtain ⟨hfresh', hgot'⟩ := got_set hinv hf hset hself fun _ _ => ⟨fun _ => rfl, rfl⟩
      exact ⟨hnum, hahead ▸ horder, hfresh', hgot'⟩
  | @read i f item rest hahead hf hchannel hset =>
      obtain ⟨hown, hwhole⟩ := hgot i f hf
      have hmoved : Forwarder.all { f with channel := rest } (h.readBy i ++ [item])
          = f.all (h.readBy i) := by
        simp [Forwarder.all, hchannel]
      have hself : Forwarder.Got { f with channel := rest } ((h.reads i item).itemsOf i f.kind)
          ((h.reads i item).readBy i) := by
        rw [readBy_reads_self]
        exact ⟨hmoved ▸ hown, fun halive => hmoved ▸ hwhole halive⟩
      obtain ⟨hfresh', hgot'⟩ := got_set hinv hf hset hself fun j hj =>
        ⟨fun _ => rfl, readBy_reads_ne h (Ne.symm hj) item⟩
      exact ⟨hnum, hahead ▸ horder, hfresh', hgot'⟩

theorem Inv.step {a : Action} (hinv : Inv h s) (hstep : step s a = some t) :
    Inv (h.record s a) t :=
  hinv.passed (numbered_step hinv.numbered hstep) (passed_step hinv.numbered hstep)

end Steps

/-! ## Delivery -/

/-- What the applications of all the subscriptions can rely on. -/
structure SharedOut (h : History) (s : State) : Prop where
  /-- A message has one taker at most, and they take turns in order. -/
  order : (h.taken.map Prod.snd).Sublist h.arrived
  own : ∀ (i : Nat) (f : Forwarder), s.tasks.forwarders[i]? = some f →
    h.readBy i ++ f.channel <+: h.itemsOf i f.kind
  /-- Nothing that the task of a subscription took is lost to it. -/
  whole : ∀ (i : Nat) (f : Forwarder), s.tasks.forwarders[i]? = some f →
    f.receiverAlive = true → h.readBy i ++ f.channel ++ f.phase.held = h.itemsOf i f.kind

theorem Inv.sharedOut {h : History} {s : State} (hinv : Inv h s) : SharedOut h s where
  order := (List.sublist_append_left _ _).trans hinv.order
  own := fun i f hf => (hinv.got i f hf).channel
  whole := fun i f hf halive => (hinv.got i f hf).whole halive

/-- In every state of every run, with its history. -/
theorem sharedOut_along (as : List Action) :
    (Lts.run recordedStep ({}, {}) as).map Prod.snd = Lts.run step {} as
      ∧ Lts.Along recordedStep (fun x => SharedOut x.1 x.2) ({}, {}) as := by
  refine ⟨Lts.run_recorded as _ _, ?_⟩
  have hkept : ∀ (x : History × State) (a : Action) (y : History × State), Inv x.1 x.2 →
      recordedStep x a = some y → Inv y.1 y.2 := by
    rintro ⟨h, s⟩ a y hinv hstep
    obtain ⟨t, ht, rfl⟩ := Option.map_eq_some_iff.mp hstep
    exact hinv.step ht
  have hstart : (fun x : History × State => Inv x.1 x.2) ({}, {}) := inv_new
  have hinv : Lts.Along recordedStep (fun x => Inv x.1 x.2) ({}, {}) as :=
    Lts.along_of_inv hkept hstart
  exact hinv.mono fun x hx => hx.sharedOut

end WsTasks

end Slipstream
