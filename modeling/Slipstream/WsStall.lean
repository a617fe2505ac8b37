import Slipstream.WsTasks

/-!
# Slow consumers of a WebSocket transport

The receiver task waits for a slot of the queue before it reads on, and a
forwarder for a slot of its channel before it takes on. So the frames on
the socket wait for the application, heartbeats among them: the receiver
task comes to the next frame exactly if the queue has a slot, or somebody
takes from it (`serviced_iff`). A subscription whose receiver has been
dropped takes nothing any more, but its messages still come.
-/

namespace Slipstream

namespace WsTasks

open ConnFlag.Ws (WsFrame)

/-! ## Connections -/

/-- The stream goes with the receiver task, and the queue has its bound. -/
structure Conn.Sound (c : Conn) : Prop where
  shut : c.receiver = .ended → c.wire = []
  bounded : c.queue.length ≤ queueSlots

theorem sound_of_open {c : Conn} (hopen : c.receiver ≠ .ended)
    (h : c.queue.length ≤ queueSlots) : c.Sound :=
  ⟨fun hended => absurd hended hopen, h⟩

theorem sound_send {c : Conn} (h : c.queue.length ≤ queueSlots) (current : Bool)
    (msg : ServerMessage) : (c.send current msg).Sound := by
  unfold Conn.send
  split
  · split
    · rename_i hroom
      refine sound_of_open Receiver.noConfusion ?_
      rw [List.length_append, List.length_singleton]
      exact hroom
    · exact sound_of_open Receiver.noConfusion h
  · exact ⟨fun _ => rfl, h⟩

theorem sound_receive {c c' : Conn} {current : Bool} (h : c.Sound)
    (hstep : c.receive current = some c') : c'.Sound := by
  unfold Conn.receive at hstep
  split at hstep
  · rename_i hreading
    split at hstep
    · cases hstep
    · rename_i frame rest hwire
      have hopen : c.receiver ≠ .ended := by
        rw [hreading]
        exact Receiver.noConfusion
      dsimp only at hstep
      split at hstep
      · obtain rfl := Option.some.inj hstep
        exact sound_of_open hopen h.bounded
      · obtain rfl := Option.some.inj hstep
        exact sound_send (c := { c with wire := rest, read := c.read + 1 }) h.bounded current _
      · split at hstep
        · obtain rfl := Option.some.inj hstep
          exact ⟨fun _ => rfl, h.bounded⟩
        · obtain rfl := Option.some.inj hstep
          exact sound_of_open hopen h.bounded
  · split at hstep
    · cases hstep
    · obtain rfl := Option.some.inj hstep
      exact sound_send h.bounded current _
  · cases hstep

theorem sound_connStep {c c' : Conn} {current : Bool} (h : c.Sound)
    (hstep : c.Step current c') : c'.Sound := by
  cases hstep with
  | taken hqueue =>
      refine ⟨h.shut, Nat.le_trans ?_ h.bounded⟩
      rw [hqueue]
      exact Nat.le_succ _
  | arrived frame hopen => exact sound_of_open hopen h.bounded
  | received hreceive => exact sound_receive h hreceive

def Sound (s : State) : Prop :=
  ∀ c ∈ s.tasks.conns, c.Sound

theorem sound_moved {link : Link} {conns conns' : List Conn}
    (h : ∀ c ∈ conns, c.Sound) (hmoved : Moved link conns conns') : ∀ c ∈ conns', c.Sound := by
  cases hmoved with
  | none => exact h
  | one hn hstep =>
      intro c hc
      rcases List.mem_or_eq_of_mem_set hc with hc | rfl
      · exact h c hc
      · exact sound_connStep (h _ (List.mem_of_getElem? hn)) hstep

theorem tasks_answer (s : State) (c : Connecting) (msg : ServerMessage) :
    (s.answer c msg).tasks = s.tasks := by
  unfold State.answer
  split
  · rfl
  · rfl

theorem sound_call {s t : State} {c : Call} (h : Sound s) (hstep : s.call c = some t) :
    Sound t := by
  cases call_cases hstep with
  | dialFailed => exact h
  | dial => exact h
  | install =>
      intro c' hc'
      rcases List.mem_append.mp hc' with hc' | hc'
      · exact h c' hc'
      · rw [List.mem_singleton.mp hc']
        exact sound_of_open Receiver.noConfusion (Nat.zero_le _)
  | sendFailed => exact h
  | reply hc hrecv =>
      unfold Sound
      rw [tasks_answer]
      exact sound_moved h (moved_recv hrecv)
  | noReply => exact h
  | hungUp => exact h
  | disconnect => exact h

theorem sound_step {s t : State} {a : Action} (h : Sound s) (hstep : step s a = some t) :
    Sound t := by
  obtain ⟨-, u, hact, rfl⟩ := step_eq_some.mp hstep
  cases a with
  | call c =>
      have hsound := sound_call h hact
      exact hsound
  | move m =>
      obtain ⟨tasks, htasks, rfl⟩ := Option.map_eq_some_iff.mp hact
      exact sound_moved h (moved_move htasks)
  | lock who =>
      obtain rfl := Option.some.inj hact
      exact h

theorem sound_new : Sound {} := by
  intro c hc
  cases hc

theorem sound_run {as : List Action} {t : State} (hrun : Lts.run step {} as = some t) :
    Sound t :=
  Lts.along_of_inv (fun _ _ _ => sound_step) sound_new as t (List.prefix_refl as) hrun

/-! ## Who moves -/

/-- A forwarder that takes messages, if need be after an item it holds. -/
def Forwarder.Takes (f : Forwarder) : Prop :=
  match f.phase with
  | .waiting => True
  | .holding _ => f.receiverAlive = true ∧ f.channel.length < channelSlots
  | .ended => False

/-- Somebody takes messages from the queue. -/
def Drained (s : State) : Prop :=
  (∃ f ∈ s.tasks.forwarders, f.Takes)
    ∨ (∃ x ∈ s.tasks.submissions, x.isOngoing = true)
    ∨ s.link.handshake.isSome = true

/-- A frame waits on the socket. One further back is the first of a later
state. -/
structure Pending (s : State) (n : Nat) (c : Conn) : Prop where
  current : s.link.fields.messageRx = some n
  conn : s.tasks.conns[n]? = some c
  frame : c.wire ≠ []

/-- The receiver task comes to the first frame, without the application. -/
def Serviced (s : State) (n : Nat) (c : Conn) : Prop :=
  Lts.Can step Own (fun t => ∃ c', t.tasks.conns[n]? = some c' ∧ c.read < c'.read) s

/-- The queue has a slot for the message that the receiver task holds, or
will have. -/
def Unstalled (s : State) (c : Conn) : Prop :=
  ∀ msg, c.receiver = .sending msg → c.queue.length < queueSlots ∨ Drained s

/-! ## Where it comes to the frame -/

theorem step_receiver {s : State} {n : Nat} {c c' : Conn}
    (hrx : s.link.fields.messageRx = some n) (hn : s.tasks.conns[n]? = some c)
    (h : c.receive true = some c') :
    step s (.move (.receiver n))
      = some { s with tasks := { s.tasks with conns := s.tasks.conns.set n c' } } := by
  have hadmits : s.admits (.move (.receiver n)) = true := rfl
  rw [step, if_pos hadmits]
  simp only [State.act, Tasks.move, hn, Option.bind_some, hrx, decide_true, h, Option.map_some]
  rfl

theorem read_send (c : Conn) (current : Bool) (msg : ServerMessage) :
    (c.send current msg).read = c.read := by
  unfold Conn.send
  split
  · split
    · rfl
    · rfl
  · rfl

theorem exists_receive {c : Conn} (current : Bool) (hreading : c.receiver = .reading)
    (hframe : c.wire ≠ []) : ∃ c', c.receive current = some c' ∧ c.read < c'.read := by
  obtain ⟨frame, rest, hwire⟩ := List.exists_cons_of_ne_nil hframe
  simp only [Conn.receive, hreading, hwire]
  split
  · exact ⟨_, rfl, Nat.lt_succ_self _⟩
  · refine ⟨_, rfl, ?_⟩
    rw [read_send]
    exact Nat.lt_succ_self _
  · split
    · exact ⟨_, rfl, Nat.lt_succ_self _⟩
    · exact ⟨_, rfl, Nat.lt_succ_self _⟩

theorem serviced_of_reading {s : State} {n : Nat} {c : Conn} (h : Pending s n c)
    (hreading : c.receiver = .reading) : Serviced s n c := by
  obtain ⟨c', hreceive, hread⟩ := exists_receive true hreading h.frame
  have hown : Own (.move (.receiver n)) := trivial
  refine .cons hown (step_receiver h.current h.conn hreceive) (.here ⟨c', ?_, hread⟩)
  exact getElem?_set_of_some h.conn c'

/-- The receiver task puts its message into the queue, and reads. -/
theorem serviced_of_room {s : State} {n : Nat} {c : Conn} {msg : ServerMessage}
    (h : Pending s n c) (hsending : c.receiver = .sending msg)
    (hroom : c.queue.length < queueSlots) : Serviced s n c := by
  let c' : Conn := { c with receiver := .reading, queue := c.queue ++ [msg] }
  have hreceive : c.receive true = some c' := by
    simp only [Conn.receive, hsending, hroom, not_true_eq_false, and_false, if_false,
      Conn.send, if_true, c']
  have hown : Own (.move (.receiver n)) := trivial
  refine .cons hown (step_receiver h.current h.conn hreceive) ?_
  exact serviced_of_reading (c := c') ⟨h.current, getElem?_set_of_some h.conn c', h.frame⟩ rfl

/-- A message has been taken from the full queue. -/
structure Taken (s t : State) (n : Nat) (c : Conn) : Prop where
  current : t.link.fields.messageRx = s.link.fields.messageRx
  conns : ∃ rest, t.tasks.conns = s.tasks.conns.set n { c with queue := rest }
    ∧ rest.length < c.queue.length

theorem serviced_of_taken {s t : State} {n : Nat} {c : Conn} {a : Action}
    {msg : ServerMessage} (h : Pending s n c) (hsending : c.receiver = .sending msg)
    (hbound : c.queue.length ≤ queueSlots) (ha : Own a) (hstep : step s a = some t)
    (htaken : Taken s t n c) : Serviced s n c := by
  obtain ⟨rest, hconns, hrest⟩ := htaken.conns
  have hpending : Pending t n { c with queue := rest } := by
    refine ⟨htaken.current.trans h.current, ?_, h.frame⟩
    rw [hconns]
    exact getElem?_set_of_some h.conn _
  have hroom : rest.length < queueSlots := Nat.lt_of_lt_of_le hrest hbound
  exact .cons ha hstep (serviced_of_room (c := { c with queue := rest }) hpending hsending hroom)

theorem exists_recv {s : State} {n : Nat} {c : Conn} (h : Pending s n c)
    (hqueue : c.queue ≠ []) :
    ∃ msg rest, s.tasks.recv s.link
        = some (.message msg, s.tasks.conns.set n { c with queue := rest })
      ∧ rest.length < c.queue.length := by
  obtain ⟨msg, rest, hcons⟩ := List.exists_cons_of_ne_nil hqueue
  refine ⟨msg, rest, ?_, ?_⟩
  · simp only [Tasks.recv, h.current, Option.bind_some, h.conn, hcons]
  · rw [hcons]
    exact Nat.lt_succ_self _

theorem taken_answer {s : State} {n : Nat} {c : Conn} {conns : List Conn}
    {rest : List ServerMessage} (hconns : conns = s.tasks.conns.set n { c with queue := rest })
    (hrest : rest.length < c.queue.length) (c' : Connecting) (msg : ServerMessage) :
    Taken s (State.answer { s with tasks := { s.tasks with conns := conns } } c' msg) n c := by
  refine ⟨?_, rest, ?_, hrest⟩
  · unfold State.answer
    split
    · rfl
    · rfl
  · rw [tasks_answer]
    exact hconns

/-- A queue that is full, with what waits for it. -/
structure Full (s : State) (n : Nat) (c : Conn) : Prop extends Pending s n c where
  sending : ∃ msg, c.receiver = .sending msg
  bounded : c.queue.length ≤ queueSlots
  nonempty : c.queue ≠ []

/-- Somebody can take a message off the queue. -/
def TakesNext (s : State) (n : Nat) (c : Conn) : Prop :=
  ∃ a t, Own a ∧ step s a = some t ∧ Taken s t n c

theorem takesNext_forwarder {s : State} {n : Nat} {c : Conn} {i : Nat} (h : Full s n c)
    (hlock : s.lock = some (.forwarder i)) (hwaits : s.waits (.forwarder i) = true) :
    TakesNext s n c := by
  obtain ⟨f, hi, hphase⟩ := waits_forwarder.mp hwaits
  obtain ⟨msg', rest, hrecv, hrest⟩ := exists_recv h.toPending h.nonempty
  let conns := s.tasks.conns.set n { c with queue := rest }
  let t : State :=
    { s with
      tasks :=
        { s.tasks with
          conns := conns, forwarders := s.tasks.forwarders.set i (f.receive msg') }
      lock := none }
  have hturn : s.turn (.move (.forwarder i)) = some (.forwarder i) := if_pos hwaits
  have hstep : step s (.move (.forwarder i)) = some t := by
    have hadmits : s.admits (.move (.forwarder i)) = true := by
      show (s.turn (.move (.forwarder i))).all _ = true
      rw [hturn]
      exact decide_eq_true hlock
    rw [step, if_pos hadmits, hturn]
    simp only [State.act, Tasks.move, Tasks.forward, hi, Option.bind_some, hphase, hrecv,
      Option.map_some]
    rfl
  exact ⟨.move (.forwarder i), t, trivial, hstep, rfl, rest, rfl, hrest⟩

theorem takesNext_submission {s : State} {n : Nat} {c : Conn} {j : Nat} (h : Full s n c)
    (hlock : s.lock = some (.submission j)) (hwaits : s.waits (.submission j) = true) :
    TakesNext s n c := by
  obtain ⟨l, hj⟩ := waits_submission.mp hwaits
  obtain ⟨msg', rest, hrecv, hrest⟩ := exists_recv h.toPending h.nonempty
  let conns := s.tasks.conns.set n { c with queue := rest }
  let t : State :=
    { s with
      tasks :=
        { s.tasks with
          conns := conns
          submissions := s.tasks.submissions.set j (Submission.receive l msg') }
      lock := none }
  have hstep : step s (.move (.submissionRecv j)) = some t := by
    have hadmits : s.admits (.move (.submissionRecv j)) = true := decide_eq_true hlock
    rw [step, if_pos hadmits]
    simp only [State.act, Tasks.move, hj, hrecv, Option.map_some]
    rfl
  exact ⟨.move (.submissionRecv j), t, trivial, hstep, rfl, rest, rfl, hrest⟩

theorem takesNext_handshake {s : State} {n : Nat} {c : Conn} (h : Full s n c)
    (hlock : s.lock = some .handshake) (hwaits : s.waits .handshake = true) :
    TakesNext s n c := by
  obtain ⟨c', hc'⟩ := Option.isSome_iff_exists.mp hwaits
  obtain ⟨msg', rest, hrecv, hrest⟩ := exists_recv h.toPending h.nonempty
  let conns := s.tasks.conns.set n { c with queue := rest }
  let u := State.answer { s with tasks := { s.tasks with conns := conns } } c' msg'
  have htaken : Taken s u n c := taken_answer rfl hrest c' msg'
  have hstep : step s (.call .reply) = some (u.release (some .handshake)) := by
    have hadmits : s.admits (.call .reply) = true := decide_eq_true hlock
    rw [step, if_pos hadmits]
    simp only [State.act, State.call, hc', Option.bind_some, hrecv, Option.map_some]
    rfl
  exact ⟨.call .reply, _, trivial, hstep, htaken.current, htaken.conns⟩

/-- Whoever has the lock takes a message. -/
theorem serviced_of_locked {s : State} {n : Nat} {c : Conn} {who : Consumer} (h : Full s n c)
    (hlock : s.lock = some who) (hwaits : s.waits who = true) : Serviced s n c := by
  have htakes : TakesNext s n c := by
    cases who with
    | forwarder i => exact takesNext_forwarder h hlock hwaits
    | submission j => exact takesNext_submission h hlock hwaits
    | handshake => exact takesNext_handshake h hlock hwaits
  obtain ⟨msg, hsending⟩ := h.sending
  obtain ⟨a, t, hown, hstep, htaken⟩ := htakes
  exact serviced_of_taken h.toPending hsending h.bounded hown hstep htaken

theorem serviced_of_waits {s : State} {n : Nat} {c : Conn} {who : Consumer} (h : Full s n c)
    (hheld : Held s) (hwaits : s.waits who = true) : Serviced s n c := by
  cases hlock : s.lock with
  | some holder => exact serviced_of_locked h hlock (hheld holder hlock)
  | none =>
      have hown : Own (.lock who) := trivial
      have hfull : Full { s with lock := some who } n c :=
        ⟨⟨h.current, h.conn, h.frame⟩, h.sending, h.bounded, h.nonempty⟩
      exact .cons hown (step_lock hlock hwaits) (serviced_of_locked hfull rfl hwaits)

/-- A forwarder that holds an item puts it into its channel first. -/
theorem serviced_of_takes {s : State} {n : Nat} {c : Conn} {i : Nat} {f : Forwarder}
    (h : Full s n c) (hheld : Held s) (hi : s.tasks.forwarders[i]? = some f)
    (htakes : f.Takes) : Serviced s n c := by
  unfold Forwarder.Takes at htakes
  cases hphase : f.phase with
  | waiting => exact serviced_of_waits h hheld (waits_forwarder.mpr ⟨f, hi, hphase⟩)
  | holding item =>
      rw [hphase] at htakes
      obtain ⟨halive, hroom⟩ := htakes
      let f' : Forwarder := { f with phase := .waiting, channel := f.channel ++ [item] }
      let t : State :=
        { s with tasks := { s.tasks with forwarders := s.tasks.forwarders.set i f' } }
      have hturn : s.turn (.move (.forwarder i)) = none := by
        refine if_neg fun hwaits => ?_
        obtain ⟨g, hg, hwaiting⟩ := waits_forwarder.mp hwaits
        obtain rfl := Option.some.inj (hi.symm.trans hg)
        rw [hphase] at hwaiting
        cases hwaiting
      have hstep : step s (.move (.forwarder i)) = some t := by
        have hadmits : s.admits (.move (.forwarder i)) = true := by
          show (s.turn (.move (.forwarder i))).all _ = true
          rw [hturn]
          rfl
        rw [step, if_pos hadmits, hturn]
        simp only [State.act, Tasks.move, Tasks.forward, hi, Option.bind_some, hphase, halive,
          hroom, not_true_eq_false, and_false, if_false, Forwarder.send, if_true,
          Option.map_some, State.release, Option.isSome_none, Bool.false_eq_true, t, f']
      have hfull : Full t n c := ⟨⟨h.current, h.conn, h.frame⟩, h.sending, h.bounded, h.nonempty⟩
      have hwaits : t.waits (.forwarder i) = true :=
        waits_forwarder.mpr ⟨f', getElem?_set_of_some hi f', rfl⟩
      have hown : Own (.move (.forwarder i)) := trivial
      exact .cons hown hstep (serviced_of_waits hfull (held_step hheld hstep) hwaits)
  | ended =>
      rw [hphase] at htakes
      exact htakes.elim

/-- A submission goes through its deadline check first. -/
theorem serviced_of_ongoing {s : State} {n : Nat} {c : Conn} {j : Nat} {x : Submission}
    (h : Full s n c) (hheld : Held s) (hj : s.tasks.submissions[j]? = some x)
    (hongoing : x.isOngoing = true) : Serviced s n c := by
  cases x with
  | checking l =>
      have hstep := step_check hj
      have hown : Own (.move (.submissionCheck j)) := trivial
      refine .cons hown hstep (serviced_of_waits ?_ (held_step hheld hstep)
        (waits_submission.mpr ⟨l, getElem?_set_of_some hj _⟩))
      exact ⟨⟨h.current, h.conn, h.frame⟩, h.sending, h.bounded, h.nonempty⟩
  | waiting l => exact serviced_of_waits h hheld (waits_submission.mpr ⟨l, hj⟩)
  | answered r => cases hongoing

theorem serviced_of_drained {s : State} {n : Nat} {c : Conn} (h : Full s n c) (hheld : Held s)
    (hdrained : Drained s) : Serviced s n c := by
  rcases hdrained with ⟨f, hf, htakes⟩ | ⟨x, hx, hongoing⟩ | hhandshake
  · obtain ⟨i, hi⟩ := List.getElem?_of_mem hf
    exact serviced_of_takes h hheld hi htakes
  · obtain ⟨j, hj⟩ := List.getElem?_of_mem hx
    exact serviced_of_ongoing h hheld hj hongoing
  · have hwaits : s.waits .handshake = true := hhandshake
    exact serviced_of_waits h hheld hwaits

/-! ## Where it does not -/

/-- The receiver task waits for a slot, and nobody takes from the queue.
`read` is what it has read. -/
structure Stuck (n read : Nat) (s : State) : Prop where
  current : s.link.fields.messageRx = some n
  conn : ∃ c msg, s.tasks.conns[n]? = some c ∧ c.receiver = .sending msg
    ∧ ¬ c.queue.length < queueSlots ∧ c.read = read
  undrained : ¬ Drained s

/-- A forwarder that does not take messages can only end. -/
theorem forward_of_not_takes {tasks : Tasks} {link : Link} {f : Forwarder}
    {r : Forwarder × List Conn} (h : ¬ f.Takes) (hforward : tasks.forward link f = some r) :
    r = ({ f with phase := .ended }, tasks.conns) := by
  unfold Forwarder.Takes at h
  unfold Tasks.forward at hforward
  cases hphase : f.phase with
  | waiting =>
      rw [hphase] at h
      exact absurd trivial h
  | holding item =>
      rw [hphase] at h hforward
      dsimp only at hforward
      split at hforward
      · cases hforward
      · rename_i hblocked
        have hdead : ¬ f.receiverAlive = true := by
          intro halive
          by_cases hroom : f.channel.length < channelSlots
          · exact h ⟨halive, hroom⟩
          · exact hblocked ⟨halive, hroom⟩
        obtain rfl := Option.some.inj hforward
        rw [Forwarder.send, if_neg hdead]
  | ended =>
      rw [hphase] at hforward
      cases hforward

theorem undrained_set {s t : State} {i : Nat} {f : Forwarder} (h : ¬ Drained s)
    (hf : ¬ f.Takes) (hlink : t.link = s.link)
    (hforwarders : t.tasks.forwarders = s.tasks.forwarders.set i f)
    (hsubmissions : t.tasks.submissions = s.tasks.submissions) : ¬ Drained t := by
  rintro (⟨f', hf', htakes⟩ | hsubmission | hhandshake)
  · rw [hforwarders] at hf'
    rcases List.mem_or_eq_of_mem_set hf' with hf' | rfl
    · exact h (.inl ⟨f', hf', htakes⟩)
    · exact hf htakes
  · exact h (.inr (.inl (hsubmissions ▸ hsubmission)))
  · exact h (.inr (.inr (hlink ▸ hhandshake)))

/-- Whoever waits takes from the queue. -/
theorem drained_of_waits {s : State} {who : Consumer} (h : s.waits who = true) : Drained s := by
  cases who with
  | forwarder i =>
      obtain ⟨f, hi, hwaiting⟩ := waits_forwarder.mp h
      refine .inl ⟨f, List.mem_of_getElem? hi, ?_⟩
      rw [Forwarder.Takes, hwaiting]
      trivial
  | submission j =>
      obtain ⟨l, hj⟩ := waits_submission.mp h
      exact .inr (.inl ⟨_, List.mem_of_getElem? hj, rfl⟩)
  | handshake => exact .inr (.inr h)

theorem stuck_step {n read : Nat} {s : State} {a : Action} {t : State} (h : Stuck n read s)
    (ha : Own a) (hstep : step s a = some t) : Stuck n read t := by
  obtain ⟨hadmits, u, hact, rfl⟩ := step_eq_some.mp hstep
  obtain ⟨c, msg, hn, hsending, hfull, hread⟩ := h.conn
  cases a with
  | call call =>
      cases call with
      | reply =>
          obtain ⟨c', hc', -⟩ := Option.bind_eq_some_iff.mp hact
          exact absurd (.inr (.inr (Option.isSome_iff_exists.mpr ⟨c', hc'⟩))) h.undrained
      | _ => exact ha.elim
  | lock who =>
      have hwaits : s.waits who = true := (Bool.and_eq_true_iff.mp hadmits).2
      exact absurd (drained_of_waits hwaits) h.undrained
  | move m =>
      obtain ⟨tasks, htasks, rfl⟩ := Option.map_eq_some_iff.mp hact
      cases m with
      | receiver m =>
          obtain ⟨c', hm, htasks⟩ := Option.bind_eq_some_iff.mp htasks
          obtain ⟨c'', hreceive, rfl⟩ := Option.map_eq_some_iff.mp htasks
          have hne : m ≠ n := by
            rintro rfl
            obtain rfl := Option.some.inj (hn.symm.trans hm)
            simp only [Conn.receive, hsending, h.current, decide_true, hfull,
              not_false_eq_true, and_self, if_true] at hreceive
            cases hreceive
          refine ⟨h.current, ⟨c, msg, ?_, hsending, hfull, hread⟩, h.undrained⟩
          exact (List.getElem?_set_ne hne).trans hn
      | forwarder i =>
          obtain ⟨f, hi, htasks⟩ := Option.bind_eq_some_iff.mp htasks
          obtain ⟨r, hforward, rfl⟩ := Option.map_eq_some_iff.mp htasks
          have hf : ¬ f.Takes := fun htakes =>
            h.undrained (.inl ⟨f, List.mem_of_getElem? hi, htakes⟩)
          obtain rfl := forward_of_not_takes hf hforward
          refine ⟨h.current, ⟨c, msg, hn, hsending, hfull, hread⟩, ?_⟩
          have hended : ¬ ({ f with phase := .ended } : Forwarder).Takes := not_false
          exact undrained_set h.undrained hended rfl rfl rfl
      | submissionCheck j =>
          simp only [Tasks.move] at htasks
          split at htasks
          · rename_i l hj
            exact absurd (.inr (.inl ⟨_, List.mem_of_getElem? hj, rfl⟩)) h.undrained
          · cases htasks
      | submissionRecv j =>
          simp only [Tasks.move] at htasks
          split at htasks
          · rename_i l hj
            exact absurd (.inr (.inl ⟨_, List.mem_of_getElem? hj, rfl⟩)) h.undrained
          · cases htasks
      | _ => exact ha.elim

theorem not_serviced_of_stuck {s : State} {n : Nat} {c : Conn} (h : Stuck n c.read s) :
    ¬ Serviced s n c := by
  refine Lts.not_can_of_inv (fun _ _ _ => stuck_step) (fun t ht => ?_) h
  obtain ⟨c', msg, hn, -, -, hread⟩ := ht.conn
  rintro ⟨c'', hn', hlt⟩
  obtain rfl := Option.some.inj (hn.symm.trans hn')
  exact Nat.ne_of_gt hlt hread

/-- The receiver task comes to the next frame exactly if the queue has a
slot for the message before it, or somebody takes from it. -/
theorem serviced_iff {as : List Action} {t : State} {n : Nat} {c : Conn}
    (hrun : Lts.run step {} as = some t) (h : Pending t n c) :
    Serviced t n c ↔ Unstalled t c := by
  have hsound := sound_run hrun c (List.mem_of_getElem? h.conn)
  constructor
  · intro hserviced msg hsending
    by_contra hstuck
    obtain ⟨hfull, hundrained⟩ := not_or.mp hstuck
    exact not_serviced_of_stuck ⟨h.current, ⟨c, msg, h.conn, hsending, hfull, rfl⟩, hundrained⟩
      hserviced
  · intro hunstalled
    cases hreceiver : c.receiver with
    | reading => exact serviced_of_reading h hreceiver
    | sending msg =>
        by_cases hroom : c.queue.length < queueSlots
        · exact serviced_of_room h hreceiver hroom
        · have hdrained := (hunstalled msg hreceiver).resolve_left hroom
          have hnonempty : c.queue ≠ [] := by
            intro hnil
            rw [hnil] at hroom
            exact hroom (by decide)
          exact serviced_of_drained ⟨h, ⟨msg, hreceiver⟩, hsound.bounded, hnonempty⟩
            (held_run hrun) hdrained
    | ended => exact absurd (hsound.shut hreceiver) h.frame

/-- A heartbeat comes to a connection that nobody else uses. -/
def beating : List Action :=
  connecting 0 ++ [.move (.arrive 0 (.text (some .heartbeat)))]

theorem beating_serviced :
    ∃ t c, Lts.run step {} beating = some t ∧ Pending t 0 c ∧ Serviced t 0 c :=
  ⟨_, _, rfl, ⟨rfl, rfl, List.cons_ne_nil _ _⟩,
    (serviced_iff (rfl : Lts.run step {} beating = some _)
      ⟨rfl, rfl, List.cons_ne_nil _ _⟩).mpr fun _ hsending => Receiver.noConfusion hsending⟩

/-! ## Without consumers -/

/-- The receiver task waits for a frame. -/
structure Quiet (s : State) (n : Nat) (c : Conn) : Prop where
  current : s.link.fields.messageRx = some n
  conn : s.tasks.conns[n]? = some c
  reading : c.receiver = .reading
  wire : c.wire = []

/-- The messages come one by one, and are read. -/
def flood (n : Nat) (msgs : List ServerMessage) : List Action :=
  msgs.flatMap fun msg => [.move (.arrive n (.text (some msg))), .move (.receiver n)]

/-- Only the connection has moved. -/
structure Fed (s t : State) (n : Nat) (c : Conn) : Prop where
  link : t.link = s.link
  conn : t.tasks.conns[n]? = some c
  forwarders : t.tasks.forwarders = s.tasks.forwarders
  submissions : t.tasks.submissions = s.tasks.submissions

theorem Fed.trans {s t u : State} {n : Nat} {c c' : Conn} (h : Fed s t n c)
    (h' : Fed t u n c') : Fed s u n c' where
  link := h'.link.trans h.link
  conn := h'.conn
  forwarders := h'.forwarders.trans h.forwarders
  submissions := h'.submissions.trans h.submissions

theorem undrained_of_fed {s t : State} {n : Nat} {c : Conn} (h : Fed s t n c)
    (hundrained : ¬ Drained s) : ¬ Drained t := by
  unfold Drained
  rw [h.link, h.forwarders, h.submissions]
  exact hundrained

theorem step_arrive {s : State} {n : Nat} {c : Conn} (hn : s.tasks.conns[n]? = some c)
    (hopen : c.receiver ≠ .ended) (frame : WsFrame) :
    ∃ t, step s (.move (.arrive n frame)) = some t
      ∧ Fed s t n { c with wire := c.wire ++ [frame] } := by
  let conns := s.tasks.conns.set n { c with wire := c.wire ++ [frame] }
  refine ⟨{ s with tasks := { s.tasks with conns := conns } }, ?_, rfl, ?_, rfl, rfl⟩
  · have hadmits : s.admits (.move (.arrive n frame)) = true := rfl
    rw [step, if_pos hadmits]
    simp only [State.act, Tasks.move, hn, Option.bind_some, hopen, if_false, Option.map_some]
    rfl
  · exact getElem?_set_of_some hn _

theorem receive_text {c : Conn} {msg : ServerMessage} (hreading : c.receiver = .reading)
    (hwire : c.wire = []) (hmsg : msg ≠ .heartbeat) :
    Conn.receive { c with wire := c.wire ++ [.text (some msg)] } true
      = some (Conn.send { c with read := c.read + 1 } true msg) := by
  obtain ⟨wire, receiver, queue, read⟩ := c
  obtain rfl : receiver = .reading := hreading
  obtain rfl : wire = [] := hwire
  cases msg with
  | heartbeat => exact absurd rfl hmsg
  | _ => rfl

/-- A message comes, and is read. -/
theorem run_push {s : State} {n : Nat} {c : Conn} {msg : ServerMessage} (h : Quiet s n c)
    (hmsg : msg ≠ .heartbeat) :
    ∃ t, Lts.run step s [.move (.arrive n (.text (some msg))), .move (.receiver n)] = some t
      ∧ Fed s t n (Conn.send { c with read := c.read + 1 } true msg) := by
  have hopen : c.receiver ≠ .ended := by
    rw [h.reading]
    exact Receiver.noConfusion
  obtain ⟨t, hstep, hfed⟩ := step_arrive h.conn hopen (.text (some msg))
  let c' := Conn.send { c with read := c.read + 1 } true msg
  let u : State := { t with tasks := { t.tasks with conns := t.tasks.conns.set n c' } }
  have hstep' : step t (.move (.receiver n)) = some u :=
    step_receiver (hfed.link ▸ h.current) hfed.conn (receive_text h.reading h.wire hmsg)
  have hfed' : Fed t u n c' := ⟨rfl, getElem?_set_of_some hfed.conn c', rfl, rfl⟩
  exact ⟨u, Lts.run_cons_eq_some.mpr ⟨t, hstep, Lts.run_cons_eq_some.mpr ⟨u, hstep', rfl⟩⟩,
    hfed.trans hfed'⟩

/-- As long as there are slots, the messages go into the queue. -/
theorem run_flood {n : Nat} {msgs : List ServerMessage} :
    ∀ {s : State} {c : Conn}, Quiet s n c → (∀ msg ∈ msgs, msg ≠ .heartbeat) →
      c.queue.length + msgs.length ≤ queueSlots →
      ∃ t c', Lts.run step s (flood n msgs) = some t ∧ Fed s t n c' ∧ Quiet t n c'
        ∧ c'.queue.length = c.queue.length + msgs.length := by
  induction msgs with
  | nil =>
      intro s c h _ _
      exact ⟨s, c, rfl, ⟨rfl, h.conn, rfl, rfl⟩, h, rfl⟩
  | cons msg msgs ih =>
      intro s c h hmsgs hslots
      obtain ⟨hmsg, hmsgs'⟩ := List.forall_mem_cons.mp hmsgs
      rw [List.length_cons] at hslots
      obtain ⟨t, hrun, hfed⟩ := run_push h hmsg
      have hroom : c.queue.length < queueSlots := by omega
      rw [Conn.send, if_pos rfl, if_pos hroom] at hfed
      have hquiet : Quiet t n
          { c with receiver := .reading, queue := c.queue ++ [msg], read := c.read + 1 } :=
        ⟨hfed.link ▸ h.current, hfed.conn, rfl, h.wire⟩
      have hlen : (c.queue ++ [msg]).length + msgs.length
          = c.queue.length + (msg :: msgs).length := by
        rw [List.length_append, List.length_singleton, List.length_cons]
        omega
      obtain ⟨u, c', hrun', hfed', hquiet', hlen'⟩ :=
        ih hquiet hmsgs' (by dsimp only; rw [hlen, List.length_cons]; exact hslots)
      exact ⟨u, c', Lts.run_append_eq_some.mpr ⟨t, hrun, hrun'⟩, hfed.trans hfed', hquiet',
        hlen'.trans hlen⟩

/-- One message more than the queue has slots, and the connection is
stuck with whatever comes next. -/
theorem stuck_of_flood {s : State} {n : Nat} {c : Conn} {msgs : List ServerMessage}
    {msg : ServerMessage} (h : Quiet s n c) (hundrained : ¬ Drained s)
    (hmsgs : ∀ msg' ∈ msg :: msgs, msg' ≠ .heartbeat)
    (hslots : c.queue.length + msgs.length = queueSlots) (frame : WsFrame) :
    ∃ t c', Lts.run step s (flood n (msgs ++ [msg]) ++ [.move (.arrive n frame)]) = some t
      ∧ Pending t n c' ∧ c'.wire = [frame] ∧ Stuck n c'.read t := by
  obtain ⟨hmsg, hmsgs'⟩ := List.forall_mem_cons.mp hmsgs
  obtain ⟨t, c', hrun, hfed, hquiet, hlen⟩ := run_flood h hmsgs' (Nat.le_of_eq hslots)
  obtain ⟨u, hrun', hfed'⟩ := run_push hquiet hmsg
  have hfull : ¬ c'.queue.length < queueSlots := by omega
  rw [Conn.send, if_pos rfl, if_neg hfull] at hfed'
  obtain ⟨v, hstep, hfed''⟩ := step_arrive hfed'.conn Receiver.noConfusion frame
  have hall := (hfed.trans hfed').trans hfed''
  have hcurrent : v.link.fields.messageRx = some n := hall.link ▸ h.current
  refine ⟨v, _, ?_, ⟨hcurrent, hall.conn, ?_⟩, ?_, hcurrent,
    ⟨_, msg, hall.conn, rfl, hfull, rfl⟩, undrained_of_fed hall hundrained⟩
  · unfold flood
    rw [List.flatMap_append]
    refine Lts.run_append_eq_some.mpr ⟨u, ?_, Lts.run_cons_eq_some.mpr ⟨v, hstep, rfl⟩⟩
    exact Lts.run_append_eq_some.mpr ⟨t, hrun, hrun'⟩
  · exact List.append_ne_nil_of_right_ne_nil _ (List.cons_ne_nil _ _)
  · dsimp only
    rw [hquiet.wire]
    rfl

def someSlot : ServerMessage := .latestSlot ⟨1, 0⟩

/-- The application subscribes, and drops the receiver: the forwarder ends
with the next message. -/
def dropping : List Action :=
  connecting 0
    ++ [.move (.subscribe .latestSlot), .move (.dropReceiver 0),
      .move (.arrive 0 (.text (some someSlot))), .move (.receiver 0), .lock (.forwarder 0),
      .move (.forwarder 0)]

theorem run_dropping :
    ∃ s c, Lts.run step {} dropping = some s ∧ Quiet s 0 c ∧ c.queue = [] ∧ ¬ Drained s := by
  refine ⟨_, _, rfl, ⟨rfl, rfl, rfl, rfl⟩, rfl, ?_⟩
  rintro (⟨f, hf, htakes⟩ | ⟨x, hx, -⟩ | hhandshake)
  · rw [List.mem_singleton.mp hf] at htakes
    exact htakes
  · cases hx
  · cases hhandshake

/-- The slots keep coming, and then a heartbeat. -/
def flooding : List Action :=
  dropping
    ++ (flood 0 (List.replicate queueSlots someSlot ++ [someSlot])
      ++ [.move (.arrive 0 (.text (some .heartbeat)))])

theorem flooding_not_serviced :
    ∃ t c, Lts.run step {} flooding = some t ∧ Pending t 0 c
      ∧ c.wire = [.text (some .heartbeat)] ∧ ¬ Serviced t 0 c := by
  obtain ⟨s, c, hrun, hquiet, hempty, hundrained⟩ := run_dropping
  have hmsgs : ∀ msg ∈ someSlot :: List.replicate queueSlots someSlot, msg ≠ .heartbeat := by
    intro msg hmsg
    have hslot : msg = someSlot := by
      rcases List.mem_cons.mp hmsg with hmsg | hmsg
      · exact hmsg
      · exact List.eq_of_mem_replicate hmsg
    rw [hslot]
    exact ServerMessage.noConfusion
  have hslots : c.queue.length + (List.replicate queueSlots someSlot).length = queueSlots := by
    rw [hempty, List.length_replicate]
    rfl
  obtain ⟨t, c', hflood, hpending, hwire, hstuck⟩ :=
    stuck_of_flood hquiet hundrained hmsgs hslots (.text (some .heartbeat))
  exact ⟨t, c', Lts.run_append_eq_some.mpr ⟨s, hrun, hflood⟩, hpending, hwire,
    not_serviced_of_stuck hstuck⟩

end WsTasks

end Slipstream
