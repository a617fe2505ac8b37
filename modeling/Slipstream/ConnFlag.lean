import Slipstream.Connect
import Slipstream.Lts

/-!
# What the connected flag knows

`is_connected` reads a flag that `connect` sets and `disconnect` clears.
The end of a connection, though, is seen by tasks of their own: the
receiver task of a WebSocket, the subscription tasks of a QUIC
connection. They stop, and leave the flag alone.

`truthful_iff_seenDown` says what this makes of the flag: it is false in
every state in which such a task has seen the end of the current
connection, exactly if no task ever sees that end while the flag is set,
that is before `disconnect` has cleared it.
-/

namespace Slipstream

namespace ConnFlag

/-! ## WebSocket -/

namespace Ws

/-- What the socket yields; a text that is not a message of the server
is `text none`. -/
inductive WsFrame where
  | text (msg : Option ServerMessage)
  | ping
  | close
  | error
  | ended
  | other

/-- The receiver task leaves its loop. -/
def WsFrame.ends : WsFrame → Bool
  | .close => true
  | .error => true
  | .ended => true
  | _ => false

/-- A connection: the frames that wait on the socket, whether the
receiver task is in its loop, and the messages it has queued. -/
structure Conn where
  wire : List WsFrame := []
  running : Bool := true
  queue : List ServerMessage := []

/-- The connections so far, the current one first; `connecting` says that
a `connect` is under way. -/
structure State where
  transport : WebSocketTransport := {}
  conns : List Conn := []
  connecting : Bool := false

inductive Action where
  /-- `connect` opens a socket, stores the sink and starts the receiver. -/
  | dial (cfg : Config)
  | dialFailed (cfg : Config)
  /-- It takes the first message as the reply to `Connect`. -/
  | reply
  | noReply
  | disconnect
  | subscribe
  | submit
  /-- A submission or a forwarder takes a message off the queue. -/
  | consume
  | arrive (i : Nat) (frame : WsFrame)
  | receive (i : Nat)

/-- A round of the receiver loop. The queue of an older connection has
been dropped, so sending to it fails. -/
def Conn.receive (c : Conn) (current : Bool) : Option Conn :=
  if c.running then
    match c.wire with
    | [] => none
    | .text (some .heartbeat) :: rest => some { c with wire := rest }
    | .text (some msg) :: rest =>
        if current then some { c with wire := rest, queue := c.queue ++ [msg] }
        else some { c with wire := rest, running := false }
    | frame :: rest =>
        some { c with wire := rest, running := !frame.ends }
  else none

/-- `connect` after it has a reply. -/
def afterReply (t : WebSocketTransport) (msg : ServerMessage) : WebSocketTransport :=
  match WebSocketTransport.awaitConnected (.reply msg) with
  | .ok reply => { t with sessionId := some reply.sessionId, connected := true }
  | .error _ => t

/-- `connect` and `disconnect` hold the transport exclusively. -/
def step (s : State) : Action → Option State
  | .dial cfg =>
      if s.connecting then none
      else
        some
          { transport :=
              { s.transport with config := some cfg, sink := some (cfg.getEndpoint .webSocket) }
            conns := {} :: s.conns
            connecting := true }
  | .dialFailed cfg =>
      if s.connecting then none
      else some { s with transport := { s.transport with config := some cfg } }
  | .reply =>
      match s.connecting, s.conns with
      | true, c :: older =>
          match c.queue with
          | msg :: rest =>
              some
                { transport := afterReply s.transport msg
                  conns := { c with queue := rest } :: older
                  connecting := false }
          | [] => none
      | _, _ => none
  | .noReply => if s.connecting then some { s with connecting := false } else none
  | .disconnect =>
      if s.connecting then none else some { s with transport := s.transport.disconnect }
  | .subscribe => some s
  | .submit => some s
  | .consume =>
      match s.connecting, s.conns with
      | false, c :: older => some { s with conns := { c with queue := c.queue.tail } :: older }
      | _, _ => none
  | .arrive i frame =>
      s.conns[i]?.map fun c =>
        { s with conns := s.conns.set i { c with wire := c.wire ++ [frame] } }
  | .receive i =>
      s.conns[i]?.bind fun c =>
        (c.receive (i == 0)).map fun c' => { s with conns := s.conns.set i c' }

/-- The receiver task of the current connection has left its loop. -/
def State.sawEnd (s : State) : Bool := s.conns.head?.any fun c => !c.running

def Truthful (s : State) : Prop := s.sawEnd = true → s.transport.isConnected = false

/-- The receiver of the current connection leaves its loop only after the
flag has been cleared, and `connect` sets the flag only while the
receiver is in its loop. -/
def SeenDown (s : State) : Action → Prop
  | .receive 0 =>
      (∃ c ∈ s.conns.head?, ∃ frame ∈ c.wire.head?, frame.ends = true) →
        s.transport.isConnected = false
  | .reply =>
      (∃ c ∈ s.conns.head?, ∃ msg ∈ c.queue.head?, ∃ reply, msg = .connected reply) →
        s.sawEnd = false
  | _ => True

theorem isConnected_afterReply (t : WebSocketTransport) (msg : ServerMessage) :
    (afterReply t msg).isConnected = true
      ↔ t.isConnected = true ∨ ∃ reply, msg = .connected reply := by
  cases msg <;> simp [afterReply, WebSocketTransport.awaitConnected,
    WebSocketTransport.isConnected]

/-- The current connection's receiver stops at the frames that end it. -/
theorem Conn.running_receive {c c' : Conn} (h : c.receive true = some c') :
    c.running = true ∧ ∃ frame ∈ c.wire.head?, c'.running = !frame.ends := by
  unfold Conn.receive at h
  split at h
  · rename_i hrun
    refine ⟨hrun, ?_⟩
    split at h
    · cases h
    · rename_i rest hwire
      obtain rfl := Option.some.inj h
      exact ⟨.text (some .heartbeat), by rw [hwire]; rfl, hrun⟩
    · rename_i msg rest hmsg hwire
      rw [if_pos rfl] at h
      obtain rfl := Option.some.inj h
      exact ⟨.text (some msg), by rw [hwire]; rfl, hrun⟩
    · rename_i frame rest hne hne' hwire
      obtain rfl := Option.some.inj h
      exact ⟨_, by rw [hwire]; rfl, rfl⟩
  · cases h

/-- The reply to a `connect` sets the flag if it is `Connected`. -/
theorem truthful_reply_iff {s t : State} (h : Truthful s) (hstep : step s .reply = some t) :
    Truthful t ↔ SeenDown s .reply := by
  simp only [step] at hstep
  split at hstep
  · rename_i c older hconnecting hconns
    split at hstep
    · rename_i msg rest hqueue
      obtain rfl := Option.some.inj hstep
      have hend : s.sawEnd = !c.running := by simp [State.sawEnd, hconns]
      have hmsg : (∃ c ∈ s.conns.head?, ∃ msg ∈ c.queue.head?, ∃ reply, msg = .connected reply)
          ↔ ∃ reply, msg = .connected reply := by simp [hconns, hqueue]
      simp only [SeenDown, hmsg]
      constructor
      · intro ht hreply
        by_contra hsaw
        have hdown := ht (hend.symm.trans (Bool.not_eq_false _ ▸ hsaw))
        rw [(isConnected_afterReply ..).mpr (.inr hreply)] at hdown
        cases hdown
      · intro hc hsaw
        have hsaw' : s.sawEnd = true := hend.trans hsaw
        by_contra hup
        rcases (isConnected_afterReply ..).mp (Bool.not_eq_false _ ▸ hup) with hup | hreply
        · rw [h hsaw'] at hup
          cases hup
        · rw [hc hreply] at hsaw'
          cases hsaw'
    · cases hstep
  · cases hstep

/-- A round of the receiver task of the current connection. -/
theorem truthful_receive_iff {s t : State} (hstep : step s (.receive 0) = some t) :
    Truthful t ↔ SeenDown s (.receive 0) := by
  simp only [step, Option.bind_eq_some_iff, Option.map_eq_some_iff] at hstep
  obtain ⟨c, hc, c', hreceive, rfl⟩ := hstep
  obtain ⟨older, hconns⟩ : ∃ older, s.conns = c :: older := by
    rw [← List.head?_eq_getElem?] at hc
    exact List.head?_eq_some_iff.mp hc
  obtain ⟨-, frame, hframe, hrun⟩ := Conn.running_receive hreceive
  have hends : (∃ c ∈ s.conns.head?, ∃ frame ∈ c.wire.head?, frame.ends = true)
      ↔ frame.ends = true := by
    simp [hconns, Option.mem_def.mp hframe]
  have hsaw : State.sawEnd { s with conns := s.conns.set 0 c' } = frame.ends := by
    simp [State.sawEnd, hconns, hrun]
  simp only [SeenDown]
  rw [hends, Truthful, hsaw]

theorem truthful_step_iff {s t : State} {a : Action} (h : Truthful s)
    (hstep : step s a = some t) : Truthful t ↔ SeenDown s a := by
  cases a with
  | dial cfg =>
      simp only [step] at hstep
      split at hstep
      · cases hstep
      · obtain rfl := Option.some.inj hstep
        exact iff_of_true (fun hend => absurd hend Bool.false_ne_true) trivial
  | dialFailed cfg =>
      simp only [step] at hstep
      split at hstep
      · cases hstep
      · obtain rfl := Option.some.inj hstep
        exact iff_of_true h trivial
  | reply => exact truthful_reply_iff h hstep
  | noReply =>
      simp only [step] at hstep
      split at hstep
      · obtain rfl := Option.some.inj hstep
        exact iff_of_true h trivial
      · cases hstep
  | disconnect =>
      simp only [step] at hstep
      split at hstep
      · cases hstep
      · obtain rfl := Option.some.inj hstep
        exact iff_of_true (fun _ => rfl) trivial
  | subscribe => exact iff_of_true (Option.some.inj hstep ▸ h) trivial
  | submit => exact iff_of_true (Option.some.inj hstep ▸ h) trivial
  | consume =>
      simp only [step] at hstep
      split at hstep
      · rename_i c older hconnecting hconns
        obtain rfl := Option.some.inj hstep
        refine iff_of_true (fun hend => h ?_) trivial
        simpa [State.sawEnd, hconns] using hend
      · cases hstep
  | arrive i frame =>
      simp only [step, Option.map_eq_some_iff] at hstep
      obtain ⟨c, hc, rfl⟩ := hstep
      refine iff_of_true (fun hend => h ?_) trivial
      cases i with
      | zero =>
          rw [← List.head?_eq_getElem?] at hc
          obtain ⟨older, hconns⟩ := List.head?_eq_some_iff.mp hc
          simpa [State.sawEnd, hconns] using hend
      | succ i => simpa [State.sawEnd, List.head?_eq_getElem?] using hend
  | receive i =>
      cases i with
      | zero => exact truthful_receive_iff hstep
      | succ i =>
          simp only [step, Option.bind_eq_some_iff, Option.map_eq_some_iff] at hstep
          obtain ⟨c, hc, c', -, rfl⟩ := hstep
          refine iff_of_true (fun hend => h ?_) trivial
          simpa [State.sawEnd, List.head?_eq_getElem?] using hend

theorem truthful_iff (as : List Action) :
    Lts.Along step Truthful {} as ↔ Lts.Guarded step SeenDown {} as :=
  Lts.along_iff_guarded (fun _ _ _ (_ : True) _ => trivial)
    (fun _ _ _ _ h => truthful_step_iff h) trivial (fun _ => rfl)

end Ws

/-! ## QUIC -/

namespace Quic

inductive Phase where
  | accepting
  | reading
  | ended
deriving Repr, DecidableEq

/-- A subscription task and its connection. It ends when its stream does,
when it rejects a frame, or when its receiver is gone; `sawClose` is for
an accept or a read that failed because the connection was closed. -/
structure Task where
  conn : Nat
  phase : Phase := .accepting
  sawClose : Bool := false
deriving Repr, DecidableEq

/-- Connections are numbered in the order in which they were
established; the transport's own is the last. -/
structure State where
  transport : QuicTransport := {}
  established : Nat := 0
  closed : List Nat := []
  tasks : List Task := []

inductive Action where
  | connect (net : Network) (cfg : Config)
  | disconnect
  | subscribe
  | submit
  /-- The server or a timeout closes a connection. -/
  | lose (conn : Nat)
  | accept (i : Nat)
  | read (i : Nat)
  | endTask (i : Nat)

/-- The connection the transport holds. -/
def State.current (s : State) : Option Nat :=
  s.transport.connection.map fun _ => s.established

/-- A task waits in `phase` for a stream or a frame. -/
def Task.await (t : Task) (closed : List Nat) (phase next : Phase) : Option Task :=
  if t.phase = phase then
    if t.conn ∈ closed then some { t with phase := .ended, sawClose := true }
    else some { t with phase := next }
  else none

def State.runTask (s : State) (i : Nat) (f : Task → Option Task) : Option State :=
  s.tasks[i]?.bind fun t => (f t).map fun t' => { s with tasks := s.tasks.set i t' }

def step (s : State) : Action → Option State
  | .connect net cfg =>
      let c := s.transport.connect net cfg
      let established :=
        -- a connected transport keeps its connection
        if s.transport.isConnected then s.established
        else
          match c.result with
          | .ok _ => s.established + 1
          | .error _ => s.established
      some { s with transport := c.transport, established := established }
  | .disconnect =>
      some
        { s with
          transport := s.transport.disconnect
          closed := s.current.toList ++ s.closed }
  | .subscribe =>
      match s.current with
      | some conn =>
          if s.transport.isConnected ∧ conn ∉ s.closed then
            some { s with tasks := s.tasks ++ [{ conn := conn }] }
          else some s
      | none => some s
  | .submit => some s
  | .lose conn =>
      if conn ≤ s.established then some { s with closed := conn :: s.closed } else none
  | .accept i => s.runTask i fun t => t.await s.closed .accepting .reading
  | .read i => s.runTask i fun t => t.await s.closed .reading .reading
  | .endTask i =>
      s.runTask i fun t => if t.phase = .ended then none else some { t with phase := .ended }

/-- A task of the current connection has seen it closed. -/
def State.sawEnd (s : State) : Prop :=
  ∃ t ∈ s.tasks, t.sawClose = true ∧ s.current = some t.conn

def Truthful (s : State) : Prop := s.sawEnd → s.transport.isConnected = false

/-- A task sees the current connection closed only after the flag has
been cleared. -/
def Down (s : State) (i : Nat) (phase : Phase) : Prop :=
  ∀ t ∈ s.tasks[i]?, t.phase = phase → t.conn ∈ s.closed → s.current = some t.conn →
    s.transport.isConnected = false

def SeenDown (s : State) : Action → Prop
  | .accept i => Down s i .accepting
  | .read i => Down s i .reading
  | _ => True

/-- Tasks belong to connections that were established. -/
def Numbered (s : State) : Prop := ∀ t ∈ s.tasks, t.conn ≤ s.established

theorem mem_of_runTask {s u : State} {i : Nat} {f : Task → Option Task}
    (h : s.runTask i f = some u) :
    ∃ t t', s.tasks[i]? = some t ∧ f t = some t' ∧ u = { s with tasks := s.tasks.set i t' } := by
  simp only [State.runTask, Option.bind_eq_some_iff, Option.map_eq_some_iff] at h
  obtain ⟨t, ht, t', ht', rfl⟩ := h
  exact ⟨t, t', ht, ht', rfl⟩

theorem conn_await {t t' : Task} {closed : List Nat} {phase next : Phase}
    (h : t.await closed phase next = some t') : t'.conn = t.conn := by
  unfold Task.await at h
  split at h
  · split at h <;> exact Option.some.inj h ▸ rfl
  · cases h

/-- A task that changes keeps the flag truthful if the end it may have
seen is not that of the current connection, or the flag is down. -/
theorem truthful_set_iff {s : State} {i : Nat} {t t' : Task} (h : Truthful s)
    (ht : s.tasks[i]? = some t) (hconn : t'.conn = t.conn) :
    Truthful { s with tasks := s.tasks.set i t' }
      ↔ (t'.sawClose = true → s.current = some t.conn → s.transport.isConnected = false) := by
  have hlt : i < s.tasks.length := (List.getElem?_eq_some_iff.mp ht).1
  constructor
  · intro htrue hclose hcur
    exact htrue ⟨t', List.mem_set hlt t', hclose, hconn ▸ hcur⟩
  · rintro hdown ⟨t₁, ht₁, hclose, hcur⟩
    rcases List.mem_or_eq_of_mem_set ht₁ with hmem | rfl
    · exact h ⟨t₁, hmem, hclose, hcur⟩
    · exact hdown hclose (hconn ▸ hcur)

theorem truthful_await_iff {s u : State} {i : Nat} {phase next : Phase} (h : Truthful s)
    (hstep : s.runTask i (fun t => t.await s.closed phase next) = some u) :
    Truthful u ↔ Down s i phase := by
  obtain ⟨t, t', ht, hawait, rfl⟩ := mem_of_runTask hstep
  rw [truthful_set_iff h ht (conn_await hawait)]
  unfold Task.await at hawait
  split at hawait
  · rename_i hphase
    split at hawait
    · rename_i hclosed
      obtain rfl := Option.some.inj hawait
      simp [Down, ht, hphase, hclosed]
    · rename_i hopen
      obtain rfl := Option.some.inj hawait
      refine iff_of_true (fun hclose hcur => ?_) fun t₁ ht₁ _ hclosed => ?_
      · exact h ⟨t, List.mem_of_getElem? ht, hclose, hcur⟩
      · obtain rfl := Option.some.inj (ht.symm.trans ht₁)
        exact absurd hclosed hopen
  · cases hawait

/-- A `connect` leaves a connected transport as it is, fails without
setting the flag, or has a connection no task has used. -/
theorem truthful_connect {s u : State} {net : Network} {cfg : Config} (h : Truthful s)
    (hnum : Numbered s) (hstep : step s (.connect net cfg) = some u) : Truthful u := by
  simp only [step] at hstep
  obtain rfl := Option.some.inj hstep
  cases hup : s.transport.isConnected with
  | true =>
      rw [QuicTransport.connect_of_connected hup]
      exact h
  | false =>
      cases hres : (s.transport.connect net cfg).result with
      | error e => exact fun _ => QuicTransport.isConnected_connect_of_error hup hres
      | ok info =>
          rintro ⟨t, ht, -, hcur⟩
          obtain ⟨_, -, hconn⟩ := Option.map_eq_some_iff.mp hcur
          have hle := hnum t ht
          dsimp only at hconn
          simp only [Bool.false_eq_true, if_false] at hconn
          omega

theorem numbered_set {s : State} {i : Nat} {t t' : Task} (h : Numbered s)
    (ht : s.tasks[i]? = some t) (hconn : t'.conn = t.conn) :
    Numbered { s with tasks := s.tasks.set i t' } := by
  intro t₁ ht₁
  rcases List.mem_or_eq_of_mem_set ht₁ with hmem | rfl
  · exact h t₁ hmem
  · exact hconn ▸ h t (List.mem_of_getElem? ht)

theorem numbered_step {s u : State} {a : Action} (h : Numbered s)
    (hstep : step s a = some u) : Numbered u := by
  cases a with
  | connect net cfg =>
      simp only [step] at hstep
      obtain rfl := Option.some.inj hstep
      intro t ht
      have hle := h t ht
      dsimp only
      split
      · exact hle
      · split <;> omega
  | disconnect => exact Option.some.inj hstep ▸ h
  | subscribe =>
      simp only [step] at hstep
      split at hstep
      · rename_i conn hcur
        split at hstep
        · obtain rfl := Option.some.inj hstep
          intro t ht
          rcases List.mem_append.mp ht with ht | ht
          · exact h t ht
          · obtain ⟨_, -, rfl⟩ := Option.map_eq_some_iff.mp hcur
            rw [List.mem_singleton.mp ht]
        · exact Option.some.inj hstep ▸ h
      · exact Option.some.inj hstep ▸ h
  | submit => exact Option.some.inj hstep ▸ h
  | lose conn =>
      simp only [step] at hstep
      split at hstep
      · exact Option.some.inj hstep ▸ h
      · cases hstep
  | accept i =>
      obtain ⟨t, t', ht, hawait, rfl⟩ := mem_of_runTask hstep
      exact numbered_set h ht (conn_await hawait)
  | read i =>
      obtain ⟨t, t', ht, hawait, rfl⟩ := mem_of_runTask hstep
      exact numbered_set h ht (conn_await hawait)
  | endTask i =>
      obtain ⟨t, t', ht, hend, rfl⟩ := mem_of_runTask hstep
      split at hend
      · cases hend
      · exact numbered_set h ht (Option.some.inj hend ▸ rfl)

theorem truthful_step_iff {s u : State} {a : Action} (hnum : Numbered s) (h : Truthful s)
    (hstep : step s a = some u) : Truthful u ↔ SeenDown s a := by
  cases a with
  | connect net cfg => exact iff_of_true (truthful_connect h hnum hstep) trivial
  | disconnect =>
      obtain rfl := Option.some.inj hstep
      exact iff_of_true (fun _ => rfl) trivial
  | subscribe =>
      simp only [step] at hstep
      refine iff_of_true ?_ trivial
      split at hstep
      · split at hstep
        · obtain rfl := Option.some.inj hstep
          rintro ⟨t, ht, hclose, hcur⟩
          rcases List.mem_append.mp ht with ht | ht
          · exact h ⟨t, ht, hclose, hcur⟩
          · rw [List.mem_singleton.mp ht] at hclose
            cases hclose
        · exact Option.some.inj hstep ▸ h
      · exact Option.some.inj hstep ▸ h
  | submit => exact iff_of_true (Option.some.inj hstep ▸ h) trivial
  | lose conn =>
      simp only [step] at hstep
      split at hstep
      · obtain rfl := Option.some.inj hstep
        exact iff_of_true h trivial
      · cases hstep
  | accept i => exact truthful_await_iff h hstep
  | read i => exact truthful_await_iff h hstep
  | endTask i =>
      obtain ⟨t, t', ht, hend, rfl⟩ := mem_of_runTask hstep
      split at hend
      · cases hend
      · obtain rfl := Option.some.inj hend
        have hconn : ({ t with phase := .ended } : Task).conn = t.conn := rfl
        refine iff_of_true ((truthful_set_iff h ht hconn).mpr fun hclose hcur => ?_) trivial
        exact h ⟨t, List.mem_of_getElem? ht, hclose, hcur⟩

theorem truthful_iff (as : List Action) :
    Lts.Along step Truthful {} as ↔ Lts.Guarded step SeenDown {} as := by
  refine Lts.along_iff_guarded (fun _ _ _ => numbered_step) (fun _ _ _ => truthful_step_iff)
    ?_ ?_
  · intro t ht
    cases ht
  · exact fun _ => rfl

end Quic

/-- In every run of either transport the flag tells the truth exactly if
the end of a connection is seen only while the flag is down. -/
theorem truthful_iff_seenDown (ws : List Ws.Action) (quic : List Quic.Action) :
    (Lts.Along Ws.step Ws.Truthful {} ws ↔ Lts.Guarded Ws.step Ws.SeenDown {} ws)
      ∧ (Lts.Along Quic.step Quic.Truthful {} quic
          ↔ Lts.Guarded Quic.step Quic.SeenDown {} quic) :=
  ⟨Ws.truthful_iff ws, Quic.truthful_iff quic⟩

/-! ## A loss that goes unnoticed -/

instance : DecidablePred Ws.Truthful := fun s =>
  inferInstanceAs (Decidable (s.sawEnd = true → s.transport.isConnected = false))

instance (s : Quic.State) : Decidable s.sawEnd :=
  inferInstanceAs (Decidable (∃ t ∈ s.tasks, t.sawClose = true ∧ s.current = some t.conn))

instance : DecidablePred Quic.Truthful := fun s =>
  inferInstanceAs (Decidable (s.sawEnd → s.transport.isConnected = false))

def connectedReply : ServerMessage :=
  .connected
    { sessionId := "session-1"
      region := none
      serverTime := 1706011200000
      features := []
      rateLimit := ⟨100, 200⟩ }

/-- The server closes the WebSocket, or the QUIC connection is lost under
a subscription: the tasks stop, and the flag stays up. -/
theorem loss_unnoticed :
    (let as : List Ws.Action :=
      [.dial quicWorker, .arrive 0 (.text (some connectedReply)), .receive 0, .reply,
        .arrive 0 .close, .receive 0]
    (Lts.run Ws.step {} as).map (fun s => (s.sawEnd, s.transport.isConnected))
        = some (true, true)
      ∧ ¬ Lts.Along Ws.step Ws.Truthful {} as)
    ∧ (let as : List Quic.Action :=
        [.connect quicMigration ((quicWorker.withLegacyEndpoint .quic).getD quicWorker),
          .subscribe, .lose 1, .accept 0]
      (Lts.run Quic.step {} as).map (fun s => (decide s.sawEnd, s.transport.isConnected))
          = some (true, true)
        ∧ ¬ Lts.Along Quic.step Quic.Truthful {} as) := by
  decide

end ConnFlag

end Slipstream
