import Slipstream.Config
import Slipstream.Lts
import Slipstream.TimeSync

/-!
# The keepalive task

A client pings its transport from a task of its own, and when the user
asks for it; both record what they get in the samples of the clock and
the latency. A ping is made under the read lock of the transport, so it
begins and ends on one transport; the health monitor installs a new one
and `disconnect` closes it when no ping is in flight.

The samples are the last ten of all that were recorded, in the order of
the transports they come from, so that ten pings after a reconnect they
are the new transport's (`sound_along`). The task gives up at the first
ping that fails and at the first tick at which the transport has lost its
connection, and nothing starts it again (`quiet_along`).
-/

namespace Slipstream

namespace Keepalive

open SlipstreamClient (recorded window samples_recorded)

/-! ## The client -/

inductive Loop where
  /-- Between two ticks. -/
  | ticking
  /-- Waiting for the transport's lock. -/
  | locking
  | pinging (transport : Nat)
  | ended
deriving DecidableEq

/-- A ping that was answered: on which transport, and for whom. -/
structure Sample where
  result : PingResult
  transport : Nat
  keepalive : Bool
deriving DecidableEq

/-- `transport` counts the transports that were installed; `pings` are the
user's pings in flight, by transport; `history` has all samples. -/
structure State where
  protocol : Protocol
  connected : Bool := true
  transport : Nat := 0
  loop : Loop
  aborted : Bool := false
  pings : List Nat := []
  timeSync : TimeSyncState := .new 10
  history : List Sample := []

/-- As `finish_connect` leaves it. -/
def finishConnect (cfg : Config) (protocol : Protocol) : State where
  protocol := protocol
  -- a ticker with no interval panics, and the task with it
  loop := if cfg.keepalive ∧ cfg.keepaliveInterval ≠ 0 then .ticking else .ended

/-- The other transports have no `ping` of their own. -/
def answersPing : Protocol → Bool
  | .quic => true
  | .http => true
  | .grpc => false
  | .webSocket => false

inductive Action where
  | tick
  /-- The task has the lock. -/
  | enter
  | pong (result : Option PingResult)
  /-- The task is gone after it was aborted. -/
  | drop
  | ping
  | pingDone (i : Nat) (result : Option PingResult)
  /-- The transport finds that its connection is gone. -/
  | lose
  /-- The first half of `disconnect`, which aborts the task. -/
  | abort
  /-- The second half. -/
  | close
  /-- The last step of a reconnect. -/
  | install (protocol : Protocol)

namespace State

def record (s : State) (sample : Sample) : State :=
  { s with
    timeSync := s.timeSync.record sample.result
    history := s.history ++ [sample] }

/-- Nobody holds the lock. -/
def unlocked (s : State) : Bool :=
  match s.loop with
  | .pinging _ => false
  | _ => s.pings.isEmpty

end State

/-- A task that was aborted does not run any more. -/
def step (s : State) : Action → Option State
  | .tick =>
      if s.loop = .ticking ∧ s.aborted = false then some { s with loop := .locking } else none
  | .enter =>
      if s.loop = .locking ∧ s.aborted = false then
        if s.connected then some { s with loop := .pinging s.transport }
        else some { s with loop := .ended }
      else none
  | .pong result =>
      match s.loop, s.aborted, result with
      | .pinging n, false, some r =>
          if answersPing s.protocol then some { s.record ⟨r, n, true⟩ with loop := .ticking }
          else none
      | .pinging _, false, none => some { s with loop := .ended }
      | _, _, _ => none
  | .drop => if s.aborted then some { s with loop := .ended } else none
  | .ping => if s.connected then some { s with pings := s.pings ++ [s.transport] } else some s
  | .pingDone i result =>
      match s.pings[i]?, result with
      | some n, some r =>
          if answersPing s.protocol then
            some { s.record ⟨r, n, false⟩ with pings := s.pings.eraseIdx i }
          else none
      | some _, none => some { s with pings := s.pings.eraseIdx i }
      | none, _ => none
  | .lose => some { s with connected := false }
  | .abort => some { s with aborted := true }
  | .close => if s.aborted ∧ s.unlocked then some { s with connected := false } else none
  | .install protocol =>
      if s.unlocked then
        some { s with protocol := protocol, connected := true, transport := s.transport + 1 }
      else none

/-- What each action can do, in one place. -/
inductive Step (s : State) : Action → State → Prop where
  | tick (hloop : s.loop = .ticking) (halive : s.aborted = false) :
      Step s .tick { s with loop := .locking }
  | enter (hloop : s.loop = .locking) (halive : s.aborted = false) (hconn : s.connected = true) :
      Step s .enter { s with loop := .pinging s.transport }
  | enterLost (hloop : s.loop = .locking) (halive : s.aborted = false) :
      Step s .enter { s with loop := .ended }
  | pong {n : Nat} {r : PingResult} (hloop : s.loop = .pinging n) (halive : s.aborted = false)
      (hanswers : answersPing s.protocol = true) :
      Step s (.pong (some r)) { s.record ⟨r, n, true⟩ with loop := .ticking }
  | pongError {n : Nat} (hloop : s.loop = .pinging n) (halive : s.aborted = false) :
      Step s (.pong none) { s with loop := .ended }
  | drop (haborted : s.aborted = true) : Step s .drop { s with loop := .ended }
  | ping (hconn : s.connected = true) : Step s .ping { s with pings := s.pings ++ [s.transport] }
  | pingRefused : Step s .ping s
  | pingDone {i n : Nat} {r : PingResult} (hping : s.pings[i]? = some n)
      (hanswers : answersPing s.protocol = true) :
      Step s (.pingDone i (some r))
        { s.record ⟨r, n, false⟩ with pings := s.pings.eraseIdx i }
  | pingError {i n : Nat} (hping : s.pings[i]? = some n) :
      Step s (.pingDone i none) { s with pings := s.pings.eraseIdx i }
  | lose : Step s .lose { s with connected := false }
  | abort : Step s .abort { s with aborted := true }
  | close : Step s .close { s with connected := false }
  | install {protocol : Protocol} (hunlocked : s.unlocked = true) :
      Step s (.install protocol)
        { s with protocol := protocol, connected := true, transport := s.transport + 1 }

theorem step_cases {s t : State} {a : Action} (h : step s a = some t) : Step s a t := by
  cases a with
  | tick =>
    simp only [step, Option.ite_none_right_eq_some, Option.some.injEq] at h
    obtain ⟨⟨hloop, halive⟩, rfl⟩ := h
    exact .tick hloop halive
  | enter =>
    simp only [step, Option.ite_none_right_eq_some] at h
    obtain ⟨⟨hloop, halive⟩, h⟩ := h
    split at h
    · rename_i hconn
      exact Option.some.inj h ▸ .enter hloop halive hconn
    · exact Option.some.inj h ▸ .enterLost hloop halive
  | pong result =>
    simp only [step] at h
    split at h
    · rename_i n r hloop halive
      simp only [Option.ite_none_right_eq_some, Option.some.injEq] at h
      obtain ⟨hanswers, rfl⟩ := h
      exact .pong hloop halive hanswers
    · rename_i n hloop halive
      exact Option.some.inj h ▸ .pongError hloop halive
    · cases h
  | drop =>
    simp only [step, Option.ite_none_right_eq_some, Option.some.injEq] at h
    obtain ⟨haborted, rfl⟩ := h
    exact .drop haborted
  | ping =>
    simp only [step] at h
    split at h
    · rename_i hconn
      exact Option.some.inj h ▸ .ping hconn
    · exact Option.some.inj h ▸ .pingRefused
  | pingDone i result =>
    simp only [step] at h
    split at h
    · rename_i n r hping
      simp only [Option.ite_none_right_eq_some, Option.some.injEq] at h
      obtain ⟨hanswers, rfl⟩ := h
      exact .pingDone hping hanswers
    · rename_i n hping
      exact Option.some.inj h ▸ .pingError hping
    · cases h
  | lose => exact Option.some.inj h ▸ .lose
  | abort => exact Option.some.inj h ▸ .abort
  | close =>
    simp only [step, Option.ite_none_right_eq_some, Option.some.injEq] at h
    obtain ⟨-, rfl⟩ := h
    exact .close
  | install protocol =>
    simp only [step, Option.ite_none_right_eq_some, Option.some.injEq] at h
    obtain ⟨hunlocked, rfl⟩ := h
    exact .install hunlocked

/-! ## The samples -/

/-- The samples are those recorded, a ping is on the transport there is,
and the transports of the samples only go up. -/
structure Inv (s : State) : Prop where
  samples : s.timeSync = recorded (s.history.map fun x => x.result)
  loop : ∀ n, s.loop = .pinging n → n = s.transport
  pings : ∀ n ∈ s.pings, n = s.transport
  ordered : s.history.Pairwise fun x y => x.transport ≤ y.transport
  bounded : ∀ x ∈ s.history, x.transport ≤ s.transport

theorem inv_finishConnect (cfg : Config) (protocol : Protocol) :
    Inv (finishConnect cfg protocol) where
  samples := rfl
  loop := by
    intro n hn
    simp only [finishConnect] at hn
    split at hn <;> cases hn
  pings := nofun
  ordered := .nil
  bounded := nofun

theorem recorded_append (results : List PingResult) (r : PingResult) :
    recorded (results ++ [r]) = (recorded results).record r := by
  unfold recorded
  rw [List.foldl_append]
  rfl

/-- A ping that comes back on the transport there is. -/
theorem Inv.record {s : State} {x : Sample} (h : Inv s) (hx : x.transport = s.transport) :
    Inv (s.record x) where
  samples := by
    show s.timeSync.record x.result = recorded ((s.history ++ [x]).map fun x => x.result)
    rw [List.map_append, List.map_singleton, recorded_append, h.samples]
  loop := h.loop
  pings := h.pings
  ordered := by
    refine List.pairwise_append.mpr ⟨h.ordered, List.pairwise_singleton _ _, ?_⟩
    intro y hy z hz
    rw [List.mem_singleton.mp hz, hx]
    exact h.bounded y hy
  bounded := by
    intro y hy
    rcases List.mem_append.mp hy with hold | hnew
    · exact h.bounded y hold
    · rw [List.mem_singleton.mp hnew]
      exact hx.le

theorem Inv.of_loop {s : State} {loop : Loop} (h : Inv s)
    (hloop : ∀ n, loop = .pinging n → n = s.transport) : Inv { s with loop := loop } :=
  { h with loop := hloop }

theorem Inv.of_pings {s : State} {pings : List Nat} (h : Inv s)
    (hpings : ∀ n ∈ pings, n = s.transport) : Inv { s with pings := pings } :=
  { h with pings := hpings }

theorem not_pinging_of_unlocked {s : State} (h : s.unlocked = true) :
    (∀ n, s.loop ≠ .pinging n) ∧ s.pings = [] := by
  unfold State.unlocked at h
  split at h
  · cases h
  · rename_i hloop
    exact ⟨hloop, List.isEmpty_iff.mp h⟩

theorem Inv.step {s t : State} {a : Action} (h : Inv s) (hstep : step s a = some t) : Inv t := by
  cases step_cases hstep with
  | tick => exact h.of_loop nofun
  | enter => exact h.of_loop fun n hn => (Loop.pinging.inj hn).symm
  | enterLost => exact h.of_loop nofun
  | pong hloop => exact (h.record (h.loop _ hloop)).of_loop nofun
  | pongError => exact h.of_loop nofun
  | drop => exact h.of_loop nofun
  | ping =>
    refine h.of_pings fun n hn => ?_
    rcases List.mem_append.mp hn with hold | hnew
    · exact h.pings n hold
    · exact List.mem_singleton.mp hnew
  | pingRefused => exact h
  | pingDone hping =>
    have hn := h.pings _ (List.mem_of_getElem? hping)
    exact (h.record hn).of_pings fun m hm => h.pings m (List.mem_of_mem_eraseIdx hm)
  | pingError => exact h.of_pings fun m hm => h.pings m (List.mem_of_mem_eraseIdx hm)
  | lose => exact { h with }
  | abort => exact { h with }
  | close => exact { h with }
  | install hunlocked =>
    obtain ⟨hloop, hpings⟩ := not_pinging_of_unlocked hunlocked
    exact
      { samples := h.samples
        loop := fun n hn => absurd hn (hloop n)
        pings := by
          intro n hn
          rw [show _ = _ from hpings] at hn
          cases hn
        ordered := h.ordered
        bounded := fun x hx => (h.bounded x hx).trans (Nat.le_succ _) }

/-- In a list in order and bounded by `T`, what follows all but as many
as have `T` has `T`. -/
theorem eq_of_mem_drop {α : Type} {f : α → Nat} {T : Nat} {l : List α}
    (hordered : l.Pairwise fun x y => f x ≤ f y) (hbounded : ∀ x ∈ l, f x ≤ T) :
    ∀ x ∈ l.drop (l.length - l.countP fun x => f x = T), f x = T := by
  induction l with
  | nil => nofun
  | cons y l ih =>
    obtain ⟨hfirst, hrest⟩ := List.pairwise_cons.mp hordered
    obtain ⟨hy, hbounded'⟩ := List.forall_mem_cons.mp hbounded
    by_cases hT : f y = T
    · -- nothing that follows is below `y`
      intro x hx
      rcases List.mem_cons.mp (List.mem_of_mem_drop hx) with rfl | hx
      · exact hT
      · exact le_antisymm (hbounded' x hx) (hT ▸ hfirst x hx)
    · have hcount := List.countP_le_length (p := fun x => f x = T) (l := l)
      rw [List.countP_cons_of_neg (by simpa using hT), List.length_cons,
        Nat.sub_add_comm hcount, List.drop_succ_cons]
      exact ih hrest hbounded'

/-- Where there are ten of the last transport, the last ten are. -/
theorem eq_of_mem_window {α : Type} {f : α → Nat} {T : Nat} {l : List α}
    (hordered : l.Pairwise fun x y => f x ≤ f y) (hbounded : ∀ x ∈ l, f x ≤ T)
    (hten : 10 ≤ l.countP fun x => f x = T) : ∀ x ∈ window l, f x = T := by
  intro x hx
  refine eq_of_mem_drop hordered hbounded x ?_
  exact (List.drop_sublist_drop_left l (Nat.sub_le_sub_left hten _)).subset hx

/-- The client keeps the last ten results, in the order of their
transports, and after ten of the new transport none of an older one. -/
structure Sound (s : State) : Prop where
  samples : s.timeSync.samples = (window s.history).map fun x => x.result
  ordered : (window s.history).Pairwise fun x y => x.transport ≤ y.transport
  renewed : (10 ≤ s.history.countP fun x => x.transport = s.transport) →
    ∀ x ∈ window s.history, x.transport = s.transport

theorem Inv.sound {s : State} (h : Inv s) : Sound s where
  samples := by
    rw [h.samples, samples_recorded]
    exact SlipstreamClient.window_map _ _
  ordered := h.ordered.sublist (List.drop_sublist _ _)
  renewed := eq_of_mem_window h.ordered h.bounded

/-- In every order of the task, the user, the monitor and `disconnect`. -/
theorem sound_along (cfg : Config) (protocol : Protocol) (as : List Action) :
    Lts.Along step Sound (finishConnect cfg protocol) as :=
  (Lts.along_of_inv (fun _ _ _ => Inv.step) (inv_finishConnect cfg protocol)).mono
    fun _ => Inv.sound

/-! ## The end of the task -/

/-- The task has given up, or was aborted. -/
def Over (s : State) : Prop :=
  s.loop = .ended ∨ s.aborted = true

/-- All samples after `history` were asked for by the user. -/
def OnlyAsked (history : List Sample) (s : State) : Prop :=
  ∃ asked, s.history = history ++ asked ∧ ∀ x ∈ asked, x.keepalive = false

theorem OnlyAsked.step {s t : State} {a : Action} {history : List Sample} (hover : Over s)
    (h : OnlyAsked history s) (hstep : step s a = some t) : Over t ∧ OnlyAsked history t := by
  have hnot : ∀ {loop : Loop}, s.loop = loop → loop ≠ .ended → s.aborted = false → False := by
    intro loop hloop hne halive
    rcases hover with hended | haborted
    · exact hne (hloop.symm.trans hended)
    · exact absurd haborted (by simp [halive])
  cases step_cases hstep with
  | tick hloop halive => exact (hnot hloop nofun halive).elim
  | enter hloop halive => exact (hnot hloop nofun halive).elim
  | enterLost hloop halive => exact (hnot hloop nofun halive).elim
  | pong hloop halive => exact (hnot hloop nofun halive).elim
  | pongError hloop halive => exact (hnot hloop nofun halive).elim
  | drop => exact ⟨.inl rfl, h⟩
  | ping => exact ⟨hover, h⟩
  | pingRefused => exact ⟨hover, h⟩
  | pingDone =>
    refine ⟨hover, ?_⟩
    obtain ⟨asked, hhistory, hasked⟩ := h
    refine ⟨asked ++ [_], (congrArg (· ++ [_]) hhistory).trans (List.append_assoc _ _ _), ?_⟩
    intro x hx
    rcases List.mem_append.mp hx with hold | hnew
    · exact hasked x hold
    · rw [List.mem_singleton.mp hnew]
  | pingError => exact ⟨hover, h⟩
  | lose => exact ⟨hover, h⟩
  | abort => exact ⟨.inr rfl, h⟩
  | close => exact ⟨hover, h⟩
  | install => exact ⟨hover, h⟩

/-- A task that is over stays over, also on the transports to come: from
then on the clock has only what the user asks for. -/
theorem quiet_along {s : State} (hover : Over s) (as : List Action) :
    Lts.Along step (OnlyAsked s.history) s as := by
  have hinv : ∀ t a u, Over t ∧ OnlyAsked s.history t → step t a = some u →
      Over u ∧ OnlyAsked s.history u := fun _ _ _ h hstep => h.2.step h.1 hstep
  refine (Lts.along_of_inv hinv ⟨hover, [], (List.append_nil _).symm, nofun⟩).mono ?_
  exact fun _ h => h.2

/-- The transport loses its connection before a tick. -/
def lostBeforeTick : State where
  protocol := .quic
  connected := false
  loop := .ended

/-- The monitor installs a new transport, and the task does not come back. -/
theorem lostBeforeTick_quiet :
    Lts.run step (finishConnect { apiKey := "sk_test_12345678" } .quic) [.lose, .tick, .enter]
        = some lostBeforeTick
      ∧ Lts.Along step (OnlyAsked []) lostBeforeTick
          [.install .quic, .tick, .ping, .pingDone 0 (some ⟨0, 2, 2, 1003⟩)] :=
  ⟨rfl, quiet_along (.inl rfl) _⟩

end Keepalive

end Slipstream
