import Slipstream.Lts

/-!
# Consumers that compete for one queue

One producer feeds a queue, any number of consumers take messages off
it, one at a time and in whatever order the scheduler picks. A consumer
that takes a message either hands it on or drops it; nothing is put
back. Whether a message survives therefore depends on who takes it, and
the state records the messages that were dropped although some consumer
would have served them (`lost`).

A state is `Uncontended` when every consumer that could take the next
message would serve it, or none would. This is the condition under which
the scheduler does not matter: `uncontended_iff_keeps` says that it holds
exactly in the states from which no choice of the scheduler loses the
next message, and `nothing_lost` carries it along a run.
-/

namespace SharedQueue

/-- What consumers do: with a message (the consumer afterwards and
whether the message was handed on), with the end of the queue and with
events of their own. `queued` are the messages the producer forwards,
`serves` says for whom a message is meant. -/
structure Discipline (C M E : Type*) where
  queued : M → Bool
  running : C → Bool
  receive : C → M → C × Bool
  hungUp : C → C
  event : C → E → Option C
  serves : C → M → Bool

/-- A running consumer hands on exactly the messages it serves. -/
structure Discipline.Lawful {C M E : Type*} (d : Discipline C M E) : Prop where
  running_of_serves : ∀ c m, d.serves c m = true → d.running c = true
  handed_eq : ∀ c m, d.running c = true → (d.receive c m).2 = d.serves c m

structure State (C M : Type*) where
  queue : List M := []
  closed : Bool := false
  consumers : List C := []
  lost : List M := []

inductive Action (C M E : Type*) where
  | push (m : M)
  | close
  | join (c : C)
  | event (i : Nat) (e : E)
  | recv (i : Nat)

variable {C M E : Type*} (d : Discipline C M E)

def State.servable (s : State C M) (m : M) : Bool := s.consumers.any (d.serves · m)

/-- The state after consumer `i` has taken `m`, the head of the queue. -/
def State.take (s : State C M) (i : Nat) (c : C) (m : M) (rest : List M) : State C M :=
  { s with
    queue := rest
    consumers := s.consumers.set i (d.receive c m).1
    lost := if s.servable d m ∧ (d.receive c m).2 = false then s.lost ++ [m] else s.lost }

def step (s : State C M) : Action C M E → Option (State C M)
  | .push m =>
      if s.closed then none
      else some { s with queue := s.queue ++ if d.queued m then [m] else [] }
  | .close => some { s with closed := true }
  | .join c => some { s with consumers := s.consumers ++ [c] }
  | .event i e =>
      s.consumers[i]?.bind fun c =>
        (d.event c e).map fun c' => { s with consumers := s.consumers.set i c' }
  | .recv i =>
      s.consumers[i]?.bind fun c =>
        if d.running c then
          match s.queue with
          | m :: rest => some (s.take d i c m rest)
          | [] =>
              -- an empty queue blocks until the producer is gone
              if s.closed then some { s with consumers := s.consumers.set i (d.hungUp c) }
              else none
        else none

/-- Only `recv` can lose a message. -/
theorem lost_eq_of_not_recv {s t : State C M} {a : Action C M E}
    (h : step d s a = some t) (ha : ∀ i, a ≠ .recv i) : t.lost = s.lost := by
  cases a with
  | push m =>
      simp only [step] at h
      split at h
      · cases h
      · exact Option.some.inj h ▸ rfl
  | close => exact Option.some.inj h ▸ rfl
  | join c => exact Option.some.inj h ▸ rfl
  | event i e =>
      simp only [step, Option.bind_eq_some_iff, Option.map_eq_some_iff] at h
      obtain ⟨c, -, c', -, ht⟩ := h
      exact ht ▸ rfl
  | recv i => exact absurd rfl (ha i)

/-- A `recv` is by a running consumer: it takes the head of the queue,
or finds the queue at its end. -/
theorem recv_cases {s t : State C M} {i : Nat} (h : step d s (.recv i) = some t) :
    ∃ c, s.consumers[i]? = some c ∧ d.running c = true ∧
      ((∃ m rest, s.queue = m :: rest ∧ t = s.take d i c m rest)
        ∨ (s.queue = [] ∧ t = { s with consumers := s.consumers.set i (d.hungUp c) })) := by
  simp only [step, Option.bind_eq_some_iff] at h
  obtain ⟨c, hc, ht⟩ := h
  split at ht
  · rename_i hrun
    refine ⟨c, hc, hrun, ?_⟩
    split at ht
    · rename_i m rest hq
      exact .inl ⟨m, rest, hq, (Option.some.inj ht).symm⟩
    · rename_i hq
      split at ht
      · exact .inr ⟨hq, (Option.some.inj ht).symm⟩
      · cases ht
  · cases ht

/-- A running consumer can take the head of the queue. -/
theorem recv_enabled {s : State C M} {i : Nat} {c : C} {m : M} {rest : List M}
    (hc : s.consumers[i]? = some c) (hrun : d.running c = true) (hq : s.queue = m :: rest) :
    step d s (.recv i) = some (s.take d i c m rest) := by
  simp [step, hc, hrun, hq]

/-- If anyone serves the next message, every running consumer does. -/
def Uncontended (s : State C M) : Prop :=
  ∀ m ∈ s.queue.head?, s.servable d m = true →
    ∀ c ∈ s.consumers, d.running c = true → d.serves c m = true

instance (s : State C M) : Decidable (Uncontended d s) :=
  match h : s.queue.head? with
  | none => isTrue fun m hm => by rw [h] at hm; cases hm
  | some m =>
      decidable_of_iff (s.servable d m = true →
        ∀ c ∈ s.consumers, d.running c = true → d.serves c m = true) <| by
          unfold Uncontended
          rw [h]
          simp

/-- Every `recv` is from an uncontended state. -/
def RecvUncontended (s : State C M) : Action C M E → Prop
  | .recv _ => Uncontended d s
  | _ => True

instance (s : State C M) : ∀ a : Action C M E, Decidable (RecvUncontended d s a)
  | .push _ => isTrue trivial
  | .close => isTrue trivial
  | .join _ => isTrue trivial
  | .event .. => isTrue trivial
  | .recv _ => inferInstanceAs (Decidable (Uncontended d s))

variable {d}

/-- Taking a message loses it exactly if it is meant for others only. -/
theorem Discipline.Lawful.take_lost (hd : d.Lawful) {s : State C M} {i : Nat} {c : C} {m : M}
    {rest : List M} (hrun : d.running c = true) :
    (s.take d i c m rest).lost = s.lost ↔ (s.servable d m = true → d.serves c m = true) := by
  simp only [State.take, hd.handed_eq c m hrun]
  cases hs : s.servable d m <;> cases hc : d.serves c m <;> simp

/-- The uncontended states are those from which whoever wins the next
message keeps it. -/
theorem uncontended_iff_keeps (hd : d.Lawful) (s : State C M) :
    Uncontended d s ↔ ∀ i t, step d s (.recv i) = some t → t.lost = s.lost := by
  constructor
  · intro h i t ht
    obtain ⟨c, hc, hrun, ⟨m, rest, hq, rfl⟩ | ⟨-, rfl⟩⟩ := recv_cases d ht
    · refine (hd.take_lost hrun).mpr fun hserv => ?_
      exact h m (by simp [hq]) hserv c (List.mem_of_getElem? hc) hrun
    · rfl
  · intro h m hm hserv c hc hrun
    obtain ⟨rest, hq⟩ : ∃ rest, s.queue = m :: rest := List.head?_eq_some_iff.mp hm
    obtain ⟨i, hi⟩ := List.mem_iff_getElem?.mp hc
    exact (hd.take_lost hrun).mp (h i _ (recv_enabled d hi hrun hq)) hserv

/-- A run whose `recv` steps are from uncontended states loses nothing. -/
theorem nothing_lost (hd : d.Lawful) {s : State C M} (hs : s.lost = [])
    {as : List (Action C M E)} (h : Lts.Guarded (step d) (RecvUncontended d) s as) :
    Lts.Along (step d) (fun t => t.lost = []) s as := by
  refine Lts.along_of_guarded (fun _ _ _ (_ : True) _ => trivial) ?_ trivial hs h
  intro t a u _ ht hstep hc
  cases a with
  | recv i => exact ((uncontended_iff_keeps hd t).mp hc i u hstep).trans ht
  | _ => exact (lost_eq_of_not_recv d hstep (by simp)).trans ht

end SharedQueue
