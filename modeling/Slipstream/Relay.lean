import Slipstream.Lts

/-!
# A relay

A task reads values from a source, converts each of them and puts it into
a bounded channel, from which a receiver takes them. It waits while the
channel is full, and ends when the source does or when the receiver is
gone. Nothing here depends on what the values are.

While there is a receiver, what it has taken, what is in the channel,
what the task has in hand and what is still to be read make up what the
source has written (`Inv.whole`). So nothing is lost, repeated or
reordered, a channel that is closed and empty has handed over everything
(`Inv.complete`), and the relay can always catch up with its source by
its own steps and those of the receiver (`Inv.can_reach_caughtUp`).
-/

namespace Relay

inductive Task (β : Type*) where
  | reading
  /-- A value in hand. -/
  | sending (b : β)
  | ended

/-- `written` is all that the source has written, `taken` all that the
receiver has taken. -/
structure State (α β : Type*) where
  written : List α := []
  unread : List α := []
  finished : Bool := false
  task : Task β := .reading
  channel : List β := []
  receiver : Bool := true
  taken : List β := []

inductive Action (α : Type*) where
  /-- The source writes, or ends. -/
  | write (a : α)
  | finish
  /-- The task reads, or puts what it has into the channel. -/
  | read
  | send
  | take
  | drop

variable {α β : Type*} (f : α → β) (slots : Nat)

def step (s : State α β) : Action α → Option (State α β)
  | .write a =>
      if s.finished then none
      else some { s with written := s.written ++ [a], unread := s.unread ++ [a] }
  | .finish => if s.finished then none else some { s with finished := true }
  | .read =>
      match s.task, s.unread with
      | .reading, a :: rest => some { s with unread := rest, task := .sending (f a) }
      | .reading, [] => if s.finished then some { s with task := .ended } else none
      | _, _ => none
  | .send =>
      match s.task with
      | .sending b =>
          if s.receiver = false then some { s with task := .ended }
          else if s.channel.length < slots then
            some { s with channel := s.channel ++ [b], task := .reading }
          else none
      | _ => none
  | .take =>
      match s.channel with
      | b :: rest => some { s with channel := rest, taken := s.taken ++ [b] }
      | [] => none
  | .drop => some { s with receiver := false, channel := [] }

/-- What each action does. -/
inductive Step (s : State α β) : Action α → State α β → Prop where
  | write {a : α} (hopen : s.finished = false) :
      Step s (.write a) { s with written := s.written ++ [a], unread := s.unread ++ [a] }
  | finish (hopen : s.finished = false) : Step s .finish { s with finished := true }
  | read {a : α} {rest : List α} (htask : s.task = .reading) (hunread : s.unread = a :: rest) :
      Step s .read { s with unread := rest, task := .sending (f a) }
  | sawEnd (htask : s.task = .reading) (hunread : s.unread = []) (hend : s.finished = true) :
      Step s .read { s with task := .ended }
  | sawDrop {b : β} (htask : s.task = .sending b) (hgone : s.receiver = false) :
      Step s .send { s with task := .ended }
  | send {b : β} (htask : s.task = .sending b) (halive : s.receiver = true)
      (hroom : s.channel.length < slots) :
      Step s .send { s with channel := s.channel ++ [b], task := .reading }
  | take {b : β} {rest : List β} (hchannel : s.channel = b :: rest) :
      Step s .take { s with channel := rest, taken := s.taken ++ [b] }
  | drop : Step s .drop { s with receiver := false, channel := [] }

variable {f slots} {s t : State α β}

theorem step_cases {a : Action α} (h : step f slots s a = some t) : Step f slots s a t := by
  cases a with
  | write a =>
      simp only [step] at h
      split at h
      · cases h
      · rename_i hopen
        exact Option.some.inj h ▸ .write (Bool.not_eq_true _ ▸ hopen)
  | finish =>
      simp only [step] at h
      split at h
      · cases h
      · rename_i hopen
        exact Option.some.inj h ▸ .finish (Bool.not_eq_true _ ▸ hopen)
  | read =>
      simp only [step] at h
      split at h
      · rename_i a rest htask hunread
        exact Option.some.inj h ▸ .read htask hunread
      · rename_i htask hunread
        split at h
        · rename_i hend
          exact Option.some.inj h ▸ .sawEnd htask hunread hend
        · cases h
      · cases h
  | send =>
      simp only [step] at h
      split at h
      · rename_i b htask
        split at h
        · rename_i hgone
          exact Option.some.inj h ▸ .sawDrop htask hgone
        · rename_i halive
          split at h
          · rename_i hroom
            exact Option.some.inj h ▸ .send htask (Bool.not_eq_false _ ▸ halive) hroom
          · cases h
      · cases h
  | take =>
      simp only [step] at h
      split at h
      · rename_i b rest hchannel
        exact Option.some.inj h ▸ .take hchannel
      · cases h
  | drop => exact Option.some.inj h ▸ .drop

/-! ## The invariant -/

def Task.held : Task β → List β
  | .sending b => [b]
  | _ => []

structure Inv (f : α → β) (slots : Nat) (s : State α β) : Prop where
  whole : s.receiver = true →
    s.taken ++ s.channel ++ s.task.held ++ s.unread.map f = s.written.map f
  /-- What has been taken stays a part of it when the receiver is gone. -/
  taken : s.taken <+: s.written.map f
  bounded : s.channel.length ≤ slots
  gone : s.receiver = false → s.channel = []
  ended : s.task = .ended → s.receiver = true → s.finished = true ∧ s.unread = []

theorem inv_init : Inv f slots ({} : State α β) where
  whole := fun _ => rfl
  taken := List.prefix_refl _
  bounded := Nat.zero_le _
  gone := fun _ => rfl
  ended := fun h => by cases h

theorem Inv.step {a : Action α} (h : Inv f slots s) (hstep : step f slots s a = some t) :
    Inv f slots t := by
  obtain ⟨hwhole, htaken, hbounded, hgone, hended⟩ := h
  cases step_cases hstep with
  | @write a hopen =>
      refine ⟨fun halive => ?_, ?_, hbounded, hgone, fun htask halive => ?_⟩
      · simp only [List.map_append, ← List.append_assoc, hwhole halive]
      · rw [List.map_append]
        exact htaken.trans (List.prefix_append ..)
      · rw [(hended htask halive).1] at hopen
        cases hopen
  | finish hopen =>
      exact ⟨hwhole, htaken, hbounded, hgone, fun htask halive => ⟨rfl, (hended htask halive).2⟩⟩
  | @read a rest htask hunread =>
      refine ⟨fun halive => ?_, htaken, hbounded, hgone, fun h => by cases h⟩
      rw [← hwhole halive, htask, hunread]
      simp [Task.held]
  | sawEnd htask hunread hend =>
      refine ⟨fun halive => ?_, htaken, hbounded, hgone, fun _ _ => ⟨hend, hunread⟩⟩
      rw [← hwhole halive, htask]
      rfl
  | sawDrop htask hgone' =>
      refine ⟨fun halive => ?_, htaken, hbounded, hgone, fun _ halive => ?_⟩
      · rw [hgone'] at halive
        cases halive
      · rw [hgone'] at halive
        cases halive
  | @send b htask halive hroom =>
      refine ⟨fun _ => ?_, htaken, ?_, fun hgone' => ?_, fun h => by cases h⟩
      · rw [← hwhole halive, htask]
        simp [Task.held]
      · rw [List.length_append]
        exact hroom
      · rw [halive] at hgone'
        cases hgone'
  | @take b rest hchannel =>
      have halive : s.receiver = true := by
        cases hr : s.receiver with
        | true => rfl
        | false =>
            rw [hgone hr] at hchannel
            cases hchannel
      have hmoved : s.taken ++ [b] ++ rest = s.taken ++ s.channel := by
        rw [hchannel, List.append_assoc, List.singleton_append]
      refine ⟨fun _ => ?_, ?_, ?_, fun hgone' => ?_, hended⟩
      · show s.taken ++ [b] ++ rest ++ s.task.held ++ s.unread.map f = s.written.map f
        rw [hmoved]
        exact hwhole halive
      · refine ⟨rest ++ s.task.held ++ s.unread.map f, ?_⟩
        show s.taken ++ [b] ++ (rest ++ s.task.held ++ s.unread.map f) = s.written.map f
        rw [← hwhole halive, ← List.append_assoc, ← List.append_assoc, hmoved]
      · rw [hchannel] at hbounded
        exact Nat.le_of_succ_le hbounded
      · rw [halive] at hgone'
        cases hgone'
  | drop =>
      refine ⟨fun halive => ?_, htaken, Nat.zero_le _, fun _ => rfl, fun _ halive => ?_⟩
      · cases halive
      · cases halive

/-- The channel is closed and empty: the receiver has everything. -/
theorem Inv.complete (h : Inv f slots s) (hended : s.task = .ended) (halive : s.receiver = true)
    (hempty : s.channel = []) : s.finished = true ∧ s.taken = s.written.map f := by
  obtain ⟨hfinished, hunread⟩ := h.ended hended halive
  refine ⟨hfinished, ?_⟩
  rw [← h.whole halive, hended, hunread, hempty]
  simp [Task.held]

/-! ## Catching up -/

/-- The steps of the relay and its receiver that lose nothing. -/
def Own : Action α → Prop
  | .read => True
  | .send => True
  | .take => True
  | _ => False

/-- The steps it takes. -/
def left (s : State α β) : Nat :=
  3 * s.unread.length + 2 * s.task.held.length + s.channel.length

/-- The receiver has all that was written up to `written`. -/
def CaughtUp (f : α → β) (written : List α) (s : State α β) : Prop :=
  s.written = written ∧ s.taken = written.map f

theorem Inv.caughtUp_or_step (h : Inv f slots s) (hslots : 0 < slots)
    (halive : s.receiver = true) :
    CaughtUp f s.written s ∨ ∃ a t, Own a ∧ Relay.step f slots s a = some t
      ∧ t.written = s.written ∧ t.receiver = true ∧ left t < left s := by
  cases hchannel : s.channel with
  | cons b rest =>
      refine .inr ⟨.take, { s with channel := rest, taken := s.taken ++ [b] }, trivial, ?_, rfl,
        halive, ?_⟩
      · simp [Relay.step, hchannel]
      · simp [left, hchannel]
  | nil =>
      cases htask : s.task with
      | sending b =>
          refine .inr ⟨.send, { s with channel := s.channel ++ [b], task := .reading }, trivial, ?_,
            rfl, halive, ?_⟩
          · simp [Relay.step, htask, halive, hchannel, hslots]
          · simp [left, htask, hchannel, Task.held]
      | reading =>
          cases hunread : s.unread with
          | cons a rest =>
              refine .inr ⟨.read, { s with unread := rest, task := .sending (f a) }, trivial, ?_,
                rfl, halive, ?_⟩
              · simp [Relay.step, htask, hunread]
              · simp [left, htask, hunread, Task.held]
                omega
          | nil =>
              refine .inl ⟨rfl, ?_⟩
              rw [← h.whole halive, hchannel, htask, hunread]
              simp [Task.held]
      | ended => exact .inl ⟨rfl, (h.complete htask halive hchannel).2⟩

/-- Whatever has been written can be taken, by the steps of the relay and
its receiver alone. -/
theorem Inv.can_reach_caughtUp (h : Inv f slots s) (hslots : 0 < slots)
    (halive : s.receiver = true) :
    Lts.Can (Relay.step f slots) Own (CaughtUp f s.written) s := by
  induction hleft : left s using Nat.strong_induction_on generalizing s with
  | _ n ih =>
      rcases h.caughtUp_or_step hslots halive with hdone | ⟨a, t, hown, hstep, hsame, halive', hlt⟩
      · exact .here hdone
      · have hrest := ih (left t) (hleft ▸ hlt) (h.step hstep) halive' rfl
        rw [hsame] at hrest
        exact hrest.cons hown hstep

end Relay
