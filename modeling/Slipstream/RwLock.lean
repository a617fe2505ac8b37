import Slipstream.Lts

/-!
# A fair readers-writer lock

Tasks ask for the lock to read or to write and wait in a first-in,
first-out queue. Whenever something changes, the head of the queue gets
the lock as long as it goes together with those that hold it: a reader
with readers, a writer with nobody. A task that is done, or gives up
while it waits, leaves.

The `line` of a lock is everybody in the order of arrival, those that
hold it first. That alone decides who holds it: exactly the tasks that
go together with all that came before them (`mem_holders_iff`). The
second half is about tasks that run one section each under the lock:
what a section sees (`Inv.undisturbed`), whom a waiting writer keeps out
(`heldBack_along`), and that whoever waits gets in once those before it
are done (`Inv.can_enter`). At the end stand the same facts for a type of
`Calls`, each of which is one such section.
-/

namespace RwLock

inductive Mode where
  | read
  | write
deriving Repr, DecidableEq

structure State (ι : Type*) where
  holders : List (ι × Mode) := []
  queue : List (ι × Mode) := []

section Lock

variable {ι : Type*}

/-- One more task goes together with those that hold the lock. -/
def admits (holders : List (ι × Mode)) : Mode → Bool
  | .read => holders.all fun h => decide (h.2 = .read)
  | .write => holders.isEmpty

/-- Let in from the queue as many as go together with the holders. -/
def grant : List (ι × Mode) → List (ι × Mode) → State ι
  | holders, [] => ⟨holders, []⟩
  | holders, w :: queue =>
      if admits holders w.2 then grant (holders ++ [w]) queue else ⟨holders, w :: queue⟩

namespace State

def acquire (s : State ι) (i : ι) (mode : Mode) : State ι :=
  grant s.holders (s.queue ++ [(i, mode)])

/-- Release the lock, or give up waiting for it. -/
def leave [DecidableEq ι] (s : State ι) (i : ι) : State ι :=
  grant (s.holders.filter fun h => decide (h.1 ≠ i)) (s.queue.filter fun w => decide (w.1 ≠ i))

/-- Everybody, in the order of arrival. -/
def line (s : State ι) : List (ι × Mode) := s.holders ++ s.queue

end State

theorem admits_read_iff {holders : List (ι × Mode)} :
    admits holders .read = true ↔ ∀ h ∈ holders, h.2 = .read := by
  simp [admits]

theorem admits_write_iff {holders : List (ι × Mode)} :
    admits holders .write = true ↔ holders = [] := by
  simp [admits]

/-! ## What granting does -/

theorem line_grant : ∀ (holders queue : List (ι × Mode)),
    (grant holders queue).line = holders ++ queue := by
  intro holders queue
  induction queue generalizing holders with
  | nil => rfl
  | cons w queue ih =>
      unfold grant
      split
      · rw [ih, List.append_assoc, List.singleton_append]
      · rfl

/-- Who can hold the lock together. -/
def Together (holders : List (ι × Mode)) : Prop :=
  (∀ h ∈ holders, h.2 = .read) ∨ ∃ i, holders = [(i, .write)]

theorem Together.append {holders : List (ι × Mode)} {w : ι × Mode} (h : Together holders)
    (hw : admits holders w.2 = true) : Together (holders ++ [w]) := by
  obtain ⟨i, mode⟩ := w
  cases mode with
  | read =>
      have hread := admits_read_iff.mp hw
      refine .inl fun g hg => ?_
      rcases List.mem_append.mp hg with hg | hg
      · exact hread g hg
      · rw [List.mem_singleton.mp hg]
  | write =>
      obtain rfl := admits_write_iff.mp hw
      exact .inr ⟨i, rfl⟩

theorem Together.filter {holders : List (ι × Mode)} (h : Together holders)
    (p : ι × Mode → Bool) : Together (holders.filter p) := by
  rcases h with hread | ⟨i, rfl⟩
  · exact .inl fun g hg => hread g (List.mem_of_mem_filter hg)
  · cases hp : p (i, .write) with
    | true => exact .inr ⟨i, by simp [hp]⟩
    | false => exact .inl (by simp [hp])

theorem together_grant {holders : List (ι × Mode)} (h : Together holders) :
    ∀ queue, Together (grant holders queue).holders := by
  intro queue
  induction queue generalizing holders with
  | nil => exact h
  | cons w queue ih =>
      unfold grant
      split
      · rename_i hadmits
        exact ih (h.append hadmits)
      · exact h

theorem full_grant : ∀ (holders queue : List (ι × Mode)),
    ∀ w ∈ (grant holders queue).queue.head?, admits (grant holders queue).holders w.2 = false := by
  intro holders queue
  induction queue generalizing holders with
  | nil => intro w hw; cases hw
  | cons w queue ih =>
      unfold grant
      split
      · exact ih _
      · rename_i hnot
        intro w' hw'
        obtain rfl := Option.some.inj hw'
        exact Bool.not_eq_true _ ▸ hnot

theorem subset_grant : ∀ (holders queue : List (ι × Mode)),
    holders ⊆ (grant holders queue).holders := by
  intro holders queue
  induction queue generalizing holders with
  | nil => exact List.Subset.refl _
  | cons w queue ih =>
      unfold grant
      split
      · exact List.Subset.trans (List.subset_append_left _ _) (ih _)
      · exact List.Subset.refl _

/-- The holders go together, the head of the queue does not go with
them, and no task is in line twice. -/
structure Sound (s : State ι) : Prop where
  together : Together s.holders
  full : ∀ w ∈ s.queue.head?, admits s.holders w.2 = false
  nodup : (s.line.map Prod.fst).Nodup

theorem sound_empty : Sound ({} : State ι) where
  together := .inl (by simp)
  full := fun w hw => by cases hw
  nodup := List.nodup_nil

theorem State.line_acquire (s : State ι) (i : ι) (mode : Mode) :
    (s.acquire i mode).line = s.line ++ [(i, mode)] := by
  unfold State.acquire
  rw [line_grant, ← List.append_assoc]
  rfl

theorem State.line_leave [DecidableEq ι] (s : State ι) (i : ι) :
    (s.leave i).line = s.line.filter fun w => decide (w.1 ≠ i) := by
  unfold State.leave State.line
  rw [List.filter_append]
  exact line_grant ..

theorem Sound.acquire {s : State ι} (h : Sound s) {i : ι} {mode : Mode}
    (hnew : i ∉ s.line.map Prod.fst) : Sound (s.acquire i mode) where
  together := together_grant h.together _
  full := full_grant _ _
  nodup := by
    rw [s.line_acquire, List.map_append]
    refine List.nodup_append.mpr ⟨h.nodup, by simp, fun a ha b hb hab => ?_⟩
    rw [hab, List.mem_singleton.mp hb] at ha
    exact hnew ha

theorem Sound.leave [DecidableEq ι] {s : State ι} (h : Sound s) (i : ι) :
    Sound (s.leave i) where
  together := together_grant (h.together.filter _) _
  full := full_grant _ _
  nodup := by
    rw [s.line_leave]
    exact h.nodup.sublist (List.filter_sublist.map _)

/-! ## Who holds the lock -/

theorem not_mem_of_line {s : State ι} (h : Sound s) {before after : List (ι × Mode)} {i : ι}
    {mode : Mode} (hline : s.line = before ++ (i, mode) :: after) :
    (i, mode) ∉ before ∧ (i, mode) ∉ after := by
  have hnodup := h.nodup
  rw [hline, List.map_append, List.map_cons] at hnodup
  obtain ⟨-, hafter, hapart⟩ := List.nodup_append.mp hnodup
  constructor
  · intro hmem
    exact hapart i (List.mem_map_of_mem hmem) i List.mem_cons_self rfl
  · intro hmem
    exact (List.nodup_cons.mp hafter).1 (List.mem_map_of_mem hmem)

/-- A task holds the lock exactly if it goes together with all that came
before it. -/
theorem mem_holders_iff {s : State ι} (h : Sound s) {before after : List (ι × Mode)} {i : ι}
    {mode : Mode} (hline : s.line = before ++ (i, mode) :: after) :
    (i, mode) ∈ s.holders ↔ admits before mode = true := by
  obtain ⟨hbefore, hafter⟩ := not_mem_of_line h hline
  rcases List.append_eq_append_iff.mp hline with ⟨rest, hb, hq⟩ | ⟨rest, hh, hq⟩
  -- it waits: `rest` are those that wait before it
  · refine iff_of_false (fun hmem => hbefore (hb ▸ List.mem_append_left _ hmem)) ?_
    intro hadmits
    have hfull := h.full
    rw [hq] at hfull
    cases rest with
    | nil =>
        rw [List.append_nil] at hb
        have hnot := hfull (i, mode) rfl
        rw [← hb, hadmits] at hnot
        cases hnot
    | cons w rest =>
        have hnot := hfull w rfl
        cases mode with
        | read =>
            have hread := admits_read_iff.mp hadmits
            rw [hb] at hread
            have hw : w.2 = .read := hread w (by simp)
            have hholders : admits s.holders .read = true :=
              admits_read_iff.mpr fun g hg => hread g (List.mem_append_left _ hg)
            rw [hw, hholders] at hnot
            cases hnot
        | write =>
            rw [admits_write_iff.mp hadmits] at hb
            simp at hb
  -- it holds the lock, or is the first that waits
  · cases rest with
    | nil =>
        rw [List.append_nil] at hh
        have hnot := h.full (i, mode) (by rw [← List.nil_append s.queue, ← hq]; rfl)
        refine iff_of_false (fun hmem => hbefore (hh ▸ hmem)) ?_
        rw [← hh, hnot]
        exact Bool.false_ne_true
    | cons w rest =>
        obtain ⟨rfl, -⟩ := List.cons.inj hq
        refine iff_of_true (by rw [hh]; simp) ?_
        rcases h.together with hread | ⟨j, hwrite⟩
        · rw [hh] at hread
          have hmode : mode = .read := hread (i, mode) (by simp)
          rw [hmode]
          exact admits_read_iff.mpr fun g hg => hread g (List.mem_append_left _ hg)
        · rw [hh] at hwrite
          cases before with
          | nil =>
              obtain ⟨hij, -⟩ := List.cons.inj hwrite
              obtain ⟨-, rfl⟩ := Prod.mk.inj hij
              rfl
          | cons b before => simp at hwrite

end Lock

/-! ## Sections under the lock

Each task asks for the lock once. In its section a reader sees the data
as they are, a writer changes them on entering. -/

structure Section (D : Type*) where
  mode : Mode
  effect : D → D

namespace Section

/-- What the section finds, a writer after its own change. -/
def run {D : Type*} (sec : Section D) (data : D) : D :=
  match sec.mode with
  | .read => data
  | .write => sec.effect data

end Section

inductive Phase (D : Type*) where
  | waiting
  | inside (seen : D)
  | ended

structure Task (D : Type*) where
  sec : Section D
  phase : Phase D := .waiting

/-- The tasks are numbered in the order of arrival. -/
structure System (D : Type*) where
  data : D
  lock : State Nat := {}
  tasks : List (Task D) := []

inductive Action (D : Type*) where
  | request (sec : Section D)
  | enter (i : Nat)
  | finish (i : Nat)
  /-- The task is dropped, wherever it is. -/
  | cancel (i : Nat)

section Sections

variable {D : Type*}

def System.quit (s : System D) (i : Nat) (sec : Section D) : System D :=
  { s with lock := s.lock.leave i, tasks := s.tasks.set i ⟨sec, .ended⟩ }

def step (s : System D) : Action D → Option (System D)
  | .request sec =>
      some
        { s with
          lock := s.lock.acquire s.tasks.length sec.mode
          tasks := s.tasks ++ [⟨sec, .waiting⟩] }
  | .enter i =>
      match s.tasks[i]? with
      | some ⟨sec, .waiting⟩ =>
          if (i, sec.mode) ∈ s.lock.holders then
            let data := sec.run s.data
            some { s with data := data, tasks := s.tasks.set i ⟨sec, .inside data⟩ }
          else none
      | _ => none
  | .finish i =>
      match s.tasks[i]? with
      | some ⟨sec, .inside _⟩ => some (s.quit i sec)
      | _ => none
  | .cancel i =>
      match s.tasks[i]? with
      | some ⟨_, .ended⟩ => none
      | some ⟨sec, _⟩ => some (s.quit i sec)
      | none => none

theorem getElem?_concat_eq_some {α : Type*} {l : List α} {a b : α} {i : Nat} :
    (l ++ [a])[i]? = some b ↔ l[i]? = some b ∨ i = l.length ∧ a = b := by
  rw [List.getElem?_append]
  split
  · rename_i hlt
    simp [Nat.ne_of_lt hlt]
  · rename_i hge
    rw [List.getElem?_singleton, List.getElem?_eq_none (by omega)]
    split
    · simp; omega
    · simp; omega

/-- What each action does. -/
inductive Step (s : System D) : Action D → System D → Prop where
  | request {sec : Section D} :
      Step s (.request sec)
        { s with
          lock := s.lock.acquire s.tasks.length sec.mode
          tasks := s.tasks ++ [⟨sec, .waiting⟩] }
  | enter {i : Nat} {sec : Section D} (htask : s.tasks[i]? = some ⟨sec, .waiting⟩)
      (hholds : (i, sec.mode) ∈ s.lock.holders) :
      Step s (.enter i)
        { s with data := sec.run s.data, tasks := s.tasks.set i ⟨sec, .inside (sec.run s.data)⟩ }
  | finish {i : Nat} {sec : Section D} {seen : D}
      (htask : s.tasks[i]? = some ⟨sec, .inside seen⟩) : Step s (.finish i) (s.quit i sec)
  | cancel {i : Nat} {sec : Section D} {phase : Phase D}
      (htask : s.tasks[i]? = some ⟨sec, phase⟩) : Step s (.cancel i) (s.quit i sec)

theorem step_cases {s t : System D} {a : Action D} (h : step s a = some t) : Step s a t := by
  cases a with
  | request sec => exact Option.some.inj h ▸ .request
  | enter i =>
      simp only [step] at h
      split at h
      · rename_i sec htask
        split at h
        · rename_i hholds
          exact Option.some.inj h ▸ .enter htask hholds
        · cases h
      · cases h
  | finish i =>
      simp only [step] at h
      split at h
      · rename_i sec seen htask
        exact Option.some.inj h ▸ .finish htask
      · cases h
  | cancel i =>
      simp only [step] at h
      split at h
      · cases h
      · rename_i sec phase _ htask
        exact Option.some.inj h ▸ .cancel htask
      · cases h

/-- The task is in line for the lock: not over. -/
def System.InLine (s : System D) (i : Nat) (mode : Mode) : Prop :=
  ∃ sec phase, s.tasks[i]? = some ⟨sec, phase⟩ ∧ sec.mode = mode ∧ phase ≠ .ended

theorem System.inLine_iff {s : System D} {i : Nat} {mode : Mode} {sec : Section D}
    {phase : Phase D} (htask : s.tasks[i]? = some ⟨sec, phase⟩) :
    s.InLine i mode ↔ sec.mode = mode ∧ phase ≠ .ended := by
  constructor
  · rintro ⟨sec', phase', htask', h⟩
    obtain ⟨rfl, rfl⟩ := Task.mk.inj (Option.some.inj (htask.symm.trans htask'))
    exact h
  · rintro ⟨hmode, hphase⟩
    exact ⟨sec, phase, htask, hmode, hphase⟩

structure Inv (s : System D) : Prop where
  sound : Sound s.lock
  /-- The line is that of the tasks which are not over. -/
  mem_line : ∀ i mode, (i, mode) ∈ s.lock.line ↔ s.InLine i mode
  ordered : (s.lock.line.map Prod.fst).Pairwise (· < ·)
  holds : ∀ (i : Nat) (sec : Section D) (seen : D),
    s.tasks[i]? = some ⟨sec, .inside seen⟩ → (i, sec.mode) ∈ s.lock.holders
  sees : ∀ (i : Nat) (sec : Section D) (seen : D),
    s.tasks[i]? = some ⟨sec, .inside seen⟩ → seen = s.data

theorem inv_init (data : D) : Inv ({ data := data } : System D) where
  sound := sound_empty
  mem_line := fun i mode => iff_of_false (fun h => by cases h) (by simp [System.InLine])
  ordered := List.Pairwise.nil
  holds := fun i sec seen h => by simp at h
  sees := fun i sec seen h => by simp at h

namespace Step

variable {s t : System D}

theorem inv_request {sec : Section D} (h : Inv s) :
    Inv
      { s with
        lock := s.lock.acquire s.tasks.length sec.mode
        tasks := s.tasks ++ [⟨sec, .waiting⟩] } := by
  have hlt : ∀ i ∈ s.lock.line.map Prod.fst, i < s.tasks.length := by
    intro i hi
    obtain ⟨⟨j, mode⟩, hmem, rfl⟩ := List.mem_map.mp hi
    obtain ⟨sec, phase, htask, -⟩ := (h.mem_line j mode).mp hmem
    exact (List.getElem?_eq_some_iff.mp htask).1
  -- the new task is behind the others, and not inside
  have hold : ∀ {i : Nat} {sec' : Section D} {seen : D},
      (s.tasks ++ [⟨sec, .waiting⟩])[i]? = some ⟨sec', .inside seen⟩ →
        s.tasks[i]? = some ⟨sec', .inside seen⟩ := by
    intro i sec' seen htask
    rcases getElem?_concat_eq_some.mp htask with htask | ⟨-, heq⟩
    · exact htask
    · cases heq
  refine ⟨h.sound.acquire fun hmem => Nat.lt_irrefl _ (hlt _ hmem), fun i mode => ?_, ?_,
    fun i sec' seen htask => ?_, fun i sec' seen htask => h.sees i sec' seen (hold htask)⟩
  · rw [State.line_acquire, List.mem_append, h.mem_line, List.mem_singleton]
    constructor
    · rintro (⟨sec', phase, htask, hmode, hphase⟩ | heq)
      · exact ⟨sec', phase, getElem?_concat_eq_some.mpr (.inl htask), hmode, hphase⟩
      · obtain ⟨rfl, rfl⟩ := Prod.mk.inj heq
        exact ⟨sec, .waiting, getElem?_concat_eq_some.mpr (.inr ⟨rfl, rfl⟩), rfl, by simp⟩
    · rintro ⟨sec', phase, htask, hmode, hphase⟩
      rcases getElem?_concat_eq_some.mp htask with htask | ⟨rfl, heq⟩
      · exact .inl ⟨sec', phase, htask, hmode, hphase⟩
      · obtain ⟨rfl, rfl⟩ := Task.mk.inj heq
        exact .inr (by rw [← hmode])
  · rw [State.line_acquire, List.map_append]
    refine List.pairwise_append.mpr ⟨h.ordered, List.pairwise_singleton _ _, ?_⟩
    intro i hi j hj
    rw [List.map_singleton, List.mem_singleton] at hj
    rw [hj]
    exact hlt i hi
  · exact subset_grant _ _ (h.holds i sec' seen (hold htask))

theorem inv_enter {i : Nat} {sec : Section D} (h : Inv s)
    (htask : s.tasks[i]? = some ⟨sec, .waiting⟩) (hholds : (i, sec.mode) ∈ s.lock.holders) :
    Inv
      { s with
        data := sec.run s.data
        tasks := s.tasks.set i ⟨sec, .inside (sec.run s.data)⟩ } := by
  have hi : i < s.tasks.length := (List.getElem?_eq_some_iff.mp htask).1
  refine ⟨h.sound, fun j mode => ?_, h.ordered, fun j sec' seen hj => ?_, fun j sec' seen hj => ?_⟩
  · rw [h.mem_line]
    by_cases hij : i = j
    · subst hij
      rw [System.inLine_iff htask, System.inLine_iff (List.getElem?_set_self hi)]
      simp
    · simp [System.InLine, List.getElem?_set_ne hij]
  · by_cases hij : i = j
    · subst hij
      rw [List.getElem?_set_self hi] at hj
      obtain ⟨rfl, -⟩ := Task.mk.inj (Option.some.inj hj)
      exact hholds
    · rw [List.getElem?_set_ne hij] at hj
      exact h.holds j sec' seen hj
  · by_cases hij : i = j
    · subst hij
      rw [List.getElem?_set_self hi] at hj
      obtain ⟨-, hphase⟩ := Task.mk.inj (Option.some.inj hj)
      exact (Phase.inside.inj hphase).symm
    · rw [List.getElem?_set_ne hij] at hj
      have hseen := h.sees j sec' seen hj
      cases hmode : sec.mode with
      | read => simpa [Section.run, hmode] using hseen
      | write =>
          -- a writer is alone
          have hj' := h.holds j sec' seen hj
          rw [hmode] at hholds
          rcases h.sound.together with hread | ⟨k, hwrite⟩
          · cases hread _ hholds
          · rw [hwrite, List.mem_singleton] at hholds hj'
            exact absurd ((Prod.mk.inj hholds).1.trans (Prod.mk.inj hj').1.symm) hij

theorem inv_quit {i : Nat} {sec : Section D} {phase : Phase D} (h : Inv s)
    (htask : s.tasks[i]? = some ⟨sec, phase⟩) : Inv (s.quit i sec) := by
  have hi : i < s.tasks.length := (List.getElem?_eq_some_iff.mp htask).1
  have hold : ∀ {j : Nat} {sec' : Section D} {seen : D},
      (s.tasks.set i ⟨sec, .ended⟩)[j]? = some ⟨sec', .inside seen⟩ →
        i ≠ j ∧ s.tasks[j]? = some ⟨sec', .inside seen⟩ := by
    intro j sec' seen hj
    by_cases hij : i = j
    · subst hij
      rw [List.getElem?_set_self hi] at hj
      cases hj
    · rw [List.getElem?_set_ne hij] at hj
      exact ⟨hij, hj⟩
  refine ⟨h.sound.leave i, fun j mode => ?_, ?_, fun j sec' seen hj => ?_,
    fun j sec' seen hj => h.sees j sec' seen (hold hj).2⟩
  · show (j, mode) ∈ (s.lock.leave i).line ↔ _
    rw [State.line_leave, List.mem_filter, h.mem_line]
    by_cases hij : i = j
    · subst hij
      have hover : (s.quit i sec).tasks[i]? = some ⟨sec, .ended⟩ := List.getElem?_set_self hi
      rw [System.inLine_iff hover]
      simp
    · simp [System.InLine, System.quit, List.getElem?_set_ne hij, Ne.symm hij]
  · show ((s.lock.leave i).line.map Prod.fst).Pairwise (· < ·)
    rw [State.line_leave]
    exact h.ordered.sublist (List.filter_sublist.map _)
  · obtain ⟨hij, hj⟩ := hold hj
    exact subset_grant _ _
      (List.mem_filter.mpr ⟨h.holds j sec' seen hj, decide_eq_true (Ne.symm hij)⟩)

end Step

theorem Inv.step {s t : System D} {a : Action D} (h : Inv s) (hstep : step s a = some t) :
    Inv t := by
  cases step_cases hstep with
  | request => exact Step.inv_request h
  | enter htask hholds => exact Step.inv_enter h htask hholds
  | finish htask => exact Step.inv_quit h htask
  | cancel htask => exact Step.inv_quit h htask

/-- The data are as a section has found them, and a writer has them for
itself. -/
structure Undisturbed (s : System D) (i : Nat) (sec : Section D) (seen : D) : Prop where
  data : s.data = seen
  alone : ∀ (j : Nat) (sec' : Section D) (seen' : D),
    s.tasks[j]? = some ⟨sec', .inside seen'⟩ → j ≠ i → sec.mode = .read ∧ sec'.mode = .read

theorem Inv.undisturbed {s : System D} (h : Inv s) {i : Nat} {sec : Section D} {seen : D}
    (htask : s.tasks[i]? = some ⟨sec, .inside seen⟩) : Undisturbed s i sec seen where
  data := (h.sees i sec seen htask).symm
  alone := by
    intro j sec' seen' hj hne
    have hi := h.holds i sec seen htask
    have hj' := h.holds j sec' seen' hj
    rcases h.sound.together with hread | ⟨k, hwrite⟩
    · exact ⟨hread _ hi, hread _ hj'⟩
    · rw [hwrite, List.mem_singleton] at hi hj'
      exact absurd ((Prod.mk.inj hj').1.trans (Prod.mk.inj hi).1.symm) hne

/-! ## A writer that waits behind a reader -/

theorem mem_before {line before after : List (Nat × Mode)} {j k : Nat} {mode mode' : Mode}
    (hordered : (line.map Prod.fst).Pairwise (· < ·)) (hline : line = before ++ (k, mode) :: after)
    (hmem : (j, mode') ∈ line) (hlt : j < k) : (j, mode') ∈ before := by
  rw [hline] at hmem hordered
  rcases List.mem_append.mp hmem with hbefore | hafter
  · exact hbefore
  · rw [List.map_append, List.map_cons] at hordered
    obtain ⟨-, htail, -⟩ := List.pairwise_append.mp hordered
    rcases List.mem_cons.mp hafter with heq | hafter
    · have hjk : j = k := (Prod.mk.inj heq).1
      omega
    · have hkj : k < j := (List.pairwise_cons.mp htail).1 j (List.mem_map_of_mem hafter)
      omega

/-- Task `i` reads the data and the writer `j` waits behind it. -/
structure HeldBack (data : D) (i j : Nat) (s : System D) : Prop where
  inv : Inv s
  reading : ∃ sec, s.tasks[i]? = some ⟨sec, .inside data⟩ ∧ sec.mode = .read
  writer : s.InLine j .write
  behind : i < j

namespace HeldBack

variable {data : D} {i j : Nat} {s t : System D}

theorem data_eq (h : HeldBack data i j s) : s.data = data := by
  obtain ⟨sec, htask, -⟩ := h.reading
  exact (h.inv.undisturbed htask).data

/-- The writer, and whoever comes after it, is kept out. -/
theorem outside (h : HeldBack data i j s) {k : Nat} (hk : j ≤ k) {sec : Section D} {seen : D} :
    s.tasks[k]? ≠ some ⟨sec, .inside seen⟩ := by
  intro htask
  have hholds := h.inv.holds k sec seen htask
  obtain ⟨reader, hi, hread⟩ := h.reading
  have hj := (h.inv.mem_line j .write).mpr h.writer
  obtain ⟨before, after, hline⟩ := List.append_of_mem (List.mem_append_left s.lock.queue hholds)
  have hadmits := (mem_holders_iff h.inv.sound hline).mp hholds
  rcases Nat.lt_or_eq_of_le hk with hlt | rfl
  · have hbefore := mem_before h.inv.ordered hline hj hlt
    cases hmode : sec.mode with
    | read =>
        rw [hmode] at hadmits
        cases admits_read_iff.mp hadmits _ hbefore
    | write =>
        rw [hmode] at hadmits
        rw [admits_write_iff.mp hadmits] at hbefore
        cases hbefore
  · obtain ⟨hmode, -⟩ := (System.inLine_iff htask).mp h.writer
    have hne : i ≠ j := Nat.ne_of_lt h.behind
    have halone := ((h.inv.undisturbed htask).alone i reader data hi hne).1
    rw [hmode] at halone
    cases halone

theorem step (h : HeldBack data i j s) {a : Action D} (hstep : step s a = some t)
    (hfinish : a ≠ .finish i) (hcancel : a ≠ .cancel i) (hwriter : a ≠ .cancel j) :
    HeldBack data i j t := by
  refine ⟨h.inv.step hstep, ?_, ?_, h.behind⟩
  · obtain ⟨sec, hi, hread⟩ := h.reading
    refine ⟨sec, ?_, hread⟩
    cases step_cases hstep with
    | request => exact getElem?_concat_eq_some.mpr (.inl hi)
    | @enter k sec' htask hholds =>
        have hne : k ≠ i := by
          rintro rfl
          rw [hi] at htask
          cases htask
        exact (List.getElem?_set_ne hne).trans hi
    | @finish k sec' seen htask =>
        have hne : k ≠ i := fun hki => hfinish (congrArg _ hki)
        exact (List.getElem?_set_ne hne).trans hi
    | @cancel k sec' phase htask =>
        have hne : k ≠ i := fun hki => hcancel (congrArg _ hki)
        exact (List.getElem?_set_ne hne).trans hi
  · obtain ⟨sec, phase, hj, hmode, hphase⟩ := h.writer
    cases step_cases hstep with
    | request => exact ⟨sec, phase, getElem?_concat_eq_some.mpr (.inl hj), hmode, hphase⟩
    | @enter k sec' htask hholds =>
        by_cases hkj : k = j
        · subst hkj
          have hk : k < s.tasks.length := (List.getElem?_eq_some_iff.mp hj).1
          obtain ⟨rfl, -⟩ := Task.mk.inj (Option.some.inj (htask.symm.trans hj))
          exact ⟨sec', _, List.getElem?_set_self hk, hmode, by simp⟩
        · exact ⟨sec, phase, (List.getElem?_set_ne hkj).trans hj, hmode, hphase⟩
    | @finish k sec' seen htask =>
        have hkj : k ≠ j := by
          rintro rfl
          exact h.outside (Nat.le_refl _) htask
        exact ⟨sec, phase, (List.getElem?_set_ne hkj).trans hj, hmode, hphase⟩
    | @cancel k sec' phase' htask =>
        have hkj : k ≠ j := fun hkj => hwriter (congrArg _ hkj)
        exact ⟨sec, phase, (List.getElem?_set_ne hkj).trans hj, hmode, hphase⟩

end HeldBack

/-- The reader does not end, and the writer does not give up. -/
def Persist (i j : Nat) (_ : System D) : Action D → Prop
  | .finish k => k ≠ i
  | .cancel k => k ≠ i ∧ k ≠ j
  | _ => True

theorem heldBack_along {data : D} {i j : Nat} {s : System D} (h : HeldBack data i j s)
    {as : List (Action D)} (hpersist : Lts.Guarded RwLock.step (Persist i j) s as) :
    Lts.Along RwLock.step (HeldBack data i j) s as := by
  have hkeep : ∀ u a v, True → HeldBack data i j u → RwLock.step u a = some v →
      Persist i j u a → HeldBack data i j v := by
    intro u a v _ hu hstep hkeep
    refine hu.step hstep ?_ ?_ ?_
    · rintro rfl
      exact hkeep rfl
    · rintro rfl
      exact hkeep.1 rfl
    · rintro rfl
      exact hkeep.2 rfl
  exact Lts.along_of_guarded (fun _ _ _ _ _ => trivial) hkeep trivial h hpersist

/-- As long as a reader does not end and a writer waits behind it, the data
are left alone and nobody who came after it gets in. -/
theorem Inv.kept_out_along {s : System D} (h : Inv s) {i j : Nat} {reader writer : Section D}
    {seen : D} (hreading : s.tasks[i]? = some ⟨reader, .inside seen⟩)
    (hread : reader.mode = .read) (hwaiting : s.tasks[j]? = some ⟨writer, .waiting⟩)
    (hwrite : writer.mode = .write) (hlt : i < j) {as : List (Action D)}
    (hpersist : Lts.Guarded RwLock.step (Persist i j) s as) :
    Lts.Along RwLock.step (fun t => t.data = seen ∧
      ∀ k, j ≤ k → ∀ sec seen', t.tasks[k]? ≠ some ⟨sec, .inside seen'⟩) s as := by
  have hheld : HeldBack seen i j s :=
    { inv := h
      reading := ⟨reader, hreading, hread⟩
      writer := (System.inLine_iff hwaiting).mpr ⟨hwrite, by simp⟩
      behind := hlt }
  exact (heldBack_along hheld hpersist).mono fun t ht => ⟨ht.data_eq, fun k hk _ _ => ht.outside hk⟩

/-! ## Everybody gets in -/

/-- The tasks before `j` go in and come out, and `j` goes in. -/
def Ahead (j : Nat) : Action D → Prop
  | .enter k => k ≤ j
  | .finish k => k < j
  | _ => False

/-- The first in line is inside, or can go in. -/
theorem Inv.first_inside {s : System D} (h : Inv s) {k : Nat} {mode : Mode}
    {rest : List (Nat × Mode)} (hline : s.lock.line = (k, mode) :: rest) :
    ∃ s' sec seen, (s' = s ∨ RwLock.step s (.enter k) = some s') ∧ Inv s'
      ∧ s'.tasks[k]? = some ⟨sec, .inside seen⟩ ∧ s'.lock = s.lock
      ∧ ∀ i, i ≠ k → s'.tasks[i]? = s.tasks[i]? := by
  obtain ⟨sec, phase, htask, rfl, hphase⟩ := (h.mem_line k mode).mp (by rw [hline]; simp)
  cases phase with
  | waiting =>
      have hholds : (k, sec.mode) ∈ s.lock.holders := by
        have hfirst : s.lock.line = [] ++ (k, sec.mode) :: rest := hline
        refine (mem_holders_iff h.sound hfirst).mpr ?_
        cases sec.mode <;> rfl
      have hstep : RwLock.step s (.enter k) = some
          { s with
            data := sec.run s.data
            tasks := s.tasks.set k ⟨sec, .inside (sec.run s.data)⟩ } := by
        simp [RwLock.step, htask, hholds]
      have hk : k < s.tasks.length := (List.getElem?_eq_some_iff.mp htask).1
      exact ⟨_, sec, _, .inr hstep, h.step hstep, List.getElem?_set_self hk, rfl,
        fun i hi => List.getElem?_set_ne (Ne.symm hi)⟩
  | inside seen => exact ⟨s, sec, seen, .inl rfl, h, htask, rfl, fun i _ => rfl⟩
  | ended => exact absurd rfl hphase

/-- The section has been entered. -/
def Entered (j : Nat) (sec : Section D) (t : System D) : Prop :=
  Inv t ∧ ∃ data, t.tasks[j]? = some ⟨sec, .inside (sec.run data)⟩

theorem Entered.data {j : Nat} {sec : Section D} {t : System D} (h : Entered j sec t) :
    ∃ data, t.data = sec.run data := by
  obtain ⟨hinv, data, htask⟩ := h
  exact ⟨data, (hinv.sees j sec _ htask).symm⟩

theorem Inv.can_enter_of_line {j : Nat} {sec : Section D} {after : List (Nat × Mode)} :
    ∀ {before : List (Nat × Mode)} {s : System D}, Inv s →
      s.lock.line = before ++ (j, sec.mode) :: after → s.tasks[j]? = some ⟨sec, .waiting⟩ →
        Lts.Can RwLock.step (Ahead j) (Entered j sec) s := by
  intro before
  induction before with
  | nil =>
      intro s h hline htask
      have hholds : (j, sec.mode) ∈ s.lock.holders := by
        refine (mem_holders_iff h.sound hline).mpr ?_
        cases sec.mode <;> rfl
      have hj : j < s.tasks.length := (List.getElem?_eq_some_iff.mp htask).1
      have hstep : RwLock.step s (.enter j) = some
          { s with
            data := sec.run s.data
            tasks := s.tasks.set j ⟨sec, .inside (sec.run s.data)⟩ } := by
        simp [RwLock.step, htask, hholds]
      exact .cons (a := .enter j) (Nat.le_refl j) hstep
        (.here ⟨h.step hstep, s.data, List.getElem?_set_self hj⟩)
  | cons first before ih =>
      intro s h hline htask
      obtain ⟨k, mode⟩ := first
      have hkj : k < j := by
        have hordered := h.ordered
        rw [hline, List.cons_append, List.map_cons, List.pairwise_cons] at hordered
        exact hordered.1 j (by simp)
      obtain ⟨s', sec', seen, hreach, hinv, hinside, hlock, hothers⟩ := h.first_inside hline
      have hstep : RwLock.step s' (.finish k) = some (s'.quit k sec') := by
        simp [RwLock.step, hinside]
      have hdrop : (s'.quit k sec').lock.line = before ++ (j, sec.mode) :: after := by
        show (s'.lock.leave k).line = _
        have hnodup := h.sound.nodup
        rw [hline, List.cons_append, List.map_cons, List.nodup_cons] at hnodup
        rw [State.line_leave, hlock, hline, List.cons_append, List.filter_cons_of_neg (by simp)]
        refine List.filter_eq_self.mpr fun w hw => decide_eq_true ?_
        rintro rfl
        exact hnodup.1 (List.mem_map.mpr ⟨w, hw, rfl⟩)
      have hwaits : (s'.quit k sec').tasks[j]? = some ⟨sec, .waiting⟩ := by
        rw [← htask, ← hothers j (by omega)]
        exact List.getElem?_set_ne (by omega)
      have hown : Ahead j (.finish k : Action D) := hkj
      have hrest := (ih (hinv.step hstep) hdrop hwaits).cons hown hstep
      rcases hreach with rfl | henter
      · exact hrest
      · exact hrest.cons (a := .enter k) (Nat.le_of_lt hkj) henter

/-- Whoever waits gets in, if those before it do and are done. -/
theorem Inv.can_enter {s : System D} (h : Inv s) {j : Nat} {sec : Section D}
    (htask : s.tasks[j]? = some ⟨sec, .waiting⟩) :
    Lts.Can RwLock.step (Ahead j) (Entered j sec) s := by
  have hmem : (j, sec.mode) ∈ s.lock.line :=
    (h.mem_line j sec.mode).mpr ((System.inLine_iff htask).mpr ⟨rfl, by simp⟩)
  obtain ⟨before, after, hline⟩ := List.append_of_mem hmem
  exact h.can_enter_of_line hline htask

end Sections

/-! ## Calls -/

/-- Calls that take the lock: which of them write, and what they do. -/
structure Calls (C D : Type*) where
  writes : C → Bool
  change : C → D → D

namespace Calls

variable {C D : Type*} (calls : Calls C D)

def sec (c : C) : Section D where
  mode := if calls.writes c then .write else .read
  effect := calls.change c

def request (c : C) : Action D := .request (calls.sec c)

/-- The call has the lock, and found the data like this. -/
def InFlight (s : System D) (i : Nat) (c : C) (seen : D) : Prop :=
  s.tasks[i]? = some ⟨calls.sec c, .inside seen⟩

def Waits (s : System D) (i : Nat) (c : C) : Prop :=
  s.tasks[i]? = some ⟨calls.sec c, .waiting⟩

variable {calls}

theorem mode_sec_eq_read {c : C} : (calls.sec c).mode = .read ↔ calls.writes c = false := by
  unfold sec
  cases calls.writes c <;> simp

theorem mode_sec_eq_write {c : C} : (calls.sec c).mode = .write ↔ calls.writes c = true := by
  unfold sec
  cases calls.writes c <;> simp

section Runs

variable {data : D} {before : List (Action D)} {s : System D} {i j : Nat} {c writer : C} {seen : D}
  (hreach : Lts.run RwLock.step { data := data } before = some s)

include hreach

theorem inv_of_run : Inv s :=
  Lts.along_of_inv (fun _ _ _ => Inv.step) (inv_init data) before s (List.prefix_refl _) hreach

/-- A call that writes is in flight alone. -/
theorem alone_of_writes (hflight : calls.InFlight s i c seen) (hwrites : calls.writes c = true)
    {c' : C} {seen' : D} (hj : calls.InFlight s j c' seen') : j = i := by
  by_contra hne
  have hread := (((inv_of_run hreach).undisturbed hflight).alone j _ seen' hj hne).1
  rw [mode_sec_eq_read, hwrites] at hread
  cases hread

/-- While a call that reads is in flight and does not end, and one that
writes waits behind it, the data stay as they are and no call made since
then starts. -/
theorem stalled_along (hflight : calls.InFlight s i c seen) (hreads : calls.writes c = false)
    (hwaits : calls.Waits s j writer) (hwrites : calls.writes writer = true) (hlt : i < j)
    {as : List (Action D)} (hpersist : Lts.Guarded RwLock.step (Persist i j) s as) :
    Lts.Along RwLock.step (fun t => t.data = seen ∧
      ∀ k, j ≤ k → ∀ later seen', ¬ calls.InFlight t k later seen') s as := by
  refine ((inv_of_run hreach).kept_out_along hflight (mode_sec_eq_read.mpr hreads) hwaits
    (mode_sec_eq_write.mpr hwrites) hlt hpersist).mono ?_
  rintro t ⟨hdata, hout⟩
  exact ⟨hdata, fun k hk later seen' => hout k hk (calls.sec later) seen'⟩

/-- A call that waits gets in if the ones before it start and end. -/
theorem can_enter (hwaits : calls.Waits s j c) :
    Lts.Can RwLock.step (Ahead j) (fun t => ∃ found, t.data = (calls.sec c).run found) s :=
  ((inv_of_run hreach).can_enter hwaits).mono fun _ ht => ht.data

end Runs

end Calls

end RwLock
