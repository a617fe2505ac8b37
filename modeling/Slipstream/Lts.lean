import Mathlib.Data.List.Infix

/-!
# Labelled runs

A system is a partial step function `σ → α → Option σ`: the label picks
the task that moves and whatever the environment decides, and the step
is `none` where the label is not enabled. Nothing here depends on what
the states are.

Two readings of a run carry the developments that use this file. `run`
executes a list of labels; `Along P` says that `P` holds in every state
such an execution visits, and `Guarded C` that every step it takes
satisfies a condition `C` on the state before the step. The rule
`along_iff_guarded` turns a one-step equivalence into the statement for
whole runs: if (under an invariant) a step keeps `P` exactly when it
meets `C`, then a run keeps `P` exactly when all its steps meet `C`.

`Can Own P` is about progress: a state with `P` is reached by some of
the labels, those of `Own`. It is shown by giving the steps, and refuted
by a set of states that these labels do not leave (`not_can_of_inv`).
-/

namespace Lts

section Runs

variable {σ α : Type*} (step : σ → α → Option σ)

/-- Fire the labels in order; `none` as soon as one is not enabled. -/
def run : σ → List α → Option σ
  | s, [] => some s
  | s, a :: as => (step s a).bind fun t => run t as

/-- `P` holds in every state visited by firing `as` from `s`. -/
def Along (P : σ → Prop) (s : σ) (as : List α) : Prop :=
  ∀ bs t, bs <+: as → run step s bs = some t → P t

/-- Every step taken while firing `as` from `s` satisfies `C` in the
state before it. -/
def Guarded (C : σ → α → Prop) (s : σ) (as : List α) : Prop :=
  ∀ bs a t u, bs ++ [a] <+: as → run step s bs = some t →
    step t a = some u → C t a

variable {step}

@[simp] theorem run_nil (s : σ) : run step s [] = some s := rfl

theorem run_cons (s : σ) (a : α) (as : List α) :
    run step s (a :: as) = (step s a).bind fun t => run step t as := rfl

theorem run_cons_eq_some {s u : σ} {a : α} {as : List α} :
    run step s (a :: as) = some u
      ↔ ∃ t, step s a = some t ∧ run step t as = some u := by
  rw [run_cons, Option.bind_eq_some_iff]

theorem run_append_eq_some {as bs : List α} : ∀ {s u : σ},
    run step s (as ++ bs) = some u
      ↔ ∃ t, run step s as = some t ∧ run step t bs = some u := by
  induction as with
  | nil => intro s u; simp
  | cons a as ih =>
      intro s u
      simp only [List.cons_append, run_cons_eq_some, ih]
      constructor
      · rintro ⟨t, ht, v, hv, hu⟩
        exact ⟨v, ⟨t, ht, hv⟩, hu⟩
      · rintro ⟨v, ⟨t, ht, hv⟩, hu⟩
        exact ⟨t, ht, v, hv, hu⟩

/-! ## Runs whose steps all meet a condition -/

theorem along_nil {P : σ → Prop} {s : σ} : Along step P s [] ↔ P s := by
  constructor
  · intro h
    exact h [] s (List.prefix_refl _) rfl
  · intro h bs t hpre hrun
    obtain rfl := List.prefix_nil.mp hpre
    obtain rfl := Option.some.inj hrun
    exact h

theorem along_cons {P : σ → Prop} {s : σ} {a : α} {as : List α} :
    Along step P s (a :: as)
      ↔ P s ∧ ∀ t, step s a = some t → Along step P t as := by
  constructor
  · intro h
    refine ⟨h [] s (List.nil_prefix ..) rfl, fun t ht bs u hpre hrun => ?_⟩
    exact h (a :: bs) u (List.cons_prefix_cons.mpr ⟨rfl, hpre⟩)
      (run_cons_eq_some.mpr ⟨t, ht, hrun⟩)
  · rintro ⟨hs, htail⟩ bs u hpre hrun
    cases bs with
    | nil =>
        obtain rfl := Option.some.inj hrun
        exact hs
    | cons b bs =>
        obtain ⟨rfl, hpre'⟩ := List.cons_prefix_cons.mp hpre
        obtain ⟨t, ht, hu⟩ := run_cons_eq_some.mp hrun
        exact htail t ht bs u hpre' hu

theorem Along.mono {P Q : σ → Prop} {s : σ} {as : List α} (h : Along step P s as)
    (hpq : ∀ t, P t → Q t) : Along step Q s as :=
  fun bs t hpre hrun => hpq t (h bs t hpre hrun)

theorem guarded_nil {C : σ → α → Prop} {s : σ} : Guarded step C s [] := by
  intro bs a t u hpre
  simp at hpre

theorem guarded_cons {C : σ → α → Prop} {s : σ} {a : α} {as : List α} :
    Guarded step C s (a :: as)
      ↔ ∀ t, step s a = some t → C s a ∧ Guarded step C t as := by
  constructor
  · intro h t ht
    refine ⟨h [] a s t (by simp) rfl ht, fun bs b v w hpre hrun hvw => ?_⟩
    exact h (a :: bs) b v w (List.cons_prefix_cons.mpr ⟨rfl, hpre⟩)
      (run_cons_eq_some.mpr ⟨t, ht, hrun⟩) hvw
  · intro h bs b v w hpre hrun hvw
    cases bs with
    | nil =>
        obtain rfl := Option.some.inj hrun
        obtain ⟨rfl, -⟩ := List.cons_prefix_cons.mp hpre
        exact (h w hvw).1
    | cons b' bs =>
        obtain ⟨rfl, hpre'⟩ := List.cons_prefix_cons.mp hpre
        obtain ⟨t, ht, hv⟩ := run_cons_eq_some.mp hrun
        exact (h t ht).2 bs b v w hpre' hv hvw

theorem guarded_and {C D : σ → α → Prop} {s : σ} {as : List α} :
    Guarded step (fun s a => C s a ∧ D s a) s as
      ↔ Guarded step C s as ∧ Guarded step D s as := by
  constructor
  · intro h
    exact ⟨fun bs a t u hpre hrun hstep => (h bs a t u hpre hrun hstep).1,
      fun bs a t u hpre hrun hstep => (h bs a t u hpre hrun hstep).2⟩
  · rintro ⟨hc, hd⟩ bs a t u hpre hrun hstep
    exact ⟨hc bs a t u hpre hrun hstep, hd bs a t u hpre hrun hstep⟩

/-- A condition that an invariant implies guards every run. -/
theorem guarded_of_inv {Inv : σ → Prop} {C : σ → α → Prop}
    (hinv : ∀ s a t, Inv s → step s a = some t → Inv t)
    (hguard : ∀ s a t, Inv s → step s a = some t → C s a) :
    ∀ {as : List α} {s : σ}, Inv s → Guarded step C s as := by
  intro as
  induction as with
  | nil => intro s _; exact guarded_nil
  | cons a as ih =>
      intro s hs
      exact guarded_cons.mpr fun t ht => ⟨hguard s a t hs ht, ih (hinv s a t hs ht)⟩

/-- A property that guarded steps preserve holds in every state a
guarded run visits. -/
theorem along_of_guarded {Inv P : σ → Prop} {C : σ → α → Prop}
    (hinv : ∀ s a t, Inv s → step s a = some t → Inv t)
    (hkeep : ∀ s a t, Inv s → P s → step s a = some t → C s a → P t) :
    ∀ {as : List α} {s : σ}, Inv s → P s → Guarded step C s as →
      Along step P s as := by
  intro as
  induction as with
  | nil => intro s _ hp _; exact along_nil.mpr hp
  | cons a as ih =>
      intro s hs hp hg
      refine along_cons.mpr ⟨hp, fun t ht => ?_⟩
      obtain ⟨hc, hg'⟩ := guarded_cons.mp hg t ht
      exact ih (hinv s a t hs ht) (hkeep s a t hs hp ht hc) hg'

theorem along_of_inv {Inv : σ → Prop}
    (hinv : ∀ s a t, Inv s → step s a = some t → Inv t) {as : List α} {s : σ} (hs : Inv s) :
    Along step Inv s as :=
  along_of_guarded (C := fun _ _ => True) hinv (fun s a t hs _ ht _ => hinv s a t hs ht) hs hs
    fun _ _ _ _ _ _ _ => trivial

/-- The run rule: where a step keeps `P` exactly when it meets `C`, a
run keeps `P` in every state exactly when every step meets `C`. -/
theorem along_iff_guarded {Inv P : σ → Prop} {C : σ → α → Prop}
    (hinv : ∀ s a t, Inv s → step s a = some t → Inv t)
    (hlocal : ∀ s a t, Inv s → P s → step s a = some t → (P t ↔ C s a))
    {as : List α} {s : σ} (hs : Inv s) (hp : P s) :
    Along step P s as ↔ Guarded step C s as := by
  constructor
  · intro h
    induction as generalizing s with
    | nil => exact guarded_nil
    | cons a as ih =>
        refine guarded_cons.mpr fun t ht => ?_
        obtain ⟨-, htail⟩ := along_cons.mp h
        have hpt : P t := htail t ht [] t (List.nil_prefix ..) rfl
        exact ⟨(hlocal s a t hs hp ht).mp hpt,
          ih (hinv s a t hs ht) hpt (htail t ht)⟩
  · exact along_of_guarded hinv
      (fun s a t hs hp ht hc => (hlocal s a t hs hp ht).mpr hc) hs hp

/-! ## What some labels can reach -/

variable (step) in
/-- Firing labels of `Own` only, a state with `P` can be reached. -/
def Can (Own : α → Prop) (P : σ → Prop) (s : σ) : Prop :=
  ∃ as t, (∀ a ∈ as, Own a) ∧ run step s as = some t ∧ P t

theorem Can.here {Own : α → Prop} {P : σ → Prop} {s : σ} (h : P s) : Can step Own P s :=
  ⟨[], s, List.forall_mem_nil _, rfl, h⟩

theorem Can.cons {Own : α → Prop} {P : σ → Prop} {s t : σ} {a : α} (ha : Own a)
    (hstep : step s a = some t) (h : Can step Own P t) : Can step Own P s := by
  obtain ⟨as, u, has, hrun, hu⟩ := h
  exact ⟨a :: as, u, List.forall_mem_cons.mpr ⟨ha, has⟩,
    run_cons_eq_some.mpr ⟨t, hstep, hrun⟩, hu⟩

theorem Can.mono {Own : α → Prop} {P Q : σ → Prop} {s : σ} (h : Can step Own P s)
    (hpq : ∀ t, P t → Q t) : Can step Own Q s := by
  obtain ⟨as, t, has, hrun, ht⟩ := h
  exact ⟨as, t, has, hrun, hpq t ht⟩

/-- What a part can reach the whole can reach, if the whole can follow each
of its steps. -/
theorem Can.simulate {τ β : Type*} {step' : τ → β → Option τ} {R : σ → τ → Prop}
    {Own : α → Prop} {Own' : β → Prop} {P : σ → Prop}
    (hfollow : ∀ s x a t, R s x → Own a → step s a = some t →
      ∃ b y, Own' b ∧ step' x b = some y ∧ R t y)
    {s : σ} {x : τ} (hR : R s x) (h : Can step Own P s) :
    Can step' Own' (fun y => ∃ t, R t y ∧ P t) x := by
  obtain ⟨as, u, has, hrun, hu⟩ := h
  induction as generalizing s x with
  | nil =>
      obtain rfl := Option.some.inj hrun
      exact .here ⟨s, hR, hu⟩
  | cons a as ih =>
      obtain ⟨ha, has'⟩ := List.forall_mem_cons.mp has
      obtain ⟨t, hstep, hrun'⟩ := run_cons_eq_some.mp hrun
      obtain ⟨b, y, hb, hstep', hR'⟩ := hfollow s x a t hR ha hstep
      exact (ih hR' has' hrun').cons hb hstep'

/-- A set of states that the labels do not leave, and in which `P` does
not hold. -/
theorem not_can_of_inv {Own : α → Prop} {Inv P : σ → Prop}
    (hinv : ∀ s a t, Inv s → Own a → step s a = some t → Inv t) (hnot : ∀ s, Inv s → ¬ P s)
    {s : σ} (hs : Inv s) : ¬ Can step Own P s := by
  rintro ⟨as, u, has, hrun, hu⟩
  induction as generalizing s with
  | nil =>
      obtain rfl := Option.some.inj hrun
      exact hnot _ hs hu
  | cons a as ih =>
      obtain ⟨ha, has'⟩ := List.forall_mem_cons.mp has
      obtain ⟨t, hstep, hrun'⟩ := run_cons_eq_some.mp hrun
      exact ih (hinv s a t hs ha hstep) has' hrun'

/-! ## Histories -/

/-- The system together with a record of its run. -/
def recorded {η : Type*} (step : σ → α → Option σ) (record : σ → α → η → η) :
    η × σ → α → Option (η × σ)
  | (h, s), a => (step s a).map fun t => (record s a h, t)

/-- The record takes no part in the run. -/
theorem run_recorded {η : Type*} {record : σ → α → η → η} (as : List α) (h : η) (s : σ) :
    (run (recorded step record) (h, s) as).map Prod.snd = run step s as := by
  induction as generalizing h s with
  | nil => rfl
  | cons a as ih =>
      rw [run_cons, run_cons, recorded]
      cases step s a with
      | none => rfl
      | some t => exact ih (record s a h) t

/-! ## Deciding a given run -/

theorem guarded_cons_iff_match {C : σ → α → Prop} {s : σ} {a : α} {as : List α} :
    (match step s a with
      | none => True
      | some t => C s a ∧ Guarded step C t as)
      ↔ Guarded step C s (a :: as) := by
  rw [guarded_cons]
  cases step s a <;> simp

theorem along_cons_iff_match {P : σ → Prop} {s : σ} {a : α} {as : List α} :
    (P s ∧
      match step s a with
      | none => True
      | some t => Along step P t as)
      ↔ Along step P s (a :: as) := by
  rw [along_cons]
  cases step s a <;> simp

instance decidableGuarded {C : σ → α → Prop} [∀ s a, Decidable (C s a)] :
    ∀ (s : σ) (as : List α), Decidable (Guarded step C s as)
  | _, [] => isTrue guarded_nil
  | s, a :: as =>
      @decidable_of_iff _ _ guarded_cons_iff_match <|
        match step s a with
        | none => isTrue trivial
        | some t => @instDecidableAnd _ _ _ (decidableGuarded t as)

instance decidableAlong {P : σ → Prop} [DecidablePred P] :
    ∀ (s : σ) (as : List α), Decidable (Along step P s as)
  | _, [] => decidable_of_iff _ along_nil.symm
  | s, a :: as =>
      @decidable_of_iff _ _ along_cons_iff_match <|
        @instDecidableAnd _ _ _ <|
          match step s a with
          | none => isTrue trivial
          | some t => decidableAlong t as

end Runs

end Lts
