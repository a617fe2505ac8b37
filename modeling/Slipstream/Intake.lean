import Mathlib.Data.List.Infix

/-!
# Loops that take items off a queue

A receive loop takes one item after the other and either goes on with
new locals or is left. `drain` runs such a loop over the items that
arrive: it is still `waiting` when they are used up, or was `left` with
some of them not taken.

Three questions about such loops are answered here once. What items the
loop passes over do not matter (`drain_filter`), so that two queues that
agree on the others give the same outcome (`drain_congr`). A loop that
was left took a last item (`drain_eq_left_nil`). And a local that an
item either overwrites or leaves alone ends as the last thing written
(`val_drain`), which is the last thing reported unless something blank
was written over a report (`bind_getLast?_eq_iff`).
-/

namespace Intake

/-- One round of a loop: it goes on, or it is left. -/
inductive Round (σ : Type*) where
  | again (s : σ)
  | left (s : σ)

inductive Outcome (σ α : Type*) where
  | waiting (s : σ)
  | left (s : σ) (rest : List α)

variable {σ α β : Type*}

def Round.state : Round σ → σ
  | .again s => s
  | .left s => s

namespace Outcome

def state : Outcome σ α → σ
  | .waiting s => s
  | .left s _ => s

/-- The items not taken. -/
def rest : Outcome σ α → List α
  | .waiting _ => []
  | .left _ rest => rest

def mapRest (f : List α → List α) : Outcome σ α → Outcome σ α
  | .waiting s => .waiting s
  | .left s rest => .left s (f rest)

end Outcome

section Drain

variable (round : σ → α → Round σ)

def drain : σ → List α → Outcome σ α
  | s, [] => .waiting s
  | s, a :: as =>
      match round s a with
      | .again t => drain t as
      | .left t => .left t as

variable {round} {s t : σ} {a : α} {as : List α}

theorem drain_cons_again (h : round s a = .again t) (as : List α) :
    drain round s (a :: as) = drain round t as := by
  rw [drain, h]

theorem drain_cons_left (h : round s a = .left t) (as : List α) :
    drain round s (a :: as) = .left t as := by
  rw [drain, h]

/-- A loop that was left with nothing over took its last item last. -/
theorem drain_eq_left_nil : ∀ {as : List α} {s : σ}, drain round s as = .left t [] →
    ∃ bs a u, as = bs ++ [a] ∧ drain round s bs = .waiting u ∧ round u a = .left t
  | [], s, h => by cases h
  | a :: as, s, h => by
      cases hround : round s a with
      | again u =>
          rw [drain_cons_again hround] at h
          obtain ⟨bs, b, v, rfl, hbs, hv⟩ := drain_eq_left_nil h
          exact ⟨a :: bs, b, v, rfl, (drain_cons_again hround bs).trans hbs, hv⟩
      | left u =>
          rw [drain_cons_left hround] at h
          obtain ⟨rfl, rfl⟩ := Outcome.left.inj h
          exact ⟨[], a, s, rfl, rfl, hround⟩

/-- What was not taken is the end of the queue, and has no part in the
outcome. -/
theorem drain_eq_left : ∀ {as rest : List α} {s : σ}, drain round s as = .left t rest →
    ∃ used, as = used ++ rest ∧ drain round s used = .left t []
  | [], rest, s, h => by cases h
  | a :: as, rest, s, h => by
      cases hround : round s a with
      | again u =>
          rw [drain_cons_again hround] at h
          obtain ⟨used, rfl, hused⟩ := drain_eq_left h
          exact ⟨a :: used, rfl, (drain_cons_again hround used).trans hused⟩
      | left u =>
          rw [drain_cons_left hround] at h
          obtain ⟨rfl, rfl⟩ := Outcome.left.inj h
          exact ⟨[a], rfl, drain_cons_left hround []⟩

/-! ## Invariants -/

variable (Inv : σ → Prop)

/-- What every round that goes on keeps holds of a loop that waits. -/
theorem inv_waiting (hinv : ∀ {s a t}, Inv s → round s a = .again t → Inv t) (hs : Inv s)
    (h : drain round s as = .waiting t) : Inv t := by
  induction as generalizing s with
  | nil =>
      obtain rfl := Outcome.waiting.inj h
      exact hs
  | cons a as ih =>
      cases hround : round s a with
      | again u =>
          rw [drain_cons_again hround] at h
          exact ih (hinv hs hround) h
      | left u =>
          rw [drain_cons_left hround] at h
          cases h

/-- Every item a loop that waits has taken let it go on. -/
theorem again_of_waiting (hinv : ∀ {s a t}, Inv s → round s a = .again t → Inv t)
    (hs : Inv s) (h : drain round s as = .waiting t) :
    ∀ a ∈ as, ∃ u v, Inv u ∧ round u a = .again v := by
  induction as generalizing s with
  | nil => intro a ha; cases ha
  | cons b as ih =>
      intro a ha
      cases hround : round s b with
      | again u =>
          rw [drain_cons_again hround] at h
          rcases List.mem_cons.mp ha with rfl | ha
          · exact ⟨s, u, hs, hround⟩
          · exact ih (hinv hs hround) h a ha
      | left u =>
          rw [drain_cons_left hround] at h
          cases h

/-! ## Items that are passed over -/

section Passed

variable (hinv : ∀ {s a}, Inv s → Inv (round s a).state) {p : α → Bool}
  (hpass : ∀ {s a}, Inv s → p a = false → round s a = .again s)

include hinv hpass

theorem drain_filter (hs : Inv s) :
    drain round s (as.filter p) = (drain round s as).mapRest fun rest => rest.filter p := by
  induction as generalizing s with
  | nil => rfl
  | cons a as ih =>
      cases hp : p a with
      | false =>
          rw [List.filter_cons_of_neg (by simp [hp]), drain_cons_again (hpass hs hp)]
          exact ih hs
      | true =>
          rw [List.filter_cons_of_pos hp]
          have hnext := hinv (a := a) hs
          cases hround : round s a with
          | again u =>
              rw [hround] at hnext
              rw [drain_cons_again hround, drain_cons_again hround]
              exact ih hnext
          | left u =>
              rw [drain_cons_left hround, drain_cons_left hround]
              rfl

/-- Queues that agree on what is not passed over give the same outcome. -/
theorem drain_congr {bs : List α} (hs : Inv s) (h : as.filter p = bs.filter p) :
    (drain round s as).mapRest (fun rest => rest.filter p)
      = (drain round s bs).mapRest fun rest => rest.filter p := by
  rw [← drain_filter Inv hinv hpass hs, ← drain_filter Inv hinv hpass hs, h]

end Passed

/-! ## What a local remembers -/

/-- A local that each round overwrites or leaves alone ends as the last
thing written to it. -/
theorem val_drain (val : σ → β) (write : α → Option β)
    (hinv : ∀ {s a}, Inv s → Inv (round s a).state)
    (hval : ∀ {s a}, Inv s → val (round s a).state = (write a).getD (val s))
    (hs : Inv s) (hrest : (drain round s as).rest = []) :
    val (drain round s as).state = (as.filterMap write).getLast?.getD (val s) := by
  induction as generalizing s with
  | nil => rfl
  | cons a as ih =>
      have hnext := hinv (a := a) hs
      have hwrite := hval (a := a) hs
      have hcons : ((a :: as).filterMap write).getLast?.getD (val s)
          = (as.filterMap write).getLast?.getD ((write a).getD (val s)) := by
        cases hw : write a with
        | none => rw [List.filterMap_cons_none hw]; rfl
        | some b =>
            rw [List.filterMap_cons_some hw, List.getLast?_cons]
            rfl
      rw [hcons, ← hwrite]
      cases hround : round s a with
      | again u =>
          rw [drain_cons_again hround] at hrest ⊢
          rw [hround] at hnext
          exact ih hnext hrest
      | left u =>
          rw [drain_cons_left hround] at hrest ⊢
          rw [show as = [] from hrest]
          rfl

end Drain

/-! ## The last thing written and the last thing reported -/

section Reports

variable {γ : Type*} (write : α → Option β) (emb : β → Option γ)

/-- What an item reports: a value written that is not blank. -/
def report (a : α) : Option γ := (write a).bind emb

/-- The item writes a blank value. -/
def Blank (a : α) : Prop := ∃ b, write a = some b ∧ emb b = none

/-- No blank value is written over a report and left standing. -/
def Unblanked (as : List α) : Prop :=
  ∀ pre a post, as = pre ++ a :: post → Blank write emb a →
    (∃ x ∈ pre, report write emb x ≠ none) → ∃ x ∈ post, report write emb x ≠ none

variable {write emb}

theorem getLast?_filterMap_eq_none {f : α → Option γ} {as : List α} :
    (as.filterMap f).getLast? = none ↔ ∀ x ∈ as, f x = none := by
  rw [List.getLast?_eq_none_iff, List.filterMap_eq_nil_iff]

theorem getLast?_filterMap_concat {f : α → Option γ} (as : List α) (a : α) :
    ((as ++ [a]).filterMap f).getLast? = (f a).or (as.filterMap f).getLast? := by
  rw [List.filterMap_append, List.getLast?_append]
  cases h : f a with
  | none => simp [h]
  | some c => simp [h]

/-- A split of a list with one item more is at that item or before it. -/
theorem concat_eq_append_cons {as pre post : List α} {a b : α} :
    as ++ [b] = pre ++ a :: post
      ↔ (post = [] ∧ as = pre ∧ b = a) ∨ ∃ post', post = post' ++ [b] ∧ as = pre ++ a :: post' := by
  constructor
  · intro h
    rcases List.eq_nil_or_concat post with rfl | ⟨post', c, rfl⟩
    · obtain ⟨rfl, hab⟩ := List.append_inj' h rfl
      exact .inl ⟨rfl, rfl, (List.cons.inj hab).1⟩
    · rw [List.concat_eq_append, ← List.cons_append, ← List.append_assoc] at h
      obtain ⟨rfl, hbc⟩ := List.append_inj' h rfl
      obtain ⟨rfl, -⟩ := List.cons.inj hbc
      exact .inr ⟨post', List.concat_eq_append .., rfl⟩
  · rintro (⟨rfl, rfl, rfl⟩ | ⟨post', rfl, rfl⟩)
    · rfl
    · simp

/-- After an item that writes nothing, nothing has changed. -/
theorem unblanked_concat_of_write_none {as : List α} {b : α} (h : write b = none) :
    Unblanked write emb (as ++ [b]) ↔ Unblanked write emb as := by
  have hb : report write emb b = none := by rw [report, h]; rfl
  constructor
  · intro hun pre a post heq hblank hpre
    obtain ⟨x, hx, hrep⟩ := hun pre a (post ++ [b]) (by rw [heq]; simp) hblank hpre
    rcases List.mem_append.mp hx with hx | hx
    · exact ⟨x, hx, hrep⟩
    · rw [List.mem_singleton.mp hx] at hrep
      exact absurd hb hrep
  · intro hun pre a post heq hblank hpre
    rcases concat_eq_append_cons.mp heq with ⟨-, -, rfl⟩ | ⟨post', rfl, hpost⟩
    · obtain ⟨c, hc, -⟩ := hblank
      rw [h] at hc
      cases hc
    · obtain ⟨x, hx, hrep⟩ := hun pre a post' hpost hblank hpre
      exact ⟨x, List.mem_append_left _ hx, hrep⟩

/-- A report makes up for every blank before it. -/
theorem unblanked_concat_of_report {as : List α} {b : α} (h : report write emb b ≠ none) :
    Unblanked write emb (as ++ [b]) := by
  intro pre a post heq hblank _
  rcases concat_eq_append_cons.mp heq with ⟨-, -, rfl⟩ | ⟨post', rfl, -⟩
  · obtain ⟨c, hc, hemb⟩ := hblank
    rw [report, hc] at h
    exact absurd hemb h
  · exact ⟨b, by simp, h⟩

/-- A blank value at the end is harmless where nothing was reported. -/
theorem unblanked_concat_of_blank {as : List α} {b : α} (h : Blank write emb b) :
    Unblanked write emb (as ++ [b]) ↔ ∀ x ∈ as, report write emb x = none := by
  constructor
  · intro hun
    by_contra hex
    push Not at hex
    obtain ⟨x, hx, -⟩ := hun as b [] rfl h hex
    cases hx
  · intro hnone pre a post heq _ hpre
    obtain ⟨x, hx, hrep⟩ := hpre
    refine absurd (hnone x ?_) hrep
    rcases concat_eq_append_cons.mp heq with ⟨-, rfl, -⟩ | ⟨post', -, rfl⟩
    · exact hx
    · exact List.mem_append_left _ hx

/-- The last thing written is the last thing reported exactly when no
report was blanked. -/
theorem bind_getLast?_eq_iff (as : List α) :
    (as.filterMap write).getLast?.bind emb = (as.filterMap (report write emb)).getLast?
      ↔ Unblanked write emb as := by
  induction as using List.reverseRecOn with
  | nil =>
      refine iff_of_true rfl fun pre a post heq => ?_
      simp at heq
  | append_singleton as b ih =>
      rw [getLast?_filterMap_concat, getLast?_filterMap_concat]
      cases hw : write b with
      | none =>
          have hb : report write emb b = none := by rw [report, hw]; rfl
          rw [unblanked_concat_of_write_none hw, hb, Option.none_or, Option.none_or, ih]
      | some c =>
          rw [Option.some_or, Option.bind_some]
          cases hc : emb c with
          | none =>
              have hb : report write emb b = none := by rw [report, hw]; exact hc
              rw [unblanked_concat_of_blank ⟨c, hw, hc⟩, hb, Option.none_or, eq_comm,
                getLast?_filterMap_eq_none]
          | some d =>
              have hb : report write emb b = some d := by rw [report, hw]; exact hc
              refine iff_of_true ?_ (unblanked_concat_of_report (by rw [hb]; simp))
              rw [hb, Option.some_or]

end Reports

end Intake
