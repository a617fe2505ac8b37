import Mathlib.Data.List.Basic

/-!
# A cache with expiry against the log of its insertions

A cache maps keys to the time of their insertion and may forget entries
once they have reached the age `ttl`. `Tracks` relates it to the log of
all insertions: what is cached was logged, and what was logged less than
`ttl` ago is cached, possibly under a later insertion of the same key.
The rules are one for each thing that happens to such a cache (time
passes, an insertion, a clean-up), and `Tracks.fresh_iff` is what the
relation is for: a look-up that honours the age answers for the log.
-/

namespace TtlLog

variable {κ : Type*} {ttl : Nat} {m m' : κ → Option Nat} {log : List (κ × Nat)}
  {now now' : Nat}

structure Tracks (ttl : Nat) (m : κ → Option Nat) (log : List (κ × Nat)) (now : Nat) :
    Prop where
  sound : ∀ {k t}, m k = some t → (k, t) ∈ log
  past : ∀ {k t}, (k, t) ∈ log → t ≤ now
  complete : ∀ {k t}, (k, t) ∈ log → now - t < ttl → ∃ t', m k = some t' ∧ t ≤ t'

theorem Tracks.nil (h : ∀ k, m k = none) : Tracks ttl m [] now where
  sound := fun {k _} hm => absurd (h k ▸ hm) (by simp)
  past := fun hmem => by cases hmem
  complete := fun hmem => by cases hmem

theorem Tracks.later (h : Tracks ttl m log now) (hle : now ≤ now') :
    Tracks ttl m log now' where
  sound := h.sound
  past := fun hmem => Nat.le_trans (h.past hmem) hle
  complete := fun hmem hfresh => h.complete hmem (by omega)

theorem Tracks.insert (h : Tracks ttl m log now) {k : κ} (hk : m' k = some now)
    (hne : ∀ {j}, j ≠ k → m' j = m j) : Tracks ttl m' ((k, now) :: log) now where
  sound := by
    intro j t hj
    by_cases hjk : j = k
    · subst hjk
      rw [hk] at hj
      rw [Option.some.inj hj]
      exact List.mem_cons_self
    · exact List.mem_cons_of_mem _ (h.sound (hne hjk ▸ hj))
  past := by
    intro j t hmem
    rcases List.mem_cons.mp hmem with heq | hmem
    · exact Nat.le_of_eq (Prod.mk.inj heq).2
    · exact h.past hmem
  complete := by
    intro j t hmem hfresh
    by_cases hjk : j = k
    · subst hjk
      refine ⟨now, hk, ?_⟩
      rcases List.mem_cons.mp hmem with heq | hmem
      · exact Nat.le_of_eq (Prod.mk.inj heq).2
      · exact h.past hmem
    · rcases List.mem_cons.mp hmem with heq | hmem
      · exact absurd (Prod.mk.inj heq).1 hjk
      · rw [hne hjk]
        exact h.complete hmem hfresh

/-- A clean-up may drop what has expired. -/
theorem Tracks.retain (h : Tracks ttl m log now)
    (hsub : ∀ {k t}, m' k = some t → m k = some t)
    (hkeep : ∀ {k t}, m k = some t → now - t < ttl → m' k = some t) :
    Tracks ttl m' log now where
  sound := fun hm => h.sound (hsub hm)
  past := h.past
  complete := by
    intro k t hmem hfresh
    obtain ⟨t', hm, hle⟩ := h.complete hmem hfresh
    exact ⟨t', hkeep hm (by omega), hle⟩

/-- A key is cached and fresh exactly when it was logged within the last
`ttl`. -/
theorem Tracks.fresh_iff (h : Tracks ttl m log now) {k : κ} :
    (∃ t, m k = some t ∧ now - t < ttl) ↔ ∃ t, (k, t) ∈ log ∧ now - t < ttl := by
  constructor
  · rintro ⟨t, hm, hfresh⟩
    exact ⟨t, h.sound hm, hfresh⟩
  · rintro ⟨t, hmem, hfresh⟩
    obtain ⟨t', hm, hle⟩ := h.complete hmem hfresh
    exact ⟨t', hm, by omega⟩

end TtlLog
