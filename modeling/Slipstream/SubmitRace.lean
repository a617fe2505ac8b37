import Slipstream.Dedup
import Slipstream.Lts

/-!
# Concurrent submissions on one client

`submit_transaction_with_options` checks the dedup cache, hands the
transaction to the transport, waits for the answer and records the bytes
after an Ok. Each of these is one step of the model, and the steps of
any number of calls interleave with each other and with the clock.

The check and the record are a network round trip apart, so a second
call with the same bytes passes the check while the first is under way.
`spaced_of_unshared` is what holds: as long as no call passes the check
while another with its bytes is unsettled (checked, sent, or accepted
within the ttl and not recorded yet), two accepted submissions of the
same bytes are at least 60 seconds apart.
-/

namespace Slipstream

namespace SubmitRace

/-! ## Calls and their steps -/

inductive Phase where
  | started
  | checked
  | sent
  /-- The transport answered Ok; the bytes are not recorded yet. -/
  | answered (answeredAt : Nat) (result : TransactionResult)
  | returned (result : Except SdkError TransactionResult)
deriving DecidableEq

structure Call where
  tx : TxBytes
  phase : Phase
deriving DecidableEq

/-- `accepted` and `recorded` are histories: the Ok answers of the
transport and the records made in the cache, newest first. -/
structure State where
  now : Nat
  cache : DedupCache := {}
  calls : List Call := []
  accepted : List (TxBytes × Nat) := []
  recorded : List (TxBytes × Nat) := []

inductive Action where
  | tick (d : Nat)
  | submit (tx : TxBytes)
  | check (i : Nat)
  | send (i : Nat)
  | answer (i : Nat) (result : Except SdkError TransactionResult)
  | record (i : Nat)

namespace State

def setPhase (s : State) (i : Nat) (tx : TxBytes) (phase : Phase) : State :=
  { s with calls := s.calls.set i ⟨tx, phase⟩ }

/-- The transport's Ok, with the time it arrived. -/
def accept (s : State) (tx : TxBytes) : State :=
  { s with accepted := (tx, s.now) :: s.accepted }

def record (s : State) (tx : TxBytes) : State :=
  { s with
    cache := s.cache.record s.now tx
    recorded := (tx, s.now) :: s.recorded }

end State

def step (s : State) : Action → Option State
  | .tick d => some { s with now := s.now + d }
  | .submit tx => some { s with calls := s.calls ++ [⟨tx, .started⟩] }
  | .check i =>
      match s.calls[i]? with
      | some ⟨tx, .started⟩ =>
          if s.cache.isDuplicate s.now tx then
            some (s.setPhase i tx (.returned (.error duplicateError)))
          else some (s.setPhase i tx .checked)
      | _ => none
  | .send i =>
      match s.calls[i]? with
      | some ⟨tx, .checked⟩ => some (s.setPhase i tx .sent)
      | _ => none
  | .answer i result =>
      match s.calls[i]? with
      | some ⟨tx, .sent⟩ =>
          match result with
          | .ok r => some ((s.accept tx).setPhase i tx (.answered s.now r))
          | .error e => some (s.setPhase i tx (.returned (.error e)))
      | _ => none
  | .record i =>
      match s.calls[i]? with
      | some ⟨tx, .answered _ r⟩ =>
          some ((s.record tx).setPhase i tx (.returned (.ok r)))
      | _ => none

/-- What each action can do, in one place. -/
inductive Step (s : State) : Action → State → Prop where
  | tick {d : Nat} : Step s (.tick d) { s with now := s.now + d }
  | submit {tx : TxBytes} :
      Step s (.submit tx) { s with calls := s.calls ++ [⟨tx, .started⟩] }
  | reject {i : Nat} {tx : TxBytes} (hi : s.calls[i]? = some ⟨tx, .started⟩)
      (hdup : s.cache.isDuplicate s.now tx = true) :
      Step s (.check i) (s.setPhase i tx (.returned (.error duplicateError)))
  | pass {i : Nat} {tx : TxBytes} (hi : s.calls[i]? = some ⟨tx, .started⟩)
      (hdup : s.cache.isDuplicate s.now tx = false) :
      Step s (.check i) (s.setPhase i tx .checked)
  | send {i : Nat} {tx : TxBytes} (hi : s.calls[i]? = some ⟨tx, .checked⟩) :
      Step s (.send i) (s.setPhase i tx .sent)
  | accept {i : Nat} {tx : TxBytes} {r : TransactionResult}
      (hi : s.calls[i]? = some ⟨tx, .sent⟩) :
      Step s (.answer i (.ok r)) ((s.accept tx).setPhase i tx (.answered s.now r))
  | fail {i : Nat} {tx : TxBytes} {e : SdkError} (hi : s.calls[i]? = some ⟨tx, .sent⟩) :
      Step s (.answer i (.error e)) (s.setPhase i tx (.returned (.error e)))
  | record {i : Nat} {tx : TxBytes} {answeredAt : Nat} {r : TransactionResult}
      (hi : s.calls[i]? = some ⟨tx, .answered answeredAt r⟩) :
      Step s (.record i) ((s.record tx).setPhase i tx (.returned (.ok r)))

theorem step_cases {s t : State} {a : Action} (h : step s a = some t) : Step s a t := by
  cases a with
  | tick d => exact Option.some.inj h ▸ .tick
  | submit tx => exact Option.some.inj h ▸ .submit
  | check i =>
      simp only [step] at h
      split at h
      · rename_i tx hi
        split at h
        · rename_i hdup
          exact Option.some.inj h ▸ .reject hi hdup
        · rename_i hdup
          exact Option.some.inj h ▸ .pass hi (Bool.not_eq_true _ ▸ hdup)
      · cases h
  | send i =>
      simp only [step] at h
      split at h
      · rename_i tx hi
        exact Option.some.inj h ▸ .send hi
      · cases h
  | answer i result =>
      simp only [step] at h
      split at h
      · rename_i tx hi
        cases result with
        | ok r => exact Option.some.inj h ▸ .accept hi
        | error e => exact Option.some.inj h ▸ .fail hi
      · cases h
  | record i =>
      simp only [step] at h
      split at h
      · rename_i tx answeredAt r hi
        exact Option.some.inj h ▸ .record hi
      · cases h

/-! ## The property and the condition -/

/-- Between the check and the transport's answer. -/
def Phase.inFlight : Phase → Bool
  | .checked => true
  | .sent => true
  | _ => false

/-- In flight, or accepted within the ttl and not recorded yet. -/
def Call.unsettled (now : Nat) (c : Call) : Bool :=
  match c.phase with
  | .answered answeredAt _ => decide (now - answeredAt < DedupCache.ttl)
  | phase => phase.inFlight

/-- Two Ok answers for the same bytes are at least the ttl apart. -/
def Spaced (s : State) : Prop :=
  s.accepted.Pairwise fun later earlier =>
    later.1 = earlier.1 → earlier.2 + DedupCache.ttl ≤ later.2

/-- No call with these bytes is unsettled. -/
def Settled (s : State) (tx : TxBytes) : Prop :=
  ∀ c ∈ s.calls, c.tx = tx → c.unsettled s.now = false

/-- A call passes the check only while no other call with its bytes is
unsettled. -/
def Unshared (s : State) : Action → Prop
  | .check i =>
      ∀ c ∈ s.calls[i]?, s.cache.isDuplicate s.now c.tx = false → Settled s c.tx
  | _ => True

/-! ## Reading a call after a step -/

theorem getElem?_setPhase {s : State} {i j : Nat} {tx : TxBytes} {phase : Phase} {c : Call}
    (h : (s.setPhase i tx phase).calls[j]? = some c) :
    (j = i ∧ c = ⟨tx, phase⟩) ∨ (j ≠ i ∧ s.calls[j]? = some c) := by
  by_cases hj : j = i
  · subst hj
    simp only [State.setPhase, List.getElem?_set_self'] at h
    cases hc : s.calls[j]? with
    | none => rw [hc] at h; cases h
    | some c' =>
        rw [hc] at h
        exact .inl ⟨rfl, (Option.some.inj h).symm⟩
  · simp only [State.setPhase, List.getElem?_set_ne (Ne.symm hj)] at h
    exact .inr ⟨hj, h⟩

theorem getElem?_setPhase_ne {s : State} {i j : Nat} {tx : TxBytes} {phase : Phase}
    (h : j ≠ i) : (s.setPhase i tx phase).calls[j]? = s.calls[j]? :=
  List.getElem?_set_ne (Ne.symm h)

theorem getElem?_append_started {s : State} {j : Nat} {tx : TxBytes} {c : Call}
    (h : (s.calls ++ [⟨tx, .started⟩])[j]? = some c) :
    s.calls[j]? = some c ∨ c = ⟨tx, .started⟩ := by
  rcases Nat.lt_or_ge j s.calls.length with hlt | hge
  · rw [List.getElem?_append_left hlt] at h
    exact .inl h
  · rw [List.getElem?_append_right hge] at h
    exact .inr (List.mem_singleton.mp (List.mem_of_getElem? h))

/-! ## The ledger: every accepted submission is recorded or about to be -/

structure Ledger (s : State) : Prop where
  tracks : TtlLog.Tracks DedupCache.ttl s.cache.at? s.recorded s.now
  past : ∀ {tx : TxBytes} {t : Nat}, (tx, t) ∈ s.accepted → t ≤ s.now
  covered : ∀ {tx : TxBytes} {t : Nat}, (tx, t) ∈ s.accepted →
    (∃ t' : Nat, (tx, t') ∈ s.recorded ∧ t ≤ t')
      ∨ ∃ (i : Nat) (r : TransactionResult), s.calls[i]? = some ⟨tx, .answered t r⟩
  logged : ∀ {i : Nat} {tx : TxBytes} {t : Nat} {r : TransactionResult},
    s.calls[i]? = some ⟨tx, .answered t r⟩ → (tx, t) ∈ s.accepted

/-- Moving a call that is not about to record loses no cover. -/
theorem Ledger.setPhase {s : State} (h : Ledger s) {i : Nat} {c : Call} {tx : TxBytes}
    {phase : Phase} (hi : s.calls[i]? = some c) (hc : ∀ t r, c.phase ≠ .answered t r)
    (hphase : ∀ t r, phase ≠ .answered t r) : Ledger (s.setPhase i tx phase) where
  tracks := h.tracks
  past := h.past
  covered := by
    intro tx' t hmem
    rcases h.covered hmem with hrec | ⟨j, r, hj⟩
    · exact .inl hrec
    · have hji : j ≠ i := by
        rintro rfl
        rw [hi] at hj
        exact hc t r (congrArg Call.phase (Option.some.inj hj))
      exact .inr ⟨j, r, by rw [getElem?_setPhase_ne hji]; exact hj⟩
  logged := by
    intro j tx' t r hj
    rcases getElem?_setPhase hj with ⟨-, heq⟩ | ⟨-, hj⟩
    · exact absurd (congrArg Call.phase heq).symm (hphase t r)
    · exact h.logged hj

theorem Ledger.submit {s : State} (h : Ledger s) (tx : TxBytes) :
    Ledger { s with calls := s.calls ++ [⟨tx, .started⟩] } where
  tracks := h.tracks
  past := h.past
  covered := by
    intro tx' t hmem
    rcases h.covered hmem with hrec | ⟨j, r, hj⟩
    · exact .inl hrec
    · have hlt : j < s.calls.length := (List.getElem?_eq_some_iff.mp hj).1
      exact .inr ⟨j, r, by rw [List.getElem?_append_left hlt]; exact hj⟩
  logged := by
    intro j tx' t r hj
    rcases getElem?_append_started hj with hj | heq
    · exact h.logged hj
    · cases heq

/-- An Ok enters the history; the call that has it is its cover. -/
theorem Ledger.accept {s : State} (h : Ledger s) {i : Nat} {tx : TxBytes}
    (hi : s.calls[i]? = some ⟨tx, .sent⟩) (r : TransactionResult) :
    Ledger ((s.accept tx).setPhase i tx (.answered s.now r)) where
  tracks := h.tracks
  past := by
    intro tx' t hmem
    rcases List.mem_cons.mp hmem with heq | hmem
    · exact Nat.le_of_eq (Prod.mk.inj heq).2
    · exact h.past hmem
  covered := by
    intro tx' t hmem
    rcases List.mem_cons.mp hmem with heq | hmem
    · obtain ⟨rfl, rfl⟩ := Prod.mk.inj heq
      have hlt : i < s.calls.length := (List.getElem?_eq_some_iff.mp hi).1
      exact .inr ⟨i, r, List.getElem?_set_self hlt⟩
    · rcases h.covered hmem with hrec | ⟨j, r', hj⟩
      · exact .inl hrec
      · have hji : j ≠ i := by
          rintro rfl
          rw [hi] at hj
          cases hj
        exact .inr ⟨j, r', (getElem?_setPhase_ne hji).trans hj⟩
  logged := by
    intro j tx' t r' hj
    rcases getElem?_setPhase hj with ⟨-, heq⟩ | ⟨-, hj⟩
    · cases heq
      exact List.mem_cons_self
    · exact List.mem_cons_of_mem _ (h.logged hj)

/-- Recording takes over the cover from the call. -/
theorem Ledger.record {s : State} (h : Ledger s) {i answeredAt : Nat} {tx : TxBytes}
    {r : TransactionResult} (hi : s.calls[i]? = some ⟨tx, .answered answeredAt r⟩) :
    Ledger ((s.record tx).setPhase i tx (.returned (.ok r))) where
  tracks := DedupCache.tracks_record h.tracks tx
  past := h.past
  covered := by
    intro tx' t hmem
    rcases h.covered hmem with ⟨t', hrec, hle⟩ | ⟨j, r', hj⟩
    · exact .inl ⟨t', List.mem_cons_of_mem _ hrec, hle⟩
    · by_cases hji : j = i
      · subst hji
        rw [hi] at hj
        obtain ⟨rfl, -⟩ := Call.mk.inj (Option.some.inj hj)
        exact .inl ⟨s.now, List.mem_cons_self, h.past hmem⟩
      · exact .inr ⟨j, r', (getElem?_setPhase_ne hji).trans hj⟩
  logged := by
    intro j tx' t r' hj
    rcases getElem?_setPhase hj with ⟨-, heq⟩ | ⟨-, hj⟩
    · cases heq
    · exact h.logged hj

theorem ledger_step {s t : State} {a : Action} (h : Ledger s) (hstep : step s a = some t) :
    Ledger t := by
  cases step_cases hstep with
  | tick =>
      exact ⟨h.tracks.later (Nat.le_add_right ..),
        fun hmem => Nat.le_trans (h.past hmem) (Nat.le_add_right ..), h.covered, h.logged⟩
  | submit => exact h.submit _
  | reject hi hdup => exact h.setPhase hi (by simp) (by simp)
  | pass hi hdup => exact h.setPhase hi (by simp) (by simp)
  | send hi => exact h.setPhase hi (by simp) (by simp)
  | fail hi => exact h.setPhase hi (by simp) (by simp)
  | accept hi => exact h.accept hi _
  | record hi => exact h.record hi

/-- What passes the check while its bytes are settled was not accepted
within the ttl. -/
theorem Ledger.clear_of_pass {s : State} (h : Ledger s) {tx : TxBytes}
    (hdup : s.cache.isDuplicate s.now tx = false) (hset : Settled s tx) {t : Nat}
    (hmem : (tx, t) ∈ s.accepted) : t + DedupCache.ttl ≤ s.now := by
  rcases h.covered hmem with ⟨t', hrec, hle⟩ | ⟨i, r, hi⟩
  · have hold : ¬ s.now - t' < DedupCache.ttl := fun hfresh => by
      rw [(DedupCache.isDuplicate_iff h.tracks).mpr ⟨t', hrec, hfresh⟩] at hdup
      cases hdup
    have hpast := h.tracks.past hrec
    omega
  · have hun := hset _ (List.mem_of_getElem? hi) rfl
    have hpast := h.past hmem
    simp only [Call.unsettled, decide_eq_false_iff_not] at hun
    omega

/-! ## Unshared runs keep accepted submissions apart -/

structure Apart (s : State) : Prop where
  /-- One call in flight for the same bytes. -/
  alone : ∀ {i j : Nat} {ci cj : Call}, s.calls[i]? = some ci → s.calls[j]? = some cj →
    ci.phase.inFlight = true → cj.phase.inFlight = true → ci.tx = cj.tx → i = j
  /-- A call in flight could be accepted now. -/
  clear : ∀ {i : Nat} {c : Call}, s.calls[i]? = some c → c.phase.inFlight = true →
    ∀ {t : Nat}, (c.tx, t) ∈ s.accepted → t + DedupCache.ttl ≤ s.now
  spaced : Spaced s

/-- Moving a call keeps `Apart`, if what it moves to may be in flight. -/
theorem Apart.setPhase {s : State} (h : Apart s) {i : Nat} {tx : TxBytes} {phase : Phase}
    (halone : phase.inFlight = true → ∀ {j : Nat} {c : Call}, s.calls[j]? = some c →
      j ≠ i → c.phase.inFlight = true → c.tx ≠ tx)
    (hclear : phase.inFlight = true → ∀ {t : Nat}, (tx, t) ∈ s.accepted →
      t + DedupCache.ttl ≤ s.now) : Apart (s.setPhase i tx phase) where
  alone := by
    intro j k cj ck hj hk hfj hfk heq
    rcases getElem?_setPhase hj with ⟨hji, rfl⟩ | ⟨hji, hj'⟩
    · rcases getElem?_setPhase hk with ⟨hki, -⟩ | ⟨hki, hk'⟩
      · rw [hji, hki]
      · exact absurd heq.symm (halone hfj hk' hki hfk)
    · rcases getElem?_setPhase hk with ⟨-, rfl⟩ | ⟨-, hk'⟩
      · exact absurd heq (halone hfk hj' hji hfj)
      · exact h.alone hj' hk' hfj hfk heq
  clear := by
    intro j c hj hfj t hmem
    rcases getElem?_setPhase hj with ⟨rfl, rfl⟩ | ⟨-, hj⟩
    · exact hclear hfj hmem
    · exact h.clear hj hfj hmem
  spaced := h.spaced

theorem Apart.setPhase_landed {s : State} (h : Apart s) {i : Nat} {tx : TxBytes}
    {phase : Phase} (hphase : phase.inFlight = false) : Apart (s.setPhase i tx phase) :=
  h.setPhase (fun hf => by rw [hphase] at hf; cases hf)
    fun hf => by rw [hphase] at hf; cases hf

/-- An Ok for a call that could be accepted: no other call in flight has
these bytes, so the new entry concerns none. -/
theorem Apart.accept {s : State} (h : Apart s) {i : Nat} {tx : TxBytes}
    (hi : s.calls[i]? = some ⟨tx, .sent⟩) (r : TransactionResult) :
    Apart ((s.accept tx).setPhase i tx (.answered s.now r)) where
  alone := by
    intro j k cj ck hj hk hfj hfk heq
    rcases getElem?_setPhase hj with ⟨-, rfl⟩ | ⟨-, hj⟩
    · cases hfj
    · rcases getElem?_setPhase hk with ⟨-, rfl⟩ | ⟨-, hk⟩
      · cases hfk
      · exact h.alone hj hk hfj hfk heq
  clear := by
    intro j c hj hfj t' hmem
    rcases getElem?_setPhase hj with ⟨-, rfl⟩ | ⟨hji, hj⟩
    · cases hfj
    · rcases List.mem_cons.mp hmem with heq | hmem
      · exact absurd (h.alone hj hi hfj rfl (Prod.mk.inj heq).1) hji
      · exact h.clear hj hfj hmem
  spaced := by
    refine List.pairwise_cons.mpr ⟨?_, h.spaced⟩
    rintro ⟨tx', t'⟩ hmem rfl
    exact h.clear hi rfl hmem

/-- A call that passes the check while its bytes are settled. -/
theorem Apart.pass {s : State} (hl : Ledger s) (h : Apart s) {i : Nat} {tx : TxBytes}
    (hdup : s.cache.isDuplicate s.now tx = false) (hset : Settled s tx) :
    Apart (s.setPhase i tx .checked) := by
  refine h.setPhase (fun _ {j c} hj _ hf heq => ?_) fun _ {t} hmem =>
    hl.clear_of_pass hdup hset hmem
  have hun := hset c (List.mem_of_getElem? hj) heq
  unfold Call.unsettled at hun
  cases hphase : c.phase <;> rw [hphase] at hun hf <;> cases hf <;> cases hun

theorem apart_step {s t : State} {a : Action} (hl : Ledger s) (h : Apart s)
    (hstep : step s a = some t) (hc : Unshared s a) : Apart t := by
  cases step_cases hstep with
  | tick =>
      exact ⟨h.alone, fun hi hf _ hmem =>
        Nat.le_trans (h.clear hi hf hmem) (Nat.le_add_right ..), h.spaced⟩
  | @submit tx =>
      refine ⟨fun hi hj hfi hfj heq => ?_, fun hi hf => ?_, h.spaced⟩
      · rcases getElem?_append_started hi with hi | rfl
        · rcases getElem?_append_started hj with hj | rfl
          · exact h.alone hi hj hfi hfj heq
          · cases hfj
        · cases hfi
      · rcases getElem?_append_started hi with hi | rfl
        · exact h.clear hi hf
        · cases hf
  | reject hi hdup => exact h.setPhase_landed rfl
  | pass hi hdup => exact Apart.pass hl h hdup (hc _ hi hdup)
  | @send i tx hi =>
      refine h.setPhase (fun _ {j c} hj hji hf heq => ?_) fun _ {t} hmem =>
        h.clear hi rfl hmem
      exact hji (h.alone hj hi hf rfl heq)
  | accept hi => exact h.accept hi _
  | fail hi => exact h.setPhase_landed rfl
  | @record i tx answeredAt r hi =>
      have hrec : Apart (s.record tx) := ⟨h.alone, h.clear, h.spaced⟩
      exact hrec.setPhase_landed rfl

/-! ## A shared check can always go wrong -/

theorem getElem?_setPhase_self {s : State} {i : Nat} {c : Call} {tx : TxBytes}
    {phase : Phase} (hi : s.calls[i]? = some c) :
    (s.setPhase i tx phase).calls[i]? = some ⟨tx, phase⟩ :=
  List.getElem?_set_self (List.getElem?_eq_some_iff.mp hi).1

theorem step_send {s : State} {i : Nat} {tx : TxBytes}
    (hi : s.calls[i]? = some ⟨tx, .checked⟩) :
    step s (.send i) = some (s.setPhase i tx .sent) := by
  simp only [step, hi]

theorem step_accept {s : State} {i : Nat} {tx : TxBytes}
    (hi : s.calls[i]? = some ⟨tx, .sent⟩) (r : TransactionResult) :
    step s (.answer i (.ok r))
      = some ((s.accept tx).setPhase i tx (.answered s.now r)) := by
  simp only [step, hi]

/-- A call in flight can be accepted at once, whatever the others do. -/
theorem can_be_accepted {s : State} {i : Nat} {c : Call} (hi : s.calls[i]? = some c)
    (hf : c.phase.inFlight = true) (r : TransactionResult) :
    ∃ as u, Lts.run step s as = some u
      ∧ u.accepted = (c.tx, s.now) :: s.accepted
      ∧ u.now = s.now
      ∧ ∀ j, j ≠ i → u.calls[j]? = s.calls[j]? := by
  obtain ⟨tx, phase⟩ := c
  cases phase with
  | checked =>
      have hsent := @getElem?_setPhase_self s i _ tx .sent hi
      refine ⟨[.send i, .answer i (.ok r)],
        ((s.setPhase i tx .sent).accept tx).setPhase i tx (.answered s.now r),
        ?_, rfl, rfl, fun j hj => ?_⟩
      · rw [Lts.run_cons, step_send hi, Option.bind_some, Lts.run_cons,
          step_accept hsent r, Option.bind_some, Lts.run_nil]
        rfl
      · rw [getElem?_setPhase_ne hj]
        exact getElem?_setPhase_ne hj
  | sent =>
      refine ⟨[.answer i (.ok r)], (s.accept tx).setPhase i tx (.answered s.now r),
        ?_, rfl, rfl, fun j hj => getElem?_setPhase_ne hj⟩
      rw [Lts.run_cons, step_accept hi r, Option.bind_some, Lts.run_nil]
  | started => cases hf
  | answered answeredAt result => cases hf
  | returned result => cases hf

/-- Two calls in flight with the same bytes can both be accepted now. -/
theorem not_spaced_of_both_inFlight {s : State} {i j : Nat} {ci cj : Call} (hij : i ≠ j)
    (hi : s.calls[i]? = some ci) (hj : s.calls[j]? = some cj) (htx : ci.tx = cj.tx)
    (hfi : ci.phase.inFlight = true) (hfj : cj.phase.inFlight = true)
    (r : TransactionResult) : ∃ as u, Lts.run step s as = some u ∧ ¬ Spaced u := by
  obtain ⟨as, u, hrun, hacc, hnow, hcalls⟩ := can_be_accepted hi hfi r
  have hj' : u.calls[j]? = some cj := (hcalls j (Ne.symm hij)).trans hj
  obtain ⟨bs, v, hrun', hacc', -, -⟩ := can_be_accepted hj' hfj r
  refine ⟨as ++ bs, v, Lts.run_append_eq_some.mpr ⟨u, hrun, hrun'⟩, fun hsp => ?_⟩
  unfold Spaced at hsp
  rw [hacc', hacc, hnow] at hsp
  have hgap : s.now + DedupCache.ttl ≤ s.now :=
    (List.pairwise_cons.mp hsp).1 _ List.mem_cons_self htx.symm
  exact absurd hgap (by simp [DedupCache.ttl, Duration.fromSecs])

/-- A call in flight can be accepted within the ttl of another's Ok. -/
theorem not_spaced_of_accepted {s : State} {i : Nat} {c : Call} {t : Nat}
    (hi : s.calls[i]? = some c) (hf : c.phase.inFlight = true)
    (hmem : (c.tx, t) ∈ s.accepted) (hfresh : s.now - t < DedupCache.ttl)
    (r : TransactionResult) : ∃ as u, Lts.run step s as = some u ∧ ¬ Spaced u := by
  obtain ⟨as, u, hrun, hacc, -, -⟩ := can_be_accepted hi hf r
  refine ⟨as, u, hrun, fun hsp => ?_⟩
  unfold Spaced at hsp
  rw [hacc] at hsp
  have hgap : t + DedupCache.ttl ≤ s.now := (List.pairwise_cons.mp hsp).1 _ hmem rfl
  omega

/-- From a check that `Unshared` rules out, some order of the remaining
steps has the transport accept the bytes twice within the ttl. -/
theorem not_spaced_of_shared {s : State} (hl : Ledger s) {i : Nat} {tx : TxBytes}
    (hi : s.calls[i]? = some ⟨tx, .started⟩)
    (hdup : s.cache.isDuplicate s.now tx = false) (hshared : ¬ Settled s tx)
    (r : TransactionResult) :
    ∃ as u, Lts.run step s (.check i :: as) = some u ∧ ¬ Spaced u := by
  have hcheck : step s (.check i) = some (s.setPhase i tx .checked) := by
    simp [step, hi, hdup]
  have hmine := @getElem?_setPhase_self s i _ tx .checked hi
  unfold Settled at hshared
  push Not at hshared
  obtain ⟨c, hc, rfl, hun⟩ := hshared
  obtain ⟨j, hj⟩ := List.getElem?_of_mem hc
  have hji : j ≠ i := by
    rintro rfl
    rw [hi] at hj
    rw [← Option.some.inj hj] at hun
    exact hun rfl
  have hother : (s.setPhase i c.tx .checked).calls[j]? = some c :=
    (getElem?_setPhase_ne hji).trans hj
  have hbad : ∃ as u, Lts.run step (s.setPhase i c.tx .checked) as = some u ∧ ¬ Spaced u := by
    by_cases hf : c.phase.inFlight = true
    · exact not_spaced_of_both_inFlight hji hother hmine rfl hf rfl r
    · obtain ⟨tx, phase⟩ := c
      cases phase with
      | answered answeredAt result =>
          have hfresh : s.now - answeredAt < DedupCache.ttl := by
            simpa [Call.unsettled] using hun
          exact not_spaced_of_accepted hmine rfl (hl.logged hj) hfresh r
      | checked => exact absurd rfl hf
      | sent => exact absurd rfl hf
      | started => exact absurd rfl hun
      | returned result => exact absurd rfl hun
  obtain ⟨as, u, hrun, hsp⟩ := hbad
  exact ⟨as, u, by rw [Lts.run_cons, hcheck, Option.bind_some, hrun], hsp⟩

/-! ## Runs -/

def init (now : Nat) : State := { now := now }

theorem ledger_init (now : Nat) : Ledger (init now) where
  tracks := DedupCache.tracks_empty now
  past := fun hmem => by cases hmem
  covered := fun hmem => by cases hmem
  logged := fun hi => by cases hi

theorem apart_init (now : Nat) : Apart (init now) where
  alone := fun hi => by cases hi
  clear := fun hi => by cases hi
  spaced := .nil

/-- While no call passes the check beside an unsettled call with its
bytes, accepted submissions of the same bytes are 60 seconds apart. -/
theorem spaced_of_unshared (now : Nat) {as : List Action}
    (h : Lts.Guarded step Unshared (init now) as) :
    Lts.Along step Spaced (init now) as := by
  have hapart : Lts.Along step Apart (init now) as :=
    Lts.along_of_guarded (fun _ _ _ => ledger_step)
      (fun _ _ _ => apart_step) (ledger_init now) (apart_init now) h
  exact hapart.mono fun _ ht => ht.spaced

instance (s : State) (tx : TxBytes) : Decidable (Settled s tx) :=
  inferInstanceAs (Decidable (∀ c ∈ s.calls, c.tx = tx → c.unsettled s.now = false))

instance : DecidablePred Spaced := fun s =>
  inferInstanceAs (Decidable (s.accepted.Pairwise _))

instance (s : State) : ∀ a, Decidable (Unshared s a)
  | .check i =>
      inferInstanceAs (Decidable (∀ c ∈ s.calls[i]?,
        s.cache.isDuplicate s.now c.tx = false → Settled s c.tx))
  | .tick _ => isTrue trivial
  | .submit _ => isTrue trivial
  | .send _ => isTrue trivial
  | .answer _ _ => isTrue trivial
  | .record _ => isTrue trivial

def someResult : TransactionResult where
  requestId := "request-1"
  transactionId := "tx-1"
  status := .sent
  timestamp := 0

/-- One call after the other: the second is rejected. -/
def oneAfterTheOther : List Action :=
  [.submit [1, 2, 3], .check 0, .send 0, .answer 0 (.ok someResult), .record 0,
    .submit [1, 2, 3], .check 1]

theorem oneAfterTheOther_spaced : Lts.Along step Spaced (init 0) oneAfterTheOther :=
  spaced_of_unshared 0 (by decide)

/-- Two calls that both pass the check before either is recorded. -/
def sideBySide : List Action :=
  [.submit [1, 2, 3], .submit [1, 2, 3], .check 0, .check 1, .send 0, .send 1,
    .answer 0 (.ok someResult), .answer 1 (.ok someResult)]

/-- The transport accepts the same bytes twice at the same moment. -/
theorem sideBySide_not_spaced :
    (Lts.run step (init 0) sideBySide).map State.accepted
        = some [([1, 2, 3], 0), ([1, 2, 3], 0)]
      ∧ ¬ Lts.Along step Spaced (init 0) sideBySide := by
  decide

end SubmitRace

end Slipstream
