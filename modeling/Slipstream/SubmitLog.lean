import Slipstream.Dedup

/-!
# Submissions one after the other

A client that is used by one task: `submit_transaction_with_options`
checks the dedup cache, hands the transaction to the transport and
records it after an Ok, and the next call begins when this one has
returned. Next to the cache the model keeps the log of all calls, which
the code does not have. `cache_eq_log` says that the cache, with its
overwritten times and its clean-ups, answers as the log would.
-/

namespace Slipstream

namespace SubmitLog

/-- The counters of a client that a submission updates. -/
structure ClientMetrics where
  transactionsSubmitted : UInt64 := 0
  transactionsConfirmed : UInt64 := 0
  totalLatencyMs : UInt64 := 0
  lastLatencyMs : UInt64 := 0
deriving Repr, DecidableEq

/-- A call, with the time since the one before returned, and what the
transport answers if it is asked, after how long. -/
structure Call where
  tx : TxBytes
  wait : Duration
  took : Duration
  answer : Except SdkError TransactionResult

/-- A call that has returned. -/
structure Entry where
  tx : TxBytes
  checkedAt : Nat
  /-- What the transport answered, if it was asked. -/
  answer : Option (Except SdkError TransactionResult)
  returnedAt : Nat
deriving DecidableEq

/-- What the caller got. -/
def Entry.result (e : Entry) : Except SdkError TransactionResult :=
  e.answer.getD (.error duplicateError)

/-- The transport answered Ok, and the bytes were recorded at `t`. -/
def Entry.RecordedAt (e : Entry) (t : Nat) : Prop :=
  (∃ r, e.answer = some (.ok r)) ∧ e.returnedAt = t

structure State where
  now : Nat
  cache : DedupCache := {}
  metrics : ClientMetrics := {}
  log : List Entry := []

def ClientMetrics.submitted (m : ClientMetrics) (elapsed : Duration) : ClientMetrics :=
  let elapsedMs := UInt64.ofNat (elapsed / 1000000)
  { m with
    lastLatencyMs := elapsedMs
    transactionsSubmitted := m.transactionsSubmitted + 1
    totalLatencyMs := m.totalLatencyMs + elapsedMs }

def ClientMetrics.confirmed (m : ClientMetrics) : ClientMetrics :=
  { m with transactionsConfirmed := m.transactionsConfirmed + 1 }

/-- `submit_transaction_with_options`. -/
def submit (s : State) (c : Call) : State :=
  let checkedAt := s.now + c.wait
  if s.cache.isDuplicate checkedAt c.tx then
    { s with
      now := checkedAt
      log := ⟨c.tx, checkedAt, none, checkedAt⟩ :: s.log }
  else
    let returnedAt := checkedAt + c.took
    let metrics := s.metrics.submitted c.took
    let log := ⟨c.tx, checkedAt, some c.answer, returnedAt⟩ :: s.log
    match c.answer with
    | .ok _ =>
        { now := returnedAt
          cache := s.cache.record returnedAt c.tx
          metrics := metrics.confirmed
          log := log }
    | .error _ =>
        { now := returnedAt
          cache := s.cache
          metrics := metrics
          log := log }

/-- The client after a sequence of calls. -/
def run (startedAt : Nat) (calls : List Call) : State :=
  calls.foldl submit { now := startedAt }

/-! ## The cache against the log -/

/-- The recorded bytes with their times. -/
def Entry.record? (e : Entry) : Option (TxBytes × Nat) :=
  match e.answer with
  | some (.ok _) => some (e.tx, e.returnedAt)
  | _ => none

def recorded (log : List Entry) : List (TxBytes × Nat) := log.filterMap Entry.record?

theorem mem_recorded {log : List Entry} {tx : TxBytes} {t : Nat} :
    (tx, t) ∈ recorded log ↔ ∃ e ∈ log, e.tx = tx ∧ e.RecordedAt t := by
  unfold recorded
  rw [List.mem_filterMap]
  constructor
  · rintro ⟨e, he, hrec⟩
    unfold Entry.record? at hrec
    split at hrec
    · rename_i r hanswer
      obtain ⟨rfl, rfl⟩ := Prod.mk.inj (Option.some.inj hrec)
      exact ⟨e, he, rfl, ⟨r, hanswer⟩, rfl⟩
    · cases hrec
  · rintro ⟨e, he, rfl, ⟨r, hanswer⟩, rfl⟩
    exact ⟨e, he, by rw [Entry.record?, hanswer]⟩

/-- The three ways a call goes. -/
theorem submit_cases (s : State) (c : Call) :
    (s.cache.isDuplicate (s.now + c.wait) c.tx = true
        ∧ submit s c = { s with
            now := s.now + c.wait
            log := ⟨c.tx, s.now + c.wait, none, s.now + c.wait⟩ :: s.log })
      ∨ (s.cache.isDuplicate (s.now + c.wait) c.tx = false
        ∧ ((∃ r, c.answer = .ok r
            ∧ submit s c =
              { now := s.now + c.wait + c.took
                cache := s.cache.record (s.now + c.wait + c.took) c.tx
                metrics := (s.metrics.submitted c.took).confirmed
                log := ⟨c.tx, s.now + c.wait, some (.ok r), s.now + c.wait + c.took⟩ :: s.log })
          ∨ ∃ err, c.answer = .error err
            ∧ submit s c =
              { now := s.now + c.wait + c.took
                cache := s.cache
                metrics := s.metrics.submitted c.took
                log := ⟨c.tx, s.now + c.wait, some (.error err), s.now + c.wait + c.took⟩
                  :: s.log })) := by
  unfold submit
  cases hdup : s.cache.isDuplicate (s.now + c.wait) c.tx with
  | true => exact .inl ⟨rfl, by simp only [hdup, if_true]⟩
  | false =>
      refine .inr ⟨rfl, ?_⟩
      cases hanswer : c.answer with
      | ok r => exact .inl ⟨r, rfl, by simp only [hdup]; rfl⟩
      | error err => exact .inr ⟨err, rfl, by simp only [hdup]; rfl⟩

/-- The cache tracks the log through a call. -/
theorem tracks_submit {s : State}
    (h : TtlLog.Tracks DedupCache.ttl s.cache.at? (recorded s.log) s.now) (c : Call) :
    TtlLog.Tracks DedupCache.ttl (submit s c).cache.at? (recorded (submit s c).log)
      (submit s c).now := by
  have hchecked : s.now ≤ s.now + c.wait := Nat.le_add_right ..
  have hreturned : s.now ≤ s.now + c.wait + c.took := by omega
  rcases submit_cases s c with ⟨-, hs⟩ | ⟨-, ⟨r, -, hs⟩ | ⟨err, -, hs⟩⟩
  · rw [hs]
    exact h.later hchecked
  · rw [hs]
    exact DedupCache.tracks_record (h.later hreturned) c.tx
  · rw [hs]
    exact h.later hreturned

theorem tracks_run (startedAt : Nat) (calls : List Call) :
    TtlLog.Tracks DedupCache.ttl (run startedAt calls).cache.at?
      (recorded (run startedAt calls).log) (run startedAt calls).now := by
  have hfold : ∀ (calls : List Call) (s : State),
      TtlLog.Tracks DedupCache.ttl s.cache.at? (recorded s.log) s.now →
        TtlLog.Tracks DedupCache.ttl (calls.foldl submit s).cache.at?
          (recorded (calls.foldl submit s).log) (calls.foldl submit s).now := by
    intro calls
    induction calls with
    | nil => exact fun s h => h
    | cons c calls ih => exact fun s h => ih (submit s c) (tracks_submit h c)
  exact hfold calls _ (DedupCache.tracks_empty startedAt)

/-- Bytes that a call before `now` had recorded, less than 60 seconds
before it. -/
def RecentlyRecorded (log : List Entry) (tx : TxBytes) (now : Nat) : Prop :=
  ∃ e ∈ log, e.tx = tx ∧ ∃ t, e.RecordedAt t ∧ now < t + DedupCache.ttl

theorem recentlyRecorded_iff {log : List Entry} {tx : TxBytes} {now : Nat} :
    RecentlyRecorded log tx now
      ↔ ∃ t, (tx, t) ∈ recorded log ∧ now - t < DedupCache.ttl := by
  have hpos : 0 < DedupCache.ttl := by decide
  unfold RecentlyRecorded
  constructor
  · rintro ⟨e, he, htx, t, ht, hlt⟩
    exact ⟨t, mem_recorded.mpr ⟨e, he, htx, ht⟩, by omega⟩
  · rintro ⟨t, hmem, hlt⟩
    obtain ⟨e, he, htx, ht⟩ := mem_recorded.mp hmem
    exact ⟨e, he, htx, t, ht, by omega⟩

/-- How a call that took `s` to `s'` went, by the log before it. -/
structure Agrees (s : State) (c : Call) (e : Entry) (s' : State) : Prop where
  logged : s'.log = e :: s.log
  called : e.tx = c.tx ∧ e.checkedAt = s.now + c.wait
  answered : (e.answer = none ∧ e.result = .error duplicateError)
    ∨ (e.answer = some c.answer ∧ e.result = c.answer)
  /-- The transport is not asked about what was recorded recently, and
  about all the rest. -/
  rejected : e.answer = none ↔ RecentlyRecorded s.log c.tx e.checkedAt
  /-- Only an Ok changes the cache. -/
  unchanged : (∀ r, e.answer ≠ some (.ok r)) → s'.cache = s.cache
  bounded : (∃ r, e.answer = some (.ok r)) →
    s'.cache.entries.entries.length ≤ 1000
      ∨ ∀ tx t, s'.cache.at? tx = some t →
        (∃ e' ∈ s'.log, e'.tx = tx ∧ e'.RecordedAt t) ∧ s'.now < t + DedupCache.ttl

/-- On every sequential run the cache answers a call as the log of the
calls before it would. -/
theorem cache_eq_log (startedAt : Nat) (calls : List Call) (c : Call) :
    ∃ e, Agrees (run startedAt calls) c e (submit (run startedAt calls) c) := by
  have htracks := tracks_run startedAt calls
  have hafter := tracks_submit htracks c
  generalize run startedAt calls = s at htracks hafter ⊢
  have hdup : s.cache.isDuplicate (s.now + c.wait) c.tx = true
      ↔ RecentlyRecorded s.log c.tx (s.now + c.wait) := by
    rw [DedupCache.isDuplicate_iff (htracks.later (Nat.le_add_right ..)), recentlyRecorded_iff]
  have hpassed : s.cache.isDuplicate (s.now + c.wait) c.tx = false →
      ¬ RecentlyRecorded s.log c.tx (s.now + c.wait) := by
    intro hd hrecent
    rw [hdup.mpr hrecent] at hd
    cases hd
  rcases submit_cases s c with ⟨hd, hs⟩ | ⟨hd, ⟨r, hr, hs⟩ | ⟨err, herr, hs⟩⟩
  · rw [hs]
    exact ⟨_,
      { logged := rfl
        called := ⟨rfl, rfl⟩
        answered := .inl ⟨rfl, rfl⟩
        rejected := iff_of_true rfl (hdup.mp hd)
        unchanged := fun _ => rfl
        bounded := fun ⟨_, h⟩ => by cases h }⟩
  · rw [hs] at hafter ⊢
    refine ⟨_,
      { logged := rfl
        called := ⟨rfl, rfl⟩
        answered := .inr ⟨by rw [hr], hr.symm⟩
        rejected := iff_of_false (by simp) (hpassed hd)
        unchanged := fun h => absurd rfl (h r)
        bounded := fun _ => ?_ }⟩
    rcases s.cache.record_small_or_fresh (s.now + c.wait + c.took) c.tx with hsmall | hfresh
    · exact .inl hsmall
    · refine .inr fun tx t ht => ⟨mem_recorded.mp (hafter.sound ht), ?_⟩
      have hage := hfresh ht
      show s.now + c.wait + c.took < t + DedupCache.ttl
      omega
  · rw [hs]
    exact ⟨_,
      { logged := rfl
        called := ⟨rfl, rfl⟩
        answered := .inr ⟨by rw [herr], herr.symm⟩
        rejected := iff_of_false (by simp) (hpassed hd)
        unchanged := fun _ => rfl
        bounded := fun ⟨_, h⟩ => by cases h }⟩

end SubmitLog

end Slipstream
