import Mathlib.Algebra.Group.Nat.Defs
import Slipstream.Dedup
import Slipstream.Lts

/-!
# Multi-region submission

`MultiRegionClient` keeps one client per region, connected on first use
and each with its own dedup cache. A submission that does not broadcast
tries the best region of the current routing and then, by the routing's
fallback strategy, further regions or the same one again, until one of
them returns Ok; an error of any kind moves it on.

The model runs submissions one after the other, with routing updates and
the passing of time between them; what the network does during a
submission is the `Answer` each of its attempts meets. `handed` is what
the attempts handed to a transport.

A duplicate is an error like any other, so a resubmission that the
region's own client rejects moves on to a region whose client has never
seen the bytes. `deduped_iff_shielded` is the exact condition under which
this does not happen.
-/

namespace Slipstream

inductive FallbackStrategy where
  | sequential
  | broadcast
  | retry
  | none
deriving Repr, DecidableEq

structure RoutingRecommendation where
  bestRegion : String
  leaderPubkey : String
  slot : UInt64
  confidence : UInt32
  expectedRttMs : Option UInt32
  fallbackRegions : List String
  fallbackStrategy : FallbackStrategy
  validForMs : UInt64
deriving Repr, DecidableEq

namespace MultiRegion

/-- The recommendation a leader hint is turned into once it has passed
the confidence and cooldown checks. -/
def recommendationOf (hint : LeaderHint) : RoutingRecommendation where
  bestRegion := hint.preferredRegion
  leaderPubkey := hint.leaderPubkey
  slot := hint.slot
  confidence := hint.confidence
  expectedRttMs := some hint.metadata.tpuRttMs
  fallbackRegions := hint.backupRegions
  fallbackStrategy := .sequential
  validForMs := (hint.expiresAtSlot - hint.slot) * 400

/-! ## One region's client -/

/-- What the network does during one attempt: connecting the region, if
that is needed, and the transport's answer, if it is asked. -/
structure Answer where
  connectTook : Nat := 0
  connect : Except SdkError Unit := .ok ()
  transportTook : Nat := 0
  transport : Except SdkError TransactionResult

/-- The clients connected so far, by region: of each, its dedup cache. -/
abbrev RegionClients := AList fun _ : String => DedupCache

/-- The time, the clients, and the log of what each region's transport
accepted. -/
structure Clients where
  now : Nat
  regionClients : RegionClients := ∅
  accepted : List ((String × TxBytes) × Nat) := []

/-- What an attempt, or a number of them, came to. -/
structure Tried where
  clients : Clients
  handed : List (String × Nat)
  result : Except SdkError TransactionResult

/-- `SlipstreamClient::submit_transaction_with_options` on the client of
a connected region. -/
def submitWithOptions (s : Clients) (region : String) (cache : DedupCache)
    (tx : TxBytes) (answer : Answer) : Tried :=
  if cache.isDuplicate s.now tx then ⟨s, [], .error duplicateError⟩
  else
    let now := s.now + answer.transportTook
    match answer.transport with
    | .ok r =>
        { clients :=
            { now := now
              regionClients := s.regionClients.insert region (cache.record now tx)
              accepted := ((region, tx), now) :: s.accepted }
          handed := [(region, s.now)]
          result := .ok r }
    | .error e => ⟨{ s with now := now }, [(region, s.now)], .error e⟩

/-- Selecting a worker of the region and connecting a client to it. -/
def connectRegion (workers : List WorkerEndpoint) (region : String) (answer : Answer) :
    Except SdkError Unit :=
  if workers.any (fun w => w.region = region) then answer.connect
  else .error (.config ("No workers in region: " ++ region))

def submitToRegion (workers : List WorkerEndpoint) (s : Clients) (region : String)
    (tx : TxBytes) (answer : Answer) : Tried :=
  match s.regionClients.lookup region with
  | some cache => submitWithOptions s region cache tx answer
  | none =>
      let s := { s with now := s.now + answer.connectTook }
      match connectRegion workers region answer with
      | .error e => ⟨s, [], .error e⟩
      | .ok () =>
          let s := { s with regionClients := s.regionClients.insert region {} }
          submitWithOptions s region {} tx answer

/-! ## A submission -/

/-- The attempts of a submission, each after a delay; none where it
broadcasts. -/
def attemptsOf (workers : List WorkerEndpoint) (routing : Option RoutingRecommendation)
    (options : SubmitOptions) : Option (List (Nat × String)) :=
  let defaultRegion :=
    match workers.head? with
    | some w => w.region
    | none => "unknown"
  let bestRegion := (routing.map (·.bestRegion)).getD defaultRegion
  let fallbackRegions := (routing.map (·.fallbackRegions)).getD []
  if options.broadcastMode then none
  else
    match (routing.map (·.fallbackStrategy)).getD .sequential with
    | .sequential => some ((0, bestRegion) :: fallbackRegions.map fun r => (0, r))
    | .retry =>
        some ((0, bestRegion) :: (List.range options.maxRetries.toNat).map fun attempt =>
          (Duration.fromMillis (100 * 2 ^ (attempt + 1)), bestRegion))
    | .none => some [(0, bestRegion)]
    | .broadcast => none

/-- Try the attempts in order until one returns Ok. -/
def submitOneByOne (workers : List WorkerEndpoint) (tx : TxBytes) :
    Clients → List (Nat × String) → (Nat → Answer) → Tried
  | s, [], _ => ⟨s, [], .error (.transaction "All regions failed")⟩
  | s, (delay, region) :: attempts, answers =>
      let tried :=
        submitToRegion workers { s with now := s.now + delay } region tx (answers 0)
      match tried.result with
      | .ok _ => tried
      | .error _ =>
          let rest :=
            submitOneByOne workers tx tried.clients attempts fun k => answers (k + 1)
          ⟨rest.clients, tried.handed ++ rest.handed, rest.result⟩

/-- A submission that has returned. -/
structure Submission where
  tx : TxBytes
  madeAt : Nat
  returnedAt : Nat
  handed : List (String × Nat)
  result : Except SdkError TransactionResult

structure State where
  clients : Clients
  currentRouting : Option RoutingRecommendation := none
  /-- The submissions made, newest first. -/
  history : List Submission := []

inductive Event where
  | tick (d : Nat)
  | route (hint : LeaderHint)
  | submit (tx : TxBytes) (options : SubmitOptions) (answers : Nat → Answer)

/-- `submit` is enabled where it does not broadcast. -/
def step (workers : List WorkerEndpoint) (s : State) : Event → Option State
  | .tick d => some { s with clients := { s.clients with now := s.clients.now + d } }
  | .route hint => some { s with currentRouting := some (recommendationOf hint) }
  | .submit tx options answers =>
      (attemptsOf workers s.currentRouting options).map fun attempts =>
        let tried := submitOneByOne workers tx s.clients attempts answers
        { s with
          clients := tried.clients
          history :=
            { tx := tx
              madeAt := s.clients.now
              returnedAt := tried.clients.now
              handed := tried.handed
              result := tried.result } :: s.history }

/-! ## The property and the condition -/

/-- Once accepted, the bytes are handed to no transport by a submission
made within the ttl of the return. -/
def Deduped (s : State) : Prop :=
  s.history.Pairwise fun later earlier =>
    later.tx = earlier.tx → earlier.result.isOk = true →
      later.madeAt < earlier.returnedAt + DedupCache.ttl → later.handed = []

/-- Every attempt meets a client whose own transport accepted the bytes
within the ttl, or a region that cannot be connected. -/
def Shielded (workers : List WorkerEndpoint) (s : Clients) (tx : TxBytes) :
    Nat → List (Nat × String) → (Nat → Answer) → Prop
  | _, [], _ => True
  | now, (delay, region) :: attempts, answers =>
      match s.regionClients.lookup region with
      | some _ =>
          (∃ e ∈ s.accepted, e.1 = (region, tx) ∧ now + delay - e.2 < DedupCache.ttl)
            ∧ Shielded workers s tx (now + delay) attempts fun k => answers (k + 1)
      | none =>
          (connectRegion workers region (answers 0)).isOk = false
            ∧ Shielded workers s tx (now + delay + (answers 0).connectTook) attempts
              fun k => answers (k + 1)

/-- The bytes were accepted, and returned, within the ttl. -/
def RecentlyAccepted (s : State) (tx : TxBytes) : Prop :=
  ∃ earlier ∈ s.history, tx = earlier.tx ∧ earlier.result.isOk = true
    ∧ s.clients.now < earlier.returnedAt + DedupCache.ttl

def ShieldedSubmit (workers : List WorkerEndpoint) (s : State) : Event → Prop
  | .submit tx options answers =>
      RecentlyAccepted s tx →
        ∀ attempts ∈ attemptsOf workers s.currentRouting options,
          Shielded workers s.clients tx s.clients.now attempts answers
  | _ => True

/-! ## The regions' caches and the log of acceptances -/

/-- All regions' caches as one. -/
def cached (rc : RegionClients) (k : String × TxBytes) : Option Nat :=
  (rc.lookup k.1).bind fun cache => cache.at? k.2

def Tracked (s : Clients) : Prop :=
  TtlLog.Tracks DedupCache.ttl (cached s.regionClients) s.accepted s.now

theorem cached_of_lookup {rc : RegionClients} {region : String} {cache : DedupCache}
    (h : rc.lookup region = some cache) (tx : TxBytes) :
    cached rc (region, tx) = cache.at? tx := by
  rw [cached, h, Option.bind_some]

theorem cached_insert (rc : RegionClients) (region : String) (cache : DedupCache)
    (k : String × TxBytes) :
    cached (rc.insert region cache) k
      = if k.1 = region then cache.at? k.2 else cached rc k := by
  unfold cached
  by_cases hr : k.1 = region
  · rw [if_pos hr, hr, AList.lookup_insert, Option.bind_some]
  · rw [if_neg hr, AList.lookup_insert_ne hr]

/-- A client that has just been connected changes no cache. -/
theorem cached_insert_new {rc : RegionClients} {region : String}
    (h : rc.lookup region = none) : cached (rc.insert region {}) = cached rc := by
  funext k
  rw [cached_insert]
  split
  · rename_i hr
    rw [cached, hr, h]
    rfl
  · rfl

/-- What `TtlLog.Tracks.insert` asks of a cache, for the insertion in one
region's own. -/
theorem cached_inserted_ne {rc : RegionClients} {region : String} {cache : DedupCache}
    {now : Nat} {tx : TxBytes} (h : rc.lookup region = some cache)
    {k : String × TxBytes} (hne : k ≠ (region, tx)) :
    cached (rc.insert region (cache.inserted now tx)) k = cached rc k := by
  rw [cached_insert]
  split
  · rename_i hr
    have htx : k.2 ≠ tx := fun heq => hne (Prod.ext hr heq)
    rw [DedupCache.at?_inserted_ne _ _ htx, cached, hr, h, Option.bind_some]
  · rfl

theorem tracked_submitWithOptions {s : Clients} {region : String} {cache : DedupCache}
    (h : Tracked s) (hc : s.regionClients.lookup region = some cache) (tx : TxBytes)
    (answer : Answer) : Tracked (submitWithOptions s region cache tx answer).clients := by
  unfold submitWithOptions
  split
  · exact h
  · have hlater : TtlLog.Tracks DedupCache.ttl (cached s.regionClients) s.accepted
        (s.now + answer.transportTook) := h.later (Nat.le_add_right ..)
    cases answer.transport with
    | error e => exact hlater
    | ok r =>
        -- first the insertion, then the clean-up, in the region's own cache
        let now := s.now + answer.transportTook
        have hins : TtlLog.Tracks DedupCache.ttl
            (cached (s.regionClients.insert region (cache.inserted now tx)))
            (((region, tx), now) :: s.accepted) now := by
          refine hlater.insert ?_ (cached_inserted_ne hc)
          rw [cached_insert, if_pos rfl, DedupCache.at?_inserted_self]
        refine hins.retain (fun {k t} => ?_) fun {k t} => ?_
        · rw [cached_insert, cached_insert]
          split
          · exact DedupCache.at?_record.1
          · exact id
        · rw [cached_insert, cached_insert]
          split
          · exact DedupCache.at?_record.2
          · exact fun hm _ => hm

theorem tracked_submitToRegion {s : Clients} (h : Tracked s)
    (workers : List WorkerEndpoint) (region : String) (tx : TxBytes) (answer : Answer) :
    Tracked (submitToRegion workers s region tx answer).clients := by
  unfold submitToRegion
  cases hc : s.regionClients.lookup region with
  | some cache => exact tracked_submitWithOptions h hc tx answer
  | none =>
      have hlater : Tracked { s with now := s.now + answer.connectTook } :=
        h.later (Nat.le_add_right ..)
      cases connectRegion workers region answer with
      | error e => exact hlater
      | ok u =>
          refine tracked_submitWithOptions ?_ (AList.lookup_insert ..) tx answer
          unfold Tracked
          rw [cached_insert_new hc]
          exact hlater

theorem tracked_submitOneByOne (workers : List WorkerEndpoint) (tx : TxBytes)
    (attempts : List (Nat × String)) : ∀ {s : Clients} {answers : Nat → Answer},
      Tracked s → Tracked (submitOneByOne workers tx s attempts answers).clients := by
  induction attempts with
  | nil => intro s answers h; exact h
  | cons attempt attempts ih =>
      intro s answers h
      obtain ⟨delay, region⟩ := attempt
      have hdelayed : Tracked { s with now := s.now + delay } :=
        h.later (Nat.le_add_right ..)
      have htried := tracked_submitToRegion hdelayed workers region tx (answers 0)
      unfold submitOneByOne
      dsimp only
      split
      · exact htried
      · exact ih htried

/-! ## What is handed over -/

theorem submitToRegion_of_lookup {workers : List WorkerEndpoint} {s : Clients}
    {region : String} {cache : DedupCache} {tx : TxBytes} {answer : Answer}
    (hc : s.regionClients.lookup region = some cache) :
    submitToRegion workers s region tx answer
      = submitWithOptions s region cache tx answer := by
  unfold submitToRegion
  rw [hc]

theorem submitToRegion_of_unreachable {workers : List WorkerEndpoint} {s : Clients}
    {region : String} {tx : TxBytes} {answer : Answer} {e : SdkError}
    (hc : s.regionClients.lookup region = none)
    (hconn : connectRegion workers region answer = .error e) :
    submitToRegion workers s region tx answer
      = ⟨{ s with now := s.now + answer.connectTook }, [], .error e⟩ := by
  unfold submitToRegion
  simp only [hc, hconn]

/-- A client hands over what is not a duplicate. -/
theorem submitWithOptions_cases (s : Clients) (region : String) (cache : DedupCache)
    (tx : TxBytes) (answer : Answer) :
    (cache.isDuplicate s.now tx = true
        ∧ submitWithOptions s region cache tx answer = ⟨s, [], .error duplicateError⟩)
      ∨ (cache.isDuplicate s.now tx = false
        ∧ (submitWithOptions s region cache tx answer).handed = [(region, s.now)]) := by
  unfold submitWithOptions
  cases hdup : cache.isDuplicate s.now tx with
  | true => exact .inl ⟨rfl, rfl⟩
  | false =>
      refine .inr ⟨rfl, ?_⟩
      rw [if_neg (by simp)]
      cases answer.transport <;> rfl

/-- To a client that has just been connected nothing is a duplicate. -/
theorem handed_submitToRegion_of_new {workers : List WorkerEndpoint} {s : Clients}
    {region : String} {tx : TxBytes} {answer : Answer}
    (hc : s.regionClients.lookup region = none)
    (hconn : connectRegion workers region answer = .ok ()) :
    (submitToRegion workers s region tx answer).handed ≠ [] := by
  unfold submitToRegion
  simp only [hc, hconn]
  rcases submitWithOptions_cases _ region {} tx answer with ⟨hdup, -⟩ | ⟨-, hhanded⟩
  · cases hdup
  · rw [hhanded]
    exact List.cons_ne_nil _ _

/-- A region's own cache knows what its transport accepted. -/
theorem isDuplicate_iff_accepted {s : Clients} {region : String} {cache : DedupCache}
    {tx : TxBytes} (h : Tracked s) (hc : s.regionClients.lookup region = some cache) :
    cache.isDuplicate s.now tx = true
      ↔ ∃ e ∈ s.accepted, e.1 = (region, tx) ∧ s.now - e.2 < DedupCache.ttl := by
  rw [DedupCache.isDuplicate_eq_true, ← cached_of_lookup hc, h.fresh_iff]
  constructor
  · rintro ⟨t, hmem, ht⟩
    exact ⟨_, hmem, rfl, ht⟩
  · rintro ⟨⟨k, t⟩, hmem, rfl, ht⟩
    exact ⟨t, hmem, ht⟩

theorem handed_submitOneByOne_of_handed {workers : List WorkerEndpoint} {tx : TxBytes}
    {s : Clients} {delay : Nat} {region : String} {attempts : List (Nat × String)}
    {answers : Nat → Answer}
    (h : (submitToRegion workers { s with now := s.now + delay } region tx
      (answers 0)).handed ≠ []) :
    (submitOneByOne workers tx s ((delay, region) :: attempts) answers).handed ≠ [] := by
  unfold submitOneByOne
  dsimp only
  split
  · exact h
  · exact fun hnil => h (List.append_eq_nil_iff.mp hnil).1

theorem submitOneByOne_of_refused {workers : List WorkerEndpoint} {tx : TxBytes}
    {s s' : Clients} {delay : Nat} {region : String} {attempts : List (Nat × String)}
    {answers : Nat → Answer} {e : SdkError}
    (h : submitToRegion workers { s with now := s.now + delay } region tx (answers 0)
      = ⟨s', [], .error e⟩) :
    (submitOneByOne workers tx s ((delay, region) :: attempts) answers).handed
      = (submitOneByOne workers tx s' attempts fun k => answers (k + 1)).handed := by
  rw [submitOneByOne]
  simp only [h, List.nil_append]

theorem shielded_now {workers : List WorkerEndpoint} {s : Clients} {tx : TxBytes}
    (attempts : List (Nat × String)) : ∀ {now now' : Nat} {answers : Nat → Answer},
      Shielded workers { s with now := now' } tx now attempts answers
        ↔ Shielded workers s tx now attempts answers := by
  induction attempts with
  | nil => intro now now' answers; exact Iff.rfl
  | cons attempt attempts ih =>
      intro now now' answers
      unfold Shielded
      dsimp only
      cases s.regionClients.lookup attempt.2 with
      | some cache => exact and_congr Iff.rfl ih
      | none => exact and_congr Iff.rfl ih

/-- A submission hands nothing over exactly when all its attempts are
shielded. -/
theorem handed_eq_nil_iff (workers : List WorkerEndpoint) (tx : TxBytes)
    (attempts : List (Nat × String)) : ∀ {s : Clients} {answers : Nat → Answer},
      Tracked s →
        ((submitOneByOne workers tx s attempts answers).handed = []
          ↔ Shielded workers s tx s.now attempts answers) := by
  induction attempts with
  | nil => intro s answers h; exact iff_of_true rfl trivial
  | cons attempt attempts ih =>
      intro s answers h
      obtain ⟨delay, region⟩ := attempt
      have hdelayed : Tracked { s with now := s.now + delay } :=
        h.later (Nat.le_add_right ..)
      unfold Shielded
      cases hc : s.regionClients.lookup region with
      | some cache =>
          have hto : submitToRegion workers { s with now := s.now + delay } region tx
              (answers 0) = submitWithOptions { s with now := s.now + delay } region cache
                tx (answers 0) := submitToRegion_of_lookup hc
          have hdup := @isDuplicate_iff_accepted _ region cache tx hdelayed hc
          rcases submitWithOptions_cases { s with now := s.now + delay } region cache tx
            (answers 0) with ⟨hyes, hrefused⟩ | ⟨hno, hhanded⟩
          · rw [submitOneByOne_of_refused (hto.trans hrefused), ih hdelayed, shielded_now]
            exact (and_iff_right (hdup.mp hyes)).symm
          · refine iff_of_false (handed_submitOneByOne_of_handed ?_) fun hsh => ?_
            · rw [hto, hhanded]
              exact List.cons_ne_nil _ _
            · rw [hdup.mpr hsh.1] at hno
              cases hno
      | none =>
          cases hconn : connectRegion workers region (answers 0) with
          | error e =>
              have hlater :
                  Tracked { s with now := s.now + delay + (answers 0).connectTook } :=
                hdelayed.later (Nat.le_add_right ..)
              rw [submitOneByOne_of_refused (submitToRegion_of_unreachable hc hconn),
                ih hlater, shielded_now]
              exact (and_iff_right rfl).symm
          | ok u =>
              refine iff_of_false (handed_submitOneByOne_of_handed ?_) fun hsh => ?_
              · exact handed_submitToRegion_of_new hc hconn
              · cases hsh.1

/-! ## Runs -/

def init (now : Nat) : State := { clients := { now := now } }

theorem tracked_step {workers : List WorkerEndpoint} {s t : State} {ev : Event}
    (h : Tracked s.clients) (hstep : step workers s ev = some t) : Tracked t.clients := by
  cases ev with
  | tick d =>
      obtain rfl := Option.some.inj hstep
      exact h.later (Nat.le_add_right ..)
  | route hint =>
      obtain rfl := Option.some.inj hstep
      exact h
  | submit tx options answers =>
      obtain ⟨attempts, -, rfl⟩ := Option.map_eq_some_iff.mp hstep
      exact tracked_submitOneByOne workers tx attempts h

/-- A step keeps `Deduped` exactly when it is shielded. -/
theorem deduped_step_iff {workers : List WorkerEndpoint} {s t : State} {ev : Event}
    (h : Tracked s.clients) (hd : Deduped s) (hstep : step workers s ev = some t) :
    Deduped t ↔ ShieldedSubmit workers s ev := by
  cases ev with
  | tick d =>
      obtain rfl := Option.some.inj hstep
      exact iff_of_true hd trivial
  | route hint =>
      obtain rfl := Option.some.inj hstep
      exact iff_of_true hd trivial
  | submit tx options answers =>
      obtain ⟨attempts, hatt, rfl⟩ := Option.map_eq_some_iff.mp hstep
      have hhanded := @handed_eq_nil_iff workers tx attempts s.clients answers h
      unfold Deduped ShieldedSubmit
      rw [List.pairwise_cons]
      constructor
      · rintro ⟨hnew, -⟩ ⟨earlier, hmem, htx, hok, hrecent⟩ attempts' hatt'
        obtain rfl := Option.some.inj (hatt.symm.trans hatt')
        exact hhanded.mp (hnew earlier hmem htx hok hrecent)
      · intro hsh
        refine ⟨fun earlier hmem htx hok hrecent => ?_, hd⟩
        exact hhanded.mpr (hsh ⟨earlier, hmem, htx, hok, hrecent⟩ attempts hatt)

/-- Runs keep accepted bytes from every transport for the ttl exactly
when each resubmission in that time is shielded. -/
theorem deduped_iff_shielded (workers : List WorkerEndpoint) (now : Nat)
    (events : List Event) :
    Lts.Along (step workers) Deduped (init now) events
      ↔ Lts.Guarded (step workers) (ShieldedSubmit workers) (init now) events :=
  Lts.along_iff_guarded (fun _ _ _ => tracked_step) (fun _ _ _ => deduped_step_iff)
    (.nil fun _ => rfl) .nil

/-! ## A resubmission that reaches the fallback region -/

instance : DecidablePred Deduped := fun s =>
  inferInstanceAs (Decidable (s.history.Pairwise _))

def testWorkers : List WorkerEndpoint :=
  [.withEndpoints "w1" "us-west" (some "127.0.0.1:4433") none none
      (some "http://127.0.0.1:9000"),
    .withEndpoints "w2" "eu-central" (some "127.0.0.2:4433") none none
      (some "http://127.0.0.2:9000")]

def westHint : LeaderHint where
  timestamp := 0
  slot := 0
  expiresAtSlot := 4
  preferredRegion := "us-west"
  backupRegions := ["eu-central"]
  confidence := 90
  leaderPubkey := ""
  metadata := ⟨12, 0.85, none, none⟩

def accepts (_ : Nat) : Answer where
  transport :=
    .ok
      { requestId := "request-1"
        transactionId := "tx-1"
        status := .sent
        timestamp := 0 }

/-- The same bytes, submitted again one second after they were accepted. -/
def resubmission : List Event :=
  [.route westHint, .submit [1, 2, 3] {} accepts, .tick 1000000000,
    .submit [1, 2, 3] {} accepts]

/-- The first submission is accepted in the best region, the second goes
to the fallback region. -/
theorem resubmission_not_deduped :
    (Lts.run (step testWorkers) (init 0) resubmission).map
        (fun s => s.history.map Submission.handed)
        = some [[("eu-central", 1000000000)], [("us-west", 0)]]
      ∧ ¬ Lts.Along (step testWorkers) Deduped (init 0) resubmission := by
  decide

end MultiRegion

end Slipstream
