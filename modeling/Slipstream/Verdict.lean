import Slipstream.Lts
import Slipstream.QuicResponse
import Slipstream.SubmitLog
import Slipstream.WsOutcome

/-!
# The server's verdict on a submission

A client counts a submission as confirmed, and records its bytes in the
dedup cache, when the transport returns Ok. Whether it does depends on
how the transport is told of a rejection: HTTP returns an error for a
status code that is no success, and all the other rejections (a status
byte, a status word, a status number, a `TransactionFailed` message)
become an Ok with a failure status.

`Reply` is what a transport gets back, with the code of each transport
from there on, and `rejects` what the server said by it. The log of
`SubmitLog` is kept next to the replies. `onlyAccepted_iff` says when the
cache and the counter hold accepted submissions only: exactly if every
rejection comes as an HTTP status code.
-/

namespace Slipstream

/-- A verdict that the transaction is not going to be processed. -/
def TransactionStatus.rejects : TransactionStatus → Bool
  | .failed | .rateLimited | .insufficientTokens => true
  | .pending | .processing | .sent | .confirmed | .duplicate => false

namespace Verdict

open Bytes

/-- What the JSON and base58 libraries write. -/
structure Codecs where
  base58 : List UInt8 → String
  json : (AList fun _ : String => String) → String

/-- What a transport gets back for a submission. -/
inductive Reply where
  /-- The status code, the text of the body, and the body read as JSON. -/
  | http (statusCode : UInt16) (text : String) (json : Except SdkError HttpSubmitResponse)
  | quic (read : Except String (List UInt8))
  | grpc (response : Except SdkError TransactionResponse)
  /-- The messages before the deadline; if none settles the request, the
  call ends with an error. -/
  | webSocket (messages : List ServerMessage) (unsettled : SdkError)
  | failed (err : SdkError)

/-- A call, the ids made for it, and what comes back. -/
structure Submission where
  tx : TxBytes
  wait : Duration
  took : Duration
  requestId : String
  transactionId : String
  options : SubmitOptions
  timestamp : UInt64
  reply : Reply

def isSuccess (statusCode : UInt16) : Bool := decide (200 ≤ statusCode ∧ statusCode < 300)

def httpSubmit (statusCode : UInt16) (text : String)
    (json : Except SdkError HttpSubmitResponse) : Except SdkError TransactionResult :=
  if statusCode = 401 then .error (.auth "Invalid API key")
  else if statusCode = 429 then .error (.rateLimited "Too many requests")
  else if isSuccess statusCode then json.map HttpSubmitResponse.toResult
  else .error (.transaction ("Transaction submission failed: " ++ text))

/-- `submit_transaction` of the transport. -/
def Submission.answer (codecs : Codecs) (c : Submission) :
    Checked (Except SdkError TransactionResult) :=
  match c.reply with
  | .http statusCode text json => pure (httpSubmit statusCode text json)
  | .quic read =>
      QuicResponse.respond codecs.base58 c.requestId c.transactionId c.timestamp read
  | .grpc response => pure (response.map (TransactionResponse.toResult codecs.json))
  | .webSocket messages unsettled =>
      match awaitResponse c.requestId c.options c.timestamp messages with
      | some (res, _) => pure (.ok res)
      | none => pure (.error unsettled)
  | .failed err => pure (.error err)

/-! ## What the server said -/

/-- The reply is a rejection. On a WebSocket the first message of the
request that is a verdict counts. -/
def Reply.rejects (requestId : String) : Reply → Bool
  | .http statusCode _ json =>
      if isSuccess statusCode then
        match json with
        | .ok r => (parseStatus r.status).rejects
        | .error _ => false
      else true
  | .quic read =>
      match read with
      | .ok d =>
          decide (6 ≤ d.length)
            && (QuicResponse.transactionStatus
              (QuicResponse.ResponseStatus.fromByte (d.getD 4 0))).rejects
      | .error _ => false
  | .grpc response =>
      match response with
      | .ok r => (convertStatus r.status).rejects
      | .error _ => false
  | .webSocket messages _ =>
      match (own requestId messages).findSome? ServerMessage.verdict with
      | some status => status.rejects
      | none => false
  | .failed _ => false

/-- The reply is an HTTP response with a status code that is no
success. -/
def Reply.HttpError : Reply → Prop
  | .http statusCode _ _ => isSuccess statusCode = false
  | _ => False

theorem httpSubmit_error {statusCode : UInt16} (h : isSuccess statusCode = false)
    (text : String) (json : Except SdkError HttpSubmitResponse) :
    ∃ e, httpSubmit statusCode text json = .error e := by
  unfold httpSubmit
  split
  · exact ⟨_, rfl⟩
  · split
    · exact ⟨_, rfl⟩
    · rw [h]
      exact ⟨_, rfl⟩

theorem httpSubmit_success {statusCode : UInt16} (h : isSuccess statusCode = true)
    (text : String) (json : Except SdkError HttpSubmitResponse) :
    httpSubmit statusCode text json = json.map HttpSubmitResponse.toResult := by
  unfold httpSubmit
  split
  · rename_i hcode
    rw [hcode] at h
    cases h
  · split
    · rename_i hcode
      rw [hcode] at h
      cases h
    · rfl

/-- A verdict of the call's own ends the wait. -/
theorem round_of_verdict {l : SubmitLoop} {msg : ServerMessage}
    (hown : msg.requestId = some l.requestId) (h : msg.verdict ≠ none) :
    ∃ l', l.round msg = .left l' := by
  cases msg with
  | transactionAccepted requestId transactionId => exact absurd rfl h
  | transactionUpdate u =>
      rcases SubmitLoop.round_update (Option.some.inj hown) with ⟨status, -, hs, -⟩ | ⟨-, hr⟩
      · refine absurd ?_ h
        rw [not_or] at hs
        simp only [ServerMessage.verdict, if_neg hs.1, if_neg hs.2]
      · exact ⟨_, hr⟩
  | transactionConfirmed c => exact ⟨_, SubmitLoop.round_confirmed (Option.some.inj hown)⟩
  | transactionFailed requestId transactionId error =>
      obtain rfl := Option.some.inj hown
      exact ⟨_, SubmitLoop.round_failed l transactionId error⟩
  | _ => exact absurd rfl h

theorem awaitResponse_of_verdict (options : SubmitOptions) (timestamp : UInt64)
    {requestId : String} {messages : List ServerMessage} {status : TransactionStatus}
    (h : (own requestId messages).findSome? ServerMessage.verdict = some status) :
    ∃ res rest, awaitResponse requestId options timestamp messages = some (res, rest) := by
  cases hconsume : (SubmitLoop.start requestId options).consume messages with
  | left l rest => exact ⟨_, rest, awaitResponse_eq_some.mpr ⟨l, hconsume, rfl⟩⟩
  | waiting l =>
      obtain ⟨msg, hmsg, hverdict⟩ := List.exists_of_findSome?_eq_some h
      obtain ⟨hmem, hown⟩ := List.mem_filter.mp hmsg
      obtain ⟨u, v, hid, hround⟩ :=
        Intake.again_of_waiting (fun l => l.requestId = requestId)
          (fun hs ha => (SubmitLoop.requestId_again ha).trans hs) rfl hconsume msg hmem
      have hown' : msg.requestId = some u.requestId := hid ▸ of_decide_eq_true hown
      obtain ⟨l', hleft⟩ := round_of_verdict hown' (by rw [hverdict]; simp)
      rw [hleft] at hround
      cases hround

/-! ## How a rejection is answered -/

/-- Over HTTP a rejection is an error if it comes as a status code, and an
Ok if it comes in the body. -/
theorem httpSubmit_of_rejects {requestId : String} {statusCode : UInt16} {text : String}
    {json : Except SdkError HttpSubmitResponse}
    (h : (Reply.http statusCode text json).rejects requestId = true) :
    (isSuccess statusCode = false ∧ ∃ e, httpSubmit statusCode text json = .error e)
      ∨ (isSuccess statusCode = true ∧ ∃ r, httpSubmit statusCode text json = .ok r) := by
  cases hsuccess : isSuccess statusCode with
  | false => exact .inl ⟨rfl, httpSubmit_error hsuccess text json⟩
  | true =>
      simp only [Reply.rejects, hsuccess, if_true] at h
      cases json with
      | error e => cases h
      | ok r => exact .inr ⟨rfl, r.toResult, httpSubmit_success hsuccess text (.ok r)⟩

/-- A rejection over QUIC has a header, and so parses. -/
theorem respond_of_rejects (base58 : List UInt8 → String) {requestId : String}
    {read : Except String (List UInt8)} (h : (Reply.quic read).rejects requestId = true)
    (transactionId : String) (timestamp : UInt64) :
    ∃ r, QuicResponse.respond base58 requestId transactionId timestamp read = .ok (.ok r) := by
  cases read with
  | error e => cases h
  | ok d =>
      simp only [Reply.rejects, Bool.and_eq_true, decide_eq_true_eq] at h
      obtain ⟨p, hp, -⟩ := QuicResponse.parseResponse_spec base58 h.1
      refine ⟨p.fields.result requestId transactionId timestamp, ?_⟩
      simp only [QuicResponse.respond]
      rw [if_neg (Nat.not_lt.mpr h.1), hp]
      rfl

/-- A rejection over a WebSocket settles the request. -/
theorem awaitResponse_of_rejects {requestId : String} {messages : List ServerMessage}
    {unsettled : SdkError}
    (h : (Reply.webSocket messages unsettled).rejects requestId = true)
    (options : SubmitOptions) (timestamp : UInt64) :
    ∃ res rest, awaitResponse requestId options timestamp messages = some (res, rest) := by
  simp only [Reply.rejects] at h
  cases hverdict : (own requestId messages).findSome? ServerMessage.verdict with
  | none =>
      rw [hverdict] at h
      cases h
  | some status => exact awaitResponse_of_verdict options timestamp hverdict

/-- A rejection becomes an error if it is an HTTP status code, and an Ok
otherwise. -/
theorem answer_of_rejects (codecs : Codecs) {c : Submission}
    (h : c.reply.rejects c.requestId = true) :
    (c.reply.HttpError ∧ ∃ e, c.answer codecs = .ok (.error e))
      ∨ (¬ c.reply.HttpError ∧ ∃ r, c.answer codecs = .ok (.ok r)) := by
  unfold Submission.answer
  cases hreply : c.reply with
  | http statusCode text json =>
      rw [hreply] at h
      dsimp only
      rcases httpSubmit_of_rejects h with ⟨hcode, e, he⟩ | ⟨hcode, r, hr⟩
      · exact .inl ⟨hcode, e, by rw [he]; rfl⟩
      · exact .inr ⟨by simp [Reply.HttpError, hcode], r, by rw [hr]; rfl⟩
  | quic read =>
      rw [hreply] at h
      exact .inr ⟨id, respond_of_rejects codecs.base58 h c.transactionId c.timestamp⟩
  | grpc response =>
      rw [hreply] at h
      cases response with
      | error e => cases h
      | ok r => exact .inr ⟨id, r.toResult codecs.json, rfl⟩
  | webSocket messages unsettled =>
      rw [hreply] at h
      obtain ⟨res, rest, hres⟩ := awaitResponse_of_rejects h c.options c.timestamp
      exact .inr ⟨id, res, by dsimp only; rw [hres]; rfl⟩
  | failed err =>
      rw [hreply] at h
      cases h

/-- Whatever comes back, the transport answers. -/
theorem answer_returns (codecs : Codecs) (c : Submission) :
    ∃ answer, c.answer codecs = .ok answer := by
  unfold Submission.answer
  split
  · exact ⟨_, rfl⟩
  · exact QuicResponse.respond_returns ..
  · exact ⟨_, rfl⟩
  · split <;> exact ⟨_, rfl⟩
  · exact ⟨_, rfl⟩

/-! ## Submissions one after the other -/

/-- A call the transport was asked about. -/
structure Answered where
  submission : Submission
  answer : Except SdkError TransactionResult
  returnedAt : Nat

def Answered.rejected (e : Answered) : Bool :=
  e.submission.reply.rejects e.submission.requestId

/-- The transport returned Ok, and not for a rejection. -/
def Answered.accepted (e : Answered) : Bool := e.answer.isOk && !e.rejected

structure State where
  client : SubmitLog.State
  answered : List Answered := []

/-- `submit_transaction_with_options` on a client with this transport. -/
def step (codecs : Codecs) (s : State) (c : Submission) : Option State :=
  match c.answer codecs with
  | .error _ => none
  | .ok answer =>
      let checkedAt := s.client.now + c.wait
      let asked := !s.client.cache.isDuplicate checkedAt c.tx
      some
        { client := SubmitLog.submit s.client ⟨c.tx, c.wait, c.took, answer⟩
          answered :=
            if asked then ⟨c, answer, checkedAt + c.took⟩ :: s.answered else s.answered }

/-- The ways a call goes: refused by the cache, or answered. -/
inductive Step (codecs : Codecs) (s : State) (c : Submission) : State → Prop where
  | duplicate {client : SubmitLog.State}
      (hdup : s.client.cache.isDuplicate (s.client.now + c.wait) c.tx = true)
      (hnow : client.now = s.client.now + c.wait) (hcache : client.cache = s.client.cache)
      (hmetrics : client.metrics = s.client.metrics) :
      Step codecs s c { s with client := client }
  | answered {client : SubmitLog.State} {answer : Except SdkError TransactionResult}
      (hnew : s.client.cache.isDuplicate (s.client.now + c.wait) c.tx = false)
      (hanswer : c.answer codecs = .ok answer)
      (hnow : client.now = s.client.now + c.wait + c.took)
      (hcache : client.cache =
        if answer.isOk then s.client.cache.record (s.client.now + c.wait + c.took) c.tx
        else s.client.cache)
      (hconfirmed : client.metrics.transactionsConfirmed =
        if answer.isOk then s.client.metrics.transactionsConfirmed + 1
        else s.client.metrics.transactionsConfirmed) :
      Step codecs s c
        { client := client
          answered := ⟨c, answer, s.client.now + c.wait + c.took⟩ :: s.answered }

theorem step_cases {codecs : Codecs} {s t : State} {c : Submission}
    (h : step codecs s c = some t) : Step codecs s c t := by
  obtain ⟨answer, hanswer⟩ := answer_returns codecs c
  unfold step at h
  rw [hanswer] at h
  obtain rfl := Option.some.inj h
  rcases SubmitLog.submit_cases s.client ⟨c.tx, c.wait, c.took, answer⟩ with
    ⟨hdup, hs⟩ | ⟨hnew, ⟨r, rfl, hs⟩ | ⟨err, rfl, hs⟩⟩
  · simp only [hdup, hs]
    exact .duplicate hdup rfl rfl rfl
  · simp only [hnew, hs]
    exact .answered hnew hanswer rfl rfl rfl
  · simp only [hnew, hs]
    exact .answered hnew hanswer rfl rfl rfl

/-- The cache and the counter hold accepted submissions only, and after
a rejection the bytes can be submitted again. -/
structure OnlyAccepted (s : State) : Prop where
  recorded : ∀ tx t, s.client.cache.at? tx = some t →
    ∃ e ∈ s.answered, e.submission.tx = tx ∧ e.returnedAt = t ∧ e.accepted = true
  confirmed : s.client.metrics.transactionsConfirmed
    = UInt64.ofNat (s.answered.countP Answered.accepted)
  resubmittable : ∀ e, s.answered.head? = some e → e.rejected = true →
    s.client.cache.isDuplicate s.client.now e.submission.tx = false

/-- If the call reaches the transport and is rejected there, it is so by
an HTTP status code. -/
def ByStatusCode (s : State) (c : Submission) : Prop :=
  s.client.cache.isDuplicate (s.client.now + c.wait) c.tx = false →
    c.reply.rejects c.requestId = true → c.reply.HttpError

theorem Answered.accepted_eq {c : Submission} {r : TransactionResult} {t : Nat} :
    (⟨c, .ok r, t⟩ : Answered).accepted = !c.reply.rejects c.requestId := rfl

/-- What recording adds to the cache was returned by the call. -/
theorem OnlyAccepted.recorded_record {s : State} (h : OnlyAccepted s) {c : Submission}
    {now : Nat} {r : TransactionResult} (haccepted : c.reply.rejects c.requestId = false)
    (tx : TxBytes) (t : Nat) (ht : (s.client.cache.record now c.tx).at? tx = some t) :
    ∃ e ∈ ⟨c, .ok r, now⟩ :: s.answered,
      e.submission.tx = tx ∧ e.returnedAt = t ∧ e.accepted = true := by
  have hins := DedupCache.at?_record.1 ht
  by_cases htx : tx = c.tx
  · rw [htx, DedupCache.at?_inserted_self] at hins
    refine ⟨_, List.mem_cons_self, htx.symm, Option.some.inj hins, ?_⟩
    rw [Answered.accepted_eq, haccepted]
    rfl
  · rw [DedupCache.at?_inserted_ne _ _ htx] at hins
    obtain ⟨e, he, hentry⟩ := h.recorded tx t hins
    exact ⟨e, List.mem_cons_of_mem _ he, hentry⟩

/-- An error changes neither the cache nor the counter. -/
theorem OnlyAccepted.error {s : State} (h : OnlyAccepted s) {c : Submission}
    {client : SubmitLog.State} {err : SdkError}
    (hnew : s.client.cache.isDuplicate (s.client.now + c.wait) c.tx = false)
    (hnow : client.now = s.client.now + c.wait + c.took)
    (hcache : client.cache = s.client.cache)
    (hconfirmed : client.metrics.transactionsConfirmed
      = s.client.metrics.transactionsConfirmed) :
    OnlyAccepted
      { client := client
        answered := ⟨c, .error err, s.client.now + c.wait + c.took⟩ :: s.answered } := by
  refine ⟨?_, ?_, ?_⟩
  · intro tx t ht
    rw [hcache] at ht
    obtain ⟨e, he, hentry⟩ := h.recorded tx t ht
    exact ⟨e, List.mem_cons_of_mem _ he, hentry⟩
  · have hnone : (⟨c, .error err, s.client.now + c.wait + c.took⟩ : Answered).accepted = false :=
      rfl
    rw [hconfirmed, List.countP_cons_of_neg (by simp [hnone])]
    exact h.confirmed
  · intro e he _
    obtain rfl := Option.some.inj he
    rw [hcache, hnow]
    exact DedupCache.isDuplicate_later hnew (Nat.le_add_right ..)

/-- An Ok is counted and recorded, and should be so unless the server
rejected the transaction. -/
theorem OnlyAccepted.ok_iff {s : State} (h : OnlyAccepted s) {c : Submission}
    {client : SubmitLog.State} {r : TransactionResult}
    (hcache : client.cache = s.client.cache.record (s.client.now + c.wait + c.took) c.tx)
    (hconfirmed : client.metrics.transactionsConfirmed
      = s.client.metrics.transactionsConfirmed + 1) :
    OnlyAccepted
        { client := client
          answered := ⟨c, .ok r, s.client.now + c.wait + c.took⟩ :: s.answered }
      ↔ c.reply.rejects c.requestId = false := by
  have haccepted := @Answered.accepted_eq c r (s.client.now + c.wait + c.took)
  cases hrejects : c.reply.rejects c.requestId with
  | true =>
      rw [hrejects] at haccepted
      refine iff_of_false (fun ht => ?_) (by simp)
      have hcount := ht.confirmed
      rw [hconfirmed, h.confirmed, List.countP_cons_of_neg (by simp [haccepted])] at hcount
      exact absurd (UInt64.add_eq_left.mp hcount) (by decide)
  | false =>
      rw [hrejects] at haccepted
      refine iff_of_true ⟨?_, ?_, ?_⟩ rfl
      · intro tx t ht
        rw [hcache] at ht
        exact h.recorded_record hrejects tx t ht
      · rw [hconfirmed, h.confirmed, List.countP_cons_of_pos (by simp [haccepted]),
          UInt64.ofNat_add]
        rfl
      · intro e he hrejected
        obtain rfl := Option.some.inj he
        rw [Answered.rejected, hrejects] at hrejected
        cases hrejected

/-- One call: what was right before stays right exactly if a rejection
comes as a status code. -/
theorem onlyAccepted_step_iff {codecs : Codecs} {s t : State} {c : Submission}
    (hs : OnlyAccepted s) (h : step codecs s c = some t) :
    OnlyAccepted t ↔ ByStatusCode s c := by
  cases step_cases h with
  | duplicate hdup hnow hcache hmetrics =>
      refine iff_of_true ⟨?_, ?_, ?_⟩ fun hnew => ?_
      · rw [hcache]
        exact hs.recorded
      · rw [hmetrics]
        exact hs.confirmed
      · intro e he hrejected
        rw [hcache, hnow]
        exact DedupCache.isDuplicate_later (hs.resubmittable e he hrejected)
          (Nat.le_add_right ..)
      · rw [hdup] at hnew
        cases hnew
  | @answered client answer hnew hanswer hnow hcache hconfirmed =>
      cases answer with
      | error err =>
          refine iff_of_true (hs.error hnew hnow hcache hconfirmed) fun _ hrejects => ?_
          rcases answer_of_rejects codecs hrejects with ⟨hhttp, -⟩ | ⟨-, r, hr⟩
          · exact hhttp
          · cases hanswer.symm.trans hr
      | ok r =>
          rw [hs.ok_iff hcache hconfirmed]
          constructor
          · intro haccepted _ hrejects
            rw [haccepted] at hrejects
            cases hrejects
          · intro hcode
            cases hrejects : c.reply.rejects c.requestId with
            | false => rfl
            | true =>
                rcases answer_of_rejects codecs hrejects with ⟨-, e, he⟩ | ⟨hhttp, -⟩
                · cases hanswer.symm.trans he
                · exact absurd (hcode hnew hrejects) hhttp

/-- On every run of submissions only what the server accepted is counted
and recorded, exactly if every rejection comes as an HTTP status code. -/
theorem onlyAccepted_iff (codecs : Codecs) (startedAt : Nat) (calls : List Submission) :
    Lts.Along (step codecs) OnlyAccepted ⟨{ now := startedAt }, []⟩ calls
      ↔ Lts.Guarded (step codecs) ByStatusCode ⟨{ now := startedAt }, []⟩ calls := by
  refine Lts.along_iff_guarded (fun _ _ _ (_ : True) _ => trivial)
    (fun _ _ _ _ hs h => onlyAccepted_step_iff hs h) trivial ⟨?_, rfl, ?_⟩
  · intro tx t ht
    cases ht
  · intro e he
    cases he

/-! ## A rate limit -/

/-- A submission over QUIC that the worker answers with these bytes. -/
def overQuic (wait : Duration) (response : List UInt8) : Submission where
  tx := [1, 2, 3]
  wait := wait
  took := 0
  requestId := "req-1"
  transactionId := "tx-1"
  options := {}
  timestamp := 5
  reply := .quic (.ok response)

/-- The worker's status byte is that of a rate limit. The submission is
counted as confirmed, and at once refused as a duplicate. -/
theorem rateLimit_recorded :
    ¬ Lts.Along (step ⟨fun _ => "", fun _ => ""⟩) OnlyAccepted ⟨{ now := 0 }, []⟩
      [overQuic 0 [0, 0, 0, 0, 3, 0]] := by
  intro h
  have hlast := h _ _ (List.prefix_refl _) rfl
  have hagain := hlast.resubmittable _ rfl rfl
  revert hagain
  decide

end Verdict

end Slipstream
