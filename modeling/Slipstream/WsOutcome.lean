import Slipstream.SubmitResponse
import Slipstream.WsSubmitRun

/-!
# What a submit reports back

Two questions about the result of a WebSocket submit, for every sequence
of messages the call takes before it returns. Is its status the server's
verdict? The two updates that leave the loop do so before their status
is assigned, and the words the HTTP transport knows as final are taken
for progress otherwise: `reportsVerdict_iff` says that the verdict is
reported exactly when no update carries one. Are the details of the
messages kept? A confirmation overwrites the routing, and three kinds of
message overwrite the transaction id, whatever they carry:
`detailsKept_iff` says when that loses nothing, and when the gRPC
conversion keeps the routing it was given.
-/

namespace Slipstream

/-! ## The verdict -/

/-- What a message of the call says has become of the transaction. -/
def ServerMessage.verdict : ServerMessage → Option TransactionStatus
  | .transactionUpdate u =>
      if u.status = "confirmed" then some .confirmed
      else if u.status = "failed" then some .failed
      else none
  | .transactionConfirmed _ => some .confirmed
  | .transactionFailed .. => some .failed
  | _ => none

/-- The status a call returns, against the messages it took: final, the
verdict of the last message of its own, and that of the first update
whose status word is a final one. -/
structure ReportsVerdict (requestId : String) (msgs : List ServerMessage)
    (status : TransactionStatus) : Prop where
  terminal : status.isTerminal = true
  last : ∃ msg, (own requestId msgs).getLast? = some msg ∧ msg.verdict = some status
  ends : ∀ pre u post, msgs = pre ++ .transactionUpdate u :: post →
    u.requestId = requestId → (parseStatus u.status).isTerminal = true →
    post = [] ∧ status = parseStatus u.status

namespace SubmitLoop

theorem status_merged (l : SubmitLoop) (u : WsTransactionUpdate) :
    (l.merged u).status = l.status := by
  unfold merged
  split <;> rfl

/-- While the loop waits its status is not a final one. -/
theorem status_again {l l' : SubmitLoop} {msg : ServerMessage}
    (hl : l.status.isTerminal = false) (h : l.round msg = .again l') :
    l'.status.isTerminal = false := by
  by_cases hown : msg.requestId = some l.requestId
  · cases msg with
    | transactionAccepted requestId transactionId =>
        obtain rfl := Option.some.inj hown
        rw [round_accepted] at h
        obtain rfl := Intake.Round.again.inj h
        rfl
    | transactionUpdate u =>
        rcases round_update (Option.some.inj hown) with ⟨status, hterm, -, hr⟩ | ⟨-, hr⟩
        · rw [hr] at h
          obtain rfl := Intake.Round.again.inj h
          exact hterm
        · rw [hr] at h
          cases h
    | transactionConfirmed c =>
        rw [round_confirmed (Option.some.inj hown)] at h
        cases h
    | transactionFailed requestId transactionId error =>
        obtain rfl := Option.some.inj hown
        rw [round_failed] at h
        cases h
    | _ => cases hown
  · rw [round_of_not_own hown] at h
    obtain rfl := Intake.Round.again.inj h
    exact hl

/-- A message that ends the wait is a verdict; an update is none that
reaches the status. -/
theorem left_cases {l l' : SubmitLoop} {msg : ServerMessage} (h : l.round msg = .left l') :
    (∃ u, msg = .transactionUpdate u ∧ (u.status = "confirmed" ∨ u.status = "failed")
        ∧ l'.status = l.status)
      ∨ (∃ c, msg = .transactionConfirmed c ∧ l' = l.onConfirmed c)
      ∨ ∃ requestId transactionId error,
        msg = .transactionFailed requestId transactionId error
          ∧ l' = l.onFailed transactionId error := by
  have hown : msg.requestId = some l.requestId := by
    by_contra hne
    rw [round_of_not_own hne] at h
    cases h
  cases msg with
  | transactionAccepted requestId transactionId =>
      obtain rfl := Option.some.inj hown
      rw [round_accepted] at h
      cases h
  | transactionUpdate u =>
      rcases round_update (Option.some.inj hown) with ⟨status, -, -, hr⟩ | ⟨hs, hr⟩
      · rw [hr] at h
        cases h
      · rw [hr] at h
        obtain rfl := Intake.Round.left.inj h
        exact .inl ⟨u, rfl, hs, status_merged l u⟩
  | transactionConfirmed c =>
      rw [round_confirmed (Option.some.inj hown)] at h
      exact .inr (.inl ⟨c, rfl, (Intake.Round.left.inj h).symm⟩)
  | transactionFailed requestId transactionId error =>
      obtain rfl := Option.some.inj hown
      rw [round_failed] at h
      exact .inr (.inr ⟨_, transactionId, error, rfl, (Intake.Round.left.inj h).symm⟩)
  | _ => cases hown

end SubmitLoop

theorem own_concat {requestId : String} {pre : List ServerMessage} {msg : ServerMessage}
    (h : msg.requestId = some requestId) :
    own requestId (pre ++ [msg]) = own requestId pre ++ [msg] := by
  unfold own
  rw [List.filter_append, List.filter_cons_of_pos (by simpa using h), List.filter_nil]

theorem parseStatus_final {word : String} (h : word = "confirmed" ∨ word = "failed") :
    (parseStatus word).isTerminal = true := by
  rcases h with rfl | rfl <;> rfl

/-- A WebSocket submit reports the server's verdict exactly when none of
its updates carries one. -/
theorem reportsVerdict_iff {requestId : String} {options : SubmitOptions}
    {timestamp : UInt64} {msgs : List ServerMessage} {res : TransactionResult}
    (h : awaitResponse requestId options timestamp msgs = some (res, [])) :
    ReportsVerdict requestId msgs res.status
      ↔ ∀ u, .transactionUpdate u ∈ msgs → u.requestId = requestId →
        (parseStatus u.status).isTerminal = false := by
  obtain ⟨l, pre, msg, l₀, rfl, hown, hpre, -, hround, rfl⟩ := consume_of_awaitResponse h
  have hwait : l₀.status.isTerminal = false :=
    Intake.inv_waiting (fun l => l.status.isTerminal = false)
      (fun hs ha => SubmitLoop.status_again hs ha) rfl hpre
  have hstatus : (l.result timestamp).status = l.status := rfl
  rw [hstatus]
  constructor
  · intro hrep u hu hid
    by_contra hterm
    rw [Bool.not_eq_false] at hterm
    obtain ⟨before, after, heq⟩ := List.append_of_mem hu
    obtain ⟨rfl, -⟩ := hrep.ends before u after heq hid hterm
    obtain ⟨-, hlast⟩ := List.append_inj' heq rfl
    obtain ⟨rfl, -⟩ := List.cons.inj hlast
    -- the update left the loop with the status it found
    have hfinal := hrep.terminal
    rcases SubmitLoop.left_cases hround with ⟨_, -, -, hs⟩ | ⟨_, hne, -⟩ | ⟨_, _, _, hne, -⟩
    · rw [hs, hwait] at hfinal
      cases hfinal
    · cases hne
    · cases hne
  · intro hnone
    have hends : ∀ (pre' : List ServerMessage) (u : WsTransactionUpdate)
        (post : List ServerMessage), pre ++ [msg] = pre' ++ .transactionUpdate u :: post →
        u.requestId = requestId → (parseStatus u.status).isTerminal = true →
        post = [] ∧ l.status = parseStatus u.status := by
      intro pre' u post heq hid hterm
      rw [hnone u (heq ▸ by simp) hid] at hterm
      cases hterm
    have hlast : (own requestId (pre ++ [msg])).getLast? = some msg := by
      rw [own_concat hown]
      exact List.getLast?_concat ..
    rcases SubmitLoop.left_cases hround with
      ⟨u, rfl, hs, -⟩ | ⟨c, rfl, rfl⟩ | ⟨_, _, _, rfl, rfl⟩
    · have hterm := hnone u (by simp) (Option.some.inj hown)
      rw [parseStatus_final hs] at hterm
      cases hterm
    · exact ⟨rfl, ⟨_, hlast, rfl⟩, hends⟩
    · exact ⟨rfl, ⟨_, hlast, rfl⟩, hends⟩

/-- An update on the way of `req-1`. -/
def updateOf (status : String) (routing : Option RoutingInfo) : WsTransactionUpdate where
  requestId := "req-1"
  transactionId := "tx-1"
  status := status
  signature := none
  slot := none
  slotSent := none
  slotAccepted := none
  timestamp := 1706011200000
  routing := routing

/-- The server confirms by an update, and the call returns a pending
transaction. -/
theorem pending_after_confirmed :
    (awaitResponse "req-1" {} 5 [.transactionUpdate (updateOf "confirmed" none)]).map
        (fun r => (r.1.status, r.2)) = some (.pending, [])
      ∧ ¬ ReportsVerdict "req-1" [.transactionUpdate (updateOf "confirmed" none)] .pending := by
  refine ⟨by decide, fun h => ?_⟩
  have hterm := h.terminal
  cases hterm

theorem reportsVerdict_ownTraffic :
    ∃ res, awaitResponse "req-1" {} 5 ownTraffic = some (res, [])
      ∧ ReportsVerdict "req-1" ownTraffic res.status := by
  refine ⟨_, rfl, (@reportsVerdict_iff "req-1" {} 5 ownTraffic _ rfl).mpr fun u hu => ?_⟩
  simp [ownTraffic] at hu

/-! ## The details -/

namespace ServerMessage

/-! What a message reports, absent where it has no such field. -/

def signature : ServerMessage → Option String
  | .transactionUpdate u => u.signature
  | .transactionConfirmed c => c.signature
  | _ => none

def slot : ServerMessage → Option UInt64
  | .transactionUpdate u => u.slot
  | .transactionConfirmed c => c.slot
  | _ => none

def slotSent : ServerMessage → Option UInt64
  | .transactionUpdate u => u.slotSent
  | .transactionConfirmed c => c.slotSent
  | _ => none

def slotAccepted : ServerMessage → Option UInt64
  | .transactionUpdate u => u.slotAccepted
  | .transactionConfirmed c => c.slotAccepted
  | _ => none

def routing : ServerMessage → Option RoutingInfo
  | .transactionUpdate u => u.routing
  | .transactionConfirmed c => c.routing
  | _ => none

def nonEmpty (s : String) : Option String := if s = "" then none else some s

def transactionId : ServerMessage → Option String
  | .transactionAccepted _ transactionId => nonEmpty transactionId
  | .transactionUpdate u => nonEmpty u.transactionId
  | .transactionConfirmed c => nonEmpty c.transactionId
  | .transactionFailed _ transactionId _ => nonEmpty transactionId
  | _ => none

/-! What a message of the call writes over the loop's routing and over its
transaction id. -/

def routingWritten : ServerMessage → Option (Option RoutingInfo)
  | .transactionUpdate u => u.routing.map some
  | .transactionConfirmed c => some c.routing
  | _ => none

def transactionIdWritten : ServerMessage → Option String
  | .transactionAccepted _ transactionId => some transactionId
  | .transactionUpdate u => nonEmpty u.transactionId
  | .transactionConfirmed c => some c.transactionId
  | .transactionFailed _ transactionId _ => some transactionId
  | _ => none

end ServerMessage

/-- The last value the messages of a request report. -/
def lastReported {γ : Type} (f : ServerMessage → Option γ) (requestId : String)
    (msgs : List ServerMessage) : Option γ :=
  ((own requestId msgs).filterMap f).getLast?

structure DetailsKept (requestId : String) (msgs : List ServerMessage)
    (res : TransactionResult) : Prop where
  signature : res.signature = lastReported ServerMessage.signature requestId msgs
  slot : res.slot = lastReported ServerMessage.slot requestId msgs
  slotSent : res.slotSent = lastReported ServerMessage.slotSent requestId msgs
  slotAccepted :
    res.slotAccepted = lastReported ServerMessage.slotAccepted requestId msgs
  routing : res.routing = lastReported ServerMessage.routing requestId msgs
  transactionId :
    res.transactionId = (lastReported ServerMessage.transactionId requestId msgs).getD ""

namespace SubmitLoop

/-- What a message of the call does to the six details: four are merged,
two may be overwritten. -/
structure WritesDetails (l : SubmitLoop) (msg : ServerMessage) (l' : SubmitLoop) : Prop where
  signature : l'.signature = msg.signature.or l.signature
  slot : l'.slot = msg.slot.or l.slot
  slotSent : l'.slotSent = msg.slotSent.or l.slotSent
  slotAccepted : l'.slotAccepted = msg.slotAccepted.or l.slotAccepted
  routing : l'.routing = msg.routingWritten.getD l.routing
  transactionId : l'.transactionId = msg.transactionIdWritten.getD l.transactionId

theorem details_merged (l : SubmitLoop) (u : WsTransactionUpdate) :
    WritesDetails l (.transactionUpdate u) (l.merged u) := by
  have hall : (l.merged u).signature = u.signature.or l.signature
      ∧ (l.merged u).slot = u.slot.or l.slot
      ∧ (l.merged u).slotSent = u.slotSent.or l.slotSent
      ∧ (l.merged u).slotAccepted = u.slotAccepted.or l.slotAccepted
      ∧ (l.merged u).routing = (u.routing.map some).getD l.routing
      ∧ (l.merged u).transactionId
        = (ServerMessage.nonEmpty u.transactionId).getD l.transactionId := by
    unfold merged ServerMessage.nonEmpty
    cases u.routing <;> split <;> exact ⟨rfl, rfl, rfl, rfl, rfl, rfl⟩
  obtain ⟨hsignature, hslot, hsent, haccepted, hrouting, hid⟩ := hall
  exact ⟨hsignature, hslot, hsent, haccepted, hrouting, hid⟩

theorem details_round {l : SubmitLoop} {msg : ServerMessage}
    (h : msg.requestId = some l.requestId) : WritesDetails l msg (l.round msg).state := by
  cases msg with
  | transactionAccepted requestId transactionId =>
      obtain rfl := Option.some.inj h
      rw [round_accepted]
      exact ⟨rfl, rfl, rfl, rfl, rfl, rfl⟩
  | transactionUpdate u =>
      rcases round_update (Option.some.inj h) with ⟨status, -, -, hr⟩ | ⟨-, hr⟩
      · rw [hr]
        obtain ⟨hsignature, hslot, hsent, haccepted, hrouting, hid⟩ := details_merged l u
        exact ⟨hsignature, hslot, hsent, haccepted, hrouting, hid⟩
      · rw [hr]
        exact details_merged l u
  | transactionConfirmed c =>
      rw [round_confirmed (Option.some.inj h)]
      exact ⟨rfl, rfl, rfl, rfl, rfl, rfl⟩
  | transactionFailed requestId transactionId error =>
      obtain rfl := Option.some.inj h
      rw [round_failed]
      exact ⟨rfl, rfl, rfl, rfl, rfl, rfl⟩
  | _ => cases h

/-- A detail ends as the last thing the call's messages wrote to it. -/
theorem val_consume {β : Type} (val : SubmitLoop → β) (write : ServerMessage → Option β)
    (hval : ∀ {l : SubmitLoop} {msg : ServerMessage}, msg.requestId = some l.requestId →
      val (l.round msg).state = (write msg).getD (val l))
    {requestId : String} {l l' : SubmitLoop} {msgs : List ServerMessage}
    (hid : l.requestId = requestId) (h : l.consume msgs = .left l' []) :
    val l' = ((own requestId msgs).filterMap write).getLast?.getD (val l) := by
  have hdrain : Intake.drain round l msgs = .left l' [] := h
  have hrun := Intake.val_drain (fun l' => l'.requestId = requestId) val
    (fun msg => if msg.requestId = some requestId then write msg else none)
    (fun hs => (requestId_round _ _).trans hs) ?_ hid (congrArg Intake.Outcome.rest hdrain)
  · rw [hdrain] at hrun
    simp only [own, List.filterMap_filter, decide_eq_true_eq]
    exact hrun
  · intro s msg hs
    by_cases hown : msg.requestId = some requestId
    · rw [if_pos hown]
      exact hval (hown.trans (congrArg some hs.symm))
    · rw [if_neg hown, round_of_not_own (by rwa [hs])]
      rfl

/-- A detail that is merged ends as the last value reported. -/
theorem merged_consume {γ : Type} (val : SubmitLoop → Option γ) (f : ServerMessage → Option γ)
    (hval : ∀ {l : SubmitLoop} {msg : ServerMessage}, msg.requestId = some l.requestId →
      val (l.round msg).state = (f msg).or (val l))
    {requestId : String} {l l' : SubmitLoop} {msgs : List ServerMessage} (hl : val l = none)
    (hid : l.requestId = requestId) (h : l.consume msgs = .left l' []) :
    val l' = lastReported f requestId msgs := by
  have hrun := val_consume val (fun msg => (f msg).map some)
    (fun hown => by rw [hval hown]; cases f _ <;> rfl) hid h
  rw [hrun, hl, lastReported, ← List.map_filterMap, List.getLast?_map]
  cases ((own requestId msgs).filterMap f).getLast? <;> rfl

end SubmitLoop

theorem nonEmpty_eq_iff {s : String} {o : Option String} (h : o ≠ some "") :
    s = o.getD "" ↔ ServerMessage.nonEmpty s = o := by
  unfold ServerMessage.nonEmpty
  cases o with
  | none => simp
  | some t =>
      have ht : t ≠ "" := fun heq => h (congrArg some heq)
      by_cases hs : s = ""
      · simp [hs, Ne.symm ht]
      · simp [hs]

theorem lastReported_transactionId_ne (requestId : String) (msgs : List ServerMessage) :
    lastReported ServerMessage.transactionId requestId msgs ≠ some "" := by
  intro h
  obtain ⟨msg, -, hmsg⟩ := List.mem_filterMap.mp (List.mem_of_getLast? h)
  have hne : ∀ s, ServerMessage.nonEmpty s ≠ some "" := by
    intro s
    unfold ServerMessage.nonEmpty
    split <;> simp_all
  cases msg <;> first | exact hne _ hmsg | cases hmsg

/-- What is reported of the routing is what is written, an absent one
being blank. -/
theorem report_routingWritten :
    Intake.report ServerMessage.routingWritten id = ServerMessage.routing := by
  funext msg
  cases msg with
  | transactionUpdate u =>
      show (u.routing.map some).bind id = u.routing
      cases u.routing <;> rfl
  | _ => rfl

theorem report_transactionIdWritten :
    Intake.report ServerMessage.transactionIdWritten ServerMessage.nonEmpty
      = ServerMessage.transactionId := by
  funext msg
  cases msg with
  | transactionUpdate u =>
      show (ServerMessage.nonEmpty u.transactionId).bind ServerMessage.nonEmpty
        = ServerMessage.nonEmpty u.transactionId
      unfold ServerMessage.nonEmpty
      split <;> simp_all
  | _ => rfl

/-- The details of a WebSocket submit are the last ones reported exactly
when no message blanks a routing or a transaction id that was reported
and is not reported again; a gRPC response's routing is kept exactly
under a confirmation. -/
theorem detailsKept_iff {requestId : String} {options : SubmitOptions}
    {timestamp : UInt64} {msgs : List ServerMessage} {res : TransactionResult}
    (h : awaitResponse requestId options timestamp msgs = some (res, []))
    (json : (AList fun _ : String => String) → String) (r : TransactionResponse) :
    (DetailsKept requestId msgs res
        ↔ Intake.Unblanked ServerMessage.routingWritten id (own requestId msgs)
          ∧ Intake.Unblanked ServerMessage.transactionIdWritten ServerMessage.nonEmpty
            (own requestId msgs))
      ∧ (r.RoutingKept (r.toResult json) ↔ (r.routing ≠ none → r.confirmation ≠ none)) := by
  refine ⟨?_, r.routingKept_iff json⟩
  obtain ⟨l, hl, rfl⟩ := awaitResponse_eq_some.mp h
  have hstart : (SubmitLoop.start requestId options).requestId = requestId := rfl
  have hsignature := SubmitLoop.merged_consume SubmitLoop.signature ServerMessage.signature
    (fun hown => (SubmitLoop.details_round hown).signature) rfl hstart hl
  have hslot := SubmitLoop.merged_consume SubmitLoop.slot ServerMessage.slot
    (fun hown => (SubmitLoop.details_round hown).slot) rfl hstart hl
  have hsent := SubmitLoop.merged_consume SubmitLoop.slotSent ServerMessage.slotSent
    (fun hown => (SubmitLoop.details_round hown).slotSent) rfl hstart hl
  have haccepted := SubmitLoop.merged_consume SubmitLoop.slotAccepted ServerMessage.slotAccepted
    (fun hown => (SubmitLoop.details_round hown).slotAccepted) rfl hstart hl
  have hrouting : l.routing = lastReported ServerMessage.routing requestId msgs
      ↔ Intake.Unblanked ServerMessage.routingWritten id (own requestId msgs) := by
    rw [← Intake.bind_getLast?_eq_iff, report_routingWritten,
      SubmitLoop.val_consume SubmitLoop.routing ServerMessage.routingWritten
        (fun hown => (SubmitLoop.details_round hown).routing) hstart hl]
    show Option.getD _ none = _ ↔ Option.bind _ id = _
    cases ((own requestId msgs).filterMap ServerMessage.routingWritten).getLast? <;> rfl
  have hid : l.transactionId
        = (lastReported ServerMessage.transactionId requestId msgs).getD ""
      ↔ Intake.Unblanked ServerMessage.transactionIdWritten ServerMessage.nonEmpty
        (own requestId msgs) := by
    rw [nonEmpty_eq_iff (lastReported_transactionId_ne requestId msgs),
      ← Intake.bind_getLast?_eq_iff, report_transactionIdWritten,
      SubmitLoop.val_consume SubmitLoop.transactionId ServerMessage.transactionIdWritten
        (fun hown => (SubmitLoop.details_round hown).transactionId) hstart hl]
    show ServerMessage.nonEmpty (Option.getD _ "") = _ ↔ Option.bind _ _ = _
    cases ((own requestId msgs).filterMap ServerMessage.transactionIdWritten).getLast? <;> rfl
  constructor
  · intro hkept
    exact ⟨hrouting.mp hkept.routing, hid.mp hkept.transactionId⟩
  · rintro ⟨hr, ht⟩
    exact ⟨hsignature, hslot, hsent, haccepted, hrouting.mpr hr, hid.mpr ht⟩

/-! ## A routing lost and a routing kept -/

def routed : RoutingInfo := ⟨"us-east", "sender-1", 3, 9, 12⟩

/-- The routing comes with an update, and not again with the
confirmation. -/
def routedThenConfirmed : List ServerMessage :=
  .transactionUpdate (updateOf "sent" (some routed)) :: ownTraffic.tail

def processingResponse (confirmation : Option ConfirmationInfo) : TransactionResponse where
  requestId := "req-1"
  transactionId := "tx-1"
  status := 2
  timestamp := 1706011200000
  routing := some ⟨"us-east", "sender-1"⟩
  confirmation := confirmation
  error := none

theorem routing_lost :
    (∃ res, awaitResponse "req-1" {} 5 routedThenConfirmed = some (res, [])
        ∧ res.routing = none ∧ ¬ DetailsKept "req-1" routedThenConfirmed res)
      ∧ ¬ (processingResponse none).RoutingKept ((processingResponse none).toResult fun _ => "") := by
  refine ⟨⟨_, rfl, rfl, fun h => ?_⟩, ?_⟩
  · have hrouting := h.routing
    revert hrouting
    decide
  · rw [TransactionResponse.routingKept_iff]
    simp [processingResponse]

theorem details_kept :
    (∃ res, awaitResponse "req-1" {} 5 ownTraffic = some (res, [])
        ∧ DetailsKept "req-1" ownTraffic res)
      ∧ (processingResponse (some ⟨"sig-1", 250000002, 3, 9, 12⟩)).RoutingKept
        ((processingResponse (some ⟨"sig-1", 250000002, 3, 9, 12⟩)).toResult fun _ => "") := by
  have hiff := @detailsKept_iff "req-1" {} 5 ownTraffic _ rfl (fun _ => "")
    (processingResponse (some ⟨"sig-1", 250000002, 3, 9, 12⟩))
  refine ⟨⟨_, rfl, hiff.1.mpr ⟨?_, ?_⟩⟩, hiff.2.mpr (by simp [processingResponse])⟩
  · exact (Intake.bind_getLast?_eq_iff _).mp (by decide)
  · exact (Intake.bind_getLast?_eq_iff _).mp (by decide)

end Slipstream
