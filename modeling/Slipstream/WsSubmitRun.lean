import Slipstream.Intake
import Slipstream.WsSubmit

/-!
# A WebSocket submit over the messages it takes

`SubmitLoop.onMessage` is one round of the receive loop of
`submit_transaction`; here the loop runs over a queue of server messages,
with no timeout and the queue left open. `awaitResponse` is the call from
its first `recv` on: the result once the loop is left, and the messages
not taken.

Only the messages that carry the call's request id (`own`) have a part in
it: `awaitResponse_isolated` compares two queues that agree on those.
-/

namespace Slipstream

namespace SubmitLoop

/-- A round as the loop sees it: a message passed over changes nothing. -/
def round (l : SubmitLoop) (msg : ServerMessage) : Intake.Round SubmitLoop :=
  match l.onMessage msg with
  | .ignored => .again l
  | .next l' => .again l'
  | .finished l' => .left l'

def consume : SubmitLoop → List ServerMessage → Intake.Outcome SubmitLoop ServerMessage :=
  Intake.drain round

theorem round_of_not_own {l : SubmitLoop} {msg : ServerMessage}
    (h : msg.requestId ≠ some l.requestId) : l.round msg = .again l := by
  rw [round, (onMessage_eq_ignored_iff l msg).mpr h]

theorem round_accepted (l : SubmitLoop) (transactionId : String) :
    l.round (.transactionAccepted l.requestId transactionId)
      = .again (l.onAccepted transactionId) := by
  simp [round, onMessage]

theorem round_confirmed {l : SubmitLoop} {c : WsTransactionConfirmed}
    (h : c.requestId = l.requestId) :
    l.round (.transactionConfirmed c) = .left (l.onConfirmed c) := by
  simp [round, onMessage, h]

theorem round_failed (l : SubmitLoop) (transactionId : String) (error : TransactionError) :
    l.round (.transactionFailed l.requestId transactionId error)
      = .left (l.onFailed transactionId error) := by
  simp [round, onMessage]

/-- What an update does to the loop before its status is looked at. -/
def merged (l : SubmitLoop) (u : WsTransactionUpdate) : SubmitLoop :=
  let l := if u.transactionId = "" then l else { l with transactionId := u.transactionId }
  let l := l.withProgress u.signature u.slot u.slotSent u.slotAccepted
  { l with routing := u.routing.or l.routing }

theorem onUpdate_eq_match (l : SubmitLoop) (u : WsTransactionUpdate) :
    l.onUpdate u
      = match u.status with
        | "pending" => .next { l.merged u with status := .pending }
        | "processing" => .next { l.merged u with status := .processing }
        | "sent" => .next { l.merged u with status := .sent }
        | "confirmed" => .finished (l.merged u)
        | "failed" => .finished (l.merged u)
        | _ => .next { l.merged u with status := .processing } := rfl

/-- An update goes on with a status of its own, or leaves the loop with
the status it had. -/
theorem onUpdate_cases (l : SubmitLoop) (u : WsTransactionUpdate) :
    (∃ status, status.isTerminal = false ∧ ¬ (u.status = "confirmed" ∨ u.status = "failed")
        ∧ l.onUpdate u = .next { l.merged u with status := status })
      ∨ ((u.status = "confirmed" ∨ u.status = "failed")
        ∧ l.onUpdate u = .finished (l.merged u)) := by
  obtain ⟨r, hr⟩ : ∃ r, l.onUpdate u = r := ⟨_, rfl⟩
  rw [hr]
  rw [onUpdate_eq_match] at hr
  split at hr
  · rename_i hs
    exact .inl ⟨.pending, rfl, by simp [hs], hr.symm⟩
  · rename_i hs
    exact .inl ⟨.processing, rfl, by simp [hs], hr.symm⟩
  · rename_i hs
    exact .inl ⟨.sent, rfl, by simp [hs], hr.symm⟩
  · rename_i hs
    exact .inr ⟨.inl hs, hr.symm⟩
  · rename_i hs
    exact .inr ⟨.inr hs, hr.symm⟩
  · rename_i hc hf
    exact .inl ⟨.processing, rfl, fun h => h.elim hc hf, hr.symm⟩

theorem round_update {l : SubmitLoop} {u : WsTransactionUpdate}
    (h : u.requestId = l.requestId) :
    (∃ status, status.isTerminal = false ∧ ¬ (u.status = "confirmed" ∨ u.status = "failed")
        ∧ l.round (.transactionUpdate u) = .again { l.merged u with status := status })
      ∨ ((u.status = "confirmed" ∨ u.status = "failed")
        ∧ l.round (.transactionUpdate u) = .left (l.merged u)) := by
  rw [round, onMessage, if_pos h]
  rcases l.onUpdate_cases u with ⟨status, hterm, hs, hr⟩ | ⟨hs, hr⟩
  · exact .inl ⟨status, hterm, hs, by rw [hr]⟩
  · exact .inr ⟨hs, by rw [hr]⟩

/-- Every message of the call is one of four, and the loop's round is
known for each. -/
theorem requestId_round (l : SubmitLoop) (msg : ServerMessage) :
    (l.round msg).state.requestId = l.requestId := by
  by_cases h : msg.requestId = some l.requestId
  · cases msg with
    | transactionAccepted requestId transactionId =>
        obtain rfl := Option.some.inj h
        rw [round_accepted]
        rfl
    | transactionUpdate u =>
        have hmerged : (l.merged u).requestId = l.requestId := by
          unfold merged
          split <;> rfl
        rcases round_update (Option.some.inj h) with ⟨status, -, -, hr⟩ | ⟨-, hr⟩
        · rw [hr]
          exact hmerged
        · rw [hr]
          exact hmerged
    | transactionConfirmed c =>
        rw [round_confirmed (Option.some.inj h)]
        rfl
    | transactionFailed requestId transactionId error =>
        obtain rfl := Option.some.inj h
        rw [round_failed]
        rfl
    | _ => cases h
  · rw [round_of_not_own h]
    rfl

theorem requestId_again {l l' : SubmitLoop} {msg : ServerMessage}
    (h : l.round msg = .again l') : l'.requestId = l.requestId := by
  have hround := requestId_round l msg
  rwa [h] at hround

end SubmitLoop

/-! ## Traffic of other requests -/

/-- The messages of a request. -/
def own (requestId : String) (msgs : List ServerMessage) : List ServerMessage :=
  msgs.filter fun msg => decide (msg.requestId = some requestId)

/-- `submit_transaction` from its first `recv` on: the result, with the
clock read at the end, and the messages it did not take. -/
def awaitResponse (requestId : String) (options : SubmitOptions) (timestamp : UInt64)
    (msgs : List ServerMessage) : Option (TransactionResult × List ServerMessage) :=
  match (SubmitLoop.start requestId options).consume msgs with
  | .waiting _ => none
  | .left l rest => some (l.result timestamp, rest)

theorem awaitResponse_eq_some {requestId : String} {options : SubmitOptions}
    {timestamp : UInt64} {msgs rest : List ServerMessage} {res : TransactionResult} :
    awaitResponse requestId options timestamp msgs = some (res, rest)
      ↔ ∃ l, (SubmitLoop.start requestId options).consume msgs = .left l rest
        ∧ l.result timestamp = res := by
  unfold awaitResponse
  cases (SubmitLoop.start requestId options).consume msgs with
  | waiting l => simp
  | left l rest' =>
      constructor
      · intro h
        obtain ⟨hres, rfl⟩ := Prod.mk.inj (Option.some.inj h)
        exact ⟨l, rfl, hres⟩
      · rintro ⟨l', h, rfl⟩
        obtain ⟨rfl, rfl⟩ := Intake.Outcome.left.inj h
        rfl

theorem awaitResponse_eq_none {requestId : String} {options : SubmitOptions}
    {timestamp : UInt64} {msgs : List ServerMessage} {l : SubmitLoop}
    (h : (SubmitLoop.start requestId options).consume msgs = .waiting l) :
    awaitResponse requestId options timestamp msgs = none := by
  rw [awaitResponse, h]

/-- A call that returned without leaving a message over. -/
theorem consume_of_awaitResponse {requestId : String} {options : SubmitOptions}
    {timestamp : UInt64} {msgs : List ServerMessage} {res : TransactionResult}
    (h : awaitResponse requestId options timestamp msgs = some (res, [])) :
    ∃ l pre msg u, msgs = pre ++ [msg] ∧ msg.requestId = some requestId
      ∧ (SubmitLoop.start requestId options).consume pre = .waiting u
      ∧ u.requestId = requestId ∧ u.round msg = .left l ∧ l.result timestamp = res := by
  obtain ⟨l, hl, hres⟩ := awaitResponse_eq_some.mp h
  obtain ⟨pre, msg, u, rfl, hu, hround⟩ := Intake.drain_eq_left_nil hl
  have hid : u.requestId = requestId :=
    Intake.inv_waiting (fun l => l.requestId = requestId)
      (fun hs ha => (SubmitLoop.requestId_again ha).trans hs) rfl hu
  refine ⟨l, pre, msg, u, rfl, ?_, hu, hid, hround, hres⟩
  by_contra hown
  rw [SubmitLoop.round_of_not_own (by rwa [hid])] at hround
  cases hround

/-- The loops of two calls that are sent the same messages of their
request end the same way, with the same messages of it not taken. -/
theorem consume_congr {requestId : String} {options : SubmitOptions}
    {msgs₁ msgs₂ : List ServerMessage} (h : own requestId msgs₁ = own requestId msgs₂) :
    ((SubmitLoop.start requestId options).consume msgs₁).mapRest (own requestId)
      = ((SubmitLoop.start requestId options).consume msgs₂).mapRest (own requestId) := by
  refine Intake.drain_congr (fun l => l.requestId = requestId)
    (fun hs => (SubmitLoop.requestId_round _ _).trans hs) ?_ rfl h
  intro l msg hid hother
  refine SubmitLoop.round_of_not_own ?_
  rw [hid]
  exact of_decide_eq_false hother

/-- Two calls with the same request id that are sent the same messages of
that request, with any other traffic in between, are both still waiting,
or both return the same result after the same messages of theirs. -/
theorem awaitResponse_isolated {requestId : String} {options : SubmitOptions}
    {msgs₁ msgs₂ : List ServerMessage} (h : own requestId msgs₁ = own requestId msgs₂)
    (t₁ t₂ : UInt64) :
    (awaitResponse requestId options t₁ msgs₁ = none
        ∧ awaitResponse requestId options t₂ msgs₂ = none)
      ∨ ∃ res₁ res₂ used₁ rest₁ used₂ rest₂,
        msgs₁ = used₁ ++ rest₁ ∧ msgs₂ = used₂ ++ rest₂
          ∧ awaitResponse requestId options t₁ msgs₁ = some (res₁, rest₁)
          ∧ awaitResponse requestId options t₂ msgs₂ = some (res₂, rest₂)
          ∧ { res₁ with timestamp := t₂ } = res₂
          ∧ own requestId used₁ = own requestId used₂ := by
  have hsame := @consume_congr requestId options msgs₁ msgs₂ h
  cases h₁ : (SubmitLoop.start requestId options).consume msgs₁ with
  | waiting l₁ =>
      rw [h₁] at hsame
      cases h₂ : (SubmitLoop.start requestId options).consume msgs₂ with
      | waiting l₂ => exact .inl ⟨awaitResponse_eq_none h₁, awaitResponse_eq_none h₂⟩
      | left l₂ rest₂ =>
          rw [h₂] at hsame
          cases hsame
  | left l₁ rest₁ =>
      rw [h₁] at hsame
      cases h₂ : (SubmitLoop.start requestId options).consume msgs₂ with
      | waiting l₂ =>
          rw [h₂] at hsame
          cases hsame
      | left l₂ rest₂ =>
          rw [h₂] at hsame
          obtain ⟨rfl, hrest⟩ := Intake.Outcome.left.inj hsame
          obtain ⟨used₁, rfl, -⟩ := Intake.drain_eq_left h₁
          obtain ⟨used₂, rfl, -⟩ := Intake.drain_eq_left h₂
          refine .inr ⟨l₁.result t₁, l₁.result t₂, used₁, rest₁, used₂, rest₂, rfl, rfl,
            awaitResponse_eq_some.mpr ⟨l₁, h₁, rfl⟩, awaitResponse_eq_some.mpr ⟨l₁, h₂, rfl⟩,
            rfl, ?_⟩
          unfold own at h hrest ⊢
          rw [List.filter_append, List.filter_append, hrest] at h
          exact List.append_cancel_right h

/-! ## A run with and without other traffic -/

def ownTraffic : List ServerMessage :=
  [.transactionAccepted "req-1" "tx-1",
    .transactionConfirmed
      { requestId := "req-1"
        transactionId := "tx-1"
        signature := some "sig-1"
        slot := some 250000002
        slotSent := some 250000000
        slotAccepted := none
        routing := none }]

def mixedTraffic : List ServerMessage :=
  .heartbeat :: .transactionFailed "req-2" "tx-2" ⟨"rejected", "expired", none⟩
    :: ownTraffic ++ [.heartbeat]

theorem awaitResponse_isolated_mixed :
    (awaitResponse "req-1" {} 5 ownTraffic = none ∧ awaitResponse "req-1" {} 7 mixedTraffic = none)
      ∨ ∃ res₁ res₂ used₁ rest₁ used₂ rest₂,
        ownTraffic = used₁ ++ rest₁ ∧ mixedTraffic = used₂ ++ rest₂
          ∧ awaitResponse "req-1" {} 5 ownTraffic = some (res₁, rest₁)
          ∧ awaitResponse "req-1" {} 7 mixedTraffic = some (res₂, rest₂)
          ∧ { res₁ with timestamp := 7 } = res₂
          ∧ own "req-1" used₁ = own "req-1" used₂ :=
  awaitResponse_isolated (by decide) 5 7

end Slipstream
