import Slipstream.LogReader
import Slipstream.FormUrl
import Slipstream.SubmitRequest
import Slipstream.Verdict

/-!
# HTTP polling

The HTTP transport has no streams: each `subscribe_*` starts a task that
polls its stream over and over and sends what it gets to the receiver of
the subscription. A poll asks for the message after the last one, which
it names by its id in the query; that id moves on in one place only, on
a success whose body has data, just before the data are sent. The five
loops are one loop at five paths.

The server keeps a log for the stream, here of messages with distinct
ids. `contiguous_along` says that what a loop has sent is at any time a
contiguous part of the log: whatever becomes of the polls, no message
is skipped and none is sent twice.
-/

namespace Slipstream

namespace Polling

open Verdict (isSuccess)

/-! ## The loop and the server -/

structure PollResponse (T : Type) where
  data : Option T
  messageId : String
  timestamp : UInt64
  hasMore : Bool

/-- A response, with its body read as JSON. -/
structure HttpResponse (T : Type) where
  statusCode : UInt16
  json : Option (PollResponse T)

structure PollRequest where
  url : String
  query : List Char
  authorization : Option String

/-- Where the task is in its loop. -/
inductive Task (T : Type) where
  | polling
  /-- The server may have answered already. -/
  | waiting (request : PollRequest) (answer : Option (HttpResponse T))
  | sending (data : T)
  | sleeping
  /-- The receiver was gone when the data were to be sent. -/
  | stopped (data : T)

/-- A message of the server's log. -/
structure Message (T : Type) where
  messageId : String
  data : T

/-- The server's log, what the task holds, and the channel to the
receiver with what has been taken from it. -/
structure State (T : Type) where
  log : List (Message T) := []
  baseUrl : String
  path : String
  auth : Option String
  lastId : Option String := none
  task : Task T := .polling
  queue : List T := []
  receiver : Bool := true
  received : List T := []

variable {T : Type}

/-- `subscribe_*`: the task has been started. -/
def subscribe (t : HttpTransport) (path : String) : Except SdkError (State T) :=
  if !t.isConnected then .error .notConnected
  else .ok { baseUrl := t.baseUrl, path := path, auth := t.authHeader }

def subscribeLeaderHints (t : HttpTransport) : Except SdkError (State LeaderHint) :=
  subscribe t "/v1/stream/leader-hints"

def subscribeTipInstructions (t : HttpTransport) : Except SdkError (State TipInstruction) :=
  subscribe t "/v1/stream/tip-instructions"

def subscribePriorityFees (t : HttpTransport) : Except SdkError (State PriorityFee) :=
  subscribe t "/v1/stream/priority-fees"

def subscribeLatestBlockhash (t : HttpTransport) : Except SdkError (State LatestBlockhash) :=
  subscribe t "/v1/stream/latest-blockhash"

def subscribeLatestSlot (t : HttpTransport) : Except SdkError (State LatestSlot) :=
  subscribe t "/v1/stream/latest-slot"

namespace State

def request (s : State T) : PollRequest where
  url := s.baseUrl ++ s.path
  query :=
    FormUrl.serialize
      (("timeout", "30") ::
        match s.lastId with
        | some id => [("lastId", id)]
        | none => [])
  authorization := s.auth

/-- What the task does with the outcome of a poll. -/
def handle (s : State T) : Except String (HttpResponse T) → State T
  | .ok response =>
      if isSuccess response.statusCode then
        match response.json with
        | some pollResponse =>
            match pollResponse.data with
            | some data =>
                { s with lastId := some pollResponse.messageId, task := .sending data }
            | none => { s with task := .sleeping }
        | none => { s with task := .sleeping }
      else { s with task := .sleeping }
  | .error _ => { s with task := .sleeping }

/-- Everything the task has put into the channel. -/
def sent (s : State T) : List T := s.received ++ s.queue

end State

/-- The message that the server answers a query by; without `lastId` it
may be any. -/
def answer (log : List (Message T)) (query : List Char) (first : Nat) : Option (Message T) :=
  match (FormUrl.parse query).lookup "lastId" with
  | some id => LogReader.after Message.messageId id log
  | none => log[first]?

/-- `blank` are the other fields of the answer, and its id where there is
no message. -/
def respond (blank : PollResponse T) (message : Option (Message T)) : HttpResponse T where
  statusCode := 200
  json :=
    match message with
    | some m => some { blank with data := some m.data, messageId := m.messageId }
    | none => some { blank with data := none }

/-- What becomes of a poll. -/
inductive Outcome (T : Type) where
  /-- The server's answer arrives. -/
  | answered
  | errorStatus (statusCode : UInt16) (json : Option (PollResponse T))
  | unparsable (statusCode : UInt16)
  /-- The request or the response is lost, or too late. -/
  | transportError (msg : String)

def Outcome.response (answer : Option (HttpResponse T)) :
    Outcome T → Option (Except String (HttpResponse T))
  | .answered => answer.map .ok
  | .errorStatus statusCode json =>
      if isSuccess statusCode then none else some (.ok ⟨statusCode, json⟩)
  | .unparsable statusCode => some (.ok ⟨statusCode, none⟩)
  | .transportError msg => some (.error msg)

inductive Action (T : Type) where
  /-- The server's log grows. -/
  | publish (message : Message T)
  | poll
  | answer (first : Nat) (blank : PollResponse T)
  | arrive (outcome : Outcome T)
  | send
  | wake
  /-- The receiver takes what is next in the channel. -/
  | receive
  | dropReceiver

/-- The capacity of the channel. -/
def capacity : Nat := 32

def step (s : State T) : Action T → Option (State T)
  | .publish message =>
      if message.messageId ∈ s.log.map Message.messageId then none
      else some { s with log := s.log ++ [message] }
  | .poll =>
      match s.task with
      | .polling => some { s with task := .waiting s.request none }
      | _ => none
  | .answer first blank =>
      match s.task with
      | .waiting request none =>
          let message := Polling.answer s.log request.query first
          some { s with task := .waiting request (some (respond blank message)) }
      | _ => none
  | .arrive outcome =>
      match s.task with
      | .waiting _ answer => (outcome.response answer).map s.handle
      | _ => none
  | .send =>
      match s.task with
      | .sending data =>
          if s.receiver then
            if s.queue.length < capacity then
              some { s with queue := s.queue ++ [data], task := .sleeping }
            else none
          else some { s with task := .stopped data }
      | _ => none
  | .wake =>
      match s.task with
      | .sleeping => some { s with task := .polling }
      | _ => none
  | .receive =>
      match s.queue with
      | data :: rest =>
          if s.receiver then
            some { s with queue := rest, received := s.received ++ [data] }
          else none
      | [] => none
  | .dropReceiver => some { s with receiver := false }

/-! ## Steps -/

inductive Step (s : State T) : Action T → State T → Prop where
  | published {message : Message T} (hfresh : message.messageId ∉ s.log.map Message.messageId) :
      Step s (.publish message) { s with log := s.log ++ [message] }
  | polled (htask : s.task = .polling) :
      Step s .poll { s with task := .waiting s.request none }
  | answered {first : Nat} {blank : PollResponse T} {request : PollRequest}
      (htask : s.task = .waiting request none) :
      Step s (.answer first blank)
        { s with
          task :=
            .waiting request (some (respond blank (Polling.answer s.log request.query first))) }
  | arrived {outcome : Outcome T} {request : PollRequest} {answer : Option (HttpResponse T)}
      {response : Except String (HttpResponse T)} (htask : s.task = .waiting request answer)
      (hresponse : outcome.response answer = some response) :
      Step s (.arrive outcome) (s.handle response)
  | sent {data : T} (htask : s.task = .sending data) :
      Step s .send { s with queue := s.queue ++ [data], task := .sleeping }
  | hungUp {data : T} (htask : s.task = .sending data) :
      Step s .send { s with task := .stopped data }
  | woken (htask : s.task = .sleeping) : Step s .wake { s with task := .polling }
  | received {data : T} {rest : List T} (hqueue : s.queue = data :: rest) :
      Step s .receive { s with queue := rest, received := s.received ++ [data] }
  | dropped : Step s .dropReceiver { s with receiver := false }

theorem step_cases {s t : State T} {a : Action T} (h : step s a = some t) : Step s a t := by
  cases a with
  | publish message =>
      simp only [step] at h
      split at h
      · cases h
      · rename_i hfresh
        exact Option.some.inj h ▸ .published hfresh
  | poll =>
      simp only [step] at h
      split at h
      · rename_i htask
        exact Option.some.inj h ▸ .polled htask
      · cases h
  | answer first blank =>
      simp only [step] at h
      split at h
      · rename_i htask
        exact Option.some.inj h ▸ .answered htask
      · cases h
  | arrive outcome =>
      simp only [step] at h
      split at h
      · rename_i htask
        obtain ⟨response, hresponse, rfl⟩ := Option.map_eq_some_iff.mp h
        exact .arrived htask hresponse
      · cases h
  | send =>
      simp only [step] at h
      split at h
      · rename_i htask
        split at h
        · split at h
          · exact Option.some.inj h ▸ .sent htask
          · cases h
        · exact Option.some.inj h ▸ .hungUp htask
      · cases h
  | wake =>
      simp only [step] at h
      split at h
      · rename_i htask
        exact Option.some.inj h ▸ .woken htask
      · cases h
  | receive =>
      simp only [step] at h
      split at h
      · rename_i hqueue
        split at h
        · exact Option.some.inj h ▸ .received hqueue
        · cases h
      · cases h
  | dropReceiver => exact Option.some.inj h ▸ .dropped

/-- The id moves on only where there are data to send. -/
theorem handle_cases (s : State T) (response : Except String (HttpResponse T)) :
    s.handle response = { s with task := .sleeping }
      ∨ ∃ r p data, response = .ok r ∧ isSuccess r.statusCode ∧ r.json = some p
        ∧ p.data = some data
        ∧ s.handle response = { s with lastId := some p.messageId, task := .sending data } := by
  cases response with
  | error msg => exact .inl rfl
  | ok r =>
      simp only [State.handle]
      split
      · rename_i hsuccess
        split
        · rename_i p hjson
          split
          · rename_i data hdata
            exact .inr ⟨r, p, data, rfl, hsuccess, hjson, hdata, rfl⟩
          · exact .inl rfl
        · exact .inl rfl
      · exact .inl rfl

/-- A success that can be parsed is the server's answer. -/
theorem Outcome.answered_of_json {outcome : Outcome T} {answer : Option (HttpResponse T)}
    {r : HttpResponse T} {p : PollResponse T} (h : outcome.response answer = some (.ok r))
    (hsuccess : isSuccess r.statusCode) (hjson : r.json = some p) : answer = some r := by
  cases outcome with
  | answered =>
      obtain ⟨r', hr', hok⟩ := Option.map_eq_some_iff.mp h
      rw [hr', Except.ok.inj hok]
  | errorStatus statusCode json =>
      rw [response] at h
      split at h
      · cases h
      · rename_i hnot
        obtain rfl := Except.ok.inj (Option.some.inj h)
        exact absurd hsuccess hnot
  | unparsable statusCode =>
      obtain rfl := Except.ok.inj (Option.some.inj h)
      cases hjson
  | transportError msg => cases h

/-! ## What has been sent -/

/-- What has been sent is a contiguous part of the log. -/
def Contiguous (s : State T) : Prop :=
  ∃ read, read <:+: s.log ∧ s.sent = read.map Message.data

/-- The data that the task has in hand. -/
def Task.unsent : Task T → List T
  | .sending data | .stopped data => [data]
  | .polling | .waiting _ _ | .sleeping => []

/-- Data that arrive are those of a message of the log, and of the next
one after the cursor if there is a cursor. -/
def Answers (log : List (Message T)) (lastId : Option String) (response : HttpResponse T) :
    Prop :=
  ∀ p data, response.json = some p → p.data = some data →
    ∃ m ∈ log, m.messageId = p.messageId ∧ m.data = data
      ∧ ∀ id ∈ lastId, LogReader.After Message.messageId log id m

/-- A poll on its way was made with the cursor, and its answer, if there
is one, is an answer to it. -/
def Awaits (s : State T) : Task T → Prop
  | .waiting request answer =>
      request = s.request ∧ ∀ response ∈ answer, Answers s.log s.lastId response
  | .polling | .sending _ | .sleeping | .stopped _ => True

/-- What has been read of the log is what has been sent and what the task
has in hand; the cursor is at its end. -/
structure Inv (s : State T) : Prop where
  distinct : (s.log.map Message.messageId).Nodup
  reads :
    ∃ read, LogReader.Follows Message.messageId s.log read s.lastId
      ∧ read.map Message.data = s.sent ++ s.task.unsent
  awaits : Awaits s s.task

theorem Answers.grow {log : List (Message T)} {lastId : Option String}
    {response : HttpResponse T} (h : Answers log lastId response) (more : List (Message T)) :
    Answers (log ++ more) lastId response := by
  intro p data hjson hdata
  obtain ⟨m, hm, hid, hmdata, hafter⟩ := h p data hjson hdata
  exact ⟨m, List.mem_append_left _ hm, hid, hmdata, fun id hmem => (hafter id hmem).grow more⟩

theorem Awaits.grow {s : State T} {task : Task T} (h : Awaits s task)
    (more : List (Message T)) : Awaits { s with log := s.log ++ more } task := by
  cases task with
  | waiting request answer =>
      exact ⟨h.1, fun response hmem => (h.2 response hmem).grow more⟩
  | polling => trivial
  | sending data => trivial
  | sleeping => trivial
  | stopped data => trivial

/-- The server reads the id that the request was made with. -/
theorem lookup_query (s : State T) :
    (FormUrl.parse s.request.query).lookup "lastId" = s.lastId := by
  rw [State.request, FormUrl.parse_serialize]
  cases s.lastId with
  | none => rfl
  | some id => rfl

theorem answers_respond (s : State T) (first : Nat) (blank : PollResponse T) :
    Answers s.log s.lastId (respond blank (answer s.log s.request.query first)) := by
  intro p data hjson hdata
  cases hanswer : answer s.log s.request.query first with
  | none =>
      rw [hanswer] at hjson
      obtain rfl := Option.some.inj hjson
      cases hdata
  | some m =>
      rw [hanswer] at hjson
      obtain rfl := Option.some.inj hjson
      obtain rfl := Option.some.inj hdata
      rw [answer, lookup_query] at hanswer
      cases hlast : s.lastId with
      | none =>
          rw [hlast] at hanswer
          exact ⟨m, List.mem_of_getElem? hanswer, rfl, rfl, by simp⟩
      | some id =>
          rw [hlast] at hanswer
          have hafter := LogReader.after_of_eq_some hanswer
          refine ⟨m, hafter.mem, rfl, rfl, fun id' hid' => ?_⟩
          obtain rfl := Option.some.inj hid'
          exact hafter

namespace Inv

variable {s : State T}

theorem new (baseUrl path : String) (auth : Option String) :
    Inv ({ baseUrl := baseUrl, path := path, auth := auth } : State T) where
  distinct := List.nodup_nil
  reads := ⟨[], .nil, rfl⟩
  awaits := trivial

theorem publish (hs : Inv s) {message : Message T}
    (hfresh : message.messageId ∉ s.log.map Message.messageId) :
    Inv { s with log := s.log ++ [message] } where
  distinct := by
    rw [List.map_append, List.map_singleton, ← List.concat_eq_append]
    exact .concat hfresh hs.distinct
  reads := by
    obtain ⟨read, hfollows, hmap⟩ := hs.reads
    exact ⟨read, hfollows.grow _, hmap⟩
  awaits := hs.awaits.grow _

/-- The task moves on with the data it has in hand. -/
theorem moved (hs : Inv s) {task : Task T} (hunsent : task.unsent = s.task.unsent)
    (hawaits : Awaits s task) : Inv { s with task := task } where
  distinct := hs.distinct
  reads := by
    obtain ⟨read, hfollows, hmap⟩ := hs.reads
    exact ⟨read, hfollows, hunsent ▸ hmap⟩
  awaits := hawaits

/-- Data that arrive extend what has been read. -/
theorem arrived (hs : Inv s) {p : PollResponse T} {data : T} {response : HttpResponse T}
    (hunsent : s.task.unsent = []) (hanswers : Answers s.log s.lastId response)
    (hjson : response.json = some p) (hdata : p.data = some data) :
    Inv { s with lastId := some p.messageId, task := .sending data } where
  distinct := hs.distinct
  reads := by
    obtain ⟨read, hfollows, hmap⟩ := hs.reads
    obtain ⟨m, hm, hid, rfl, hafter⟩ := hanswers p data hjson hdata
    refine ⟨read ++ [m], ?_, ?_⟩
    · dsimp only
      rw [← hid]
      cases hlast : s.lastId with
      | none =>
          rw [hlast] at hfollows
          exact hfollows.start hm
      | some id =>
          rw [hlast] at hfollows
          exact hfollows.extend hs.distinct (hafter id hlast)
    · rw [List.map_append, hmap, hunsent, List.append_nil]
      rfl
  awaits := trivial

theorem handle (hs : Inv s) {request : PollRequest} {answer : Option (HttpResponse T)}
    {outcome : Outcome T} {response : Except String (HttpResponse T)}
    (htask : s.task = .waiting request answer)
    (hresponse : outcome.response answer = some response) : Inv (s.handle response) := by
  have hunsent : s.task.unsent = [] := by rw [htask, Task.unsent]
  rcases handle_cases s response with heq | ⟨r, p, data, rfl, hsuccess, hjson, hdata, heq⟩
  · rw [heq]
    exact hs.moved hunsent.symm trivial
  · rw [heq]
    have hawaits : Awaits s (.waiting request answer) := htask ▸ hs.awaits
    have hanswer := Outcome.answered_of_json hresponse hsuccess hjson
    exact hs.arrived hunsent (hawaits.2 r hanswer) hjson hdata

theorem step {t : State T} {a : Action T} (hs : Inv s) (h : step s a = some t) : Inv t := by
  cases step_cases h with
  | published hfresh => exact hs.publish hfresh
  | polled htask => exact hs.moved (by rw [htask]; rfl) ⟨rfl, nofun⟩
  | @answered first blank request htask =>
      have hawaits : Awaits s (.waiting request none) := htask ▸ hs.awaits
      refine hs.moved (by rw [htask]; rfl) ⟨hawaits.1, fun response hmem => ?_⟩
      rw [← Option.some.inj hmem, hawaits.1]
      exact answers_respond s first blank
  | arrived htask hresponse => exact hs.handle htask hresponse
  | @sent data htask =>
      obtain ⟨read, hfollows, hmap⟩ := hs.reads
      refine ⟨hs.distinct, ⟨read, hfollows, ?_⟩, trivial⟩
      simpa [State.sent, Task.unsent, htask] using hmap
  | hungUp htask => exact hs.moved (by rw [htask]; rfl) trivial
  | woken htask => exact hs.moved (by rw [htask]; rfl) trivial
  | @received data rest hqueue =>
      obtain ⟨read, hfollows, hmap⟩ := hs.reads
      refine ⟨hs.distinct, ⟨read, hfollows, ?_⟩, hs.awaits⟩
      simpa [State.sent, hqueue] using hmap
  | dropped => exact ⟨hs.distinct, hs.reads, hs.awaits⟩

theorem contiguous (hs : Inv s) : Contiguous s := by
  obtain ⟨read, hfollows, hmap⟩ := hs.reads
  refine ⟨read.take s.sent.length, ?_, ?_⟩
  · exact (List.take_prefix _ _).isInfix.trans hfollows.contiguous
  · rw [List.map_take, hmap, List.take_left]

end Inv

/-- What a loop has sent is at any time a contiguous part of the server's
log, in the order of the log, whatever becomes of its polls. -/
theorem contiguous_along {t : HttpTransport} {path : String} {s : State T}
    (h : subscribe t path = .ok s) (as : List (Action T)) :
    Lts.Along step Contiguous s as := by
  have hs : Inv s := by
    rw [subscribe] at h
    split at h
    · cases h
    · exact Except.ok.inj h ▸ .new _ _ _
  exact (Lts.along_of_inv (fun _ _ _ hu hstep => hu.step hstep) hs).mono fun _ hu =>
    hu.contiguous

def connected : HttpTransport where
  baseUrl := "http://203.0.113.10:9000"
  config := some { apiKey := "sk_test_12345678" }
  connected := true

/-- The second of three polls fails, and the third asks for the same. -/
def threePolls : List (Action LatestSlot) :=
  let blank : PollResponse LatestSlot := ⟨none, "", 0, false⟩
  [.publish ⟨"m1", ⟨1, 10⟩⟩, .publish ⟨"m2", ⟨2, 20⟩⟩,
    .poll, .answer 0 blank, .arrive .answered, .send, .wake,
    .poll, .answer 0 blank, .arrive (.transportError "operation timed out"), .wake,
    .poll, .answer 0 blank, .arrive .answered, .send]

theorem contiguous_threePolls :
    ∃ s, subscribeLatestSlot connected = .ok s
      ∧ Lts.Along step Contiguous s threePolls
      ∧ (Lts.run step s threePolls).map State.sent = some [⟨1, 10⟩, ⟨2, 20⟩] := by
  have hnew : subscribeLatestSlot connected = .ok _ := rfl
  exact ⟨_, hnew, contiguous_along hnew _, by decide⟩

end Polling

end Slipstream
