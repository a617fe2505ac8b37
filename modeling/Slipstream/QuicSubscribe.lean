import Mathlib.Logic.Function.Basic
import Slipstream.Lts
import Slipstream.QuicStream

/-!
# QUIC subscriptions

`subscribe_stream` sends a type byte and starts a task. The task accepts
the next stream the server has opened on the connection, reads
length-prefixed frames from it and hands what its decoder accepts to the
receiver of the subscription. The server opens one stream for each type
it was asked for.

Nothing ties the accepted stream to the task: `accept_uni` returns the
streams in the order in which they were opened. With one subscription
that is its own stream; with several, `delivers_iff_inOrder` says when
it is: the tasks must accept in the order in which the server opened
their streams.
-/

namespace Slipstream

namespace QuicSubscribe

open Bytes QuicStream

/-! ## Frames -/

/-- `[2-byte big-endian length] [message bytes]`. -/
def frame (body : List UInt8) : List UInt8 :=
  beU16 (UInt16.ofNat body.length) ++ body

/-- What a round of the read loop finds on the stream. -/
inductive Frame where
  | incomplete
  | badLength
  | message (body rest : List UInt8)
deriving Repr, DecidableEq

def nextFrame (buf : List UInt8) : Frame :=
  if buf.length < 2 then .incomplete
  else
    let msgLen := fromBe (buf.take 2)
    if msgLen = 0 ∨ 4096 < msgLen then .badLength
    else if buf.length < 2 + msgLen then .incomplete
    else .message ((buf.drop 2).take msgLen) (buf.drop (2 + msgLen))

theorem nextFrame_frame {body : List UInt8} (hpos : 0 < body.length)
    (hmax : body.length ≤ 4096) (rest : List UInt8) :
    nextFrame (frame body ++ rest) = .message body rest := by
  have hlen : (UInt16.ofNat body.length).toNat = body.length :=
    UInt16.toNat_ofNat_of_lt' (Nat.lt_of_le_of_lt hmax (by decide))
  have htake : (frame body ++ rest).take 2 = beU16 (UInt16.ofNat body.length) := by
    rw [frame, List.append_assoc]
    exact List.take_left' (length_beU16 _)
  have hdrop : (frame body ++ rest).drop 2 = body ++ rest := by
    rw [frame, List.append_assoc]
    exact List.drop_left' (length_beU16 _)
  have hmsg : fromBe ((frame body ++ rest).take 2) = body.length := by
    rw [htake, beU16, fromBe_toBe_of_lt (UInt16.toNat_lt _), hlen]
  have htotal : (frame body ++ rest).length = 2 + body.length + rest.length := by
    simp only [frame, List.length_append, length_beU16]
  unfold nextFrame
  dsimp only
  rw [if_neg (by omega), hmsg, if_neg (by omega), if_neg (by omega), ← List.drop_drop, hdrop,
    List.take_left, List.drop_left]

/-- Every message fits a frame. -/
theorem length_encode_le {m : WireMessage} (hfit : m.Fits) : m.encode.length ≤ 4096 := by
  cases m with
  | leaderHint m =>
      have h₁ : (Utf8.bytes m.regionId).length ≤ 255 := hfit _ (by simp [WireMessage.texts])
      have h₂ : (Utf8.bytes m.leaderPubkey).length ≤ 255 :=
        hfit _ (by simp [WireMessage.texts])
      simp only [WireMessage.encode, WireMessage.encodeFields, encodeText, List.length_cons,
        List.length_append, length_beU16, length_beU32, length_beU64]
      omega
  | tipInstruction m =>
      have h₁ : (Utf8.bytes m.senderId).length ≤ 255 := hfit _ (by simp [WireMessage.texts])
      have h₂ : (Utf8.bytes m.tipWallet).length ≤ 255 := hfit _ (by simp [WireMessage.texts])
      have h₃ : (Utf8.bytes m.tier).length ≤ 255 := hfit _ (by simp [WireMessage.texts])
      simp only [WireMessage.encode, WireMessage.encodeFields, encodeText, List.length_cons,
        List.length_append, length_beU32, length_beU64]
      omega
  | priorityFee m =>
      simp [WireMessage.encode, WireMessage.encodeFields]
  | latestBlockhash m =>
      have h₁ : (Utf8.bytes m.blockhash).length ≤ 255 := hfit _ (by simp [WireMessage.texts])
      simp only [WireMessage.encode, WireMessage.encodeFields, encodeText, List.length_cons,
        List.length_append, length_beU64]
      omega
  | latestSlot m =>
      simp [WireMessage.encode, WireMessage.encodeFields]

theorem nextFrame_encode {m : WireMessage} (hfit : m.Fits) (rest : List UInt8) :
    nextFrame (frame m.encode ++ rest) = .message m.encode rest :=
  nextFrame_frame (by simp [WireMessage.encode]) (length_encode_le hfit) rest

/-! ## Tasks and streams -/

/-- The task of a subscription. Streams are named by the type they were
opened for. -/
inductive Task where
  | idle
  | accepting
  | reading (stream : StreamKind)
  | ended
deriving Repr, DecidableEq

/-- For each type its task, the bytes on its stream nobody has read, and
the items its receiver got; `incoming` are the streams nobody has
accepted, and `written` the messages the server wrote. -/
structure State where
  task : StreamKind → Task := fun _ => .idle
  opened : List StreamKind := []
  incoming : List StreamKind := []
  unread : StreamKind → List UInt8 := fun _ => []
  delivered : StreamKind → List StreamItem := fun _ => []
  written : StreamKind → List WireMessage := fun _ => []

inductive Action where
  /-- The type byte is sent and the task started. -/
  | subscribe (kind : StreamKind)
  | openStream (kind : StreamKind)
  | write (m : WireMessage)
  | accept (kind : StreamKind)
  | read (kind : StreamKind)

/-- A round of the read loop of the task for `kind`. -/
def readNext (s : State) (kind stream : StreamKind) : Option State :=
  match nextFrame (s.unread stream) with
  | .incomplete => none
  | .badLength => some { s with task := Function.update s.task kind .ended }
  | .message body rest =>
      let s := { s with unread := Function.update s.unread stream rest }
      match decode kind body with
      | .ok (some item) =>
          some
            { s with
              delivered := Function.update s.delivered kind (s.delivered kind ++ [item]) }
      | .ok none => some s
      -- a panic ends the task
      | .error _ => some { s with task := Function.update s.task kind .ended }

def step (s : State) : Action → Option State
  | .subscribe kind =>
      if s.task kind = .idle then
        some { s with task := Function.update s.task kind .accepting }
      else none
  | .openStream kind =>
      if s.task kind ≠ .idle ∧ kind ∉ s.opened then
        some { s with opened := s.opened ++ [kind], incoming := s.incoming ++ [kind] }
      else none
  | .write m =>
      if m.kind ∈ s.opened ∧ m.Fits then
        some
          { s with
            unread := Function.update s.unread m.kind (s.unread m.kind ++ frame m.encode)
            written := Function.update s.written m.kind (s.written m.kind ++ [m]) }
      else none
  | .accept kind =>
      if s.task kind = .accepting then
        match s.incoming with
        | stream :: rest =>
            some
              { s with
                task := Function.update s.task kind (.reading stream)
                incoming := rest }
        | [] => none
      else none
  | .read kind =>
      match s.task kind with
      | .reading stream => readNext s kind stream
      | _ => none

/-- What each action does; a read is left to `readNext`. -/
inductive Step (s : State) : Action → State → Prop where
  | subscribe {kind} (hidle : s.task kind = .idle) :
      Step s (.subscribe kind) { s with task := Function.update s.task kind .accepting }
  | openStream {kind} :
      Step s (.openStream kind)
        { s with opened := s.opened ++ [kind], incoming := s.incoming ++ [kind] }
  | write {m} (hfit : m.Fits) :
      Step s (.write m)
        { s with
          unread := Function.update s.unread m.kind (s.unread m.kind ++ frame m.encode)
          written := Function.update s.written m.kind (s.written m.kind ++ [m]) }
  | accept {kind stream rest} (hincoming : s.incoming = stream :: rest) :
      Step s (.accept kind)
        { s with
          task := Function.update s.task kind (.reading stream)
          incoming := rest }
  | read {kind stream t} (htask : s.task kind = .reading stream)
      (hread : readNext s kind stream = some t) : Step s (.read kind) t

theorem step_cases {s t : State} {a : Action} (h : step s a = some t) : Step s a t := by
  cases a with
  | subscribe kind =>
      simp only [step] at h
      split at h
      · rename_i hidle
        exact Option.some.inj h ▸ .subscribe hidle
      · cases h
  | openStream kind =>
      simp only [step] at h
      split at h
      · exact Option.some.inj h ▸ .openStream
      · cases h
  | write m =>
      simp only [step] at h
      split at h
      · rename_i hguard
        exact Option.some.inj h ▸ .write hguard.2
      · cases h
  | accept kind =>
      simp only [step] at h
      split at h
      · split at h
        · rename_i stream rest hincoming
          exact Option.some.inj h ▸ .accept hincoming
        · cases h
      · cases h
  | read kind =>
      simp only [step] at h
      split at h
      · rename_i stream htask
        exact .read htask h
      · cases h

theorem incoming_readNext {s t : State} {kind stream : StreamKind}
    (h : readNext s kind stream = some t) : t.incoming = s.incoming := by
  unfold readNext at h
  split at h
  · cases h
  · exact Option.some.inj h ▸ rfl
  · dsimp only at h
    split at h <;> exact Option.some.inj h ▸ rfl

/-! ## Own streams -/

/-- What was written for a type was delivered or is still on its stream,
in order. -/
def Accounted (kind : StreamKind) (unread : List UInt8) (delivered : List StreamItem)
    (written : List WireMessage) : Prop :=
  ∃ done pending : List WireMessage, written = done ++ pending
    ∧ delivered = done.map WireMessage.item
    ∧ unread = pending.flatMap (fun m => frame m.encode)
    ∧ ∀ m ∈ pending, m.kind = kind ∧ m.Fits

theorem Accounted.write {m : WireMessage} {unread : List UInt8} {delivered : List StreamItem}
    {written : List WireMessage} (h : Accounted m.kind unread delivered written)
    (hfit : m.Fits) :
    Accounted m.kind (unread ++ frame m.encode) delivered (written ++ [m]) := by
  obtain ⟨done, pending, rfl, hdone, rfl, hvalid⟩ := h
  refine ⟨done, pending ++ [m], List.append_assoc .., hdone, ?_, fun m' hm' => ?_⟩
  · rw [List.flatMap_append, List.flatMap_singleton]
  · rcases List.mem_append.mp hm' with hm' | hm'
    · exact hvalid m' hm'
    · rw [List.mem_singleton.mp hm']
      exact ⟨rfl, hfit⟩

/-- What a read finds: nothing, or the frame of the next message, and
delivering this one keeps the account. -/
theorem Accounted.read {kind : StreamKind} {unread : List UInt8}
    {delivered : List StreamItem} {written : List WireMessage}
    (h : Accounted kind unread delivered written) :
    (unread = [] ∧ delivered = written.map WireMessage.item)
      ∨ ∃ (m : WireMessage) (rest : List UInt8), m ∈ written ∧ m.kind = kind ∧ m.Fits
          ∧ unread = frame m.encode ++ rest
          ∧ Accounted kind rest (delivered ++ [m.item]) written := by
  obtain ⟨done, pending, rfl, rfl, rfl, hvalid⟩ := h
  cases pending with
  | nil => exact .inl ⟨rfl, by rw [List.append_nil]⟩
  | cons m ms =>
      obtain ⟨hkind, hfit⟩ := hvalid m List.mem_cons_self
      have hnext : Accounted kind (ms.flatMap fun m => frame m.encode)
          (done.map WireMessage.item ++ [m.item]) (done ++ m :: ms) :=
        ⟨done ++ [m], ms, by simp, by simp, Eq.refl _,
          fun m' hm' => hvalid m' (List.mem_cons_of_mem _ hm')⟩
      exact .inr ⟨m, _, by simp, hkind, hfit, by rw [List.flatMap_cons], hnext⟩

/-- Every task reads the stream of its own type and none has stopped, and
what the server wrote for a type was delivered to the receiver of that
type or is still on the type's stream. -/
structure Delivers (s : State) : Prop where
  own : ∀ kind stream, s.task kind = .reading stream → stream = kind
  running : ∀ kind, s.task kind ≠ .ended
  accounted : ∀ kind, Accounted kind (s.unread kind) (s.delivered kind) (s.written kind)

theorem delivers_init : Delivers {} where
  own := fun _ _ h => by cases h
  running := fun _ h => by cases h
  accounted := fun _ => ⟨[], [], by simp⟩

/-- The stream a task accepts next is its own. -/
def InOrder (s : State) : Action → Prop
  | .accept kind => s.incoming.head? = some kind
  | _ => True

/-- A priority fee in the frame keeps the cost estimate in range. -/
def FeeFits (body : List UInt8) : Prop :=
  match QuicStream.read .priorityFees body with
  | .ok (some m) => m.CostFits
  | _ => True

/-- A task reads no fee whose cost estimate overflows. -/
def NextFeeFits (s : State) : Action → Prop
  | .read kind =>
      match s.task kind with
      | .reading stream =>
          match nextFrame (s.unread stream) with
          | .message body _ => FeeFits body
          | _ => True
      | _ => True
  | _ => True

theorem read_encode {m : WireMessage} (hfit : m.Fits) :
    QuicStream.read m.kind m.encode = .ok (some m) := by
  have h := read_encode_append hfit []
  rwa [List.append_nil] at h

theorem feeFits_encode {m : WireMessage} (hfit : m.Fits) :
    FeeFits m.encode ↔ m.CostFits := by
  unfold FeeFits
  by_cases hkind : m.kind = .priorityFees
  · have h := read_encode hfit
    rw [hkind] at h
    rw [h]
  · have h := read_of_kind_ne (Ne.symm hkind) []
    rw [List.append_nil] at h
    rw [h]
    refine iff_of_true trivial ?_
    cases m with
    | priorityFee m => exact absurd rfl hkind
    | _ => trivial

/-- A task that goes to a new state, `accepting` or `reading`, keeps
`Delivers` if the stream it reads is its own. -/
theorem Delivers.setTask_iff {s : State} (h : Delivers s) {kind : StreamKind} {task : Task}
    {incoming : List StreamKind} (hne : task ≠ .ended) :
    Delivers { s with task := Function.update s.task kind task, incoming := incoming }
      ↔ ∀ stream, task = .reading stream → stream = kind := by
  constructor
  · exact fun ht stream htask => ht.own kind stream ((Function.update_self ..).trans htask)
  · intro hown
    refine ⟨fun k stream hk => ?_, fun k hk => ?_, h.accounted⟩
    · dsimp only at hk
      by_cases hkind : k = kind
      · subst hkind
        rw [Function.update_self] at hk
        exact hown stream hk
      · rw [Function.update_of_ne hkind] at hk
        exact h.own k stream hk
    · dsimp only at hk
      by_cases hkind : k = kind
      · subst hkind
        rw [Function.update_self] at hk
        exact hne hk
      · rw [Function.update_of_ne hkind] at hk
        exact h.running k hk

theorem Delivers.write {s : State} (h : Delivers s) {m : WireMessage} (hfit : m.Fits) :
    Delivers
      { s with
        unread := Function.update s.unread m.kind (s.unread m.kind ++ frame m.encode)
        written := Function.update s.written m.kind (s.written m.kind ++ [m]) } := by
  refine ⟨h.own, h.running, fun k => ?_⟩
  dsimp only
  by_cases hkind : k = m.kind
  · subst hkind
    rw [Function.update_self, Function.update_self]
    exact (h.accounted m.kind).write hfit
  · rw [Function.update_of_ne hkind, Function.update_of_ne hkind]
    exact h.accounted k

theorem Delivers.deliver {s : State} (h : Delivers s) {kind : StreamKind}
    {rest : List UInt8} {item : StreamItem}
    (hacc : Accounted kind rest (s.delivered kind ++ [item]) (s.written kind)) :
    Delivers
      { s with
        unread := Function.update s.unread kind rest
        delivered := Function.update s.delivered kind (s.delivered kind ++ [item]) } := by
  refine ⟨h.own, h.running, fun k => ?_⟩
  dsimp only
  by_cases hkind : k = kind
  · subst hkind
    rw [Function.update_self, Function.update_self]
    exact hacc
  · rw [Function.update_of_ne hkind, Function.update_of_ne hkind]
    exact h.accounted k

/-- The round of the read loop that takes a message of the task's own
type off its stream. -/
theorem readNext_own {s : State} {kind : StreamKind} {m : WireMessage} {rest : List UInt8}
    (hkind : m.kind = kind) (hfit : m.Fits)
    (hunread : s.unread kind = frame m.encode ++ rest) (hcost : m.CostFits) :
    readNext s kind kind
      = some
          { s with
            unread := Function.update s.unread kind rest
            delivered := Function.update s.delivered kind (s.delivered kind ++ [m.item]) } := by
  have hwire : QuicStream.read kind m.encode = .ok (some m) := hkind ▸ read_encode hfit
  rw [readNext, hunread, nextFrame_encode hfit]
  simp only [decode_of_read_some hwire, WireMessage.toItem_eq hcost, Except.map]

theorem readNext_costly {s : State} {kind : StreamKind} {m : WireMessage} {rest : List UInt8}
    (hkind : m.kind = kind) (hfit : m.Fits)
    (hunread : s.unread kind = frame m.encode ++ rest) (hcost : ¬ m.CostFits) :
    readNext s kind kind
      = some
          { s with
            unread := Function.update s.unread kind rest
            task := Function.update s.task kind .ended } := by
  have hwire : QuicStream.read kind m.encode = .ok (some m) := hkind ▸ read_encode hfit
  rw [readNext, hunread, nextFrame_encode hfit]
  simp only [decode_of_read_some hwire, WireMessage.toItem_costly hcost, Except.map]

/-- A read of a message by the task of its own type. -/
theorem delivers_read_iff {s t : State} {kind : StreamKind} (h : Delivers s)
    (htask : s.task kind = .reading kind) (hread : readNext s kind kind = some t) :
    Delivers t ↔ NextFeeFits s (.read kind) := by
  rcases (h.accounted kind).read with
    ⟨hempty, -⟩ | ⟨m, rest, -, hkind, hfit, hunread, hacc⟩
  · have hnone : readNext s kind kind = none := by
      rw [readNext, hempty]
      rfl
    rw [hnone] at hread
    cases hread
  · have hfees : NextFeeFits s (.read kind) ↔ m.CostFits := by
      simp only [NextFeeFits, htask, hunread, nextFrame_encode hfit]
      exact feeFits_encode hfit
    rw [hfees]
    by_cases hcost : m.CostFits
    · rw [readNext_own hkind hfit hunread hcost] at hread
      obtain rfl := Option.some.inj hread
      exact iff_of_true (h.deliver hacc) hcost
    · rw [readNext_costly hkind hfit hunread hcost] at hread
      obtain rfl := Option.some.inj hread
      exact iff_of_false (fun ht => ht.running kind (Function.update_self ..)) hcost

theorem delivers_step_iff {s t : State} {a : Action} (h : Delivers s)
    (hstep : step s a = some t) : Delivers t ↔ InOrder s a ∧ NextFeeFits s a := by
  cases step_cases hstep with
  | subscribe =>
      refine iff_of_true ((h.setTask_iff (by simp)).mpr ?_) ⟨trivial, trivial⟩
      intro stream htask
      cases htask
  | openStream =>
      exact iff_of_true ⟨h.own, h.running, h.accounted⟩ ⟨trivial, trivial⟩
  | write hfit => exact iff_of_true (h.write hfit) ⟨trivial, trivial⟩
  | accept hincoming =>
      rw [h.setTask_iff (by simp)]
      simp [InOrder, NextFeeFits, hincoming]
  | read htask hread =>
      obtain rfl := h.own _ _ htask
      rw [delivers_read_iff h htask hread]
      exact ⟨fun hfees => ⟨trivial, hfees⟩, And.right⟩

/-- A task on its own stream, reading on, delivers all that was
written. -/
def CatchesUp (s : State) : Prop :=
  ∀ kind, s.task kind = .reading kind → (∀ m ∈ s.written kind, m.CostFits) →
    ∃ n u, Lts.run step s (List.replicate n (.read kind)) = some u
      ∧ u.delivered kind = (s.written kind).map WireMessage.item

theorem Delivers.catchesUp : ∀ {s : State}, Delivers s → CatchesUp s := by
  intro s h kind
  -- the stream gets shorter with every round
  induction hn : (s.unread kind).length using Nat.strongRecOn generalizing s with
  | ind n ih =>
      intro htask hcosts
      rcases (h.accounted kind).read with
        ⟨-, hall⟩ | ⟨m, rest, hmem, hkind, hfit, hunread, hacc⟩
      · exact ⟨0, s, rfl, hall⟩
      · have hread := readNext_own hkind hfit hunread (hcosts m hmem)
        have hshort : rest.length < n := by
          rw [← hn, hunread, List.length_append, frame, List.length_append, length_beU16]
          omega
        obtain ⟨k, u, hrun, hall⟩ := ih rest.length hshort (h.deliver hacc)
          (congrArg List.length (Function.update_self ..)) htask hcosts
        refine ⟨k + 1, u, ?_, hall⟩
        rw [List.replicate_succ, Lts.run_cons]
        simp only [step, htask, hread]
        exact hrun

/-! ## The order of the streams and of the tasks -/

/-- The types whose streams the server opens, in order. -/
def opens : List Action → List StreamKind
  | [] => []
  | .openStream kind :: as => kind :: opens as
  | _ :: as => opens as

/-- The types whose tasks accept a stream, in order. -/
def accepts : List Action → List StreamKind
  | [] => []
  | .accept kind :: as => kind :: accepts as
  | _ :: as => accepts as

/-- Accepting its own stream each time means accepting in the order in
which the streams were opened. -/
theorem guarded_inOrder_iff {as : List Action} : ∀ {s u : State},
    Lts.run step s as = some u →
      (Lts.Guarded step InOrder s as ↔ accepts as <+: s.incoming ++ opens as) := by
  induction as with
  | nil =>
      intro s u _
      exact iff_of_true Lts.guarded_nil (List.nil_prefix ..)
  | cons a as ih =>
      intro s u hrun
      obtain ⟨t, ht, hu⟩ := Lts.run_cons_eq_some.mp hrun
      have htail : Lts.Guarded step InOrder s (a :: as)
          ↔ InOrder s a ∧ (accepts as <+: t.incoming ++ opens as) := by
        rw [Lts.guarded_cons, ← ih hu]
        constructor
        · exact fun h => h t ht
        · intro h t' ht'
          obtain rfl := Option.some.inj (ht.symm.trans ht')
          exact h
      rw [htail]
      cases step_cases ht with
      | subscribe => simp [InOrder, accepts, opens]
      | openStream => simp [InOrder, accepts, opens]
      | write => simp [InOrder, accepts, opens]
      | accept hincoming =>
          simp [InOrder, accepts, opens, hincoming, List.cons_prefix_cons, eq_comm]
      | read _ hread => simp [InOrder, accepts, opens, incoming_readNext hread]

theorem along_delivers_iff {as : List Action} {u : State}
    (h : Lts.run step {} as = some u) :
    Lts.Along step Delivers {} as
      ↔ accepts as <+: opens as ∧ Lts.Guarded step NextFeeFits {} as := by
  have hiff : Lts.Along step Delivers {} as
      ↔ Lts.Guarded step (fun s a => InOrder s a ∧ NextFeeFits s a) {} as :=
    Lts.along_iff_guarded (fun _ _ _ (_ : True) _ => trivial)
      (fun _ _ _ _ => delivers_step_iff) trivial delivers_init
  have horder : Lts.Guarded step InOrder {} as ↔ accepts as <+: opens as :=
    guarded_inOrder_iff h
  rw [hiff, ← horder, Lts.guarded_and]

/-- Subscriptions get their own streams and messages in every state of a
run exactly when the tasks accept in the order in which the server opened
their streams, and no fee overflows its cost estimate. -/
theorem delivers_iff_inOrder {as : List Action} {u : State}
    (h : Lts.run step {} as = some u) :
    Lts.Along step (fun s => Delivers s ∧ CatchesUp s) {} as
      ↔ accepts as <+: opens as ∧ Lts.Guarded step NextFeeFits {} as := by
  rw [← along_delivers_iff h]
  constructor
  · exact fun hall => hall.mono fun _ hs => hs.1
  · exact fun hall => hall.mono fun _ hs => ⟨hs, hs.catchesUp⟩

/-! ## Two subscriptions -/

instance (body : List UInt8) : Decidable (FeeFits body) :=
  match h : QuicStream.read .priorityFees body with
  | .ok (some m) => decidable_of_iff m.CostFits (by rw [FeeFits, h])
  | .ok none => isTrue (by rw [FeeFits, h]; trivial)
  | .error _ => isTrue (by rw [FeeFits, h]; trivial)

instance (s : State) : ∀ a, Decidable (NextFeeFits s a)
  | .read kind =>
      match h : s.task kind with
      | .reading stream =>
          match h' : nextFrame (s.unread stream) with
          | .message body _ => decidable_of_iff (FeeFits body) (by simp only [NextFeeFits, h, h'])
          | .incomplete => isTrue (by simp only [NextFeeFits, h, h'])
          | .badLength => isTrue (by simp only [NextFeeFits, h, h'])
      | .idle => isTrue (by simp only [NextFeeFits, h])
      | .accepting => isTrue (by simp only [NextFeeFits, h])
      | .ended => isTrue (by simp only [NextFeeFits, h])
  | .subscribe _ => isTrue trivial
  | .openStream _ => isTrue trivial
  | .write _ => isTrue trivial
  | .accept _ => isTrue trivial

def slotMessage : WireMessage := .latestSlot { slot := 4265028000, timestamp := 1706011200000 }

def inOrder : List Action :=
  [.subscribe .leaderHints, .subscribe .latestSlot, .openStream .leaderHints,
    .openStream .latestSlot, .accept .leaderHints, .accept .latestSlot,
    .write slotMessage, .read .latestSlot]

theorem inOrder_runs : (Lts.run step {} inOrder).isSome = true := by
  decide

theorem delivers_inOrder :
    Lts.Along step (fun s => Delivers s ∧ CatchesUp s) {} inOrder :=
  (delivers_iff_inOrder (Option.some_get inOrder_runs).symm).mpr (by decide)

/-- The server opens the slot stream first: the hint task accepts it and
drops the slot. -/
theorem crossed_not_delivers :
    let as : List Action :=
      [.subscribe .leaderHints, .subscribe .latestSlot, .openStream .latestSlot,
        .openStream .leaderHints, .accept .leaderHints, .accept .latestSlot,
        .write slotMessage, .read .leaderHints]
    (Lts.run step {} as).map
        (fun s => (s.task .leaderHints, s.unread .latestSlot, s.delivered .latestSlot))
        = some (.reading .latestSlot, [], [])
      ∧ ¬ Lts.Along step (fun s => Delivers s ∧ CatchesUp s) {} as := by
  intro as
  have hrun : (Lts.run step {} as).map
      (fun s => (s.task .leaderHints, s.unread .latestSlot, s.delivered .latestSlot))
      = some (.reading .latestSlot, [], []) := by
    decide
  refine ⟨hrun, fun h => ?_⟩
  obtain ⟨s, hs, hfields⟩ := Option.map_eq_some_iff.mp hrun
  have htask : s.task .leaderHints = .reading .latestSlot := congrArg Prod.fst hfields
  have hown := (h as s (List.prefix_refl _) hs).1.own _ _ htask
  cases hown

end QuicSubscribe

end Slipstream
