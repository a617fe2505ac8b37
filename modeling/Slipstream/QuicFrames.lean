import Slipstream.Framing
import Slipstream.QuicSubscribe

/-!
# The read loop of a QUIC subscription

The loop of the task `subscribe_stream` starts, over a stream of bytes as
the network delivers it, for any decoder: two `read_exact`, the check of
the length, the decoder and the send to the receiver of the subscription.

`readLoop_longest` is what it delivers: what the decoder makes of the
bodies of the whole frames the stream begins with, up to the first one
that is cut off or has a bad length. A body the decoder rejects is read
like any other, so that the next length is found where it is.
-/

namespace Slipstream

namespace QuicSubscribe

open Bytes Framing

/-- Two bytes of length, which are a header up to 4096, and as many
bytes. -/
def format : Format UInt8 where
  headerLen := 2
  bodyLen := fun lenBuf =>
    let msgLen := fromBe lenBuf
    if msgLen = 0 ∨ 4096 < msgLen then none else some msgLen

/-- How the loop was left. -/
inductive Ending where
  | streamEnded
  | badLength
  | receiverDropped
deriving Repr, DecidableEq

/-- What a round of the loop reads. -/
inductive Reading where
  | stopped (ending : Ending)
  | message (body : List UInt8) (rest : List (List UInt8))

def readFrame (stream : List (List UInt8)) : Reading :=
  match readExact 2 stream with
  | none => .stopped .streamEnded
  | some (lenBuf, stream) =>
      let msgLen := fromBe lenBuf
      if msgLen = 0 ∨ 4096 < msgLen then .stopped .badLength
      else
        match readExact msgLen stream with
        | none => .stopped .streamEnded
        | some (msgBuf, stream) => .message msgBuf stream

theorem bodyLen_eq_some {lenBuf : List UInt8} {n : Nat} :
    format.bodyLen lenBuf = some n
      ↔ ¬ (fromBe lenBuf = 0 ∨ 4096 < fromBe lenBuf) ∧ fromBe lenBuf = n := by
  unfold format
  dsimp only
  split
  · rename_i hbad
    exact iff_of_false (by simp) fun h => h.1 hbad
  · rename_i hgood
    rw [Option.some_inj]
    exact ⟨fun h => ⟨hgood, h⟩, fun h => h.2⟩

/-- A round reads a whole frame, header and body. -/
theorem starts_of_readFrame {stream rest : List (List UInt8)} {body : List UInt8}
    (h : readFrame stream = .message body rest) :
    format.Starts stream.flatten body rest.flatten := by
  unfold readFrame at h
  split at h
  · cases h
  · rename_i lenBuf after hlen
    obtain ⟨hlenBuf, hstream⟩ := readExact_some hlen
    dsimp only at h
    split at h
    · cases h
    · rename_i hgood
      split at h
      · cases h
      · rename_i msgBuf stream' hmsg
        obtain ⟨rfl, rfl⟩ := Reading.message.inj h
        obtain ⟨hmsgBuf, hafter⟩ := readExact_some hmsg
        rw [hstream, Format.starts_append_iff hlenBuf]
        exact ⟨bodyLen_eq_some.mpr ⟨hgood, hmsgBuf.symm⟩, hafter⟩

/-- The loop: the items it sent, and how it ended. `receiver` is how many
items the receiver takes before it is dropped, if it is. -/
def readLoop {α : Type} (decoder : List UInt8 → Option α) (receiver : Option Nat)
    (stream : List (List UInt8)) : List α × Ending :=
  match hread : readFrame stream with
  | .stopped ending => ([], ending)
  | .message body rest =>
      have hshorter : rest.flatten.length < stream.flatten.length :=
        (starts_of_readFrame hread).length_lt (by decide)
      match decoder body with
      | some data =>
          if receiver = some 0 then ([], .receiverDropped)
          else
            let (sent, ending) := readLoop decoder (receiver.map fun n => n - 1) rest
            (data :: sent, ending)
      | none => readLoop decoder receiver rest
termination_by stream.flatten.length
decreasing_by all_goals exact hshorter

/-! ## The frames the loop reads -/

/-- Why a stream begins with no whole frame. -/
def endingOf (left : List UInt8) : Ending :=
  if 2 ≤ left.length ∧ format.bodyLen (left.take 2) = none then .badLength else .streamEnded

theorem endingOf_append {lenBuf : List UInt8} (hlen : lenBuf.length = 2) (after : List UInt8) :
    endingOf (lenBuf ++ after)
      = if format.bodyLen lenBuf = none then .badLength else .streamEnded := by
  have htake : (lenBuf ++ after).take 2 = lenBuf := by rw [← hlen, List.take_left]
  have hlong : 2 ≤ (lenBuf ++ after).length := by
    rw [List.length_append]
    omega
  rw [endingOf, htake]
  simp only [hlong, true_and]

/-- Without a whole frame at the front a round ends the loop. -/
theorem stops_of_readFrame {stream : List (List UInt8)} {ending : Ending}
    (h : readFrame stream = .stopped ending) :
    ending = endingOf stream.flatten ∧ ∀ body rest, ¬ format.Starts stream.flatten body rest := by
  unfold readFrame at h
  cases hlen : readExact 2 stream with
  | none =>
      have hshort := readExact_none_iff.mp hlen
      rw [hlen] at h
      obtain rfl := Reading.stopped.inj h
      refine ⟨?_, fun body rest hstarts => ?_⟩
      · rw [endingOf, if_neg (by omega)]
      · exact absurd hshort (Nat.not_lt.mpr hstarts.headerLen_le)
  | some read =>
      obtain ⟨lenBuf, after⟩ := read
      obtain ⟨hlenBuf, hflat⟩ := readExact_some hlen
      rw [hlen] at h
      rw [hflat, endingOf_append hlenBuf]
      dsimp only at h
      split at h
      · rename_i hbad
        have hnone : format.bodyLen lenBuf = none := if_pos hbad
        obtain rfl := Reading.stopped.inj h
        refine ⟨(if_pos hnone).symm, fun body rest hstarts => ?_⟩
        rw [Format.starts_append_iff hlenBuf, hnone] at hstarts
        cases hstarts.1
      · rename_i hgood
        have hsome : format.bodyLen lenBuf = some (fromBe lenBuf) := if_neg hgood
        cases hmsg : readExact (fromBe lenBuf) after with
        | none =>
            have hshort := readExact_none_iff.mp hmsg
            rw [hmsg] at h
            obtain rfl := Reading.stopped.inj h
            refine ⟨by rw [hsome]; rfl, fun body rest hstarts => ?_⟩
            rw [Format.starts_append_iff hlenBuf, hsome] at hstarts
            obtain ⟨hbody, hafter⟩ := hstarts
            rw [hafter, List.length_append, Option.some.inj hbody] at hshort
            omega
        | some read =>
            rw [hmsg] at h
            cases h

/-! ## What the loop delivers -/

/-- What a receiver takes of the items it is sent. -/
def upTo {α : Type} : Option Nat → List α → List α
  | none, items => items
  | some n, items => items.take n

/-- The receiver is there for as many items. -/
def Alive (receiver : Option Nat) (items : Nat) : Prop := ∀ n ∈ receiver, items ≤ n

/-- A loop over a stream that begins with these bodies in whole frames,
and then with none. -/
structure Sends {α : Type} (decoder : List UInt8 → Option α) (receiver : Option Nat)
    (bodies : List (List UInt8)) (left : List UInt8) (outcome : List α × Ending) : Prop where
  sent : outcome.1 = upTo receiver (bodies.filterMap decoder)
  stopped : Alive receiver (bodies.filterMap decoder).length → outcome.2 = endingOf left

section Loop

variable {α : Type} (decoder : List UInt8 → Option α)

theorem readLoop_stopped {stream : List (List UInt8)} {ending : Ending}
    (receiver : Option Nat) (h : readFrame stream = .stopped ending) :
    readLoop decoder receiver stream = ([], ending) := by
  rw [readLoop]
  split
  · rename_i ending' hread
    rw [Reading.stopped.inj (hread.symm.trans h)]
  · rename_i hread
    cases hread.symm.trans h

theorem readLoop_message {stream rest : List (List UInt8)} {body : List UInt8}
    (receiver : Option Nat) (h : readFrame stream = .message body rest) :
    readLoop decoder receiver stream
      = match decoder body with
        | some data =>
            if receiver = some 0 then ([], .receiverDropped)
            else
              let (sent, ending) := readLoop decoder (receiver.map fun n => n - 1) rest
              (data :: sent, ending)
        | none => readLoop decoder receiver rest := by
  rw [readLoop]
  split
  · rename_i hread
    cases hread.symm.trans h
  · rename_i hread
    obtain ⟨rfl, rfl⟩ := Reading.message.inj (hread.symm.trans h)
    rfl

theorem upTo_cons (receiver : Option Nat) (h : receiver ≠ some 0) (data : α)
    (items : List α) :
    upTo receiver (data :: items) = data :: upTo (receiver.map fun n => n - 1) items := by
  cases receiver with
  | none => rfl
  | some n =>
      cases n with
      | zero => exact absurd rfl h
      | succ n => rfl

theorem Alive.next {receiver : Option Nat} {items : Nat} (h : Alive receiver (items + 1)) :
    Alive (receiver.map fun n => n - 1) items := by
  intro n hn
  obtain ⟨m, hm, rfl⟩ := Option.map_eq_some_iff.mp hn
  have hle := h m hm
  omega

section Round

variable {decoder} {receiver : Option Nat} {bodies : List (List UInt8)} {body : List UInt8}
  {left : List UInt8} {outcome : List α × Ending}

/-- A rejected body is gone from the stream as well. -/
theorem Sends.rejected (hdata : decoder body = none)
    (h : Sends decoder receiver bodies left outcome) :
    Sends decoder receiver (body :: bodies) left outcome := by
  obtain ⟨hsent, hstopped⟩ := h
  refine ⟨?_, ?_⟩
  · rw [List.filterMap_cons_none hdata]
    exact hsent
  · rw [List.filterMap_cons_none hdata]
    exact hstopped

/-- The receiver is gone. -/
theorem Sends.dropped {data : α} (hdata : decoder body = some data) :
    Sends decoder (some 0) (body :: bodies) left ([], .receiverDropped) := by
  refine ⟨rfl, fun halive => ?_⟩
  have hnone := halive 0 rfl
  rw [List.filterMap_cons_some hdata, List.length_cons] at hnone
  omega

theorem Sends.taken {data : α} (hdata : decoder body = some data) (hreceiver : receiver ≠ some 0)
    (h : Sends decoder (receiver.map fun n => n - 1) bodies left outcome) :
    Sends decoder receiver (body :: bodies) left (data :: outcome.1, outcome.2) := by
  obtain ⟨hsent, hstopped⟩ := h
  refine ⟨?_, fun halive => ?_⟩
  · rw [List.filterMap_cons_some hdata, upTo_cons receiver hreceiver, ← hsent]
  · rw [List.filterMap_cons_some hdata] at halive
    exact hstopped halive.next

end Round

/-- By induction on the frames: a round takes off the first of them, or
there is none and it ends the loop. -/
theorem sends_readLoop : ∀ (bodies : List (List UInt8)) {stream : List (List UInt8)}
    {left : List UInt8} (receiver : Option Nat),
      format.Longest stream.flatten bodies left →
        Sends decoder receiver bodies left (readLoop decoder receiver stream) := by
  intro bodies
  induction bodies with
  | nil =>
      intro stream left receiver h
      obtain ⟨hframes, hstops⟩ := h
      cases hframes with
      | nil =>
          cases hread : readFrame stream with
          | stopped ending =>
              rw [readLoop_stopped decoder receiver hread]
              refine ⟨?_, fun _ => (stops_of_readFrame hread).1⟩
              cases receiver <;> simp [upTo]
          | message body rest => exact absurd (starts_of_readFrame hread) (hstops _ _)
  | cons body bodies ih =>
      intro stream left receiver h
      obtain ⟨rest, hstarts, hrest⟩ := h.tail
      cases hread : readFrame stream with
      | stopped ending => exact absurd hstarts ((stops_of_readFrame hread).2 _ _)
      | message body' rest' =>
          obtain ⟨rfl, rfl⟩ := hstarts.unique (starts_of_readFrame hread)
          rw [readLoop_message decoder receiver hread]
          cases hdata : decoder body with
          | none => exact (ih receiver hrest).rejected hdata
          | some data =>
              dsimp only
              by_cases hdropped : receiver = some 0
              · rw [if_pos hdropped, hdropped]
                exact .dropped hdata
              · rw [if_neg hdropped]
                exact (ih (receiver.map fun n => n - 1) hrest).taken hdata hdropped

end Loop

/-! ## Streams of whole frames -/

/-- A message that fits a frame. -/
def Framed (body : List UInt8) : Prop := 1 ≤ body.length ∧ body.length ≤ 4096

theorem starts_frame {body : List UInt8} (h : Framed body) (rest : List UInt8) :
    format.Starts (frame body ++ rest) body rest := by
  obtain ⟨hpos, hmax⟩ := h
  have hlen : (UInt16.ofNat body.length).toNat = body.length :=
    UInt16.toNat_ofNat_of_lt' (Nat.lt_of_le_of_lt hmax (by decide))
  have hheader : fromBe (beU16 (UInt16.ofNat body.length)) = body.length := by
    rw [beU16, fromBe_toBe_of_lt (UInt16.toNat_lt _), hlen]
  refine ⟨beU16 (UInt16.ofNat body.length), List.append_assoc .., length_beU16 _, ?_⟩
  rw [bodyLen_eq_some, hheader]
  exact ⟨by omega, rfl⟩

theorem longest_frames : ∀ {bodies : List (List UInt8)}, (∀ body ∈ bodies, Framed body) →
    format.Longest (bodies.flatMap frame) bodies [] := by
  intro bodies
  induction bodies with
  | nil =>
      intro _
      refine ⟨.nil, ?_⟩
      rintro body rest ⟨header, hnil, hheader, -⟩
      have hempty : header = [] := (List.append_eq_nil_iff.mp hnil.symm).1
      rw [hempty] at hheader
      cases hheader
  | cons body bodies ih =>
      intro h
      obtain ⟨hbody, hbodies⟩ := List.forall_mem_cons.mp h
      rw [List.flatMap_cons]
      exact (ih hbodies).cons (starts_frame hbody _)

/-- The rounds of the tasks of several subscriptions read these frames
too. -/
theorem nextFrame_eq_message_iff {buf body rest : List UInt8} :
    nextFrame buf = .message body rest ↔ format.Starts buf body rest := by
  unfold nextFrame
  dsimp only
  constructor
  · intro h
    split at h
    · cases h
    · rename_i hlong
      split at h
      · cases h
      · rename_i hgood
        split at h
        · cases h
        · rename_i hwhole
          obtain ⟨rfl, rfl⟩ := Frame.message.inj h
          have hbody : ((buf.drop 2).take (fromBe (buf.take 2))).length
              = fromBe (buf.take 2) := by
            rw [List.length_take, List.length_drop]
            omega
          refine ⟨buf.take 2, ?_, List.length_take_of_le (by omega), ?_⟩
          · rw [← List.drop_drop, List.take_append_drop, List.take_append_drop]
          · exact bodyLen_eq_some.mpr ⟨hgood, hbody.symm⟩
  · rintro ⟨header, rfl, hheader, hbodyLen⟩
    obtain ⟨hgood, hmsgLen⟩ := bodyLen_eq_some.mp hbodyLen
    change header.length = 2 at hheader
    have hlen : (header ++ (body ++ rest)).length = 2 + (body.length + rest.length) := by
      rw [List.length_append, List.length_append, hheader]
    have htake : (header ++ (body ++ rest)).take 2 = header := List.take_left' hheader
    have hdrop : (header ++ (body ++ rest)).drop 2 = body ++ rest := List.drop_left' hheader
    rw [htake, if_neg (by omega), if_neg hgood, hmsgLen, if_neg (by omega), ← List.drop_drop,
      hdrop, List.take_left, List.drop_left]

/-- Whatever the chunks of a stream and the decoder, the loop sends what
the decoder makes of the longest initial run of whole frames, as long as
the receiver is there, and stops behind it. -/
theorem readLoop_longest {α : Type} (decoder : List UInt8 → Option α)
    (stream : List (List UInt8)) :
    (∃ bodies left, format.Longest stream.flatten bodies left
        ∧ (∀ bodies' left', format.Frames stream.flatten bodies' left' → bodies' <+: bodies)
        ∧ ∀ receiver, Sends decoder receiver bodies left (readLoop decoder receiver stream))
      ∧ ∀ bodies : List (List UInt8), (∀ body ∈ bodies, Framed body) →
        stream.flatten = bodies.flatMap frame →
          readLoop decoder none stream = (bodies.filterMap decoder, .streamEnded) := by
  refine ⟨?_, fun bodies hbodies hstream => ?_⟩
  · obtain ⟨bodies, left, hlongest⟩ :=
      Format.exists_longest (F := format) (by decide) stream.flatten
    exact ⟨bodies, left, hlongest, fun _ _ hframes => hlongest.covers hframes,
      fun receiver => sends_readLoop decoder bodies receiver hlongest⟩
  · have hlongest := longest_frames hbodies
    rw [← hstream] at hlongest
    obtain ⟨hsent, hstopped⟩ := sends_readLoop decoder bodies none hlongest
    have hending := hstopped (by simp [Alive])
    exact Prod.ext hsent hending

/-- Two messages of a byte each, cut in the middle of a length and of a
frame. -/
theorem readLoop_longest_cut :
    readLoop some none [[0], [1, 7, 0], [1], [8]] = ([[7], [8]], .streamEnded) :=
  (readLoop_longest some [[0], [1, 7, 0], [1], [8]]).2 [[7], [8]] (by simp [Framed]) (by decide)

end QuicSubscribe

end Slipstream
