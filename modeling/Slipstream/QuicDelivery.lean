import Slipstream.QuicFrames

/-!
# From the worker to the receiver of a QUIC subscription

A worker writes messages as frames, and the network cuts the bytes into
chunks, and the stream off wherever it ends. `readLoop_messages` puts the
format of the messages and the read loop together: the receiver gets the
items of the messages of its kind whose frames have come in whole, up to
the one at which it is dropped.
-/

namespace Slipstream

namespace QuicSubscribe

open Bytes Framing QuicStream

/-- The decoder of a subscription, where it does not panic. -/
def decoder (kind : StreamKind) (body : List UInt8) : Option StreamItem :=
  match decode kind body with
  | .ok item => item
  | .error _ => none

/-- A worker's messages on the wire. -/
def written (ms : List WireMessage) : List UInt8 := ms.flatMap fun m => frame m.encode

/-- The messages that are whole in the first `n` bytes. -/
def arrived (n : Nat) (ms : List WireMessage) : List WireMessage :=
  Format.whole (fun m => (frame m.encode).length) n ms

theorem framed_encode {m : WireMessage} (h : m.Fits) : Framed m.encode := by
  constructor
  · simp [WireMessage.encode]
  · exact length_encode_le h

/-- A subscription reads its own messages, and drops those of another
kind. -/
theorem decode_encode {kind : StreamKind} {m : WireMessage} (hfit : m.Fits)
    (hcost : m.kind = kind → m.CostFits) :
    decode kind m.encode = .ok (if m.kind = kind then some m.item else none) := by
  rw [← List.append_nil m.encode]
  split
  · rename_i hkind
    subst hkind
    rw [decode_of_read_some (read_encode_append hfit []), WireMessage.toItem_eq (hcost rfl)]
    rfl
  · rename_i hkind
    exact decode_of_read_none (read_of_kind_ne (Ne.symm hkind) [])

/-- What the receiver of a kind is to get of these messages. -/
def itemsOf (kind : StreamKind) (ms : List WireMessage) : List StreamItem :=
  (ms.filter fun m => m.kind = kind).map WireMessage.item

theorem filterMap_decoder {kind : StreamKind} {ms : List WireMessage}
    (h : ∀ m ∈ ms, decode kind m.encode = .ok (if m.kind = kind then some m.item else none)) :
    (ms.map WireMessage.encode).filterMap (decoder kind) = itemsOf kind ms := by
  induction ms with
  | nil => rfl
  | cons m ms ih =>
      obtain ⟨hm, hms⟩ := List.forall_mem_cons.mp h
      have hdecoder : decoder kind m.encode = if m.kind = kind then some m.item else none := by
        rw [decoder, hm]
      rw [List.map_cons]
      by_cases hkind : m.kind = kind
      · rw [if_pos hkind] at hdecoder
        rw [List.filterMap_cons_some hdecoder, ih hms]
        simp [itemsOf, hkind]
      · rw [if_neg hkind] at hdecoder
        rw [List.filterMap_cons_none hdecoder, ih hms]
        simp [itemsOf, hkind]

/-- A part of a frame has a good length, or none yet. -/
theorem endingOf_part {left body : List UInt8} (hbody : Framed body) (hleft : left <+: frame body) :
    endingOf left = .streamEnded := by
  refine if_neg fun h => ?_
  obtain ⟨hlong, hnone⟩ := h
  obtain ⟨header, hframe, hlen, hsome⟩ := starts_frame hbody []
  rw [List.append_nil] at hframe
  change header.length = 2 at hlen
  have hpre : header <+: left.take 2 := by
    refine List.prefix_of_prefix_length_le ⟨_, hframe.symm⟩ ((left.take_prefix 2).trans hleft) ?_
    rw [List.length_take]
    omega
  have hheader : header = left.take 2 := hpre.eq_of_length (by rw [List.length_take]; omega)
  rw [← hheader, hsome] at hnone
  cases hnone

/-- Whatever the messages a worker writes on the stream of a subscription,
wherever the stream is cut into chunks and cut off, and whenever the
receiver is dropped. No decoder panics on the way, and while there is a
receiver it is the stream that ends. -/
theorem readLoop_messages (kind : StreamKind) (receiver : Option Nat) {ms : List WireMessage}
    {stream : List (List UInt8)} (hfit : ∀ m ∈ ms, m.Fits)
    (hcost : ∀ m ∈ ms, m.kind = kind → m.CostFits) (hcut : stream.flatten <+: written ms) :
    let items := itemsOf kind (arrived stream.flatten.length ms)
    (∀ m ∈ ms, NoPanic (decode kind m.encode))
      ∧ (readLoop (decoder kind) receiver stream).1 = upTo receiver items
      ∧ (Alive receiver items.length →
        (readLoop (decoder kind) receiver stream).2 = .streamEnded) := by
  intro items
  have hcut' : stream.flatten <+: (ms.map WireMessage.encode).flatMap frame := by
    rwa [List.flatMap_map]
  have hframed : ∀ body ∈ ms.map WireMessage.encode, Framed body := by
    intro body hbody
    obtain ⟨m, hm, rfl⟩ := List.mem_map.mp hbody
    exact framed_encode (hfit m hm)
  obtain ⟨left, hwhole, hleft⟩ := Format.longest_cut (F := format) (by decide)
    (fun body hbody rest => starts_frame (hframed body hbody) rest) hcut'
  have hlongest : format.Longest stream.flatten
      ((arrived stream.flatten.length ms).map WireMessage.encode) left := by
    rw [Format.whole_map] at hwhole
    exact hwhole
  obtain ⟨hsent, hstopped⟩ := sends_readLoop (decoder kind) _ receiver hlongest
  have hitems : ((arrived stream.flatten.length ms).map WireMessage.encode).filterMap
      (decoder kind) = items := by
    have hmem : arrived stream.flatten.length ms ⊆ ms := (Format.whole_prefix _ ms _).subset
    exact filterMap_decoder fun m hm => decode_encode (hfit m (hmem hm)) (hcost m (hmem hm))
  rw [hitems] at hsent hstopped
  refine ⟨fun m hm => ⟨_, decode_encode (hfit m hm) (hcost m hm)⟩, hsent, fun halive => ?_⟩
  rw [hstopped halive]
  rcases hleft with rfl | ⟨body, hbody, hpart⟩
  · rfl
  · exact endingOf_part (hframed body hbody) hpart

def twoSlots : List WireMessage :=
  [.latestSlot { slot := 318000000, timestamp := 1706011200000 },
    .latestSlot { slot := 318000001, timestamp := 1706011200400 }]

/-- The second of two frames is cut off. -/
theorem twoSlots_cut :
    (readLoop (decoder .latestSlot) none
        [(written twoSlots).take 1, ((written twoSlots).drop 1).take 29]).1
      = [.latestSlot { slot := 318000000, timestamp := 1706011200000 }] := by
  have hfit : ∀ m ∈ twoSlots, m.Fits := by decide
  have hcost : ∀ m ∈ twoSlots, m.kind = .latestSlot → m.CostFits := by decide
  have hcut : [(written twoSlots).take 1, ((written twoSlots).drop 1).take 29].flatten
      <+: written twoSlots := by decide
  rw [(readLoop_messages .latestSlot none hfit hcost hcut).2.1]
  rfl

end QuicSubscribe

end Slipstream
