import Slipstream.QuicResponse
import Slipstream.Radix

/-!
# Signatures over QUIC

A worker answers a submission with the 64 bytes of the signature; the
client hands out their base58 text, which is what the signature is
looked up by later. The text is the number of the bytes in base 58,
behind a `1` for each zero byte they begin with, so that nothing is lost
(`signature_respond`), also where the answer was cut off.
-/

namespace Slipstream

def base58Alphabet : Radix.Alphabet 58 where
  chars := "123456789ABCDEFGHJKLMNPQRSTUVWXYZabcdefghijkmnopqrstuvwxyz".toList
  length_eq := by decide
  nodup := by decide

/-- `bs58::encode`. -/
def base58 (bytes : List UInt8) : String := String.ofList (Radix.encode base58Alphabet bytes)

def fromBase58 (text : String) : Option (List UInt8) := Radix.decode base58Alphabet text.toList

theorem fromBase58_base58 (bytes : List UInt8) : fromBase58 (base58 bytes) = some bytes := by
  unfold fromBase58 base58
  rw [String.toList_ofList, Radix.decode_encode base58Alphabet (by decide)]

example : base58 [0, 0, 1, 2, 3] = "11Ldp" := by decide +kernel

namespace QuicResponse

open Bytes

theorem parseSignature_start (encode : List UInt8 → String) (hasSignature : Bool)
    (d : List UInt8) :
    ∃ c, parseSignature encode hasSignature d (.start 6)
      = .ok (if hasSignature = true ∧ 70 ≤ d.length then some (encode ((d.drop 6).take 64))
          else none, c) := by
  have hstart : (Cursor.start 6).offset = 6 := rfl
  unfold parseSignature
  rw [hstart]
  by_cases hroom : hasSignature = true ∧ 6 + 64 ≤ d.length
  · rw [if_pos hroom, if_pos hroom, slice_ok (by omega) hroom.2]
    exact ⟨_, rfl⟩
  · rw [if_neg hroom, if_neg hroom]
    cases hasSignature with
    | true => exact ⟨_, rfl⟩
    | false => exact ⟨_, rfl⟩

/-- The parser has a signature as soon as its 64 bytes have arrived. -/
theorem signature_parseResponse {encode : List UInt8 → String} {d : List UInt8} {p : Parsed}
    (hlen : 6 ≤ d.length) (h : parseResponse encode d = .ok p) :
    p.fields.signature
      = if (d[5] != 0) = true ∧ 70 ≤ d.length then some (encode ((d.drop 6).take 64))
        else none := by
  have hread0 := u32At_ok (show 0 + 4 ≤ d.length by omega)
  have hread4 := index_ok (show 4 < d.length by omega)
  have hread5 := index_ok (show 5 < d.length by omega)
  obtain ⟨signature, c₁, hsig, hc₁, -⟩ :=
    parseSignature_spec encode (d[5] != 0) (Cursor.within_start hlen)
  obtain ⟨error, c₂, herr, hc₂, -⟩ := parseError_spec hc₁
  obtain ⟨senderId, c₃, hsender, hc₃, -⟩ := parseText_spec hc₂
  obtain ⟨region, c₄, hregion, hc₄, -⟩ := parseText_spec hc₃
  obtain ⟨slotSent, c₅, hsent, hc₅, -⟩ := parseSlot_spec hc₄
  obtain ⟨slotAccepted, c₆, hacc, -⟩ := parseSlot_spec hc₅
  obtain ⟨latencies, hlat, -⟩ := @parseLatencies_spec d c₆
  simp only [parseResponse, hread0, hread4, hread5, bind, Except.bind, hsig, herr, hsender,
    hregion, hsent, hacc, hlat] at h
  obtain ⟨c, hstart⟩ := parseSignature_start encode (d[5] != 0) d
  rw [hsig] at hstart
  rw [← (Prod.mk.inj (Except.ok.inj hstart)).1, ← Except.ok.inj h]

/-- What the text of a result stands for: the bytes of the worker's
signature, once they have all arrived. -/
theorem signature_respond (r : SubmitResponse) {d : List UInt8} (hpre : d <+: r.encode)
    (requestId transactionId : String) (timestamp : UInt64) {result : TransactionResult}
    (h : respond base58 requestId transactionId timestamp (.ok d) = .ok (.ok result)) :
    result.signature.map fromBase58
      = if 70 ≤ d.length then r.signature.map fun sig => some sig.val else none := by
  simp only [respond] at h
  by_cases hshort : d.length < 6
  · rw [if_pos hshort] at h
    cases h
  · have hlen : 6 ≤ d.length := Nat.le_of_not_lt hshort
    obtain ⟨p, hp, -⟩ := parseResponse_spec base58 hlen
    obtain ⟨-, hflag, h6⟩ := sees_header hpre hlen
    rw [if_neg hshort, hp] at h
    rw [← Except.ok.inj (Except.ok.inj h)]
    show p.fields.signature.map fromBase58 = _
    rw [index_ok (show 5 < d.length by omega)] at hflag
    rw [signature_parseResponse hlen hp, Except.ok.inj hflag]
    by_cases hroom : 70 ≤ d.length
    · rw [if_pos hroom]
      cases hsig : r.signature with
      | none => rfl
      | some sig =>
          have hbytes : (d.drop 6).take 64 = sig.val := by
            rcases h6 with ⟨hsees, -⟩ | ⟨-, hend⟩
            · unfold SubmitResponse.encodeFields at hsees
              rw [hsig] at hsees
              have htake := (hsees.advance (by rw [encodeSignature, sig.property]; exact hroom)).1
              rwa [encodeSignature, sig.property] at htake
            · omega
          show Option.map fromBase58 (if _ then some (base58 ((d.drop 6).take 64)) else none)
            = some (some sig.val)
          rw [if_pos ⟨rfl, hroom⟩, hbytes, Option.map_some, fromBase58_base58]
    · rw [if_neg hroom, if_neg (fun hno => hroom hno.2)]
      rfl

/-- An answer with a signature. -/
def acceptance : SubmitResponse where
  requestId := 8
  status := .accepted
  signature := some ⟨List.replicate 64 7, rfl⟩
  error := none
  senderId := none
  region := none
  slotSent := some 4265028000
  slotAccepted := none
  latencyMs := 12
  senderLatencyMs := 5

theorem signature_acceptance :
    ((acceptance.fields base58).result "req-8" "tx-8" 1000).signature.map fromBase58
      = some (some (List.replicate 64 7)) := by
  have hlen : 70 ≤ acceptance.encode.length := by decide
  have hsig := signature_respond acceptance (List.prefix_refl _) "req-8" "tx-8" 1000
    (respond_encode base58 "req-8" "tx-8" 1000 acceptance)
  rw [if_pos hlen] at hsig
  exact hsig

end QuicResponse

end Slipstream
