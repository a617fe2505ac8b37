import Slipstream.Framing
import Slipstream.Transport
import Slipstream.Utf8

/-!
# QUIC authentication

`authenticate` sends a frame with the first sixteen bytes of the API key
and makes one read for the reply: a status byte and a message, from
which `connect` takes the session and the region.

Both ends may cut where they should not. The key is a string and is cut
at a byte: `authFrame_iff` says that the frame is built for the keys
without a character across byte sixteen, and for no others. The reply is
a stream and is cut wherever its first chunk ends: only a reply of a
single byte has one outcome (`sameOutcome_iff`).
-/

namespace Slipstream

namespace QuicTransport

open Bytes Framing

/-! ## The frame -/

/-- `b"rust-sdk-v0.1"`. -/
def version : List UInt8 := Utf8.bytes "rust-sdk-v0.1"

/-- What is sent: the key prefix in the first sixteen bytes, and the
version string. -/
def authFrame (apiKey : String) : Checked (List UInt8) := do
  let prefixBytes ← Utf8.sliceTo apiKey (min 16 (Utf8.bytes apiKey).length)
  let frame := List.replicate 64 0
  let prefixLen := min prefixBytes.length 16
  let frame ← copyFromSlice frame 0 prefixLen (← slice prefixBytes 0 prefixLen)
  let frame ← copyFromSlice frame 16 (16 + version.length) version
  slice frame 0 (16 + version.length)

/-- The frame the server expects. -/
structure IsAuthFrame (apiKey : String) (frame : List UInt8) : Prop where
  length : frame.length = 29
  fields : frame = (Utf8.bytes apiKey).take 16
    ++ List.replicate (16 - (Utf8.bytes apiKey).length) 0 ++ version

theorem length_version : version.length = 13 := by decide

theorem authFrame_of_sliceTo {apiKey : String} {prefixBytes : List UInt8}
    (hlen : prefixBytes.length ≤ 16)
    (h : Utf8.sliceTo apiKey (min 16 (Utf8.bytes apiKey).length) = .ok prefixBytes) :
    authFrame apiKey
      = .ok (prefixBytes ++ List.replicate (16 - prefixBytes.length) 0 ++ version) := by
  have hbytes : slice prefixBytes 0 prefixBytes.length = .ok prefixBytes := by
    simpa using slice_ok (Nat.zero_le _) (Nat.le_refl prefixBytes.length)
  have hkey : copyFromSlice (List.replicate 64 0) 0 prefixBytes.length prefixBytes
      = .ok (prefixBytes ++ List.replicate (64 - prefixBytes.length) 0) := by
    rw [copyFromSlice_ok (Nat.zero_le _) (by rw [List.length_replicate]; omega) (by simp),
      List.take_zero, List.nil_append, List.drop_replicate]
  have hversion : copyFromSlice (prefixBytes ++ List.replicate (64 - prefixBytes.length) 0) 16
        (16 + version.length) version
      = .ok (prefixBytes ++ List.replicate (16 - prefixBytes.length) 0 ++ version
        ++ List.replicate 35 0) := by
    rw [copyFromSlice_ok (Nat.le_add_right ..) (by simp [length_version]; omega) (by simp)]
    rw [List.take_append, List.take_of_length_le hlen, List.take_replicate,
      List.drop_append, List.drop_of_length_le (by omega), List.drop_replicate, length_version,
      Nat.min_eq_left (by omega), List.nil_append,
      show 64 - prefixBytes.length - (16 + 13 - prefixBytes.length) = 35 by omega]
  unfold authFrame
  rw [h]
  simp only [bind, Except.bind, Nat.min_eq_left hlen]
  rw [hbytes]
  dsimp only
  rw [hkey]
  dsimp only
  rw [hversion]
  dsimp only
  rw [slice_ok (Nat.zero_le _) (by simp [length_version]; omega), List.drop_zero, Nat.sub_zero]
  exact congrArg Except.ok (List.take_left' (by simp [length_version]; omega))

/-- Whatever the key, the frame is built, and as it should be, exactly if
the first sixteen bytes of the key end between two of its characters. -/
theorem authFrame_iff (apiKey : String) :
    (∃ frame, authFrame apiKey = .ok frame ∧ IsAuthFrame apiKey frame)
      ↔ ¬ Utf8.Straddles apiKey 16 := by
  have hcut : Utf8.Straddles apiKey (min 16 (Utf8.bytes apiKey).length)
      ↔ Utf8.Straddles apiKey 16 := by
    by_cases hlen : 16 ≤ (Utf8.bytes apiKey).length
    · rw [Nat.min_eq_left hlen]
    · rw [Nat.min_eq_right (by omega)]
      exact iff_of_false (Utf8.not_straddles_of_le (Nat.le_refl _))
        (Utf8.not_straddles_of_le (by omega))
  constructor
  · rintro ⟨frame, hframe, -⟩ hstraddles
    have hpanic := Utf8.sliceTo_of_straddles (Nat.min_le_right ..) (hcut.mpr hstraddles)
    unfold authFrame at hframe
    rw [hpanic] at hframe
    cases hframe
  · intro hwhole
    have hslice := Utf8.sliceTo_of_not_straddles (Nat.min_le_right ..)
      (fun h => hwhole (hcut.mp h))
    have htake : (Utf8.bytes apiKey).take (min 16 (Utf8.bytes apiKey).length)
        = (Utf8.bytes apiKey).take 16 := by
      rw [List.take_eq_take_iff]
      omega
    have hpad : 16 - ((Utf8.bytes apiKey).take 16).length = 16 - (Utf8.bytes apiKey).length := by
      rw [List.length_take]
      omega
    rw [htake] at hslice
    refine ⟨_, authFrame_of_sliceTo (by rw [List.length_take]; omega) hslice, ?_, ?_⟩
    · simp [length_version]
      omega
    · rw [hpad]

/-- `sk_live_0123456` and a letter of two bytes. -/
def accentedKey : Config where
  apiKey := "sk_live_0123456é"

/-- The key is valid, and building the frame for it panics. -/
theorem authFrame_accentedKey :
    accentedKey.validate = .ok () ∧ authFrame accentedKey.apiKey = .error .sliceOutOfRange
      ∧ ¬ ∃ frame, authFrame accentedKey.apiKey = .ok frame
        ∧ IsAuthFrame accentedKey.apiKey frame := by
  have hpanic : authFrame accentedKey.apiKey = .error .sliceOutOfRange := by decide
  refine ⟨by decide, hpanic, ?_⟩
  rintro ⟨frame, hframe, -⟩
  rw [hpanic] at hframe
  cases hframe

/-! ## The reply -/

/-- What follows on the stream once the frame is sent: a single read into
a buffer of 256 bytes. -/
def readReply (chunks : List (List UInt8)) : Except SdkError String :=
  match readSome 256 chunks with
  | none => .error (.auth "Connection closed during authentication")
  | some [] => .error (.auth "Empty auth response")
  | some (status :: rest) =>
      let message := Utf8.fromUtf8Lossy rest
      if status = 0x01 then .ok message
      else .error (.auth ("Authentication failed: " ++ message))

/-- How the authentication stream behaves: the errors of opening it, of
sending on it and of reading from it, and the chunks of the reply. -/
structure AuthStream where
  openBi : Except String Unit
  writeAll : List UInt8 → Except String Unit
  reply : Except String (List (List UInt8))

def authenticate (stream : AuthStream) (apiKey : String) : Checked (Except SdkError String) :=
  match stream.openBi with
  | .error e => pure (.error (.connection ("Failed to open auth stream: " ++ e)))
  | .ok () => do
      let frame ← authFrame apiKey
      match stream.writeAll frame with
      | .error e => pure (.error (.connection ("Failed to send auth: " ++ e)))
      | .ok () =>
          match stream.reply with
          | .error e => pure (.error (.connection ("Failed to read auth response: " ++ e)))
          | .ok chunks => pure (readReply chunks)

/-- On a stream that works, the key decides about the frame and the
reply about the rest. -/
theorem authenticate_eq_readReply {stream : AuthStream} {apiKey : String} {frame : List UInt8}
    {chunks : List (List UInt8)} (hopen : stream.openBi = .ok ())
    (hframe : authFrame apiKey = .ok frame) (hwrite : stream.writeAll frame = .ok ())
    (hreply : stream.reply = .ok chunks) :
    authenticate stream apiKey = .ok (readReply chunks) := by
  unfold authenticate
  rw [hopen, hframe]
  simp only [bind, Except.bind, hwrite, hreply]
  rfl

/-- What comes of an authentication: its own result, and that of the
`connect` it belongs to. -/
structure AuthOutcome where
  authenticated : Except SdkError String
  connected : Except SdkError ConnectionInfo
deriving DecidableEq

/-- The outcome if the reply arrives in these chunks, all else being as in
`net`. -/
def authOutcome (net : Network) (t : QuicTransport) (cfg : Config)
    (chunks : List (List UInt8)) : AuthOutcome :=
  let authenticated := readReply chunks
  ⟨authenticated,
    (t.connect { net with quic := fun endpoint => ⟨(net.quic endpoint).took, authenticated⟩ }
      cfg).result⟩

/-- Behind the same status byte, no text is not the same as some. -/
theorem readReply_ne {status : UInt8} {rest : List UInt8} {chunks chunks' : List (List UInt8)}
    (hrest : rest ≠ []) (h : readSome 256 chunks = some [status])
    (h' : readSome 256 chunks' = some (status :: rest)) : readReply chunks ≠ readReply chunks' := by
  have hempty : Utf8.fromUtf8Lossy [] = "" := rfl
  unfold readReply
  rw [h, h']
  dsimp only
  rw [hempty]
  split
  · intro heq
    exact hrest (Utf8.fromUtf8Lossy_eq_empty_iff.mp (Except.ok.inj heq).symm)
  · intro heq
    have hmsg := SdkError.auth.inj (Except.error.inj heq)
    exact hrest (Utf8.fromUtf8Lossy_eq_empty_iff.mp ((String.append_right_inj _).mp hmsg).symm)

/-- Where the reply is cut makes no difference to the outcome exactly if
it cannot be cut. -/
theorem sameOutcome_iff (net : Network) (t : QuicTransport) (cfg : Config)
    (reply : List UInt8) :
    (∀ chunks chunks', Cuts reply chunks → Cuts reply chunks' →
        authOutcome net t cfg chunks = authOutcome net t cfg chunks')
      ↔ reply.length ≤ 1 := by
  constructor
  · intro h
    by_contra hlen
    match reply, hlen with
    | status :: b :: bs, _ =>
        have hwhole : Cuts (status :: b :: bs) [status :: b :: bs] := cuts_one (by simp)
        have hcut : Cuts (status :: b :: bs) [[status], b :: bs] :=
          cuts_at (k := 1) (by decide) (by simp)
        have hsame : readReply [[status], b :: bs] = readReply [status :: b :: bs] :=
          congrArg AuthOutcome.authenticated (h _ _ hcut hwhole)
        have hrest : b :: bs.take 254 ≠ [] := List.cons_ne_nil b _
        exact readReply_ne hrest rfl rfl hsame
    | [], hlen => exact absurd (Nat.zero_le 1) hlen
    | [_], hlen => exact absurd (Nat.le_refl 1) hlen
  · intro hlen chunks chunks' hc hc'
    rw [hc.eq_of_length_le_one hc' hlen]

/-- A network without anything but the authentication reply. -/
def authOnly : Network where
  quic := fun _ => ⟨0, .error .notConnected⟩
  grpc := fun _ => ⟨0, .error .notConnected⟩
  webSocket := fun _ => ⟨0, .error .notConnected⟩
  http := fun _ => ⟨0, .error .notConnected⟩
  uuid := fun _ _ => ""
  unixMillis := 0

/-- `ok:sk:us-east`, accepted. -/
def acceptedReply : List UInt8 :=
  [0x01, 0x6f, 0x6b, 0x3a, 0x73, 0x6b, 0x3a, 0x75, 0x73, 0x2d, 0x65, 0x61, 0x73, 0x74]

def accepted (chunks : List (List UInt8)) : AuthOutcome :=
  authOutcome authOnly {} { apiKey := "sk_test_12345678" } chunks

/-- Cut behind the second colon, the reply names another region, and
cut behind the status byte, another session. -/
theorem not_sameOutcome_acceptedReply :
    (accepted [acceptedReply]).connected
        = .ok (connectionInfo authOnly "quic-sk" (some "us-east"))
      ∧ (accepted [acceptedReply.take 7, acceptedReply.drop 7]).connected
        = .ok (connectionInfo authOnly "quic-sk" (some ""))
      ∧ (accepted [acceptedReply.take 1, acceptedReply.drop 1]).connected
        = .ok (connectionInfo authOnly "" none)
      ∧ ¬ ∀ chunks chunks', Cuts acceptedReply chunks → Cuts acceptedReply chunks' →
        accepted chunks = accepted chunks' := by
  have hwhole : (accepted [acceptedReply]).connected
      = .ok (connectionInfo authOnly "quic-sk" (some "us-east")) := by decide
  have hcolon : (accepted [acceptedReply.take 7, acceptedReply.drop 7]).connected
      = .ok (connectionInfo authOnly "quic-sk" (some "")) := by decide
  refine ⟨hwhole, hcolon, by decide, fun h => ?_⟩
  have hsame := h _ _ (cuts_one (by decide)) (cuts_at (k := 7) (by decide) (by decide))
  rw [hsame, hcolon] at hwhole
  revert hwhole
  decide

end QuicTransport

end Slipstream
