import Mathlib.Algebra.Order.Group.Abs
import Mathlib.Algebra.Order.Group.Int
import Slipstream.LeaderHints
import Slipstream.Median

/-!
# Time synchronisation

A client keeps the results of its last ten pings and estimates from them
the latency and the offset of the server's clock, each by its median.

With a strict majority of honest samples the estimates are as good as
the honest ones, whatever the others are (`timeSync_robust`). The
arithmetic is that of `i64` on what the server sends, so it is exact
exactly for times below `2^63` whose median fits the client's clock
(`unbroken_iff`).
-/

namespace Slipstream

open Bytes

open Routing (Build)

/-! ## Signed arithmetic -/

/-- `a + b` in `i64`. -/
def addI64 (build : Build) (a b : Int64) : Checked Int64 :=
  match build with
  | .debug =>
      if -2 ^ 63 ≤ a.toInt + b.toInt ∧ a.toInt + b.toInt < 2 ^ 63 then .ok (a + b)
      else .error .arithmeticOverflow
  | .release => .ok (a + b)

/-- `a - b` in `i64`. -/
def subI64 (build : Build) (a b : Int64) : Checked Int64 :=
  match build with
  | .debug =>
      if -2 ^ 63 ≤ a.toInt - b.toInt ∧ a.toInt - b.toInt < 2 ^ 63 then .ok (a - b)
      else .error .arithmeticOverflow
  | .release => .ok (a - b)

section Signed

variable {a b : Int64}

theorem addI64_ok (build : Build) (hlo : -2 ^ 63 ≤ a.toInt + b.toInt)
    (hhi : a.toInt + b.toInt < 2 ^ 63) :
    addI64 build a b = .ok (a + b) ∧ (a + b).toInt = a.toInt + b.toInt := by
  constructor
  · cases build with
    | debug => exact if_pos ⟨hlo, hhi⟩
    | release => rfl
  · rw [Int64.toInt_add, Int.bmod_eq_of_le] <;> omega

theorem subI64_ok (build : Build) (hlo : -2 ^ 63 ≤ a.toInt - b.toInt)
    (hhi : a.toInt - b.toInt < 2 ^ 63) :
    subI64 build a b = .ok (a - b) ∧ (a - b).toInt = a.toInt - b.toInt := by
  constructor
  · cases build with
    | debug => exact if_pos ⟨hlo, hhi⟩
    | release => rfl
  · rw [Int64.toInt_sub, Int.bmod_eq_of_le] <;> omega

/-- A debug build returns only what is in range. -/
theorem addI64_debug {c : Int64} (h : addI64 .debug a b = .ok c) :
    c = a + b ∧ -2 ^ 63 ≤ a.toInt + b.toInt ∧ a.toInt + b.toInt < 2 ^ 63 := by
  simp only [addI64] at h
  split at h
  · rename_i hrange
    exact ⟨(Except.ok.inj h).symm, hrange⟩
  · cases h

theorem subI64_debug {c : Int64} (h : subI64 .debug a b = .ok c) :
    c = a - b ∧ -2 ^ 63 ≤ a.toInt - b.toInt ∧ a.toInt - b.toInt < 2 ^ 63 := by
  simp only [subI64] at h
  split at h
  · rename_i hrange
    exact ⟨(Except.ok.inj h).symm, hrange⟩
  · cases h

theorem toInt_toInt64 (x : UInt64) :
    x.toInt64.toInt = if x.toNat < 2 ^ 63 then (x.toNat : Int) else x.toNat - 2 ^ 64 := by
  have hcond : x.toInt64.toInt = x.toBitVec.toInt := rfl
  rw [hcond, BitVec.toInt_eq_toNat_cond]
  have hnat : x.toBitVec.toNat = x.toNat := rfl
  rw [hnat]
  split <;> split <;> omega

theorem toInt_toInt64_of_lt {x : UInt64} (h : x.toNat < 2 ^ 63) :
    x.toInt64.toInt = x.toNat := by
  rw [toInt_toInt64, if_pos h]

theorem toNat_toUInt64 (hnonneg : 0 ≤ a.toInt) : (a.toUInt64.toNat : Int) = a.toInt := by
  have hcond : a.toInt = a.toBitVec.toInt := rfl
  have hnat : a.toUInt64.toNat = a.toBitVec.toNat := rfl
  rw [hcond, BitVec.toInt_eq_toNat_cond] at hnonneg ⊢
  rw [hnat]
  have hlt := a.toBitVec.isLt
  split at hnonneg <;> split <;> omega

end Signed

/-! ## Pings -/

structure PingResult where
  seq : UInt32
  rttMs : UInt64
  clockOffsetMs : Int64
  serverTime : UInt64
deriving Repr, DecidableEq

/-- `a.saturating_sub(b)`. -/
def saturatingSub (a b : UInt64) : UInt64 :=
  if b ≤ a then a - b else 0

theorem toNat_saturatingSub (a b : UInt64) :
    (saturatingSub a b).toNat = a.toNat - b.toNat := by
  unfold saturatingSub
  split
  · rename_i hle
    exact UInt64.toNat_sub_of_le _ _ hle
  · rename_i hgt
    have hlt : a.toNat < b.toNat :=
      Nat.lt_of_not_le fun hle => hgt (UInt64.le_iff_toNat_le.mpr hle)
    rw [Nat.sub_eq_zero_of_le (Nat.le_of_lt hlt)]
    rfl

/-- What a transport makes of the server's time, with its own clock before
the ping and after the answer. -/
def pingResult (build : Build) (seq : UInt32) (clientSendTime now serverTime : UInt64) :
    Checked PingResult := do
  let rttMs := saturatingSub now clientSendTime
  let mid ← addI64 build clientSendTime.toInt64 (rttMs.toInt64 / 2)
  let clockOffsetMs ← subI64 build serverTime.toInt64 mid
  pure { seq := seq, rttMs := rttMs, clockOffsetMs := clockOffsetMs, serverTime := serverTime }

/-- A pong as it is read, whole. -/
structure PongFrame where
  response : List UInt8
  length : response.length = 21

def QuicTransport.ping (build : Build) (seq : UInt32) (clientSendTime now : UInt64)
    (pong : PongFrame) : Checked PingResult := do
  let serverTime ← u64At pong.response 13
  pingResult build seq clientSendTime now serverTime

/-- The body need not have a `server_time`, or not as a number. -/
def HttpTransport.ping (build : Build) (clientSendTime now : UInt64)
    (serverTime : Option UInt64) : Checked PingResult :=
  pingResult build 0 clientSendTime now (serverTime.getD now)

inductive Pong where
  | quic (seq : UInt32) (frame : PongFrame)
  | http (serverTime : Option UInt64)

/-- A ping that was answered. -/
structure Exchange where
  clientSendTime : UInt64
  now : UInt64
  pong : Pong

namespace Exchange

def ping (build : Build) (e : Exchange) : Checked PingResult :=
  match e.pong with
  | .quic seq frame => QuicTransport.ping build seq e.clientSendTime e.now frame
  | .http serverTime => HttpTransport.ping build e.clientSendTime e.now serverTime

def seq (e : Exchange) : UInt32 :=
  match e.pong with
  | .quic seq _ => seq
  | .http _ => 0

/-- The server's time, as the client takes it. -/
def serverTime (e : Exchange) : UInt64 :=
  match e.pong with
  | .quic _ frame => UInt64.ofNat (fromBe ((frame.response.drop 13).take 8))
  | .http serverTime => serverTime.getD e.now

/-- The middle of the exchange on the client's clock. -/
def mid (e : Exchange) : Nat :=
  e.clientSendTime.toNat + (e.now.toNat - e.clientSendTime.toNat) / 2

/-- How far the server's clock is ahead, as a number. -/
def exactOffset (e : Exchange) : Int :=
  (e.serverTime.toNat : Int) - e.mid

/-- The client's clock is not past `2^62` ms. -/
structure Clocked (e : Exchange) : Prop where
  sent : e.clientSendTime.toNat < 2 ^ 62
  received : e.now.toNat < 2 ^ 62

theorem ping_eq (build : Build) (e : Exchange) :
    e.ping build = pingResult build e.seq e.clientSendTime e.now e.serverTime := by
  obtain ⟨sent, now, pong⟩ := e
  cases pong with
  | quic seq frame =>
      have hlen : 13 + 8 ≤ frame.response.length := by rw [frame.length]
      change (u64At frame.response 13 >>= fun serverTime =>
        pingResult build seq sent now serverTime) = _
      rw [u64At_ok hlen]
      rfl
  | http serverTime => rfl

/-- The middle of an exchange is computed without overflow, in any
build; what is left is to compare the server's time with it. -/
theorem ping_mid (build : Build) {e : Exchange} (he : e.Clocked) :
    ∃ mid : Int64, mid.toInt = e.mid ∧ e.mid < 2 ^ 62
      ∧ e.ping build
        = (subI64 build e.serverTime.toInt64 mid).map fun offset =>
          ⟨e.seq, saturatingSub e.now e.clientSendTime, offset, e.serverTime⟩ := by
  obtain ⟨hsent, hreceived⟩ := he
  have hrtt := toNat_saturatingSub e.now e.clientSendTime
  have hsent' : e.clientSendTime.toInt64.toInt = e.clientSendTime.toNat :=
    toInt_toInt64_of_lt (by omega)
  have hrtt' : (saturatingSub e.now e.clientSendTime).toInt64.toInt
      = (e.now.toNat - e.clientSendTime.toNat : Nat) := by
    rw [toInt_toInt64_of_lt (by omega), hrtt]
  have hhalf : ((saturatingSub e.now e.clientSendTime).toInt64 / 2).toInt
      = ((e.now.toNat - e.clientSendTime.toNat) / 2 : Nat) := by
    rw [Int64.toInt_div_of_ne_right _ _ (by decide), hrtt']
    rfl
  have hmid : e.mid
      = e.clientSendTime.toNat + (e.now.toNat - e.clientSendTime.toNat) / 2 := rfl
  obtain ⟨hok, hval⟩ := addI64_ok (a := e.clientSendTime.toInt64)
    (b := (saturatingSub e.now e.clientSendTime).toInt64 / 2) build (by omega) (by omega)
  refine ⟨e.clientSendTime.toInt64 + (saturatingSub e.now e.clientSendTime).toInt64 / 2,
    by omega, by omega, ?_⟩
  rw [e.ping_eq build]
  unfold pingResult
  simp only [hok, bind, Except.bind, pure, Except.pure]
  cases subI64 build e.serverTime.toInt64 _ <;> rfl

/-- With a time of the server below `2^63` the offset is what it should
be. -/
theorem ping_ok (build : Build) {e : Exchange} (he : e.Clocked)
    (hserver : e.serverTime.toNat < 2 ^ 63) :
    ∃ r, e.ping build = .ok r ∧ r.clockOffsetMs.toInt = e.exactOffset
      ∧ r.rttMs.toNat = e.now.toNat - e.clientSendTime.toNat := by
  obtain ⟨mid, hmid, hlt, hping⟩ := ping_mid build he
  have hserver' := toInt_toInt64_of_lt hserver
  obtain ⟨hok, hval⟩ := subI64_ok (a := e.serverTime.toInt64) (b := mid) build (by omega)
    (by omega)
  rw [hping, hok]
  refine ⟨_, rfl, ?_, toNat_saturatingSub _ _⟩
  rw [hval, exactOffset, hserver', hmid]

/-- Past that the cast makes it negative, and the offset is off or does not
fit. -/
theorem serverTime_lt_of_ping {e : Exchange} (he : e.Clocked) {r : PingResult}
    (hping : e.ping .debug = .ok r) (hr : r.clockOffsetMs.toInt = e.exactOffset) :
    e.serverTime.toNat < 2 ^ 63 := by
  obtain ⟨mid, hmid, hlt, heq⟩ := ping_mid .debug he
  rw [heq] at hping
  by_contra hge
  have hserver' : e.serverTime.toInt64.toInt = e.serverTime.toNat - 2 ^ 64 := by
    rw [toInt_toInt64, if_neg hge]
  cases hsub : subI64 .debug e.serverTime.toInt64 mid with
  | error panic =>
      rw [hsub] at hping
      cases hping
  | ok offset =>
      rw [hsub] at hping
      obtain rfl := Except.ok.inj hping
      obtain ⟨rfl, hlo, hhi⟩ := subI64_debug hsub
      have hval := (subI64_ok (a := e.serverTime.toInt64) (b := mid) .debug hlo hhi).2
      dsimp only at hr
      rw [hval, exactOffset] at hr
      omega

/-- The offset is exact in every build exactly if the server's time is
below `2^63`. -/
theorem ping_exact_iff {e : Exchange} (he : e.Clocked) :
    (∀ build, ∃ r, e.ping build = .ok r ∧ r.clockOffsetMs.toInt = e.exactOffset)
      ↔ e.serverTime.toNat < 2 ^ 63 := by
  constructor
  · intro h
    obtain ⟨r, hping, hr⟩ := h .debug
    exact serverTime_lt_of_ping he hping hr
  · intro hserver build
    obtain ⟨r, hping, hr, -⟩ := ping_ok build he hserver
    exact ⟨r, hping, hr⟩

end Exchange

/-! ## The samples -/

structure TimeSyncState where
  samples : List PingResult := []
  maxSamples : Nat
deriving Repr, DecidableEq

namespace TimeSyncState

def new (maxSamples : Nat) : TimeSyncState where
  maxSamples := maxSamples

/-- The oldest sample makes room; there is one unless `maxSamples` is
zero. -/
def record (s : TimeSyncState) (result : PingResult) : TimeSyncState :=
  let samples := if s.maxSamples ≤ s.samples.length then s.samples.eraseIdx 0 else s.samples
  { s with samples := samples ++ [result] }

def medianRttMs (s : TimeSyncState) : Option UInt64 :=
  if s.samples = [] then none
  else Median.upper (fun a b => a ≤ b) (s.samples.map fun r => r.rttMs)

def medianClockOffsetMs (s : TimeSyncState) : Option Int64 :=
  if s.samples = [] then none
  else Median.upper (fun a b => a ≤ b) (s.samples.map fun r => r.clockOffsetMs)

theorem samples_record_full {s : TimeSyncState} {oldest : PingResult}
    {rest : List PingResult} (hsamples : s.samples = oldest :: rest)
    (hfull : s.maxSamples ≤ rest.length + 1) (r : PingResult) :
    (s.record r).samples = rest ++ [r] := by
  have hfull' : s.maxSamples ≤ s.samples.length := by rwa [hsamples]
  unfold record
  rw [if_pos hfull', hsamples]
  rfl

theorem samples_record_room {s : TimeSyncState} (h : s.samples.length < s.maxSamples)
    (r : PingResult) : (s.record r).samples = s.samples ++ [r] := by
  unfold record
  rw [if_neg (Nat.not_le.mpr h)]

/-- The state holds the last samples of those recorded. -/
theorem samples_foldl_record (results : List PingResult) :
    ∀ {s : TimeSyncState}, 0 < s.maxSamples → s.samples.length ≤ s.maxSamples →
      (results.foldl record s).samples
        = (s.samples ++ results).drop (s.samples.length + results.length - s.maxSamples) := by
  induction results with
  | nil =>
      intro s _ hs
      simp [Nat.sub_eq_zero_of_le hs]
  | cons r results ih =>
      intro s hpos hs
      have hmax : (s.record r).maxSamples = s.maxSamples := rfl
      rw [List.foldl_cons]
      by_cases hroom : s.samples.length < s.maxSamples
      · have hrecord := samples_record_room hroom r
        have hlen : (s.record r).samples.length = s.samples.length + 1 := by
          rw [hrecord, List.length_append, List.length_singleton]
        rw [ih (by rwa [hmax]) (by rw [hlen, hmax]; exact hroom), hlen, hrecord, hmax,
          List.append_assoc, List.singleton_append, List.length_cons]
        congr 1
        omega
      -- the oldest is what the longer list drops first
      · obtain ⟨oldest, rest, hsamples⟩ : ∃ oldest rest, s.samples = oldest :: rest :=
          List.exists_cons_of_length_pos (by omega)
        rw [hsamples, List.length_cons] at hs hroom
        have hrecord := samples_record_full hsamples (by omega) r
        have hlen : (s.record r).samples.length = rest.length + 1 := by
          rw [hrecord, List.length_append, List.length_singleton]
        have hstep : (oldest :: rest).length + (r :: results).length - s.maxSamples
            = rest.length + 1 + results.length - s.maxSamples + 1 := by
          rw [List.length_cons, List.length_cons]
          omega
        rw [ih (by rwa [hmax]) (by rw [hlen, hmax]; exact hs), hlen, hrecord, hmax, hsamples,
          hstep, List.append_assoc, List.singleton_append, List.cons_append,
          List.drop_succ_cons]

end TimeSyncState

namespace SlipstreamClient

/-! ## The estimates -/

def latencyMs (timeSync : TimeSyncState) : Option UInt64 :=
  timeSync.medianRttMs.map fun rtt => rtt / 2

def clockOffsetMs (timeSync : TimeSyncState) : Option Int64 :=
  timeSync.medianClockOffsetMs

def serverTime (build : Build) (now : UInt64) (timeSync : TimeSyncState) : Checked UInt64 := do
  let offset := timeSync.medianClockOffsetMs.getD 0
  let time ← addI64 build now.toInt64 offset
  pure time.toUInt64

/-- What a client has after some pings. -/
def recorded (results : List PingResult) : TimeSyncState :=
  results.foldl TimeSyncState.record (.new 10)

/-- The last ten. -/
def window {α : Type} (l : List α) : List α :=
  l.drop (l.length - 10)

theorem samples_recorded (results : List PingResult) :
    (recorded results).samples = window results := by
  have hsamples := TimeSyncState.samples_foldl_record results (s := .new 10) (by decide)
    (Nat.zero_le 10)
  rw [recorded, hsamples, window]
  congr 1
  exact congrArg (· - 10) (Nat.zero_add _)

theorem length_window {α : Type} (l : List α) : (window l).length = min 10 l.length := by
  rw [window, List.length_drop]
  omega

/-! ## Honest samples -/

/-- The sample of a ping that the server answered, at the time `t` of the
client, with a clock that is `D` ahead. -/
def Honest (build : Build) (D : Int) (r : PingResult) : Prop :=
  ∃ (e : Exchange) (t : Nat), e.ping build = .ok r
    ∧ e.clientSendTime.toNat ≤ t ∧ t ≤ e.now.toNat ∧ e.now.toNat < 2 ^ 62
    ∧ (e.serverTime.toNat : Int) = t + D ∧ e.serverTime.toNat < 2 ^ 62

/-- An honest offset is off by half the RTT at most. -/
theorem honest_offset {build : Build} {D : Int} {r : PingResult} (h : Honest build D r) :
    D - (r.rttMs.toNat + 1) / 2 ≤ r.clockOffsetMs.toInt
      ∧ r.clockOffsetMs.toInt ≤ D + (r.rttMs.toNat + 1) / 2 := by
  obtain ⟨e, t, hping, hsent, hnow, hclock, hserver, hlt⟩ := h
  have hclocked : e.Clocked := ⟨by omega, hclock⟩
  obtain ⟨r', hping', hoffset, hrtt⟩ := e.ping_ok build hclocked (by omega)
  obtain rfl := Except.ok.inj (hping.symm.trans hping')
  have hmid : e.mid
      = e.clientSendTime.toNat + (e.now.toNat - e.clientSendTime.toNat) / 2 := rfl
  rw [hoffset, hrtt, Exchange.exactOffset, hserver, hmid]
  omega

section Robust

variable {s : TimeSyncState} {honest : PingResult → Bool}

theorem ne_nil_of_majority (hmajority : s.samples.length < 2 * s.samples.countP honest) :
    s.samples ≠ [] := by
  intro hnil
  rw [hnil] at hmajority
  exact Nat.lt_irrefl 0 hmajority

theorem clockOffsetMs_of_majority {build : Build} {D : Int} {R : Nat}
    (hhonest : ∀ r ∈ s.samples, honest r = true → Honest build D r ∧ r.rttMs.toNat ≤ R)
    (hmajority : s.samples.length < 2 * s.samples.countP honest) :
    ∃ v, clockOffsetMs s = some v ∧ |v.toInt - D| ≤ ((R + 1) / 2 : Nat) := by
  have hne := ne_nil_of_majority hmajority
  obtain ⟨v, hv⟩ := Median.upper_isSome (r := fun a b : Int64 => a ≤ b)
    (List.map_eq_nil_iff.not.mpr hne : s.samples.map (fun r => r.clockOffsetMs) ≠ [])
  obtain ⟨⟨a, ha, hpa, hav⟩, b, hb, hpb, hvb⟩ := Median.exists_of_majority hv hmajority
  refine ⟨v, ?_, ?_⟩
  · rw [clockOffsetMs, TimeSyncState.medianClockOffsetMs, if_neg hne, hv]
  · obtain ⟨hlo, -⟩ := honest_offset (hhonest a ha hpa).1
    obtain ⟨-, hhi⟩ := honest_offset (hhonest b hb hpb).1
    have hra := (hhonest a ha hpa).2
    have hrb := (hhonest b hb hpb).2
    rw [Int64.le_iff_toInt_le] at hav hvb
    rw [abs_le]
    omega

theorem latencyMs_of_majority
    (hmajority : s.samples.length < 2 * s.samples.countP honest) :
    ∃ l, latencyMs s = some l
      ∧ (∃ r ∈ s.samples, honest r = true ∧ r.rttMs.toNat / 2 ≤ l.toNat)
      ∧ ∃ r ∈ s.samples, honest r = true ∧ l.toNat ≤ r.rttMs.toNat / 2 := by
  have hne := ne_nil_of_majority hmajority
  obtain ⟨rtt, hrtt⟩ := Median.upper_isSome (r := fun a b : UInt64 => a ≤ b)
    (List.map_eq_nil_iff.not.mpr hne : s.samples.map (fun r => r.rttMs) ≠ [])
  obtain ⟨⟨a, ha, hpa, hav⟩, b, hb, hpb, hvb⟩ := Median.exists_of_majority hrtt hmajority
  have hhalf : (rtt / 2).toNat = rtt.toNat / 2 := UInt64.toNat_div rtt 2
  refine ⟨rtt / 2, ?_, ⟨a, ha, hpa, ?_⟩, b, hb, hpb, ?_⟩
  · rw [latencyMs, TimeSyncState.medianRttMs, if_neg hne, hrtt, Option.map_some]
  · rw [hhalf]
    exact Nat.div_le_div_right (UInt64.le_iff_toNat_le.mp hav)
  · rw [hhalf]
    exact Nat.div_le_div_right (UInt64.le_iff_toNat_le.mp hvb)

end Robust

/-- The client keeps the last ten samples, and while more than half of
them are honest its estimates are as good as those. -/
theorem timeSync_robust (build : Build) (results : List PingResult) :
    let s := recorded results
    s.samples = window results
      ∧ s.samples.length = min 10 results.length
      ∧ ∀ (D : Int) (R : Nat) (honest : PingResult → Bool),
        (∀ r ∈ s.samples, honest r = true → Honest build D r ∧ r.rttMs.toNat ≤ R) →
        s.samples.length < 2 * s.samples.countP honest →
          (∃ v, clockOffsetMs s = some v ∧ |v.toInt - D| ≤ ((R + 1) / 2 : Nat))
            ∧ ∃ l, latencyMs s = some l
              ∧ (∃ r ∈ s.samples, honest r = true ∧ r.rttMs.toNat / 2 ≤ l.toNat)
              ∧ ∃ r ∈ s.samples, honest r = true ∧ l.toNat ≤ r.rttMs.toNat / 2 := by
  intro s
  have hsamples := samples_recorded results
  refine ⟨hsamples, ?_, fun D R honest hhonest hmajority => ?_⟩
  · rw [hsamples, length_window]
  · exact ⟨clockOffsetMs_of_majority hhonest hmajority, latencyMs_of_majority hmajority⟩

def twoAhead : Exchange where
  clientSendTime := 1000
  now := 1002
  pong := .http (some 1003)

def honestSample : PingResult := ⟨0, 2, 2, 1003⟩

/-- Two samples of a server two milliseconds ahead, and a third of any
kind. -/
def mostlyHonest : TimeSyncState :=
  recorded [honestSample, honestSample, ⟨0, 90000, -700000, 5⟩]

theorem mostlyHonest_robust :
    (∃ v, clockOffsetMs mostlyHonest = some v ∧ |v.toInt - 2| ≤ ((2 + 1) / 2 : Nat))
      ∧ ∃ l, latencyMs mostlyHonest = some l
        ∧ (∃ r ∈ mostlyHonest.samples, decide (r = honestSample) = true
          ∧ r.rttMs.toNat / 2 ≤ l.toNat)
        ∧ ∃ r ∈ mostlyHonest.samples, decide (r = honestSample) = true
          ∧ l.toNat ≤ r.rttMs.toNat / 2 := by
  refine (timeSync_robust .release _).2.2 2 2 (fun r => decide (r = honestSample)) ?_
    (by decide)
  intro r _ hr
  obtain rfl := of_decide_eq_true hr
  exact ⟨⟨twoAhead, 1001, by decide, by decide, by decide, by decide, by decide, by decide⟩,
    by decide⟩

/-! ## Exact arithmetic -/

/-- The client, after the pings that were answered. -/
def syncRun (build : Build) (exchanges : List Exchange) : Checked TimeSyncState :=
  exchanges.foldlM (fun s e => (e.ping build).map s.record) (.new 10)

/-- Nothing overflows or wraps around: each offset is what it should be,
and the server's time is the client's with the median offset. -/
structure Unbroken (exchanges : List Exchange) (now : UInt64) (build : Build) : Prop where
  offsets : ∀ e ∈ exchanges, ∃ r, e.ping build = .ok r
    ∧ r.clockOffsetMs.toInt = e.exactOffset
  time : ∃ s t, syncRun build exchanges = .ok s ∧ serverTime build now s = .ok t
    ∧ (t.toNat : Int) = now.toNat + ((clockOffsetMs s).map Int64.toInt).getD 0

section Exact

variable {exchanges : List Exchange} {now : UInt64}

/-- The offsets of the pings, in order. -/
theorem syncRun_ok {build : Build}
    (h : ∀ e ∈ exchanges, ∃ r, e.ping build = .ok r
      ∧ r.clockOffsetMs.toInt = e.exactOffset) (s : TimeSyncState) :
    ∃ results : List PingResult,
      exchanges.foldlM (fun s e => (e.ping build).map s.record) s
          = .ok (results.foldl TimeSyncState.record s)
        ∧ results.map (fun r => r.clockOffsetMs.toInt)
          = exchanges.map Exchange.exactOffset := by
  induction exchanges generalizing s with
  | nil => exact ⟨[], rfl, rfl⟩
  | cons e exchanges ih =>
      obtain ⟨r, hping, hr⟩ := h e List.mem_cons_self
      obtain ⟨results, hrun, hoffsets⟩ :=
        ih (fun e' he' => h e' (List.mem_cons_of_mem _ he')) (s.record r)
      refine ⟨r :: results, ?_, ?_⟩
      · rw [List.foldlM_cons, hping]
        exact hrun
      · rw [List.map_cons, List.map_cons, hr, hoffsets]

/-- The median offset keeps the client's time in the range of the
server's. -/
def InRange (exchanges : List Exchange) (now : UInt64) : Prop :=
  exchanges = []
    ∨ (window exchanges).length
        ≤ (window exchanges).length / 2
          + (window exchanges).countP (fun e => decide (0 ≤ (now.toNat : Int) + e.exactOffset))
      ∧ (window exchanges).length / 2
        < (window exchanges).countP fun e => decide ((now.toNat : Int) + e.exactOffset < 2 ^ 63)

theorem window_map {α β : Type} (f : α → β) (l : List α) :
    window (l.map f) = (window l).map f := by
  rw [window, window, List.length_map, List.map_drop]

section Samples

variable {results : List PingResult}
  (hoffsets : results.map (fun r => r.clockOffsetMs.toInt) = exchanges.map Exchange.exactOffset)

include hoffsets

/-- The samples are those of the last exchanges. -/
theorem map_window_offsets :
    (window results).map (fun r => r.clockOffsetMs.toInt)
      = (window exchanges).map Exchange.exactOffset := by
  rw [← window_map, hoffsets, window_map]

theorem countP_samples (p : Int → Bool) :
    ((recorded results).samples.map fun r => r.clockOffsetMs).countP (fun x => p x.toInt)
      = (window exchanges).countP fun e => p e.exactOffset := by
  have hboth := congrArg (List.countP p) (map_window_offsets hoffsets)
  rw [List.countP_map, List.countP_map] at hboth
  rw [samples_recorded, List.countP_map]
  exact hboth

theorem length_samples :
    ((recorded results).samples.map fun r => r.clockOffsetMs).length
      = (window exchanges).length := by
  have hboth := congrArg List.length (map_window_offsets hoffsets)
  rw [List.length_map, List.length_map] at hboth
  rw [List.length_map, samples_recorded, hboth]

end Samples

/-- Whether the median fits is a matter of counting the samples. -/
theorem median_inRange_iff {results : List PingResult} {v : Int64}
    (hoffsets : results.map (fun r => r.clockOffsetMs.toInt)
      = exchanges.map Exchange.exactOffset)
    (hv : clockOffsetMs (recorded results) = some v) :
    (0 ≤ (now.toNat : Int) + v.toInt ∧ (now.toNat : Int) + v.toInt < 2 ^ 63)
      ↔ InRange exchanges now := by
  have hne : (recorded results).samples ≠ [] := by
    intro hnil
    rw [clockOffsetMs, TimeSyncState.medianClockOffsetMs, if_pos hnil] at hv
    cases hv
  rw [clockOffsetMs, TimeSyncState.medianClockOffsetMs, if_neg hne] at hv
  have hcount := countP_samples hoffsets
  have hlen := length_samples hoffsets
  have hexchanges : exchanges ≠ [] := by
    intro hnil
    rw [hnil, List.map_nil] at hoffsets
    rw [List.map_eq_nil_iff.mp hoffsets] at hne
    exact hne rfl
  have hup := Median.upper_up_iff (p := fun x : Int64 => decide (0 ≤ (now.toNat : Int) + x.toInt)) hv
    fun a b hab ha => by
      rw [Int64.le_iff_toInt_le] at hab
      rw [decide_eq_true_eq] at ha ⊢
      omega
  have hdown := Median.upper_down_iff
    (p := fun x : Int64 => decide ((now.toNat : Int) + x.toInt < 2 ^ 63)) hv
    fun a b hab hb => by
      rw [Int64.le_iff_toInt_le] at hab
      rw [decide_eq_true_eq] at hb ⊢
      omega
  rw [hlen, hcount (fun x => decide (0 ≤ (now.toNat : Int) + x)), decide_eq_true_eq] at hup
  rw [hlen, hcount (fun x => decide ((now.toNat : Int) + x < 2 ^ 63)), decide_eq_true_eq] at hdown
  rw [hup, hdown, InRange, or_iff_right hexchanges]

/-- A client that has pinged has an offset. -/
theorem clockOffsetMs_recorded {results : List PingResult} (h : results ≠ []) :
    ∃ v, clockOffsetMs (recorded results) = some v := by
  have hne : (recorded results).samples ≠ [] := by
    intro hnil
    have hlen := length_window results
    rw [← samples_recorded, hnil, List.length_nil] at hlen
    have hpos := List.length_pos_of_ne_nil h
    omega
  obtain ⟨v, hv⟩ := Median.upper_isSome (r := fun a b : Int64 => a ≤ b)
    (List.map_eq_nil_iff.not.mpr hne
      : (recorded results).samples.map (fun r => r.clockOffsetMs) ≠ [])
  exact ⟨v, by rw [clockOffsetMs, TimeSyncState.medianClockOffsetMs, if_neg hne, hv]⟩

/-- The server's time is exact if it fits, and only then in a debug
build. -/
theorem serverTime_exact {s : TimeSyncState} {v : Int64} (hnow : now.toNat < 2 ^ 62)
    (hv : clockOffsetMs s = some v) :
    (∀ build, 0 ≤ (now.toNat : Int) + v.toInt → (now.toNat : Int) + v.toInt < 2 ^ 63 →
        ∃ t, serverTime build now s = .ok t ∧ (t.toNat : Int) = now.toNat + v.toInt)
      ∧ ∀ t, serverTime .debug now s = .ok t → (t.toNat : Int) = now.toNat + v.toInt →
        0 ≤ (now.toNat : Int) + v.toInt ∧ (now.toNat : Int) + v.toInt < 2 ^ 63 := by
  have hnow' : now.toInt64.toInt = now.toNat := toInt_toInt64_of_lt (by omega)
  have htime : ∀ build, serverTime build now s
      = (addI64 build now.toInt64 v).map fun time => time.toUInt64 := by
    intro build
    rw [clockOffsetMs] at hv
    unfold serverTime
    rw [hv, Option.getD_some]
    dsimp only
    cases addI64 build now.toInt64 v <;> rfl
  constructor
  · intro build hlo hhi
    obtain ⟨hok, hval⟩ := addI64_ok (a := now.toInt64) (b := v) build (by omega) (by omega)
    rw [htime, hok]
    refine ⟨_, rfl, ?_⟩
    rw [toNat_toUInt64 (by omega), hval, hnow']
  · intro t ht heq
    rw [htime] at ht
    cases hadd : addI64 .debug now.toInt64 v with
    | error panic =>
        rw [hadd] at ht
        cases ht
    | ok time =>
        obtain ⟨-, -, hhi⟩ := addI64_debug hadd
        omega

/-- Without a sample the client's own time is taken. -/
theorem serverTime_of_none {s : TimeSyncState} (build : Build) (hnow : now.toNat < 2 ^ 62)
    (hs : clockOffsetMs s = none) :
    ∃ t, serverTime build now s = .ok t ∧ (t.toNat : Int) = now.toNat := by
  have hnow' : now.toInt64.toInt = now.toNat := toInt_toInt64_of_lt (by omega)
  obtain ⟨hok, hval⟩ := addI64_ok (a := now.toInt64) (b := 0) build
    (by rw [Int64.toInt_zero]; omega) (by rw [Int64.toInt_zero]; omega)
  rw [Int64.toInt_zero, Int.add_zero] at hval
  refine ⟨(now.toInt64 + 0).toUInt64, ?_, ?_⟩
  · rw [clockOffsetMs] at hs
    unfold serverTime
    rw [hs, Option.getD_none]
    dsimp only
    rw [hok]
    rfl
  · rw [toNat_toUInt64 (by omega), hval, hnow']

/-- The arithmetic is exact in every build exactly if the server's times
are below `2^63` and the median offset keeps the client's time in
range. -/
theorem unbroken_iff (hclocked : ∀ e ∈ exchanges, e.Clocked) (hnow : now.toNat < 2 ^ 62) :
    (∀ build, Unbroken exchanges now build)
      ↔ (∀ e ∈ exchanges, e.serverTime.toNat < 2 ^ 63) ∧ InRange exchanges now := by
  constructor
  · intro h
    refine ⟨fun e he => ?_, ?_⟩
    · exact (Exchange.ping_exact_iff (hclocked e he)).mp fun build => (h build).offsets e he
    · obtain ⟨s, t, hs, ht, heq⟩ := (h .debug).time
      obtain ⟨results, hrun, hoffsets⟩ := syncRun_ok (h .debug).offsets (.new 10)
      obtain rfl := Except.ok.inj (hrun.symm.trans hs)
      by_cases hnil : results = []
      · rw [hnil, List.map_nil] at hoffsets
        exact .inl (List.map_eq_nil_iff.mp hoffsets.symm)
      · obtain ⟨v, hv⟩ := clockOffsetMs_recorded hnil
        rw [recorded] at hv
        rw [hv] at heq
        exact (median_inRange_iff hoffsets hv).mp ((serverTime_exact hnow hv).2 t ht heq)
  · rintro ⟨hserver, hrange⟩ build
    have hoffset : ∀ e ∈ exchanges, ∃ r, e.ping build = .ok r
        ∧ r.clockOffsetMs.toInt = e.exactOffset := fun e he =>
      (Exchange.ping_exact_iff (hclocked e he)).mpr (hserver e he) build
    obtain ⟨results, hrun, hoffsets⟩ := syncRun_ok hoffset (.new 10)
    refine ⟨hoffset, recorded results, ?_⟩
    by_cases hnil : results = []
    · have hnone : clockOffsetMs (recorded results) = none := by
        rw [hnil]
        rfl
      obtain ⟨t, ht, heq⟩ := serverTime_of_none build hnow hnone
      refine ⟨t, hrun, ht, ?_⟩
      rw [hnone, heq]
      exact (Int.add_zero _).symm
    · obtain ⟨v, hv⟩ := clockOffsetMs_recorded hnil
      obtain ⟨hlo, hhi⟩ := (median_inRange_iff hoffsets hv).mpr hrange
      obtain ⟨t, ht, heq⟩ := (serverTime_exact hnow hv).1 build hlo hhi
      refine ⟨t, hrun, ht, ?_⟩
      rw [hv]
      exact heq

/-- A server whose time is past the range of `i64`. -/
def farFuture : Exchange where
  clientSendTime := 1000
  now := 1002
  pong := .http (some 0x8000000000000000)

/-- The subtraction overflows: the offset is not computed in a debug
build. -/
theorem farFuture_broken :
    farFuture.Clocked ∧ farFuture.ping .debug = .error .arithmeticOverflow
      ∧ ¬ ∀ build, Unbroken [farFuture] 1003 build := by
  refine ⟨⟨by decide, by decide⟩, by decide, fun h => ?_⟩
  obtain ⟨r, hr, -⟩ := (h .debug).offsets farFuture (List.mem_singleton_self _)
  have hbad : farFuture.ping .debug = .error .arithmeticOverflow := by decide
  rw [hbad] at hr
  cases hr

/-- A server two milliseconds ahead breaks nothing. -/
theorem twoAhead_unbroken :
    Unbroken [twoAhead] 1003 .debug ∧ Unbroken [twoAhead] 1003 .release := by
  have hall : ∀ build, Unbroken [twoAhead] 1003 build := by
    refine (unbroken_iff (fun e he => ?_) (by decide)).mpr ⟨fun e he => ?_, .inr ?_⟩
    · rw [List.mem_singleton.mp he]
      exact ⟨by decide, by decide⟩
    · rw [List.mem_singleton.mp he]
      decide
    · exact ⟨by decide, by decide⟩
  exact ⟨hall .debug, hall .release⟩

end Exact

end SlipstreamClient

end Slipstream
