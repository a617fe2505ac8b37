import Mathlib.Data.List.TakeWhile
import Slipstream.Credentials
import Slipstream.Discovery
import Slipstream.FormUrl
import Slipstream.RegionMap

/-!
# What an endpoint is dialled as

An endpoint is a text. Each transport has its own reading of it: QUIC
takes a host and a port behind any number of `quic://`, gRPC and
WebSocket bring it into the form of a URL, HTTP takes the URL as it is.
What becomes of a URL is up to the library of the transport
(`UrlReader`), of which no more is known than that it does the usual with
a plain host, a port and a plain path. `dialTarget` is the host and the
port that come of it.

The endpoints that discovery makes for a worker are read back as the
worker's address and the port of the protocol
(`dialTarget_workerToEndpoint`). The client of a region is given the
worker's HTTP endpoint instead, for all protocols: its chain dials the
HTTP port by every transport, and QUIC looks up a host `http://<ip>`
(`regionClient_targets`).
-/

namespace Slipstream

/-! ## Texts -/

/-- A text without a prefix, however often it is repeated. -/
def trimFrom (p : List Char) : Nat → List Char → List Char
  | 0, cs => cs
  | fuel + 1, cs => if p <+: cs then trimFrom p fuel (cs.drop p.length) else cs

/-- `trim_start_matches`. -/
def trimStartMatches (p cs : List Char) : List Char := trimFrom p cs.length cs

def replaceFrom (p r : List Char) : Nat → List Char → List Char
  | _ + 1, [] => []
  | fuel + 1, c :: cs =>
      if p <+: c :: cs then r ++ replaceFrom p r fuel ((c :: cs).drop p.length)
      else c :: replaceFrom p r fuel cs
  | 0, cs => cs

/-- `replace`, for all occurrences of `p`. -/
def replaceAll (p r cs : List Char) : List Char := replaceFrom p r (cs.length + 1) cs

theorem trimStartMatches_of_not_startsWith {p cs : List Char} (h : ¬ p <+: cs) :
    trimStartMatches p cs = cs := by
  unfold trimStartMatches
  cases hlen : cs.length with
  | zero => rfl
  | succ n => rw [trimFrom, if_neg h]

/-! ## The readings of the transports -/

namespace Scheme

def quic : List Char := "quic://".toList

def grpc : List Char := "grpc://".toList

def websocket : List Char := "websocket://".toList

def http : List Char := "http://".toList

def https : List Char := "https://".toList

def ws : List Char := "ws://".toList

def wss : List Char := "wss://".toList

end Scheme

/-- `u16::from_str`: a plus sign may stand in front of the digits. -/
def parseU16 (cs : List Char) : Option UInt16 :=
  let digits := if cs.head? = some '+' then cs.tail else cs
  if digits = [] ∨ ¬ digits.all Char.isDigit then none
  else
    let n := Nat.ofDigitChars 10 digits 0
    if n < 2 ^ 16 then some (UInt16.ofNat n) else none

/-- A text up to its last colon, and the text behind it. -/
def splitLastColon (cs : List Char) : Option (List Char × List Char) :=
  if ':' ∈ cs then
    some ((cs.reverse.dropWhile (· ≠ ':')).tail.reverse, (cs.reverse.takeWhile (· ≠ ':')).reverse)
  else none

/-- Where a connection goes, before the host is looked up. -/
structure Target where
  host : String
  port : UInt16
deriving Repr, DecidableEq

/-- The host and the port that are looked up. -/
def QuicTransport.parseEndpoint (url : String) : Except SdkError Target :=
  match splitLastColon (trimStartMatches Scheme.quic url.toList) with
  | none => .error (.config "Invalid QUIC endpoint format, expected host:port")
  | some (host, port) =>
      match parseU16 port with
      | none => .error (.config "Invalid port number")
      | some port => .ok ⟨String.ofList host, port⟩

def GrpcTransport.parseEndpoint (url : String) : String :=
  let url := trimStartMatches Scheme.grpc url.toList
  if Scheme.http <+: url ∨ Scheme.https <+: url then String.ofList url
  else String.ofList (Scheme.http ++ url)

def WebSocketTransport.parseEndpoint (url : String) : String :=
  let url := trimStartMatches Scheme.websocket url.toList
  if Scheme.ws <+: url ∨ Scheme.wss <+: url then String.ofList url
  else if Scheme.https <+: url then
    String.ofList (replaceAll Scheme.https Scheme.wss url)
  else if Scheme.http <+: url then
    String.ofList (replaceAll Scheme.http Scheme.ws url)
  else String.ofList (Scheme.wss ++ url)

/-- Four numbers without leading zeros. -/
def IsIpv4 (host : String) : Prop :=
  ∃ a b c d : UInt8, host = toString a.toNat ++ "." ++ toString b.toNat ++ "."
    ++ toString c.toNat ++ "." ++ toString d.toNat

def domainChar (c : Char) : Bool := c.isLower || c.isDigit || c == '-' || c == '.'

/-- A domain name with nothing in it that a URL parser changes or refuses:
no capitals, no encoded labels, and a last label that is not a number. -/
structure IsDomain (host : String) : Prop where
  short : host.length ≤ 253
  chars : ∀ c ∈ host.toList, domainChar c = true
  labels : ∀ label ∈ host.toList.splitOn '.', label ≠ [] ∧ ¬ "xn--".toList <+: label
  last : ∀ label ∈ (host.toList.splitOn '.').getLast?, ∀ c ∈ label.head?, c.isLower = true

def PlainHost (host : String) : Prop := IsIpv4 host ∨ IsDomain host

/-- No path, or one of letters and digits. -/
def PlainPath (path : String) : Prop :=
  path = "" ∨ ∃ rest : String, path = "/" ++ rest ∧ rest.length ≤ 255
    ∧ ∀ c ∈ rest.toList, c.isAlphanum = true

/-- A library that connects to URLs with a scheme. -/
structure UrlReader (scheme : String) where
  target : String → Option Target
  plain : ∀ {host path : String} (port : UInt16), PlainHost host → PlainPath path →
    target (scheme ++ (host ++ ":" ++ toString port.toNat) ++ path) = some ⟨host, port⟩

/-- Those of the transports. -/
structure UrlReaders where
  grpc : UrlReader "http://"
  webSocket : UrlReader "ws://"
  http : UrlReader "http://"

/-- Where an endpoint is dialled by the transport of a protocol. -/
def dialTarget (readers : UrlReaders) : Protocol → String → Option Target
  | .quic, endpoint => (QuicTransport.parseEndpoint endpoint).toOption
  | .grpc, endpoint => readers.grpc.target (GrpcTransport.parseEndpoint endpoint)
  | .webSocket, endpoint => readers.webSocket.target (WebSocketTransport.parseEndpoint endpoint)
  | .http, endpoint => readers.http.target endpoint

/-! ## Normal forms -/

/-- A prefix of a text is not one of another text that begins otherwise. -/
theorem not_startsWith_of_startsWith {p q cs : List Char} (h : q <+: cs) (hpq : ¬ p <+: q)
    (hqp : ¬ q <+: p) : ¬ p <+: cs := by
  intro hp
  rcases List.prefix_or_prefix_of_prefix hp h with hle | hle
  · exact hpq hle
  · exact hqp hle

theorem GrpcTransport.parseEndpoint_of_scheme {url : String}
    (h : Scheme.http <+: url.toList ∨ Scheme.https <+: url.toList) :
    GrpcTransport.parseEndpoint url = url := by
  have hnot : ¬ Scheme.grpc <+: url.toList := by
    rcases h with h | h
    · exact not_startsWith_of_startsWith h (by decide) (by decide)
    · exact not_startsWith_of_startsWith h (by decide) (by decide)
  unfold parseEndpoint
  rw [trimStartMatches_of_not_startsWith hnot]
  dsimp only
  rw [if_pos h, String.ofList_toList]

theorem WebSocketTransport.parseEndpoint_of_scheme {url : String}
    (h : Scheme.ws <+: url.toList ∨ Scheme.wss <+: url.toList) :
    WebSocketTransport.parseEndpoint url = url := by
  have hnot : ¬ Scheme.websocket <+: url.toList := by
    rcases h with h | h
    · exact not_startsWith_of_startsWith h (by decide) (by decide)
    · exact not_startsWith_of_startsWith h (by decide) (by decide)
  unfold parseEndpoint
  rw [trimStartMatches_of_not_startsWith hnot]
  dsimp only
  rw [if_pos h, String.ofList_toList]

/-! ## Hosts and ports -/

theorem splitLastColon_append (host : List Char) {port : List Char} (h : ':' ∉ port) :
    splitLastColon (host ++ ':' :: port) = some (host, port) := by
  have hrev : (host ++ ':' :: port).reverse = port.reverse ++ ':' :: host.reverse := by simp
  have hport : ':' ∉ port.reverse := fun hmem => h (List.mem_reverse.mp hmem)
  unfold splitLastColon
  rw [if_pos (by simp), hrev, FormUrl.takeWhile_ne_append hport,
    FormUrl.dropWhile_ne_append hport, List.tail_cons, List.reverse_reverse, List.reverse_reverse]

theorem isDigit_of_mem_toDigits {n : Nat} {c : Char} (h : c ∈ Nat.toDigits 10 n) :
    c.isDigit = true :=
  Nat.isDigit_of_mem_toDigits (by decide) (by decide) h

theorem toList_toString (n : Nat) : (toString n).toList = Nat.toDigits 10 n := Nat.toList_repr

theorem colon_not_mem_toDigits (n : Nat) : ':' ∉ Nat.toDigits 10 n := by
  intro h
  have hdigit := isDigit_of_mem_toDigits h
  cases hdigit

theorem parseU16_toDigits (n : UInt16) : parseU16 (Nat.toDigits 10 n.toNat) = some n := by
  have hplus : (Nat.toDigits 10 n.toNat).head? ≠ some '+' := by
    intro h
    have hdigit := isDigit_of_mem_toDigits (List.mem_of_head? h)
    cases hdigit
  have hall : (Nat.toDigits 10 n.toNat).all Char.isDigit = true :=
    List.all_eq_true.mpr fun c hc => isDigit_of_mem_toDigits hc
  unfold parseU16
  rw [if_neg hplus]
  dsimp only
  rw [if_neg (by simp [Nat.toDigits_ne_nil, hall]), Nat.ofDigitChars_ten_toDigits,
    if_pos n.toNat_lt, UInt16.ofNat_toNat]

theorem toList_authority (ip : String) (port : UInt16) :
    (DiscoveryClient.authority ip port).toList
      = ip.toList ++ ':' :: Nat.toDigits 10 port.toNat := by
  unfold DiscoveryClient.authority
  rw [String.toList_append, String.toList_append, toList_toString]
  simp

theorem splitLastColon_authority (ip : String) (port : UInt16) :
    splitLastColon (DiscoveryClient.authority ip port).toList
      = some (ip.toList, Nat.toDigits 10 port.toNat) := by
  rw [toList_authority, splitLastColon_append _ (colon_not_mem_toDigits _)]

/-- The characters of a plain host. -/
theorem PlainHost.chars {host : String} (h : PlainHost host) :
    ∀ c ∈ host.toList, domainChar c = true := by
  rcases h with ⟨a, b, c, d, rfl⟩ | hdomain
  · have hdigits : ∀ (n : Nat), ∀ x ∈ (toString n).toList, domainChar x = true := by
      intro n x hx
      rw [toList_toString] at hx
      rw [domainChar, isDigit_of_mem_toDigits hx]
      simp
    have hdot : ∀ x ∈ ".".toList, domainChar x = true := List.all_eq_true.mp (by decide)
    simp only [String.toList_append, List.forall_mem_append]
    exact ⟨⟨⟨⟨⟨⟨hdigits _, hdot⟩, hdigits _⟩, hdot⟩, hdigits _⟩, hdot⟩, hdigits _⟩
  · exact hdomain.chars

theorem domainChar_ne {c : Char} (h : domainChar c = true) :
    c ≠ '/' ∧ c ≠ '?' ∧ c ≠ '#' ∧ c ≠ ':' := by
  refine ⟨?_, ?_, ?_, ?_⟩ <;> (rintro rfl; cases h)

section Url

variable {ip : String} {port : UInt16}

theorem toList_http (rest : String) :
    ("http://" ++ rest).toList = Scheme.http ++ rest.toList := String.toList_append

theorem slash_not_mem_authority (hip : PlainHost ip) :
    '/' ∉ (DiscoveryClient.authority ip port).toList := by
  rw [toList_authority, List.mem_append, List.mem_cons]
  rintro (h | h | h)
  · exact (domainChar_ne (hip.chars _ h)).1 rfl
  · cases h
  · have hdigit := isDigit_of_mem_toDigits h
    cases hdigit

theorem UrlReader.target_http (reader : UrlReader "http://") (hip : PlainHost ip) :
    reader.target ("http://" ++ DiscoveryClient.authority ip port) = some ⟨ip, port⟩ := by
  have hnone : PlainPath "" := .inl rfl
  have htarget := reader.plain port hip hnone
  rwa [String.append_empty] at htarget

/-- QUIC reads what stands in front of the last colon as the host. -/
theorem quic_parseEndpoint {url : String} {host : List Char}
    (hurl : url.toList = host ++ ':' :: Nat.toDigits 10 port.toNat)
    (hquic : ¬ Scheme.quic <+: url.toList) :
    QuicTransport.parseEndpoint url = .ok ⟨String.ofList host, port⟩ := by
  unfold QuicTransport.parseEndpoint
  rw [trimStartMatches_of_not_startsWith hquic, hurl,
    splitLastColon_append _ (colon_not_mem_toDigits _)]
  dsimp only
  rw [parseU16_toDigits]

theorem quic_parseEndpoint_authority (hip : PlainHost ip) :
    QuicTransport.parseEndpoint (DiscoveryClient.authority ip port) = .ok ⟨ip, port⟩ := by
  have hquic : ¬ Scheme.quic <+: (DiscoveryClient.authority ip port).toList := by
    intro h
    have hslash : '/' ∈ Scheme.quic := by decide
    exact slash_not_mem_authority hip (h.subset hslash)
  rw [quic_parseEndpoint (toList_authority ip port) hquic, String.ofList_toList]

theorem grpc_target_http (readers : UrlReaders) (hip : PlainHost ip) :
    dialTarget readers .grpc ("http://" ++ DiscoveryClient.authority ip port)
      = some ⟨ip, port⟩ := by
  show readers.grpc.target (GrpcTransport.parseEndpoint _) = _
  rw [GrpcTransport.parseEndpoint_of_scheme, readers.grpc.target_http hip]
  rw [toList_http]
  exact .inl (List.prefix_append _ _)

theorem webSocket_target_ws (readers : UrlReaders) {path : String} (hip : PlainHost ip)
    (hpath : PlainPath path) :
    dialTarget readers .webSocket ("ws://" ++ DiscoveryClient.authority ip port ++ path)
      = some ⟨ip, port⟩ := by
  show readers.webSocket.target (WebSocketTransport.parseEndpoint _) = _
  rw [WebSocketTransport.parseEndpoint_of_scheme]
  · exact readers.webSocket.plain port hip hpath
  · rw [String.toList_append, String.toList_append, List.append_assoc]
    exact .inl (List.prefix_append _ _)

end Url

/-! ## A worker that was discovered -/

namespace DiscoveryWorker

/-- The port a protocol is served on. -/
def port? (w : DiscoveryWorker) : Protocol → Option UInt16
  | .quic => some w.ports.quic
  | .grpc => some w.ports.grpc
  | .webSocket => w.ports.ws
  | .http => w.ports.http

def legacyPort? (w : DiscoveryWorker) : Protocol → Option UInt16
  | .quic => w.ports.legacyQuic
  | .grpc => w.ports.legacyGrpc
  | .webSocket => w.ports.legacyWs
  | .http => none

end DiscoveryWorker

theorem plainPath_ws : PlainPath "/ws" :=
  .inr ⟨"ws", rfl, by decide, List.all_eq_true.mp (by decide)⟩

theorem map_dialTarget {target : String → Option Target} {ip : String}
    {endpoint : UInt16 → String} (h : ∀ port, target (endpoint port) = some ⟨ip, port⟩)
    (port : Option UInt16) :
    (port.map endpoint).map target = port.map fun port => some ⟨ip, port⟩ := by
  cases port with
  | none => rfl
  | some port => exact congrArg some (h port)

/-- What discovery makes of an address and a port is dialled as that
address and port, by the transport of the protocol. -/
theorem dialTarget_workerToEndpoint (readers : UrlReaders) {w : DiscoveryWorker}
    (hip : PlainHost w.ip) (p : Protocol) :
    ((DiscoveryClient.workerToEndpoint w).getEndpoint p).map (dialTarget readers p)
        = (w.port? p).map (fun port => some ⟨w.ip, port⟩)
      ∧ ((DiscoveryClient.workerToEndpoint w).getLegacyEndpoint p).map (dialTarget readers p)
        = (w.legacyPort? p).map fun port => some ⟨w.ip, port⟩ := by
  have hquic : ∀ port, dialTarget readers .quic (DiscoveryClient.authority w.ip port)
      = some ⟨w.ip, port⟩ := by
    intro port
    show (QuicTransport.parseEndpoint (DiscoveryClient.authority w.ip port)).toOption = _
    rw [quic_parseEndpoint_authority hip]
    rfl
  have hgrpc : ∀ port, dialTarget readers .grpc ("http://" ++ DiscoveryClient.authority w.ip port)
      = some ⟨w.ip, port⟩ := fun port => grpc_target_http readers hip
  have hws : ∀ port, dialTarget readers .webSocket
      ("ws://" ++ DiscoveryClient.authority w.ip port ++ "/ws") = some ⟨w.ip, port⟩ :=
    fun port => webSocket_target_ws readers hip plainPath_ws
  have hhttp : ∀ port, dialTarget readers .http ("http://" ++ DiscoveryClient.authority w.ip port)
      = some ⟨w.ip, port⟩ := fun port => readers.http.target_http hip
  cases p with
  | quic => exact ⟨congrArg some (hquic _), map_dialTarget hquic _⟩
  | grpc => exact ⟨congrArg some (hgrpc _), map_dialTarget hgrpc _⟩
  | webSocket => exact ⟨map_dialTarget hws _, map_dialTarget hws _⟩
  | http => exact ⟨map_dialTarget hhttp _, rfl⟩

/-- The authority of a URL with a scheme. -/
def urlAuthority (scheme url : List Char) : Option (List Char) :=
  if scheme <+: url then
    some ((url.drop scheme.length).takeWhile fun c => decide (c ≠ '/' ∧ c ≠ '?' ∧ c ≠ '#'))
  else none

/-- The target of a URL that names its port, for hosts that are written as
they are looked up. -/
def urlTarget (scheme url : String) : Option Target := do
  let authority ← urlAuthority scheme.toList url.toList
  let (host, port) ← splitLastColon authority
  let port ← parseU16 port
  if host.all domainChar then pure ⟨String.ofList host, port⟩ else none

theorem takeWhile_authority {ip path : String} {port : UInt16} (hip : PlainHost ip)
    (hpath : PlainPath path) :
    ((DiscoveryClient.authority ip port).toList ++ path.toList).takeWhile
        (fun c => decide (c ≠ '/' ∧ c ≠ '?' ∧ c ≠ '#'))
      = (DiscoveryClient.authority ip port).toList := by
  rw [List.takeWhile_append_of_pos]
  · rcases hpath with rfl | ⟨rest, rfl, -⟩
    · simp
    · rw [String.toList_append]
      exact List.append_nil _
  · intro c hc
    rw [toList_authority, List.mem_append, List.mem_cons] at hc
    refine decide_eq_true ?_
    rcases hc with hc | rfl | hc
    · obtain ⟨hslash, hquestion, hhash, -⟩ := domainChar_ne (hip.chars c hc)
      exact ⟨hslash, hquestion, hhash⟩
    · decide
    · have hdigit := isDigit_of_mem_toDigits hc
      refine ⟨?_, ?_, ?_⟩ <;> (rintro rfl; cases hdigit)

/-- A library that takes URLs apart like this. -/
def plainReader (scheme : String) : UrlReader scheme where
  target := urlTarget scheme
  plain := by
    intro host path port hip hpath
    have hauthority : urlAuthority scheme.toList
        (scheme ++ DiscoveryClient.authority host port ++ path).toList
        = some (DiscoveryClient.authority host port).toList := by
      rw [String.toList_append, String.toList_append, List.append_assoc, urlAuthority,
        if_pos (List.prefix_append _ _), List.drop_left, takeWhile_authority hip hpath]
    show urlTarget scheme (scheme ++ DiscoveryClient.authority host port ++ path) = _
    unfold urlTarget
    rw [hauthority]
    show ((splitLastColon (DiscoveryClient.authority host port).toList).bind fun m =>
      (parseU16 m.2).bind fun port =>
        if m.1.all domainChar then some (Target.mk (String.ofList m.1) port) else none) = _
    rw [splitLastColon_authority, Option.bind_some, parseU16_toDigits, Option.bind_some,
      if_pos (List.all_eq_true.mpr hip.chars), String.ofList_toList]

def plainReaders : UrlReaders := ⟨plainReader _, plainReader _, plainReader _⟩

/-- A worker with all its ports. -/
def frankfurt : DiscoveryWorker where
  id := "worker-1"
  region := "eu-central"
  ip := "10.0.0.7"
  ports := { quic := 4433, ws := some 9000, http := some 9091 }
  healthy := true

theorem plainHost_frankfurt : PlainHost frankfurt.ip := .inl ⟨10, 0, 0, 7, by decide⟩

theorem frankfurt_over_webSocket :
    ((DiscoveryClient.workerToEndpoint frankfurt).getEndpoint .webSocket).map
        (dialTarget plainReaders .webSocket)
      = some (some ⟨"10.0.0.7", 9000⟩) :=
  (dialTarget_workerToEndpoint plainReaders plainHost_frankfurt .webSocket).1

/-! ## The client of a region -/

theorem replaceFrom_of_not_mem {p r : List Char} {x : Char} (hx : x ∈ p) :
    ∀ {fuel : Nat} {cs : List Char}, x ∉ cs → replaceFrom p r fuel cs = cs := by
  intro fuel
  induction fuel with
  | zero => intro cs h; cases cs <;> rfl
  | succ fuel ih =>
      intro cs h
      cases cs with
      | nil => rfl
      | cons c cs =>
          have hpre : ¬ p <+: c :: cs := fun hpre => h (hpre.subset hx)
          rw [replaceFrom, if_neg hpre, ih fun hmem => h (List.mem_cons_of_mem c hmem)]

theorem replaceAll_append {p r cs : List Char} {x : Char} (hx : x ∈ p) (h : x ∉ cs) :
    replaceAll p r (p ++ cs) = r ++ cs := by
  cases p with
  | nil => cases hx
  | cons c p =>
      unfold replaceAll
      rw [List.cons_append, replaceFrom, ← List.cons_append, if_pos (List.prefix_append _ _),
        List.drop_left, replaceFrom_of_not_mem hx h]

theorem webSocket_parseEndpoint_http {ip : String} {port : UInt16} (hip : PlainHost ip) :
    WebSocketTransport.parseEndpoint ("http://" ++ DiscoveryClient.authority ip port)
      = "ws://" ++ DiscoveryClient.authority ip port ++ "" := by
  have hpre : Scheme.http <+: Scheme.http ++ (DiscoveryClient.authority ip port).toList :=
    List.prefix_append _ _
  unfold WebSocketTransport.parseEndpoint
  rw [toList_http, trimStartMatches_of_not_startsWith
    (not_startsWith_of_startsWith hpre (by decide) (by decide))]
  dsimp only
  rw [if_neg, if_neg (not_startsWith_of_startsWith hpre (by decide) (by decide)), if_pos hpre,
    replaceAll_append (x := '/') (by decide) (slash_not_mem_authority hip)]
  · rw [← String.toList_inj, String.toList_ofList, String.toList_append, String.toList_append]
    exact (List.append_nil _).symm
  · rintro (h | h)
    · exact not_startsWith_of_startsWith hpre (by decide) (by decide) h
    · exact not_startsWith_of_startsWith hpre (by decide) (by decide) h

/-- The HTTP endpoint of a worker, dialled by the transport of any
protocol. QUIC does not take it for a URL. -/
theorem dialTarget_http (readers : UrlReaders) {ip : String} {port : UInt16}
    (hip : PlainHost ip) (p : Protocol) :
    dialTarget readers p ("http://" ++ DiscoveryClient.authority ip port)
      = some ⟨if p = .quic then "http://" ++ ip else ip, port⟩ := by
  cases p with
  | quic =>
      have hurl : ("http://" ++ DiscoveryClient.authority ip port).toList
          = ("http://" ++ ip).toList ++ ':' :: Nat.toDigits 10 port.toNat := by
        rw [toList_http, toList_http, toList_authority, List.append_assoc]
      have hquic : ¬ Scheme.quic <+: ("http://" ++ DiscoveryClient.authority ip port).toList := by
        rw [toList_http]
        exact not_startsWith_of_startsWith (List.prefix_append _ _) (by decide) (by decide)
      show (QuicTransport.parseEndpoint _).toOption = _
      rw [quic_parseEndpoint hurl hquic, String.ofList_toList]
      rfl
  | grpc => exact grpc_target_http readers hip
  | webSocket =>
      show readers.webSocket.target (WebSocketTransport.parseEndpoint _) = _
      rw [webSocket_parseEndpoint_http hip]
      exact readers.webSocket.plain port hip (.inl rfl)
  | http => exact readers.http.target_http hip

section Dialled

variable {τ : Type} {chain : FallbackChain} {connector : Connector τ} {cfg : Config}

/-- Without a worker the chain dials the explicit endpoint only. -/
theorem endpoint_of_mem_dialled {e : String} (hworker : cfg.selectedWorker = none)
    (he : cfg.endpoint = some e) {selectBest : Except SdkError WorkerEndpoint} {d : Dial}
    (hd : d ∈ (chain.connect connector selectBest cfg).dialled) : d.endpoint = e := by
  have hresolve : FallbackChain.resolveConfig selectBest cfg = cfg :=
    FallbackChain.resolveConfig_of_configured (.inr (by rw [he]; simp)) selectBest
  have hget : ∀ p, cfg.getEndpoint p = e := by
    intro p
    rw [Config.getEndpoint, Config.workerEndpoint, hworker, Option.bind_none, he]
  have hone : ∀ p, ∀ d ∈ (chain.tryProtocolWith connector cfg p).dialled, d.endpoint = e := by
    intro p d hd
    obtain ⟨ds, hds, hlegacy⟩ := chain.dialled_tryProtocolWith connector cfg p
    rw [hds, List.mem_cons] at hd
    rcases hd with rfl | hd
    · exact hget p
    · have hsome := hlegacy d hd
      rw [Config.legacyEndpoint, hworker] at hsome
      cases hsome
  rw [FallbackChain.connect, hresolve] at hd
  cases hpref : cfg.preferredProtocol with
  | some p =>
      rw [hpref] at hd
      exact hone p d hd
  | none =>
      rw [hpref] at hd
      obtain ⟨p, -, hd⟩ := FallbackChain.mem_dialled_tryInOrder hd
      exact hone p d hd

end Dialled

/-- Whatever the client of a region dials, it is the worker's HTTP port;
over QUIC, at a host that has the scheme in its name. -/
theorem regionClient_targets (readers : UrlReaders) {τ : Type} {chain : FallbackChain}
    {connector : Connector τ} {selectBest : Except SdkError WorkerEndpoint} {config : Config}
    {region : String} {w : DiscoveryWorker} {port : UInt16} (hip : PlainHost w.ip)
    (hworker : config.selectedWorker = none) (hport : w.ports.http = some port) {d : Dial}
    (hd : d ∈ (chain.connect connector selectBest (RegionMap.regionConfig config region
      (DiscoveryClient.workerToEndpoint w))).dialled) :
    dialTarget readers d.protocol d.endpoint
      = some ⟨if d.protocol = .quic then "http://" ++ w.ip else w.ip, port⟩ := by
  have he : (RegionMap.regionConfig config region (DiscoveryClient.workerToEndpoint w)).endpoint
      = some ("http://" ++ DiscoveryClient.authority w.ip port) := by
    show w.ports.http.map _ = _
    rw [hport]
    rfl
  have hnone : (RegionMap.regionConfig config region
      (DiscoveryClient.workerToEndpoint w)).selectedWorker = none := hworker
  rw [endpoint_of_mem_dialled hnone he hd]
  exact dialTarget_http readers hip d.protocol

/-- The dials of a client of the region over QUIC and over WebSocket. -/
theorem frankfurt_region_dialled :
    dialTarget plainReaders .quic "http://10.0.0.7:9091" = some ⟨"http://10.0.0.7", 9091⟩
      ∧ dialTarget plainReaders .webSocket "http://10.0.0.7:9091" = some ⟨"10.0.0.7", 9091⟩ := by
  have hd : ∀ p, (⟨p, "http://10.0.0.7:9091"⟩ : Dial)
      ∈ (FallbackChain.connect ⟨{}⟩ unreachable (.error .notConnected)
        (RegionMap.regionConfig { apiKey := "sk_test_12345678" } "eu-central"
          (DiscoveryClient.workerToEndpoint frankfurt))).dialled := by
    intro p
    cases p <;> decide
  exact ⟨regionClient_targets plainReaders plainHost_frankfurt rfl rfl (hd .quic),
    regionClient_targets plainReaders plainHost_frankfurt rfl rfl (hd .webSocket)⟩

end Slipstream
