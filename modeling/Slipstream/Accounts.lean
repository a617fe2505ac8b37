import Mathlib.Data.List.TakeDrop
import Slipstream.Bundles
import Slipstream.LandingRates
import Slipstream.Records
import Slipstream.TimeSync

/-!
# The account's REST calls

What the account has used and paid comes in pages, of a limit and from an
offset that the client puts into the query of the URL. A service that
keeps to the documented paging is read page by page without a gap
(`usageHistory_pages`): the numbers of the query, the JSON of the entries
and the way back into the client's records lose nothing.

All that holds of entries the client can read. An entry that it cannot
read blanks its whole page, and the call does not fail
(`History.get_of_unreadable`), where a region or a sender that cannot be
read only costs itself (`getRegions_eq`, `getSenders_eq`).

A balance is counted in queries. What is left of it, and of the grace
behind it, is rounded to whole ones that can still be paid
(`balance_counts_queries`).
-/

namespace Slipstream

open Bytes (Checked)
open JsonText (Value)
open Records
open Routing (Build)
open RawQuery (IsName UrlLibrary joined)

/-! ## Answers -/

/-- An answer to a REST call, before it is read. -/
structure RestAnswer where
  status : Nat
  body : List UInt8

/-- The answer with its body read as JSON, `json` being the library's part and
`read` the record's; `invalid` is the text of the error if that is not
possible. -/
def RestAnswer.reply {α : Type} (a : RestAnswer) (json : JsonText.Reader)
    (read : Value → Option α) (invalid : String) : RestReply α where
  status := a.status
  text := Utf8.fromUtf8Lossy a.body
  json :=
    match (json a.body).bind read with
    | some x => .ok x
    | none => .error (.other invalid)

section Replies

variable {α : Type} {json : JsonText.Reader} {status : Nat} {body : List UInt8}
  {read : Value → Option α} {invalid : String} {v : Value} {x : α}

theorem json_reply (hbody : json body = some v) (h : read v = some x) :
    (RestAnswer.reply ⟨status, body⟩ json read invalid).json = .ok x := by
  unfold RestAnswer.reply
  dsimp only
  rw [hbody, Option.bind_some, h]

theorem isSuccess_reply {a : RestAnswer} (h : 200 ≤ a.status ∧ a.status < 300) :
    (a.reply json read invalid).isSuccess = true := decide_eq_true h

/-- A body that can be read and comes with success, in a call that gives a
meaning of its own only to other statuses. -/
theorem result_reply {failed : String} {special : Nat → Option SdkError}
    (h : 200 ≤ status ∧ status < 300) (hspecial : special status = none)
    (hbody : json body = some v) (hread : read v = some x) :
    RestReply.result failed special (.ok (RestAnswer.reply ⟨status, body⟩ json read invalid))
      = .ok x := by
  have hsuccess : (RestAnswer.reply ⟨status, body⟩ json read invalid).isSuccess = true :=
    isSuccess_reply h
  have hstatus : (RestAnswer.reply ⟨status, body⟩ json read invalid).status = status := rfl
  have hne : ¬ status = 401 := by omega
  unfold RestReply.result
  dsimp only
  rw [hstatus, if_neg hne, hspecial]
  dsimp only
  rw [if_pos hsuccess, json_reply hbody hread]
  rfl

end Replies

/-- How the network takes the requests of a client. -/
abbrev RestNetwork := RestRequest → Except ReqwestError (RestReply Value)

/-! ## Histories -/

structure UsageEntry where
  timestamp : UInt64
  txType : String
  amountLamports : Int64
  balanceAfterLamports : Int64
  description : Option String
deriving DecidableEq

structure DepositEntry where
  signature : String
  amountLamports : Int64
  amountSol : Float
  usdValue : Option Float
  solUsdPrice : Option Float
  credited : Bool
  creditedAt : Option String
  slot : Int64
  detectedAt : String
  blockTime : Option String

def usageEntry : Record UsageEntry where
  layout :=
    needed ["timestamp", "tx_type", "amount_lamports", "balance_after_lamports", "description"]
  read fields := do
    let timestamp ← required "timestamp" u64 fields
    let txType ← required "tx_type" string fields
    let amountLamports ← required "amount_lamports" i64 fields
    let balanceAfterLamports ← required "balance_after_lamports" i64 fields
    let description ← orNull "description" string fields
    pure ⟨timestamp, txType, amountLamports, balanceAfterLamports, description⟩

def depositEntry (f64 : Value → Option Float) : Record DepositEntry where
  layout :=
    needed ["signature", "amount_lamports", "amount_sol", "usd_value", "sol_usd_price", "credited",
      "credited_at", "slot", "detected_at", "block_time"]
  read fields := do
    let signature ← required "signature" string fields
    let amountLamports ← required "amount_lamports" i64 fields
    let amountSol ← required "amount_sol" f64 fields
    let usdValue ← orNull "usd_value" f64 fields
    let solUsdPrice ← orNull "sol_usd_price" f64 fields
    let credited ← required "credited" bool fields
    let creditedAt ← orNull "credited_at" string fields
    let slot ← required "slot" i64 fields
    let detectedAt ← required "detected_at" string fields
    let blockTime ← orNull "block_time" string fields
    pure ⟨signature, amountLamports, amountSol, usdValue, solUsdPrice, credited, creditedAt, slot,
      detectedAt, blockTime⟩

structure UsageHistoryOptions where
  limit : Option UInt32 := none
  offset : Option UInt32 := none
deriving DecidableEq

abbrev DepositHistoryOptions := UsageHistoryOptions

/-- Where the two histories differ. -/
structure History (α : Type) where
  call : Option UInt32 → Option UInt32 → RestCall
  path : String
  failed : String
  /-- The field of the body that has the entries. -/
  entries : String
  entry : Record α
  path_call : ∀ limit offset, (call limit offset).path = path ++ RestCall.page limit offset
  noQuery : '?' ∉ path.toList
  noFragment : '#' ∉ path.toList

def usageHistory : History UsageEntry where
  call := .getUsageHistory
  path := "/v1/usage-history"
  failed := "Failed to fetch usage history: "
  entries := "entries"
  entry := usageEntry
  path_call := fun _ _ => rfl
  noQuery := by decide
  noFragment := by decide

def depositHistory (f64 : Value → Option Float) : History DepositEntry where
  call := .getDepositHistory
  path := "/v1/deposit-history"
  failed := "Failed to fetch deposit history: "
  entries := "deposits"
  entry := depositEntry f64
  path_call := fun _ _ => rfl
  noQuery := by decide
  noFragment := by decide

/-- Entries that cannot be read are no error. -/
def History.read {α : Type} (h : History α) (body : Value) : List α :=
  (array h.entry.mapped (index h.entries body)).getD []

def History.get {α : Type} (h : History α) (cfg : Config) (send : RestNetwork)
    (options : UsageHistoryOptions) : Except SdkError (List α) :=
  let reply := send (SlipstreamClient.restRequest cfg (h.call options.limit options.offset))
  (RestReply.result h.failed (fun _ => none) reply).map h.read

namespace SlipstreamClient

def getUsageHistory (cfg : Config) (send : RestNetwork) (options : UsageHistoryOptions) :
    Except SdkError (List UsageEntry) :=
  usageHistory.get cfg send options

def getDepositHistory (f64 : Value → Option Float) (cfg : Config) (send : RestNetwork)
    (options : DepositHistoryOptions) : Except SdkError (List DepositEntry) :=
  (depositHistory f64).get cfg send options

end SlipstreamClient

/-! ## Regions and senders -/

structure Geolocation where
  lat : Float
  lon : Float

structure RegionInfo where
  regionId : String
  displayName : String
  endpoint : String
  geolocation : Option Geolocation

structure TipTier where
  name : String
  amountSol : Float
  expectedLatencyMs : UInt32

structure SenderInfo where
  senderId : String
  displayName : String
  tipWallets : List String
  tipTiers : List TipTier

section Readers

variable (f64 : Value → Option Float)

def geolocation : Record Geolocation where
  layout := needed ["lat", "lon"]
  read fields := do
    let lat ← required "lat" f64 fields
    let lon ← required "lon" f64 fields
    pure ⟨lat, lon⟩

def regionInfo : Record RegionInfo where
  layout := needed ["region_id", "display_name", "endpoint", "geolocation"]
  read fields := do
    let regionId ← required "region_id" string fields
    let displayName ← required "display_name" string fields
    let endpoint ← required "endpoint" string fields
    let geolocation ← orNull "geolocation" (geolocation f64).mapped fields
    pure ⟨regionId, displayName, endpoint, geolocation⟩

def tipTier : Record TipTier where
  layout := needed ["name", "amount_sol", "expected_latency_ms"]
  read fields := do
    let name ← required "name" string fields
    let amountSol ← required "amount_sol" f64 fields
    let expectedLatencyMs ← required "expected_latency_ms" u32 fields
    pure ⟨name, amountSol, expectedLatencyMs⟩

def senderInfo : Record SenderInfo where
  layout := needed ["sender_id", "display_name", "tip_wallets", "tip_tiers"]
  read fields := do
    let senderId ← required "sender_id" string fields
    let displayName ← required "display_name" string fields
    let tipWallets ← required "tip_wallets" (array string) fields
    let tipTiers ← required "tip_tiers" (array (tipTier f64).mapped) fields
    pure ⟨senderId, displayName, tipWallets, tipTiers⟩

end Readers

/-- The items of a list that can be read. -/
def readable {α : Type} (item : Record α) : Value → List α
  | .arr items => items.filterMap item.mapped
  | _ => []

namespace SlipstreamClient

def getRegions (f64 : Value → Option Float) (cfg : Config) (send : RestNetwork) :
    Except SdkError (List RegionInfo) :=
  match send (restRequest cfg .getRegions) with
  | .error e => .error (.fromReqwest e)
  | .ok r =>
      -- without a key there is no answer for a wrong one
      if r.isSuccess then
        (r.json.mapError .fromReqwest).map fun body =>
          readable (regionInfo f64) (index "regions" body)
      else .error (.internal ("Failed to fetch regions: " ++ r.text))

def getSenders (f64 : Value → Option Float) (cfg : Config) (send : RestNetwork) :
    Except SdkError (List SenderInfo) :=
  (RestReply.result "Failed to fetch senders: " (fun _ => none)
    (send (restRequest cfg .getSenders))).map fun body =>
      readable (senderInfo f64) (index "senders" body)

end SlipstreamClient

/-! ## Pages -/

def RestRequest.url (r : RestRequest) : String := r.baseUrl ++ r.path

/-- The parameters of a page, as they are meant. -/
def pageParams (limit offset : Option UInt32) : List (String × String) :=
  [("limit", limit.map fun n => toString n.toNat),
    ("offset", offset.map fun n => toString n.toNat)].filterMap fun p =>
      p.2.map fun v => (p.1, v)

def readDecimal (s : String) : Option Nat :=
  if s.toList.all Char.isDigit then some (Nat.ofDigitChars 10 s.toList 0) else none

/-- What a service sends of a ledger: fifty entries unless it is told
otherwise, and a hundred at most. -/
def servedPage {α : Type} (params : List (String × String)) (ledger : List α) : List α :=
  let limit := ((params.lookup "limit").bind readDecimal).getD 50
  let offset := ((params.lookup "offset").bind readDecimal).getD 0
  (ledger.drop offset).take (min limit 100)

theorem isDigit_of_mem_toString {n : Nat} {c : Char} (h : c ∈ (toString n).toList) :
    c.isDigit = true := by
  rw [Nat.toString_eq_repr, Nat.toList_repr] at h
  exact Nat.isDigit_of_mem_toDigits (by decide) (by decide) h

theorem readDecimal_toString (n : Nat) : readDecimal (toString n) = some n := by
  unfold readDecimal
  rw [if_pos (List.all_eq_true.mpr fun c hc => isDigit_of_mem_toString hc),
    Nat.toString_eq_repr, Nat.toList_repr, Nat.ofDigitChars_ten_toDigits]

theorem isName_toString (n : Nat) : IsName (toString n).toList := by
  intro c hc
  rw [Char.isAlphanum, isDigit_of_mem_toString hc, Bool.or_true]

theorem isName_pageParams (limit offset : Option UInt32) :
    ∀ p ∈ pageParams limit offset, IsName p.1.toList ∧ IsName p.2.toList := by
  have hlimit : IsName "limit".toList := List.all_eq_true.mp (by decide)
  have hoffset : IsName "offset".toList := List.all_eq_true.mp (by decide)
  intro p hp
  obtain ⟨⟨name, value⟩, hmem, hmap⟩ := List.mem_filterMap.mp hp
  obtain ⟨v, hv, rfl⟩ := Option.map_eq_some_iff.mp hmap
  simp only [List.mem_cons, Prod.mk.injEq, List.not_mem_nil, or_false] at hmem
  rcases hmem with ⟨rfl, rfl⟩ | ⟨rfl, rfl⟩
  all_goals
    obtain ⟨n, -, rfl⟩ := Option.map_eq_some_iff.mp hv
    constructor
    · assumption
    · exact isName_toString _

theorem mapM_eq_none {α β : Type} {f : α → Option β} {l : List α} {a : α} (ha : a ∈ l)
    (hnone : f a = none) : l.mapM f = none := by
  induction l with
  | nil => cases ha
  | cons b l ih =>
    rw [List.mapM_cons]
    rcases List.mem_cons.mp ha with rfl | ha
    · rw [hnone]
      rfl
    · rw [ih ha]
      cases f b <;> rfl

theorem mapM_of_ok {ε α β : Type} {f : α → Except ε β} {g : α → β} {l : List α}
    (h : ∀ a ∈ l, f a = .ok (g a)) : l.mapM f = .ok (l.map g) := by
  induction l with
  | nil => rfl
  | cons a l ih =>
    obtain ⟨ha, hrest⟩ := List.forall_mem_cons.mp h
    rw [List.mapM_cons, ha, ih hrest]
    rfl

section Pages

variable {α : Type} {h : History α} {cfg : Config}

/-- What a server reads out of the query of a page. -/
theorem parse_query_url (lib : UrlLibrary) (hquery : '?' ∉ (cfg.getEndpoint .http).toList)
    (hfragment : '#' ∉ (cfg.getEndpoint .http).toList) (limit offset : Option UInt32) :
    FormUrl.parse (lib.query (SlipstreamClient.restRequest cfg (h.call limit offset)).url.toList)
      = pageParams limit offset := by
  have hnames := isName_pageParams limit offset
  have hurl : (SlipstreamClient.restRequest cfg (h.call limit offset)).url.toList
      = ((cfg.getEndpoint .http).toList ++ h.path.toList)
        ++ if pageParams limit offset = [] then []
          else '?' :: joined (LandingRateOptions.chars (pageParams limit offset)) := by
    show (cfg.getEndpoint .http ++ (h.call limit offset).path).toList = _
    rw [h.path_call, String.toList_append, String.toList_append, List.append_assoc]
    exact congrArg _ (congrArg _ (LandingRateOptions.toList_query _ rfl))
  have hbase : '?' ∉ (cfg.getEndpoint .http).toList ++ h.path.toList := by
    rw [List.mem_append, not_or]
    exact ⟨hquery, h.noQuery⟩
  have hbase' : '#' ∉ (cfg.getEndpoint .http).toList ++ h.path.toList := by
    rw [List.mem_append, not_or]
    exact ⟨hfragment, h.noFragment⟩
  have hread :
      FormUrl.parse (lib.sent (joined (LandingRateOptions.chars (pageParams limit offset))))
        = pageParams limit offset := by
    rw [RawQuery.parse_sent_of_isName, LandingRateOptions.texts_chars]
    · exact List.forall_mem_map.mpr fun p hp => (hnames p hp).1
    · exact List.forall_mem_map.mpr fun p hp => (hnames p hp).2
  rw [hurl]
  split_ifs with hnone
  · rw [List.append_nil, RawQuery.query_of_not_mem lib hbase, hnone]
    rfl
  · rw [RawQuery.query_append lib hbase hbase', hread]

theorem servedPage_pageParams {β : Type} (limit offset : Option UInt32) (ledger : List β) :
    servedPage (pageParams limit offset) ledger
      = (ledger.drop ((offset.map UInt32.toNat).getD 0)).take
          (min ((limit.map UInt32.toNat).getD 50) 100) := by
  have hlimit : ((pageParams limit offset).lookup "limit").bind readDecimal
      = limit.map UInt32.toNat := by
    cases limit with
    | none => cases offset <;> rfl
    | some n => exact readDecimal_toString n.toNat
  have hoffset : ((pageParams limit offset).lookup "offset").bind readDecimal
      = offset.map UInt32.toNat := by
    cases limit with
    | none =>
        cases offset with
        | none => rfl
        | some n => exact readDecimal_toString n.toNat
    | some m =>
        cases offset with
        | none => rfl
        | some n => exact readDecimal_toString n.toNat
  unfold servedPage
  rw [hlimit, hoffset]

/-- A service that has this ledger, and reads the query of each request as
the client's URL library has sent it. Its answers are texts that the client's
JSON library takes. -/
def Serves (lib : UrlLibrary) (json : JsonText.Reader) (h : History α) (cfg : Config)
    (ledger : List Value) (send : RestNetwork) : Prop :=
  ∀ limit offset, ∃ (status : Nat) (body : List UInt8) (invalid : String) (fields : Fields),
    (200 ≤ status ∧ status < 300)
      ∧ Among [h.entries] [(h.entries, .arr (servedPage (FormUrl.parse (lib.query
          (SlipstreamClient.restRequest cfg (h.call limit offset)).url.toList)) ledger))] fields
      ∧ json body = some (.obj fields)
      ∧ send (SlipstreamClient.restRequest cfg (h.call limit offset))
        = .ok (RestAnswer.reply ⟨status, body⟩ json some invalid)

variable {lib : UrlLibrary} {json : JsonText.Reader} {ledger : List Value} {send : RestNetwork}
  (hquery : '?' ∉ (cfg.getEndpoint .http).toList)
  (hfragment : '#' ∉ (cfg.getEndpoint .http).toList) (hserves : Serves lib json h cfg ledger send)

include hquery hfragment hserves

/-- A page has all of its entries or, if one of them cannot be read, none. -/
theorem History.get_eq (options : UsageHistoryOptions) :
    h.get cfg send options = .ok ((((ledger.drop ((options.offset.map UInt32.toNat).getD 0)).take
      (min ((options.limit.map UInt32.toNat).getD 50) 100)).mapM h.entry.mapped).getD []) := by
  obtain ⟨status, body, invalid, fields, hstatus, hfield, hbody, hsend⟩ :=
    hserves options.limit options.offset
  rw [parse_query_url lib hquery hfragment, servedPage_pageParams] at hfield
  unfold History.get
  dsimp only
  rw [hsend, result_reply hstatus rfl hbody rfl]
  show Except.ok ((array h.entry.mapped (index h.entries (.obj fields))).getD []) = _
  rw [index_among hfield]
  rfl

/-- One page after the other, `n` entries at a time. -/
theorem History.pages {entries : List α}
    (hread : List.Forall₂ (fun e v => h.entry.mapped v = some e) entries ledger) {n : UInt32}
    (hn : n.toNat ≤ 100) {k : Nat} (hk : k * n.toNat < 2 ^ 32) :
    ((List.range k).mapM fun i => h.get cfg send ⟨some n, some (UInt32.ofNat (i * n.toNat))⟩)
      = .ok ((List.range k).map fun i => (entries.drop (i * n.toNat)).take n.toNat) := by
  refine mapM_of_ok fun i hi => ?_
  have hle : i * n.toNat ≤ k * n.toNat := Nat.mul_le_mul_right _ (List.mem_range.mp hi).le
  have hoffset : (UInt32.ofNat (i * n.toNat)).toNat = i * n.toNat :=
    UInt32.toNat_ofNat_of_lt' (hle.trans_lt hk)
  have hpage := array_forall₂ (List.forall₂_take n.toNat (List.forall₂_drop (i * n.toNat) hread))
  rw [History.get_eq hquery hfragment hserves]
  simp only [Option.map_some, Option.getD_some, hoffset, Nat.min_eq_left hn]
  exact congrArg (fun page => Except.ok (page.getD [])) hpage

end Pages

theorem flatten_pages {β : Type} (l : List β) (n k : Nat) :
    ((List.range k).map fun i => (l.drop (i * n)).take n).flatten = l.take (k * n) := by
  induction k with
  | zero => simp
  | succ k ih =>
    rw [List.range_succ, List.map_append, List.flatten_append, ih, Nat.succ_mul, List.take_add]
    simp

/-! ## What is written -/

def usageNames : List String :=
  ["timestamp", "tx_type", "amount_lamports", "balance_after_lamports", "description"]

/-- A description that is missing may be `null`. -/
def usageFields (nulls : Bool) (e : UsageEntry) : Fields :=
  [("timestamp", num64 e.timestamp), ("tx_type", .str e.txType),
      ("amount_lamports", numI64 e.amountLamports),
      ("balance_after_lamports", numI64 e.balanceAfterLamports)] ++
    writeOption nulls "description" (e.description.map .str)

/-- The fields in any order, with others between them. -/
inductive UsageWritten (e : UsageEntry) : Value → Prop where
  | intro {nulls : Bool} {fields : Fields} (h : Among usageNames (usageFields nulls e) fields) :
      UsageWritten e (.obj fields)

def depositNames : List String :=
  ["signature", "amount_lamports", "amount_sol", "usd_value", "sol_usd_price", "credited",
    "credited_at", "slot", "detected_at", "block_time"]

def depositFields (nulls : Bool) (write : Float → Value) (e : DepositEntry) : Fields :=
  [("signature", .str e.signature), ("amount_lamports", numI64 e.amountLamports),
      ("amount_sol", write e.amountSol)] ++
    writeOption nulls "usd_value" (e.usdValue.map write) ++
    writeOption nulls "sol_usd_price" (e.solUsdPrice.map write) ++
    [("credited", .bool e.credited)] ++
    writeOption nulls "credited_at" (e.creditedAt.map .str) ++
    [("slot", numI64 e.slot), ("detected_at", .str e.detectedAt)] ++
    writeOption nulls "block_time" (e.blockTime.map .str)

/-- What is written for the amounts reads as them. -/
inductive DepositWritten (f64 : Value → Option Float) (e : DepositEntry) : Value → Prop where
  | intro {nulls : Bool} {write : Float → Value} {fields : Fields}
      (hfits : ∀ x ∈ e.amountSol :: (e.usdValue.toList ++ e.solUsdPrice.toList),
        write x ≠ .null ∧ f64 (write x) = some x)
      (h : Among depositNames (depositFields nulls write e) fields) :
      DepositWritten f64 e (.obj fields)

theorem names_usageFields (nulls : Bool) (e : UsageEntry) :
    ((usageFields nulls e).map Prod.fst).Sublist usageNames := by
  unfold usageFields
  rw [List.map_append]
  exact (List.Sublist.refl _).append (names_writeOption_sublist _ _ _)

theorem names_depositFields (nulls : Bool) (write : Float → Value) (e : DepositEntry) :
    ((depositFields nulls write e).map Prod.fst).Sublist depositNames := by
  unfold depositFields
  simp only [List.map_append]
  exact ((((((List.Sublist.refl _).append (names_writeOption_sublist _ _ _)).append
    (names_writeOption_sublist _ _ _)).append (List.Sublist.refl _)).append
    (names_writeOption_sublist _ _ _)).append (List.Sublist.refl _)).append
    (names_writeOption_sublist _ _ _)

theorem mapped_usageEntry {e : UsageEntry} {v : Value} (h : UsageWritten e v) :
    usageEntry.mapped v = some e := by
  obtain @⟨nulls, fields, hamong⟩ := h
  have hnodup := (names_usageFields nulls e).nodup (by decide)
  simp only [Record.mapped]
  simp (disch := decide) only [usageEntry, required, orNull, field_keepLast hamong hnodup]
  simp [usageFields, field]

theorem mapped_depositEntry {f64 : Value → Option Float} {e : DepositEntry} {v : Value}
    (h : DepositWritten f64 e v) : (depositEntry f64).mapped v = some e := by
  obtain @⟨nulls, write, fields, hfits, hamong⟩ := h
  have hnodup := (names_depositFields nulls write e).nodup (by decide)
  have hamount := (hfits e.amountSol List.mem_cons_self).2
  have husd := pick_written (o := e.usdValue) nulls fun x hx =>
    hfits x (by simp [Option.mem_def.mp hx])
  have hprice := pick_written (o := e.solUsdPrice) nulls fun x hx =>
    hfits x (by simp [Option.mem_def.mp hx])
  simp only [Record.mapped]
  simp (disch := decide) only [depositEntry, required, orNull, field_keepLast hamong hnodup]
  simp [depositFields, field, hamount, husd, hprice]

/-! ## Reading a history -/

/-- The usage of an account, read page by page. -/
theorem usageHistory_pages {lib : UrlLibrary} {json : JsonText.Reader} {cfg : Config}
    {send : RestNetwork} {entries : List UsageEntry} {ledger : List Value}
    (hquery : '?' ∉ (cfg.getEndpoint .http).toList)
    (hfragment : '#' ∉ (cfg.getEndpoint .http).toList)
    (hserves : Serves lib json usageHistory cfg ledger send)
    (hwritten : List.Forall₂ UsageWritten entries ledger) {n : UInt32} (hn : n.toNat ≤ 100)
    {k : Nat} (hk : k * n.toNat < 2 ^ 32) :
    ((List.range k).mapM fun i => SlipstreamClient.getUsageHistory cfg send
        ⟨some n, some (UInt32.ofNat (i * n.toNat))⟩).map List.flatten
      = .ok (entries.take (k * n.toNat)) := by
  have hread := hwritten.imp fun _ _ h => mapped_usageEntry h
  show ((List.range k).mapM fun i => usageHistory.get cfg send _).map _ = _
  rw [History.pages hquery hfragment hserves hread hn hk, ← flatten_pages]
  rfl

theorem depositHistory_pages {lib : UrlLibrary} {json : JsonText.Reader} {cfg : Config}
    {send : RestNetwork} {f64 : Value → Option Float} {entries : List DepositEntry}
    {ledger : List Value}
    (hquery : '?' ∉ (cfg.getEndpoint .http).toList)
    (hfragment : '#' ∉ (cfg.getEndpoint .http).toList)
    (hserves : Serves lib json (depositHistory f64) cfg ledger send)
    (hwritten : List.Forall₂ (DepositWritten f64) entries ledger) {n : UInt32}
    (hn : n.toNat ≤ 100) {k : Nat} (hk : k * n.toNat < 2 ^ 32) :
    ((List.range k).mapM fun i => SlipstreamClient.getDepositHistory f64 cfg send
        ⟨some n, some (UInt32.ofNat (i * n.toNat))⟩).map List.flatten
      = .ok (entries.take (k * n.toNat)) := by
  have hread := hwritten.imp fun _ _ h => mapped_depositEntry h
  show ((List.range k).mapM fun i => (depositHistory f64).get cfg send _).map _ = _
  rw [History.pages hquery hfragment hserves hread hn hk, ← flatten_pages]
  rfl

def debit : UsageEntry := ⟨1700, "usage_debit", -50000, 950000, none⟩

def topUp : UsageEntry := ⟨1600, "deposit", 1000000, 1000000, some "top-up"⟩

def debitAndTopUp : List Value := [debit, topUp].map fun e => .obj (usageFields false e)

/-- A service on the machine itself. -/
def localService (ledger : List Value) : RestNetwork := fun request =>
  let page := servedPage (FormUrl.parse (RawQuery.urlStandard.query request.url.toList)) ledger
  .ok (RestAnswer.reply ⟨200, JsonText.encode (.obj [("entries", .arr page)])⟩
    JsonText.decode some "")

def localConfig : Config := { apiKey := "sk_test_12345678" }

theorem debitAndTopUp_read :
    ((List.range 2).mapM fun i => SlipstreamClient.getUsageHistory localConfig
        (localService debitAndTopUp) ⟨some 1, some (UInt32.ofNat (i * 1))⟩).map List.flatten
      = .ok [debit, topUp] := by
  have hserves : Serves RawQuery.urlStandard JsonText.decode usageHistory localConfig debitAndTopUp
      (localService debitAndTopUp) := fun _ _ =>
    ⟨200, _, "", _, by decide, Among.refl _ _, JsonText.decode_encode _, rfl⟩
  have hwritten : List.Forall₂ UsageWritten [debit, topUp] debitAndTopUp :=
    .cons (.intro (Among.refl _ _)) (.cons (.intro (Among.refl _ _)) .nil)
  exact usageHistory_pages (by decide) (by decide) hserves hwritten (by decide) (by decide)

/-! ## What cannot be read -/

/-- An entry that cannot be read blanks its page. -/
theorem History.get_of_unreadable {α : Type} {h : History α} {cfg : Config} {send : RestNetwork}
    {lib : UrlLibrary} {json : JsonText.Reader} {ledger : List Value}
    (hquery : '?' ∉ (cfg.getEndpoint .http).toList)
    (hfragment : '#' ∉ (cfg.getEndpoint .http).toList) (hserves : Serves lib json h cfg ledger send)
    {options : UsageHistoryOptions} {v : Value}
    (hv : v ∈ (ledger.drop ((options.offset.map UInt32.toNat).getD 0)).take
      (min ((options.limit.map UInt32.toNat).getD 50) 100))
    (hnone : h.entry.mapped v = none) : h.get cfg send options = .ok [] := by
  rw [History.get_eq hquery hfragment hserves, mapM_eq_none hv hnone]
  rfl

section Lists

variable {json : JsonText.Reader} {f64 : Value → Option Float} {cfg : Config}
  {send : RestNetwork} {status : Nat} {body : List UInt8} {invalid : String} {fields : Fields}
  {items : List Value}

/-- Those regions are left that can be read. -/
theorem getRegions_eq (hstatus : 200 ≤ status ∧ status < 300)
    (hbody : json body = some (.obj fields))
    (hfield : Among ["regions"] [("regions", .arr items)] fields)
    (hsend : send (SlipstreamClient.restRequest cfg .getRegions)
      = .ok (RestAnswer.reply ⟨status, body⟩ json some invalid)) :
    SlipstreamClient.getRegions f64 cfg send = .ok (items.filterMap (regionInfo f64).mapped) := by
  unfold SlipstreamClient.getRegions
  rw [hsend]
  dsimp only
  rw [if_pos (isSuccess_reply hstatus), json_reply hbody rfl]
  show Except.ok (readable (regionInfo f64) (index "regions" (.obj fields))) = _
  rw [index_among hfield]
  rfl

theorem getSenders_eq (hstatus : 200 ≤ status ∧ status < 300)
    (hbody : json body = some (.obj fields))
    (hfield : Among ["senders"] [("senders", .arr items)] fields)
    (hsend : send (SlipstreamClient.restRequest cfg .getSenders)
      = .ok (RestAnswer.reply ⟨status, body⟩ json some invalid)) :
    SlipstreamClient.getSenders f64 cfg send = .ok (items.filterMap (senderInfo f64).mapped) := by
  unfold SlipstreamClient.getSenders
  rw [hsend, result_reply hstatus rfl hbody rfl]
  show Except.ok (readable (senderInfo f64) (index "senders" (.obj fields))) = _
  rw [index_among hfield]
  rfl

end Lists

/-! ## The balance -/

structure FreeTierUsage where
  used : UInt32
  remaining : UInt32
  limit : UInt32
  resetsAt : String
deriving DecidableEq

structure Balance where
  balanceSol : Float
  balanceTokens : Int64
  balanceLamports : Int64
  graceRemainingTokens : Int64
  tier : Option String
  freeTierUsage : Option FreeTierUsage

def freeTierUsage : Record FreeTierUsage where
  layout := needed ["used", "remaining", "limit", "resets_at"]
  read fields := do
    let used ← required "used" u32 fields
    let remaining ← required "remaining" u32 fields
    let limit ← required "limit" u32 fields
    let resetsAt ← required "resets_at" string fields
    pure ⟨used, remaining, limit, resetsAt⟩

/-- In lamports. -/
def costPerQuery : Int64 := 50000

def graceLimit : Int64 := 1000000

def readBalance (build : Build) (body : Value) : Checked Balance := do
  let balanceLamports := (i64 (index "balance_lamports" body)).getD 0
  let withGrace ← addI64 build balanceLamports graceLimit
  pure
    { balanceSol := balanceLamports.toFloat / 1000000000.0
      balanceTokens := balanceLamports / costPerQuery
      balanceLamports := balanceLamports
      graceRemainingTokens := withGrace / costPerQuery
      tier := string (index "tier" body)
      freeTierUsage := freeTierUsage.mapped (index "free_tier_usage" body) }

def SlipstreamClient.getBalance (build : Build) (cfg : Config) (send : RestNetwork) :
    Except SdkError (Checked Balance) :=
  (RestReply.result "Failed to fetch balance: " (fun _ => none)
    (send (restRequest cfg .getBalance))).map (readBalance build)

/-- A division that is rounded towards zero counts whole parts from the
first on. -/
theorem le_tdiv_iff {a c n : Int} (hc : 0 < c) (hn : 0 < n) : n ≤ a.tdiv c ↔ n * c ≤ a := by
  rcases Int.le_total 0 a with ha | ha
  · rw [Int.tdiv_eq_ediv_of_nonneg ha, Int.le_ediv_iff_mul_le hc]
  · have hquotient : 0 ≤ (-a).tdiv c := Int.tdiv_nonneg (Int.neg_nonneg_of_nonpos ha) hc.le
    rw [Int.neg_tdiv] at hquotient
    have hproduct : 0 < n * c := Int.mul_pos hn hc
    constructor <;> intro h <;> omega

theorem toInt_div_costPerQuery (x : Int64) : (x / costPerQuery).toInt = x.toInt.tdiv 50000 :=
  Int64.toInt_div_of_ne_right x costPerQuery (by decide)

/-- What the tokens of a balance stand for. -/
structure CountsQueries (lamports : Int) (b : Balance) : Prop where
  /-- So many queries can be paid from the balance. -/
  balance : ∀ n : Nat, 0 < n → ((n : Int) ≤ b.balanceTokens.toInt ↔ n * 50000 ≤ lamports)
  /-- So many until the grace is used up. -/
  grace : ∀ n : Nat, 0 < n →
    ((n : Int) ≤ b.graceRemainingTokens.toInt ↔ -1000000 ≤ lamports - n * 50000)
  /-- A negative number is a debt of a whole query beyond the grace. -/
  beyond : b.graceRemainingTokens.toInt < 0 ↔ lamports ≤ -1000000 - 50000

theorem countsQueries_readBalance (build : Build) {body : Value} {lamports : Int64}
    (hread : i64 (index "balance_lamports" body) = some lamports)
    (hfits : lamports.toInt + 1000000 < 2 ^ 63) :
    ∃ b, readBalance build body = .ok b ∧ b.balanceLamports = lamports
      ∧ CountsQueries lamports.toInt b := by
  have hlo := lamports.le_toInt
  have hgrace : graceLimit.toInt = 1000000 := by decide
  obtain ⟨hadd, hsum⟩ := addI64_ok (a := lamports) (b := graceLimit) build
    (by omega) (by omega)
  rw [hgrace] at hsum
  have hok : readBalance build body = .ok
      { balanceSol := lamports.toFloat / 1000000000.0
        balanceTokens := lamports / costPerQuery
        balanceLamports := lamports
        graceRemainingTokens := (lamports + graceLimit) / costPerQuery
        tier := string (index "tier" body)
        freeTierUsage := freeTierUsage.mapped (index "free_tier_usage" body) } := by
    unfold readBalance
    dsimp only
    rw [hread, Option.getD_some, hadd]
    rfl
  refine ⟨_, hok, rfl, ?_, ?_, ?_⟩
  · intro n hn
    rw [toInt_div_costPerQuery]
    exact le_tdiv_iff (by decide) (by omega)
  · intro n hn
    rw [toInt_div_costPerQuery, hsum, le_tdiv_iff (by decide) (by omega)]
    omega
  · rw [toInt_div_costPerQuery, hsum]
    have hneg := le_tdiv_iff (a := -(lamports.toInt + 1000000)) (c := 50000) (n := 1)
      (by decide) (by decide)
    rw [Int.neg_tdiv] at hneg
    omega

/-- An answer that has a field with the balance, whatever else it has. -/
theorem balance_counts_queries (build : Build) {json : JsonText.Reader} {cfg : Config}
    {send : RestNetwork} {status : Nat} {body : List UInt8} {invalid : String} {fields : Fields}
    {lamports : Int64}
    (hsend : send (SlipstreamClient.restRequest cfg .getBalance)
      = .ok (RestAnswer.reply ⟨status, body⟩ json some invalid))
    (hbody : json body = some (.obj fields)) (hstatus : 200 ≤ status ∧ status < 300)
    (hfield : Among ["balance_lamports"] [("balance_lamports", numI64 lamports)] fields)
    (hfits : lamports.toInt + 1000000 < 2 ^ 63) :
    ∃ b, SlipstreamClient.getBalance build cfg send = .ok (.ok b)
      ∧ b.balanceLamports = lamports ∧ CountsQueries lamports.toInt b := by
  have hread : i64 (index "balance_lamports" (.obj fields)) = some lamports := by
    rw [index_among hfield, i64_numI64]
  obtain ⟨b, hb, hlamports, hcounts⟩ := countsQueries_readBalance build hread hfits
  refine ⟨b, ?_, hlamports, hcounts⟩
  unfold SlipstreamClient.getBalance
  rw [hsend, result_reply hstatus rfl hbody rfl]
  exact congrArg Except.ok hb

/-- A debt within the grace. -/
theorem debt_counts_queries :
    ∃ b, SlipstreamClient.getBalance .debug localConfig
        (fun _ => .ok (RestAnswer.reply
          ⟨200, JsonText.encode (.obj [("balance_lamports", numI64 (-120000))])⟩
          JsonText.decode some ""))
        = .ok (.ok b)
      ∧ b.balanceLamports = -120000 ∧ CountsQueries (-120000) b :=
  balance_counts_queries .debug rfl (JsonText.decode_encode _) (by decide) (Among.refl _ _)
    (by decide)

end Slipstream
