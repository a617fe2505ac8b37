import Slipstream.Credentials
import Slipstream.RawQuery

/-!
# The query of the landing rates

`get_landing_rates` writes the start and the end of the time range into
its URL as they are, where the polling loops of the HTTP transport hand
their parameters to the encoder of the HTTP library. `survives_iff` says
which time ranges arrive at a server that decodes the query: an offset
from UTC with a plus sign is not among them.
-/

namespace Slipstream

open FormUrl RawQuery

structure LandingRateOptions where
  start : Option String := none
  stop : Option String := none
deriving Repr, DecidableEq

namespace LandingRateOptions

/-- `get_landing_rates` with these options. -/
def call (options : Option LandingRateOptions) : RestCall :=
  match options with
  | some opts => .getLandingRates opts.start opts.stop
  | none => .getLandingRates none none

def url (cfg : Config) (options : Option LandingRateOptions) : String :=
  let request := SlipstreamClient.restRequest cfg (call options)
  request.baseUrl ++ request.path

def params (options : Option LandingRateOptions) : List (String × Option String) :=
  [("start", options.bind start), ("end", options.bind stop)]

/-- The parameters that are set. -/
def pairs (options : Option LandingRateOptions) : List (String × String) :=
  (params options).filterMap fun p => p.2.map fun v => (p.1, v)

/-- The time range arrives as it was set, from every client whose
endpoint has neither a query nor a fragment. -/
def Survives (lib : UrlLibrary) (options : Option LandingRateOptions) : Prop :=
  ∀ cfg : Config, '?' ∉ (cfg.getEndpoint .http).toList → '#' ∉ (cfg.getEndpoint .http).toList →
    parse (lib.query (url cfg options).toList) = pairs options

theorem toList_path (options : Option LandingRateOptions) :
    (call options).path.toList
      = "/v1/metrics/landing-rates".toList ++ (RestCall.query (params options)).toList := by
  cases options with
  | none => exact String.toList_append
  | some opts => exact String.toList_append

/-! ## The query that is written -/

def chars (ps : List (String × String)) : List (List Char × List Char) :=
  ps.map fun p => (p.1.toList, p.2.toList)

theorem texts_chars (ps : List (String × String)) : texts (chars ps) = ps := by
  rw [texts, chars, List.map_map]
  refine (List.map_congr_left fun p _ => ?_).trans (List.map_id ps)
  simp

theorem toList_query (params : List (String × Option String)) {set : List (String × String)}
    (hset : (params.filterMap fun p => p.2.map fun v => (p.1, v)) = set) :
    (RestCall.query params).toList = if set = [] then [] else '?' :: joined (chars set) := by
  have hfields : (params.filterMap fun p => p.2.map fun v => p.1 ++ "=" ++ v)
      = set.map fun p => p.1 ++ "=" ++ p.2 := by
    rw [← hset, List.map_filterMap]
    refine List.filterMap_congr fun p _ => ?_
    rw [Option.map_map]
    rfl
  have hjoined : (set.map fun p => p.1 ++ "=" ++ p.2).map String.toList
      = (chars set).map fun p => p.1 ++ '=' :: p.2 := by
    simp [chars]
  show (if (params.filterMap fun p => p.2.map fun v => p.1 ++ "=" ++ v) = [] then ""
    else "?" ++ String.intercalate "&"
      (params.filterMap fun p => p.2.map fun v => p.1 ++ "=" ++ v)).toList = _
  rw [hfields]
  simp only [List.map_eq_nil_iff]
  split_ifs
  · rfl
  · rw [String.toList_append, String.toList_intercalate, hjoined]
    rfl

theorem isName_chars (options : Option LandingRateOptions) :
    ∀ p ∈ chars (pairs options), IsName p.1 := by
  have hstart : IsName "start".toList := List.all_eq_true.mp (by decide)
  have hend : IsName "end".toList := List.all_eq_true.mp (by decide)
  intro q hq
  obtain ⟨p, hp, rfl⟩ := List.mem_map.mp hq
  obtain ⟨⟨name, value⟩, hmem, hmap⟩ := List.mem_filterMap.mp hp
  obtain ⟨v, -, rfl⟩ := Option.map_eq_some_iff.mp hmap
  simp only [params, List.mem_cons, Prod.mk.injEq, List.not_mem_nil, or_false] at hmem
  rcases hmem with ⟨rfl, -⟩ | ⟨rfl, -⟩
  · dsimp only
    exact hstart
  · dsimp only
    exact hend

/-- The query of the URL is the one that is written. -/
theorem query_url (lib : UrlLibrary) {cfg : Config}
    (hquery : '?' ∉ (cfg.getEndpoint .http).toList)
    (hhash : '#' ∉ (cfg.getEndpoint .http).toList) (options : Option LandingRateOptions) :
    lib.query (url cfg options).toList = lib.sent (joined (chars (pairs options))) := by
  have hurl : (url cfg options).toList
      = ((cfg.getEndpoint .http).toList ++ "/v1/metrics/landing-rates".toList)
        ++ if pairs options = [] then [] else '?' :: joined (chars (pairs options)) := by
    have hset : (RestCall.query (params options)).toList
        = if pairs options = [] then [] else '?' :: joined (chars (pairs options)) :=
      toList_query (params options) rfl
    rw [← hset, List.append_assoc, ← toList_path]
    exact String.toList_append
  have hpath : '?' ∉ "/v1/metrics/landing-rates".toList
      ∧ '#' ∉ "/v1/metrics/landing-rates".toList := by decide
  have hbase : '?' ∉ (cfg.getEndpoint .http).toList ++ "/v1/metrics/landing-rates".toList := by
    rw [List.mem_append, not_or]
    exact ⟨hquery, hpath.1⟩
  have hbase' : '#' ∉ (cfg.getEndpoint .http).toList ++ "/v1/metrics/landing-rates".toList := by
    rw [List.mem_append, not_or]
    exact ⟨hhash, hpath.2⟩
  rw [hurl]
  split_ifs with hset
  · rw [List.append_nil, query_of_not_mem lib hbase, hset]
    rfl
  · exact query_append lib hbase hbase' _

/-! ## What survives -/

/-- A time range survives exactly if nothing in it means something else in
a query, and nothing at its end is trimmed. -/
theorem survives_iff (lib : UrlLibrary) (options : Option LandingRateOptions) :
    Survives lib options
      ↔ (∀ p ∈ pairs options, Plain p.2.toList)
        ∧ ∀ p ∈ (pairs options).getLast?, EndsVisible p.2.toList := by
  have hsent := parse_sent_iff lib (isName_chars options)
  rw [texts_chars] at hsent
  have hplain : (∀ p ∈ chars (pairs options), Plain p.2)
      ↔ ∀ p ∈ pairs options, Plain p.2.toList := by
    rw [chars, List.forall_mem_map]
  have hlast : (∀ p ∈ (chars (pairs options)).getLast?, EndsVisible p.2)
      ↔ ∀ p ∈ (pairs options).getLast?, EndsVisible p.2.toList := by
    rw [chars, List.getLast?_map]
    cases (pairs options).getLast? with
    | none => simp
    | some p => simp
  rw [hplain, hlast] at hsent
  rw [← hsent]
  constructor
  · intro h
    have hlocal : '?' ∉ (Config.getEndpoint { apiKey := "" } .http).toList
        ∧ '#' ∉ (Config.getEndpoint { apiKey := "" } .http).toList := by decide
    have hdefault := h _ hlocal.1 hlocal.2
    rwa [query_url lib hlocal.1 hlocal.2] at hdefault
  · intro h cfg hquery hhash
    rwa [query_url lib hquery hhash]

/-- Since the start of a day in Central Europe. -/
def sinceMidnight : Option LandingRateOptions :=
  some { start := some "2024-06-01T00:00:00+02:00" }

/-- The plus sign arrives as a blank. -/
theorem not_survives_sinceMidnight :
    parse (urlStandard.query (url { apiKey := "sk_test_12345678" } sinceMidnight).toList)
        = [("start", "2024-06-01T00:00:00 02:00")]
      ∧ pairs sinceMidnight = [("start", "2024-06-01T00:00:00+02:00")]
      ∧ ¬ Survives urlStandard sinceMidnight := by
  have hread : parse
      (urlStandard.query (url { apiKey := "sk_test_12345678" } sinceMidnight).toList)
      = [("start", "2024-06-01T00:00:00 02:00")] := by decide
  refine ⟨hread, by decide, fun h => ?_⟩
  have hpairs := h { apiKey := "sk_test_12345678" } (by decide) (by decide)
  rw [hread] at hpairs
  revert hpairs
  decide

end LandingRateOptions

end Slipstream
