import Mathlib.Data.List.DropRight
import Slipstream.FormUrl

/-!
# Queries written as they are

A query that is put together from parameters without encoding them, and
read by `FormUrl.parse` on the other side. In between is a URL library:
it trims the URL, removes line breaks and tabs, takes what follows a `#`
for the fragment, and encodes the characters that may not stand in a
query. Of the last nothing is known but that the legal ones are left
alone (`UrlLibrary.legal`); it makes no difference to what is read
(`decode_encoded`).

`parse_sent_iff` says which parameters arrive as they were meant.
-/

namespace RawQuery

open FormUrl Utf8

/-! ## The URL library -/

/-- Characters that stand in a query for themselves or separate its
parts. -/
def queryLegal (c : Char) : Bool :=
  c.isAlphanum || "-._~!$&()*+,;=:@/?%".toList.contains c

/-- Controls and blanks, which are trimmed at the ends of a URL. -/
def trimmed (c : Char) : Bool := decide (c.toNat ≤ 0x20)

/-- Tabs and line breaks, which are removed from a URL. -/
def removed (c : Char) : Bool := c == '\t' || c == '\n' || c == '\r'

def kept (cs : List Char) : List Char := cs.filter fun c => !removed c

/-- What is left of the end of a URL. -/
def visible (cs : List Char) : List Char :=
  (kept (cs.rdropWhile trimmed)).takeWhile (· ≠ '#')

structure UrlLibrary where
  /-- Is percent-encoded in a query. -/
  escapes : Char → Bool
  legal : ∀ c, queryLegal c = true → escapes c = false

theorem isAlphanum_iff {c : Char} : c.isAlphanum = true
    ↔ (65 ≤ c.toNat ∧ c.toNat ≤ 90 ∨ 97 ≤ c.toNat ∧ c.toNat ≤ 122)
      ∨ 48 ≤ c.toNat ∧ c.toNat ≤ 57 := by
  show ((decide ('A'.val ≤ c.val ∧ c.val ≤ 'Z'.val)
    || decide ('a'.val ≤ c.val) && decide (c.val ≤ 'z'.val))
    || decide ('0'.val ≤ c.val) && decide (c.val ≤ '9'.val)) = true ↔ _
  simp only [Bool.or_eq_true, Bool.and_eq_true, decide_eq_true_eq, UInt32.le_iff_toNat_le]
  exact Iff.rfl

/-- The URL standard: controls, blanks, quotes, `#`, angle brackets and
everything beyond ASCII. -/
def urlStandard : UrlLibrary where
  escapes := fun c => decide (c.toNat ≤ 0x20) || decide (0x7e < c.toNat)
    || [0x22, 0x23, 0x27, 0x3c, 0x3e].contains c.toNat
  legal := by
    intro c hc
    rw [queryLegal, Bool.or_eq_true] at hc
    rcases hc with halnum | hmem
    · rw [isAlphanum_iff] at halnum
      simp
      omega
    · have hall : ("-._~!$&()*+,;=:@/?%".toList.all fun c =>
          !(decide (c.toNat ≤ 0x20) || decide (0x7e < c.toNat)
            || [0x22, 0x23, 0x27, 0x3c, 0x3e].contains c.toNat)) = true := by decide
      have hc := List.all_eq_true.mp hall c (List.contains_iff_mem.mp hmem)
      rwa [Bool.not_eq_true'] at hc

namespace UrlLibrary

variable (lib : UrlLibrary)

def encodeChar (c : Char) : List Char :=
  if lib.escapes c then (String.utf8EncodeChar c).flatMap percent else [c]

def encoded (cs : List Char) : List Char := cs.flatMap lib.encodeChar

/-- The query that is sent for the text behind the question mark. -/
def sent (query : List Char) : List Char := lib.encoded (visible query)

/-- The query of a URL; it has none, or an empty one, without a question
mark. -/
def query (url : List Char) : List Char :=
  lib.encoded (((visible (url.dropWhile trimmed)).dropWhile (· ≠ '?')).drop 1)

theorem encodeChar_of_legal {c : Char} (h : queryLegal c = true) : lib.encodeChar c = [c] := by
  rw [encodeChar, lib.legal c h]
  rfl

/-- An encoded character is as legal as the others. -/
theorem encodeChar_cases (c : Char) :
    lib.encodeChar c = [c] ∨ ∃ cs, queryLegal c = false
      ∧ lib.encodeChar c = '%' :: cs ∧ '&' ∉ lib.encodeChar c := by
  cases hlegal : queryLegal c with
  | true => exact .inl (lib.encodeChar_of_legal hlegal)
  | false =>
      rw [encodeChar]
      split_ifs
      · refine .inr ?_
        have hpos := c.utf8Size_pos
        have hlen := String.length_utf8EncodeChar c
        have hamp : '&' ∉ (String.utf8EncodeChar c).flatMap percent :=
          fun h => (not_separator_of_mem_percents h).1 rfl
        cases henc : String.utf8EncodeChar c with
        | nil =>
            rw [henc, List.length_nil] at hlen
            omega
        | cons b bs => exact ⟨_, rfl, rfl, henc ▸ hamp⟩
      · exact .inl rfl

/-! ## Encoded characters are read as they are -/

theorem encodeChar_of_alphanum {c : Char} (h : c.isAlphanum = true) : lib.encodeChar c = [c] :=
  lib.encodeChar_of_legal (by rw [queryLegal, h, Bool.true_or])

theorem isAlphanum_of_digit {c : Char} (h : (Hex.digit c).isSome) : c.isAlphanum = true := by
  unfold Hex.digit at h
  rw [isAlphanum_iff]
  split_ifs at h
  · omega
  · omega
  · omega
  · cases h

/-- A digit at the head was there before. -/
theorem encoded_digit {cs rest : List Char} {a : Char} (h : lib.encoded cs = a :: rest)
    (ha : (Hex.digit a).isSome) : ∃ cs', cs = a :: cs' ∧ lib.encoded cs' = rest := by
  cases cs with
  | nil => cases h
  | cons c cs =>
      rw [encoded, List.flatMap_cons] at h
      rcases lib.encodeChar_cases c with hc | ⟨ds, -, hc, -⟩
      · rw [hc] at h
        obtain ⟨rfl, hrest⟩ := List.cons.inj h
        exact ⟨cs, rfl, hrest⟩
      · rw [hc] at h
        obtain ⟨rfl, -⟩ := List.cons.inj h
        cases ha

theorem bytes_pieces_encoded (cs : List Char) :
    (pieces (lib.encoded cs)).flatMap Piece.bytes = (pieces cs).flatMap Piece.bytes := by
  have hcons : ∀ c cs, queryLegal c = true → lib.encoded (c :: cs) = c :: lib.encoded cs := by
    intro c cs hc
    rw [encoded, List.flatMap_cons, lib.encodeChar_of_legal hc]
    rfl
  have hdigit : ∀ c cs, (Hex.digit c).isSome → lib.encoded (c :: cs) = c :: lib.encoded cs := by
    intro c cs hc
    exact hcons c cs (by rw [queryLegal, isAlphanum_of_digit hc, Bool.true_or])
  fun_induction pieces cs with
  | case1 => rfl
  | case2 a b cs x y hb ha ih =>
      rw [hcons _ _ (by decide), hdigit a _ (Option.isSome_iff_exists.mpr ⟨x, ha⟩),
        hdigit b _ (Option.isSome_iff_exists.mpr ⟨y, hb⟩), pieces]
      simp only [ha, hb, List.flatMap_cons, ih]
  | case3 a b cs hnot ih =>
      rw [hcons _ _ (by decide), pieces_percent_of_not, List.flatMap_cons, List.flatMap_cons, ih]
      intro a' b' rest heq ha' hb'
      obtain ⟨cs', hcs, hrest⟩ := lib.encoded_digit heq ha'
      obtain ⟨cs'', hcs', -⟩ := lib.encoded_digit hrest hb'
      subst hcs'
      obtain ⟨rfl, hbs⟩ := List.cons.inj hcs
      obtain ⟨rfl, -⟩ := List.cons.inj hbs
      obtain ⟨x, hx⟩ := Option.isSome_iff_exists.mp ha'
      obtain ⟨y, hy⟩ := Option.isSome_iff_exists.mp hb'
      exact hnot x y hx hy
  | case4 cs ih =>
      rw [hcons _ _ (by decide), pieces_of_ne (by decide), if_pos rfl, List.flatMap_cons,
        List.flatMap_cons, ih]
  | case5 c cs hpct hplus ih =>
      by_cases hc : c = '%'
      · subst hc
        rw [hcons _ _ (by decide), pieces_percent_of_not, List.flatMap_cons, List.flatMap_cons, ih]
        intro a b rest heq ha hb
        obtain ⟨cs', hcs, hrest⟩ := lib.encoded_digit heq ha
        obtain ⟨cs'', hcs', -⟩ := lib.encoded_digit hrest hb
        exact hpct a b cs'' rfl (by rw [hcs, hcs'])
      · rw [List.flatMap_cons, ← ih, encoded, List.flatMap_cons, encodeChar]
        split_ifs
        · exact bytes_pieces_percents _ _
        · rw [List.singleton_append, pieces_of_ne hc, if_neg hplus, List.flatMap_cons]
          rfl

theorem decode_encoded (cs : List Char) : decode (lib.encoded cs) = decode cs := by
  rw [decode, decode, text, text, bytes_pieces_encoded]

theorem amp_mem_encoded {cs : List Char} : '&' ∈ lib.encoded cs ↔ '&' ∈ cs := by
  constructor
  · intro h
    obtain ⟨c, hc, hmem⟩ := List.mem_flatMap.mp h
    rcases lib.encodeChar_cases c with hone | ⟨ds, -, -, hamp⟩
    · rw [hone, List.mem_singleton] at hmem
      exact hmem ▸ hc
    · exact absurd hmem hamp
  · intro h
    exact List.mem_flatMap.mpr
      ⟨'&', h, by rw [lib.encodeChar_of_legal (by decide)]; exact List.mem_singleton.mpr rfl⟩

theorem encoded_append_amp (cs ds : List Char) :
    lib.encoded (cs ++ '&' :: ds) = lib.encoded cs ++ '&' :: lib.encoded ds := by
  rw [encoded, List.flatMap_append, List.flatMap_cons, lib.encodeChar_of_legal (by decide)]
  rfl

end UrlLibrary

/-! ## What is left of a text -/

theorem rdropWhile_append {p : Char → Bool} {xs ys : List Char} (h : ∃ c ∈ ys, p c = false) :
    (xs ++ ys).rdropWhile p = xs ++ ys.rdropWhile p := by
  obtain ⟨c, hc, hp⟩ := h
  have hne : (ys.reverse.dropWhile p).isEmpty = false := by
    cases hdrop : ys.reverse.dropWhile p with
    | nil =>
        have hall := List.dropWhile_eq_nil_iff.mp hdrop c (List.mem_reverse.mpr hc)
        rw [hp] at hall
        cases hall
    | cons d ds => rfl
  rw [List.rdropWhile, List.rdropWhile, List.reverse_append, List.dropWhile_append, hne]
  simp

theorem rdropWhile_cons {p : Char → Bool} {c : Char} (hc : p c = false) (cs : List Char) :
    (c :: cs).rdropWhile p = c :: cs.rdropWhile p := by
  by_cases h : ∃ d ∈ cs, p d = false
  · exact @rdropWhile_append p [c] cs h
  · have hall : ∀ d ∈ cs, p d = true := by
      intro d hd
      by_contra hp
      exact h ⟨d, hd, by simpa using hp⟩
    have hnil : cs.rdropWhile p = [] := List.rdropWhile_eq_nil_iff.mpr hall
    have hrev : (cs.reverse ++ [c]).dropWhile p = [c] := by
      rw [List.dropWhile_append_of_pos (by simpa using hall)]
      simp [hc]
    rw [hnil, List.rdropWhile, List.reverse_cons, hrev]
    rfl

/-- A visible character keeps what stands in front of it from being
trimmed. -/
theorem visible_append_cons {cs : List Char} {c : Char} (htrimmed : trimmed c = false)
    (hremoved : removed c = false) (hhash : c ≠ '#') (hcs : '#' ∉ kept cs)
    (rest : List Char) : visible (cs ++ c :: rest) = kept cs ++ c :: visible rest := by
  have hkept : kept (cs ++ c :: rest.rdropWhile trimmed)
      = kept cs ++ c :: kept (rest.rdropWhile trimmed) := by
    rw [kept, List.filter_append, List.filter_cons_of_pos (by rw [hremoved]; rfl)]
    rfl
  rw [visible, rdropWhile_append ⟨c, List.mem_cons_self, htrimmed⟩, rdropWhile_cons htrimmed,
    hkept, List.takeWhile_append_of_pos (forall_ne_of_not_mem hcs),
    List.takeWhile_cons, if_pos (decide_eq_true hhash)]
  rfl

/-- A name: letters and digits. -/
def IsName (name : List Char) : Prop := ∀ c ∈ name, c.isAlphanum = true

section Names

variable {name : List Char} (h : IsName name)
include h

theorem IsName.ne {c d : Char} (hc : c ∈ name) (hd : d.isAlphanum = false) : c ≠ d := by
  rintro rfl
  rw [h c hc] at hd
  cases hd

theorem IsName.not_mem {d : Char} (hd : d.isAlphanum = false) : d ∉ name :=
  fun hmem => h.ne hmem hd rfl

theorem IsName.literal : Literal name := by
  refine ⟨h.not_mem (by decide), ?_⟩
  rintro ⟨a, b, hsub, -⟩
  exact h.not_mem (d := '%') (by decide) (hsub.subset List.mem_cons_self)

theorem IsName.visible_append (cs : List Char) :
    visible (name ++ '=' :: cs) = name ++ '=' :: visible cs := by
  have hname : kept name = name := by
    refine List.filter_eq_self.mpr fun c hc => ?_
    simp [removed, h.ne hc (d := '\t') (by decide), h.ne hc (d := '\n') (by decide),
      h.ne hc (d := '\r') (by decide)]
  have hhash : '#' ∉ kept name := by
    rw [hname]
    exact h.not_mem (by decide)
  rw [visible_append_cons (by decide) (by decide) (by decide) hhash, hname]

/-- The first field of what is sent. -/
theorem IsName.parse_encoded (lib : UrlLibrary) (cs : List Char) :
    parse (lib.encoded (name ++ '=' :: cs))
      = (String.ofList name, decode (cs.takeWhile (· ≠ '&')))
        :: parse (lib.encoded ((cs.dropWhile (· ≠ '&')).drop 1)) := by
  have hname : lib.encoded name = name := by
    rw [UrlLibrary.encoded, List.flatMap_congr (g := fun c => [c]) ?_]
    · simp
    · exact fun c hc => lib.encodeChar_of_alphanum (h c hc)
  have hencoded : lib.encoded (name ++ '=' :: cs) = name ++ '=' :: lib.encoded cs := by
    rw [UrlLibrary.encoded, List.flatMap_append, List.flatMap_cons,
      lib.encodeChar_of_legal (by decide)]
    exact congrArg (· ++ '=' :: lib.encoded cs) hname
  rw [hencoded, parse_field_append (h.not_mem (by decide)) (h.not_mem (by decide)),
    decode_eq_iff.mpr h.literal]
  by_cases hmem : '&' ∈ cs
  · obtain ⟨value, rest, rfl, hvalue⟩ := List.eq_append_cons_of_mem hmem
    have hvalue' : '&' ∉ lib.encoded value := fun hv => hvalue (lib.amp_mem_encoded.mp hv)
    rw [lib.encoded_append_amp, takeWhile_ne_append hvalue', dropWhile_ne_append hvalue',
      takeWhile_ne_append hvalue, dropWhile_ne_append hvalue, lib.decode_encoded]
    rfl
  · have hmem' : '&' ∉ lib.encoded cs := fun hv => hmem (lib.amp_mem_encoded.mp hv)
    rw [takeWhile_ne_self hmem', dropWhile_ne_self hmem', takeWhile_ne_self hmem,
      dropWhile_ne_self hmem, lib.decode_encoded]
    rfl

end Names

/-! ## The query of a URL -/

/-- The URL ends in this text; in front of it are neither a query nor a
fragment. -/
theorem query_append (lib : UrlLibrary) {base : List Char} (hquery : '?' ∉ base)
    (hhash : '#' ∉ base) (text : List Char) :
    lib.query (base ++ '?' :: text) = lib.sent text := by
  obtain ⟨base', hsub, hdrop⟩ : ∃ base', base'.Sublist base
      ∧ (base ++ '?' :: text).dropWhile trimmed = base' ++ '?' :: text := by
    rw [List.dropWhile_append]
    split
    · exact ⟨[], List.nil_sublist _, List.dropWhile_cons_of_neg (by decide)⟩
    · exact ⟨_, (List.dropWhile_suffix _).sublist, rfl⟩
  have hsub' : (kept base').Sublist base := (List.filter_sublist).trans hsub
  have hvisible : visible (base' ++ '?' :: text) = kept base' ++ '?' :: visible text :=
    visible_append_cons (by decide) (by decide) (by decide) (fun h => hhash (hsub'.subset h)) text
  rw [UrlLibrary.query, hdrop, hvisible,
    dropWhile_ne_append fun h => hquery (hsub'.subset h)]
  rfl

theorem query_of_not_mem (lib : UrlLibrary) {url : List Char} (hquery : '?' ∉ url) :
    lib.query url = [] := by
  have hdrop : (url.dropWhile trimmed).Sublist url := (List.dropWhile_suffix _).sublist
  have htrim := (List.rdropWhile_prefix trimmed (url.dropWhile trimmed)).sublist
  have hkept : (kept ((url.dropWhile trimmed).rdropWhile trimmed)).Sublist url :=
    List.filter_sublist.trans (htrim.trans hdrop)
  have hsub : (visible (url.dropWhile trimmed)).Sublist url :=
    (List.takeWhile_prefix _).sublist.trans hkept
  rw [UrlLibrary.query, dropWhile_ne_self fun h => hquery (hsub.subset h)]
  rfl

/-! ## What arrives -/

/-- Nothing in the value has a meaning of its own in a query, or is lost
on the way to the library. -/
structure Plain (value : List Char) : Prop where
  literal : Literal value
  amp : '&' ∉ value
  hash : '#' ∉ value
  kept : ∀ c ∈ value, removed c = false

/-- Nothing is trimmed behind the value. -/
def EndsVisible (value : List Char) : Prop := ∀ c ∈ value.getLast?, trimmed c = false

theorem rdropWhile_eq_self_iff {value : List Char} :
    value.rdropWhile trimmed = value ↔ EndsVisible value := by
  rw [List.rdropWhile_eq_self_iff, EndsVisible]
  constructor
  · intro h c hc
    obtain ⟨hne, rfl⟩ := List.mem_getLast?_eq_getLast hc
    simpa using h hne
  · intro h hne
    have hlast := h _ (List.getLast?_eq_some_getLast hne)
    simp [hlast]

theorem kept_sublist (cs : List Char) : (kept cs).Sublist cs := List.filter_sublist

theorem kept_eq_self_iff {value : List Char} :
    kept value = value ↔ ∀ c ∈ value, removed c = false := by
  rw [kept, List.filter_eq_self]
  simp

/-- What is left of a value is read as the value only if it is all of it,
since nothing makes up for what is missing. -/
theorem decode_left_iff {value left : List Char} (h : left.Sublist value) :
    decode ((left.takeWhile (· ≠ '#')).takeWhile (· ≠ '&')) = String.ofList value
      ↔ left = value ∧ '#' ∉ value ∧ '&' ∉ value ∧ Literal value := by
  constructor
  · intro hdecode
    have hhash := List.takeWhile_prefix (fun c => decide (c ≠ '#')) (l := left)
    have hamp := List.takeWhile_prefix (fun c => decide (c ≠ '&'))
      (l := left.takeWhile (· ≠ '#'))
    have hlen := length_decode_le ((left.takeWhile (· ≠ '#')).takeWhile (· ≠ '&'))
    rw [hdecode, String.toList_ofList] at hlen
    have hleft : left = value := h.eq_of_length (Nat.le_antisymm h.length_le
      (Nat.le_trans hlen (Nat.le_trans hamp.length_le hhash.length_le)))
    subst hleft
    have hwhole : left.takeWhile (· ≠ '#') = left :=
      hhash.eq_of_length (Nat.le_antisymm hhash.length_le (Nat.le_trans hlen hamp.length_le))
    rw [hwhole] at hamp hlen hdecode
    have hwhole' : left.takeWhile (· ≠ '&') = left :=
      hamp.eq_of_length (Nat.le_antisymm hamp.length_le hlen)
    rw [hwhole'] at hdecode
    refine ⟨rfl, fun hmem => ?_, fun hmem => ?_, decode_eq_iff.mp hdecode⟩
    · exact absurd (List.takeWhile_eq_self_iff.mp hwhole _ hmem) (by decide)
    · exact absurd (List.takeWhile_eq_self_iff.mp hwhole' _ hmem) (by decide)
  · rintro ⟨rfl, hhash, hamp, hliteral⟩
    rw [takeWhile_ne_self hhash, takeWhile_ne_self hamp, decode_eq_iff.mpr hliteral]

theorem decode_last_iff (value : List Char) :
    decode ((visible value).takeWhile (· ≠ '&')) = String.ofList value
      ↔ Plain value ∧ EndsVisible value := by
  have htrim : (value.rdropWhile trimmed).Sublist value :=
    (List.rdropWhile_prefix trimmed value).sublist
  have hkept := kept_sublist (value.rdropWhile trimmed)
  rw [visible, decode_left_iff (hkept.trans htrim)]
  constructor
  · rintro ⟨hleft, hhash, hamp, hliteral⟩
    have hvisible : value.rdropWhile trimmed = value := by
      refine htrim.eq_of_length (Nat.le_antisymm htrim.length_le ?_)
      calc value.length = (kept (value.rdropWhile trimmed)).length := by rw [hleft]
        _ ≤ (value.rdropWhile trimmed).length := hkept.length_le
    rw [hvisible] at hleft
    exact ⟨⟨hliteral, hamp, hhash, kept_eq_self_iff.mp hleft⟩,
      rdropWhile_eq_self_iff.mp hvisible⟩
  · rintro ⟨hplain, hends⟩
    rw [rdropWhile_eq_self_iff.mpr hends, kept_eq_self_iff.mpr hplain.kept]
    exact ⟨rfl, hplain.hash, hplain.amp, hplain.literal⟩

section Middle

variable {value rest : List Char} (h : ∃ c ∈ rest, trimmed c = false)
include h

theorem visible_append_amp : visible (value ++ '&' :: rest)
    = (kept value ++ '&' :: kept (rest.rdropWhile trimmed)).takeWhile (· ≠ '#') := by
  obtain ⟨c, hc, htrimmed⟩ := h
  rw [visible, rdropWhile_append ⟨c, List.mem_cons_of_mem _ hc, htrimmed⟩,
    rdropWhile_cons (by decide), kept, List.filter_append, List.filter_cons_of_pos (by decide)]
  rfl

theorem decode_middle_iff :
    decode ((visible (value ++ '&' :: rest)).takeWhile (· ≠ '&')) = String.ofList value
      ↔ Plain value := by
  have hcut : (visible (value ++ '&' :: rest)).takeWhile (· ≠ '&')
      = ((kept value).takeWhile (· ≠ '#')).takeWhile (· ≠ '&') := by
    rw [visible_append_amp h]
    by_cases hhash : '#' ∈ kept value
    · obtain ⟨xs, ys, hxs, hnot⟩ := List.eq_append_cons_of_mem hhash
      rw [hxs, takeWhile_ne_append hnot, List.append_assoc, List.cons_append,
        takeWhile_ne_append hnot]
    · rw [List.takeWhile_append_of_pos (forall_ne_of_not_mem hhash), takeWhile_ne_self hhash,
        List.takeWhile_cons_of_pos (by decide)]
      by_cases hamp : '&' ∈ kept value
      · obtain ⟨xs, ys, hxs, hnot⟩ := List.eq_append_cons_of_mem hamp
        rw [hxs, takeWhile_ne_append hnot, List.append_assoc, List.cons_append,
          takeWhile_ne_append hnot]
      · rw [takeWhile_ne_append hamp, takeWhile_ne_self hamp]
  rw [hcut, decode_left_iff (kept_sublist value)]
  constructor
  · rintro ⟨hkept, hhash, hamp, hliteral⟩
    exact ⟨hliteral, hamp, hhash, kept_eq_self_iff.mp hkept⟩
  · intro hplain
    exact ⟨kept_eq_self_iff.mpr hplain.kept, hplain.hash, hplain.amp, hplain.literal⟩

theorem drop_middle (hplain : Plain value) :
    ((visible (value ++ '&' :: rest)).dropWhile (· ≠ '&')).drop 1 = visible rest := by
  rw [visible_append_amp h, kept_eq_self_iff.mpr hplain.kept,
    List.takeWhile_append_of_pos (forall_ne_of_not_mem hplain.hash),
    List.takeWhile_cons_of_pos (by decide), dropWhile_ne_append hplain.amp]
  rfl

end Middle

/-! ## Parameters -/

/-- The parameters as they are, joined. -/
def joined (ps : List (List Char × List Char)) : List Char :=
  ['&'].intercalate (ps.map fun p => p.1 ++ '=' :: p.2)

def texts (ps : List (List Char × List Char)) : List (String × String) :=
  ps.map fun p => (String.ofList p.1, String.ofList p.2)

/-- Parameters are read as they were meant exactly if their values are
plain and the last one ends in something visible. -/
theorem parse_sent_iff (lib : UrlLibrary) : ∀ {ps : List (List Char × List Char)},
    (∀ p ∈ ps, IsName p.1) →
      (parse (lib.sent (joined ps)) = texts ps
        ↔ (∀ p ∈ ps, Plain p.2) ∧ ∀ p ∈ ps.getLast?, EndsVisible p.2) := by
  intro ps
  induction ps with
  | nil => exact fun _ => iff_of_true rfl ⟨by simp, by simp⟩
  | cons p ps ih =>
      intro hnames
      obtain ⟨name, value⟩ := p
      have hname : IsName name := hnames _ List.mem_cons_self
      cases ps with
      | nil =>
          have hjoined : joined [(name, value)] = name ++ '=' :: value := by
            simp [joined]
          rw [hjoined, UrlLibrary.sent, hname.visible_append, hname.parse_encoded]
          constructor
          · intro h
            have hvalue := congrArg Prod.snd (List.cons.inj h).1
            obtain ⟨hplain, hends⟩ := (decode_last_iff value).mp hvalue
            exact ⟨by simpa using hplain, by simpa using hends⟩
          · rintro ⟨hplain, hends⟩
            have hplain' : Plain value := hplain _ List.mem_cons_self
            have hends' : EndsVisible value := hends (name, value) rfl
            have hvisible : visible value = value := by
              rw [visible, rdropWhile_eq_self_iff.mpr hends', kept_eq_self_iff.mpr hplain'.kept,
                takeWhile_ne_self hplain'.hash]
            rw [(decode_last_iff value).mpr ⟨hplain', hends'⟩, hvisible,
              dropWhile_ne_self hplain'.amp]
            rfl
      | cons q qs =>
          have hjoined : joined ((name, value) :: q :: qs)
              = name ++ '=' :: (value ++ '&' :: joined (q :: qs)) := by
            simp [joined, List.intercalate]
          have hvisible : ∃ c ∈ joined (q :: qs), trimmed c = false := by
            refine ⟨'=', ?_, by decide⟩
            cases qs <;> simp [joined, List.intercalate]
          have ih' := ih fun p hp => hnames p (List.mem_cons_of_mem _ hp)
          have htexts : texts ((name, value) :: q :: qs)
              = (String.ofList name, String.ofList value) :: texts (q :: qs) := rfl
          rw [hjoined, UrlLibrary.sent, hname.visible_append, hname.parse_encoded, htexts,
            List.cons.injEq, Prod.mk.injEq, and_iff_right rfl, decode_middle_iff hvisible,
            List.forall_mem_cons, List.getLast?_cons_cons, and_assoc]
          refine and_congr_right fun hplain => ?_
          rw [drop_middle hvisible hplain]
          exact ih'

/-! ## Letters and digits -/

section Names

variable {value : List Char} (h : IsName value)
include h

theorem IsName.plain : Plain value where
  literal := h.literal
  amp := h.not_mem (by decide)
  hash := h.not_mem (by decide)
  kept := by
    intro c hc
    simp [removed, h.ne hc (d := '\t') (by decide), h.ne hc (d := '\n') (by decide),
      h.ne hc (d := '\r') (by decide)]

theorem IsName.endsVisible : EndsVisible value := by
  intro c hc
  have halnum := isAlphanum_iff.mp (h c (List.mem_of_getLast? hc))
  exact decide_eq_false (by omega)

end Names

/-- Names and values of letters and digits arrive as they are. -/
theorem parse_sent_of_isName (lib : UrlLibrary) {ps : List (List Char × List Char)}
    (hnames : ∀ p ∈ ps, IsName p.1) (hvalues : ∀ p ∈ ps, IsName p.2) :
    parse (lib.sent (joined ps)) = texts ps :=
  (parse_sent_iff lib hnames).mpr ⟨fun p hp => (hvalues p hp).plain,
    fun p hp => (hvalues p (List.mem_of_getLast? hp)).endsVisible⟩

end RawQuery
