import Slipstream.Radix
import Slipstream.Utf8

/-!
# JSON texts

A JSON value and the text a serializer makes of it: no blanks, the
fields in their order, and in a string an escape for the quote, the
backslash and the control characters. A number is a natural number, or
else a `Real`, of which only the text is kept.

The reader takes such texts back apart, and no others: a value has more
texts than the one that is written here, with blanks and other escapes,
so a client that reads the texts of a server has a `Reader` for a
parameter. What the one below must not mistake is the end of a string and
the end of a number: a quote inside a string is escaped, and behind a
number stands a bracket, a comma or nothing (`Delimited`). `parse_render`
is the round trip, by mutual induction over a value, its items and its
fields.
-/

namespace JsonText

/-! ## Numbers -/

def decimal : Radix.Alphabet 10 where
  chars := "0123456789".toList
  length_eq := by decide
  nodup := by decide

def isDecimal (c : Char) : Bool := decide (c ∈ decimal.chars)

/-- A character of a number. -/
def isNumeric (c : Char) : Bool := isDecimal c || decide (c ∈ ['-', '+', '.', 'e', 'E'])

/-- The decimal digits of a number, `[0]` for zero. -/
def digits (n : Nat) : List Nat := if n = 0 then [0] else Radix.numeral 10 n

def renderNat (n : Nat) : List Char := (digits n).map decimal.char

/-- No empty numerals, and no zeros in front of another digit. -/
def readNat (cs : List Char) : Option Nat := do
  let ds ← cs.mapM decimal.digit
  if ds = [] ∨ (ds.head? = some 0 ∧ ds ≠ [0]) then none
  else pure (Radix.number 10 ds)

/-- Behind one digit or more. -/
def skipDigits (cs : List Char) : Option (List Char) :=
  if cs.takeWhile isDecimal = [] then none else some (cs.dropWhile isDecimal)

def skipInteger : List Char → Option (List Char)
  | '0' :: rest => some rest
  | cs => skipDigits cs

def skipFraction : List Char → Option (List Char)
  | '.' :: rest => skipDigits rest
  | cs => some cs

def skipExponent : List Char → Option (List Char)
  | 'e' :: '-' :: rest => skipDigits rest
  | 'e' :: '+' :: rest => skipDigits rest
  | 'e' :: rest => skipDigits rest
  | 'E' :: '-' :: rest => skipDigits rest
  | 'E' :: '+' :: rest => skipDigits rest
  | 'E' :: rest => skipDigits rest
  | cs => some cs

def isNumber (cs : List Char) : Bool :=
  let unsigned := if cs.head? = some '-' then cs.tail else cs
  (((skipInteger unsigned).bind skipFraction).bind skipExponent) = some []

/-- A number with a sign, a fraction or an exponent. -/
structure Real where
  text : List Char
  numeric : text.all isNumeric = true
  isNumber : isNumber text = true
  notNat : text.all isDecimal = false

inductive Value where
  | null
  | bool (b : Bool)
  | num (n : Nat)
  | real (x : Real)
  | str (s : String)
  | arr (items : List Value)
  | obj (fields : List (String × Value))

namespace Value

def get? (name : String) : Value → Option Value
  | .obj fields => fields.lookup name
  | _ => none

def str? : Value → Option String
  | .str s => some s
  | _ => none

def num? : Value → Option Nat
  | .num n => some n
  | _ => none

def items? : Value → Option (List Value)
  | .arr items => some items
  | _ => none

end Value

/-- A number at the start of a text, as long as it gets. -/
def readNumber (cs : List Char) : Option (Value × List Char) :=
  let token := cs.takeWhile isNumeric
  let rest := cs.dropWhile isNumeric
  if token.all isDecimal = true then (readNat token).map fun n => (.num n, rest)
  else if h : token.all isNumeric = true ∧ isNumber token = true ∧ token.all isDecimal = false then
    some (.real ⟨token, h.1, h.2.1, h.2.2⟩, rest)
  else none

/-- Where a number may end. -/
def Delimited (rest : List Char) : Prop := ∀ c ∈ rest.head?, isNumeric c = false

theorem mem_digits_lt {n d : Nat} (h : d ∈ digits n) : d < 10 := by
  unfold digits at h
  by_cases hn : n = 0
  · rw [if_pos hn, List.mem_singleton] at h
    omega
  · rw [if_neg hn] at h
    exact Radix.mem_numeral_lt (by decide) h

theorem number_digits (n : Nat) : Radix.number 10 (digits n) = n := by
  unfold digits
  by_cases hn : n = 0
  · rw [if_pos hn, hn]
    rfl
  · rw [if_neg hn, Radix.number_numeral]

theorem digits_ne_nil (n : Nat) : digits n ≠ [] := by
  unfold digits
  by_cases hn : n = 0
  · rw [if_pos hn]
    exact List.cons_ne_nil _ _
  · rw [if_neg hn]
    intro hnil
    have hnumber := Radix.number_numeral 10 n
    rw [hnil] at hnumber
    exact hn hnumber.symm

/-- No digits behind a zero in front. -/
theorem digits_of_head {n : Nat} (h : (digits n).head? = some 0) : digits n = [0] := by
  unfold digits at h ⊢
  by_cases hn : n = 0
  · rw [if_pos hn]
  · rw [if_neg hn] at h
    have hzeros := Radix.zeros_numeral 10 n
    cases hds : Radix.numeral 10 n with
    | nil => simp [hds] at h
    | cons d ds =>
        rw [hds] at h hzeros
        obtain rfl : d = 0 := Option.some.inj h
        simp [Radix.zeros] at hzeros

theorem isDecimal_of_mem_renderNat {n : Nat} {c : Char} (h : c ∈ renderNat n) :
    isDecimal c = true := by
  obtain ⟨d, hd, rfl⟩ := List.mem_map.mp h
  exact decide_eq_true (decimal.char_mem (mem_digits_lt hd))

theorem readNat_render (n : Nat) : readNat (renderNat n) = some n := by
  have hread : (renderNat n).mapM decimal.digit = some (digits n) :=
    decimal.mapM_digit_map_char fun d hd => mem_digits_lt hd
  have hwell : ¬ (digits n = [] ∨ ((digits n).head? = some 0 ∧ digits n ≠ [0])) := by
    rintro (hnil | ⟨hhead, hne⟩)
    · exact digits_ne_nil n hnil
    · exact hne (digits_of_head hhead)
  unfold readNat
  rw [hread]
  show (if _ then none else some (Radix.number 10 (digits n))) = some n
  rw [if_neg hwell, number_digits]

theorem skipInteger_renderNat (n : Nat) : skipInteger (renderNat n) = some [] := by
  obtain ⟨d, ds, hds⟩ := List.exists_cons_of_ne_nil (digits_ne_nil n)
  by_cases hd : d = 0
  · subst hd
    have hzero : digits n = [0] := digits_of_head (by rw [hds]; rfl)
    rw [renderNat, hzero]
    rfl
  · have hdecimal : ∀ c ∈ renderNat n, isDecimal c = true := fun c hc =>
      isDecimal_of_mem_renderNat hc
    have hne : decimal.char d ≠ '0' := by
      intro h
      have hlt : d < 10 := mem_digits_lt (n := n) (by rw [hds]; exact List.mem_cons_self)
      exact hd (Option.some.inj ((decimal.digit_char hlt).symm.trans (congrArg decimal.digit h)))
    have hskip : skipInteger (renderNat n) = skipDigits (renderNat n) := by
      rw [renderNat, hds, List.map_cons]
      unfold skipInteger
      split
      · rename_i heq
        exact absurd (List.cons.inj heq).1 hne
      · rfl
    rw [hskip, skipDigits, List.takeWhile_eq_self_iff.mpr hdecimal,
      List.dropWhile_eq_nil_iff.mpr hdecimal, if_neg]
    rw [renderNat, hds]
    exact List.cons_ne_nil _ _

theorem isNumber_neg_renderNat (n : Nat) : isNumber ('-' :: renderNat n) = true := by
  have hskip := skipInteger_renderNat n
  show decide (((skipInteger (renderNat n)).bind skipFraction).bind skipExponent = some []) = true
  rw [hskip]
  rfl

/-- A token is taken off a text whole. -/
theorem token_append {token rest : List Char} (htoken : ∀ c ∈ token, isNumeric c = true)
    (hrest : Delimited rest) :
    (token ++ rest).takeWhile isNumeric = token ∧ (token ++ rest).dropWhile isNumeric = rest := by
  have hstop : rest.takeWhile isNumeric = [] ∧ rest.dropWhile isNumeric = rest := by
    cases rest with
    | nil => exact ⟨rfl, rfl⟩
    | cons c rest =>
        have hc : isNumeric c = false := hrest c rfl
        exact ⟨List.takeWhile_cons_of_neg (by simp [hc]), List.dropWhile_cons_of_neg (by simp [hc])⟩
  constructor
  · rw [List.takeWhile_append_of_pos htoken, hstop.1, List.append_nil]
  · rw [List.dropWhile_append_of_pos htoken, hstop.2]

theorem readNumber_renderNat (n : Nat) {rest : List Char} (h : Delimited rest) :
    readNumber (renderNat n ++ rest) = some (.num n, rest) := by
  have hdecimal : (renderNat n).all isDecimal = true :=
    List.all_eq_true.mpr fun c hc => isDecimal_of_mem_renderNat hc
  have hnumeric : ∀ c ∈ renderNat n, isNumeric c = true := fun c hc => by
    rw [isNumeric, isDecimal_of_mem_renderNat hc, Bool.true_or]
  obtain ⟨htoken, hrest⟩ := token_append hnumeric h
  unfold readNumber
  simp only [htoken, hrest]
  rw [if_pos hdecimal, readNat_render]
  rfl

theorem readNumber_text (x : Real) {rest : List Char} (h : Delimited rest) :
    readNumber (x.text ++ rest) = some (.real x, rest) := by
  obtain ⟨htoken, hrest⟩ := token_append (List.all_eq_true.mp x.numeric) h
  have hnotNat : ¬ x.text.all isDecimal = true := by
    rw [x.notNat]
    exact Bool.false_ne_true
  unfold readNumber
  simp only [htoken, hrest]
  rw [if_neg hnotNat, dif_pos ⟨x.numeric, x.isNumber, x.notNat⟩]

/-! ## Strings -/

/-- The characters with an escape of two characters, and its second one. -/
def shortEscapes : List (Char × Char) :=
  [('"', '"'), ('\\', '\\'), ('\x08', 'b'), ('\x0c', 'f'), ('\n', 'n'), ('\r', 'r'), ('\t', 't')]

def unescape (e : Char) : Option Char := (shortEscapes.map Prod.swap).lookup e

def hexadecimal : Radix.Alphabet 16 where
  chars := "0123456789abcdef".toList
  length_eq := by decide
  nodup := by decide

/-- The other control characters, as `\u00` and two digits. -/
def unicodeEscape (n : Nat) : List Char :=
  ['\\', 'u', '0', '0', hexadecimal.char (n / 16), hexadecimal.char (n % 16)]

def escape (c : Char) : List Char :=
  match shortEscapes.lookup c with
  | some e => ['\\', e]
  | none => if c.toNat < 32 then unicodeEscape c.toNat else [c]

def quote (s : String) : List Char := '"' :: (s.toList.flatMap escape ++ ['"'])

/-- The character with the four digits, if there is one. -/
def unicode (w x y z : Char) : Option Char := do
  let ds ← [w, x, y, z].mapM hexadecimal.digit
  let n := Radix.number 16 ds
  if n.isValidChar then pure (Char.ofNat n) else none

def push (c : Option Char) (more : Option (List Char × List Char)) :
    Option (List Char × List Char) :=
  c.bind fun c => more.map fun m => (c :: m.1, m.2)

/-- A string behind its quote, and the text behind it. -/
def readChars : List Char → Option (List Char × List Char)
  | [] => none
  | '"' :: rest => some ([], rest)
  | '\\' :: 'u' :: w :: x :: y :: z :: rest => push (unicode w x y z) (readChars rest)
  | '\\' :: e :: rest => push (unescape e) (readChars rest)
  | c :: rest => if c.toNat < 32 ∨ c = '\\' then none else push (some c) (readChars rest)

theorem unescape_of_lookup {c e : Char} (h : shortEscapes.lookup c = some e) :
    unescape e = some c ∧ e ≠ 'u' := by
  obtain ⟨before, behind, htable, -⟩ := List.lookup_eq_some_iff.mp h
  have hmem : (c, e) ∈ shortEscapes := by simp [htable]
  have hall : shortEscapes.all (fun p => decide (unescape p.2 = some p.1 ∧ p.2 ≠ 'u')) = true := by
    decide
  exact of_decide_eq_true (List.all_eq_true.mp hall (c, e) hmem)

theorem plain_of_lookup {c : Char} (h : shortEscapes.lookup c = none) : c ≠ '"' ∧ c ≠ '\\' := by
  constructor
  · rintro rfl
    cases h
  · rintro rfl
    cases h

theorem unicode_unicodeEscape {c : Char} (h : c.toNat < 32) :
    unicode '0' '0' (hexadecimal.char (c.toNat / 16)) (hexadecimal.char (c.toNat % 16))
      = some c := by
  have hzero : hexadecimal.digit '0' = some 0 := by decide
  have hnumber : Radix.number 16 [0, 0, c.toNat / 16, c.toNat % 16] = c.toNat := by
    simp only [Radix.number, List.reverse_cons, List.reverse_nil, List.nil_append, List.cons_append,
      Nat.ofDigits_cons, Nat.ofDigits_nil]
    omega
  unfold unicode
  simp only [List.mapM_cons, List.mapM_nil, hzero,
    hexadecimal.digit_char (show c.toNat / 16 < 16 by omega),
    hexadecimal.digit_char (show c.toNat % 16 < 16 by omega), Option.pure_def, Option.bind_eq_bind,
    Option.bind_some, hnumber]
  rw [if_pos (by exact c.valid), Char.ofNat_toNat]

/-- A character is read back, whatever follows its escape. -/
theorem readChars_escape (c : Char) (rest : List Char) :
    readChars (escape c ++ rest) = push (some c) (readChars rest) := by
  unfold escape
  cases hlookup : shortEscapes.lookup c with
  | some e =>
      obtain ⟨hunescape, hne⟩ := unescape_of_lookup hlookup
      show readChars ('\\' :: e :: rest) = _
      rw [readChars, hunescape]
      rintro w x y z rest' rfl -
      exact hne rfl
  | none =>
      obtain ⟨hquote, hbackslash⟩ := plain_of_lookup hlookup
      by_cases hcontrol : c.toNat < 32
      · simp only [if_pos hcontrol]
        show readChars ('\\' :: 'u' :: '0' :: '0' :: hexadecimal.char (c.toNat / 16)
          :: hexadecimal.char (c.toNat % 16) :: rest) = _
        rw [readChars, unicode_unicodeEscape hcontrol]
      · simp only [if_neg hcontrol]
        show readChars (c :: rest) = _
        rw [readChars, if_neg (by simp [hcontrol, hbackslash])]
        · exact hquote
        · intro w x y z rest' h
          exact absurd h hbackslash
        · intro e rest' h
          exact absurd h hbackslash

theorem readChars_flatMap_escape (cs rest : List Char) :
    readChars (cs.flatMap escape ++ '"' :: rest) = some (cs, rest) := by
  induction cs with
  | nil => rfl
  | cons c cs ih =>
      rw [List.flatMap_cons, List.append_assoc, readChars_escape, ih]
      rfl

theorem readChars_quote (s : String) (rest : List Char) :
    readChars ((quote s).tail ++ rest) = some (s.toList, rest) := by
  show readChars (s.toList.flatMap escape ++ ['"'] ++ rest) = _
  rw [List.append_assoc]
  exact readChars_flatMap_escape s.toList rest

/-! ## Values -/

mutual

def render : Value → List Char
  | .null => "null".toList
  | .bool true => "true".toList
  | .bool false => "false".toList
  | .num n => renderNat n
  | .real x => x.text
  | .str s => quote s
  | .arr [] => ['[', ']']
  | .arr (v :: items) => '[' :: (render v ++ renderItems items)
  | .obj [] => ['{', '}']
  | .obj ((name, v) :: fields) =>
      '{' :: (quote name ++ ':' :: (render v ++ renderFields fields))

/-- The items behind the first one, with the bracket. -/
def renderItems : List Value → List Char
  | [] => [']']
  | v :: items => ',' :: (render v ++ renderItems items)

def renderFields : List (String × Value) → List Char
  | [] => ['}']
  | (name, v) :: fields => ',' :: (quote name ++ ':' :: (render v ++ renderFields fields))

end

mutual

/-- A value at the start of a text, and the text behind it. -/
def readValue : Nat → List Char → Option (Value × List Char)
  | 0, _ => none
  | fuel + 1, cs =>
      match cs with
      | 'n' :: 'u' :: 'l' :: 'l' :: rest => some (.null, rest)
      | 't' :: 'r' :: 'u' :: 'e' :: rest => some (.bool true, rest)
      | 'f' :: 'a' :: 'l' :: 's' :: 'e' :: rest => some (.bool false, rest)
      | '"' :: rest => (readChars rest).map fun m => (.str (String.ofList m.1), m.2)
      | '[' :: ']' :: rest => some (.arr [], rest)
      | '[' :: rest => do
          let (v, rest) ← readValue fuel rest
          let (items, rest) ← readItems fuel rest
          pure (.arr (v :: items), rest)
      | '{' :: '}' :: rest => some (.obj [], rest)
      | '{' :: rest => do
          let (field, rest) ← readField fuel rest
          let (fields, rest) ← readFields fuel rest
          pure (.obj (field :: fields), rest)
      | cs => readNumber cs

def readField : Nat → List Char → Option ((String × Value) × List Char)
  | fuel + 1, '"' :: rest => do
      let (name, rest) ← readChars rest
      match rest with
      | ':' :: rest =>
          let (v, rest) ← readValue fuel rest
          pure ((String.ofList name, v), rest)
      | _ => none
  | _, _ => none

def readItems : Nat → List Char → Option (List Value × List Char)
  | _ + 1, ']' :: rest => some ([], rest)
  | fuel + 1, ',' :: rest => do
      let (v, rest) ← readValue fuel rest
      let (items, rest) ← readItems fuel rest
      pure (v :: items, rest)
  | _, _ => none

def readFields : Nat → List Char → Option (List (String × Value) × List Char)
  | _ + 1, '}' :: rest => some ([], rest)
  | fuel + 1, ',' :: rest => do
      let (field, rest) ← readField fuel rest
      let (fields, rest) ← readFields fuel rest
      pure (field :: fields, rest)
  | _, _ => none

end

/-- A text that is written for one value; no value is deeper than its text is
long. -/
def parse (cs : List Char) : Option Value :=
  match readValue cs.length cs with
  | some (v, []) => some v
  | _ => none

/-! ## The round trip -/

theorem readValue_of_isNumeric (fuel : Nat) {c : Char} {cs : List Char}
    (h : isNumeric c = true) : readValue (fuel + 1) (c :: cs) = readNumber (c :: cs) := by
  have hne : ∀ x, isNumeric x = false → c ≠ x := by
    rintro x hx rfl
    rw [hx] at h
    cases h
  rw [readValue]
  · intro rest heq
    exact hne 'n' rfl (List.cons.inj heq).1
  · intro rest heq
    exact hne 't' rfl (List.cons.inj heq).1
  · intro rest heq
    exact hne 'f' rfl (List.cons.inj heq).1
  · intro rest heq
    exact hne '"' rfl (List.cons.inj heq).1
  · intro rest heq
    exact hne '[' rfl (List.cons.inj heq).1
  · intro rest heq
    exact hne '[' rfl (List.cons.inj heq).1
  · intro rest heq
    exact hne '{' rfl (List.cons.inj heq).1
  · intro rest heq
    exact hne '{' rfl (List.cons.inj heq).1

theorem exists_renderNat (n : Nat) : ∃ c cs, renderNat n = c :: cs ∧ isNumeric c = true := by
  cases hrender : renderNat n with
  | nil => exact absurd (List.map_eq_nil_iff.mp hrender) (digits_ne_nil n)
  | cons c cs =>
      have hmem : c ∈ renderNat n := by
        rw [hrender]
        exact List.mem_cons_self
      exact ⟨c, cs, rfl, by rw [isNumeric, isDecimal_of_mem_renderNat hmem, Bool.true_or]⟩

theorem exists_text (x : Real) : ∃ c cs, x.text = c :: cs ∧ isNumeric c = true := by
  obtain ⟨text, numeric, isNumber, notNat⟩ := x
  cases text with
  | nil => cases isNumber
  | cons c cs => exact ⟨c, cs, rfl, List.all_eq_true.mp numeric c List.mem_cons_self⟩

theorem readValue_renderNat (fuel n : Nat) {rest : List Char} (h : Delimited rest) :
    readValue (fuel + 1) (renderNat n ++ rest) = some (.num n, rest) := by
  obtain ⟨c, cs, hrender, hc⟩ := exists_renderNat n
  have hread := readNumber_renderNat n h
  rw [hrender, List.cons_append] at hread ⊢
  rw [readValue_of_isNumeric fuel hc, hread]

theorem readValue_text (fuel : Nat) (x : Real) {rest : List Char} (h : Delimited rest) :
    readValue (fuel + 1) (x.text ++ rest) = some (.real x, rest) := by
  obtain ⟨c, cs, htext, hc⟩ := exists_text x
  have hread := readNumber_text x h
  rw [htext, List.cons_append] at hread ⊢
  rw [readValue_of_isNumeric fuel hc, hread]

/-- No value begins with a closing bracket. -/
theorem exists_render (v : Value) : ∃ c cs, render v = c :: cs ∧ c ≠ ']' := by
  cases v with
  | null => exact ⟨_, _, rfl, by decide⟩
  | bool b => cases b <;> exact ⟨_, _, rfl, by decide⟩
  | num n =>
      obtain ⟨c, cs, hrender, hc⟩ := exists_renderNat n
      refine ⟨c, cs, hrender, ?_⟩
      rintro rfl
      cases hc
  | real x =>
      obtain ⟨c, cs, htext, hc⟩ := exists_text x
      refine ⟨c, cs, htext, ?_⟩
      rintro rfl
      cases hc
  | str s => exact ⟨_, _, rfl, by decide⟩
  | arr items =>
      cases items with
      | nil => exact ⟨_, _, rfl, by decide⟩
      | cons v items => exact ⟨_, _, rfl, by decide⟩
  | obj fields =>
      cases fields with
      | nil => exact ⟨_, _, rfl, by decide⟩
      | cons field fields => exact ⟨_, _, rfl, by decide⟩

theorem delimited_renderItems (items : List Value) (rest : List Char) :
    Delimited (renderItems items ++ rest) := by
  cases items with
  | nil => rintro c ⟨⟩; rfl
  | cons v items => rintro c ⟨⟩; rfl

theorem delimited_renderFields (fields : List (String × Value)) (rest : List Char) :
    Delimited (renderFields fields ++ rest) := by
  cases fields with
  | nil => rintro c ⟨⟩; rfl
  | cons field fields => rintro c ⟨⟩; rfl

theorem readValue_arr {fuel : Nat} {v : Value} {items : List Value} {rest : List Char}
    (hv : readValue fuel (render v ++ (renderItems items ++ rest))
      = some (v, renderItems items ++ rest))
    (hitems : readItems fuel (renderItems items ++ rest) = some (items, rest)) :
    readValue (fuel + 1) (render (.arr (v :: items)) ++ rest) = some (.arr (v :: items), rest) := by
  obtain ⟨c, cs, hrender, hc⟩ := exists_render v
  have hopen : readValue (fuel + 1) ('[' :: (render v ++ (renderItems items ++ rest)))
      = (readValue fuel (render v ++ (renderItems items ++ rest))).bind fun m =>
          (readItems fuel m.2).map fun m' => (.arr (m.1 :: m'.1), m'.2) := by
    rw [hrender, List.cons_append, readValue]
    · cases readValue fuel (c :: (cs ++ (renderItems items ++ rest))) with
      | none => rfl
      | some m => simp [Option.map_eq_bind]
    · intro rest' heq
      exact hc (List.cons.inj heq).1
  rw [render, List.cons_append, List.append_assoc, hopen, hv]
  show (readItems fuel (renderItems items ++ rest)).map _ = _
  rw [hitems]
  rfl

theorem readField_render {fuel : Nat} (name : String) {v : Value} {rest : List Char}
    (hv : readValue fuel (render v ++ rest) = some (v, rest)) :
    readField (fuel + 1) (quote name ++ ':' :: (render v ++ rest)) = some ((name, v), rest) := by
  have hname := readChars_quote name (':' :: (render v ++ rest))
  show readField (fuel + 1) ('"' :: ((quote name).tail ++ ':' :: (render v ++ rest))) = _
  rw [readField, hname]
  show (do
    let (v, rest) ← readValue fuel (render v ++ rest)
    pure ((String.ofList name.toList, v), rest)) = _
  rw [hv, String.ofList_toList]
  rfl

theorem exists_fuel (v : Value) {fuel : Nat} (h : (render v).length ≤ fuel) :
    ∃ k, fuel = k + 1 := by
  obtain ⟨c, cs, hrender, -⟩ := exists_render v
  rw [hrender, List.length_cons] at h
  exact ⟨fuel - 1, by omega⟩

mutual

theorem readValue_render : ∀ (v : Value) (fuel : Nat) (rest : List Char),
    (render v).length ≤ fuel → Delimited rest → readValue fuel (render v ++ rest) = some (v, rest)
  | .null, fuel, rest, hfuel, _ => by
      obtain ⟨fuel, rfl⟩ := exists_fuel _ hfuel
      rfl
  | .bool true, fuel, rest, hfuel, _ => by
      obtain ⟨fuel, rfl⟩ := exists_fuel _ hfuel
      rfl
  | .bool false, fuel, rest, hfuel, _ => by
      obtain ⟨fuel, rfl⟩ := exists_fuel _ hfuel
      rfl
  | .num n, fuel, rest, hfuel, hrest => by
      obtain ⟨fuel, rfl⟩ := exists_fuel _ hfuel
      exact readValue_renderNat fuel n hrest
  | .real x, fuel, rest, hfuel, hrest => by
      obtain ⟨fuel, rfl⟩ := exists_fuel _ hfuel
      exact readValue_text fuel x hrest
  | .str s, fuel, rest, hfuel, _ => by
      obtain ⟨fuel, rfl⟩ := exists_fuel _ hfuel
      have hs := readChars_quote s rest
      show (readChars ((quote s).tail ++ rest)).map _ = _
      rw [hs, Option.map_some, String.ofList_toList]
  | .arr [], fuel, rest, hfuel, _ => by
      obtain ⟨fuel, rfl⟩ := exists_fuel _ hfuel
      rfl
  | .arr (v :: items), fuel, rest, hfuel, _ => by
      obtain ⟨fuel, rfl⟩ := exists_fuel _ hfuel
      simp only [render, List.length_cons, List.length_append] at hfuel
      exact readValue_arr (readValue_render v fuel _ (by omega) (delimited_renderItems items rest))
        (readItems_render items fuel _ (by omega))
  | .obj [], fuel, rest, hfuel, _ => by
      obtain ⟨fuel, rfl⟩ := exists_fuel _ hfuel
      rfl
  | .obj ((name, v) :: fields), fuel, rest, hfuel, _ => by
      obtain ⟨fuel, rfl⟩ := exists_fuel _ hfuel
      simp only [render, List.length_cons, List.length_append] at hfuel
      obtain ⟨fuel, rfl⟩ : ∃ k, fuel = k + 1 := ⟨fuel - 1, by omega⟩
      have hv := readValue_render v fuel _ (by omega) (delimited_renderFields fields rest)
      have hfield := readField_render name hv
      have hfields := readFields_render fields (fuel + 1) rest (by omega)
      simp only [render, List.cons_append, List.append_assoc]
      show (do
        let (field, rest) ←
          readField (fuel + 1) (quote name ++ ':' :: (render v ++ (renderFields fields ++ rest)))
        let (fields, rest) ← readFields (fuel + 1) rest
        pure (Value.obj (field :: fields), rest)) = _
      rw [hfield]
      show (do
        let (fields, rest) ← readFields (fuel + 1) (renderFields fields ++ rest)
        pure (Value.obj ((name, v) :: fields), rest)) = _
      rw [hfields]
      rfl

theorem readItems_render : ∀ (items : List Value) (fuel : Nat) (rest : List Char),
    (renderItems items).length ≤ fuel →
      readItems fuel (renderItems items ++ rest) = some (items, rest)
  | [], fuel, rest, hfuel => by
      obtain ⟨fuel, rfl⟩ : ∃ k, fuel = k + 1 := ⟨fuel - 1, by simp [renderItems] at hfuel; omega⟩
      rfl
  | v :: items, fuel, rest, hfuel => by
      simp only [renderItems, List.length_cons, List.length_append] at hfuel
      obtain ⟨fuel, rfl⟩ : ∃ k, fuel = k + 1 := ⟨fuel - 1, by omega⟩
      have hv := readValue_render v fuel _ (by omega) (delimited_renderItems items rest)
      have hitems := readItems_render items fuel rest (by omega)
      simp only [renderItems, List.cons_append, List.append_assoc]
      rw [readItems, hv]
      show (do
        let (items, rest) ← readItems fuel (renderItems items ++ rest)
        pure (v :: items, rest)) = _
      rw [hitems]
      rfl

theorem readFields_render : ∀ (fields : List (String × Value)) (fuel : Nat) (rest : List Char),
    (renderFields fields).length ≤ fuel →
      readFields fuel (renderFields fields ++ rest) = some (fields, rest)
  | [], fuel, rest, hfuel => by
      obtain ⟨fuel, rfl⟩ : ∃ k, fuel = k + 1 := ⟨fuel - 1, by simp [renderFields] at hfuel; omega⟩
      rfl
  | (name, v) :: fields, fuel, rest, hfuel => by
      simp only [renderFields, List.length_cons, List.length_append] at hfuel
      obtain ⟨fuel, rfl⟩ : ∃ k, fuel = k + 2 := ⟨fuel - 2, by omega⟩
      have hv := readValue_render v fuel _ (by omega) (delimited_renderFields fields rest)
      have hfield := readField_render name hv
      have hfields := readFields_render fields (fuel + 1) rest (by omega)
      simp only [renderFields, List.cons_append, List.append_assoc]
      rw [readFields, hfield]
      show (do
        let (fields, rest) ← readFields (fuel + 1) (renderFields fields ++ rest)
        pure ((name, v) :: fields, rest)) = _
      rw [hfields]
      rfl

end

theorem parse_render (v : Value) : parse (render v) = some v := by
  have hread := readValue_render v _ [] (Nat.le_refl _) (by rintro c ⟨⟩)
  rw [List.append_nil] at hread
  unfold parse
  rw [hread]

/-! ## Texts in UTF-8 -/

/-- How a JSON library takes texts to values; a text it does not take is an
error. -/
abbrev Reader := List UInt8 → Option Value

def encode (v : Value) : List UInt8 := Utf8.bytes (String.ofList (render v))

/-- The reader of what `encode` writes. Bytes that are not UTF-8 are no JSON. -/
def decode (bytes : List UInt8) : Option Value :=
  let text := Utf8.fromUtf8Lossy bytes
  if Utf8.bytes text = bytes then parse text.toList else none

theorem decode_encode (v : Value) : decode (encode v) = some v := by
  simp only [decode, encode, Utf8.fromUtf8Lossy_bytes, if_true]
  rw [String.toList_ofList, parse_render]

end JsonText
