import Mathlib.Data.List.Forall2
import Mathlib.Data.List.Perm.Basic
import Slipstream.JsonText

/-!
# Records in JSON

A record is read from the fields of an object: each of its own by its
name, or by one of several names, wherever it stands, and fields with
other names are passed over. A field that is missing is an error unless
it has a default, and one that is there twice is always an error. From
an array a record is read as well, by the places of its fields.

So a reader does not see the order of the fields nor what stands between
them: whatever it makes of the fields of a record, it makes of any
fields that have them `Among` others (`field_among`). Where the object
has gone through a map first, the last field of a name is the one there
is (`values_keepLast`).
-/

namespace Records

open JsonText (Value readNat renderNat)

abbrev Fields := List (String × Value)

/-! ## Values -/

def u64 : Value → Option UInt64
  | .num n => if n < 2 ^ 64 then some (UInt64.ofNat n) else none
  | _ => none

def u32 : Value → Option UInt32
  | .num n => if n < 2 ^ 32 then some (UInt32.ofNat n) else none
  | _ => none

def u16 : Value → Option UInt16
  | .num n => if n < 2 ^ 16 then some (UInt16.ofNat n) else none
  | _ => none

/-- `-0` is not a whole number. -/
def i64 : Value → Option Int64
  | .num n => if n < 2 ^ 63 then some (Int64.ofNat n) else none
  | .real x =>
      match x.text with
      | '-' :: digits =>
          (readNat digits).bind fun n =>
            if 0 < n ∧ n ≤ 2 ^ 63 then some (Int64.ofInt (-n)) else none
      | _ => none
  | _ => none

def string : Value → Option String
  | .str s => some s
  | _ => none

def bool : Value → Option Bool
  | .bool b => some b
  | _ => none

section Readers

variable {α : Type}

def array (read : Value → Option α) : Value → Option (List α)
  | .arr items => items.mapM read
  | _ => none

/-- The fields of a map. -/
def object (read : Fields → Option α) : Value → Option α
  | .obj fields => read fields
  | _ => none

def nullable (read : Value → Option α) : Value → Option (Option α)
  | .null => some none
  | v => (read v).map some

end Readers

def num64 (x : UInt64) : Value := .num x.toNat

def num32 (x : UInt32) : Value := .num x.toNat

def num16 (x : UInt16) : Value := .num x.toNat

/-- The number below zero with these digits. -/
def negative (n : Nat) : JsonText.Real where
  text := '-' :: renderNat n
  numeric := by
    refine List.all_eq_true.mpr fun c hc => ?_
    rcases List.mem_cons.mp hc with rfl | hc
    · rfl
    · rw [JsonText.isNumeric, JsonText.isDecimal_of_mem_renderNat hc, Bool.true_or]
  isNumber := JsonText.isNumber_neg_renderNat n
  notNat := rfl

def numI64 (x : Int64) : Value :=
  if 0 ≤ x.toInt then .num x.toInt.toNat else .real (negative x.toInt.natAbs)

def strings (l : List String) : Value := .arr (l.map .str)

@[simp] theorem u64_num64 (x : UInt64) : u64 (num64 x) = some x := by
  show (if x.toNat < 2 ^ 64 then some (UInt64.ofNat x.toNat) else none) = some x
  rw [if_pos x.toNat_lt, UInt64.ofNat_toNat]

@[simp] theorem u32_num32 (x : UInt32) : u32 (num32 x) = some x := by
  show (if x.toNat < 2 ^ 32 then some (UInt32.ofNat x.toNat) else none) = some x
  rw [if_pos x.toNat_lt, UInt32.ofNat_toNat]

@[simp] theorem u16_num16 (x : UInt16) : u16 (num16 x) = some x := by
  show (if x.toNat < 2 ^ 16 then some (UInt16.ofNat x.toNat) else none) = some x
  rw [if_pos x.toNat_lt, UInt16.ofNat_toNat]

@[simp] theorem i64_numI64 (x : Int64) : i64 (numI64 x) = some x := by
  have hlo := x.le_toInt
  have hhi := x.toInt_lt
  unfold numI64
  by_cases h : 0 ≤ x.toInt
  · rw [if_pos h]
    show (if x.toInt.toNat < 2 ^ 63 then some (Int64.ofNat x.toInt.toNat) else none) = some x
    rw [if_pos (by omega), ← Int64.ofInt_eq_ofNat, Int.toNat_of_nonneg h, Int64.ofInt_toInt]
  · rw [if_neg h]
    show ((readNat (renderNat x.toInt.natAbs)).bind fun n =>
      if 0 < n ∧ n ≤ 2 ^ 63 then some (Int64.ofInt (-n)) else none) = some x
    have hneg : -(x.toInt.natAbs : Int) = x.toInt := by omega
    rw [JsonText.readNat_render, Option.bind_some, if_pos (by omega), hneg, Int64.ofInt_toInt]

@[simp] theorem string_str (s : String) : string (.str s) = some s := rfl

@[simp] theorem bool_bool (b : Bool) : bool (.bool b) = some b := rfl

section Readers

variable {α : Type} {read : Value → Option α}

/-- The items of an array, one by one. -/
theorem array_forall₂ {items : List α} {vs : List Value}
    (h : List.Forall₂ (fun a v => read v = some a) items vs) :
    array read (.arr vs) = some items := by
  show vs.mapM read = some items
  induction h with
  | nil => rfl
  | cons hv _ ih =>
    rw [List.mapM_cons, hv, ih]
    rfl

theorem array_map {write : α → Value} {items : List α}
    (h : ∀ a ∈ items, read (write a) = some a) :
    array read (.arr (items.map write)) = some items := by
  apply array_forall₂
  rw [List.forall₂_map_right_iff, List.forall₂_same]
  exact h

@[simp] theorem array_strings (l : List String) : array string (strings l) = some l :=
  array_map fun _ _ => rfl

end Readers

/-! ## Fields -/

/-- What stands under one of the names. -/
def values (names : List String) (fields : Fields) : List Value :=
  (fields.filter fun f => decide (f.1 ∈ names)).map Prod.snd

section Field

variable {α : Type}

/-- The one value of a field; `missing` is the default, if there is one. -/
def pick (missing : Option α) (read : Value → Option α) : List Value → Option α
  | [] => missing
  | [v] => read v
  | _ :: _ :: _ => none

def field (names : List String) (missing : Option α) (read : Value → Option α)
    (fields : Fields) : Option α :=
  pick missing read (values names fields)

def required (name : String) (read : Value → Option α) : Fields → Option α :=
  field [name] none read

def defaulted (names : List String) (default : α) (read : Value → Option α) : Fields → Option α :=
  field names (some default) read

def orNull (name : String) (read : Value → Option α) : Fields → Option (Option α) :=
  field [name] (some none) (nullable read)

end Field

/-! ## Records -/

/-- The names of the fields in the order they are declared in; `true` for
one that has a default where it is missing. -/
abbrev Layout := List (String × Bool)

def needed (names : List String) : Layout := names.map fun name => (name, false)

def spared (names : List String) : Layout := names.map fun name => (name, true)

/-- Items by their places. Only fields with a default may be missing, at
the end. -/
def inOrder (layout : Layout) (items : List Value) : Option Fields :=
  if items.length ≤ layout.length ∧ (layout.drop items.length).all Prod.snd = true then
    some ((layout.map Prod.fst).zip items)
  else none

structure Record (α : Type) where
  layout : Layout
  read : Fields → Option α

namespace Record

variable {α β : Type}

def value (r : Record α) : Value → Option α
  | .obj fields => r.read fields
  | .arr items => (inOrder r.layout items).bind r.read
  | _ => none

def map (f : α → β) (r : Record α) : Record β where
  layout := r.layout
  read fields := (r.read fields).map f

end Record

/-- One of several records, told apart by the field `type`; in an array that
field is the first item. -/
def tagged {α : Type} (variant : String → Option (Record α)) : Value → Option α
  | .obj fields =>
      (required "type" string fields).bind fun tag => (variant tag).bind fun r => r.read fields
  | .arr (.str tag :: items) =>
      (variant tag).bind fun r => (inOrder r.layout items).bind r.read
  | _ => none

theorem fst_layout (names : List String) (spare : Bool) :
    (names.map fun name => (name, spare)).map Prod.fst = names := by
  rw [List.map_map]
  exact List.map_id names

theorem inOrder_needed (names : List String) (items : List Value) :
    inOrder (needed names) items
      = if items.length = names.length then some (names.zip items) else none := by
  have hnames : (needed names).map Prod.fst = names := fst_layout names false
  have hall : ((needed names).drop items.length).all Prod.snd = true ↔
      names.length ≤ items.length := by
    rw [needed, ← List.map_drop, List.all_map, ← List.drop_eq_nil_iff]
    cases names.drop items.length <;> simp
  have hlength : (needed names).length = names.length := List.length_map _
  have hiff : (items.length ≤ (needed names).length ∧
      ((needed names).drop items.length).all Prod.snd = true) ↔ items.length = names.length := by
    rw [hall, hlength]
    omega
  unfold inOrder
  rw [hnames]
  exact if_congr hiff rfl rfl

theorem inOrder_spared (names : List String) (items : List Value) :
    inOrder (spared names) items
      = if items.length ≤ names.length then some (names.zip items) else none := by
  have hnames : (spared names).map Prod.fst = names := fst_layout names true
  have hall : ((spared names).drop items.length).all Prod.snd = true := by
    rw [spared, ← List.map_drop, List.all_map]
    exact List.all_eq_true.mpr fun _ _ => rfl
  have hlength : (spared names).length = names.length := List.length_map _
  unfold inOrder
  rw [hnames, hlength]
  exact if_congr (and_iff_left hall) rfl rfl

theorem tagged_obj {α : Type} {variant : String → Option (Record α)} {fields : Fields}
    {tag : String} (htag : required "type" string fields = some tag) :
    tagged variant (.obj fields) = (variant tag).bind fun r => r.read fields := by
  show (required "type" string fields).bind _ = _
  rw [htag]
  rfl

/-! ## Writing -/

/-- A value that may be missing: as `null`, or not at all. -/
def written (nulls : Bool) : Option Value → List Value
  | some v => [v]
  | none => if nulls then [.null] else []

def writeOption (nulls : Bool) (name : String) (v : Option Value) : Fields :=
  (written nulls v).map fun v => (name, v)

@[simp] theorem values_nil (names : List String) : values names [] = [] := rfl

@[simp] theorem values_cons (names : List String) (name : String) (v : Value) (fields : Fields) :
    values names ((name, v) :: fields) =
      if name ∈ names then v :: values names fields else values names fields := by
  unfold values
  by_cases h : name ∈ names
  · rw [List.filter_cons_of_pos (by simpa using h), if_pos h]
    rfl
  · rw [List.filter_cons_of_neg (by simpa using h), if_neg h]

@[simp] theorem values_append (names : List String) (a b : Fields) :
    values names (a ++ b) = values names a ++ values names b := by
  unfold values
  rw [List.filter_append, List.map_append]

@[simp] theorem values_writeOption (names : List String) (nulls : Bool) (name : String)
    (v : Option Value) :
    values names (writeOption nulls name v) =
      if name ∈ names then written nulls v else [] := by
  unfold writeOption
  induction written nulls v with
  | nil => simp
  | cons w ws ih =>
    rw [List.map_cons, values_cons, ih]
    split <;> rfl

theorem names_writeOption_sublist (nulls : Bool) (name : String) (v : Option Value) :
    ((writeOption nulls name v).map Prod.fst).Sublist [name] := by
  cases v with
  | some v => exact List.Sublist.refl _
  | none =>
    cases nulls with
    | true => exact List.Sublist.refl _
    | false => exact List.nil_sublist _

@[simp] theorem pick_nil {α : Type} (missing : Option α) (read : Value → Option α) :
    pick missing read [] = missing := rfl

@[simp] theorem pick_singleton {α : Type} (missing : Option α) (read : Value → Option α)
    (v : Value) : pick missing read [v] = read v := rfl

theorem nullable_of_ne {α : Type} {read : Value → Option α} {v : Value} (h : v ≠ .null) :
    nullable read v = (read v).map some := by
  cases v with
  | null => exact absurd rfl h
  | _ => rfl

theorem pick_written {α : Type} {read : Value → Option α} {write : α → Value} {o : Option α}
    (nulls : Bool) (h : ∀ a ∈ o, write a ≠ .null ∧ read (write a) = some a) :
    pick (some none) (nullable read) (written nulls (o.map write)) = some o := by
  cases o with
  | none => cases nulls <;> rfl
  | some a =>
    obtain ⟨hne, hread⟩ := h a rfl
    rw [Option.map_some, written, pick_singleton, nullable_of_ne hne, hread]
    rfl

@[simp] theorem pick_written_num64 (nulls : Bool) (o : Option UInt64) :
    pick (some none) (nullable u64) (written nulls (o.map num64)) = some o :=
  pick_written nulls fun a _ => ⟨nofun, u64_num64 a⟩

@[simp] theorem pick_written_num16 (nulls : Bool) (o : Option UInt16) :
    pick (some none) (nullable u16) (written nulls (o.map num16)) = some o :=
  pick_written nulls fun a _ => ⟨nofun, u16_num16 a⟩

@[simp] theorem pick_written_string (nulls : Bool) (o : Option String) :
    pick (some none) (nullable string) (written nulls (o.map .str)) = some o :=
  pick_written nulls fun _ _ => ⟨nofun, rfl⟩

theorem pick_written_record {α : Type} {r : Record α} {write : α → Value} {o : Option α}
    (nulls : Bool) (h : ∀ a ∈ o, r.value (write a) = some a) :
    pick (some none) (nullable r.value) (written nulls (o.map write)) = some o := by
  refine pick_written nulls fun a ha => ⟨?_, h a ha⟩
  intro hnull
  have hread := h a ha
  rw [hnull] at hread
  cases hread

/-! ## From one kind of field to another -/

section Kinds

variable {α β : Type} {name : String} {read : Value → Option α} {fields : Fields} {a : α}

theorem required_eq_some (h : required name read fields = some a) :
    ∃ v, values [name] fields = [v] ∧ read v = some a := by
  unfold required field at h
  cases hvalues : values [name] fields with
  | nil =>
    rw [hvalues] at h
    cases h
  | cons v rest =>
    rw [hvalues] at h
    cases rest with
    | nil => exact ⟨v, rfl, h⟩
    | cons w rest => cases h

theorem required_of_values {v : Value} (h : values [name] fields = [v]) :
    required name read fields = read v := by
  unfold required field
  rw [h]
  rfl

theorem defaulted_of_required (default : α) (h : required name read fields = some a) :
    defaulted [name] default read fields = some a := by
  obtain ⟨v, hvalues, hv⟩ := required_eq_some h
  unfold defaulted field
  rw [hvalues]
  exact hv

/-- A reader of nullable values that takes what the other one takes. -/
theorem orNull_of_required {read' : Value → Option β} {b : β}
    (h : required name read fields = some a) (hnull : read .null = none)
    (hread : ∀ v ∈ values [name] fields, read v = some a → read' v = some b) :
    orNull name read' fields = some (some b) := by
  obtain ⟨v, hvalues, hv⟩ := required_eq_some h
  have hne : v ≠ .null := by
    rintro rfl
    rw [hnull] at hv
    cases hv
  unfold orNull field
  have hmem : v ∈ values [name] fields := by
    rw [hvalues]
    exact List.mem_singleton_self v
  rw [hvalues, pick_singleton, nullable_of_ne hne, hread v hmem hv]
  rfl

end Kinds

/-! ## Order and strangers -/

/-- A field more, with another name. -/
theorem field_cons_of_not_mem {α : Type} {names : List String} {name : String} (v : Value)
    (fields : Fields) (h : name ∉ names) (missing : Option α) (read : Value → Option α) :
    field names missing read ((name, v) :: fields) = field names missing read fields := by
  unfold field
  rw [values_cons, if_neg h]

/-- The fields that were written, in any order, and fields with none of the
known names between them. -/
def Among (known : List String) (written fields : Fields) : Prop :=
  ∃ others : Fields, fields.Perm (written ++ others) ∧ ∀ f ∈ others, f.1 ∉ known

theorem Among.refl (known : List String) (fields : Fields) : Among known fields fields := by
  refine ⟨[], ?_, fun f hf => nomatch hf⟩
  rw [List.append_nil]

theorem values_eq_nil {names : List String} {fields : Fields} (h : ∀ f ∈ fields, f.1 ∉ names) :
    values names fields = [] := by
  unfold values
  rw [List.map_eq_nil_iff, List.filter_eq_nil_iff]
  intro f hf
  rw [decide_eq_true_eq]
  exact h f hf

theorem values_ne_nil_of_mem {name : String} {fields : Fields} (h : name ∈ fields.map Prod.fst) :
    values [name] fields ≠ [] := by
  obtain ⟨f, hf, rfl⟩ := List.mem_map.mp h
  refine List.ne_nil_of_mem (a := f.2) (List.mem_map_of_mem (List.mem_filter.mpr ⟨hf, ?_⟩))
  rw [decide_eq_true_eq, List.mem_singleton]

theorem values_perm {names : List String} {a b : Fields} (h : a.Perm b) :
    (values names a).Perm (values names b) :=
  (h.filter _).map _

theorem values_among {known names : List String} {written fields : Fields}
    (h : Among known written fields) (hnames : names ⊆ known) :
    (values names fields).Perm (values names written) := by
  obtain ⟨others, hperm, hothers⟩ := h
  have hnil : values names others = [] :=
    values_eq_nil fun f hf hmem => hothers f hf (hnames hmem)
  have hvalues : (values names fields).Perm (values names (written ++ others)) := values_perm hperm
  rwa [values_append, hnil, List.append_nil] at hvalues

/-- A reader sees the fields by their names, not where they stand. -/
theorem field_among {α : Type} {known names : List String} {written fields : Fields}
    (h : Among known written fields) (hnames : names ⊆ known) (missing : Option α)
    (read : Value → Option α) :
    field names missing read fields = field names missing read written := by
  have hperm := values_among h hnames
  unfold field
  cases hwritten : values names written with
  | nil =>
    rw [hwritten] at hperm
    rw [hperm.eq_nil]
  | cons v rest =>
    cases rest with
    | nil =>
      rw [hwritten] at hperm
      rw [List.perm_singleton.mp hperm]
    | cons w rest =>
      have hlen := hperm.length_eq
      rw [hwritten] at hlen
      match values names fields, hlen with
      | _ :: _ :: _, _ => rfl

/-! ## Objects as maps -/

/-- What a map holds after the fields have been put into it one by one: of
those with one name the last. -/
def keepLast : Fields → Fields
  | [] => []
  | (name, v) :: rest =>
      if rest.any (fun f => f.1 = name) then keepLast rest else (name, v) :: keepLast rest

/-- A record that is read out of such a map. -/
def Record.mapped {α : Type} (r : Record α) : Value → Option α
  | .obj fields => r.read (keepLast fields)
  | .arr items => (inOrder r.layout items).bind r.read
  | _ => none

/-- The value under a name, `null` where there is none. -/
def index (name : String) : Value → Value
  | .obj fields => ((keepLast fields).lookup name).getD .null
  | _ => .null

theorem values_eq_nil_of_any {name : String} {fields : Fields}
    (h : fields.any (fun f => f.1 = name) = false) : values [name] fields = [] := by
  refine values_eq_nil fun f hf hmem => ?_
  have hname := List.any_eq_false.mp h f hf
  exact hname (decide_eq_true (List.mem_singleton.mp hmem))

theorem values_ne_nil_of_any {name : String} {fields : Fields}
    (h : fields.any (fun f => f.1 = name) = true) : values [name] fields ≠ [] := by
  obtain ⟨f, hf, hname⟩ := List.any_eq_true.mp h
  exact values_ne_nil_of_mem (List.mem_map.mpr ⟨f, hf, of_decide_eq_true hname⟩)

theorem values_keepLast (name : String) (fields : Fields) :
    values [name] (keepLast fields) = (values [name] fields).getLast?.toList := by
  induction fields with
  | nil => rfl
  | cons f rest ih =>
    obtain ⟨other, v⟩ := f
    by_cases hname : other = name
    · subst hname
      rw [keepLast, values_cons, if_pos (List.mem_singleton_self _)]
      cases hany : rest.any fun f => f.1 = other with
      | true =>
        rw [if_pos rfl, ih, List.getLast?_cons_of_ne_nil (values_ne_nil_of_any hany)]
      | false =>
        rw [if_neg Bool.false_ne_true, values_cons, if_pos (List.mem_singleton_self _), ih,
          values_eq_nil_of_any hany]
        rfl
    · have hnot : other ∉ [name] := fun h => hname (List.mem_singleton.mp h)
      rw [keepLast, values_cons, if_neg hnot]
      split
      · exact ih
      · rw [values_cons, if_neg hnot, ih]

theorem length_values_le_one {written : Fields} (h : (written.map Prod.fst).Nodup)
    (name : String) : (values [name] written).length ≤ 1 := by
  induction written with
  | nil => exact Nat.zero_le _
  | cons f rest ih =>
    obtain ⟨other, v⟩ := f
    obtain ⟨hfresh, hrest⟩ := List.nodup_cons.mp h
    by_cases hname : other ∈ [name]
    · have hnil : values [name] rest = [] := values_eq_nil fun g hg hmem => by
        have hsame : g.1 = other :=
          (List.mem_singleton.mp hmem).trans (List.mem_singleton.mp hname).symm
        exact hfresh (List.mem_map.mpr ⟨g, hg, hsame⟩)
      rw [values_cons, if_pos hname, hnil]
      exact Nat.le_refl _
    · rw [values_cons, if_neg hname]
      exact ih hrest

/-- What a reader sees of a record that was written with each field once. -/
theorem field_keepLast {α : Type} {known : List String} {written fields : Fields} {name : String}
    (h : Among known written fields) (honce : (written.map Prod.fst).Nodup) (hname : name ∈ known)
    (missing : Option α) (read : Value → Option α) :
    field [name] missing read (keepLast fields) = field [name] missing read written := by
  have hone := length_values_le_one honce name
  have hvalues : values [name] fields = values [name] written := by
    have hperm := values_among h (List.cons_subset.mpr ⟨hname, List.nil_subset _⟩)
    cases hw : values [name] written with
    | nil =>
      rw [hw] at hperm
      exact hperm.eq_nil
    | cons v rest =>
      rw [hw, List.length_cons] at hone
      obtain rfl : rest = [] := List.length_eq_zero_iff.mp (by omega)
      rw [hw] at hperm
      exact List.perm_singleton.mp hperm
  unfold field
  rw [values_keepLast, hvalues]
  congr 1
  cases hw : values [name] written with
  | nil => rfl
  | cons v rest =>
    rw [hw, List.length_cons] at hone
    obtain rfl : rest = [] := List.length_eq_zero_iff.mp (by omega)
    rfl

theorem lookup_eq_head?_values (name : String) (fields : Fields) :
    fields.lookup name = (values [name] fields).head? := by
  induction fields with
  | nil => rfl
  | cons f rest ih =>
    obtain ⟨other, v⟩ := f
    by_cases hname : other = name
    · subst hname
      rw [List.lookup_cons_self, values_cons, if_pos (List.mem_singleton_self _)]
      rfl
    · have hnot : other ∉ [name] := fun h => hname (List.mem_singleton.mp h)
      rw [values_cons, if_neg hnot, ← ih, List.lookup_cons, beq_false_of_ne (Ne.symm hname)]

theorem index_obj (name : String) (fields : Fields) :
    index name (.obj fields) = (values [name] fields).getLast?.getD .null := by
  show ((keepLast fields).lookup name).getD .null = _
  rw [lookup_eq_head?_values, values_keepLast]
  cases (values [name] fields).getLast? <;> rfl

/-- The value that was written, between fields with other names. -/
theorem index_among {name : String} {v : Value} {fields : Fields}
    (h : Among [name] [(name, v)] fields) : index name (.obj fields) = v := by
  have hperm := values_among h (List.Subset.refl _)
  rw [values_cons, if_pos (List.mem_singleton_self _), values_nil] at hperm
  rw [index_obj, List.perm_singleton.mp hperm]
  rfl

end Records
