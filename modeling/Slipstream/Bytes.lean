import Mathlib.Data.List.Infix
import Mathlib.Tactic.Ring

/-!
# Reading a byte buffer with a running offset

Hand-written binary parsers keep an offset into a buffer, compare it
with the length and index. The reads here can panic (`Checked`), exactly
where slice indexing does: an index past the end, a slice whose bounds
are out of order or past the end, and checked arithmetic that leaves the
range of its type. A parser is shown panic-free by proving that it
returns `.ok`.

The one relation the parser proofs use is `Sees d off rest`: the offset
is in range and what the buffer still holds from there on is a prefix of
`rest`. Taking `d` to be an encoding followed by anything gives round
trips, taking it to be a cut-off encoding gives truncation, and each
field needs a single lemma for both (`Sees.index`, `Sees.slice`,
`Sees.u64At`, ...): with enough bytes left the read returns the field
and the offset past it sees the remainder.

A parser that goes on after a field that was cut off reads stale bytes.
`Reached` says where its offset stands then (in front of the next field,
or with at most `slack` bytes left), and `Recovered` what it may return:
the field, or its absent value if something was cut off.
-/

namespace Bytes

/-! ## Checked reads -/

/-- The ways an unchecked-looking read or operation can panic. -/
inductive Panic where
  | indexOutOfBounds
  | sliceOutOfRange
  | arithmeticOverflow
deriving Repr, DecidableEq

abbrev Checked (α : Type) := Except Panic α

/-- `d[i]`. -/
def index (d : List UInt8) (i : Nat) : Checked UInt8 :=
  match d[i]? with
  | some b => .ok b
  | none => .error .indexOutOfBounds

/-- `&d[i..j]`. -/
def slice (d : List UInt8) (i j : Nat) : Checked (List UInt8) :=
  if i ≤ j ∧ j ≤ d.length then .ok ((d.drop i).take (j - i))
  else .error .sliceOutOfRange

/-- `d[i..j].copy_from_slice(src)`. -/
def copyFromSlice (d : List UInt8) (i j : Nat) (src : List UInt8) : Checked (List UInt8) :=
  if i ≤ j ∧ j ≤ d.length ∧ src.length = j - i then .ok (d.take i ++ src ++ d.drop j)
  else .error .sliceOutOfRange

/-- `m - n`. -/
def checkedSub (m n : Nat) : Checked Nat :=
  if n ≤ m then .ok (m - n) else .error .arithmeticOverflow

/-- `a + b` in `u64`. -/
def checkedAdd (a b : UInt64) : Checked UInt64 :=
  if a.toNat + b.toNat < 2 ^ 64 then .ok (a + b) else .error .arithmeticOverflow

/-- `a * b` in `u64`. -/
def checkedMul (a b : UInt64) : Checked UInt64 :=
  if a.toNat * b.toNat < 2 ^ 64 then .ok (a * b) else .error .arithmeticOverflow

/-- `[d[off], d[off + 1], …, d[off + n - 1]]`, each by its own index. -/
def indices (d : List UInt8) : Nat → Nat → Checked (List UInt8)
  | _, 0 => .ok []
  | off, n + 1 => do
      let b ← index d off
      let bs ← indices d (off + 1) n
      pure (b :: bs)

/-! ## Big-endian numbers -/

/-- The `w` big-endian bytes of `n`; higher bits are dropped. -/
def toBe : Nat → Nat → List UInt8
  | 0, _ => []
  | w + 1, n => UInt8.ofNat (n / 256 ^ w) :: toBe w n

/-- The number with the given big-endian bytes. -/
def fromBe : List UInt8 → Nat
  | [] => 0
  | b :: bs => b.toNat * 256 ^ bs.length + fromBe bs

@[simp] theorem length_toBe (w n : Nat) : (toBe w n).length = w := by
  induction w with
  | zero => rfl
  | succ w ih => simp [toBe, ih]

theorem fromBe_lt (bs : List UInt8) : fromBe bs < 256 ^ bs.length := by
  induction bs with
  | nil => simp [fromBe]
  | cons b bs ih =>
      have hb : b.toNat < 256 := b.toNat_lt
      rw [fromBe, List.length_cons, Nat.pow_succ]
      calc b.toNat * 256 ^ bs.length + fromBe bs
          < b.toNat * 256 ^ bs.length + 256 ^ bs.length := Nat.add_lt_add_left ih _
        _ = (b.toNat + 1) * 256 ^ bs.length := by ring
        _ ≤ 256 * 256 ^ bs.length := Nat.mul_le_mul_right _ hb
        _ = 256 ^ bs.length * 256 := Nat.mul_comm _ _

theorem fromBe_toBe (w n : Nat) : fromBe (toBe w n) = n % 256 ^ w := by
  induction w with
  | zero => simp [toBe, fromBe, Nat.mod_one]
  | succ w ih =>
      rw [toBe, fromBe, ih, length_toBe, Nat.mod_pow_succ]
      simp only [UInt8.toNat_ofNat']
      ring

theorem fromBe_toBe_of_lt {w n : Nat} (h : n < 256 ^ w) :
    fromBe (toBe w n) = n := by
  rw [fromBe_toBe, Nat.mod_eq_of_lt h]

def beU16 (x : UInt16) : List UInt8 := toBe 2 x.toNat
def beU32 (x : UInt32) : List UInt8 := toBe 4 x.toNat
def beU64 (x : UInt64) : List UInt8 := toBe 8 x.toNat

@[simp] theorem length_beU16 (x : UInt16) : (beU16 x).length = 2 :=
  length_toBe ..

@[simp] theorem length_beU32 (x : UInt32) : (beU32 x).length = 4 :=
  length_toBe ..

@[simp] theorem length_beU64 (x : UInt64) : (beU64 x).length = 8 :=
  length_toBe ..

/-- `u16::from_be_bytes([d[off], d[off + 1]])`. -/
def u16At (d : List UInt8) (off : Nat) : Checked UInt16 := do
  let bs ← indices d off 2
  pure (UInt16.ofNat (fromBe bs))

/-- `u32::from_be_bytes([d[off], …, d[off + 3]])`. -/
def u32At (d : List UInt8) (off : Nat) : Checked UInt32 := do
  let bs ← indices d off 4
  pure (UInt32.ofNat (fromBe bs))

/-- `u64::from_be_bytes([d[off], …, d[off + 7]])`. -/
def u64At (d : List UInt8) (off : Nat) : Checked UInt64 := do
  let bs ← indices d off 8
  pure (UInt64.ofNat (fromBe bs))

/-! ## Reads in range do not panic -/

theorem index_ok {d : List UInt8} {i : Nat} (h : i < d.length) :
    index d i = .ok d[i] := by
  simp [index, h]

theorem slice_ok {d : List UInt8} {i j : Nat} (hij : i ≤ j)
    (hj : j ≤ d.length) : slice d i j = .ok ((d.drop i).take (j - i)) := by
  simp [slice, hij, hj]

theorem copyFromSlice_ok {d src : List UInt8} {i j : Nat} (hij : i ≤ j) (hj : j ≤ d.length)
    (hsrc : src.length = j - i) :
    copyFromSlice d i j src = .ok (d.take i ++ src ++ d.drop j) := if_pos ⟨hij, hj, hsrc⟩

theorem checkedSub_ok {m n : Nat} (h : n ≤ m) : checkedSub m n = .ok (m - n) := by
  simp [checkedSub, h]

theorem checkedAdd_ok {a b : UInt64} (h : a.toNat + b.toNat < 2 ^ 64) :
    checkedAdd a b = .ok (a + b) := if_pos h

theorem checkedMul_ok {a b : UInt64} (h : a.toNat * b.toNat < 2 ^ 64) :
    checkedMul a b = .ok (a * b) := if_pos h

theorem indices_ok {d : List UInt8} : ∀ {n off : Nat}, off + n ≤ d.length →
    indices d off n = .ok ((d.drop off).take n)
  | 0, _, _ => by simp [indices]
  | n + 1, off, h => by
      have hlt : off < d.length := by omega
      have htl : indices d (off + 1) n = .ok ((d.drop (off + 1)).take n) :=
        indices_ok (by omega)
      rw [indices, index_ok hlt, htl, List.drop_eq_getElem_cons hlt,
        List.take_succ_cons]
      rfl

theorem u16At_ok {d : List UInt8} {off : Nat} (h : off + 2 ≤ d.length) :
    u16At d off = .ok (UInt16.ofNat (fromBe ((d.drop off).take 2))) := by
  simp [u16At, indices_ok h, bind, Except.bind, pure, Except.pure]

theorem u32At_ok {d : List UInt8} {off : Nat} (h : off + 4 ≤ d.length) :
    u32At d off = .ok (UInt32.ofNat (fromBe ((d.drop off).take 4))) := by
  simp [u32At, indices_ok h, bind, Except.bind, pure, Except.pure]

theorem u64At_ok {d : List UInt8} {off : Nat} (h : off + 8 ≤ d.length) :
    u64At d off = .ok (UInt64.ofNat (fromBe ((d.drop off).take 8))) := by
  simp [u64At, indices_ok h, bind, Except.bind, pure, Except.pure]

/-! ## Parsers that never panic -/

section NoPanic

variable {α β : Type} {d : List UInt8}

def NoPanic (p : Checked α) : Prop := ∃ a, p = .ok a

theorem noPanic_pure (a : α) : NoPanic (pure a : Checked α) := ⟨a, rfl⟩

theorem NoPanic.bind {p : Checked α} {k : α → Checked β} (hp : NoPanic p)
    (hk : ∀ a, p = .ok a → NoPanic (k a)) : NoPanic (p >>= k) := by
  obtain ⟨a, rfl⟩ := hp
  exact hk a rfl

/-- A test of the length, and what follows when it succeeds. -/
theorem noPanic_ite {c : Prop} [Decidable c] {p q : Checked α} (hp : c → NoPanic p)
    (hq : ¬ c → NoPanic q) : NoPanic (if c then p else q) := by
  by_cases h : c
  · rw [if_pos h]
    exact hp h
  · rw [if_neg h]
    exact hq h

theorem noPanic_index {i : Nat} (h : i < d.length) : NoPanic (index d i) := ⟨_, index_ok h⟩

theorem noPanic_slice {i j : Nat} (hij : i ≤ j) (hj : j ≤ d.length) : NoPanic (slice d i j) :=
  ⟨_, slice_ok hij hj⟩

theorem noPanic_u16At {off : Nat} (h : off + 2 ≤ d.length) : NoPanic (u16At d off) :=
  ⟨_, u16At_ok h⟩

theorem noPanic_u32At {off : Nat} (h : off + 4 ≤ d.length) : NoPanic (u32At d off) :=
  ⟨_, u32At_ok h⟩

theorem noPanic_u64At {off : Nat} (h : off + 8 ≤ d.length) : NoPanic (u64At d off) :=
  ⟨_, u64At_ok h⟩

end NoPanic

/-! ## What the buffer shows from an offset on -/

/-- The offset is in range, and the bytes from it on are a prefix of
`rest`. -/
structure Sees (d : List UInt8) (off : Nat) (rest : List UInt8) : Prop where
  le : off ≤ d.length
  pre : d.drop off <+: rest

theorem Sees.start {d rest : List UInt8} (h : d <+: rest) : Sees d 0 rest :=
  ⟨Nat.zero_le _, by simpa using h⟩

/-- With all of `xs` still in the buffer, it is what comes next, and the
offset past it sees the remainder. -/
theorem Sees.advance {d xs rest : List UInt8} {off : Nat}
    (h : Sees d off (xs ++ rest)) (hlen : off + xs.length ≤ d.length) :
    (d.drop off).take xs.length = xs ∧ Sees d (off + xs.length) rest := by
  have hxs : xs <+: d.drop off :=
    List.prefix_of_prefix_length_le (List.prefix_append ..) h.pre
      (by rw [List.length_drop]; omega)
  obtain ⟨ys, hys⟩ := hxs
  have hpre : xs ++ ys <+: xs ++ rest := hys ▸ h.pre
  refine ⟨by rw [← hys]; simp, hlen, ?_⟩
  rw [← List.drop_drop, ← hys, List.drop_left]
  exact (List.prefix_append_right_inj xs).mp hpre

theorem Sees.index {d rest : List UInt8} {off : Nat} {b : UInt8}
    (h : Sees d off (b :: rest)) (hlen : off < d.length) :
    index d off = .ok b ∧ Sees d (off + 1) rest := by
  have h' : Sees d off ([b] ++ rest) := h
  obtain ⟨htake, hnext⟩ := h'.advance hlen
  refine ⟨?_, hnext⟩
  rw [index_ok hlen]
  rw [List.drop_eq_getElem_cons hlen] at htake
  exact congrArg Except.ok (List.cons.inj htake).1

theorem Sees.slice {d xs rest : List UInt8} {off : Nat}
    (h : Sees d off (xs ++ rest)) (hlen : off + xs.length ≤ d.length) :
    slice d off (off + xs.length) = .ok xs ∧ Sees d (off + xs.length) rest := by
  obtain ⟨htake, hnext⟩ := h.advance hlen
  refine ⟨?_, hnext⟩
  rw [slice_ok (Nat.le_add_right ..) hlen, Nat.add_sub_cancel_left, htake]

theorem Sees.u16At {d rest : List UInt8} {off : Nat} {x : UInt16}
    (h : Sees d off (beU16 x ++ rest)) (hlen : off + 2 ≤ d.length) :
    u16At d off = .ok x ∧ Sees d (off + 2) rest := by
  obtain ⟨htake, hnext⟩ := h.advance (by simpa using hlen)
  rw [length_beU16] at htake hnext
  refine ⟨?_, hnext⟩
  rw [u16At_ok hlen, htake, beU16, fromBe_toBe_of_lt x.toNat_lt,
    UInt16.ofNat_toNat]

theorem Sees.u32At {d rest : List UInt8} {off : Nat} {x : UInt32}
    (h : Sees d off (beU32 x ++ rest)) (hlen : off + 4 ≤ d.length) :
    u32At d off = .ok x ∧ Sees d (off + 4) rest := by
  obtain ⟨htake, hnext⟩ := h.advance (by simpa using hlen)
  rw [length_beU32] at htake hnext
  refine ⟨?_, hnext⟩
  rw [u32At_ok hlen, htake, beU32, fromBe_toBe_of_lt x.toNat_lt,
    UInt32.ofNat_toNat]

theorem Sees.u64At {d rest : List UInt8} {off : Nat} {x : UInt64}
    (h : Sees d off (beU64 x ++ rest)) (hlen : off + 8 ≤ d.length) :
    u64At d off = .ok x ∧ Sees d (off + 8) rest := by
  obtain ⟨htake, hnext⟩ := h.advance (by simpa using hlen)
  rw [length_beU64] at htake hnext
  refine ⟨?_, hnext⟩
  rw [u64At_ok hlen, htake, beU64, fromBe_toBe_of_lt x.toNat_lt,
    UInt64.ofNat_toNat]

/-! ## Parsers that stop at a cut-off field -/

section Whole

variable {α β : Type} {d rest : List UInt8} {off : Nat} {p r : Checked (Option α)}

/-- The outcome of a parser for a message of `total` bytes. -/
def whenWhole (total : Nat) (d : List UInt8) (m : α) : Checked (Option α) :=
  .ok (if total ≤ d.length then some m else none)

theorem whenWhole_of_le {total : Nat} {m : α} (h : total ≤ d.length) :
    whenWhole total d m = .ok (some m) := by
  rw [whenWhole, if_pos h]

theorem whenWhole_of_lt {total : Nat} {m : α} (h : d.length < total) :
    whenWhole total d m = .ok none := by
  rw [whenWhole, if_neg (Nat.not_le_of_lt h)]

theorem bind_of_ok {x : Checked β} {b : β} {k : β → Checked (Option α)} (h : x = .ok b)
    (hgo : k b = r) : x >>= k = r := by
  rw [h]
  exact hgo

theorem unless_cut {c : Prop} [Decidable c] (hcut : c → r = .ok none) (hgo : ¬ c → p = r) :
    (if c then pure none else p) = r := by
  by_cases h : c
  · rw [if_pos h, hcut h]
    rfl
  · rw [if_neg h, hgo h]

theorem Sees.u32Field {x : UInt32} {k : UInt32 → Checked (Option α)}
    (h : Sees d off (beU32 x ++ rest)) (hcut : d.length < off + 4 → r = .ok none)
    (hgo : off + 4 ≤ d.length → Sees d (off + 4) rest → k x = r) :
    (if d.length < off + 4 then pure none else Bytes.u32At d off >>= k) = r := by
  refine unless_cut hcut fun hlen => ?_
  obtain ⟨hread, hnext⟩ := h.u32At (Nat.le_of_not_lt hlen)
  exact bind_of_ok hread (hgo (Nat.le_of_not_lt hlen) hnext)

theorem Sees.u64Field {x : UInt64} {k : UInt64 → Checked (Option α)}
    (h : Sees d off (beU64 x ++ rest)) (hcut : d.length < off + 8 → r = .ok none)
    (hgo : off + 8 ≤ d.length → Sees d (off + 8) rest → k x = r) :
    (if d.length < off + 8 then pure none else Bytes.u64At d off >>= k) = r := by
  refine unless_cut hcut fun hlen => ?_
  obtain ⟨hread, hnext⟩ := h.u64At (Nat.le_of_not_lt hlen)
  exact bind_of_ok hread (hgo (Nat.le_of_not_lt hlen) hnext)

end Whole

/-! ## Offsets that outlive a cut-off field -/

/-- A running offset with all the values it has had. -/
structure Cursor where
  offset : Nat
  trail : List Nat
deriving Repr, DecidableEq

namespace Cursor

/-- The cursor of a parser that starts at `off`. -/
def start (off : Nat) : Cursor := ⟨off, [off]⟩

def moveTo (c : Cursor) (off : Nat) : Cursor := ⟨off, off :: c.trail⟩

def advance (c : Cursor) (k : Nat) : Cursor := c.moveTo (c.offset + k)

@[simp] theorem offset_advance (c : Cursor) (k : Nat) :
    (c.advance k).offset = c.offset + k := rfl

/-- The offset has never been past the end. -/
structure Within (c : Cursor) (n : Nat) : Prop where
  offset_le : c.offset ≤ n
  trail_le : ∀ off ∈ c.trail, off ≤ n

theorem within_start {off n : Nat} (h : off ≤ n) : (start off).Within n :=
  ⟨h, by simpa [start] using h⟩

theorem Within.moveTo {c : Cursor} {n off : Nat} (hc : c.Within n) (h : off ≤ n) :
    (c.moveTo off).Within n := by
  refine ⟨h, fun o ho => ?_⟩
  rcases List.mem_cons.mp ho with rfl | ho
  · exact h
  · exact hc.trail_le o ho

theorem Within.advance {c : Cursor} {n k : Nat} (hc : c.Within n) (h : c.offset + k ≤ n) :
    (c.advance k).Within n := hc.moveTo h

end Cursor

/-- Where an offset stands in a prefix `d` of an encoding of `total`
bytes: in front of `rest`, or behind a field that was cut off, with at
most `slack` bytes left. -/
def Reached (d : List UInt8) (total slack off : Nat) (rest : List UInt8) : Prop :=
  (Sees d off rest ∧ off + rest.length = total)
    ∨ (d.length < total ∧ d.length ≤ off + slack)

theorem Reached.mono {d rest : List UInt8} {total slack slack' off : Nat}
    (h : Reached d total slack off rest) (hle : slack ≤ slack') :
    Reached d total slack' off rest := by
  rcases h with h | ⟨hlt, hleft⟩
  · exact .inl h
  · exact .inr ⟨hlt, by omega⟩

/-- A field that does not fit any more was cut off. -/
theorem Reached.length_lt {d enc rest : List UInt8} {total slack off : Nat}
    (h : Reached d total slack off (enc ++ rest)) (hshort : d.length < off + enc.length) :
    d.length < total := by
  rcases h with ⟨-, htotal⟩ | ⟨hlt, -⟩
  · rw [List.length_append] at htotal
    omega
  · exact hlt

/-- What a field of a prefix of an encoding was read as: the field, or
its absent value where the encoding was cut off. -/
def Recovered {α : Type} (d : List UInt8) (total : Nat) (absent v x : α) : Prop :=
  v = x ∨ (v = absent ∧ d.length < total)

theorem Recovered.eq_or_absent {α : Type} {d : List UInt8} {total : Nat} {absent v x : α}
    (h : Recovered d total absent v x) : v = x ∨ v = absent := by
  rcases h with h | ⟨h, -⟩
  · exact .inl h
  · exact .inr h

/-- Nothing is absent from a whole encoding. -/
theorem Recovered.eq_of_le {α : Type} {d : List UInt8} {total : Nat} {absent v x : α}
    (h : Recovered d total absent v x) (hlen : total ≤ d.length) : v = x := by
  rcases h with h | ⟨-, hlt⟩
  · exact h
  · omega

end Bytes
