import Mathlib.Data.List.Infix

/-!
# Framed streams

A stream that arrives in chunks and consists of frames: a header of fixed
length, which announces how long the body is or is not a header at all,
and the body. Nothing here depends on what the elements are.

`readExact` fills a buffer from the chunks; what it returns depends on
the elements only, not on where they were cut (`readExact_some`,
`readExact_none_iff`). `readSome` is a single read, which returns what has
arrived: on a stream that can be cut, that is not determined by
the elements alone (`Cuts`). `Longest` is the longest run of whole frames a
stream begins with: every run is a part of it (`Longest.covers`), and
every stream has one (`exists_longest`).
-/

namespace Framing

section Chunks

variable {α : Type*}

/-- Fill a buffer of `n` elements; `none` if the stream ends before. -/
def readExact : Nat → List (List α) → Option (List α × List (List α))
  | 0, chunks => some ([], chunks)
  | _ + 1, [] => none
  | n + 1, chunk :: chunks =>
      if n + 1 < chunk.length then
        some (chunk.take (n + 1), chunk.drop (n + 1) :: chunks)
      else
        (readExact (n + 1 - chunk.length) chunks).map fun (xs, rest) => (chunk ++ xs, rest)

theorem readExact_some : ∀ {chunks rest : List (List α)} {n : Nat} {xs : List α},
    readExact n chunks = some (xs, rest) →
      xs.length = n ∧ chunks.flatten = xs ++ rest.flatten := by
  intro chunks
  induction chunks with
  | nil =>
      intro rest n xs h
      cases n with
      | zero =>
          obtain ⟨rfl, rfl⟩ := Prod.mk.inj (Option.some.inj h)
          exact ⟨rfl, rfl⟩
      | succ n => cases h
  | cons chunk chunks ih =>
      intro rest n xs h
      cases n with
      | zero =>
          obtain ⟨rfl, rfl⟩ := Prod.mk.inj (Option.some.inj h)
          exact ⟨rfl, rfl⟩
      | succ n =>
          rw [readExact] at h
          split at h
          · rename_i hlt
            obtain ⟨rfl, rfl⟩ := Prod.mk.inj (Option.some.inj h)
            refine ⟨List.length_take_of_le (Nat.le_of_lt hlt), ?_⟩
            rw [List.flatten_cons, List.flatten_cons, ← List.append_assoc,
              List.take_append_drop]
          · rename_i hge
            obtain ⟨⟨ys, rest'⟩, hread, heq⟩ := Option.map_eq_some_iff.mp h
            obtain ⟨rfl, rfl⟩ := Prod.mk.inj heq
            obtain ⟨hlen, hflat⟩ := ih hread
            refine ⟨?_, ?_⟩
            · rw [List.length_append, hlen]
              omega
            · rw [List.flatten_cons, hflat, List.append_assoc]

theorem readExact_none_iff : ∀ {chunks : List (List α)} {n : Nat},
    readExact n chunks = none ↔ chunks.flatten.length < n := by
  intro chunks
  induction chunks with
  | nil =>
      intro n
      cases n with
      | zero => simp [readExact]
      | succ n => simp [readExact]
  | cons chunk chunks ih =>
      intro n
      cases n with
      | zero => simp [readExact]
      | succ n =>
          rw [readExact, List.flatten_cons, List.length_append]
          split
          · rename_i hlt
            refine iff_of_false (by simp) (by omega)
          · rename_i hge
            rw [Option.map_eq_none_iff, ih]
            omega

/-- A single read: of what has arrived, as much as the buffer holds;
`none` at the end of the stream. -/
def readSome (n : Nat) : List (List α) → Option (List α)
  | [] => none
  | chunk :: _ => some (chunk.take n)

/-- The stream arrives in these chunks. -/
structure Cuts (stream : List α) (chunks : List (List α)) : Prop where
  flatten : chunks.flatten = stream
  nonempty : ∀ chunk ∈ chunks, chunk ≠ []

theorem cuts_at {stream : List α} {k : Nat} (hpos : 0 < k) (hlt : k < stream.length) :
    Cuts stream [stream.take k, stream.drop k] := by
  have htake : stream.take k ≠ [] :=
    List.ne_nil_of_length_pos (by rw [List.length_take]; omega)
  have hdrop : stream.drop k ≠ [] :=
    List.ne_nil_of_length_pos (by rw [List.length_drop]; omega)
  exact ⟨by simp, by simp [htake, hdrop]⟩

theorem cuts_one {xs : List α} (hxs : xs ≠ []) : Cuts xs [xs] :=
  ⟨by simp, by simp [hxs]⟩

/-- A stream of at most one element cannot be cut. -/
theorem Cuts.eq_of_length_le_one {stream : List α} {chunks chunks' : List (List α)}
    (h : Cuts stream chunks) (h' : Cuts stream chunks') (hlen : stream.length ≤ 1) :
    chunks = chunks' := by
  have hunique : ∀ {cs : List (List α)}, Cuts stream cs →
      cs = if stream = [] then [] else [stream] := by
    rintro cs ⟨rfl, hne⟩
    cases cs with
    | nil => rfl
    | cons c cs =>
        have hc : 0 < c.length := List.length_pos_iff.mpr (hne c List.mem_cons_self)
        rw [List.flatten_cons, List.length_append] at hlen
        cases cs with
        | nil => simp [hne c List.mem_cons_self]
        | cons d ds =>
            have hd : 0 < d.length := List.length_pos_iff.mpr (hne d (by simp))
            rw [List.flatten_cons, List.length_append] at hlen
            omega
  rw [hunique h, hunique h']

end Chunks

/-! ## Frames -/

/-- How frames are told apart. -/
structure Format (α : Type*) where
  headerLen : Nat
  /-- The length of the body a header announces, if it is one. -/
  bodyLen : List α → Option Nat

namespace Format

variable {α : Type*} {F : Format α} {stream body rest left : List α}
  {bodies : List (List α)}

/-- The stream begins with a whole frame. -/
def Starts (F : Format α) (stream body rest : List α) : Prop :=
  ∃ header, stream = header ++ (body ++ rest) ∧ header.length = F.headerLen
    ∧ F.bodyLen header = some body.length

/-- Behind a header there is a frame if what follows has the length that
the header announces. -/
theorem starts_append_iff {header after : List α} (hlen : header.length = F.headerLen) :
    F.Starts (header ++ after) body rest
      ↔ F.bodyLen header = some body.length ∧ after = body ++ rest := by
  constructor
  · rintro ⟨header', heq, hlen', hbody⟩
    obtain ⟨rfl, hafter⟩ := List.append_inj heq (hlen.trans hlen'.symm)
    exact ⟨hbody, hafter⟩
  · rintro ⟨hbody, rfl⟩
    exact ⟨header, rfl, hlen, hbody⟩

theorem Starts.headerLen_le (h : F.Starts stream body rest) :
    F.headerLen ≤ stream.length := by
  obtain ⟨header, rfl, hlen, -⟩ := h
  rw [List.length_append, hlen]
  exact Nat.le_add_right ..

theorem Starts.unique {body' rest' : List α} (h : F.Starts stream body rest)
    (h' : F.Starts stream body' rest') : body = body' ∧ rest = rest' := by
  obtain ⟨header, rfl, hlen, hbody⟩ := h
  obtain ⟨header', heq, hlen', hbody'⟩ := h'
  obtain ⟨rfl, htail⟩ := List.append_inj heq (hlen.trans hlen'.symm)
  exact List.append_inj htail (Option.some.inj (hbody.symm.trans hbody'))

theorem Starts.length_lt (hpos : 0 < F.headerLen) (h : F.Starts stream body rest) :
    rest.length < stream.length := by
  obtain ⟨header, rfl, hlen, -⟩ := h
  rw [List.length_append, List.length_append]
  omega

/-- A run of frames the stream begins with: the bodies, and what is
left. -/
inductive Frames (F : Format α) : List α → List (List α) → List α → Prop where
  | nil {stream : List α} : Frames F stream [] stream
  | cons {stream body rest left : List α} {bodies : List (List α)}
      (hstarts : F.Starts stream body rest) (hrest : Frames F rest bodies left) :
      Frames F stream (body :: bodies) left

/-- The longest such run. -/
structure Longest (F : Format α) (stream : List α) (bodies : List (List α))
    (left : List α) : Prop where
  frames : F.Frames stream bodies left
  stops : ∀ body rest, ¬ F.Starts left body rest

theorem Longest.tail (h : F.Longest stream (body :: bodies) left) :
    ∃ rest, F.Starts stream body rest ∧ F.Longest rest bodies left := by
  obtain ⟨hframes, hstops⟩ := h
  cases hframes with
  | cons hstarts hrest => exact ⟨_, hstarts, hrest, hstops⟩

theorem Longest.cons (hstarts : F.Starts stream body rest) (h : F.Longest rest bodies left) :
    F.Longest stream (body :: bodies) left :=
  ⟨.cons hstarts h.frames, h.stops⟩

/-- Every run of frames is a part of the longest one. -/
theorem Longest.covers {bodies' : List (List α)} {left' : List α}
    (h : F.Longest stream bodies left) (h' : F.Frames stream bodies' left') :
    bodies' <+: bodies := by
  induction h' generalizing bodies with
  | nil => exact List.nil_prefix
  | cons hstarts hrest ih =>
      cases bodies with
      | nil =>
          obtain ⟨hframes, hstops⟩ := h
          cases hframes with
          | nil => exact absurd hstarts (hstops _ _)
      | cons b bodies =>
          obtain ⟨rest, hstarts', hlongest⟩ := h.tail
          obtain ⟨rfl, rfl⟩ := hstarts.unique hstarts'
          exact List.cons_prefix_cons.mpr ⟨rfl, ih hlongest⟩

/-- Every stream begins with a longest run, if only with the empty one. -/
theorem exists_longest (hpos : 0 < F.headerLen) (stream : List α) :
    ∃ bodies left, F.Longest stream bodies left := by
  induction hlen : stream.length using Nat.strong_induction_on generalizing stream with
  | _ n ih =>
      by_cases h : ∃ body rest, F.Starts stream body rest
      · obtain ⟨body, rest, hstarts⟩ := h
        obtain ⟨bodies, left, hrest⟩ :=
          ih rest.length (hlen ▸ hstarts.length_lt hpos) rest rfl
        exact ⟨body :: bodies, left, hrest.cons hstarts⟩
      · exact ⟨[], stream, .nil, fun body rest hstarts => h ⟨body, rest, hstarts⟩⟩

/-! ## Streams that are cut off -/

/-- The ones that are whole in the first `n` elements, one after the
other. -/
def whole {β : Type*} (size : β → Nat) : Nat → List β → List β
  | _, [] => []
  | n, b :: bs => if size b ≤ n then b :: whole size (n - size b) bs else []

theorem whole_prefix {β : Type*} (size : β → Nat) (bs : List β) (n : Nat) :
    whole size n bs <+: bs := by
  induction bs generalizing n with
  | nil => exact List.prefix_refl _
  | cons b bs ih =>
      rw [whole]
      split
      · exact List.cons_prefix_cons.mpr ⟨rfl, ih _⟩
      · exact List.nil_prefix

theorem whole_map {β γ : Type*} (f : γ → β) (size : β → Nat) (cs : List γ) (n : Nat) :
    whole size n (cs.map f) = (whole (fun c => size (f c)) n cs).map f := by
  induction cs generalizing n with
  | nil => rfl
  | cons c cs ih =>
      rw [List.map_cons, whole, whole, ih]
      split <;> rfl

theorem Starts.append (h : F.Starts stream body rest) (after : List α) :
    F.Starts (stream ++ after) body (rest ++ after) := by
  obtain ⟨header, rfl, hlen, hbody⟩ := h
  exact ⟨header, by simp only [List.append_assoc], hlen, hbody⟩

/-- A frame that is cut off does not start a stream. -/
theorem not_starts_of_cut {frame : List α} (hframe : F.Starts frame body [])
    (hcut : stream <+: frame) (hshort : stream.length < frame.length) {body' : List α} :
    ¬ F.Starts stream body' rest := by
  intro h
  obtain ⟨after, rfl⟩ := hcut
  obtain ⟨-, hrest⟩ := (h.append after).unique hframe
  rw [(List.append_eq_nil_iff.mp hrest).2, List.append_nil] at hshort
  exact Nat.lt_irrefl _ hshort

/-- By induction on the frames that were written: the stream has the whole
of the first of them, or only a part of it. -/
theorem longest_cut (hpos : 0 < F.headerLen) {frame : List α → List α} :
    ∀ {bodies : List (List α)} {stream : List α},
      (∀ body ∈ bodies, ∀ rest, F.Starts (frame body ++ rest) body rest) →
      stream <+: bodies.flatMap frame →
      ∃ left, F.Longest stream (whole (fun body => (frame body).length) stream.length bodies) left
        ∧ (left = [] ∨ ∃ body ∈ bodies, left <+: frame body) := by
  intro bodies
  induction bodies with
  | nil =>
      intro stream _ hcut
      obtain rfl : stream = [] := List.prefix_nil.mp hcut
      refine ⟨[], ⟨.nil, fun body rest h => ?_⟩, .inl rfl⟩
      exact absurd h.headerLen_le (Nat.not_le_of_lt hpos)
  | cons body bodies ih =>
      intro stream hstarts hcut
      obtain ⟨hbody, hbodies⟩ := List.forall_mem_cons.mp hstarts
      rw [List.flatMap_cons] at hcut
      rw [whole]
      split
      · rename_i hwhole
        obtain ⟨after, rfl⟩ := List.prefix_of_prefix_length_le (List.prefix_append _ _) hcut hwhole
        rw [List.prefix_append_right_inj] at hcut
        obtain ⟨left, hlongest, hleft⟩ := ih hbodies hcut
        rw [List.length_append, Nat.add_sub_cancel_left]
        refine ⟨left, hlongest.cons (hbody after), hleft.imp_right ?_⟩
        rintro ⟨body', hmem, hpre⟩
        exact ⟨body', List.mem_cons_of_mem _ hmem, hpre⟩
      · rename_i hshort
        have hpart : stream <+: frame body :=
          List.prefix_of_prefix_length_le hcut (List.prefix_append _ _) (by omega)
        have hframe := hbody []
        rw [List.append_nil] at hframe
        refine ⟨stream, ⟨.nil, fun body' rest h => ?_⟩, .inr ⟨body, by simp, hpart⟩⟩
        exact not_starts_of_cut hframe hpart (by omega) h

end Format

end Framing
