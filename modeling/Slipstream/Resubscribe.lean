import Slipstream.Lts
import Slipstream.Types

/-!
# Subscriptions across a reconnect

A client's `subscribe_*` notes the kind of stream in the tracker and
opens it on the transport in place. After a reconnect the health monitor
takes the kinds in the tracker and opens them again on the new
transport, next to whatever the application does meanwhile.

The tracker is told before the stream is open, and never that a receiver
is gone; and the receivers the monitor opens are dropped as they are
returned. `effectiveExact_iff_held` says when that makes no difference:
nothing in the tracker lacks a receiver when it is read, and no stream
is opened again that the application has not opened itself on the new
transport.
-/

namespace Slipstream

/-- The kinds of stream that have been subscribed to, a hash set. -/
structure SubscriptionTracker where
  active : List StreamKind := []
deriving Repr, DecidableEq

def SubscriptionTracker.track (t : SubscriptionTracker) (k : StreamKind) :
    SubscriptionTracker :=
  ⟨if k ∈ t.active then t.active else k :: t.active⟩

theorem SubscriptionTracker.mem_track {t : SubscriptionTracker} {j k : StreamKind} :
    j ∈ (t.track k).active ↔ j = k ∨ j ∈ t.active := by
  unfold track
  by_cases h : k ∈ t.active
  · rw [if_pos h]
    constructor
    · exact .inr
    · rintro (rfl | hj)
      · exact h
      · exact hj
  · rw [if_neg h, List.mem_cons]

namespace Resubscribe

/-! ## The client, the monitor and the receivers -/

/-- A receiver that a `subscribe_*` of some transport returned, until it
is dropped. -/
structure Receiver where
  kind : StreamKind
  transport : Nat
  alive : Bool
deriving Repr, DecidableEq

/-- Where the monitor is: `resubscribing` holds the kinds it has not come
to yet. -/
inductive Phase where
  | watching
  | reconnected
  | resubscribing (streams : List StreamKind)
deriving Repr, DecidableEq

/-- What the monitor read from the tracker, and of which kinds the
application held a receiver then. -/
structure Snapshot where
  streams : List StreamKind
  held : List StreamKind
deriving Repr, DecidableEq

/-- A stream the monitor has opened again, and whether its messages reach
a receiver. -/
structure Reopened where
  kind : StreamKind
  delivers : Bool
deriving Repr, DecidableEq

/-- Transports are numbered in the order they were installed. `pending`
are the calls that have told the tracker and not opened their stream;
`snapshots` and `reopened` are histories. -/
structure State where
  transport : Nat := 0
  tracker : SubscriptionTracker := {}
  pending : List StreamKind := []
  receivers : List Receiver := []
  phase : Phase := .watching
  snapshots : List Snapshot := []
  reopened : List Reopened := []
deriving Repr, DecidableEq

inductive Action where
  /-- A `subscribe_*` call tells the tracker. -/
  | subscribe (k : StreamKind)
  /-- It opens the stream, holding the transport for reading. -/
  | opened (k : StreamKind) (ok : Bool)
  | dropReceiver (i : Nat)
  /-- A reconnect has installed its transport. -/
  | reconnect
  /-- `resubscribe` reads the tracker, in whatever order it comes. -/
  | activeStreams (streams : List StreamKind)
  /-- It opens the next stream. -/
  | reopen (ok : Bool)

namespace State

/-- The kinds the application holds a receiver of. -/
def held (s : State) : List StreamKind :=
  (s.receivers.filter fun r => r.alive).map fun r => r.kind

/-- A message of the kind that arrives on the transport in place reaches
a receiver: a transport feeds the channels of the subscriptions it has
opened. What one loses on the way is that transport's own matter. -/
def delivers (s : State) (k : StreamKind) : Bool :=
  s.receivers.any fun r => decide (r.kind = k ∧ r.transport = s.transport) && r.alive

/-- `transport.subscribe_*`, with the receiver kept or dropped. -/
def opened (s : State) (k : StreamKind) (kept : Bool) : State :=
  { s with receivers := ⟨k, s.transport, kept⟩ :: s.receivers }

def reopen (s : State) (k : StreamKind) : State :=
  -- `.map(|_| ())` drops the receiver
  let s := s.opened k false
  { s with reopened := ⟨k, s.delivers k⟩ :: s.reopened }

end State

/-- The phase in which these streams are to be opened. -/
def Phase.next : List StreamKind → Phase
  | [] => .watching
  | k :: ks => .resubscribing (k :: ks)

def step (s : State) : Action → Option State
  | .subscribe k => some { s with tracker := s.tracker.track k, pending := k :: s.pending }
  | .opened k ok =>
      if k ∈ s.pending then
        let s := { s with pending := s.pending.erase k }
        some (if ok then s.opened k true else s)
      else none
  | .dropReceiver i =>
      match s.receivers[i]? with
      | some r => some { s with receivers := s.receivers.set i { r with alive := false } }
      | none => none
  | .reconnect =>
      if s.phase = .watching then
        some { s with transport := s.transport + 1, phase := .reconnected }
      else none
  | .activeStreams streams =>
      if s.phase = .reconnected ∧ streams.Perm s.tracker.active then
        some
          { s with
            phase := .next streams
            snapshots := ⟨streams, s.held⟩ :: s.snapshots }
      else none
  | .reopen ok =>
      match s.phase with
      | .resubscribing (k :: ks) =>
          let s := { s with phase := .next ks }
          some (if ok then s.reopen k else s)
      | _ => none

/-- What each action can do, in one place. -/
inductive Step (s : State) : Action → State → Prop where
  | subscribe {k : StreamKind} :
      Step s (.subscribe k) { s with tracker := s.tracker.track k, pending := k :: s.pending }
  | opened {k : StreamKind} (hk : k ∈ s.pending) :
      Step s (.opened k true) ({ s with pending := s.pending.erase k }.opened k true)
  | refused {k : StreamKind} (hk : k ∈ s.pending) :
      Step s (.opened k false) { s with pending := s.pending.erase k }
  | dropReceiver {i : Nat} {r : Receiver} (hi : s.receivers[i]? = some r) :
      Step s (.dropReceiver i)
        { s with receivers := s.receivers.set i { r with alive := false } }
  | reconnect (hphase : s.phase = .watching) :
      Step s .reconnect { s with transport := s.transport + 1, phase := .reconnected }
  | activeStreams {streams : List StreamKind} (hphase : s.phase = .reconnected)
      (hperm : streams.Perm s.tracker.active) :
      Step s (.activeStreams streams)
        { s with
          phase := .next streams
          snapshots := ⟨streams, s.held⟩ :: s.snapshots }
  | reopened {k : StreamKind} {ks : List StreamKind}
      (hphase : s.phase = .resubscribing (k :: ks)) :
      Step s (.reopen true) ({ s with phase := .next ks }.reopen k)
  | reopenFailed {k : StreamKind} {ks : List StreamKind}
      (hphase : s.phase = .resubscribing (k :: ks)) :
      Step s (.reopen false) { s with phase := .next ks }

theorem step_cases {s t : State} {a : Action} (h : step s a = some t) : Step s a t := by
  cases a with
  | subscribe k => exact Option.some.inj h ▸ .subscribe
  | opened k ok =>
      simp only [step] at h
      split at h
      · rename_i hk
        cases ok with
        | true => exact Option.some.inj h ▸ .opened hk
        | false => exact Option.some.inj h ▸ .refused hk
      · cases h
  | dropReceiver i =>
      simp only [step] at h
      split at h
      · rename_i r hi
        exact Option.some.inj h ▸ .dropReceiver hi
      · cases h
  | reconnect =>
      simp only [step] at h
      split at h
      · rename_i hphase
        exact Option.some.inj h ▸ .reconnect hphase
      · cases h
  | activeStreams streams =>
      simp only [step] at h
      split at h
      · rename_i hready
        exact Option.some.inj h ▸ .activeStreams hready.1 hready.2
      · cases h
  | reopen ok =>
      simp only [step] at h
      split at h
      · rename_i k ks hphase
        cases ok with
        | true => exact Option.some.inj h ▸ .reopened hphase
        | false => exact Option.some.inj h ▸ .reopenFailed hphase
      · cases h

/-! ## What is tracked -/

/-- A kind the application holds a receiver of is in the tracker, and so
is one that a call is about to open. -/
structure State.Tracked (s : State) : Prop where
  receivers : ∀ r ∈ s.receivers, r.alive = true → r.kind ∈ s.tracker.active
  pending : ∀ k ∈ s.pending, k ∈ s.tracker.active

theorem State.mem_held {s : State} {k : StreamKind} :
    k ∈ s.held ↔ ∃ r ∈ s.receivers, r.alive = true ∧ r.kind = k := by
  simp only [held, List.mem_map, List.mem_filter, and_assoc]

theorem State.Tracked.mem_of_held {s : State} (h : s.Tracked) {k : StreamKind}
    (hk : k ∈ s.held) : k ∈ s.tracker.active := by
  obtain ⟨r, hr, halive, rfl⟩ := State.mem_held.mp hk
  exact h.receivers r hr halive

theorem State.Tracked.opened {s : State} {k : StreamKind} {kept : Bool} (h : s.Tracked)
    (hk : kept = true → k ∈ s.tracker.active) : (s.opened k kept).Tracked where
  receivers := by
    intro r hr halive
    rcases List.mem_cons.mp hr with rfl | hr
    · exact hk halive
    · exact h.receivers r hr halive
  pending := h.pending

theorem tracked_init : State.Tracked {} where
  receivers := fun r hr => by cases hr
  pending := fun k hk => by cases hk

theorem tracked_step {s t : State} {a : Action} (h : s.Tracked)
    (hstep : step s a = some t) : t.Tracked := by
  cases step_cases hstep with
  | @subscribe k =>
      have hkeep : ∀ {j}, j ∈ s.tracker.active → j ∈ (s.tracker.track k).active :=
        fun hj => SubscriptionTracker.mem_track.mpr (.inr hj)
      refine ⟨fun r hr halive => hkeep (h.receivers r hr halive), fun j hj => ?_⟩
      rcases List.mem_cons.mp hj with rfl | hj
      · exact SubscriptionTracker.mem_track.mpr (.inl rfl)
      · exact hkeep (h.pending j hj)
  | @opened k hk =>
      have herase : ({ s with pending := s.pending.erase k } : State).Tracked :=
        ⟨h.receivers, fun j hj => h.pending j (List.mem_of_mem_erase hj)⟩
      exact herase.opened fun _ => h.pending k hk
  | refused => exact ⟨h.receivers, fun j hj => h.pending j (List.mem_of_mem_erase hj)⟩
  | dropReceiver =>
      refine ⟨fun r hr halive => ?_, h.pending⟩
      rcases List.mem_or_eq_of_mem_set hr with hr | rfl
      · exact h.receivers r hr halive
      · cases halive
  | reconnect => exact ⟨h.receivers, h.pending⟩
  | activeStreams => exact ⟨h.receivers, h.pending⟩
  | @reopened k ks =>
      have hopened : ({ s with phase := .next ks } : State).Tracked := ⟨h.receivers, h.pending⟩
      have hdropped : (({ s with phase := .next ks } : State).opened k false).Tracked :=
        hopened.opened nofun
      exact ⟨hdropped.receivers, hdropped.pending⟩
  | reopenFailed => exact ⟨h.receivers, h.pending⟩

/-! ## What is opened again -/

/-- The monitor read exactly the kinds the application held receivers of,
and the streams it opened again reach one. -/
structure EffectiveExact (s : State) : Prop where
  exact : ∀ p ∈ s.snapshots, ∀ k, k ∈ p.streams ↔ k ∈ p.held
  effective : ∀ r ∈ s.reopened, r.delivers = true

/-- The kinds that are still to be opened. -/
def Phase.streams : Phase → List StreamKind
  | .resubscribing ks => ks
  | _ => []

/-- When the tracker is read the application holds a receiver of every
kind in it, and a stream is opened again only where the application has
one from the new transport. -/
def Held (s : State) : Action → Prop
  | .activeStreams _ => ∀ k ∈ s.tracker.active, k ∈ s.held
  | .reopen true => ∀ k ∈ s.phase.streams.head?, s.delivers k = true
  | _ => True

theorem effectiveExact_init : EffectiveExact {} where
  exact := fun p hp => by cases hp
  effective := fun r hr => by cases hr

/-- A receiver that is dropped at once receives nothing. -/
theorem State.delivers_opened_dropped (s : State) (k j : StreamKind) :
    (s.opened k false).delivers j = s.delivers j := by
  rw [delivers, opened, List.any_cons, Bool.and_false, Bool.false_or]
  rfl

theorem State.reopened_reopen (s : State) (k : StreamKind) :
    (s.reopen k).reopened = ⟨k, s.delivers k⟩ :: s.reopened := by
  simp only [reopen, delivers_opened_dropped]
  rfl

theorem effectiveExact_step {s t : State} {a : Action} (hs : s.Tracked)
    (he : EffectiveExact s) (hstep : step s a = some t) :
    EffectiveExact t ↔ Held s a := by
  cases step_cases hstep with
  | subscribe => exact iff_of_true ⟨he.exact, he.effective⟩ trivial
  | opened => exact iff_of_true ⟨he.exact, he.effective⟩ trivial
  | refused => exact iff_of_true ⟨he.exact, he.effective⟩ trivial
  | dropReceiver => exact iff_of_true ⟨he.exact, he.effective⟩ trivial
  | reconnect => exact iff_of_true ⟨he.exact, he.effective⟩ trivial
  | reopenFailed => exact iff_of_true ⟨he.exact, he.effective⟩ trivial
  | @activeStreams streams _ hperm =>
      constructor
      · intro ht k hk
        exact (ht.exact _ List.mem_cons_self k).mp (hperm.mem_iff.mpr hk)
      · intro hheld
        refine ⟨fun p hp => ?_, he.effective⟩
        rcases List.mem_cons.mp hp with rfl | hp
        · intro k
          constructor
          · exact fun hk => hheld k (hperm.mem_iff.mp hk)
          -- what is held was tracked
          · exact fun hk => hperm.mem_iff.mpr (hs.mem_of_held hk)
        · exact he.exact p hp
  | @reopened k ks hphase =>
      have hlog : ({ s with phase := .next ks }.reopen k).reopened
          = ⟨k, s.delivers k⟩ :: s.reopened := State.reopened_reopen _ k
      constructor
      · intro ht j hj
        rw [hphase] at hj
        obtain rfl := Option.some.inj hj
        exact ht.effective ⟨k, s.delivers k⟩ (by rw [hlog]; exact List.mem_cons_self)
      · intro hheld
        refine ⟨he.exact, fun r hr => ?_⟩
        rw [hlog] at hr
        rcases List.mem_cons.mp hr with rfl | hr
        · exact hheld k (by rw [hphase]; rfl)
        · exact he.effective r hr

/-- Resubscribing is effective and exact along a run exactly if every
kind in the tracker is held whenever the tracker is read, and every
stream that is opened again has been opened by the application too. -/
theorem effectiveExact_iff_held (as : List Action) :
    Lts.Along step EffectiveExact {} as ↔ Lts.Guarded step Held {} as :=
  Lts.along_iff_guarded (fun _ _ _ => tracked_step) (fun _ _ _ => effectiveExact_step)
    tracked_init effectiveExact_init

/-- The application subscribes and keeps its receiver. The reconnect
opens the stream on the new transport and drops what it got. -/
theorem reopened_unheard :
    ¬ Lts.Along step EffectiveExact {}
      [.subscribe .leaderHints, .opened .leaderHints true, .reconnect,
        .activeStreams [.leaderHints], .reopen true] := by
  intro h
  have hlast := h _ _ (List.prefix_refl _) rfl
  have hfed : false = true := hlast.effective ⟨.leaderHints, false⟩ List.mem_cons_self
  cases hfed

end Resubscribe

end Slipstream
