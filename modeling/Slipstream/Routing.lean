import Slipstream.LeaderHints
import Slipstream.Lts
import Slipstream.Publish

/-!
# Routing updates

The routing of a `MultiRegionClient` is updated by its leader-hint
listener and by any number of calls of `update_routing_from_hint`, which
run the same steps: read the last switch and check the cooldown; take the
routing lock, note the switch if the region changes, and install the
recommendation; and, with the lock released, send it to the subscribers.
Each of the three is a step of its own, between which other tasks run. (A
task that reads the last switch while another one holds the routing lock
reads it before or after that one has set it, and so counts as checking
before or after the install.)

The installs are logged with their instants. `routingOk_along` is what
always holds of the two cells. The cooldown holds exactly as long as no
task switches after another one has done so since its check
(`spaced_iff_unraced`), and the subscribers see the installs in order
exactly as long as no task is overtaken between its install and its send
(`converges_iff_inOrder`).
-/

namespace Slipstream

namespace Routing

/-! ## The tasks -/

inductive Task where
  | listener
  | update (call : Nat)
deriving Repr, DecidableEq

/-- How far a task is with its hint. -/
inductive Phase where
  | idle
  /-- Past the checks; `seen` is the last switch it has read. -/
  | checked (r : RoutingRecommendation) (seen : Option Nat)
  /-- The recommendation is installed, after `k` others, and not sent. -/
  | installed (k : Nat) (r : RoutingRecommendation)
  /-- Ended by a panic. -/
  | stopped
deriving Repr, DecidableEq

structure Install where
  instant : Nat
  recommendation : RoutingRecommendation
deriving Repr, DecidableEq

/-- The two cells and the tasks, with all hints received, all installs and
all that was sent, newest first. -/
structure State where
  now : Nat := 0
  currentRouting : Option RoutingRecommendation := none
  lastSwitch : Option Nat := none
  phase : Task → Phase := fun _ => .idle
  received : List LeaderHint := []
  installs : List Install := []
  sent : List (Nat × RoutingRecommendation) := []

inductive Action where
  | tick (elapsed : Duration)
  /-- The task gets a hint and goes through the checks. -/
  | check (task : Task) (hint : LeaderHint)
  | install (task : Task)
  | send (task : Task)

def shouldSwitch (current : Option RoutingRecommendation) (r : RoutingRecommendation) : Bool :=
  (current.map fun c => decide (c.bestRegion ≠ r.bestRegion)).getD true

def State.withPhase (s : State) (task : Task) (phase : Phase) : State :=
  { s with phase := Function.update s.phase task phase }

@[simp] theorem State.phase_withPhase_self (s : State) (task : Task) (phase : Phase) :
    (s.withPhase task phase).phase task = phase := Function.update_self ..

theorem State.phase_withPhase_ne (s : State) {task other : Task} (h : other ≠ task)
    (phase : Phase) : (s.withPhase task phase).phase other = s.phase other :=
  Function.update_of_ne h ..

/-- What becomes of a hint that was checked. -/
def afterCheck (lastSwitch : Option Nat) : Bytes.Checked (Option RoutingRecommendation) → Phase
  | .ok (some r) => .checked r lastSwitch
  | .ok none => .idle
  | .error _ => .stopped

def step (build : Build) (config : MultiRegionConfig) (s : State) : Action → Option State
  | .tick elapsed => some { s with now := s.now + elapsed }
  | .check task hint =>
      if s.phase task = .idle then
        some
          ({ s with received := hint :: s.received }.withPhase task
            (afterCheck s.lastSwitch (check build config s.lastSwitch s.now hint)))
      else none
  | .install task =>
      match s.phase task with
      | .checked r _ =>
          some
            ({ s with
              lastSwitch := if shouldSwitch s.currentRouting r then some s.now else s.lastSwitch
              currentRouting := some r
              installs := ⟨s.now, r⟩ :: s.installs }.withPhase task
                (.installed s.installs.length r))
      | _ => none
  | .send task =>
      match s.phase task with
      | .installed k r => some ({ s with sent := (k, r) :: s.sent }.withPhase task .idle)
      | _ => none

/-- What each action does. -/
inductive Step (build : Build) (config : MultiRegionConfig) (s : State) :
    Action → State → Prop where
  | tick {elapsed : Duration} :
      Step build config s (.tick elapsed) { s with now := s.now + elapsed }
  | dropped {task : Task} {hint : LeaderHint} (hidle : s.phase task = .idle) :
      Step build config s (.check task hint)
        ({ s with received := hint :: s.received }.withPhase task .idle)
  | panicked {task : Task} {hint : LeaderHint} (hidle : s.phase task = .idle) :
      Step build config s (.check task hint)
        ({ s with received := hint :: s.received }.withPhase task .stopped)
  | checked {task : Task} {hint : LeaderHint} (hidle : s.phase task = .idle)
      (hdrops : drops config s.lastSwitch s.now hint = false) :
      Step build config s (.check task hint)
        ({ s with received := hint :: s.received }.withPhase task
          (.checked (MultiRegion.recommendationOf hint) s.lastSwitch))
  | install {task : Task} {r : RoutingRecommendation} {seen : Option Nat}
      (hchecked : s.phase task = .checked r seen) :
      Step build config s (.install task)
        ({ s with
          lastSwitch := if shouldSwitch s.currentRouting r then some s.now else s.lastSwitch
          currentRouting := some r
          installs := ⟨s.now, r⟩ :: s.installs }.withPhase task
            (.installed s.installs.length r))
  | send {task : Task} {k : Nat} {r : RoutingRecommendation}
      (hinstalled : s.phase task = .installed k r) :
      Step build config s (.send task)
        ({ s with sent := (k, r) :: s.sent }.withPhase task .idle)

theorem step_cases {build : Build} {config : MultiRegionConfig} {s t : State} {a : Action}
    (h : step build config s a = some t) : Step build config s a t := by
  cases a with
  | tick elapsed => exact Option.some.inj h ▸ .tick
  | check task hint =>
      simp only [step] at h
      split at h
      · rename_i hidle
        obtain rfl := Option.some.inj h
        cases hdrops : drops config s.lastSwitch s.now hint with
        | true =>
            rw [check_of_drops build hdrops]
            exact .dropped hidle
        | false =>
            rw [check_of_keeps build hdrops]
            cases hr : recommend build hint with
            | error e => exact .panicked hidle
            | ok r =>
                obtain rfl := recommend_eq_ok hr
                exact .checked hidle hdrops
      · cases h
  | install task =>
      simp only [step] at h
      split at h
      · rename_i r seen hchecked
        exact Option.some.inj h ▸ .install hchecked
      · cases h
  | send task =>
      simp only [step] at h
      split at h
      · rename_i k r hinstalled
        exact Option.some.inj h ▸ .send hinstalled
      · cases h

/-! ## The log -/

/-- The instants at which the region changed, latest first. -/
def switches : List Install → List Nat
  | [] => []
  | [first] => [first.instant]
  | e :: before :: older =>
      if e.recommendation.bestRegion = before.recommendation.bestRegion then
        switches (before :: older)
      else e.instant :: switches (before :: older)

/-- An install is a switch if the updates take it for one. -/
theorem switches_cons (e : Install) (older : List Install) :
    switches (e :: older)
      = if shouldSwitch (older.head?.map fun e => e.recommendation) e.recommendation then
          e.instant :: switches older
        else switches older := by
  cases older with
  | nil => rfl
  | cons before older =>
      rw [switches, List.head?_cons, Option.map_some, shouldSwitch, Option.map_some,
        Option.getD_some]
      by_cases hsame : e.recommendation.bestRegion = before.recommendation.bestRegion
      · have hregion : ¬ before.recommendation.bestRegion ≠ e.recommendation.bestRegion :=
          fun hne => hne hsame.symm
        rw [if_pos hsame, decide_eq_false hregion]
        rfl
      · have hregion : before.recommendation.bestRegion ≠ e.recommendation.bestRegion :=
          fun heq => hsame heq.symm
        rw [if_neg hsame, decide_eq_true hregion]
        rfl

theorem switches_eq_nil : ∀ {installs : List Install}, switches installs = [] ↔ installs = [] := by
  intro installs
  induction installs with
  | nil => exact iff_of_true rfl rfl
  | cons e older ih =>
      refine iff_of_false (fun h => ?_) (List.cons_ne_nil _ _)
      rw [switches_cons] at h
      split at h
      · cases h
      · rename_i hsame
        -- the first install is always a switch
        rw [ih.mp h] at hsame
        exact hsame rfl

/-! ## The invariant -/

/-- The recommendation is that of a hint with enough confidence. -/
def Recommended (config : MultiRegionConfig) (received : List LeaderHint)
    (r : RoutingRecommendation) : Prop :=
  config.minSwitchConfidence ≤ r.confidence
    ∧ ∃ hint ∈ received, r = MultiRegion.recommendationOf hint

/-- What is known of a task past its checks: the cooldown has passed since
the switch it has seen. -/
def PhaseOk (config : MultiRegionConfig) (now : Nat) (received : List LeaderHint) :
    Phase → Prop
  | .checked r seen =>
      (∀ last ∈ seen, last + config.cooldown ≤ now) ∧ Recommended config received r
  | _ => True

structure Inv (config : MultiRegionConfig) (s : State) : Prop where
  current : s.currentRouting = s.installs.head?.map fun e => e.recommendation
  lastSwitch : s.lastSwitch = (switches s.installs).head?
  past : ∀ last ∈ s.lastSwitch, last ≤ s.now
  phases : ∀ task, PhaseOk config s.now s.received (s.phase task)
  installs : ∀ e ∈ s.installs, Recommended config s.received e.recommendation

theorem inv_init (config : MultiRegionConfig) : Inv config {} where
  current := rfl
  lastSwitch := rfl
  past := fun last h => by cases h
  phases := fun task => trivial
  installs := fun e h => by cases h

theorem forall_phase {P : Phase → Prop} {s : State} (h : ∀ task, P (s.phase task))
    (task : Task) {phase : Phase} (hphase : P phase) :
    ∀ other, P ((s.withPhase task phase).phase other) := by
  intro other
  by_cases hother : other = task
  · rw [hother, State.phase_withPhase_self]
    exact hphase
  · rw [State.phase_withPhase_ne s hother]
    exact h other

section Step

variable {build : Build} {config : MultiRegionConfig} {s t : State}

theorem Recommended.received {received : List LeaderHint} {r : RoutingRecommendation}
    (h : Recommended config received r) (hint : LeaderHint) :
    Recommended config (hint :: received) r := by
  obtain ⟨hconf, hint', hmem, rfl⟩ := h
  exact ⟨hconf, hint', List.mem_cons_of_mem _ hmem, rfl⟩

theorem PhaseOk.received {now : Nat} {received : List LeaderHint} {phase : Phase}
    (h : PhaseOk config now received phase) (hint : LeaderHint) :
    PhaseOk config now (hint :: received) phase := by
  cases phase with
  | checked r seen => exact ⟨h.1, h.2.received hint⟩
  | _ => trivial

theorem PhaseOk.later {now later : Nat} {received : List LeaderHint} {phase : Phase}
    (h : PhaseOk config now received phase) (hle : now ≤ later) :
    PhaseOk config later received phase := by
  cases phase with
  | checked r seen => exact ⟨fun last hlast => Nat.le_trans (h.1 last hlast) hle, h.2⟩
  | _ => trivial

/-- A task that has got a hint, and not installed it. -/
theorem Inv.received (h : Inv config s) (task : Task) (hint : LeaderHint) {phase : Phase}
    (hphase : PhaseOk config s.now (hint :: s.received) phase) :
    Inv config ({ s with received := hint :: s.received }.withPhase task phase) where
  current := h.current
  lastSwitch := h.lastSwitch
  past := h.past
  phases := forall_phase (fun other => (h.phases other).received hint) task hphase
  installs := fun e he => (h.installs e he).received hint

theorem Inv.installed (h : Inv config s) (task : Task) {r : RoutingRecommendation}
    (hr : Recommended config s.received r) :
    Inv config
      ({ s with
        lastSwitch := if shouldSwitch s.currentRouting r then some s.now else s.lastSwitch
        currentRouting := some r
        installs := ⟨s.now, r⟩ :: s.installs }.withPhase task
          (.installed s.installs.length r)) where
  current := rfl
  lastSwitch := by
    show (if shouldSwitch s.currentRouting r then some s.now else s.lastSwitch)
      = (switches (⟨s.now, r⟩ :: s.installs)).head?
    rw [switches_cons, h.current, h.lastSwitch]
    split <;> rfl
  past := by
    intro last hlast
    change last ∈ (if shouldSwitch s.currentRouting r then some s.now else s.lastSwitch) at hlast
    split at hlast
    · exact Nat.le_of_eq (Option.some.inj hlast).symm
    · exact h.past last hlast
  phases := forall_phase h.phases task trivial
  installs := List.forall_mem_cons.mpr ⟨hr, h.installs⟩

/-- A hint that is not dropped has the confidence, and comes after the
cooldown. -/
theorem not_drops {lastSwitch : Option Nat} {now : Nat} {hint : LeaderHint}
    (h : drops config lastSwitch now hint = false) (hpast : ∀ last ∈ lastSwitch, last ≤ now) :
    config.minSwitchConfidence ≤ hint.confidence
      ∧ ∀ last ∈ lastSwitch, last + config.cooldown ≤ now := by
  rw [drops, Bool.or_eq_false_iff] at h
  obtain ⟨hconf, hcooldown⟩ := h
  refine ⟨UInt32.not_lt.mp (of_decide_eq_false hconf), ?_⟩
  rintro last rfl
  have hle := hpast last rfl
  rw [Option.any_some, decide_eq_false_iff_not] at hcooldown
  omega

theorem inv_step {a : Action} (h : Inv config s) (hstep : step build config s a = some t) :
    Inv config t := by
  cases step_cases hstep with
  | @tick elapsed =>
      exact
        { current := h.current
          lastSwitch := h.lastSwitch
          past := fun last hlast => Nat.le_trans (h.past last hlast) (Nat.le_add_right ..)
          phases := fun task => (h.phases task).later (Nat.le_add_right ..)
          installs := h.installs }
  | dropped hidle => exact h.received _ _ trivial
  | panicked hidle => exact h.received _ _ trivial
  | @checked task hint hidle hdrops =>
      obtain ⟨hconf, hcooldown⟩ := not_drops hdrops h.past
      exact h.received _ _ ⟨hcooldown, hconf, hint, List.mem_cons_self, rfl⟩
  | @install task r seen hchecked =>
      have hphase := h.phases task
      rw [hchecked] at hphase
      exact h.installed task hphase.2
  | @send task k r hinstalled =>
      exact
        { current := h.current
          lastSwitch := h.lastSwitch
          past := h.past
          phases := forall_phase h.phases task trivial
          installs := h.installs }

end Step

/-- What holds of the routing and the last switch, when no task is in the
middle of an install. -/
structure RoutingOk (config : MultiRegionConfig) (s : State) : Prop where
  confident : ∀ r ∈ s.currentRouting, config.minSwitchConfidence ≤ r.confidence
  recommended : ∀ r ∈ s.currentRouting, ∃ hint ∈ s.received,
    r = MultiRegion.recommendationOf hint
  together : s.lastSwitch.isSome = s.currentRouting.isSome
  installed : s.currentRouting = s.installs.head?.map fun e => e.recommendation
  latest : s.lastSwitch = (switches s.installs).head?

theorem Inv.routingOk {config : MultiRegionConfig} {s : State} (h : Inv config s) :
    RoutingOk config s := by
  have hrecommended : ∀ r ∈ s.currentRouting, Recommended config s.received r := by
    intro r hr
    rw [h.current] at hr
    obtain ⟨e, he, rfl⟩ := Option.map_eq_some_iff.mp hr
    exact h.installs e (List.mem_of_head? he)
  refine ⟨fun r hr => (hrecommended r hr).1, fun r hr => (hrecommended r hr).2, ?_, h.current,
    h.lastSwitch⟩
  rw [h.lastSwitch, h.current]
  cases hinstalls : s.installs with
  | nil => rfl
  | cons e older =>
      cases hswitches : switches (e :: older) with
      | nil => exact absurd (switches_eq_nil.mp hswitches) (List.cons_ne_nil _ _)
      | cons last switches => rfl

/-- In every state of every run, the routing is the recommendation of a
hint that was received, and the last switch the instant at which its
region was first installed. -/
theorem routingOk_along (build : Build) (config : MultiRegionConfig) (actions : List Action) :
    Lts.Along (step build config) (RoutingOk config) {} actions :=
  (Lts.along_of_inv (fun _ _ _ => inv_step) (inv_init config)).mono fun _ h => h.routingOk

/-- A hint that has the confidence, for a region. -/
def hintFor (region : String) : LeaderHint where
  timestamp := 1706011200000
  slot := 12345678
  expiresAtSlot := 12345682
  preferredRegion := region
  backupRegions := []
  confidence := 85
  leaderPubkey := ""
  metadata := ⟨12, 0.85, none, none⟩

/-- Two tasks pass their checks before either of them installs. -/
def twoInstalls : List Action :=
  [.check .listener (hintFor "us-west"), .check (.update 0) (hintFor "us-east"),
    .install .listener, .install (.update 0)]

/-- The second of them is the routing, and its instant the last switch. -/
theorem twoInstalls_routingOk :
    ∃ s, Lts.run (step .debug {}) {} twoInstalls = some s ∧ RoutingOk {} s
      ∧ (s.currentRouting.map fun r => r.bestRegion) = some "us-east"
      ∧ s.lastSwitch = some 0 :=
  ⟨_, rfl, routingOk_along .debug {} twoInstalls _ _ (List.prefix_refl _) rfl, rfl, rfl⟩

/-! ## The cooldown -/

/-- Any two changes of the region are the cooldown apart. -/
def Spaced (config : MultiRegionConfig) (s : State) : Prop :=
  (switches s.installs).Pairwise fun later earlier => earlier + config.cooldown ≤ later

/-- A task that is going to change the region is the first to do so since
its check, or the cooldown has passed again. -/
def Unraced (config : MultiRegionConfig) (s : State) : Action → Prop
  | .install task => ∀ r seen, s.phase task = .checked r seen →
      shouldSwitch s.currentRouting r = true →
        s.lastSwitch = seen ∨ ∀ last ∈ s.lastSwitch, last + config.cooldown ≤ s.now
  | _ => True

/-- The cooldown has passed since all switches if it has since the
last. -/
theorem le_of_head?_le {cooldown now : Nat} {switches : List Nat}
    (h : switches.Pairwise fun later earlier => earlier + cooldown ≤ later)
    (hlast : ∀ last ∈ switches.head?, last + cooldown ≤ now) :
    ∀ earlier ∈ switches, earlier + cooldown ≤ now := by
  cases switches with
  | nil => intro earlier he; cases he
  | cons last switches =>
      have hle := hlast last rfl
      intro earlier he
      rcases List.mem_cons.mp he with rfl | he
      · exact hle
      · have hbefore := (List.pairwise_cons.mp h).1 earlier he
        omega

theorem spaced_step_iff {build : Build} {config : MultiRegionConfig} {s t : State} {a : Action}
    (hinv : Inv config s) (hs : Spaced config s) (h : step build config s a = some t) :
    Spaced config t ↔ Unraced config s a := by
  cases step_cases h with
  | @install task r seen hchecked =>
      have hphase := hinv.phases task
      rw [hchecked] at hphase
      have hcurrent : s.installs.head?.map (fun e => e.recommendation) = s.currentRouting :=
        hinv.current.symm
      show (switches (⟨s.now, r⟩ :: s.installs)).Pairwise _ ↔ _
      rw [switches_cons, hcurrent]
      cases hswitch : shouldSwitch s.currentRouting r with
      | false =>
          refine iff_of_true hs fun r' seen' hchecked' hswitch' => ?_
          obtain ⟨rfl, -⟩ := Phase.checked.inj (hchecked.symm.trans hchecked')
          rw [hswitch] at hswitch'
          cases hswitch'
      | true =>
          rw [if_pos rfl, List.pairwise_cons]
          constructor
          · rintro ⟨hall, -⟩ r' seen' - -
            refine .inr fun last hlast => hall last ?_
            rw [hinv.lastSwitch] at hlast
            exact List.mem_of_head? hlast
          · intro hunraced
            refine ⟨le_of_head?_le hs fun last hlast => ?_, hs⟩
            rw [← hinv.lastSwitch] at hlast
            rcases hunraced r seen hchecked hswitch with hseen | hpassed
            · exact hphase.1 last (hseen ▸ hlast)
            · exact hpassed last hlast
  | tick => exact iff_of_true hs trivial
  | dropped hidle => exact iff_of_true hs trivial
  | panicked hidle => exact iff_of_true hs trivial
  | checked hidle hdrops => exact iff_of_true hs trivial
  | send hinstalled => exact iff_of_true hs trivial

/-- On every run the changes of the region keep the cooldown exactly if
no task is raced between its check and its install. -/
theorem spaced_iff_unraced (build : Build) (config : MultiRegionConfig)
    (actions : List Action) :
    Lts.Along (step build config) (Spaced config) {} actions
      ↔ Lts.Guarded (step build config) (Unraced config) {} actions :=
  Lts.along_iff_guarded (fun _ _ _ => inv_step) (fun _ _ _ => spaced_step_iff)
    (inv_init config) .nil

/-- The region changes twice in the same instant, with a cooldown of half
a second. -/
theorem twoInstalls_unspaced :
    ¬ Lts.Along (step .debug {}) (Spaced {}) {} twoInstalls := by
  intro h
  have hlast := h _ _ (List.prefix_refl _) rfl
  revert hlast
  unfold Spaced
  decide

/-! ## The subscribers -/

def Phase.unsent : Phase → Option (Nat × RoutingRecommendation)
  | .installed k r => some (k, r)
  | _ => none

/-- The routing as a register that is published. -/
def State.published (s : State) : Publish.State Task RoutingRecommendation where
  log := s.installs.map fun e => e.recommendation
  sent := s.sent
  pending := fun task => (s.phase task).unsent

theorem unsent_withPhase (s : State) (task : Task) (phase : Phase) :
    (fun other => ((s.withPhase task phase).phase other).unsent)
      = Function.update (fun other => (s.phase other).unsent) task phase.unsent := by
  funext other
  by_cases hother : other = task
  · rw [hother, State.phase_withPhase_self, Function.update_self]
  · rw [State.phase_withPhase_ne s hother, Function.update_of_ne hother]

section Subscribers

variable {build : Build} {config : MultiRegionConfig} {s t : State}

/-- A task that gets a hint had nothing to send, and has nothing yet. -/
theorem published_received {task : Task} (hidle : s.phase task = .idle) (hint : LeaderHint)
    {phase : Phase} (hphase : phase.unsent = none) :
    ({ s with received := hint :: s.received }.withPhase task phase).published
      = s.published := by
  have hpending := unsent_withPhase { s with received := hint :: s.received } task phase
  have hnone : (s.phase task).unsent = none := by rw [hidle]; rfl
  rw [hphase, ← hnone, Function.update_eq_self] at hpending
  rw [State.published, hpending]
  rfl

/-- The steps of the register, or none at all. -/
inductive PublishStep (s t : State) : Action → Prop where
  | same {a : Action} (ha : ∀ task, a ≠ .send task) (hsame : t.published = s.published) :
      PublishStep s t a
  | install {task : Task} {r : RoutingRecommendation}
      (hnone : s.published.pending task = none)
      (hinstall : t.published = s.published.install task r) : PublishStep s t (.install task)
  | send {task : Task} {k : Nat} {r : RoutingRecommendation}
      (hinstalled : s.phase task = .installed k r)
      (hsend : t.published = s.published.publish task (k, r)) : PublishStep s t (.send task)

/-- The routing and its subscribers are a register that is published. -/
theorem publish_step {a : Action} (h : step build config s a = some t) : PublishStep s t a := by
  cases step_cases h with
  | tick => exact .same (fun _ => nofun) rfl
  | dropped hidle => exact .same (fun _ => nofun) (published_received hidle _ rfl)
  | panicked hidle => exact .same (fun _ => nofun) (published_received hidle _ rfl)
  | checked hidle hdrops => exact .same (fun _ => nofun) (published_received hidle _ rfl)
  | @install task r seen hchecked =>
      refine .install (r := r) ?_ ?_
      · show (s.phase task).unsent = none
        rw [hchecked]
        rfl
      · rw [State.published, unsent_withPhase, Publish.State.install, State.published,
          List.length_map]
        rfl
  | @send task k r hinstalled =>
      refine .send hinstalled ?_
      rw [State.published, unsent_withPhase]
      rfl

/-- The invariant, with that of the register. -/
structure Published (config : MultiRegionConfig) (s : State) : Prop where
  inv : Inv config s
  kept : s.published.Kept

theorem published_step {a : Action} (hs : Published config s)
    (h : step build config s a = some t) : Published config t := by
  refine ⟨inv_step hs.inv h, ?_⟩
  cases publish_step h with
  | same ha hsame => exact hsame ▸ hs.kept
  | install hnone hinstall => exact hinstall ▸ hs.kept.install hnone _
  | @send task k r hinstalled hsend =>
      refine hsend ▸ hs.kept.publish ?_
      show (s.phase task).unsent = some (k, r)
      rw [hinstalled]
      rfl

/-- No update is in progress. -/
def Quiescent (s : State) : Prop :=
  ∀ task, s.phase task = .idle ∨ s.phase task = .stopped

/-- The updates were sent in the order of their installs, and when none
is in progress the last one sent is the current routing. -/
structure Converges (s : State) : Prop where
  inOrder : s.sent.Pairwise fun later earlier => earlier.1 < later.1
  converged : Quiescent s → s.installs ≠ [] → s.sent.head?.map Prod.snd = s.currentRouting

theorem converges_iff (hs : Published config s) : Converges s ↔ s.published.InOrder := by
  refine ⟨fun h => h.inOrder, fun horder => ⟨horder, fun hquiet _ => ?_⟩⟩
  have hnone : ∀ task, s.published.pending task = none := by
    intro task
    show (s.phase task).unsent = none
    rcases hquiet task with hphase | hphase <;> rw [hphase] <;> rfl
  have hlast := horder.converged hs.kept hnone
  rw [hs.inv.current]
  exact hlast.trans List.head?_map

/-- A task that is going to send its update was not overtaken: none that
was installed after it has been sent. -/
def NotOvertaken (s : State) : Action → Prop
  | .send task => ∀ k r, s.phase task = .installed k r → ∀ u ∈ s.sent, u.1 < k
  | _ => True

theorem converges_step_iff {a : Action} (hs : Published config s) (hc : Converges s)
    (h : step build config s a = some t) : Converges t ↔ NotOvertaken s a := by
  rw [converges_iff (published_step hs h)]
  have horder := (converges_iff hs).mp hc
  cases publish_step h with
  | same ha hsame =>
      rw [hsame]
      refine iff_of_true horder ?_
      cases a with
      | send task => exact absurd rfl (ha task)
      | _ => trivial
  | install hnone hinstall =>
      rw [hinstall]
      exact iff_of_true horder trivial
  | @send task k r hinstalled hsend =>
      rw [hsend, Publish.State.inOrder_publish_iff]
      constructor
      · rintro ⟨-, hlater⟩ k' r' hinstalled'
        obtain ⟨rfl, -⟩ := Phase.installed.inj (hinstalled.symm.trans hinstalled')
        exact hlater
      · intro hlater
        exact ⟨horder, hlater k r hinstalled⟩

end Subscribers

/-- On every run the subscribers converge on the current routing, and
see the updates in order, exactly if no update is overtaken between its
install and its send. -/
theorem converges_iff_inOrder (build : Build) (config : MultiRegionConfig)
    (actions : List Action) :
    Lts.Along (step build config) Converges {} actions
      ↔ Lts.Guarded (step build config) NotOvertaken {} actions :=
  Lts.along_iff_guarded (fun _ _ _ => published_step) (fun _ _ _ => converges_step_iff)
    ⟨inv_init config, Publish.State.kept_init⟩ ⟨.nil, fun _ hne => absurd rfl hne⟩

/-- The listener installs first and sends last. -/
theorem overtaken_diverges :
    ¬ Lts.Along (step .debug {}) Converges {}
      (twoInstalls ++ [.send (.update 0), .send .listener]) := by
  intro h
  have hlast := h _ _ (List.prefix_refl _) rfl
  have hsubscribers := hlast.converged
    (fun task => by cases task with
      | listener => exact .inl rfl
      | update call => cases call <;> exact .inl rfl)
    (List.cons_ne_nil _ _)
  revert hsubscribers
  decide

/-! ## Submissions -/

/-- The regions of a submission that does not broadcast: that of the first
worker until a hint is installed, and then those of one hint that was
received, all tried at once after each other. -/
def Routes (config : MultiRegionConfig) (workers : List WorkerEndpoint) (s : State) : Prop :=
  ∀ options : SubmitOptions, options.broadcastMode = false →
    ∃ regions, MultiRegion.attemptsOf workers s.currentRouting options
        = some (regions.map fun region => (0, region))
      ∧ ((s.installs = [] ∧ regions = [(workers.head?.map fun w => w.region).getD "unknown"])
        ∨ ∃ hint ∈ s.received, config.minSwitchConfidence ≤ hint.confidence
          ∧ regions = hint.preferredRegion :: hint.backupRegions)

theorem Inv.routes {config : MultiRegionConfig} {s : State} (h : Inv config s)
    (workers : List WorkerEndpoint) : Routes config workers s := by
  intro options hbroadcast
  have hif : ¬ options.broadcastMode = true := by simp [hbroadcast]
  have hcurrent := h.current
  unfold MultiRegion.attemptsOf
  dsimp only
  cases hinstalls : s.installs with
  | nil =>
      rw [hinstalls] at hcurrent
      change s.currentRouting = none at hcurrent
      rw [hcurrent, if_neg hif]
      refine ⟨[(workers.head?.map fun w => w.region).getD "unknown"], ?_, .inl ⟨rfl, rfl⟩⟩
      cases workers <;> rfl
  | cons e older =>
      obtain ⟨hconf, hint, hmem, hr⟩ := h.installs e (hinstalls ▸ List.mem_cons_self)
      rw [hinstalls] at hcurrent
      change s.currentRouting = some e.recommendation at hcurrent
      rw [hr] at hconf hcurrent
      rw [hcurrent, if_neg hif]
      exact ⟨hint.preferredRegion :: hint.backupRegions, rfl, .inr ⟨hint, hmem, hconf, rfl⟩⟩

/-- Only an install changes where submissions go; no recommendation runs
out. -/
theorem currentRouting_step {build : Build} {config : MultiRegionConfig} {s t : State}
    {a : Action} (ha : ∀ task, a ≠ .install task) (h : step build config s a = some t) :
    t.currentRouting = s.currentRouting := by
  cases step_cases h with
  | install hchecked => exact absurd rfl (ha _)
  | _ => rfl

theorem currentRouting_run {build : Build} {config : MultiRegionConfig} :
    ∀ {actions : List Action} {s t : State}, (∀ a ∈ actions, ∀ task, a ≠ .install task) →
      Lts.run (step build config) s actions = some t → t.currentRouting = s.currentRouting := by
  intro actions
  induction actions with
  | nil =>
      intro s t _ hrun
      rw [Option.some.inj hrun]
  | cons a actions ih =>
      intro s t hactions hrun
      obtain ⟨ha, hactions⟩ := List.forall_mem_cons.mp hactions
      rw [Lts.run_cons, Option.bind_eq_some_iff] at hrun
      obtain ⟨u, hstep, hrun⟩ := hrun
      rw [ih hactions hrun, currentRouting_step ha hstep]

/-- In every state of every run submissions follow one hint, at once and
one region after the other, and go on doing so until another is
installed, however long that takes. -/
theorem routes_along (build : Build) (config : MultiRegionConfig) (workers : List WorkerEndpoint)
    (actions : List Action) :
    Lts.Along (step build config)
      (fun s => Routes config workers s
        ∧ ∀ later t, (∀ a ∈ later, ∀ task, a ≠ .install task) →
          Lts.run (step build config) s later = some t →
            ∀ options, MultiRegion.attemptsOf workers t.currentRouting options
              = MultiRegion.attemptsOf workers s.currentRouting options)
      {} actions := by
  intro done s hdone hrun
  have hinv : Inv config s := Lts.along_of_inv (fun _ _ _ => inv_step) (inv_init config) done s
    hdone hrun
  refine ⟨hinv.routes workers, fun later t hlater hrun options => ?_⟩
  rw [currentRouting_run hlater hrun]

end Routing

end Slipstream
