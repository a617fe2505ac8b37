import Slipstream.RegionMap

/-!
# Concurrent calls for a region

`ensure_region_connected` looks for a client of the region under the read
lock. If there is none it selects a worker and connects, under no lock,
and inserts the client under the write lock, without looking again. So
two calls that both look before either inserts end up with a client each.

The system is that of `RegionMap` with all these steps apart, for any
number of `submit_to_region` calls. `oneClient_iff` says what keeps every
region with a single client: whenever a connect succeeds, no other client
of the region is in the map or about to be inserted.
-/

namespace Slipstream

namespace RegionCalls

open RegionMap

/-- Where a `submit_to_region` is. -/
inductive Call where
  | selecting (region : String)
  | connecting (region : String) (worker : WorkerEndpoint)
  /-- It has connected a client, which has its health monitor running. -/
  | inserting (region : String) (client : RegionClient)
  | ensured (region : String)
  | handedOver (client : RegionClient)
  | failed (error : SdkError)

/-- `replaced` are the clients in place of which others were inserted. -/
structure State where
  selector : WorkerSelector
  regionClients : AList fun _ : String => RegionClient := ∅
  calls : List Call := []
  replaced : List (String × RegionClient) := []

/-- The call inserts its client under the write lock. -/
def State.inserted (s : State) (i : Nat) (region : String) (c : RegionClient) : State :=
  { s with
    regionClients := s.regionClients.insert region c
    calls := s.calls.set i (.ensured region)
    replaced :=
      match s.regionClients.lookup region with
      | some old => (region, old) :: s.replaced
      | none => s.replaced }

/-- A reconnect of the health monitor changes a client where it is, and is
left out. -/
inductive Action where
  | submitToRegion (region : String)
  | select (i : Nat) (r : WorkerSelector.Readings)
  | connect (i : Nat) (env : Surroundings)
  | insert (i : Nat)
  | handOver (i : Nat)
  /-- Other uses of the selector. -/
  | measured (latencies : Latencies)
  | disconnectAll

def step (config : Config) (s : State) : Action → Option State
  | .submitToRegion region =>
      match s.regionClients.lookup region with
      | some _ => some { s with calls := s.calls ++ [.ensured region] }
      | none => some { s with calls := s.calls ++ [.selecting region] }
  | .select i r =>
      match s.calls[i]? with
      | some (.selecting region) =>
          match s.selector.selectBestInRegion region r with
          | (selector, .ok worker) =>
              some
                { s with
                  selector := selector
                  calls := s.calls.set i (.connecting region worker) }
          | (selector, .error e) =>
              some { s with selector := selector, calls := s.calls.set i (.failed e) }
      | _ => none
  | .connect i env =>
      match s.calls[i]? with
      | some (.connecting region worker) =>
          match connectRegion config region worker env with
          | .ok c => some { s with calls := s.calls.set i (.inserting region c) }
          | .error e => some { s with calls := s.calls.set i (.failed e) }
      | _ => none
  | .insert i =>
      match s.calls[i]? with
      | some (.inserting region c) => some (s.inserted i region c)
      | _ => none
  | .handOver i =>
      match s.calls[i]? with
      | some (.ensured region) =>
          match s.regionClients.lookup region with
          | some c => some { s with calls := s.calls.set i (.handedOver c) }
          | none =>
              let e := .connection ("Not connected to region: " ++ region)
              some { s with calls := s.calls.set i (.failed e) }
      | _ => none
  | .measured latencies =>
      some { s with selector := { s.selector with latencies := latencies } }
  | .disconnectAll => some { s with regionClients := ∅ }

/-! ## Who holds a client -/

def Call.Holds (call : Call) (region : String) : Prop := ∃ c, call = .inserting region c

/-- A client of the region is alive: in the map (`none`), or with a call
that has not inserted it yet. -/
def State.Holds (s : State) (region : String) : Option Nat → Prop
  | none => (s.regionClients.lookup region).isSome
  | some i => ∃ call, s.calls[i]? = some call ∧ call.Holds region

/-- No entry has been replaced, and each region has at most one client
that is alive. -/
structure OneClient (s : State) : Prop where
  kept : s.replaced = []
  unique : ∀ region h h', s.Holds region h → s.Holds region h' → h = h'

/-- A connect that succeeds finds no other client of its region alive. -/
def FindsNone (config : Config) (s : State) : Action → Prop
  | .connect i env =>
      ∀ region worker c, s.calls[i]? = some (.connecting region worker) →
        connectRegion config region worker env = .ok c → ∀ h, ¬ s.Holds region h
  | _ => True

/-- What each action can do; a call that neither gets nor gives away a
client is said to move. -/
inductive Step (config : Config) (s : State) : Action → State → Prop where
  | started {region : String} {call : Call} (hcall : ∀ r, ¬ call.Holds r) :
      Step config s (.submitToRegion region) { s with calls := s.calls ++ [call] }
  | moved {a : Action} {i : Nat} {call call' : Call} {selector : WorkerSelector}
      (hi : s.calls[i]? = some call) (hcall : ∀ r, ¬ call.Holds r)
      (hcall' : ∀ r, ¬ call'.Holds r) (ha : ∀ j env, a ≠ .connect j env) :
      Step config s a { s with selector := selector, calls := s.calls.set i call' }
  | connected {i : Nat} {env : Surroundings} {region : String} {worker : WorkerEndpoint}
      {c : RegionClient} (hi : s.calls[i]? = some (.connecting region worker))
      (hc : connectRegion config region worker env = .ok c) :
      Step config s (.connect i env) { s with calls := s.calls.set i (.inserting region c) }
  | notConnected {i : Nat} {env : Surroundings} {region : String} {worker : WorkerEndpoint}
      {e : SdkError} (hi : s.calls[i]? = some (.connecting region worker))
      (he : connectRegion config region worker env = .error e) :
      Step config s (.connect i env) { s with calls := s.calls.set i (.failed e) }
  | inserted {i : Nat} {region : String} {c : RegionClient}
      (hi : s.calls[i]? = some (.inserting region c)) :
      Step config s (.insert i) (s.inserted i region c)
  | measured {latencies : Latencies} :
      Step config s (.measured latencies)
        { s with selector := { s.selector with latencies := latencies } }
  | disconnectAll : Step config s .disconnectAll { s with regionClients := ∅ }

theorem step_cases {config : Config} {s t : State} {a : Action}
    (h : step config s a = some t) : Step config s a t := by
  cases a with
  | submitToRegion region =>
      simp only [step] at h
      split at h
      · exact Option.some.inj h ▸ .started (by simp [Call.Holds])
      · exact Option.some.inj h ▸ .started (by simp [Call.Holds])
  | select i r =>
      simp only [step] at h
      split at h
      · rename_i hi
        split at h
        · exact Option.some.inj h ▸
            .moved hi (by simp [Call.Holds]) (by simp [Call.Holds]) (by simp)
        · exact Option.some.inj h ▸
            .moved hi (by simp [Call.Holds]) (by simp [Call.Holds]) (by simp)
      · cases h
  | connect i env =>
      simp only [step] at h
      split at h
      · rename_i hi
        split at h
        · rename_i hc
          exact Option.some.inj h ▸ .connected hi hc
        · rename_i he
          exact Option.some.inj h ▸ .notConnected hi he
      · cases h
  | insert i =>
      simp only [step] at h
      split at h
      · rename_i hi
        exact Option.some.inj h ▸ .inserted hi
      · cases h
  | handOver i =>
      simp only [step] at h
      split at h
      · rename_i hi
        split at h
        · exact Option.some.inj h ▸
            .moved hi (by simp [Call.Holds]) (by simp [Call.Holds]) (by simp)
        · exact Option.some.inj h ▸
            .moved hi (by simp [Call.Holds]) (by simp [Call.Holds]) (by simp)
      · cases h
  | measured latencies => exact Option.some.inj h ▸ .measured
  | disconnectAll => exact Option.some.inj h ▸ .disconnectAll

/-! ## Steps -/

section Holders

variable {s : State} {i : Nat} {call call' : Call} {region : String}

/-- A call is a holder by what it is. -/
theorem holds_call_iff (hi : s.calls[i]? = some call) :
    s.Holds region (some i) ↔ call.Holds region := by
  constructor
  · rintro ⟨call', hcall', hholds⟩
    rw [hi] at hcall'
    exact Option.some.inj hcall' ▸ hholds
  · exact fun hholds => ⟨call, hi, hholds⟩

/-- The other holders stay when a call moves on. -/
theorem holds_set_ne {selector : WorkerSelector} {j : Nat} (hij : i ≠ j) :
    ({ s with selector := selector, calls := s.calls.set i call' } : State).Holds region (some j)
      ↔ s.Holds region (some j) := by
  unfold State.Holds
  dsimp only
  rw [List.getElem?_set_ne hij]

theorem holds_set_iff {selector : WorkerSelector} (hi : s.calls[i]? = some call)
    (hcall : ∀ r, ¬ call.Holds r) (hcall' : ∀ r, ¬ call'.Holds r) (h : Option Nat) :
    ({ s with selector := selector, calls := s.calls.set i call' } : State).Holds region h
      ↔ s.Holds region h := by
  cases h with
  | none => exact Iff.rfl
  | some j =>
      by_cases hij : i = j
      · subst hij
        have hset : (s.calls.set i call')[i]? = some call' :=
          List.getElem?_set_self (List.getElem?_eq_some_iff.mp hi).1
        exact iff_of_false (fun hh => hcall' region ((holds_call_iff hset).mp hh))
          fun hh => hcall region ((holds_call_iff hi).mp hh)
      · exact holds_set_ne hij

theorem holds_append_iff (hcall : ∀ r, ¬ call.Holds r) (h : Option Nat) :
    ({ s with calls := s.calls ++ [call] } : State).Holds region h ↔ s.Holds region h := by
  cases h with
  | none => exact Iff.rfl
  | some j =>
      constructor
      · rintro ⟨call', hcall', hholds⟩
        rw [List.getElem?_append] at hcall'
        split at hcall'
        · exact ⟨call', hcall', hholds⟩
        · have hmem := List.mem_singleton.mp (List.mem_of_getElem? hcall')
          exact absurd (hmem ▸ hholds) (hcall region)
      · rintro ⟨call', hcall', hholds⟩
        have hlt := (List.getElem?_eq_some_iff.mp hcall').1
        exact ⟨call', List.getElem?_append_left hlt ▸ hcall', hholds⟩

end Holders

/-- No client comes or goes, and none is replaced. -/
theorem OneClient.of_holds {s t : State} (hs : OneClient s) (hreplaced : t.replaced = s.replaced)
    (hholds : ∀ region h, t.Holds region h → s.Holds region h) : OneClient t where
  kept := hreplaced.trans hs.kept
  unique := fun region h h' hh hh' =>
    hs.unique region h h' (hholds region h hh) (hholds region h' hh')

/-- One region gets a holder that is its only one. -/
theorem OneClient.of_region {s t : State} (hs : OneClient s) (region : String)
    (k : Option Nat)
    (hreplaced : t.replaced = s.replaced)
    (hother : ∀ r h, r ≠ region → t.Holds r h → s.Holds r h)
    (honly : ∀ h, t.Holds region h → h = k) : OneClient t where
  kept := hreplaced.trans hs.kept
  unique := by
    intro r h h' hh hh'
    by_cases hr : r = region
    · subst hr
      rw [honly h hh, honly h' hh']
    · exact hs.unique r h h' (hother r h hr hh) (hother r h' hr hh')

/-- A client that has been connected is the only one of its region exactly
if there was none. -/
theorem oneClient_connected_iff {s : State} (hs : OneClient s) {i : Nat} {region : String}
    {worker : WorkerEndpoint} {c : RegionClient}
    (hi : s.calls[i]? = some (.connecting region worker)) :
    OneClient { s with calls := s.calls.set i (.inserting region c) }
      ↔ ∀ h, ¬ s.Holds region h := by
  have hset : (s.calls.set i (.inserting region c))[i]? = some (.inserting region c) :=
    List.getElem?_set_self (List.getElem?_eq_some_iff.mp hi).1
  have hnot : ∀ r, ¬ s.Holds r (some i) := by
    intro r hr
    obtain ⟨d, hd⟩ := (holds_call_iff hi).mp hr
    cases hd
  have hother : ∀ r h, h ≠ some i →
      (({ s with calls := s.calls.set i (.inserting region c) } : State).Holds r h
        ↔ s.Holds r h) := by
    intro r h hne
    cases h with
    | none => exact Iff.rfl
    | some j => exact holds_set_ne fun hij => hne (by rw [hij])
  have hnew : ∀ r, ({ s with calls := s.calls.set i (.inserting region c) } : State).Holds r
      (some i) ↔ r = region := by
    intro r
    refine (holds_call_iff hset).trans ?_
    constructor
    · rintro ⟨d, hd⟩
      exact (Call.inserting.inj hd).1.symm
    · rintro rfl
      exact ⟨c, rfl⟩
  constructor
  · intro ht h hh
    have hne : h ≠ some i := by
      rintro rfl
      exact hnot region hh
    exact hne (ht.unique region h (some i) ((hother region h hne).mpr hh) ((hnew region).mpr rfl))
  · intro hnone
    refine hs.of_region region (some i) rfl (fun r h hr hh => ?_) fun h hh => ?_
    · refine (hother r h ?_).mp hh
      rintro rfl
      exact hr ((hnew r).mp hh)
    · by_contra hne
      exact hnone h ((hother region h hne).mp hh)

/-- Where there is one client, the one that is inserted takes no other's
place. -/
theorem oneClient_inserted {s : State} (hs : OneClient s) {i : Nat} {region : String}
    {c : RegionClient} (hi : s.calls[i]? = some (.inserting region c)) :
    OneClient (s.inserted i region c) := by
  have hholder : s.Holds region (some i) := (holds_call_iff hi).mpr ⟨c, rfl⟩
  have hnone : s.regionClients.lookup region = none := by
    cases hlookup : s.regionClients.lookup region with
    | none => rfl
    | some old =>
        have hmap : s.Holds region none := by
          rw [State.Holds, hlookup]
          rfl
        cases hs.unique region none (some i) hmap hholder
  have hset : (s.calls.set i (.ensured region))[i]? = some (.ensured region) :=
    List.getElem?_set_self (List.getElem?_eq_some_iff.mp hi).1
  have hcalls : ∀ r j, (∃ call, (s.calls.set i (.ensured region))[j]? = some call
      ∧ call.Holds r) → i ≠ j ∧ s.Holds r (some j) := by
    rintro r j ⟨call, hcall, hholds⟩
    by_cases hij : i = j
    · subst hij
      rw [hset] at hcall
      obtain ⟨d, hd⟩ := Option.some.inj hcall ▸ hholds
      cases hd
    · rw [List.getElem?_set_ne hij] at hcall
      exact ⟨hij, call, hcall, hholds⟩
  have hreplaced : (s.inserted i region c).replaced = s.replaced := by
    rw [State.inserted, hnone]
  -- the call was the only holder, and the map takes its place
  refine hs.of_region region none hreplaced (fun r h hr hh => ?_) fun h hh => ?_
  · cases h with
    | none =>
        rw [State.Holds, State.inserted, AList.lookup_insert_ne hr] at hh
        exact hh
    | some j => exact (hcalls r j hh).2
  · cases h with
    | none => rfl
    | some j =>
        obtain ⟨hij, hj⟩ := hcalls region j hh
        exact absurd (Option.some.inj (hs.unique region _ _ hholder hj)) hij

theorem oneClient_step_iff {config : Config} {s t : State} {a : Action} (hs : OneClient s)
    (h : step config s a = some t) : OneClient t ↔ FindsNone config s a := by
  cases step_cases h with
  | started hcall =>
      exact iff_of_true (hs.of_holds rfl fun _ _ => (holds_append_iff hcall _).mp) trivial
  | @moved _ _ _ _ _ hi hcall hcall' ha =>
      refine iff_of_true (hs.of_holds rfl fun _ _ => (holds_set_iff hi hcall hcall' _).mp) ?_
      cases a with
      | connect j env => exact absurd rfl (ha j env)
      | _ => trivial
  | @connected i env region worker c hi hc =>
      rw [oneClient_connected_iff hs hi]
      constructor
      · intro hnone region' worker' c' hi' hc'
        rw [hi] at hi'
        obtain ⟨rfl, rfl⟩ := Call.connecting.inj (Option.some.inj hi')
        exact hnone
      · exact fun hfinds => hfinds region worker c hi hc
  | @notConnected i env region worker e hi he =>
      refine iff_of_true (hs.of_holds rfl fun _ _ =>
        (holds_set_iff hi (by simp [Call.Holds]) (by simp [Call.Holds]) _).mp) ?_
      intro region' worker' c' hi' hc'
      rw [hi] at hi'
      obtain ⟨rfl, rfl⟩ := Call.connecting.inj (Option.some.inj hi')
      rw [he] at hc'
      cases hc'
  | inserted hi => exact iff_of_true (oneClient_inserted hs hi) trivial
  | measured => exact iff_of_true ⟨hs.kept, hs.unique⟩ trivial
  | disconnectAll =>
      refine iff_of_true (hs.of_holds rfl fun region h hh => ?_) trivial
      cases h with
      | none =>
          rw [State.Holds, AList.lookup_empty] at hh
          cases hh
      | some i => exact hh

/-- In every run each region keeps a single client, which is never
replaced, if and only if every connect that succeeds finds no other client
of its region in the map or with a call. -/
theorem oneClient_iff (config : Config) (selector : WorkerSelector) (as : List Action) :
    Lts.Along (step config) OneClient { selector := selector } as
      ↔ Lts.Guarded (step config) (FindsNone config) { selector := selector } as := by
  refine Lts.along_iff_guarded (fun _ _ _ (_ : True) _ => trivial)
    (fun _ _ _ _ hs h => oneClient_step_iff hs h) trivial ⟨rfl, ?_⟩
  intro region h h' hh
  cases h with
  | none =>
      rw [State.Holds, AList.lookup_empty] at hh
      cases hh
  | some i =>
      obtain ⟨call, hcall, -⟩ := hh
      cases hcall

/-- Both calls look before either inserts, and connect a client each. -/
def bothLook : List Action :=
  [.submitToRegion "us-west", .submitToRegion "us-west", .select 0 atOnce, .select 1 atOnce,
    .connect 0 onlyWest, .connect 1 onlyWest, .insert 0, .insert 1]

theorem not_oneClient_bothLook :
    ¬ Lts.Along (step keyOnly) OneClient { selector := { workers := [west] } } bothLook := by
  intro h
  have hreplaced : (Lts.run (step keyOnly) { selector := { workers := [west] } } bothLook).map
      (fun t => t.replaced.map Prod.fst) = some ["us-west"] := rfl
  obtain ⟨t, hrun, ht⟩ := Option.map_eq_some_iff.mp hreplaced
  have hkept := (h bothLook t (List.prefix_refl _) hrun).kept
  rw [hkept] at ht
  cases ht

end RegionCalls

end Slipstream
