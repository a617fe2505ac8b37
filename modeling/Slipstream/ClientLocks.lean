import Slipstream.RwLock
import Slipstream.Transport

/-!
# The locks of the two clients

A `SlipstreamClient` has its transport behind a readers-writer lock, and
a `MultiRegionClient` its clients by region. Every call of a transport
is made under the read lock, from the call to its end; the monitor that
puts a new transport in place and `disconnect` take the write lock. A
submission to a region is made under the read lock of the map of regions;
a region that was just connected and `disconnect_all` take the write
lock.

So a call in flight keeps its transport (`undisturbed_along`), but the
locks are fair: once a `disconnect` or a reconnect waits for a call that
does not end, no later call starts (`hangs_along`, and for the regions
`RegionLock.submission_hangs_along`). What ends the wait is that the calls before
it end (`can_disconnect`).
-/

namespace Slipstream

open RwLock (Action Ahead Calls Inv Persist System step)

namespace ClientLock

/-- What is behind the lock: which transport, and its state as `disconnect`
leaves it. What a transport's own tasks do to it does not take the lock. -/
structure Slot where
  number : Nat
  transport : Transport

/-- Who takes the lock: the calls of the user, the keepalive task and the
health monitor. -/
inductive Call where
  | submitTransaction
  | subscribe (kind : StreamKind)
  | ping
  | isConnected
  | connectionStatus
  | keepalivePing
  | healthCheck
  | resubscribe
  /-- The last step of a reconnect. -/
  | install (transport : Transport)
  | disconnect

namespace Call

def writes : Call → Bool
  | .install _ => true
  | .disconnect => true
  | _ => false

/-- What a call does to the slot under the write lock. -/
def change : Call → Slot → Slot
  | .install transport, slot => ⟨slot.number + 1, transport⟩
  | .disconnect, slot => { slot with transport := slot.transport.disconnect }
  | _, slot => slot

end Call

def calls : Calls Call Slot where
  writes := Call.writes
  change := Call.change

/-- A client as `finish_connect` sets it up. -/
def connected (transport : Transport) : System Slot := { data := ⟨0, transport⟩ }

/-! ## Calls in flight -/

/-- No call has its transport replaced or disconnected under it. -/
structure Stable (s : System Slot) : Prop where
  slot : ∀ i c slot, calls.InFlight s i c slot → s.data = slot
  alone : ∀ i c slot, calls.InFlight s i c slot → c.writes = true →
    ∀ j c' slot', calls.InFlight s j c' slot' → j = i

theorem undisturbed_along (transport : Transport) (as : List (Action Slot)) :
    Lts.Along step Stable (connected transport) as := by
  intro pre s hpre hreach
  refine ⟨fun i c slot hi => ?_, ?_⟩
  · exact ((Calls.inv_of_run hreach).undisturbed hi).data
  · intro i c slot hi hwrites j c' slot' hj
    exact Calls.alone_of_writes hreach hi hwrites hj

/-! ## A call that does not end -/

section Reached

variable {transport : Transport} {before : List (Action Slot)} {s : System Slot}
  (hreach : Lts.run step (connected transport) before = some s)

include hreach

/-- While a call is in flight and does not end, and a `disconnect` or a
reconnect waits behind it, the transport stays as it is and no call made
since then starts. -/
theorem hangs_along {as : List (Action Slot)} {i j : Nat} {c writer : Call} {slot : Slot}
    (hflight : calls.InFlight s i c slot) (hreads : c.writes = false)
    (hwaits : calls.Waits s j writer) (hwrites : writer.writes = true) (hlt : i < j)
    (hpersist : Lts.Guarded step (Persist i j) s as) :
    Lts.Along step (fun t => t.data = slot ∧
      ∀ k, j ≤ k → ∀ later slot', ¬ calls.InFlight t k later slot') s as :=
  Calls.stalled_along hreach hflight hreads hwaits hwrites hlt hpersist

/-- A `disconnect` that waits comes to disconnect the transport if the
calls before it start and end. -/
theorem can_disconnect {j : Nat} (hwaits : calls.Waits s j .disconnect) :
    Lts.Can step (Ahead j) (fun t => t.data.transport.isConnected = false) s := by
  refine (Calls.can_enter hreach hwaits).mono ?_
  rintro t ⟨slot, hslot⟩
  rw [hslot]
  exact slot.transport.isConnected_disconnect

end Reached

/-- A submission that hangs, and a `disconnect` behind it. -/
def hanging : List (Action Slot) :=
  [calls.request .submitTransaction, .enter 0, calls.request .disconnect, calls.request .ping]

def hung : System Slot where
  data := ⟨0, .new .quic⟩
  lock := ⟨[(0, .read)], [(1, .write), (2, .read)]⟩
  tasks := [⟨calls.sec .submitTransaction, .inside ⟨0, .new .quic⟩⟩,
    ⟨calls.sec .disconnect, .waiting⟩, ⟨calls.sec .ping, .waiting⟩]

theorem run_hanging : Lts.run step (connected (.new .quic)) hanging = some hung := rfl

theorem submission_hangs :
    Lts.Along step (fun t => t.data = ⟨0, .new .quic⟩ ∧
      ∀ k, 1 ≤ k → ∀ later slot', ¬ calls.InFlight t k later slot') hung
        [calls.request .isConnected] := by
  have hflight : calls.InFlight hung 0 .submitTransaction ⟨0, .new .quic⟩ := rfl
  have hwaits : calls.Waits hung 1 .disconnect := rfl
  refine hangs_along run_hanging hflight rfl hwaits rfl (by decide) ?_
  exact Lts.guarded_cons.mpr fun t _ => ⟨trivial, Lts.guarded_nil⟩

theorem disconnect_gets_in :
    Lts.Can step (Ahead 1) (fun t => t.data.transport.isConnected = false) hung :=
  can_disconnect run_hanging rfl

end ClientLock

/-! ## The regions -/

namespace RegionLock

/-- The regions that have a client. -/
abbrev Regions := List String

inductive Call where
  /-- The look of `ensure_region_connected`. -/
  | containsKey (region : String)
  /-- Its last step, with a client that has just connected. -/
  | insert (region : String)
  /-- A submission through the region's client, from start to end. -/
  | submitToRegion (region : String)
  | cloneForRegion (region : String)
  | connectedRegions
  | disconnectAll

namespace Call

def writes : Call → Bool
  | .insert _ => true
  | .disconnectAll => true
  | _ => false

def change : Call → Regions → Regions
  | .insert region, regions => if region ∈ regions then regions else region :: regions
  | .disconnectAll, _ => []
  | _, regions => regions

end Call

def calls : Calls Call Regions where
  writes := Call.writes
  change := Call.change

/-- While a submission to one region is in flight and a region that has just
connected waits for its place, no submission made since then starts,
whichever its region, and no region is added or dropped. -/
theorem submission_hangs_along {before as : List (Action Regions)} {s : System Regions}
    {i j : Nat} {region new : String} {regions : Regions}
    (hreach : Lts.run step { data := [] } before = some s)
    (hflight : calls.InFlight s i (.submitToRegion region) regions)
    (hwaits : calls.Waits s j (.insert new)) (hlt : i < j)
    (hpersist : Lts.Guarded step (Persist i j) s as) :
    Lts.Along step (fun t => t.data = regions ∧
      ∀ k, j ≤ k → ∀ region' regions',
        ¬ calls.InFlight t k (.submitToRegion region') regions') s as := by
  refine (Calls.stalled_along hreach hflight rfl hwaits rfl hlt hpersist).mono ?_
  rintro t ⟨hdata, hout⟩
  exact ⟨hdata, fun k hk region' regions' => hout k hk (.submitToRegion region') regions'⟩

/-- A submission hangs in one region, and another region has connected. -/
def twoRegions : List (Action Regions) :=
  [calls.request (.insert "us-west"), .enter 0, .finish 0,
    calls.request (.submitToRegion "us-west"), .enter 1, calls.request (.insert "eu-central"),
    calls.request (.submitToRegion "us-west")]

def westHung : System Regions where
  data := ["us-west"]
  lock := ⟨[(1, .read)], [(2, .write), (3, .read)]⟩
  tasks := [⟨calls.sec (.insert "us-west"), .ended⟩,
    ⟨calls.sec (.submitToRegion "us-west"), .inside ["us-west"]⟩,
    ⟨calls.sec (.insert "eu-central"), .waiting⟩,
    ⟨calls.sec (.submitToRegion "us-west"), .waiting⟩]

theorem west_hangs :
    Lts.Along step (fun t => t.data = ["us-west"] ∧
      ∀ k, 2 ≤ k → ∀ region' regions', ¬ calls.InFlight t k (.submitToRegion region') regions')
        westHung [calls.request .connectedRegions] := by
  have hrun : Lts.run step { data := [] } twoRegions = some westHung := rfl
  have hflight : calls.InFlight westHung 1 (.submitToRegion "us-west") ["us-west"] := rfl
  have hwaits : calls.Waits westHung 2 (.insert "eu-central") := rfl
  refine submission_hangs_along hrun hflight hwaits (by decide) ?_
  exact Lts.guarded_cons.mpr fun t _ => ⟨trivial, Lts.guarded_nil⟩

end RegionLock

end Slipstream
