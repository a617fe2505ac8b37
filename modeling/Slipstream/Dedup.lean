import Slipstream.TtlLog
import Slipstream.Types

/-!
# The client's dedup cache

`DedupCache` remembers when (in nanoseconds) a transaction's bytes were
last recorded and calls them a duplicate for 60 seconds. `record` cleans up expired
entries once the cache is over 1000 entries. Against the log of what was
recorded the cache is a `TtlLog.Tracks`, however often the clean-up ran
(`DedupCache.tracks_record`), so that `isDuplicate` answers for the log
(`DedupCache.isDuplicate_iff`).
-/

namespace Slipstream

abbrev TxBytes := List UInt8

/-- How a client answers a submission its cache calls a duplicate. -/
def duplicateError : SdkError :=
  .transaction "Duplicate transaction: already submitted within the last 60 seconds"

structure DedupCache where
  entries : AList fun _ : TxBytes => Nat := ∅

namespace DedupCache

def ttl : Nat := Duration.fromSecs 60

/-- Was the transaction submitted recently? -/
def isDuplicate (c : DedupCache) (now : Nat) (tx : TxBytes) : Bool :=
  match c.entries.lookup tx with
  | some submittedAt => decide (now - submittedAt < ttl)
  | none => false

/-- `HashMap::retain`, down to the entries younger than the ttl. -/
def retainFresh (now : Nat) (m : AList fun _ : TxBytes => Nat) :
    AList fun _ : TxBytes => Nat where
  entries := m.entries.filter fun e => decide (now - e.2 < ttl)
  nodupKeys := m.nodupKeys.sublist List.filter_sublist

def record (c : DedupCache) (now : Nat) (tx : TxBytes) : DedupCache :=
  let entries := c.entries.insert tx now
  if 1000 < entries.entries.length then ⟨retainFresh now entries⟩ else ⟨entries⟩

theorem lookup_retainFresh {now : Nat} {m : AList fun _ : TxBytes => Nat}
    {tx : TxBytes} {t : Nat} :
    (retainFresh now m).lookup tx = some t ↔ m.lookup tx = some t ∧ now - t < ttl := by
  rw [← Option.mem_def, ← Option.mem_def, AList.mem_lookup_iff, AList.mem_lookup_iff]
  simp [retainFresh]

/-- The cache as a look-up function. -/
def at? (c : DedupCache) (tx : TxBytes) : Option Nat := c.entries.lookup tx

theorem isDuplicate_eq_true {c : DedupCache} {now : Nat} {tx : TxBytes} :
    c.isDuplicate now tx = true ↔ ∃ t, c.at? tx = some t ∧ now - t < ttl := by
  unfold isDuplicate at?
  cases c.entries.lookup tx <;> simp

/-- Without a new record nothing becomes a duplicate. -/
theorem isDuplicate_later {c : DedupCache} {now later : Nat} {tx : TxBytes}
    (h : c.isDuplicate now tx = false) (hle : now ≤ later) :
    c.isDuplicate later tx = false := by
  rw [← Bool.not_eq_true, isDuplicate_eq_true] at h ⊢
  rintro ⟨t, ht, hfresh⟩
  exact h ⟨t, ht, by omega⟩

theorem tracks_empty (now : Nat) : TtlLog.Tracks ttl ({} : DedupCache).at? [] now :=
  .nil fun _ => rfl

/-- The cache `record` makes before a clean-up. -/
def inserted (c : DedupCache) (now : Nat) (tx : TxBytes) : DedupCache :=
  ⟨c.entries.insert tx now⟩

theorem at?_inserted_self (c : DedupCache) (now : Nat) (tx : TxBytes) :
    (c.inserted now tx).at? tx = some now := AList.lookup_insert ..

theorem at?_inserted_ne (c : DedupCache) (now : Nat) {tx tx' : TxBytes} (h : tx' ≠ tx) :
    (c.inserted now tx).at? tx' = c.at? tx' := AList.lookup_insert_ne h

/-- The clean-up keeps every fresh entry and adds none. -/
theorem at?_record {c : DedupCache} {now : Nat} {tx tx' : TxBytes} {t : Nat} :
    ((c.record now tx).at? tx' = some t → (c.inserted now tx).at? tx' = some t)
      ∧ ((c.inserted now tx).at? tx' = some t → now - t < ttl →
        (c.record now tx).at? tx' = some t) := by
  unfold record
  by_cases hlen : 1000 < (c.entries.insert tx now).entries.length
  · simp only [if_pos hlen]
    exact ⟨fun hm => (lookup_retainFresh.mp hm).1,
      fun hm hfresh => lookup_retainFresh.mpr ⟨hm, hfresh⟩⟩
  · simp only [if_neg hlen]
    exact ⟨fun hm => hm, fun hm _ => hm⟩

/-- Recording adds to the log, whether or not it cleans up. -/
theorem tracks_record {c : DedupCache} {log : List (TxBytes × Nat)} {now : Nat}
    (h : TtlLog.Tracks ttl c.at? log now) (tx : TxBytes) :
    TtlLog.Tracks ttl (c.record now tx).at? ((tx, now) :: log) now := by
  have hins : TtlLog.Tracks ttl (c.inserted now tx).at? ((tx, now) :: log) now :=
    h.insert (c.at?_inserted_self now tx) (c.at?_inserted_ne now)
  exact hins.retain at?_record.1 at?_record.2

/-- After a record the cache is of its regular size, or was just cleaned
up. -/
theorem record_small_or_fresh (c : DedupCache) (now : Nat) (tx : TxBytes) :
    (c.record now tx).entries.entries.length ≤ 1000
      ∨ ∀ {tx' : TxBytes} {t : Nat}, (c.record now tx).at? tx' = some t → now - t < ttl := by
  unfold record
  by_cases hlen : 1000 < (c.entries.insert tx now).entries.length
  · simp only [if_pos hlen]
    exact .inr fun hm => (lookup_retainFresh.mp hm).2
  · simp only [if_neg hlen]
    exact .inl (Nat.le_of_not_lt hlen)

/-- A duplicate is what was recorded within the last 60 seconds. -/
theorem isDuplicate_iff {c : DedupCache} {log : List (TxBytes × Nat)} {now : Nat}
    (h : TtlLog.Tracks ttl c.at? log now) {tx : TxBytes} :
    c.isDuplicate now tx = true ↔ ∃ t, (tx, t) ∈ log ∧ now - t < ttl := by
  rw [isDuplicate_eq_true, h.fresh_iff]

end DedupCache

end Slipstream
