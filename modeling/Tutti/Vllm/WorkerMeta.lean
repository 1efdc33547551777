import Mathlib.Algebra.Ring.Nat
import Mathlib.Data.List.Lattice
import Tutti.Foundation.OrderedDict

/-!
# Settlement deltas from the workers to the scheduler

Every rank reports, once per step, the chunks it stored durably, the chunks it
failed to store, the chunks it found missing and the chunks it evicted. The
executor folds the reports of all ranks into one before the scheduler sees them.
-/

namespace Tutti

open Foundation List

variable {Key : Type} [DecidableEq Key]

/-- `TuttiWorkerMetadata`: `committed` counts the ranks that stored a key, and the
other fields are sets, listed without repetition. -/
structure TuttiWorkerMetadata (Key : Type) where
  committed : OrderedDict Key Nat
  failed : List Key
  forgotten : List Key
  evicted : List Key

namespace TuttiWorkerMetadata

/-- The report of a rank with nothing to say. -/
def empty : TuttiWorkerMetadata Key := ⟨∅, [], [], []⟩

/-- Add rank counts to a table, starting absent keys at zero. -/
def mergeCounts (counts : OrderedDict Key Nat) (entries : List (Key × Nat)) :
    OrderedDict Key Nat :=
  entries.foldl (fun merged entry => merged.set entry.1 (merged.getD entry.1 0 + entry.2)) counts

/-- `aggregate`: fold the report of another rank into this one. -/
def aggregate (own other : TuttiWorkerMetadata Key) : TuttiWorkerMetadata Key where
  committed := mergeCounts own.committed other.committed.entries
  failed := own.failed ∪ other.failed
  forgotten := own.forgotten ∪ other.forgotten
  evicted := own.evicted ∪ other.evicted

/-- The aggregated report of all ranks. -/
def aggregateAll (reports : List (TuttiWorkerMetadata Key)) : TuttiWorkerMetadata Key :=
  reports.foldl aggregate empty

variable {key : Key} {entries : List (Key × Nat)} (counts : OrderedDict Key Nat)

theorem mem_mergeCounts :
    key ∈ mergeCounts counts entries ↔ key ∈ counts ∨ key ∈ entries.map Prod.fst := by
  induction entries generalizing counts with
  | nil => simp [mergeCounts]
  | cons entry entries ih =>
    have step := ih (counts.set entry.1 (counts.getD entry.1 0 + entry.2))
    rw [OrderedDict.mem_set] at step
    rw [map_cons, mem_cons]
    exact step.trans (by tauto)

theorem getD_mergeCounts :
    (mergeCounts counts entries).getD key 0 =
      counts.getD key 0 + ((entries.filter (·.1 = key)).map Prod.snd).sum := by
  induction entries generalizing counts with
  | nil => simp [mergeCounts]
  | cons entry entries ih =>
    have step := ih (counts.set entry.1 (counts.getD entry.1 0 + entry.2))
    refine step.trans ?_
    by_cases same : entry.1 = key
    · subst same
      simp [OrderedDict.getD, Nat.add_assoc]
    · simp [OrderedDict.getD, OrderedDict.get?_set, same, Ne.symm same]

/-- A table has at most one entry for a key, so its counts for the key add up to
its value there. -/
theorem sum_entries (key : Key) :
    ((counts.entries.filter (·.1 = key)).map Prod.snd).sum = counts.getD key 0 := by
  cases found : counts.get? key with
  | none =>
    rw [counts.filter_entries_of_get?_none found, OrderedDict.getD, found]
    rfl
  | some value =>
    rw [counts.filter_entries_of_get?_some found, OrderedDict.getD, found]
    rfl

@[simp] theorem mem_committed_aggregate {own other : TuttiWorkerMetadata Key} :
    key ∈ (own.aggregate other).committed ↔ key ∈ own.committed ∨ key ∈ other.committed :=
  mem_mergeCounts own.committed

@[simp] theorem getD_committed_aggregate (own other : TuttiWorkerMetadata Key) (key : Key) :
    (own.aggregate other).committed.getD key 0 =
      own.committed.getD key 0 + other.committed.getD key 0 := by
  rw [aggregate, getD_mergeCounts, sum_entries]

@[simp] theorem mem_failed_aggregate {own other : TuttiWorkerMetadata Key} :
    key ∈ (own.aggregate other).failed ↔ key ∈ own.failed ∨ key ∈ other.failed :=
  mem_union_iff

@[simp] theorem mem_forgotten_aggregate {own other : TuttiWorkerMetadata Key} :
    key ∈ (own.aggregate other).forgotten ↔ key ∈ own.forgotten ∨ key ∈ other.forgotten :=
  mem_union_iff

section AggregateAll

variable {reports : List (TuttiWorkerMetadata Key)} {key : Key}

private theorem foldl_aggregate_spec (reports : List (TuttiWorkerMetadata Key))
    (own : TuttiWorkerMetadata Key) (key : Key) :
    (key ∈ (reports.foldl aggregate own).committed ↔
        key ∈ own.committed ∨ ∃ report ∈ reports, key ∈ report.committed) ∧
      (reports.foldl aggregate own).committed.getD key 0 =
        own.committed.getD key 0 + (reports.map fun report => report.committed.getD key 0).sum ∧
      (key ∈ (reports.foldl aggregate own).failed ↔
        key ∈ own.failed ∨ ∃ report ∈ reports, key ∈ report.failed) ∧
      (key ∈ (reports.foldl aggregate own).forgotten ↔
        key ∈ own.forgotten ∨ ∃ report ∈ reports, key ∈ report.forgotten) := by
  induction reports generalizing own with
  | nil => simp [foldl_nil, not_mem_nil, false_and, exists_false, or_false, map_nil, sum_nil,
    and_self]
  | cons report reports ih =>
    obtain ⟨committed, counts, failed, forgotten⟩ := ih (own.aggregate report)
    simp [committed, counts, failed, forgotten, or_assoc, Nat.add_assoc]

theorem mem_committed_aggregateAll :
    key ∈ (aggregateAll reports).committed ↔ ∃ report ∈ reports, key ∈ report.committed :=
  (foldl_aggregate_spec reports empty key).1.trans (or_iff_right (OrderedDict.not_mem_empty key))

theorem getD_committed_aggregateAll :
    (aggregateAll reports).committed.getD key 0 =
      (reports.map fun report => report.committed.getD key 0).sum :=
  (foldl_aggregate_spec reports empty key).2.1.trans (Nat.zero_add _)

theorem mem_failed_aggregateAll :
    key ∈ (aggregateAll reports).failed ↔ ∃ report ∈ reports, key ∈ report.failed :=
  (foldl_aggregate_spec reports empty key).2.2.1.trans (or_iff_right not_mem_nil)

end AggregateAll

end TuttiWorkerMetadata

end Tutti
