import Tutti.Index.ChunkIndex
import Tutti.Vllm.WorkerMeta

/-!
# The scheduler's index

`SchedulerMetadataIndex` owns the semantic view of the scheduler: a `ChunkIndex`
without any data, the keys whose plan is not settled, and one counter per key of
the ranks that reported a durable chunk. Residency is published only by
`applyWorkerCommits`, except for the cold start from the layer markers.
-/

namespace Tutti

open Foundation List

/-- The scheduler's state. The counter of a key without an entry is zero. -/
structure SchedulerMetadataIndex (Key : Type) where
  index : ChunkIndex Key
  numLayers : Nat
  plannedStoreKeys : List Key
  syncedFull : List Key
  pendingForget : List Key
  rankCommitCounts : Key → Nat
  evictionDriftTotal : Nat
  evictionDriftSteps : Nat
  pendingReclaimedTotal : Nat

namespace SchedulerMetadataIndex

variable {Key : Type} [DecidableEq Key]

/-- `lookup_prefix`. -/
def lookupPrefix (digest : Key → List Nat → Key) (scheduler : SchedulerMetadataIndex Key)
    (tokenIds : List Nat) : Nat × SchedulerMetadataIndex Key :=
  let (hit, index) := scheduler.index.lookupPrefix digest tokenIds
  (hit, { scheduler with index })

/-- `plan_store`. -/
def planStore (scheduler : SchedulerMetadataIndex Key) (keys : List Key) :
    Option (StorePlan Key × SchedulerMetadataIndex Key) :=
  match scheduler.index.planStore keys with
  | none => none
  | some (plan, index) =>
    some (plan,
      { scheduler with
        index
        plannedStoreKeys := plan.newKeys ∪ scheduler.plannedStoreKeys })

/-- `confirm_store`. -/
def confirmStore (scheduler : SchedulerMetadataIndex Key) (keys : List Key) (ok : Bool) :
    SchedulerMetadataIndex Key :=
  { scheduler with
    index := scheduler.index.confirmStore keys ok
    plannedStoreKeys := scheduler.plannedStoreKeys.filter (· ∉ keys) }

/-- Drop the counters of a batch. -/
def popCounts (counts : Key → Nat) (keys : List Key) : Key → Nat :=
  fun key => if key ∈ keys then 0 else counts key

/-- `begin_step`: advance the epoch and reclaim the reservations that are too old.
The result is their number. -/
def beginStep (scheduler : SchedulerMetadataIndex Key) (maxPendingAge : Nat) :
    Nat × SchedulerMetadataIndex Key :=
  let (reclaimed, index) := scheduler.index.advanceEpoch.reclaimStalePending maxPendingAge
  (reclaimed.length,
    { scheduler with
      index
      rankCommitCounts := popCounts scheduler.rankCommitCounts reclaimed
      plannedStoreKeys := scheduler.plannedStoreKeys.filter (· ∉ reclaimed)
      pendingReclaimedTotal := scheduler.pendingReclaimedTotal + reclaimed.length })

/-- `forget`: drop keys that a worker found missing. Their plans stay open. -/
def forget (scheduler : SchedulerMetadataIndex Key) (keys : List Key) :
    SchedulerMetadataIndex Key :=
  { scheduler with
    rankCommitCounts := popCounts scheduler.rankCommitCounts keys
    index := (scheduler.index.forget keys).2 }

/-- `observe_worker_evictions`: count the evicted keys that are still resident
here. Nothing but the statistics changes. -/
def observeWorkerEvictions (scheduler : SchedulerMetadataIndex Key) (evicted : List Key) :
    Nat × SchedulerMetadataIndex Key :=
  let drift := evicted.countP scheduler.index.isResident
  (drift,
    if drift = 0 then scheduler
    else
      { scheduler with
        evictionDriftTotal := scheduler.evictionDriftTotal + drift
        evictionDriftSteps := scheduler.evictionDriftSteps + 1 })

/-- One failed key of a report: its counter is dropped, and its reservation is
given back if its plan is open. -/
def applyFailed (scheduler : SchedulerMetadataIndex Key) (key : Key) :
    SchedulerMetadataIndex Key :=
  let cleared :=
    { scheduler with rankCommitCounts := popCounts scheduler.rankCommitCounts [key] }
  if key ∈ cleared.plannedStoreKeys then cleared.confirmStore [key] false else cleared

/-- One committed entry of a report, against the counters and the keys found
complete so far. -/
def countCommitted (tpSize : Nat) (failed : List Key) (state : (Key → Nat) × List Key)
    (entry : Key × Nat) : (Key → Nat) × List Key :=
  if entry.1 ∈ failed then state
  else
    let total := state.1 entry.1 + entry.2
    if tpSize ≤ total then (Function.update state.1 entry.1 0, state.2 ++ [entry.1])
    else (Function.update state.1 entry.1 total, state.2)

/-- The first half of `apply_worker_commits`: observe evictions, forget missing
keys and fail closed on failed keys. -/
def withdraw (scheduler : SchedulerMetadataIndex Key) (report : TuttiWorkerMetadata Key) :
    SchedulerMetadataIndex Key :=
  let observed := (scheduler.observeWorkerEvictions report.evicted).2
  report.failed.foldl applyFailed (observed.forget report.forgotten)

/-- `apply_worker_commits`: after the withdrawals, publish the keys whose counter
reaches the number of ranks. -/
def applyWorkerCommits (scheduler : SchedulerMetadataIndex Key)
    (report : TuttiWorkerMetadata Key) (tpSize : Nat) : SchedulerMetadataIndex Key :=
  let withdrawn := scheduler.withdraw report
  let (counts, resident) :=
    report.committed.entries.foldl (countCommitted tpSize report.failed)
      (withdrawn.rankCommitCounts, [])
  { withdrawn with rankCommitCounts := counts }.confirmStore resident true

/-- The chunks all of whose layers were found by a scan, in the order of the scan. -/
def fullKeys (numLayers : Nat) (records : List (Key × Nat)) : List Key :=
  (firstOccurrences (records.map Prod.fst)).filter fun key =>
    (range numLayers).all fun layer => (key, layer) ∈ records

/-- `sync_from_store` over the `(chunk, layer)` records of a scan. -/
def syncFromStore (scheduler : SchedulerMetadataIndex Key) (records : List (Key × Nat)) :
    SchedulerMetadataIndex Key :=
  let full := fullKeys scheduler.numLayers records
  let settled := scheduler.plannedStoreKeys.foldl
    (fun index key => index.confirmStore [key] (key ∈ full)) scheduler.index
  let stale := scheduler.syncedFull.filter (· ∉ full) ∪ scheduler.pendingForget
  let (kept, aligned) := settled.forget stale
  { scheduler with
    plannedStoreKeys := []
    pendingForget := kept
    index := aligned.restore full
    syncedFull := full }

/-- `SchedulerMetadataIndex.__init__` over an empty index and the first scan. -/
def init (index : ChunkIndex Key) (numLayers : Nat) (records : List (Key × Nat)) :
    SchedulerMetadataIndex Key :=
  syncFromStore
    { index
      numLayers
      plannedStoreKeys := []
      syncedFull := []
      pendingForget := []
      rankCommitCounts := fun _ => 0
      evictionDriftTotal := 0
      evictionDriftSteps := 0
      pendingReclaimedTotal := 0 }
    records

/-- An admitted plan is a plan of the index; it changes nothing else but the open
plans. -/
theorem planStore_planned {scheduler next : SchedulerMetadataIndex Key} {keys : List Key}
    {plan : StorePlan Key} (admitted : scheduler.planStore keys = some (plan, next)) :
    scheduler.index.Planned keys plan next.index ∧
      next = { scheduler with
        index := next.index
        plannedStoreKeys := plan.newKeys ∪ scheduler.plannedStoreKeys } := by
  unfold planStore at admitted
  split at admitted
  · cases admitted
  rename_i inner
  obtain ⟨rfl, rfl⟩ := Prod.mk.inj (Option.some.inj admitted)
  exact ⟨ChunkIndex.planStore_planned inner, rfl⟩

/-! ## What a report does to one key -/

section Report

variable (scheduler : SchedulerMetadataIndex Key) (report : TuttiWorkerMetadata Key)

/-- The counter of a key once the missing keys of the report are forgotten. -/
def countBefore (key : Key) : Nat := popCounts scheduler.rankCommitCounts report.forgotten key

/-- The report completes the counter of a key. -/
def Publishes (tpSize : Nat) (key : Key) : Prop :=
  key ∉ report.failed ∧ key ∈ report.committed ∧
    tpSize ≤ scheduler.countBefore report key + report.committed.getD key 0
  deriving Decidable

end Report

variable (scheduler : SchedulerMetadataIndex Key)

theorem observeWorkerEvictions_frame (evicted : List Key) :
    ∃ total steps, (scheduler.observeWorkerEvictions evicted).2 =
      { scheduler with evictionDriftTotal := total, evictionDriftSteps := steps } := by
  unfold observeWorkerEvictions
  dsimp only
  split <;> exact ⟨_, _, rfl⟩

@[simp] theorem popCounts_nil (counts : Key → Nat) : popCounts counts [] = counts := by
  funext key
  rw [popCounts, if_neg not_mem_nil]

theorem popCounts_cons (counts : Key → Nat) (head : Key) (tail : List Key) :
    popCounts counts (head :: tail) = popCounts (popCounts counts [head]) tail := by
  funext key
  unfold popCounts
  by_cases same : key = head
  · subst same
    rw [if_pos mem_cons_self, if_pos mem_cons_self, ite_self]
  · simp [same]

/-- The parts of a failed key's report: counter, open plan, residency, reservation. -/
theorem applyFailed_spec (failed key : Key) :
    (scheduler.applyFailed failed).rankCommitCounts =
        popCounts scheduler.rankCommitCounts [failed] ∧
      (key ∈ (scheduler.applyFailed failed).plannedStoreKeys ↔
        key ∈ scheduler.plannedStoreKeys ∧ key ≠ failed) ∧
      (key ∈ (scheduler.applyFailed failed).index.resident ↔ key ∈ scheduler.index.resident) ∧
      (key ∈ (scheduler.applyFailed failed).index.pending ↔
        key ∈ scheduler.index.pending ∧ (key = failed → key ∉ scheduler.plannedStoreKeys)) := by
  unfold applyFailed
  by_cases planned : failed ∈ scheduler.plannedStoreKeys
  · simp only [planned, ↓reduceIte, confirmStore, ChunkIndex.mem_resident_confirmStore,
      Bool.false_eq_true, false_and, false_or]
    by_cases same : key = failed
    · simp [same, planned]
    · simp [same]
  · simp only [planned, ne_eq]
    by_cases same : key = failed
    · simp [same, planned]
    · simp [same]

/-- The failed keys of a report lose their counters and, if planned, their
reservations; residency does not change. -/
theorem foldl_applyFailed_spec (failed : List Key) (key : Key) :
    (failed.foldl applyFailed scheduler).rankCommitCounts =
        popCounts scheduler.rankCommitCounts failed ∧
      (key ∈ (failed.foldl applyFailed scheduler).index.resident ↔ key ∈ scheduler.index.resident) ∧
      (key ∈ (failed.foldl applyFailed scheduler).index.pending ↔
        key ∈ scheduler.index.pending ∧ (key ∈ failed → key ∉ scheduler.plannedStoreKeys)) := by
  induction failed generalizing scheduler with
  | nil => simp [popCounts_nil]
  | cons head tail ih =>
    obtain ⟨counts, resident, pending⟩ := ih (scheduler.applyFailed head)
    obtain ⟨countsHead, plannedHead, residentHead, pendingHead⟩ :=
      scheduler.applyFailed_spec head key
    rw [countsHead, ← popCounts_cons] at counts
    rw [residentHead] at resident
    rw [pendingHead, plannedHead] at pending
    refine ⟨counts, resident, pending.trans ?_⟩
    rw [mem_cons, or_imp]
    by_cases same : key = head
    · simp only [same, ne_eq, not_true_eq_false, and_false, not_false_eq_true, implies_true,
        and_true, forall_const]
      exact and_congr_right fun _ => ⟨fun closed => ⟨closed, fun _ => closed⟩, And.left⟩
    · simp [same]

/-- Entries of other keys change neither the counter nor the completion of a key. -/
theorem foldl_countCommitted_other (tpSize : Nat) (failed : List Key) (entries : List (Key × Nat))
    (state : (Key → Nat) × List Key) {key : Key} (other : key ∉ entries.map Prod.fst) :
    (entries.foldl (countCommitted tpSize failed) state).1 key = state.1 key ∧
      (key ∈ (entries.foldl (countCommitted tpSize failed) state).2 ↔ key ∈ state.2) := by
  induction entries generalizing state with
  | nil => exact ⟨rfl, Iff.rfl⟩
  | cons entry entries ih =>
    rw [map_cons, mem_cons, not_or] at other
    obtain ⟨counts, complete⟩ := ih (countCommitted tpSize failed state entry) other.2
    rw [foldl_cons, counts, complete]
    unfold countCommitted
    dsimp only
    split
    · exact ⟨rfl, Iff.rfl⟩
    split
    · simp [other.1]
    · simp [Function.update_of_ne other.1]

/-- The counter and the completion of a key after the committed entries. -/
theorem foldl_countCommitted_spec (tpSize : Nat) (failed : List Key)
    (committed : OrderedDict Key Nat) (counts : Key → Nat) (key : Key) :
    let result := committed.entries.foldl (countCommitted tpSize failed) (counts, [])
    let total := counts key + committed.getD key 0
    (key ∈ result.2 ↔ key ∉ failed ∧ key ∈ committed ∧ tpSize ≤ total) ∧
      result.1 key =
        if key ∉ failed ∧ key ∈ committed then if tpSize ≤ total then 0 else total
        else counts key := by
  intro result total
  by_cases member : key ∈ committed
  · obtain ⟨count, found⟩ := OrderedDict.mem_iff_get?.mp member
    have totalEq : total = counts key + count := by
      simp [total, OrderedDict.getD, found]
    obtain ⟨before, after, split⟩ := append_of_mem (OrderedDict.get?_eq_some_iff.mp found)
    have nodup := committed.nodup
    rw [split, map_append, map_cons, nodup_append, nodup_cons] at nodup
    obtain ⟨_, ⟨notAfter, _⟩, apart⟩ := nodup
    have notBefore : key ∉ before.map Prod.fst := fun inside =>
      apart key inside key (.head _) rfl
    obtain ⟨first, firstComplete⟩ :=
      foldl_countCommitted_other tpSize failed before (counts, []) notBefore
    have resultEq : result = after.foldl (countCommitted tpSize failed)
        (countCommitted tpSize failed
          (before.foldl (countCommitted tpSize failed) (counts, [])) (key, count)) := by
      simp [result, split]
    obtain ⟨last, lastComplete⟩ := foldl_countCommitted_other tpSize failed after
      (countCommitted tpSize failed
        (before.foldl (countCommitted tpSize failed) (counts, [])) (key, count)) notAfter
    rw [resultEq, last, lastComplete, totalEq]
    unfold countCommitted at first firstComplete ⊢
    by_cases excluded : key ∈ failed
    · simp [excluded, firstComplete, first]
    by_cases enough : tpSize ≤ counts key + count
    · simp [excluded, first, enough, member]
    · simp [excluded, first, enough, member, firstComplete]
  · obtain ⟨untouched, complete⟩ :=
      foldl_countCommitted_other tpSize failed committed.entries (counts, []) member
    refine ⟨complete.trans ?_, untouched.trans ?_⟩
    · simp [member]
    · simp [member]

/-- A key after the withdrawals of a report. -/
theorem withdraw_spec (report : TuttiWorkerMetadata Key) (key : Key) :
    (scheduler.withdraw report).rankCommitCounts key =
        (if key ∈ report.failed then 0 else scheduler.countBefore report key) ∧
      (key ∈ (scheduler.withdraw report).index.resident ↔ key ∈ scheduler.index.resident ∧
        (key ∈ report.forgotten → 0 < scheduler.index.pins key)) ∧
      (key ∈ (scheduler.withdraw report).index.pending ↔ key ∈ scheduler.index.pending ∧
        (key ∈ report.failed → key ∉ scheduler.plannedStoreKeys)) := by
  obtain ⟨_, _, frame⟩ := scheduler.observeWorkerEvictions_frame report.evicted
  obtain ⟨counts, resident, pending⟩ := foldl_applyFailed_spec
    ((scheduler.observeWorkerEvictions report.evicted).2.forget report.forgotten) report.failed key
  unfold withdraw
  refine ⟨?_, resident.trans ?_, pending.trans ?_⟩
  · rw [counts, forget, frame]
    rfl
  · simp only [forget, frame, ChunkIndex.forget, OrderedDict.mem_eraseIf,
      decide_eq_false_iff_not, not_and, Nat.pos_iff_ne_zero]
    exact and_comm
  · simp only [forget, frame, ChunkIndex.forget]

/-- A key after a report: residency, reservation and counter. -/
theorem applyWorkerCommits_spec (report : TuttiWorkerMetadata Key) (tpSize : Nat) (key : Key) :
    let next := scheduler.applyWorkerCommits report tpSize
    (key ∈ next.index.resident ↔ scheduler.Publishes report tpSize key ∨
        key ∈ scheduler.index.resident ∧ (key ∈ report.forgotten → 0 < scheduler.index.pins key)) ∧
      (key ∈ next.index.pending ↔ ¬ scheduler.Publishes report tpSize key ∧
        key ∈ scheduler.index.pending ∧ (key ∈ report.failed → key ∉ scheduler.plannedStoreKeys)) ∧
      next.rankCommitCounts key =
        if key ∈ report.failed ∨ scheduler.Publishes report tpSize key then 0
        else scheduler.countBefore report key + report.committed.getD key 0 := by
  intro next
  obtain ⟨counts, resident, pending⟩ := scheduler.withdraw_spec report key
  obtain ⟨complete, counted⟩ := foldl_countCommitted_spec tpSize report.failed report.committed
    (scheduler.withdraw report).rankCommitCounts key
  have publishes : key ∈ (report.committed.entries.foldl (countCommitted tpSize report.failed)
      ((scheduler.withdraw report).rankCommitCounts, [])).2 ↔
        scheduler.Publishes report tpSize key := by
    rw [complete]
    exact and_congr_right fun alive => by rw [counts, if_neg alive]
  refine ⟨?_, ?_, ?_⟩
  · simp [next, applyWorkerCommits, confirmStore, publishes, resident]
  · simp [next, applyWorkerCommits, confirmStore, publishes, pending]
  simp only [next, applyWorkerCommits, confirmStore, counted, counts]
  by_cases failed : key ∈ report.failed
  · simp [failed]
  by_cases member : key ∈ report.committed
  · simp [failed, member, Publishes]
  have absent : report.committed.getD key 0 = 0 := by
    rw [OrderedDict.getD, OrderedDict.get?_eq_none_iff.mpr member, Option.getD_none]
  simp [member, Publishes, absent]

end SchedulerMetadataIndex

end Tutti
