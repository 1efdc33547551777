import Tutti.Engine.Metadata
import Tutti.Foundation.Run

/-!
# Reconciliation with the store

`sync_from_store` settles the open plans against a scan of the store, drops the
chunks that were complete at the last scan and are not any more, and restores the
complete ones. A protected chunk cannot be dropped. It is kept for the next scan,
so the fact that it disappeared survives any number of scans.
-/

namespace Tutti

open ChunkIndex Foundation List Option
open OrderedDict hiding keys

/-- The operations on the scheduler's index. -/
inductive MetadataAction (Key : Type) where
  | planStore (keys : List Key)
  | confirmStore (keys : List Key) (ok : Bool)
  | pin (keys : List Key)
  | unpin (keys : List Key)
  | beginStep (maxPendingAge : Nat)
  | applyWorkerCommits (report : TuttiWorkerMetadata Key) (tpSize : Nat)
  | syncFromStore (records : List (Key × Nat))

variable {Key : Type} [DecidableEq Key] {key : Key}

theorem ChunkIndex.restore_spec (index : ChunkIndex Key) (keys : List Key) :
    (key ∈ (index.restore keys).resident ↔ key ∈ keys ∨ key ∈ index.resident) ∧
      (key ∈ (index.restore keys).pending → key ∈ index.pending) := by
  induction keys generalizing index with
  | nil => simp [restore]
  | cons head keys ih =>
    obtain ⟨resident, pending⟩ := ih
      { index with
        pending := index.pending.erase head
        resident := if head ∈ index.resident then index.resident else index.resident.set head () }
    refine ⟨resident.trans ?_, fun inside => (mem_erase.mp (pending inside)).2⟩
    by_cases present : head ∈ index.resident
    · grind
    · simp [present]
      tauto

namespace SchedulerMetadataIndex

/-- One operation. A refused plan and a failing `pin` change nothing. -/
def step (scheduler : SchedulerMetadataIndex Key) :
    MetadataAction Key → SchedulerMetadataIndex Key
  | .planStore keys => ((scheduler.planStore keys).map Prod.snd).getD scheduler
  | .confirmStore keys ok => scheduler.confirmStore keys ok
  | .pin keys =>
    { scheduler with index := (scheduler.index.pin keys).toOption.getD scheduler.index }
  | .unpin keys => { scheduler with index := (scheduler.index.unpin keys).2 }
  | .beginStep maxPendingAge => (scheduler.beginStep maxPendingAge).2
  | .applyWorkerCommits report tpSize => scheduler.applyWorkerCommits report tpSize
  | .syncFromStore records => scheduler.syncFromStore records

/-- No scan finds the key incomplete while nothing protects it. -/
def Spares (key : Key) (scheduler : SchedulerMetadataIndex Key) : MetadataAction Key → Prop
  | .syncFromStore records =>
    key ∈ fullKeys scheduler.numLayers records ∨ 0 < scheduler.index.pins key
  | _ => True

/-- Every reservation belongs to an open plan. -/
def Reserved (scheduler : SchedulerMetadataIndex Key) : Prop :=
  ∀ key ∈ scheduler.index.pending, key ∈ scheduler.plannedStoreKeys

/-- The next scan has to drop the key unless it finds it complete. -/
def Owed (key : Key) (scheduler : SchedulerMetadataIndex Key) : Prop :=
  key ∈ scheduler.syncedFull ∨ key ∈ scheduler.pendingForget

variable {scheduler : SchedulerMetadataIndex Key}

/-- The open plans are settled one by one. -/
theorem foldl_confirmStore (full planned : List Key) (index : ChunkIndex Key) :
    let settled := planned.foldl (fun index key => index.confirmStore [key] (key ∈ full)) index
    settled.pins = index.pins ∧ ∀ key ∈ settled.pending, key ∉ planned ∧ key ∈ index.pending := by
  induction planned generalizing index with
  | nil => exact ⟨rfl, fun _ inside => ⟨not_mem_nil, inside⟩⟩
  | cons head planned ih =>
    obtain ⟨pins, pending⟩ := ih (index.confirmStore [head] (head ∈ full))
    refine ⟨pins, fun key inside => ?_⟩
    obtain ⟨outside, open_⟩ := pending key inside
    obtain ⟨other, before⟩ := mem_pending_confirmStore.mp open_
    simp only [mem_cons, not_mem_nil, or_false] at other ⊢
    exact ⟨not_or.mpr ⟨other, outside⟩, before⟩

/-- A scan publishes what is complete and drops what is owed, unless it is protected. -/
theorem syncFromStore_spec (reserved : scheduler.Reserved) (records : List (Key × Nat))
    (key : Key) :
    let next := scheduler.syncFromStore records
    let full := fullKeys scheduler.numLayers records
    key ∉ next.index.pending ∧ (key ∈ full → key ∈ next.index.resident) ∧
      (Owed key scheduler → key ∉ full → scheduler.index.pins key = 0 → key ∉ next.index.resident) ∧
      (Owed key scheduler → key ∈ full ∨ 0 < scheduler.index.pins key → Owed key next) := by
  dsimp only [syncFromStore, ChunkIndex.forget, Owed]
  generalize fullKeys scheduler.numLayers records = full
  obtain ⟨pins, pending⟩ := foldl_confirmStore full scheduler.plannedStoreKeys scheduler.index
  generalize scheduler.plannedStoreKeys.foldl
    (fun index key => index.confirmStore [key] (key ∈ full)) scheduler.index = settled
    at pins pending ⊢
  rw [pins]
  have stale : Owed key scheduler → key ∉ full →
      key ∈ scheduler.syncedFull.filter (· ∉ full) ∪ scheduler.pendingForget := by
    rintro (synced | kept) missing
    · exact mem_union_iff.mpr (.inl (mem_filter.mpr ⟨synced, decide_eq_true missing⟩))
    · exact mem_union_iff.mpr (.inr kept)
  refine ⟨fun inside => ?_, fun member => ?_, fun owed missing free => ?_, fun owed spared => ?_⟩
  · have still := (ChunkIndex.restore_spec _ full).2 inside
    obtain ⟨outside, before⟩ := pending key still
    exact outside (reserved key before)
  · exact (ChunkIndex.restore_spec _ full).1.mpr (.inl member)
  · rw [(ChunkIndex.restore_spec _ _).1, mem_eraseIf, decide_eq_false_iff_not]
    rintro (member | ⟨spared, _⟩)
    · exact missing member
    · exact spared ⟨stale owed missing, free⟩
  · by_cases member : key ∈ full
    · exact .inl member
    · exact .inr (mem_filter.mpr ⟨stale owed member, decide_eq_true (spared.resolve_left member)⟩)

/-- The failed keys of a report leave the account of the scans alone. -/
theorem Reserved.foldl_applyFailed (reserved : scheduler.Reserved) (failed : List Key) :
    (failed.foldl applyFailed scheduler).Reserved ∧
      ∀ key, Owed key scheduler → Owed key (failed.foldl applyFailed scheduler) := by
  induction failed generalizing scheduler with
  | nil => exact ⟨reserved, fun _ => id⟩
  | cons head failed ih =>
    have first : (scheduler.applyFailed head).Reserved := by
      intro key inside
      obtain ⟨_, planned, _, pending⟩ := scheduler.applyFailed_spec head key
      obtain ⟨before, closed⟩ := pending.mp inside
      exact planned.mpr ⟨reserved key before, fun same => closed same (reserved key before)⟩
    have kept : ∀ key, Owed key scheduler → Owed key (scheduler.applyFailed head) := by
      unfold applyFailed
      dsimp only
      split <;> exact fun _ => id
    obtain ⟨reserved, later⟩ := ih first
    exact ⟨reserved, fun key owed => later key (kept key owed)⟩

theorem Reserved.confirmStore (reserved : scheduler.Reserved) (keys : List Key) (ok : Bool) :
    (scheduler.confirmStore keys ok).Reserved := by
  intro key inside
  obtain ⟨outside, before⟩ := mem_pending_confirmStore.mp inside
  exact mem_filter.mpr ⟨reserved key before, decide_eq_true outside⟩

/-- An operation takes a key off the account only by a scan that drops it. -/
theorem Reserved.step (reserved : scheduler.Reserved) (action : MetadataAction Key) :
    (scheduler.step action).Reserved ∧ ∀ key, Owed key scheduler → Spares key scheduler action →
      Owed key (scheduler.step action) := by
  cases action with
  | planStore keys =>
    rw [SchedulerMetadataIndex.step]
    cases admitted : scheduler.planStore keys with
    | none => exact ⟨reserved, fun _ owed _ => owed⟩
    | some result =>
      obtain ⟨planned, same⟩ := planStore_planned admitted
      refine ⟨fun key inside => ?_, fun key owed _ => ?_⟩
      · rw [map_some, getD_some, planned.next_eq] at inside
        rw [map_some, getD_some, same]
        exact mem_union_iff.mpr ((mem_setAll.mp inside).imp_right (reserved key))
      · rw [map_some, getD_some, same]
        exact owed
  | confirmStore keys ok => exact ⟨reserved.confirmStore keys ok, fun _ owed _ => owed⟩
  | pin keys =>
    refine ⟨?_, fun _ owed _ => owed⟩
    unfold SchedulerMetadataIndex.step pin
    dsimp only
    split <;> exact reserved
  | unpin keys =>
    obtain ⟨pins, same, _⟩ := scheduler.index.unpin_eq keys
    rw [SchedulerMetadataIndex.step, same]
    exact ⟨reserved, fun _ owed _ => owed⟩
  | beginStep maxPendingAge =>
    refine ⟨fun key inside => ?_, fun _ owed _ => owed⟩
    obtain ⟨young, before⟩ := mem_eraseIf.mp inside
    exact mem_filter.mpr ⟨reserved key before, by simpa using young⟩
  | applyWorkerCommits report tpSize =>
    obtain ⟨_, _, observed⟩ := scheduler.observeWorkerEvictions_frame report.evicted
    have forgotten :
        ((scheduler.observeWorkerEvictions report.evicted).2.forget report.forgotten).Reserved := by
      rw [observed]
      exact reserved
    obtain ⟨failed, kept⟩ := forgotten.foldl_applyFailed report.failed
    refine ⟨Reserved.confirmStore failed _ true, fun key owed _ => kept key ?_⟩
    rw [observed]
    exact owed
  | syncFromStore records =>
    have spec := syncFromStore_spec reserved records
    exact ⟨fun key inside => absurd inside (spec key).1, fun key => (spec key).2.2.2⟩

/-- In every state of a run, `sync_from_store` leaves no plan open and no reservation,
and publishes every complete chunk. A chunk that was complete at the last scan is
dropped by the first scan that finds it incomplete and unprotected. -/
theorem sync_reconciles (index : ChunkIndex Key) (numLayers : Nat) (first : List (Key × Nat))
    (actions : List (MetadataAction Key)) :
    let reached := runFrom step (init { index with pending := ∅ } numLayers first) actions
    (∀ records,
      let next := reached.syncFromStore records
      next.plannedStoreKeys = [] ∧ next.syncedFull = fullKeys reached.numLayers records ∧
        ∀ key, key ∉ next.index.pending ∧
          (key ∈ fullKeys reached.numLayers records → key ∈ next.index.resident)) ∧
    ∀ key ∈ reached.syncedFull, ∀ more, Along step (Spares key) reached more →
      let later := runFrom step reached more
      ∀ records, later.index.pins key = 0 → key ∉ fullKeys later.numLayers records →
        key ∉ (later.syncFromStore records).index.resident := by
  intro reached
  have reserved : reached.Reserved := by
    refine invariant_runFrom (fun _ action reserved => (reserved.step action).1) ?_ actions
    exact fun key inside => absurd inside (syncFromStore_spec nofun first key).1
  refine ⟨fun records => ⟨rfl, rfl, fun key => ?_⟩, fun key synced more spares => ?_⟩
  · obtain ⟨pending, complete, _⟩ := syncFromStore_spec reserved records key
    exact ⟨pending, complete⟩
  · have kept : ∀ state action, state.Reserved ∧ Owed key state → Spares key state action →
        (state.step action).Reserved ∧ Owed key (state.step action) :=
      fun state action ⟨reserved, owed⟩ spares =>
        ⟨(reserved.step action).1, (reserved.step action).2 key owed spares⟩
    obtain ⟨reserved, owed⟩ := (Along.always kept ⟨reserved, .inl synced⟩ spares).last
    intro later records free missing
    exact (syncFromStore_spec reserved records key).2.2.1 owed missing free

end SchedulerMetadataIndex

end Tutti
