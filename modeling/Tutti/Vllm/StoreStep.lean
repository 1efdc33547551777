import Tutti.Vllm.LoadFailure

/-!
# The write batch of a step

A rank writes those of the planned chunks that it does not hold yet, confirms them in
its own index and reports them. Everything that was planned and not written is reported
as failed. The file follows one key through the batch: from its place in the plan to the
index of the rank and to the report.
-/

namespace Tutti

open Foundation List Option

/-- What happens on a rank in a step: the answers of its environment, the requests that
have ended, and the plan that `get_finished` obtains for queued reads. -/
structure RankConduct (Key Req : Type) where
  answers : StepAnswers Key
  finishedReqIds : List Req
  polledPlan : Option RunningPlan

namespace Worker

variable {Key Req : Type} [DecidableEq Key] [DecidableEq Req]

/-- What vLLM fetches behind `wait_for_save`: the finished loads and the error sets. -/
def fetchOutcomes (worker : Worker Key Req) (finishedReqIds : List Req)
    (plan : Option RunningPlan) : Worker Key Req :=
  let polled := (worker.getFinished finishedReqIds plan).2
  polled.getBlockIdsWithLoadErrors.2.getRequestIdsWithLoadErrors.2

/-- A whole step of a rank: the loads and saves, the fetches of vLLM and the report. -/
def reportStep (digest : Key → List Nat → Key) (worker : Worker Key Req)
    (metadata : ConnectorMetadata Key Req) (conduct : RankConduct Key Req) :
    Option (TuttiWorkerMetadata Key × Worker Key Req) := do
  let settled ← (worker.setMetadata metadata).loadStep digest conduct.answers
  let fetched := settled.fetchOutcomes conduct.finishedReqIds conduct.polledPlan
  return fetched.buildConnectorWorkerMeta digest

/-! ## What does not touch the store -/

/-- The plan of the step and what is reported about its saves are the same. -/
structure SameTally (before after : Worker Key Req) : Prop where
  metadata : after.metadata = before.metadata
  storeCommitted : after.report.storeCommitted = before.report.storeCommitted
  storeFailed : after.report.storeFailed = before.report.storeFailed
  committedThisStep : after.report.committedThisStep = before.report.committedThisStep

/-- The store side is the same: the engine up to its protections, the write batch, and
what is reported about it. -/
structure SameStore (before after : Worker Key Req) : Prop extends SameTally before after where
  engine : before.engine.SameUpToPins after.engine
  prepared : after.save.prepared = before.save.prepared
  keys : after.save.keys = before.save.keys

section

omit [DecidableEq Key] [DecidableEq Req]

variable {first second third : Worker Key Req}

theorem SameTally.trans (left : SameTally first second)
    (right : SameTally second third) : SameTally first third where
  metadata := right.metadata.trans left.metadata
  storeCommitted := right.storeCommitted.trans left.storeCommitted
  storeFailed := right.storeFailed.trans left.storeFailed
  committedThisStep := right.committedThisStep.trans left.committedThisStep

theorem SameStore.refl (worker : Worker Key Req) : SameStore worker worker :=
  ⟨⟨rfl, rfl, rfl, rfl⟩, KVEngine.SameUpToPins.refl _, rfl, rfl⟩

theorem SameStore.trans (left : SameStore first second)
    (right : SameStore second third) : SameStore first third where
  toSameTally := left.toSameTally.trans right.toSameTally
  engine := left.engine.trans right.engine
  prepared := right.prepared.trans left.prepared
  keys := right.keys.trans left.keys

theorem SameStore.resident {before after : Worker Key Req} (same : SameStore before after) :
    after.engine.index.resident = before.engine.index.resident := by
  obtain ⟨pins, equal⟩ := same.engine
  rw [equal]

end

variable {before after : Worker Key Req}

omit [DecidableEq Req] in
theorem SameStore.evolves (same : SameStore before after) :
    before.engine.Evolves after.engine :=
  .single (.pins same.engine)

omit [DecidableEq Key] [DecidableEq Req] in
theorem AsyncOnly.sameStore (same : AsyncOnly before after) :
    SameStore before after := by
  obtain ⟨_, pins, rfl⟩ := same
  exact { SameStore.refl before with engine := ⟨pins, rfl⟩ }

omit [DecidableEq Key] [DecidableEq Req] in
/-- A worker that differs in its loads only. -/
theorem sameStore_load (worker : Worker Key Req) (load : LoadState Key Req) :
    SameStore worker { worker with load } :=
  { SameStore.refl worker with }

variable {worker next : Worker Key Req} {digest : Key → List Nat → Key}

variable {requests : List (ReqMeta Req)}

theorem sameStore_loadRequests {requestOrdinal : Nat}
    (ran : loadRequests digest requests requestOrdinal worker = some next) :
    SameStore worker next := by
  induction requests generalizing worker requestOrdinal with
  | nil =>
    cases ran
    exact SameStore.refl _
  | cons request requests ih =>
    unfold loadRequests at ran
    split at ran
    · cases ran
    rename_i middle stepped
    refine SameStore.trans ?_ (ih ran)
    have same := SameStore.refl worker
    -- A batch that is pinned changes the protections, the others nothing here.
    cases loaded_loadRequest stepped with
    | idle | reported | asyncEmpty | asyncReported => exact { same with }
    | collected | asyncQueued => exact { same with engine := ⟨_, rfl⟩ }

omit [DecidableEq Key] in
theorem sameStore_onEvent {event : StepEvent} (ran : worker.onEvent event = some next) :
    SameStore worker next := by
  cases event with
  | saveFailure =>
    cases ran
    exact { SameStore.refl worker with }
  | readFailure error =>
    change worker.onReadFailure error = some next at ran
    unfold onReadFailure at ran
    split at ran
    · cases ran
      exact SameStore.refl worker
    · obtain ⟨load, _, rfl⟩ := map_eq_some_iff.mp ran
      exact sameStore_load worker load

omit [DecidableEq Key] in
theorem sameStore_events {events : List StepEvent}
    (ran : events.foldlM onEvent worker = some next) :
    SameStore worker next := by
  induction events generalizing worker with
  | nil =>
    cases ran
    exact SameStore.refl _
  | cons event events ih =>
    obtain ⟨middle, first, rest⟩ := bind_eq_some_iff.mp ran
    exact (sameStore_onEvent first).trans (ih rest)

omit [DecidableEq Req] in
theorem sameStore_finalizeLoadState (worker : Worker Key Req) :
    SameStore worker worker.finalizeLoadState.2 := by
  obtain ⟨pins, same⟩ := worker.finalizeLoadState_eq
  rw [same]
  exact { SameStore.refl worker with engine := ⟨pins, rfl⟩ }

theorem sameStore_getFinished (worker : Worker Key Req) (finishedReqIds : List Req)
    (plan : Option RunningPlan) : SameStore worker (worker.getFinished finishedReqIds plan).2 := by
  unfold getFinished
  dsimp only
  generalize (worker.pollAsyncLoads plan).async.queue.partition
    (fun load => decide (load.reqId ∈ finishedReqIds)) = parts
  refine AsyncOnly.sameStore (((asyncOnly_pollAsyncLoads worker plan).trans
    (asyncOnly_foldl_releaseAsyncLoad _ parts.1)).trans ?_)
  exact ⟨_, (parts.1.foldl releaseAsyncLoad (worker.pollAsyncLoads plan)).engine.index.pins, rfl⟩

theorem sameStore_fetchOutcomes (worker : Worker Key Req) (finishedReqIds : List Req)
    (plan : Option RunningPlan) : SameStore worker (worker.fetchOutcomes finishedReqIds plan) :=
  { sameStore_getFinished worker finishedReqIds plan with }

/-! ## The write batch -/

variable {blockTables tables : List (List Nat)} {key : Key} {keys : List Key}

variable {answers : StartAnswers Key}

section

omit [DecidableEq Req]

/-- A shorter selection takes the named keys only. -/
theorem mem_of_mem_selectNewChunks {newKeys : List Key}
    (member : key ∈ (selectNewChunks keys blockTables newKeys).1)
    (shorter : newKeys.length ≠ keys.length) : key ∈ newKeys := by
  unfold selectNewChunks at member
  rw [if_neg shorter] at member
  obtain ⟨place, listed, found⟩ := mem_filterMap.mp member
  obtain ⟨named, inside, rfl⟩ := mem_map.mp listed
  obtain ⟨new, old⟩ := mem_filter.mp inside
  rw [getElem?_idxOf (of_decide_eq_true old), some.injEq] at found
  exact found ▸ new

/-- An admitted batch has no resident key in it. -/
theorem not_resident_of_selected {index next : ChunkIndex Key} {plan : StorePlan Key}
    (planned : index.Planned keys plan next)
    (member : key ∈ (selectNewChunks keys blockTables plan.newKeys).1) :
    key ∉ index.resident := by
  by_cases shorter : plan.newKeys.length ≠ keys.length
  · exact (planned.mem_newKeys.mp (mem_of_mem_selectNewChunks member shorter)).2
  -- As many new keys as keys: nothing was filtered out.
  have all : plan.newKeys = firstOccurrences keys := by
    rw [planned.newKeys_eq] at shorter ⊢
    have most := ((nodup_firstOccurrences keys).subperm fun key =>
      mem_firstOccurrences.mp).length_le
    have fewer := length_filter_le (fun key => decide (key ∉ index.resident))
      (firstOccurrences keys)
    exact filter_eq_self.mpr (length_filter_eq_length_iff.mp (by omega))
  have listed := mem_firstOccurrences.mpr (selectNewChunks_subset member)
  rw [← all] at listed
  exact (planned.mem_newKeys.mp listed).2

variable {planned : List Key} {prepared : Bool}

/-- Planning the batch, for one of its keys: a planned key is not resident, and planning
does not evict the key. -/
theorem planSaves_spec
    (ran : worker.planSaves keys blockTables prepared = some (planned, tables, next))
    (apart : worker.engine.Apart) (asked : key ∈ keys) :
    (key ∈ planned → key ∉ worker.engine.index.resident) ∧
      (key ∈ next.engine.index.resident ↔ key ∈ worker.engine.index.resident) := by
  unfold planSaves at ran
  split at ran
  · cases ran
  · split at ran
    · rename_i pending
      cases ran
      refine ⟨fun member => apart key ?_, Iff.rfl⟩
      exact of_decide_eq_true (all_eq_true.mp pending key member)
    · cases ran
      exact ⟨fun member => absurd member not_mem_nil, Iff.rfl⟩
  · rename_i plan engine admitted
    cases ran
    have inner := KVEngine.planStore_admitted admitted
    refine ⟨not_resident_of_selected inner, ?_⟩
    rw [inner.mem_resident]
    exact and_iff_right fun evicted => (inner.evicted key evicted).2.1 asked

theorem planSaves_frame
    (ran : worker.planSaves keys blockTables prepared = some (planned, tables, next)) :
    worker.engine.Evolves next.engine ∧ SameTally worker next := by
  unfold planSaves at ran
  split at ran
  · cases ran
  · split at ran <;> cases ran <;> exact ⟨.refl, ⟨rfl, rfl, rfl, rfl⟩⟩
  rename_i plan engine admitted
  cases ran
  have moves : worker.engine.Moves (worker.engine.planStore keys prepared).2 :=
    .planStore keys prepared
  rw [admitted] at moves
  exact ⟨.single moves, ⟨rfl, rfl, rfl, rfl⟩⟩

theorem evicted_frame (worker : Worker Key Req) (answers : StartAnswers Key) :
    worker.engine.Evolves (worker.evicted answers).engine ∧
      SameTally worker (worker.evicted answers) := by
  unfold evicted
  split
  · exact ⟨.single (.applyEvictions _), ⟨rfl, rfl, rfl, rfl⟩⟩
  · exact ⟨.refl, ⟨rfl, rfl, rfl, rfl⟩⟩

theorem prepareWriteBatch_frame (ran : worker.prepareWriteBatch digest answers = some next) :
    worker.engine.Evolves next.engine ∧ SameTally worker next := by
  obtain ⟨evolves, tally⟩ := worker.evicted_frame answers
  rcases prepareWriteBatch_some ran with ⟨_, rfl⟩ | ⟨keys, tables, _, outcome⟩
  · exact ⟨.refl, ⟨rfl, rfl, rfl, rfl⟩⟩
  rcases outcome with ⟨save, _, rfl⟩ | ⟨planned, _, admitted, save, plans, _, rfl⟩
  · exact ⟨evolves, { tally with }⟩
  · obtain ⟨more, same⟩ := planSaves_frame plans
    exact ⟨evolves.trans more, { tally.trans same with }⟩

end

/-- The keys of the chunks that a request saves, as the rank computes them. -/
def saveSpan (digest : Key → List Nat → Key) (worker : Worker Key Req) (request : ReqMeta Req) :
    List Key :=
  ((worker.engine.hashKeys digest request.tokenIds).drop request.saveChunkStart).take
    request.saveChunkCount

/-- The step has a plan for the key, with the label of its reservation. -/
def AsksFor (digest : Key → List Nat → Key) (worker : Worker Key Req) (key : Key) : Prop :=
  ∃ request ∈ worker.metadata.requests, 0 < request.saveChunkCount ∧
    request.saveGenerations ≠ [] ∧ key ∈ worker.saveSpan digest request

omit [DecidableEq Key] [DecidableEq Req] in
theorem mem_collectSaves (collected : worker.collectSaves digest requests = some (keys, tables))
    {request : ReqMeta Req} (member : request ∈ requests) (some : 0 < request.saveChunkCount)
    (inside : key ∈ worker.saveSpan digest request) : key ∈ keys := by
  induction requests generalizing keys tables with
  | nil => cases member
  | cons head tail ih =>
    unfold collectSaves at collected
    split at collected
    · rename_i none
      rcases mem_cons.mp member with rfl | later
      · exact absurd none some.ne'
      · exact ih collected later
    split at collected
    · cases collected
    split at collected
    · cases collected
    rename_i rest
    cases collected
    rcases mem_cons.mp member with rfl | later
    · exact mem_append_left _ inside
    · exact mem_append_right _ (ih rest later)

omit [DecidableEq Key] [DecidableEq Req] in
/-- The plan for a key depends on the metadata and on how the rank computes keys. -/
theorem AsksFor.congr {before after : Worker Key Req} (asks : before.AsksFor digest key)
    (metadata : after.metadata = before.metadata)
    (chain : after.engine.index.chain = before.engine.index.chain) : after.AsksFor digest key := by
  obtain ⟨request, member, some, labelled, inside⟩ := asks
  refine ⟨request, metadata ▸ member, some, labelled, ?_⟩
  unfold saveSpan KVEngine.hashKeys at inside ⊢
  rwa [ChunkIndex.hashKeys_of_chain digest chain]

omit [DecidableEq Req] in
/-- The write batch of a step, for a key that the step asks for and the scheduler does not
evict: it is in the batch only if it is not resident, and neither the evictions nor the
plan make it resident or drop it. -/
theorem prepareWriteBatch_spec (ran : worker.prepareWriteBatch digest answers = some next)
    (unprepared : worker.save.prepared = false) (apart : worker.engine.Apart)
    (asks : worker.AsksFor digest key) (spared : key ∉ worker.metadata.evictedKeys) :
    (key ∈ next.save.keys → key ∉ worker.engine.index.resident) ∧
      (key ∈ next.engine.index.resident ↔ key ∈ worker.engine.index.resident) := by
  obtain ⟨evolves, tally⟩ := worker.evicted_frame answers
  have kept : key ∈ (worker.evicted answers).engine.index.resident ↔
      key ∈ worker.engine.index.resident := by
    unfold evicted
    split
    · rw [KVEngine.mem_resident_applyEvictions]
      exact and_iff_left fun evicted => absurd evicted spared
    · rfl
  rcases prepareWriteBatch_some ran with ⟨prepared, _⟩ | ⟨keys, tables, collected, outcome⟩
  · exact nomatch unprepared.symm.trans prepared
  rcases outcome with ⟨save, empty, rfl⟩ | ⟨planned, _, admitted, save, plans, selected, rfl⟩
  · refine ⟨fun member => ?_, kept⟩
    rw [empty] at member
    cases member
  · obtain ⟨request, member, some, _, inside⟩ := asks.congr tally.metadata evolves.chain
    have asked := mem_collectSaves collected member some inside
    obtain ⟨fresh, resident⟩ := planSaves_spec plans (evolves.apart apart) asked
    exact ⟨fun member => mt kept.mpr (fresh (selected key member)), resident.trans kept⟩

/-! ## A step up to `wait_for_save` -/

section Start

variable {digest : Key → List Nat → Key}

variable {answers : StartAnswers Key}

variable {worker begun : Worker Key Req}

/-- `start_load_kv` up to the write batch: the engine gets rid of stale plans, and the
batch is to be prepared. -/
theorem beginLoads_frame
    (ran : worker.beginLoads answers = some begun) :
    worker.engine.Evolves begun.engine ∧ SameTally worker begun ∧
      begun.engine.index.resident = worker.engine.index.resident ∧
      begun.save.prepared = false := by
  -- How the rank computes keys plays no role here.
  have opened : Opened (fun parent _ => parent) worker begun := opened_beginLoads ran
  obtain ⟨pins, engine⟩ := opened.engine
  refine ⟨?_, ⟨opened.same.metadata, ?_, ?_, ?_⟩, opened.same.resident, ?_⟩
  · have released : worker.engine.Moves
        { worker.engine with index := { worker.engine.index with pins } } :=
      .pins ⟨pins, rfl⟩
    rw [engine]
    exact .tail (.single released) (.beginStep workerPendingMaxAgeSteps)
  · rw [opened.report]
  · rw [opened.report]
  · rw [opened.report]
  · rw [opened.save]

theorem sameStore_reading {loaded reading : Worker Key Req} {starts : Bool}
    {plan : Option RunningPlan} (looped : loadRequests digest requests 0 begun = some loaded)
    (planned : loaded.startReadPlan starts = some reading) :
    SameStore begun (reading.kickAsyncLoads plan) := by
  have started : SameStore loaded reading := by
    obtain ⟨_, _, rfl, _⟩ := startReadPlan_some planned
    exact sameStore_load loaded _
  exact ((sameStore_loadRequests looped).trans started).trans
    (asyncOnly_kickAsyncLoads reading plan).sameStore

variable {started : Worker Key Req}

theorem startLoadKv_frame
    (ran : worker.startLoadKv digest answers = some started) :
    worker.engine.Evolves started.engine ∧ SameTally worker started := by
  obtain ⟨begun, loaded, reading, began, looped, planned, rest⟩ := startLoadKv_some ran
  obtain ⟨evolves, tally, _, _⟩ := beginLoads_frame began
  have same : SameStore begun (reading.kickAsyncLoads answers.kickedPlan) :=
    sameStore_reading looped planned
  split at rest
  · cases rest
    exact ⟨evolves.trans same.evolves, tally.trans same.toSameTally⟩
  · obtain ⟨more, last⟩ := prepareWriteBatch_frame rest
    exact ⟨(evolves.trans same.evolves).trans more, (tally.trans same.toSameTally).trans last⟩

/-- Without a load error the write batch is prepared. A key of the step is in it only if
it was not resident, and it is resident behind it exactly if it was before. -/
theorem startLoadKv_batch
    (ran : worker.startLoadKv digest answers = some started) (clean : started.load.failed = false)
    (apart : worker.engine.Apart) {key : Key} (asks : worker.AsksFor digest key)
    (spared : key ∉ worker.metadata.evictedKeys) :
    (key ∈ started.save.keys → key ∉ worker.engine.index.resident) ∧
      (key ∈ started.engine.index.resident ↔ key ∈ worker.engine.index.resident) := by
  obtain ⟨begun, loaded, reading, began, looped, planned, rest⟩ := startLoadKv_some ran
  obtain ⟨evolves, tally, resident, unprepared⟩ := beginLoads_frame began
  have same : SameStore begun (reading.kickAsyncLoads answers.kickedPlan) :=
    sameStore_reading looped planned
  split at rest
  · rename_i failed
    cases rest
    exact nomatch clean.symm.trans failed
  have through : worker.engine.Evolves (reading.kickAsyncLoads answers.kickedPlan).engine :=
    evolves.trans same.evolves
  have metadata := same.metadata.trans tally.metadata
  have spec := prepareWriteBatch_spec rest (same.prepared.trans unprepared)
    (through.apart apart) (asks.congr metadata through.chain) (metadata ▸ spared)
  rwa [same.resident, resident] at spec

end Start

/-! ## The report of a step -/

section Report

variable {digest : Key → List Nat → Key}

/-- The keys counted as stored are those of the step, each once. -/
def Tallied (report : StoreReport Key) : Prop :=
  ∀ key, report.storeCommitted.get? key = if key ∈ report.committedThisStep then some 1 else none

omit [DecidableEq Req] in
theorem recordStoreOutcome_stored {report : StoreReport Key} (tallied : Tallied report)
    (keys : List Key) :
    Tallied (recordStoreOutcome report keys true) ∧
      (recordStoreOutcome report keys true).storeFailed = report.storeFailed ∧
      ∀ key, key ∈ (recordStoreOutcome report keys true).committedThisStep ↔
        key ∈ report.committedThisStep ∨ key ∈ keys := by
  induction keys generalizing report with
  | nil => exact ⟨tallied, rfl, fun key => (or_iff_left not_mem_nil).symm⟩
  | cons head tail ih =>
    unfold recordStoreOutcome at ih ⊢
    rw [foldl_cons]
    by_cases known : head ∈ report.committedThisStep
    · rw [if_pos known]
      obtain ⟨after, failed, stored⟩ := ih tallied
      refine ⟨after, failed, fun key => (stored key).trans ?_⟩
      rw [mem_cons]
      exact ⟨Or.imp_right .inr, fun either => either.elim .inl fun listed =>
        listed.elim (fun same => .inl (same ▸ known)) .inr⟩
    rw [if_neg known]
    have counted : Tallied { report with
        committedThisStep := insert head report.committedThisStep
        storeCommitted := report.storeCommitted.set head 1 } := by
      intro key
      rw [OrderedDict.get?_set, tallied key]
      by_cases same : key = head
      · subst same
        rw [if_pos rfl, if_pos (Finset.mem_insert_self _ _)]
      rw [if_neg same]
      refine if_congr ?_ rfl rfl
      rw [Finset.mem_insert]
      exact (or_iff_right same).symm
    obtain ⟨after, failed, stored⟩ := ih counted
    refine ⟨after, failed, fun key => (stored key).trans ?_⟩
    rw [Finset.mem_insert, mem_cons]
    tauto

omit [DecidableEq Req] in
/-- Settling a successful batch: its keys become resident and are counted. -/
theorem settleSaves_stored (worker : Worker Key Req) (tallied : Tallied worker.report) (key : Key) :
    let settled := (worker.settleSaves true).clearSaves
    (key ∈ settled.engine.index.resident ↔
        key ∈ worker.save.keys ∨ key ∈ worker.engine.index.resident) ∧
      Tallied settled.report ∧ settled.report.storeFailed = worker.report.storeFailed ∧
      (key ∈ settled.report.committedThisStep ↔
        key ∈ worker.report.committedThisStep ∨ key ∈ worker.save.keys) ∧
      settled.metadata = worker.metadata := by
  unfold settleSaves
  by_cases empty : worker.save.keys = []
  · rw [empty]
    exact ⟨(or_iff_right not_mem_nil).symm, tallied, rfl,
      (or_iff_left not_mem_nil).symm, rfl⟩
  · rw [if_neg empty]
    obtain ⟨counted, failed, stored⟩ := recordStoreOutcome_stored tallied worker.save.keys
    refine ⟨?_, counted, failed, stored key, rfl⟩
    exact ChunkIndex.mem_resident_confirmStore.trans (or_congr_left (and_iff_right rfl))

variable {worker : Worker Key Req} {key : Key}

omit [DecidableEq Req] in
theorem mem_unreportedPlans :
    key ∈ worker.unreportedPlans digest ↔
      worker.AsksFor digest key ∧ key ∉ worker.report.committedThisStep := by
  unfold unreportedPlans AsksFor
  simp only [mem_flatMap, mem_filter, decide_eq_true_eq, Bool.decide_and, Bool.and_eq_true]
  constructor
  · rintro ⟨request, ⟨member, some, labelled⟩, inside, unstored⟩
    exact ⟨⟨request, member, some, labelled, inside⟩, unstored⟩
  · rintro ⟨⟨request, member, some, labelled, inside⟩, unstored⟩
    exact ⟨request, ⟨member, some, labelled⟩, inside, unstored⟩

/-- The report of a worker with nothing to say. -/
def nothingReported : StoreReport Key := ⟨∅, [], ∅, [], []⟩

/-- A step without an error of the loads: nothing failed when they were started, and the
verdict of the ranks is no failure. -/
def Clean (digest : Key → List Nat → Key) (worker : Worker Key Req) (answers : StepAnswers Key) :
    Prop :=
  (∃ started ∈ worker.startLoadKv digest answers.start, started.load.failed = false) ∧
    ∃ drained ∈ worker.drainStep digest answers,
      (drained.loadConsensus answers.wait.gathered).1.failed = false
  deriving Decidable

variable {metadata : ConnectorMetadata Key Req} {conduct : RankConduct Key Req}
  {report : TuttiWorkerMetadata Key}

/-- The parts of a whole step: the start, what follows without touching the store, the
settlement of the write batch, and what vLLM fetches. -/
theorem reportStep_some
    (ran : worker.reportStep digest metadata conduct = some (report, next)) :
    ∃ started batch settled fetched,
      (worker.setMetadata metadata).startLoadKv digest conduct.answers.start = some started ∧
      SameStore started batch ∧
      (∃ ok, settled = (batch.settleSaves ok).clearSaves ∧
        ((worker.setMetadata metadata).Clean digest conduct.answers → ok = true)) ∧
      SameStore settled fetched ∧
      (report, next) = fetched.buildConnectorWorkerMeta digest := by
  obtain ⟨settled, stepped, rest⟩ := bind_eq_some_iff.mp ran
  obtain ⟨waiting, layers, waited⟩ := bind_eq_some_iff.mp stepped
  obtain ⟨started, begins, events⟩ := bind_eq_some_iff.mp layers
  dsimp only at waited
  split at waited
  · rename_i returned
    cases waited
    obtain ⟨drained, drains, outcome⟩ := waitForSave_returned returned
    obtain ⟨load, rfl, _⟩ := drainReads_eq drains
    have through := (sameStore_events events).trans (sameStore_load waiting load)
    have fetches := sameStore_fetchOutcomes (waiting.waitForSave conduct.answers.wait).worker
      conduct.finishedReqIds conduct.polledPlan
    rcases outcome with ⟨_, failed, installed, installs, final⟩ | ⟨_, final⟩
    · obtain ⟨last, rfl, _⟩ := installConsensus_eq installs
      refine ⟨started, _, _, _, begins, ?_, ⟨false, final, fun clean => ?_⟩, fetches,
        (some.inj rest).symm⟩
      · exact (through.trans (sameStore_load _ last)).trans (sameStore_finalizeLoadState _)
      obtain ⟨other, drained, passed⟩ := clean.2
      have same : (worker.setMetadata metadata).drainStep digest conduct.answers =
          some { waiting with load } := bind_eq_some_iff.mpr ⟨_, layers, drains⟩
      cases same.symm.trans drained
      exact nomatch passed.symm.trans failed
    · exact ⟨started, _, _, _, begins, through.trans (sameStore_finalizeLoadState _),
        ⟨true, final, fun _ => rfl⟩, fetches, (some.inj rest).symm⟩
  · cases waited

omit [DecidableEq Req] in
theorem evolves_settleSaves (worker : Worker Key Req) (ok : Bool) :
    worker.engine.Evolves (worker.settleSaves ok).clearSaves.engine := by
  unfold settleSaves
  split
  · exact .refl
  · exact .single (.confirmStore worker.save.keys ok)

/-- Every step leaves an engine that evolved from the one before, and nothing to report. -/
theorem reportStep_frame
    (ran : worker.reportStep digest metadata conduct = some (report, next)) :
    worker.engine.Evolves next.engine ∧ next.report = nothingReported := by
  obtain ⟨started, batch, settled, fetched, begins, through, ⟨ok, rfl, _⟩, fetches, built⟩ :=
    reportStep_some ran
  cases built
  refine ⟨?_, rfl⟩
  exact (((startLoadKv_frame begins).1.trans through.evolves).trans
    (evolves_settleSaves batch ok)).trans fetches.evolves

/-- A step without errors, for a key that it asks for and that the rank holds at its end:
the key is reported as stored if it was written, and as failed if it was resident. -/
theorem reportStep_clean
    (ran : worker.reportStep digest metadata conduct = some (report, next))
    (clean : (worker.setMetadata metadata).Clean digest conduct.answers)
    (apart : worker.engine.Apart) (unreported : worker.report = nothingReported)
    (asks : (worker.setMetadata metadata).AsksFor digest key) (spared : key ∉ metadata.evictedKeys)
    (held : key ∈ next.engine.index.resident) :
    (key ∉ worker.engine.index.resident →
        report.committed.get? key = some 1 ∧ key ∉ report.failed) ∧
      (key ∈ worker.engine.index.resident → key ∈ report.failed) := by
  obtain ⟨started, batch, settled, fetched, begins, through, ⟨ok, rfl, succeeds⟩, fetches, built⟩ :=
    reportStep_some ran
  cases succeeds clean
  cases built
  have unfailed : started.load.failed = false := by
    obtain ⟨other, begun, passed⟩ := clean.1
    cases begins.symm.trans begun
    exact passed
  obtain ⟨fresh, same⟩ := startLoadKv_batch begins unfailed apart asks spared
  obtain ⟨evolves, tally⟩ := startLoadKv_frame begins
  -- Nothing was reported before the batch is settled.
  have quiet := tally.trans through.toSameTally
  have thisStep : batch.report.committedThisStep = ∅ :=
    quiet.committedThisStep.trans (congrArg StoreReport.committedThisStep unreported)
  have tallied : Tallied batch.report := by
    intro query
    rw [thisStep, quiet.storeCommitted]
    change worker.report.storeCommitted.get? query = _
    rw [unreported]
    exact (if_neg (Finset.notMem_empty query)).symm
  obtain ⟨resident, counted, failed, stored, metadataSame⟩ := settleSaves_stored batch tallied key
  have unstored : batch.report.storeFailed = [] :=
    quiet.storeFailed.trans (congrArg StoreReport.storeFailed unreported)
  have chain : fetched.engine.index.chain = worker.engine.index.chain := by
    have all : worker.engine.Evolves fetched.engine := ((evolves.trans through.evolves).trans
      (evolves_settleSaves batch true)).trans fetches.evolves
    exact all.chain
  have asked : fetched.AsksFor digest key := asks.congr
    ((fetches.metadata.trans metadataSame).trans quiet.metadata) chain
  have inFailed : key ∈ (fetched.buildConnectorWorkerMeta digest).1.failed ↔
      key ∉ batch.save.keys := by
    change key ∈ fetched.report.storeFailed ∪ fetched.unreportedPlans digest ↔ _
    rw [mem_union_iff, fetches.storeFailed, failed, unstored, mem_unreportedPlans,
      fetches.committedThisStep, stored, thisStep]
    simp [asked]
  have residentEnd : key ∈ batch.save.keys ∨ key ∈ batch.engine.index.resident := by
    rw [← resident]
    rwa [fetches.resident] at held
  rw [through.resident, same] at residentEnd
  refine ⟨fun absent => ?_, fun present => inFailed.mpr fun member =>
    fresh (through.keys ▸ member) present⟩
  have written := residentEnd.resolve_right absent
  refine ⟨?_, fun missing => inFailed.mp missing written⟩
  rw [fetches.storeCommitted, counted key, if_pos (stored.mpr (.inr written))]

end Report

end Worker

end Tutti
