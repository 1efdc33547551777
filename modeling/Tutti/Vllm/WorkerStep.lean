import Tutti.Vllm.LoadLoop

/-!
# A step on one rank

vLLM calls `start_load_kv`, then the layers run, during which a read or a save may
fail, then `wait_for_save`. The file puts these calls together and says what each of
them leaves alone: asynchronous loads touch nothing but their own state and the
protections, the write batch does not touch the loads, and settling a step keeps the
error sets.
-/

namespace Tutti

open Foundation

/-- What can reach a worker between `start_load_kv` and `wait_for_save`. -/
inductive StepEvent where
  | readFailure (error : ReadError)
  | saveFailure
deriving DecidableEq, Repr

/-- What the environment decides during a step of a rank. -/
structure StepAnswers (Key : Type) where
  start : StartAnswers Key
  events : List StepEvent
  wait : WaitAnswers

/-- The errors of the read plan during a step. -/
def StepAnswers.readErrors {Key : Type} (answers : StepAnswers Key) : List ReadError :=
  (answers.events.filterMap fun
    | .readFailure error => some error
    | .saveFailure => none) ++
  answers.wait.requireComplete.toList ++ answers.wait.waitIdle.toList

namespace Worker

variable {Key Req : Type}

section Step

variable [DecidableEq Key] [DecidableEq Req] (digest : Key → List Nat → Key)

/-- One event of a step. -/
def onEvent (worker : Worker Key Req) : StepEvent → Option (Worker Key Req)
  | .readFailure error => worker.onReadFailure error
  | .saveFailure => some worker.onSaveFailure

/-- A step up to the call of `wait_for_save`. -/
def runLayers (worker : Worker Key Req) (answers : StepAnswers Key) : Option (Worker Key Req) := do
  let started ← worker.startLoadKv digest answers.start
  answers.events.foldlM onEvent started

/-- A step in which `wait_for_save` returns normally. -/
def loadStep (worker : Worker Key Req) (answers : StepAnswers Key) : Option (Worker Key Req) := do
  let waiting ← worker.runLayers digest answers
  let result := waiting.waitForSave answers.wait
  if result.returned then some result.worker else none

/-- A step up to the collective. -/
def drainStep (worker : Worker Key Req) (answers : StepAnswers Key) : Option (Worker Key Req) := do
  let waiting ← worker.runLayers digest answers
  waiting.drainReads answers.wait

end Step

/-! ## Asynchronous loads -/

/-- Only the asynchronous loads and the protections differ. -/
def AsyncOnly (before after : Worker Key Req) : Prop :=
  ∃ async pins, after = { before with
    engine := { before.engine with index := { before.engine.index with pins } }
    async }

theorem AsyncOnly.refl (worker : Worker Key Req) : AsyncOnly worker worker :=
  ⟨worker.async, worker.engine.index.pins, rfl⟩

theorem AsyncOnly.trans {first second third : Worker Key Req} (left : AsyncOnly first second)
    (right : AsyncOnly second third) : AsyncOnly first third := by
  obtain ⟨_, _, rfl⟩ := left
  obtain ⟨async, pins, rfl⟩ := right
  exact ⟨async, pins, rfl⟩

theorem AsyncOnly.load {before after : Worker Key Req} (same : AsyncOnly before after) :
    after.load = before.load := by
  obtain ⟨_, _, rfl⟩ := same
  rfl

section Async

variable [DecidableEq Key]

variable (worker : Worker Key Req)

theorem asyncOnly_releaseAsyncLoad (load : AsyncLoad Key Req) :
    AsyncOnly worker (worker.releaseAsyncLoad load) := by
  obtain ⟨pins, same⟩ := worker.engine.unpin_eq load.keys
  refine ⟨worker.async, pins, ?_⟩
  unfold releaseAsyncLoad
  rw [same]

section

variable (loads : List (AsyncLoad Key Req))

theorem asyncOnly_foldl_releaseAsyncLoad :
    AsyncOnly worker (loads.foldl releaseAsyncLoad worker) := by
  induction loads generalizing worker with
  | nil => exact AsyncOnly.refl worker
  | cons load loads ih => exact (asyncOnly_releaseAsyncLoad worker load).trans (ih _)

variable [DecidableEq Req]

theorem asyncOnly_finishAsyncLoads (ok : Bool) :
    AsyncOnly worker (worker.finishAsyncLoads loads ok) := by
  induction loads generalizing worker with
  | nil => exact AsyncOnly.refl worker
  | cons load loads ih =>
    have released := asyncOnly_releaseAsyncLoad worker load
    have finished : AsyncOnly worker (finishAsyncLoad ok worker load) := by
      obtain ⟨async, pins, same⟩ := released
      unfold finishAsyncLoad
      rw [same]
      exact ⟨_, pins, rfl⟩
    exact finished.trans (ih _)

theorem asyncOnly_settleBatch (batch : AsyncBatch Key Req) :
    AsyncOnly worker (worker.settleBatch batch) := by
  unfold settleBatch
  split
  · exact ⟨_, worker.engine.index.pins, rfl⟩
  · refine AsyncOnly.trans ?_ (asyncOnly_finishAsyncLoads _ batch.loads _)
    exact ⟨_, worker.engine.index.pins, rfl⟩

theorem asyncOnly_kickAsyncLoads (plan : Option RunningPlan) :
    AsyncOnly worker (worker.kickAsyncLoads plan) := by
  have taken : AsyncOnly worker { worker with async := { worker.async with queue := [] } } :=
    ⟨_, worker.engine.index.pins, rfl⟩
  unfold kickAsyncLoads
  split
  · exact AsyncOnly.refl worker
  cases plan with
  | none => exact taken.trans (asyncOnly_finishAsyncLoads _ _ _)
  | some plan => exact taken.trans (asyncOnly_settleBatch _ _)

theorem asyncOnly_pollAsyncLoads (plan : Option RunningPlan) :
    AsyncOnly worker (worker.pollAsyncLoads plan) := by
  unfold pollAsyncLoads
  split
  · exact asyncOnly_kickAsyncLoads worker plan
  rename_i batch _
  split
  · exact asyncOnly_settleBatch worker batch
  · exact (asyncOnly_settleBatch worker batch).trans (asyncOnly_kickAsyncLoads _ plan)

theorem active_finishAsyncLoads (ok : Bool) :
    (worker.finishAsyncLoads loads ok).async.active = worker.async.active ∧
      (worker.finishAsyncLoads loads ok).async.queue = worker.async.queue := by
  induction loads generalizing worker with
  | nil => exact ⟨rfl, rfl⟩
  | cons load loads ih => exact ih (finishAsyncLoad ok worker load)

end

end Async

/-! ## The start of a step -/

/-- Only the engine, the write batch and the report differ, and no protection does. -/
def WritesOnly (before after : Worker Key Req) : Prop :=
  ∃ engine save report, engine.index.pins = before.engine.index.pins ∧
    after = { before with engine, save, report }

theorem WritesOnly.refl (worker : Worker Key Req) : WritesOnly worker worker :=
  ⟨worker.engine, worker.save, worker.report, rfl, rfl⟩

theorem WritesOnly.trans {first second third : Worker Key Req} (left : WritesOnly first second)
    (right : WritesOnly second third) : WritesOnly first third := by
  obtain ⟨_, _, _, before, rfl⟩ := left
  obtain ⟨engine, save, report, after, rfl⟩ := right
  exact ⟨engine, save, report, after.trans before, rfl⟩

variable {worker : Worker Key Req}

section Start

variable [DecidableEq Key] [DecidableEq Req] {digest : Key → List Nat → Key}

omit [DecidableEq Req] in
theorem finalizeLoadState_eq (worker : Worker Key Req) :
    ∃ pins, worker.finalizeLoadState.2 = { worker with
      engine := { worker.engine with index := { worker.engine.index with pins } }
      load := { worker.load with keys := [], blockTables := [], pinned := false } } := by
  have released : ∃ pins, (if worker.load.pinned then worker.engine.unpin worker.load.keys
      else (.ok (), worker.engine)).2 =
        { worker.engine with index := { worker.engine.index with pins } } := by
    split
    · exact worker.engine.unpin_eq worker.load.keys
    · exact ⟨worker.engine.index.pins, rfl⟩
  obtain ⟨pins, same⟩ := released
  exact ⟨pins, congrArg (fun engine => { worker with
    engine
    load := { worker.load with keys := [], blockTables := [], pinned := false } }) same⟩

/-- What is known at the start of the loop over the requests. -/
structure Opened (digest : Key → List Nat → Key) (worker begun : Worker Key Req) : Prop where
  same : SameRank digest worker begun
  load : begun.load =
    ⟨false, [], [], fun _ => none, [], worker.load.errorBlocks, ∅, worker.load.generation + 1,
      externalLoadStep worker.metadata.requests, false⟩
  save : begun.save = { worker.save with prepared := false, error := false }
  report : begun.report = worker.report
  engine : ∃ pins, begun.engine =
    (KVEngine.beginStep { worker.engine with index := { worker.engine.index with pins } }
      workerPendingMaxAgeSteps).2

variable {answers : StartAnswers Key}

theorem opened_beginLoads {begun : Worker Key Req} (ran : worker.beginLoads answers = some begun) :
    Opened digest worker begun := by
  obtain ⟨released, same⟩ := worker.finalizeLoadState_eq
  unfold beginLoads at ran
  split at ran
  · cases ran
  rename_i finalized outcome
  rw [outcome] at same
  obtain ⟨async, pins, polled⟩ := asyncOnly_pollAsyncLoads finalized.resetStep answers.polledPlan
  dsimp only at same
  rw [polled, same] at ran
  cases ran
  exact ⟨⟨rfl, rfl, rfl, rfl, rfl, rfl⟩, rfl, rfl, rfl, pins, rfl⟩

variable {next : Worker Key Req}

omit [DecidableEq Key] [DecidableEq Req] in
/-- The read plan starts only on a batch with as many keys as block tables. -/
theorem startReadPlan_some {starts : Bool} (ran : worker.startReadPlan starts = some next) :
    ∃ tables pinned, next =
        { worker with load := { worker.load with blockTables := tables, pinned } } ∧
      (worker.load.keys = [] ∧ tables = [] ∨
        worker.load.keys ≠ [] ∧ Aligned worker.load ∧ tables = worker.load.blockTables ∧
          pinned = true) := by
  unfold startReadPlan at ran
  split at ran
  · rename_i empty
    cases ran
    exact ⟨_, _, rfl, .inl ⟨empty, rfl⟩⟩
  rename_i filled
  split at ran
  · rename_i valid
    cases ran
    exact ⟨_, _, rfl, .inr ⟨filled, valid.2.1, rfl, rfl⟩⟩
  · cases ran

omit [DecidableEq Req] in
theorem writesOnly_planSaves {keys planned : List Key} {blockTables tables : List (List Nat)}
    {prepared : Bool}
    (ran : worker.planSaves keys blockTables prepared = some (planned, tables, next)) :
    WritesOnly worker next := by
  unfold planSaves at ran
  split at ran
  · cases ran
  · split at ran <;> cases ran <;> exact WritesOnly.refl worker
  rename_i plan engine admitted
  cases ran
  exact ⟨_, worker.save, _, (KVEngine.planStore_admitted admitted).pins_eq, rfl⟩

omit [DecidableEq Req] in
/-- A selection takes no keys that are not in the batch. -/
theorem selectNewChunks_subset {keys newKeys : List Key} {blockTables : List (List Nat)} {key : Key}
    (member : key ∈ (selectNewChunks keys blockTables newKeys).1) : key ∈ keys := by
  unfold selectNewChunks at member
  split at member
  · exact member
  · obtain ⟨place, _, found⟩ := List.mem_filterMap.mp member
    exact List.mem_of_getElem? found

/-- The worker behind the scheduler's evictions of a step. -/
def evicted (worker : Worker Key Req) (answers : StartAnswers Key) : Worker Key Req :=
  if answers.evictionsApply then
    { worker with engine := (worker.engine.applyEvictions worker.metadata.evictedKeys).2 }
  else worker

omit [DecidableEq Req] in
/-- The parts of `_prepare_write_batch`: the evictions, the collected batch and its plan. -/
theorem prepareWriteBatch_some (ran : worker.prepareWriteBatch digest answers = some next) :
    worker.save.prepared = true ∧ next = worker ∨
      ∃ keys blockTables, (worker.evicted answers).collectSaves digest
          (worker.evicted answers).metadata.requests = some (keys, blockTables) ∧
        ((∃ save, save.keys = [] ∧ next = { worker.evicted answers with save }) ∨
          ∃ planned tables admitted save,
            (worker.evicted answers).planSaves keys blockTables answers.targetsPrepared =
              some (planned, tables, admitted) ∧
            (∀ key ∈ save.keys, key ∈ planned) ∧ next = { admitted with save }) := by
  unfold prepareWriteBatch at ran
  split at ran
  · rename_i prepared
    cases ran
    exact .inl ⟨prepared, rfl⟩
  right
  have folded : (if answers.evictionsApply then
      { worker with engine := (worker.engine.applyEvictions worker.metadata.evictedKeys).2 }
      else worker) = worker.evicted answers := rfl
  dsimp only at ran
  rw [folded] at ran
  split at ran
  · cases ran
  · rename_i blockTables collected
    cases ran
    exact ⟨[], blockTables, collected, .inl ⟨_, rfl, rfl⟩⟩
  rename_i keys blockTables _ collected
  refine ⟨keys, blockTables, collected, .inr ?_⟩
  split at ran
  · split at ran
    · cases ran
    rename_i planned tables admitted plans
    split at ran
    · cases ran
    · cases ran
      exact ⟨planned, tables, admitted, _, plans, fun _ => selectNewChunks_subset, rfl⟩
  · cases ran

omit [DecidableEq Req] in
theorem writesOnly_prepareWriteBatch (ran : worker.prepareWriteBatch digest answers = some next) :
    WritesOnly worker next := by
  have evicts : WritesOnly worker (worker.evicted answers) := by
    unfold evicted
    split
    · exact ⟨(worker.engine.applyEvictions worker.metadata.evictedKeys).2, worker.save,
        worker.report, rfl, rfl⟩
    · exact WritesOnly.refl worker
  rcases prepareWriteBatch_some ran with ⟨_, rfl⟩ | ⟨keys, blockTables, _, outcome⟩
  · exact WritesOnly.refl _
  rcases outcome with ⟨save, _, rfl⟩ | ⟨planned, tables, admitted, save, plans, _, rfl⟩
  · exact evicts.trans ⟨_, save, _, rfl, rfl⟩
  · exact (evicts.trans (writesOnly_planSaves plans)).trans ⟨_, save, _, rfl, rfl⟩

/-- The parts of `start_load_kv`. -/
theorem startLoadKv_some {started : Worker Key Req}
    (ran : worker.startLoadKv digest answers = some started) :
    ∃ begun loaded reading, worker.beginLoads answers = some begun ∧
      loadRequests digest begun.metadata.requests 0 begun = some loaded ∧
      loaded.startReadPlan answers.readPlanStarts = some reading ∧
      (if (reading.kickAsyncLoads answers.kickedPlan).load.failed then
          some (reading.kickAsyncLoads answers.kickedPlan)
        else (reading.kickAsyncLoads answers.kickedPlan).prepareWriteBatch digest answers) =
          some started := by
  obtain ⟨begun, began, rest⟩ := Option.bind_eq_some_iff.mp ran
  obtain ⟨loaded, looped, rest⟩ := Option.bind_eq_some_iff.mp rest
  obtain ⟨reading, planned, rest⟩ := Option.bind_eq_some_iff.mp rest
  exact ⟨begun, loaded, reading, began, looped, planned, rest⟩

/-- Behind the start of the read plan the loads of the step stay as they are. -/
structure SameLoads (before after : Worker Key Req) : Prop where
  load : after.load = before.load
  metadata : after.metadata = before.metadata
  tpSize : after.tpSize = before.tpSize

theorem sameLoads_started {reading started : Worker Key Req}
    (ran : (if (reading.kickAsyncLoads answers.kickedPlan).load.failed then
        some (reading.kickAsyncLoads answers.kickedPlan)
      else (reading.kickAsyncLoads answers.kickedPlan).prepareWriteBatch digest answers) =
        some started) : SameLoads reading started := by
  have writes : WritesOnly (reading.kickAsyncLoads answers.kickedPlan) started := by
    split at ran
    · cases ran
      exact WritesOnly.refl _
    · exact writesOnly_prepareWriteBatch ran
  obtain ⟨async, pins, kicked⟩ := asyncOnly_kickAsyncLoads reading answers.kickedPlan
  rw [kicked] at writes
  obtain ⟨_, _, _, _, rfl⟩ := writes
  exact ⟨rfl, rfl, rfl⟩

end Start

/-! ## The end of a step -/

section End

variable [DecidableEq Key] [DecidableEq Req]

/-- The error sets are the same. -/
structure SameErrors (before after : Worker Key Req) : Prop where
  blocks : after.load.errorBlocks = before.load.errorBlocks
  ids : after.load.errorRequestIds = before.load.errorRequestIds
  async : after.async = before.async

omit [DecidableEq Req] in
theorem writesOnly_settleSaves (worker : Worker Key Req) (ok : Bool) :
    WritesOnly worker (worker.settleSaves ok).clearSaves := by
  unfold settleSaves
  split
  · exact ⟨worker.engine, _, worker.report, rfl, rfl⟩
  · exact ⟨_, _, _, (worker.engine.index.confirmStore_frame worker.save.keys ok).1, rfl⟩

omit [DecidableEq Req] in
/-- Releasing the read batch and settling the write batch keeps the error sets. -/
theorem sameErrors_settle (worker : Worker Key Req) (ok : Bool) :
    SameErrors worker (worker.finalizeLoadState.2.settleSaves ok).clearSaves := by
  obtain ⟨_, _, _, _, settled⟩ := writesOnly_settleSaves worker.finalizeLoadState.2 ok
  rw [settled]
  exact ⟨rfl, rfl, rfl⟩

variable {answers : WaitAnswers}

/-- What a normal return of `wait_for_save` says: the verdict was a failure, its
failures have been installed and the step was aborted, or there was no failure. -/
theorem waitForSave_returned (returned : (worker.waitForSave answers).returned = true) :
    ∃ drained, worker.drainReads answers = some drained ∧
      ((drained.loadConsensus answers.gathered).2 = false ∧
          (drained.loadConsensus answers.gathered).1.failed = true ∧
          (∃ installed,
            drained.installConsensus (drained.loadConsensus answers.gathered).1 = some installed ∧
              (worker.waitForSave answers).worker =
                (installed.finalizeLoadState.2.settleSaves false).clearSaves) ∨
        (drained.loadConsensus answers.gathered).1.failed = false ∧
          (worker.waitForSave answers).worker =
            (drained.finalizeLoadState.2.settleSaves true).clearSaves) := by
  unfold waitForSave at returned ⊢
  cases drains : worker.drainReads answers with
  | none =>
    rw [drains] at returned
    cases returned
  | some drained =>
    rw [drains] at returned
    refine ⟨drained, rfl, ?_⟩
    dsimp only at returned ⊢
    cases failed : (drained.loadConsensus answers.gathered).1.failed with
    | false =>
      rw [failed] at returned
      refine .inr ⟨rfl, ?_⟩
      rw [if_neg Bool.false_ne_true] at returned ⊢
      dsimp only at returned ⊢
      rw [returned]
    | true =>
      rw [failed] at returned
      cases installs : drained.installConsensus (drained.loadConsensus answers.gathered).1 with
      | none =>
        rw [installs] at returned
        cases returned
      | some installed =>
        rw [installs] at returned
        rw [if_pos rfl] at returned
        simp only [Bool.and_eq_true, Bool.not_eq_true'] at returned
        exact .inl ⟨returned.1.1, rfl, installed, rfl, rfl⟩

/-- A rank with a failed verdict confirms nothing as stored. -/
theorem confirmed_of_failed {drained : Worker Key Req}
    (drains : worker.drainReads answers = some drained)
    (failed : (drained.loadConsensus answers.gathered).1.failed = true) :
    ∀ call ∈ (worker.waitForSave answers).confirmed, call.2 = false := by
  unfold waitForSave
  rw [drains]
  dsimp only
  rw [failed, if_pos rfl]
  cases drained.installConsensus (drained.loadConsensus answers.gathered).1 with
  | none => exact nofun
  | some installed =>
    intro call member
    dsimp only [confirmCalls] at member
    split at member
    · cases member
    · exact congrArg Prod.snd (List.mem_singleton.mp member)

end End

/-- Keys that count the chunks, for examples. -/
def countKey (parent : Nat) (_ : List Nat) : Nat := parent + 1

end Worker

end Tutti
