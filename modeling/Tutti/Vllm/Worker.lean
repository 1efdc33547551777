import Tutti.Engine.KVEngine
import Tutti.Vllm.Connector
import Tutti.Vllm.FailureConsensus

/-!
# The worker side of the connector

`WorkerImpl` runs the transfer plan of a step on one rank: it pins and reads the
chunks of the loading requests, collects the failures, writes the chunks to save,
and settles the step in `wait_for_save` after the ranks have agreed on the failures.
Asynchronous loads outlive the step. The engine is bound for direct transfer. What
the devices and the other ranks answer is a parameter of each call, and a call that
raises has no result.
-/

namespace Tutti

open Foundation

/-- `_LoadRequestSpan`: the chunks of a request in the read batch of a step. -/
structure LoadRequestSpan (Req : Type) where
  requestOrdinal : Nat
  reqId : Req
  firstChunkOrdinal : Nat
  flatChunkStart : Nat
  chunkCount : Nat
deriving DecidableEq, Repr

/-- An error of the read plan: a `LoadGateError`, or any other exception. -/
inductive ReadError where
  | gate (wholeOperation : Bool) (failedBatchIndices : List Int)
  | other
deriving DecidableEq, Repr

/-- The synchronous loads of a step and what is known about their failures. -/
structure LoadState (Key Req : Type) where
  failed : Bool
  keys : List Key
  blockTables : List (List Nat)
  logicalFailures : Nat → Option LogicalFailure
  requestSpans : List (LoadRequestSpan Req)
  errorBlocks : Finset Nat
  errorRequestIds : Finset Req
  generation : Nat
  externalLoadStep : Bool
  pinned : Bool

/-- The write batch of a step. -/
structure SaveState (Key : Type) where
  prepared : Bool
  keys : List Key
  blockTables : List (List Nat)
  error : Bool

/-- What the worker has to tell the scheduler about its store and its index. -/
structure StoreReport (Key : Type) where
  storeCommitted : OrderedDict Key Nat
  storeFailed : List Key
  committedThisStep : Finset Key
  indexForgotten : List Key
  indexEvicted : List Key

/-- `_AsyncLoad`: the pinned chunks of an asynchronous load and their blocks. -/
structure AsyncLoad (Key Req : Type) where
  reqId : Req
  keys : List Key
  blockTables : List (List Nat)
deriving DecidableEq, Repr

/-- A running read plan: how often `poll` still returns `None`, and the verdict. -/
structure RunningPlan where
  polls : Nat
  ok : Bool
deriving DecidableEq, Repr

/-- `_AsyncBatch`. -/
structure AsyncBatch (Key Req : Type) where
  loads : List (AsyncLoad Key Req)
  plan : RunningPlan
deriving DecidableEq, Repr

/-- The asynchronous loads of a worker. -/
structure AsyncState (Key Req : Type) where
  queue : List (AsyncLoad Key Req)
  active : Option (AsyncBatch Key Req)
  finished : Finset Req
  errorBlocks : Finset Nat

/-- The state of `WorkerImpl` on one rank. -/
structure Worker (Key Req : Type) where
  geometry : ChunkGeometry
  numBlocks : Nat
  tpSize : Nat
  engine : KVEngine Key
  metadata : ConnectorMetadata Key Req
  load : LoadState Key Req
  save : SaveState Key
  report : StoreReport Key
  async : AsyncState Key Req

/-- One `poll` of a running plan. -/
def RunningPlan.poll (plan : RunningPlan) : Option Bool × RunningPlan :=
  match plan.polls with
  | 0 => (some plan.ok, plan)
  | polls + 1 => (none, { plan with polls })

/-- What the environment decides during `start_load_kv`: the plans that the two
places for starting asynchronous reads obtain (`none` if that raises), whether the
synchronous read plan and the write targets can be set up and the scheduler's
evictions be carried out, and the chunks for which the object pool has room. -/
structure StartAnswers (Key : Type) where
  polledPlan : Option RunningPlan
  kickedPlan : Option RunningPlan
  readPlanStarts : Bool
  targetsPrepared : Bool
  evictionsApply : Bool
  poolAdmits : Key → Bool

/-- What the environment decides during `wait_for_save`: errors of the read plan and
of the drain, omitted or failing saves, the gathered rows (`none` if the collective
fails), and the outcome of the drain after a failure. -/
structure WaitAnswers where
  requireComplete : Option ReadError
  waitIdle : Option ReadError
  saveIncomplete : Bool
  saveFailed : Bool
  gathered : Option (List (List Int))
  drainFailed : Bool
  allDrained : Bool

/-! ## Failures of synchronous loads -/

namespace LoadState

variable {Key Req : Type} [DecidableEq Req]

/-- The chunks of the batch that an error names; an error of the whole operation
names none. -/
def failedFlatChunks (load : LoadState Key Req) : ReadError → List Nat
  | .other => []
  | .gate true _ => []
  | .gate false indices =>
    (indices.filter fun index => 0 ≤ index ∧ index < (load.blockTables.length : Int)).map
      Int.toNat

/-- The failure of a request when the given chunks of the batch failed: from the
first failed chunk to the end of its span, and all of it if no chunk is named. -/
def spanFailure (failedChunks : List Nat) (span : LoadRequestSpan Req) : Option LogicalFailure :=
  let candidates := failedChunks.filter fun index =>
    span.flatChunkStart ≤ index ∧ index < span.flatChunkStart + span.chunkCount
  if failedChunks ≠ [] ∧ candidates = [] then none
  else
    let localOffset := match candidates.min? with
      | some first => first - span.flatChunkStart
      | none => 0
    some ⟨span.requestOrdinal, span.firstChunkOrdinal + localOffset,
      span.chunkCount - localOffset⟩

/-- `_all_loaded_request_failures`. -/
def allLoadedRequestFailures (load : LoadState Key Req) : List LogicalFailure :=
  load.requestSpans.map fun span =>
    ⟨span.requestOrdinal, span.firstChunkOrdinal, span.chunkCount⟩

/-- Record a failure, joined with what is recorded for the request. -/
def mergeFailure (table : Nat → Option LogicalFailure) (failure : LogicalFailure) :
    Nat → Option LogicalFailure :=
  Function.update table failure.requestOrdinal <| some <|
    match table failure.requestOrdinal with
    | none => failure
    | some existing =>
      let start := min existing.firstChunkOrdinal failure.firstChunkOrdinal
      let stop := max (existing.firstChunkOrdinal + existing.affectedChunkCount)
        (failure.firstChunkOrdinal + failure.affectedChunkCount)
      ⟨failure.requestOrdinal, start, stop - start⟩

/-- Add the failed part of a span to the error sets. A span that reaches behind the
block tables raises an `IndexError`. -/
def reportSpan (load : LoadState Key Req) (span : LoadRequestSpan Req) :
    Option (LoadState Key Req) :=
  match load.logicalFailures span.requestOrdinal with
  | none => some load
  | some failure =>
    let localStart := max 0 (failure.firstChunkOrdinal - span.firstChunkOrdinal)
    let localEnd := min (span.chunkCount : Int)
      (failure.firstChunkOrdinal + failure.affectedChunkCount - span.firstChunkOrdinal)
    if localEnd ≤ localStart then some load
    else if load.blockTables.length < span.flatChunkStart + localEnd.toNat then none
    else
      let failedTables := (load.blockTables.drop (span.flatChunkStart + localStart.toNat)).take
        (localEnd.toNat - localStart.toNat)
      some { load with
        errorRequestIds := insert span.reqId load.errorRequestIds
        errorBlocks := load.errorBlocks ∪ failedTables.flatten.toFinset }

/-- `_install_logical_failures`: record failures and rebuild the error sets from the
spans of the step. -/
def installLogicalFailures (load : LoadState Key Req) (failures : List LogicalFailure) :
    Option (LoadState Key Req) :=
  load.requestSpans.foldlM reportSpan
    { load with
      logicalFailures := failures.foldl mergeFailure load.logicalFailures
      errorBlocks := ∅
      errorRequestIds := ∅ }

/-- `_mark_load_failure`. -/
def markLoadFailure (load : LoadState Key Req) (error : ReadError) :
    Option (LoadState Key Req) :=
  let failing := { load with failed := true }
  if load.requestSpans = [] then
    some { failing with errorBlocks := load.blockTables.flatten.toFinset }
  else
    let failures := load.requestSpans.filterMap (spanFailure (load.failedFlatChunks error))
    failing.installLogicalFailures
      (if failures = [] then load.allLoadedRequestFailures else failures)

/-- A call that may raise: the error is recorded. -/
def noteError (load : LoadState Key Req) : Option ReadError → Option (LoadState Key Req)
  | some error => load.markLoadFailure error
  | none => some load

/-- `_report_load_errors`: a request whose chunks cannot be pinned. -/
def reportLoadErrors (geometry : ChunkGeometry) (load : LoadState Key Req) (requestOrdinal : Nat)
    (request : ReqMeta Req) (firstChunk chunkCount : Nat) : LoadState Key Req :=
  { load with
    errorBlocks := load.errorBlocks ∪
      ((request.blockIds.drop (firstChunk * geometry.blocksPerChunk)).take
        (chunkCount * geometry.blocksPerChunk)).toFinset
    failed := true
    logicalFailures := Function.update load.logicalFailures requestOrdinal
      (some ⟨requestOrdinal, firstChunk, chunkCount⟩)
    errorRequestIds := insert request.reqId load.errorRequestIds }

end LoadState

namespace Worker

variable {Key Req : Type} [DecidableEq Key] [DecidableEq Req] (digest : Key → List Nat → Key)

/-- A worker that has not run any step. -/
def fresh (geometry : ChunkGeometry) (numBlocks tpSize : Nat) (engine : KVEngine Key) :
    Worker Key Req where
  geometry
  numBlocks
  tpSize
  engine
  metadata := ⟨[], []⟩
  load := ⟨false, [], [], fun _ => none, [], ∅, ∅, 0, false, false⟩
  save := ⟨false, [], [], false⟩
  report := ⟨∅, [], ∅, [], []⟩
  async := ⟨[], none, ∅, ∅⟩

/-- `set_metadata`. -/
def setMetadata (worker : Worker Key Req) (metadata : ConnectorMetadata Key Req) :
    Worker Key Req :=
  { worker with metadata }

/-- `_validate_direct_or_fail`: every table has the blocks of a whole chunk, and every
block exists. -/
def validateDirect (worker : Worker Key Req) (blockTables : List (List Nat)) : Bool :=
  blockTables.all fun table =>
    table.length = worker.geometry.blocksPerChunk && table.all (· < worker.numBlocks)

/-! ## Asynchronous loads -/

/-- `_release_async_load`: a failing release is only logged. -/
def releaseAsyncLoad (worker : Worker Key Req) (load : AsyncLoad Key Req) : Worker Key Req :=
  { worker with engine := (worker.engine.unpin load.keys).2 }

/-- Release one load of a batch and note it as finished, with its blocks as failed
unless the batch was read. -/
def finishAsyncLoad (ok : Bool) (worker : Worker Key Req) (load : AsyncLoad Key Req) :
    Worker Key Req :=
  let released := worker.releaseAsyncLoad load
  { released with
    async := { released.async with
      errorBlocks :=
        if ok then released.async.errorBlocks
        else released.async.errorBlocks ∪ load.blockTables.flatten.toFinset
      finished := insert load.reqId released.async.finished } }

/-- `_finish_async_loads`. -/
def finishAsyncLoads (worker : Worker Key Req) (loads : List (AsyncLoad Key Req)) (ok : Bool) :
    Worker Key Req :=
  loads.foldl (finishAsyncLoad ok) worker

/-- What one `poll` of the active batch does: nothing but the count of the plan, or
the end of the batch. -/
def settleBatch (worker : Worker Key Req) (batch : AsyncBatch Key Req) : Worker Key Req :=
  match batch.plan.poll with
  | (none, plan) =>
    { worker with async := { worker.async with active := some { batch with plan } } }
  | (some ok, _) =>
    { worker with async := { worker.async with active := none } }.finishAsyncLoads batch.loads ok

/-- `_kick_async_loads`: start one plan for the whole queue, unless a plan is active,
and poll it once. -/
def kickAsyncLoads (worker : Worker Key Req) (plan : Option RunningPlan) : Worker Key Req :=
  if worker.async.active.isSome ∨ worker.async.queue = [] then worker
  else
    let loads := worker.async.queue
    let taken := { worker with async := { worker.async with queue := [] } }
    match plan with
    | none => taken.finishAsyncLoads loads false
    | some plan => taken.settleBatch ⟨loads, plan⟩

/-- `_poll_async_loads`: poll the active plan, and start the next one if there is none
or it has ended. -/
def pollAsyncLoads (worker : Worker Key Req) (plan : Option RunningPlan) : Worker Key Req :=
  match worker.async.active with
  | none => worker.kickAsyncLoads plan
  | some batch =>
    match batch.plan.poll.1 with
    | none => worker.settleBatch batch
    | some _ => (worker.settleBatch batch).kickAsyncLoads plan

/-- `_enqueue_async_load`: pin the chunks of an asynchronous load and queue it. A load
without a complete chunk or with missing chunks is finished at once. -/
def enqueueAsyncLoad (worker : Worker Key Req) (request : ReqMeta Req) :
    Option (Worker Key Req) :=
  let (firstChunk, chunkCount) :=
    worker.geometry.loadChunkSpan request.loadStartToken request.loadTokens
  if chunkCount = 0 then
    some { worker with
      async := { worker.async with finished := insert request.reqId worker.async.finished } }
  else
    let reqKeys :=
      ((worker.engine.hashKeys digest request.tokenIds).drop firstChunk).take chunkCount
    let tables := worker.geometry.spanBlockTables request.blockIds firstChunk chunkCount
    if worker.validateDirect tables then
      match worker.engine.pin reqKeys with
      | .error missing =>
        some { worker with
          report := { worker.report with
            indexForgotten := worker.report.indexForgotten ∪ missing }
          async := { worker.async with
            errorBlocks := worker.async.errorBlocks ∪ tables.flatten.toFinset
            finished := insert request.reqId worker.async.finished } }
      | .ok engine =>
        some { worker with
          engine
          async := { worker.async with
            queue := worker.async.queue ++ [⟨request.reqId, reqKeys, tables⟩] } }
    else none

/-! ## Starting the loads of a step -/

/-- `_finalize_load_state`: release the pins of the synchronous loads. Releasing an
unprotected key raises. -/
def finalizeLoadState (worker : Worker Key Req) : Bool × Worker Key Req :=
  let (released, engine) :=
    if worker.load.pinned then worker.engine.unpin worker.load.keys else (.ok (), worker.engine)
  (released.isOk,
    { worker with
      engine
      load := { worker.load with keys := [], blockTables := [], pinned := false } })

/-- The state of the loads at the start of a step. The blocks reported before and
not yet fetched stay. -/
def resetStep (worker : Worker Key Req) : Worker Key Req :=
  { worker with
    load := { worker.load with
      failed := false
      keys := []
      blockTables := []
      logicalFailures := fun _ => none
      requestSpans := []
      errorRequestIds := ∅
      generation := worker.load.generation + 1
      pinned := false }
    save := { worker.save with prepared := false, error := false } }

/-- `_WORKER_PENDING_MAX_AGE_STEPS`. -/
def workerPendingMaxAgeSteps : Nat := 2

/-- The step has a synchronous load, so that the ranks will compare their failures. -/
def externalLoadStep (requests : List (ReqMeta Req)) : Bool :=
  requests.any fun request => 0 < request.loadTokens && !request.loadAsync

/-- One request of the loop in `start_load_kv`. The read batch is collected in the
state of the loads. -/
def loadRequest (worker : Worker Key Req) (requestOrdinal : Nat) (request : ReqMeta Req) :
    Option (Worker Key Req) :=
  if request.loadTokens = 0 then some worker
  else if request.loadAsync then worker.enqueueAsyncLoad digest request
  else
    let (firstChunk, chunkCount) :=
      worker.geometry.loadChunkSpan request.loadStartToken request.loadTokens
    if chunkCount = 0 then some worker
    else
      let reqKeys :=
        ((worker.engine.hashKeys digest request.tokenIds).drop firstChunk).take chunkCount
      match worker.engine.pin reqKeys with
      | .error missing =>
        some { worker with
          load := worker.load.reportLoadErrors worker.geometry requestOrdinal request
            firstChunk chunkCount
          report := { worker.report with
            indexForgotten := worker.report.indexForgotten ∪ missing } }
      | .ok engine =>
        some { worker with
          engine
          load := { worker.load with
            keys := worker.load.keys ++ reqKeys
            blockTables := worker.load.blockTables ++
              worker.geometry.spanBlockTables request.blockIds firstChunk chunkCount
            requestSpans := worker.load.requestSpans ++
              [⟨requestOrdinal, request.reqId, firstChunk, worker.load.keys.length,
                chunkCount⟩] } }

/-- The loop of `start_load_kv` over the requests of the step. -/
def loadRequests : List (ReqMeta Req) → Nat → Worker Key Req → Option (Worker Key Req)
  | [], _, worker => some worker
  | request :: requests, requestOrdinal, worker =>
    match worker.loadRequest digest requestOrdinal request with
    | none => none
    | some next => loadRequests requests (requestOrdinal + 1) next

/-- Start the read plan of the collected batch. It raises on incomplete block tables,
and when the tables and the keys differ in number. -/
def startReadPlan (worker : Worker Key Req) (starts : Bool) : Option (Worker Key Req) :=
  if worker.load.keys = [] then
    some { worker with load := { worker.load with blockTables := [] } }
  else if worker.validateDirect worker.load.blockTables ∧
      worker.load.keys.length = worker.load.blockTables.length ∧ starts = true then
    some { worker with load := { worker.load with pinned := true } }
  else none

/-! ## The write batch -/

/-- `_select_new_chunks`: cut the batch down to the given keys, each at its first
place. A batch of the same length is kept as it is. -/
def selectNewChunks (keys : List Key) (blockTables : List (List Nat)) (newKeys : List Key) :
    List Key × List (List Nat) :=
  if newKeys.length = keys.length then (keys, blockTables)
  else
    let keep := (newKeys.filter (· ∈ keys)).map fun key => keys.idxOf key
    (keep.filterMap fun place => keys[place]?, keep.filterMap fun place => blockTables[place]?)

/-- The keys and block tables that the requests of the step want to save. Labels that
do not match the chunks raise. -/
def collectSaves (worker : Worker Key Req) :
    List (ReqMeta Req) → Option (List Key × List (List Nat))
  | [] => some ([], [])
  | request :: requests =>
    if request.saveChunkCount = 0 then collectSaves worker requests
    else if request.saveGenerations ≠ [] ∧
        request.saveGenerations.length ≠ request.saveChunkCount then none
    else
      match collectSaves worker requests with
      | none => none
      | some (keys, blockTables) =>
        some
          (((worker.engine.hashKeys digest request.tokenIds).drop request.saveChunkStart).take
              request.saveChunkCount ++ keys,
            worker.geometry.spanBlockTables request.blockIds request.saveChunkStart
              request.saveChunkCount ++ blockTables)

/-- Admit the collected batch: chunks that are resident or repeated are dropped, and
a refused plan empties the batch unless all of it is planned already. -/
def planSaves (worker : Worker Key Req) (keys : List Key) (blockTables : List (List Nat))
    (targetsPrepared : Bool) : Option (List Key × List (List Nat) × Worker Key Req) :=
  match worker.engine.planStore keys targetsPrepared with
  | (.raised, _) => none
  | (.refused, _) =>
    if worker.engine.storePlanPending keys then some (keys, blockTables, worker)
    else some ([], [], worker)
  | (.admitted plan, engine) =>
    let selected := selectNewChunks keys blockTables plan.newKeys
    some (selected.1, selected.2,
      { worker with
        engine
        report := { worker.report with
          indexEvicted := worker.report.indexEvicted ∪ plan.evictedKeys } })

/-- `_prepare_write_batch`: once in a step, apply the scheduler's evictions, where a
failure is only logged, and admit the batch, down to what the object pool has room for. -/
def prepareWriteBatch (worker : Worker Key Req) (answers : StartAnswers Key) :
    Option (Worker Key Req) :=
  if worker.save.prepared then some worker
  else
    let evicted :=
      if answers.evictionsApply then
        { worker with engine := (worker.engine.applyEvictions worker.metadata.evictedKeys).2 }
      else worker
    match evicted.collectSaves digest evicted.metadata.requests with
    | none => none
    | some ([], blockTables) =>
      some { evicted with save := { evicted.save with prepared := true, keys := [], blockTables } }
    | some (keys, blockTables) =>
      if evicted.validateDirect blockTables then
        match evicted.planSaves keys blockTables answers.targetsPrepared with
        | none => none
        | some (planned, tables, admitted) =>
          if planned ≠ [] ∧ answers.targetsPrepared = false then none
          else
            let selected :=
              selectNewChunks planned tables (planned.filter answers.poolAdmits)
            some { admitted with
              save := { admitted.save with
                prepared := true
                keys := selected.1
                blockTables := selected.2 } }
      else none

/-- The beginning of a step behind the poll: reclaim stale plans of the store and note
whether the step has synchronous loads. -/
def openStep (worker : Worker Key Req) : Worker Key Req :=
  { worker with
    engine := (worker.engine.beginStep workerPendingMaxAgeSteps).2
    load := { worker.load with
      externalLoadStep := externalLoadStep worker.metadata.requests } }

/-- `start_load_kv` up to its loop over the requests. -/
def beginLoads (worker : Worker Key Req) (answers : StartAnswers Key) : Option (Worker Key Req) :=
  match worker.finalizeLoadState with
  | (false, _) => none
  | (true, finalized) => some (finalized.resetStep.pollAsyncLoads answers.polledPlan).openStep

/-- `start_load_kv`. -/
def startLoadKv (worker : Worker Key Req) (answers : StartAnswers Key) :
    Option (Worker Key Req) := do
  let begun ← worker.beginLoads answers
  let loaded ← loadRequests digest begun.metadata.requests 0 begun
  let reading ← loaded.startReadPlan answers.readPlanStarts
  let kicked := reading.kickAsyncLoads answers.kickedPlan
  if kicked.load.failed then some kicked else kicked.prepareWriteBatch digest answers

/-- A read error that reaches the worker between `start_load_kv` and `wait_for_save`.
Only a running read plan has errors. -/
def onReadFailure (worker : Worker Key Req) (error : ReadError) : Option (Worker Key Req) :=
  if worker.load.keys = [] then some worker
  else (worker.load.markLoadFailure error).map fun load => { worker with load }

/-- A failing `save_kv_layer`. -/
def onSaveFailure (worker : Worker Key Req) : Worker Key Req :=
  { worker with
    save := { worker.save with error := true }
    load := { worker.load with failed := true } }

/-! ## Settling a step -/

/-- `_record_store_outcome`. -/
def recordStoreOutcome (report : StoreReport Key) (keys : List Key) (ok : Bool) :
    StoreReport Key :=
  keys.foldl (fun report key =>
    if ok then
      if key ∈ report.committedThisStep then report
      else
        { report with
          committedThisStep := insert key report.committedThisStep
          storeCommitted := report.storeCommitted.set key 1 }
    else
      { report with
        storeFailed := report.storeFailed ∪ [key]
        storeCommitted := report.storeCommitted.erase key }) report

/-- Call `confirm_store` for the write batch, if there is one, and record the outcome. -/
def settleSaves (worker : Worker Key Req) (ok : Bool) : Worker Key Req :=
  if worker.save.keys = [] then worker
  else
    { worker with
      engine := worker.engine.confirmStore worker.save.keys ok
      report := recordStoreOutcome worker.report worker.save.keys ok }

/-- The write batch is over. -/
def clearSaves (worker : Worker Key Req) : Worker Key Req :=
  { worker with save := { worker.save with keys := [], blockTables := [], error := false } }

/-- `_abort_step`, and whether it was free of errors. -/
def abortStep (worker : Worker Key Req) (drainFailed : Bool) : Bool × Worker Key Req :=
  let (finalized, released) := worker.finalizeLoadState
  (finalized && !drainFailed, (released.settleSaves false).clearSaves)

/-- The row that the worker contributes to the collective. -/
def contributedRow (worker : Worker Key Req) : List Int :=
  FailureConsensus.failureRow worker.load.generation worker.metadata.requests.length
    worker.load.logicalFailures

/-- The verdict of `_synchronize_load_failure`, and whether the collective failed.
Without synchronous loads the rank decides alone. -/
def loadConsensus (worker : Worker Key Req) (gathered : Option (List (List Int))) :
    FailureConsensus × Bool :=
  if worker.load.externalLoadStep then
    match gathered with
    | none =>
      (⟨true, worker.load.generation, false, worker.load.allLoadedRequestFailures⟩, true)
    | some rows =>
      (FailureConsensus.coordinate worker.tpSize worker.load.generation
        worker.metadata.requests.length worker.load.logicalFailures rows, false)
  else
    let failed := worker.load.failed && worker.load.keys ≠ []
    (⟨failed, worker.load.generation, true,
      if failed then worker.load.allLoadedRequestFailures else []⟩, false)

/-- The failures that are installed for a failed verdict: those of the verdict in
`_synchronize_load_failure`, then in `wait_for_save` those of the verdict again or,
if the rows were inconsistent, of all loaded requests. -/
def installConsensus (worker : Worker Key Req) (consensus : FailureConsensus) :
    Option (Worker Key Req) := do
  let installed ←
    (if worker.load.externalLoadStep then
      worker.load.installLogicalFailures consensus.logicalFailures
    else some worker.load)
  let logical :=
    if consensus.generationConsistent = false ∨ consensus.logicalFailures = [] then
      worker.load.allLoadedRequestFailures
    else consensus.logicalFailures
  let load ← { installed with failed := true }.installLogicalFailures logical
  return { worker with load }

/-- The result of `wait_for_save`: the state, the calls of `confirm_store` with the
value of `ok`, and whether the call returned normally. -/
structure WaitResult (Key Req : Type) where
  worker : Worker Key Req
  confirmed : List (List Key × Bool)
  returned : Bool

/-- The calls of `confirm_store` that `settleSaves` makes. -/
def confirmCalls (worker : Worker Key Req) (ok : Bool) : List (List Key × Bool) :=
  if worker.save.keys = [] then [] else [(worker.save.keys, ok)]

/-- Drain the read plan before the ranks compare their failures. -/
def drainReads (worker : Worker Key Req) (answers : WaitAnswers) : Option (Worker Key Req) :=
  if worker.load.keys = [] then some worker
  else do
    let checked ← worker.load.noteError answers.requireComplete
    let drained ← checked.noteError answers.waitIdle
    return { worker with load := drained }

/-- `wait_for_save`. -/
def waitForSave (worker : Worker Key Req) (answers : WaitAnswers) : WaitResult Key Req :=
  match worker.drainReads answers with
  | none => ⟨worker, [], false⟩
  | some drained =>
    let (consensus, poisoned) := drained.loadConsensus answers.gathered
    if consensus.failed then
      match drained.installConsensus consensus with
      | none => ⟨drained, [], false⟩
      | some installed =>
        let (clean, aborted) := installed.abortStep answers.drainFailed
        ⟨aborted, installed.confirmCalls false, !poisoned && clean && answers.allDrained⟩
    else
      let (finalized, released) := drained.finalizeLoadState
      let ok := !worker.save.error && !answers.saveIncomplete && answers.waitIdle.isNone &&
        !answers.saveFailed && finalized
      ⟨(released.settleSaves ok).clearSaves, released.confirmCalls ok, ok⟩

/-! ## What the scheduler and vLLM fetch -/

/-- `get_finished`: the finished asynchronous loads. A queued load of a request that
has ended is dropped. -/
def getFinished (worker : Worker Key Req) (finishedReqIds : List Req)
    (plan : Option RunningPlan) : Finset Req × Worker Key Req :=
  let polled := worker.pollAsyncLoads plan
  let (dropped, kept) := polled.async.queue.partition fun load => load.reqId ∈ finishedReqIds
  let released := dropped.foldl releaseAsyncLoad polled
  (polled.async.finished ∪ (dropped.map AsyncLoad.reqId).toFinset,
    { released with async := { released.async with queue := kept, finished := ∅ } })

/-- `get_block_ids_with_load_errors`. -/
def getBlockIdsWithLoadErrors (worker : Worker Key Req) : Finset Nat × Worker Key Req :=
  (worker.load.errorBlocks ∪ worker.async.errorBlocks,
    { worker with
      load := { worker.load with errorBlocks := ∅ }
      async := { worker.async with errorBlocks := ∅ } })

/-- `get_request_ids_with_load_errors`. -/
def getRequestIdsWithLoadErrors (worker : Worker Key Req) : Finset Req × Worker Key Req :=
  (worker.load.errorRequestIds,
    { worker with load := { worker.load with errorRequestIds := ∅ } })

/-- `_settle_unreported_plans`: the keys that the scheduler has reserved in this step
and this rank has not stored. -/
def unreportedPlans (worker : Worker Key Req) : List Key :=
  (worker.metadata.requests.filter fun request =>
      0 < request.saveChunkCount ∧ request.saveGenerations ≠ []).flatMap fun request =>
    (((worker.engine.hashKeys digest request.tokenIds).drop request.saveChunkStart).take
      request.saveChunkCount).filter (· ∉ worker.report.committedThisStep)

/-- `build_connector_worker_meta`, without the timing samples: the report of the step,
which is fetched once. A report without any entry stands for `None`. -/
def buildConnectorWorkerMeta (worker : Worker Key Req) :
    TuttiWorkerMetadata Key × Worker Key Req :=
  (⟨worker.report.storeCommitted, worker.report.storeFailed ∪ worker.unreportedPlans digest,
      worker.report.indexForgotten, worker.report.indexEvicted⟩,
    { worker with report := ⟨∅, [], ∅, [], []⟩ })

end Worker

end Tutti
