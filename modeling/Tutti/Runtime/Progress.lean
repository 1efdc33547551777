import Tutti.Foundation.Run
import Tutti.Runtime.Submit

/-!
# Completion of IO in `StorageRuntime`

`drive_progress_unlocked_` collects the DataPaths with live operations, calls
`progress` on them without the registry lock, and then harvests: progress errors
are applied and every IO entry is refreshed from the states its DataPaths report.
The functions below are the regions that run under `registry_mutex_`; `query`,
`wait` and `shutdown` are given by the regions they enter and leave with.
-/

namespace Tutti

open Foundation

/-- What the DataPaths answer while the IO entries are refreshed. -/
structure HarvestAnswers where
  queried : DataPathId → DataPathOp → Guarded DataPathSnapshot
  /-- The second query of an asynchronous operation, right before its release. -/
  requeried : DataPathId → DataPathOp → Guarded DataPathSnapshot
  released : DataPathId → DataPathOp → Guarded Unit

/-! ## Merging the states of the sub-operations -/

/-- The runtime's indices for a DataPath's own ones, if all of them have one. -/
def translateIndices (indices : List Nat) : List Nat → Option (List Nat)
  | [] => some []
  | position :: rest =>
    match indices[position]? with
    | none => none
    | some index =>
      if uint32Max < index then none
      else (translateIndices indices rest).map (index :: ·)

/-- A failure detail in the runtime's indices. -/
def translateDetail (indices : List Nat) (detail : IoCompletionDetail) : IoCompletionDetail :=
  if detail.failureScope = .requestIndices then
    match translateIndices indices detail.failedRequestIndices with
    | some translated => { detail with failedRequestIndices := translated }
    | none => { detail with failureScope := .wholeOperation, failedRequestIndices := [] }
  else detail

/-- The indices that are not there yet, one after the other. -/
def insertIndices (known indices : List Nat) : List Nat :=
  indices.foldl (fun known index => if index ∈ known then known else known ++ [index]) known

/-- A further failure joins the detail of the first one. -/
def joinDetail (known further : IoCompletionDetail) : IoCompletionDetail :=
  let seen := { known with timeoutSeen := known.timeoutSeen || further.timeoutSeen }
  if known.failureScope = .wholeOperation ∨ further.failureScope = .wholeOperation then
    { seen with failureScope := .wholeOperation, failedRequestIndices := [] }
  else if further.failureScope = .requestIndices then
    { seen with
      failureScope := .requestIndices
      failedRequestIndices :=
        insertIndices known.failedRequestIndices further.failedRequestIndices }
  else seen

/-- The accumulators of `refresh_component_io_`. -/
structure Merge where
  allTerminal : Bool := true
  failed : Bool := false
  firstFailure : AnyStatus := none
  asyncObservationError : AnyStatus := none
  completionDetail : IoCompletionDetail := {}
  confirmedBytes : Nat := 0
  haveFailureDetail : Bool := false

namespace Merge

/-- A query that failed: an asynchronous IO waits on, any other fails as a whole. -/
def queryError (merge : Merge) (asyncIo : Bool) (status : Status) : Merge :=
  if asyncIo then
    { merge with
      allTerminal := false
      asyncObservationError :=
        if merge.asyncObservationError.isNone then some status
        else merge.asyncObservationError }
  else if merge.firstFailure.isNone then
    { merge with
      failed := true
      firstFailure := some status
      completionDetail :=
        { merge.completionDetail with
          failureKind := .unknown
          failureScope := .wholeOperation } }
  else { merge with failed := true }

def confirm (merge : Merge) (snapshot : DataPathSnapshot) : Merge :=
  let bytes :=
    if snapshot.state = .completed ∧ snapshot.detail.confirmedBytes = 0 then
      snapshot.bytesTransferred
    else snapshot.detail.confirmedBytes
  { merge with confirmedBytes := (merge.confirmedBytes + bytes) % uint64Size }

/-- A failed sub-operation: the first one gives the detail, later ones join it. -/
def failure (merge : Merge) (status : AnyStatus) (detail : IoCompletionDetail) : Merge :=
  if merge.firstFailure.isNone then
    { merge with
      failed := true
      firstFailure := status
      completionDetail := detail
      haveFailureDetail := true }
  else
    { merge with failed := true, completionDetail := joinDetail merge.completionDetail detail }

/-- One turn of the loop over the sub-operations. -/
def observe (asyncIo : Bool) (merge : Merge)
    (item : List Nat × Except Status DataPathSnapshot) : Merge :=
  match item.2 with
  | .error status => merge.queryError asyncIo status
  | .ok snapshot =>
    match snapshot.state with
    | .inFlight => { merge with allTerminal := false }
    | .completed => merge.confirm snapshot
    | .failed =>
      (merge.confirm snapshot).failure snapshot.status
        (translateDetail item.1 snapshot.detail)

/-- The detail the IO ends with: a failure without one concerns the whole
operation. -/
def finalDetail (merge : Merge) : IoCompletionDetail :=
  let detail := { merge.completionDetail with confirmedBytes := merge.confirmedBytes }
  if merge.failed ∧ merge.haveFailureDetail = false ∧ detail.failureKind = .none then
    { detail with failureKind := .unknown, failureScope := .wholeOperation }
  else detail

end Merge

/-! ## Refreshing one IO entry -/

namespace DataPathOperation

/-- The state of a sub-operation: what was already seen of it, or a query. -/
def observation (answers : HarvestAnswers) (operation : DataPathOperation) :
    Except Status DataPathSnapshot :=
  match operation.terminalSnapshot with
  | some snapshot => .ok snapshot
  | none => (answers.queried operation.dataPath operation.op).outcome

def queryCalls (answer : DataPathId → DataPathOp → Guarded DataPathSnapshot)
    (operation : DataPathOperation) : List DataPathCall :=
  match operation.terminalSnapshot with
  | some _ => []
  | none =>
    (answer operation.dataPath operation.op).logged (.query operation.dataPath operation.op)

def releaseCalls (answer : DataPathId → DataPathOp → Guarded Unit)
    (operation : DataPathOperation) : List DataPathCall :=
  let call := answer operation.dataPath operation.op
  call.logged (.release operation.dataPath operation.op call.done)

/-- The terminal state of an asynchronous sub-operation right before its release. -/
def terminalState (answers : HarvestAnswers) (operation : DataPathOperation) :
    Option DataPathSnapshot :=
  match operation.terminalSnapshot with
  | some snapshot => some snapshot
  | none =>
    match (answers.requeried operation.dataPath operation.op).outcome with
    | .error _ => none
    | .ok snapshot => if snapshot.state = .inFlight then none else some snapshot

end DataPathOperation

/-- The release loop of an asynchronous IO. It stops at a sub-operation that is not
terminal after all (`.error none`) or that cannot be released (`.error (some _)`). -/
def releaseAsync (answers : HarvestAnswers) :
    List DataPathOperation → List DataPathOperation × Except AnyStatus Unit × List DataPathCall
  | [] => ([], .ok (), [])
  | operation :: rest =>
    if operation.released then
      let (after, ended, calls) := releaseAsync answers rest
      (operation :: after, ended, calls)
    else
      let asked := operation.queryCalls answers.requeried
      match operation.terminalState answers with
      | none => (operation :: rest, .error none, asked)
      | some snapshot =>
        let call := answers.released operation.dataPath operation.op
        let made := asked ++ operation.releaseCalls answers.released
        let updated :=
          { operation with terminalSnapshot := some snapshot, released := call.done }
        match call.outcome with
        | .error status => (updated :: rest, .error (some status), made)
        | .ok _ =>
          let (after, ended, calls) := releaseAsync answers rest
          (updated :: after, ended, made ++ calls)

/-- An IO entry after a refresh, and the result it ends with if it does. -/
structure Refreshed where
  entry : IoEntry
  finished : Option IoResult
  calls : List DataPathCall

/-- Some sub-operation belongs to an `AsyncCompletion` DataPath. -/
def IoEntry.asyncIo (async : DataPathId → Bool) (entry : IoEntry) : Bool :=
  entry.dataPathOperations.any fun operation => async operation.dataPath

/-- The loop over the sub-operations. -/
def IoEntry.merge (async : DataPathId → Bool) (answers : HarvestAnswers) (entry : IoEntry) :
    Merge :=
  (entry.dataPathOperations.map fun operation =>
      (operation.requestIndices, operation.observation answers)).foldl
    (Merge.observe (entry.asyncIo async))
    { failed := entry.asyncObservationError.isSome
      firstFailure := entry.asyncObservationError
      asyncObservationError := entry.asyncObservationError }

/-- The result that the merged states amount to. -/
def Merge.result (merge : Merge) : IoResult where
  state := if merge.failed then .failed else .completed
  status := if merge.failed then merge.firstFailure else none
  detail := merge.finalDetail

/-- `refresh_component_io_`, up to `finish_io_`. -/
def refreshComponentIo (async : DataPathId → Bool) (answers : HarvestAnswers) (entry : IoEntry) :
    Refreshed :=
  if entry.terminal || entry.dataPathOperations.isEmpty then ⟨entry, none, []⟩
  else
    let asyncIo := entry.asyncIo async
    let merge := entry.merge async answers
    let asked := entry.dataPathOperations.flatMap (·.queryCalls answers.queried)
    let observed := { entry with asyncObservationError := merge.asyncObservationError }
    if !merge.allTerminal && (asyncIo || !merge.failed) then ⟨observed, none, asked⟩
    else if asyncIo then
      match releaseAsync answers entry.dataPathOperations with
      | (operations, .error failure, made) =>
        ⟨{ observed with
            dataPathOperations := operations
            asyncObservationError :=
              if observed.asyncObservationError.isNone then failure
              else observed.asyncObservationError },
          none, asked ++ made⟩
      | (_, .ok _, made) =>
        ⟨{ observed with dataPathOperations := [] }, some merge.result, asked ++ made⟩
    else
      ⟨{ observed with dataPathOperations := [] }, some merge.result,
        asked ++ entry.dataPathOperations.flatMap (·.releaseCalls answers.released)⟩

/-- The detail `finish_io_` stores: a failure of no kind concerns the whole
operation. -/
def finishDetail (result : IoResult) : IoCompletionDetail :=
  if result.state = .failed ∧ result.detail.failureKind = .none then
    { result.detail with
      failureKind := .unknown
      failureScope := .wholeOperation
      timeoutSeen := result.status.elim false (fun status => status.code == .timeout) }
  else result.detail

/-- A result in the IO entry that it ends. -/
def IoEntry.finish (entry : IoEntry) (result : IoResult) : IoEntry :=
  { entry with
    state := result.state
    terminal := true
    ioStatus := result.status
    completionDetail := finishDetail result }

/-- The result a terminal entry holds. -/
def IoEntry.result (entry : IoEntry) : IoResult :=
  ⟨entry.state, entry.ioStatus, entry.completionDetail⟩

/-- The entry belongs to an IO in flight. -/
def IoEntry.live (entry : IoEntry) : Bool :=
  entry.active && !entry.terminal

namespace StorageRuntime

/-- `finish_io_`: the entry is written back with its result, and its credits are
given back. -/
def finishIo (runtime : StorageRuntime) (slot : Nat) (entry : IoEntry) (result : IoResult) :
    StorageRuntime :=
  if entry.terminal then { runtime with ioEntries := runtime.ioEntries.set slot entry }
  else
    let (settled, finished) := runtime.releaseInflightReferences (entry.finish result)
    { settled with
      terminalResultCount := settled.terminalResultCount + 1
      ioEntries := settled.ioEntries.set slot finished }

/-- One entry of the refresh loop. -/
def refreshSlot (answers : HarvestAnswers) (runtime : StorageRuntime) (slot : Nat) :
    StorageRuntime × List DataPathCall :=
  match runtime.ioEntries[slot]? with
  | none => (runtime, [])
  | some entry =>
    let refreshed := refreshComponentIo runtime.components.asyncCompletion answers entry
    match refreshed.finished with
    | none =>
      ({ runtime with ioEntries := runtime.ioEntries.set slot refreshed.entry },
        refreshed.calls)
    | some result => (runtime.finishIo slot refreshed.entry result, refreshed.calls)

/-- A progress error meets one IO entry. -/
def failSlot (error : DataPathId × Status) (runtime : StorageRuntime) (slot : Nat) :
    StorageRuntime :=
  match runtime.ioEntries[slot]? with
  | none => runtime
  | some entry =>
    if entry.live &&
        entry.dataPathOperations.any (fun operation => operation.dataPath == error.1) then
      if entry.asyncIo runtime.components.asyncCompletion then
        { runtime with
          ioEntries := runtime.ioEntries.set slot
            { entry with
              asyncObservationError :=
                if entry.asyncObservationError.isNone then some error.2
                else entry.asyncObservationError } }
      else runtime.finishIo slot entry ⟨.failed, some error.2, {}⟩
    else runtime

/-- One turn of the two loops after `progress`: an error that meets an entry, or the
refresh of an entry. -/
inductive HarvestStep where
  | fail (error : DataPathId × Status) (slot : Nat)
  | refresh (slot : Nat)

def harvestStep (answers : HarvestAnswers) (runtime : StorageRuntime) :
    HarvestStep → StorageRuntime × List DataPathCall
  | .fail error slot => (failSlot error runtime slot, [])
  | .refresh slot => refreshSlot answers runtime slot

/-- The turns in order: every entry for every error, then every entry once more. -/
def harvestSteps (errors : List (DataPathId × Status)) (count : Nat) : List HarvestStep :=
  errors.flatMap (fun error => (List.range count).map (.fail error)) ++
    (List.range count).map .refresh

/-- The second locked region of `drive_progress_unlocked_`. -/
def harvest (runtime : StorageRuntime) (errors : List (DataPathId × Status))
    (answers : HarvestAnswers) : StorageRuntime × List DataPathCall :=
  emitFrom (harvestStep answers) runtime (harvestSteps errors runtime.ioEntries.length)

/-- The first locked region of `drive_progress_unlocked_`: the DataPaths that have
operations in flight. -/
def pendingPaths (runtime : StorageRuntime) : List DataPathId :=
  firstOccurrences <|
    ((runtime.ioEntries.filter IoEntry.live).flatMap fun entry =>
      entry.dataPathOperations.map DataPathOperation.dataPath).filter
    (· ∈ runtime.initializedDataPaths)

/-- What the unlocked part of `drive_progress_unlocked_` reports of one DataPath. -/
def progressErrors (path : DataPathId) (call : Guarded Unit) : List (DataPathId × Status) :=
  match call.entered with
  | some status => [(path, status)]
  | none =>
    (match call.result with
      | .error status => [(path, status)]
      | .ok _ => []) ++
    (match call.restored with
      | some status => [(path, status)]
      | none => [])

/-! ## Observing and releasing an IO -/

/-- `query` before it drives progress; `none` if it has to. -/
def queryEnter (runtime : StorageRuntime) (handle : IoHandle) : Option (Except Status IoState) :=
  match runtime.validateIo handle with
  | none => some (.error ⟨.notFound, "invalid IO handle"⟩)
  | some entry => if entry.terminal then some (.ok entry.state) else none

/-- `query` after it has driven progress. -/
def queryLeave (runtime : StorageRuntime) (handle : IoHandle) : Except Status IoState :=
  match runtime.validateIo handle with
  | none => .error ⟨.notFound, "IO released during query"⟩
  | some entry => .ok entry.state

/-- The lookups of `wait`, which it makes when it enters and after every round of
progress. `handle_key_` is the generation alone. `none` if the IO is in flight. -/
def waitLook (missing : String) (runtime : StorageRuntime) (handle : IoHandle) :
    Option (Except Status IoResult) :=
  match runtime.releasedResults.get? handle.generation with
  | some result => some (.ok result)
  | none =>
    match runtime.validateIo handle with
    | none => some (.error ⟨.notFound, missing⟩)
    | some entry => if entry.terminal then some (.ok entry.result) else none

def waitEnter := waitLook "invalid IO handle"

def waitLeave := waitLook "IO released during wait"

/-- The operations that `enqueue_wait` hands to each DataPath. -/
def addToWait : List (DataPathId × List DataPathOp) → DataPathOperation →
    List (DataPathId × List DataPathOp)
  | [], operation => [(operation.dataPath, [operation.op])]
  | group :: groups, operation =>
    if group.1 = operation.dataPath then (group.1, group.2 ++ [operation.op]) :: groups
    else group :: addToWait groups operation

/-- The loop of `enqueue_wait` over the handles. -/
def collectWaits (runtime : StorageRuntime) :
    List IoHandle → List (DataPathId × List DataPathOp) →
      Except Status (List (DataPathId × List DataPathOp))
  | [], groups => .ok groups
  | handle :: handles, groups =>
    match runtime.validateIo handle with
    | none => .error ⟨.notFound, "enqueue_wait: invalid IO handle"⟩
    | some entry =>
      if entry.terminal then runtime.collectWaits handles groups
      else
        runtime.collectWaits handles
          ((entry.dataPathOperations.filter (fun operation => !operation.released)).foldl
            addToWait groups)

/-- The loop of `enqueue_wait` over the DataPaths. -/
def enqueueAll (async : DataPathId → Bool) (answer : DataPathId → AnyStatus) :
    List (DataPathId × List DataPathOp) → AnyStatus × List DataPathCall
  | [] => (none, [])
  | (path, ops) :: groups =>
    if async path then
      match answer path with
      | some status => (some status, [.enqueueWait path ops])
      | none =>
        let (failure, calls) := enqueueAll async answer groups
        (failure, .enqueueWait path ops :: calls)
    else enqueueAll async answer groups

/-- `enqueue_wait`. -/
def enqueueWait (runtime : StorageRuntime) (handles : List IoHandle)
    (answer : DataPathId → AnyStatus) : Reply AnyStatus :=
  match runtime.collectWaits handles [] with
  | .error status => ⟨some status, runtime, []⟩
  | .ok groups =>
    let (failure, calls) := enqueueAll runtime.components.asyncCompletion answer groups
    ⟨failure, runtime, calls⟩

/-- The release loop of `release_io`, which stops at the first failure. -/
def releaseAll (answer : DataPathId → DataPathOp → Guarded Unit) :
    List DataPathOperation → AnyStatus × List DataPathCall
  | [] => (none, [])
  | operation :: rest =>
    let made := operation.releaseCalls answer
    match (answer operation.dataPath operation.op).outcome with
    | .error status => (some status, made)
    | .ok _ =>
      let (failure, calls) := releaseAll answer rest
      (failure, made ++ calls)

/-- The result of a released IO is kept until newer ones push it out. -/
def retain (runtime : StorageRuntime) (key : Nat) (result : IoResult) : StorageRuntime :=
  let order := runtime.releasedResultOrder ++ [key]
  let excess := order.length - runtime.config.maxTerminalResults
  { runtime with
    releasedResults :=
      (order.take excess).foldl OrderedDict.erase (runtime.releasedResults.set key result)
    releasedResultOrder := order.drop excess }

/-- `release_io`. -/
def releaseIo (runtime : StorageRuntime) (handle : IoHandle)
    (answer : DataPathId → DataPathOp → Guarded Unit) : Reply AnyStatus :=
  match runtime.validateIo handle with
  | none => ⟨some ⟨.notFound, "invalid IO handle"⟩, runtime, []⟩
  | some entry =>
    if entry.terminal = false then ⟨some ⟨.busy, "IO is still in flight"⟩, runtime, []⟩
    else
      match releaseAll answer entry.dataPathOperations with
      | (some status, calls) => ⟨some status, runtime, calls⟩
      | (none, calls) =>
        let retained := runtime.retain handle.generation entry.result
        { value := none
          runtime :=
            { retained with
              terminalResultCount := runtime.terminalResultCount - 1
              ioEntries := runtime.ioEntries.set handle.slot
                { entry with
                  dataPathOperations := []
                  released := true
                  active := false } }
          calls }

/-! ## Shutdown -/

/-- What the DataPaths answer while the runtime is torn down. -/
structure ShutdownAnswers where
  closed : TargetEntry → Guarded Unit
  unregistered : DataPathMemoryRegistration → Guarded Unit
  stopped : DataPathId → Guarded Unit

/-- `count_inflight_io_`. -/
def countInflightIo (runtime : StorageRuntime) : Nat :=
  (runtime.ioEntries.filter IoEntry.live).length

/-- The two loops of `finalize_shutdown_locked_` that retire the active entries of a
table; each stops at the first failure. -/
def retireAll {Body : Type}
    (retire : Registered Body → AnyStatus × Registered Body × List DataPathCall) :
    List (Registered Body) → AnyStatus × List (Registered Body) × List DataPathCall
  | [] => (none, [], [])
  | entry :: rest =>
    if entry.active = false then
      let (failure, after, calls) := retireAll retire rest
      (failure, entry :: after, calls)
    else
      match retire entry with
      | (some status, kept, calls) => (some status, kept :: rest, calls)
      | (none, retired, made) =>
        let (failure, after, calls) := retireAll retire rest
        (failure, retired :: after, made ++ calls)

/-- The retirement of one memory entry. -/
def retireMemory (answer : DataPathMemoryRegistration → Guarded Unit) (entry : MemoryEntry) :
    AnyStatus × MemoryEntry × List DataPathCall :=
  match unregisterDataPathMemory answer entry with
  | (some status, kept, calls) => (some status, kept, calls)
  | (none, cleaned, calls) => (none, { cleaned with active := false }, calls)

/-- The last loop of `finalize_shutdown_locked_`, from the DataPath initialised last. -/
def stopAll (answer : DataPathId → Guarded Unit) :
    List DataPathId → AnyStatus × List DataPathCall
  | [] => (none, [])
  | path :: rest =>
    let made := (answer path).logged (.shutdown path)
    match (answer path).outcome with
    | .error status => (some status, made)
    | .ok _ =>
      let (failure, calls) := stopAll answer rest
      (failure, made ++ calls)

/-- `finalize_shutdown_locked_`. -/
def finalizeShutdown (runtime : StorageRuntime) (answers : ShutdownAnswers) : Reply AnyStatus :=
  match retireAll (fun entry => closeEntry (answers.closed entry) entry)
      runtime.targetEntries with
  | (some status, targets, closing) =>
    ⟨some status, { runtime with targetEntries := targets }, closing⟩
  | (none, targets, closing) =>
    match retireAll (retireMemory answers.unregistered) runtime.memoryEntries with
    | (some status, memories, dropping) =>
      ⟨some status, { runtime with targetEntries := targets, memoryEntries := memories },
        closing ++ dropping⟩
    | (none, memories, dropping) =>
      match stopAll answers.stopped runtime.initializedDataPaths.reverse with
      | (some status, stopping) =>
        ⟨some status, { runtime with targetEntries := targets, memoryEntries := memories },
          closing ++ dropping ++ stopping⟩
      | (none, stopping) =>
        ⟨none,
          { runtime with
            targetEntries := targets
            memoryEntries := memories
            initializedDataPaths := []
            releasedResults := ∅
            releasedResultOrder := []
            state := .stopped },
          closing ++ dropping ++ stopping⟩

/-- `shutdown` after each round of progress: `none` if it has to go on. -/
def shutdownLeave (runtime : StorageRuntime) (answers : ShutdownAnswers) :
    Reply (Option AnyStatus) :=
  if runtime.countInflightIo = 0 then
    let final := runtime.finalizeShutdown answers
    ⟨some final.value, final.runtime, final.calls⟩
  else ⟨none, runtime, []⟩

/-- `shutdown` when it is called: it drains the runtime and ends it at once if nothing
is in flight. -/
def shutdownEnter (runtime : StorageRuntime) (answers : ShutdownAnswers) :
    Reply (Option AnyStatus) :=
  if runtime.state = .stopped then ⟨some none, runtime, []⟩
  else shutdownLeave { runtime with state := .draining } answers

end StorageRuntime

end Tutti
