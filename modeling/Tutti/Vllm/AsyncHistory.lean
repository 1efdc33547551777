import Tutti.Vllm.WorkerStep

/-!
# The history of asynchronous loads

A worker is run together with a ledger of the asynchronous loads that were delivered to
it. The ledger notes what can be seen from outside: the verdicts of the read plans, the
reports of `get_finished` and the blocks that vLLM has fetched. It has no influence on
the worker, which is stated by erasing it.
-/

namespace Tutti

open Foundation

/-- The ledger entry of a delivered load: its blocks, whether the chunks that are read
for it make up all of it, whether a plan with it has returned `True`, whether its request
had ended while it was queued, the calls of `get_finished` that named it and all of them
since its delivery, the blocks fetched since its delivery, and whether they were fetched
after a report. -/
structure Delivery where
  blocks : Finset Nat
  whole : Bool
  read : Bool
  dropped : Bool
  reports : Nat
  calls : Nat
  fetched : Finset Nat
  fetchedAfter : Bool

/-- The deliveries of each request, the latest first. -/
abbrev LoadLedger (Req : Type) := Req → List Delivery

namespace LoadLedger

variable {Req : Type} [DecidableEq Req]

/-- A load of the request is delivered. -/
def deliver (ledger : LoadLedger Req) (reqId : Req) (blocks : Finset Nat) (whole : Bool) :
    LoadLedger Req :=
  Function.update ledger reqId (⟨blocks, whole, false, false, 0, 0, ∅, false⟩ :: ledger reqId)

/-- A plan with the latest loads of the requests has returned `True`. -/
def markRead (ledger : LoadLedger Req) (reqIds : List Req) : LoadLedger Req := fun reqId =>
  if reqId ∈ reqIds then (ledger reqId).modifyHead fun entry => { entry with read := true }
  else ledger reqId

/-- A call of `get_finished` has named the requests, some of them since their queued
loads were dropped. -/
def report (ledger : LoadLedger Req) (named : Finset Req) (dropped : List Req) : LoadLedger Req :=
  fun reqId =>
    let called := (ledger reqId).map fun entry => { entry with calls := entry.calls + 1 }
    if reqId ∈ named then
      called.modifyHead fun entry =>
        { entry with
          reports := entry.reports + 1
          dropped := entry.dropped || decide (reqId ∈ dropped) }
    else called

omit [DecidableEq Req] in
/-- The blocks have been fetched. -/
def fetch (ledger : LoadLedger Req) (blocks : Finset Nat) : LoadLedger Req := fun reqId =>
  (ledger reqId).map fun entry =>
    { entry with
      fetched := entry.fetched ∪ blocks
      fetchedAfter := entry.fetchedAfter || decide (0 < entry.reports) }

end LoadLedger

/-- A worker with its ledger and the number of read plans without a verdict. -/
structure AsyncHistory (Key Req : Type) where
  worker : Worker Key Req
  ledger : LoadLedger Req
  running : Nat

/-- The calls of vLLM to a worker. -/
inductive WorkerCall (Key Req : Type) where
  | startLoadKv (metadata : ConnectorMetadata Key Req) (answers : StartAnswers Key)
  | event (event : StepEvent)
  | waitForSave (answers : WaitAnswers)
  | getFinished (finishedReqIds : List Req) (plan : Option RunningPlan)
  | getBlockIdsWithLoadErrors
  | getRequestIdsWithLoadErrors
  | buildConnectorWorkerMeta

namespace Worker

variable {Key Req : Type}

/-- The blocks that hold the positions of a load. -/
def loadBlocks (worker : Worker Key Req) (request : ReqMeta Req) : Finset Nat :=
  ((List.range request.loadTokens).filterMap fun offset =>
    request.blockIds[(request.loadStartToken + offset) / worker.geometry.blockSize]?).toFinset

/-- The chunks in the span of a load cover it, and each has a key. -/
def WholeLoad (digest : Key → List Nat → Key) (worker : Worker Key Req) (request : ReqMeta Req) :
    Prop :=
  worker.geometry.Covers request.loadStartToken request.loadTokens ∧
    (worker.spanKeys digest request).length = (worker.spanOf request).2
  deriving Decidable

end Worker

namespace AsyncHistory

variable {Key Req : Type} [DecidableEq Key] [DecidableEq Req] (digest : Key → List Nat → Key)

/-- A history in which nothing was delivered. -/
def fresh (worker : Worker Key Req) : AsyncHistory Key Req := ⟨worker, fun _ => [], 0⟩

/-- One poll of a started batch. -/
def settleBatch (history : AsyncHistory Key Req) (batch : AsyncBatch Key Req) :
    AsyncHistory Key Req :=
  match batch.plan.poll.1 with
  | none => { history with worker := history.worker.settleBatch batch }
  | some ok =>
    { worker := history.worker.settleBatch batch
      ledger :=
        if ok then history.ledger.markRead (batch.loads.map AsyncLoad.reqId) else history.ledger
      running := history.running - 1 }

/-- Start a plan for the queue. -/
def kickAsyncLoads (history : AsyncHistory Key Req) (plan : Option RunningPlan) :
    AsyncHistory Key Req :=
  if history.worker.async.active.isSome ∨ history.worker.async.queue = [] then history
  else
    match plan with
    | none => { history with worker := history.worker.kickAsyncLoads none }
    | some plan =>
      settleBatch
        { history with
          worker := { history.worker with async := { history.worker.async with queue := [] } }
          running := history.running + 1 }
        ⟨history.worker.async.queue, plan⟩

/-- Poll the active plan and start the next one. -/
def pollAsyncLoads (history : AsyncHistory Key Req) (plan : Option RunningPlan) :
    AsyncHistory Key Req :=
  match history.worker.async.active with
  | none => history.kickAsyncLoads plan
  | some batch =>
    match batch.plan.poll.1 with
    | none => history.settleBatch batch
    | some _ => (history.settleBatch batch).kickAsyncLoads plan

/-- One request of the loop in `start_load_kv`. -/
def loadRequest (history : AsyncHistory Key Req) (requestOrdinal : Nat) (request : ReqMeta Req) :
    Option (AsyncHistory Key Req) :=
  (history.worker.loadRequest digest requestOrdinal request).map fun worker =>
    { history with
      worker
      ledger :=
        if 0 < request.loadTokens ∧ request.loadAsync = true then
          history.ledger.deliver request.reqId (history.worker.loadBlocks request)
            (history.worker.WholeLoad digest request)
        else history.ledger }

/-- The loop of `start_load_kv`. -/
def loadRequests : List (ReqMeta Req) → Nat → AsyncHistory Key Req →
    Option (AsyncHistory Key Req)
  | [], _, history => some history
  | request :: requests, requestOrdinal, history =>
    match history.loadRequest digest requestOrdinal request with
    | none => none
    | some next => loadRequests requests (requestOrdinal + 1) next

/-- `start_load_kv` up to its loop. -/
def beginLoads (history : AsyncHistory Key Req) (answers : StartAnswers Key) :
    Option (AsyncHistory Key Req) :=
  match history.worker.finalizeLoadState with
  | (false, _) => none
  | (true, finalized) =>
    let polled :=
      pollAsyncLoads { history with worker := finalized.resetStep } answers.polledPlan
    some { polled with worker := polled.worker.openStep }

/-- The end of `start_load_kv`. -/
def prepareWrites (history : AsyncHistory Key Req) (answers : StartAnswers Key) :
    Option (AsyncHistory Key Req) :=
  if history.worker.load.failed then some history
  else (history.worker.prepareWriteBatch digest answers).map fun worker =>
    { history with worker }

/-- `start_load_kv`. -/
def startLoadKv (history : AsyncHistory Key Req) (answers : StartAnswers Key) :
    Option (AsyncHistory Key Req) := do
  let begun ← history.beginLoads answers
  let loaded ← loadRequests digest begun.worker.metadata.requests 0 begun
  let reading ← loaded.worker.startReadPlan answers.readPlanStarts
  prepareWrites digest (kickAsyncLoads { loaded with worker := reading } answers.kickedPlan) answers

/-- `get_finished`. -/
def getFinished (history : AsyncHistory Key Req) (finishedReqIds : List Req)
    (plan : Option RunningPlan) : AsyncHistory Key Req :=
  let polled := history.pollAsyncLoads plan
  let dropped := polled.worker.async.queue.filter fun load => load.reqId ∈ finishedReqIds
  let result := history.worker.getFinished finishedReqIds plan
  { polled with
    worker := result.2
    ledger := polled.ledger.report result.1 (dropped.map AsyncLoad.reqId) }

/-- `get_block_ids_with_load_errors`. -/
def getBlockIdsWithLoadErrors (history : AsyncHistory Key Req) : AsyncHistory Key Req :=
  let result := history.worker.getBlockIdsWithLoadErrors
  { history with worker := result.2, ledger := history.ledger.fetch result.1 }

/-- One call. A call that raises ends the worker. -/
def call (history : AsyncHistory Key Req) : WorkerCall Key Req → Option (AsyncHistory Key Req)
  | .startLoadKv metadata answers =>
    startLoadKv digest { history with worker := history.worker.setMetadata metadata } answers
  | .event event =>
    (history.worker.onEvent event).map fun worker => { history with worker }
  | .waitForSave answers =>
    if (history.worker.waitForSave answers).returned then
      some { history with worker := (history.worker.waitForSave answers).worker }
    else none
  | .getFinished finishedReqIds plan => some (history.getFinished finishedReqIds plan)
  | .getBlockIdsWithLoadErrors => some history.getBlockIdsWithLoadErrors
  | .getRequestIdsWithLoadErrors =>
    some { history with worker := history.worker.getRequestIdsWithLoadErrors.2 }
  | .buildConnectorWorkerMeta =>
    some { history with worker := (history.worker.buildConnectorWorkerMeta digest).2 }

/-- A step of a run, which is over when the worker has ended. -/
def step (state : Option (AsyncHistory Key Req)) (action : WorkerCall Key Req) :
    Option (AsyncHistory Key Req) :=
  state.bind fun history => history.call digest action

/-! ## The ledger does not influence the worker -/

variable {digest}

omit [DecidableEq Key] [DecidableEq Req] in
theorem poll_eq (plan : RunningPlan) :
    plan.poll = (none, { plan with polls := plan.polls - 1 }) ∧ 0 < plan.polls ∨
      plan.poll = (some plan.ok, plan) ∧ plan.polls = 0 := by
  obtain ⟨polls, ok⟩ := plan
  cases polls with
  | zero => exact .inr ⟨rfl, rfl⟩
  | succ polls => exact .inl ⟨rfl, Nat.succ_pos polls⟩

variable (history : AsyncHistory Key Req)

@[simp] theorem worker_settleBatch (batch : AsyncBatch Key Req) :
    (history.settleBatch batch).worker = history.worker.settleBatch batch := by
  unfold settleBatch
  split <;> rfl

@[simp] theorem worker_kickAsyncLoads (plan : Option RunningPlan) :
    (history.kickAsyncLoads plan).worker = history.worker.kickAsyncLoads plan := by
  unfold kickAsyncLoads Worker.kickAsyncLoads
  split
  · rfl
  cases plan with
  | none => dsimp only
  | some plan => rw [worker_settleBatch]

@[simp] theorem worker_pollAsyncLoads (plan : Option RunningPlan) :
    (history.pollAsyncLoads plan).worker = history.worker.pollAsyncLoads plan := by
  unfold pollAsyncLoads Worker.pollAsyncLoads
  cases history.worker.async.active with
  | none => exact worker_kickAsyncLoads history plan
  | some batch =>
    dsimp only
    cases batch.plan.poll.1 with
    | none => exact worker_settleBatch history batch
    | some ok => rw [worker_kickAsyncLoads, worker_settleBatch]

theorem worker_beginLoads (answers : StartAnswers Key) :
    (history.beginLoads answers).map AsyncHistory.worker = history.worker.beginLoads answers := by
  unfold beginLoads Worker.beginLoads
  rcases history.worker.finalizeLoadState with ⟨released, finalized⟩
  cases released with
  | false => rfl
  | true => rw [Option.map_some, worker_pollAsyncLoads]

end AsyncHistory

end Tutti
