import Tutti.Runtime.Batches
import Tutti.Runtime.Progress

/-!
# Runs of a `StorageRuntime`

A run is any sequence of the regions that are executed under `registry_mutex_`. The
calls of `progress`, which are made without the lock, only leave errors behind; a
harvest may therefore come with any errors. `Books` keeps beside the runtime which
requests each IO entry has accepted, as its submit reported it.
-/

namespace Tutti

open Bool Foundation StorageRuntime

/-- The operations of a runtime, with everything the outside answers to them. -/
inductive RuntimeOp where
  | registerMemory (view : MemoryView) (vendor : AnyStatus)
  | allocateMemory (size : Nat) (kind : MemoryKind) (accelId : Int) (allocated : Bool)
  | unregisterMemory (handle : MemoryHandle) (answer : DataPathMemoryRegistration → Guarded Unit)
  | freeMemory (handle : MemoryHandle) (answer : DataPathMemoryRegistration → Guarded Unit)
  | openTarget (resolved : Except Status Resolution) (answers : OpenAnswers)
  | openBatchItem (resolution : Resolution) (answers : OpenAnswers)
  | close (handle : TargetHandle) (answer : Guarded Unit)
  | submit (requests : List IoRequest) (context : HostSubmitContext) (answers : SubmitAnswers)
  | harvest (errors : List (DataPathId × Status)) (answers : HarvestAnswers)
  | releaseIo (handle : IoHandle) (answer : DataPathId → DataPathOp → Guarded Unit)
  | shutdownEnter (answers : ShutdownAnswers)
  | shutdownLeave (answers : ShutdownAnswers)

/-- One operation, with the calls it makes. -/
def StorageRuntime.apply (runtime : StorageRuntime) :
    RuntimeOp → StorageRuntime × List DataPathCall
  | .registerMemory view vendor =>
    let reply := runtime.registerMemory view vendor
    (reply.runtime, reply.calls)
  | .allocateMemory size kind accelId allocated =>
    let reply := runtime.allocateMemory size kind accelId allocated
    (reply.runtime, reply.calls)
  | .unregisterMemory handle answer =>
    let reply := runtime.unregisterMemory handle answer
    (reply.runtime, reply.calls)
  | .freeMemory handle answer =>
    let reply := runtime.freeMemory handle answer
    (reply.runtime, reply.calls)
  | .openTarget resolved answers =>
    let reply := runtime.openTarget resolved answers
    (reply.runtime, reply.calls)
  | .openBatchItem resolution answers =>
    let reply := runtime.openResolved resolution answers
    (reply.runtime, reply.calls)
  | .close handle answer =>
    let reply := runtime.close handle answer
    (reply.runtime, reply.calls)
  | .submit requests context answers =>
    let reply := runtime.submit requests context answers
    (reply.runtime, reply.calls)
  | .harvest errors answers => runtime.harvest errors answers
  | .releaseIo handle answer =>
    let reply := runtime.releaseIo handle answer
    (reply.runtime, reply.calls)
  | .shutdownEnter answers =>
    let reply := runtime.shutdownEnter answers
    (reply.runtime, reply.calls)
  | .shutdownLeave answers =>
    let reply := runtime.shutdownLeave answers
    (reply.runtime, reply.calls)

/-- A runtime right after its creation. -/
def StorageRuntime.created (runtimeId : Nat) (config : RuntimeConfig)
    (components : RuntimeComponents) (paths : List DataPathId) : StorageRuntime where
  runtimeId
  config
  components
  initializedDataPaths := paths

/-! ## The accepted requests -/

/-- The requests a submit reports as accepted, with their indices. -/
def acceptedOf (requests : List IoRequest) (states : List IoRequestInitialState) :
    List (IoRequest × Nat) :=
  requests.zipIdx.filter fun item =>
    states[item.2]?.any fun state => state.state == .accepted

/-- A runtime with the accepted requests of the IO entry in each slot. -/
structure Books where
  runtime : StorageRuntime
  accepted : Nat → List (IoRequest × Nat) := fun _ => []

namespace Books

/-- A submit that returns a handle leaves its accepted requests on record. -/
def recorded (books : Books) (requests : List IoRequest) (outcome : IoSubmitOutcome) :
    Nat → List (IoRequest × Nat) :=
  match outcome.io with
  | none => books.accepted
  | some handle =>
    Function.update books.accepted handle.slot (acceptedOf requests outcome.initialStates)

def step (books : Books) : RuntimeOp → Books
  | .submit requests context answers =>
    let reply := books.runtime.submit requests context answers
    ⟨reply.runtime, books.recorded requests reply.value⟩
  | op => ⟨(books.runtime.apply op).1, books.accepted⟩

theorem step_runtime (books : Books) (op : RuntimeOp) :
    (books.step op).runtime = (books.runtime.apply op).1 := by
  cases op <;> rfl

end Books

/-! ## The end of an IO -/

/-- The entry an IO ends with: its result, and no references. -/
def IoEntry.ended (entry : IoEntry) (result : IoResult) : IoEntry :=
  { entry.finish result with referencesReleased := true }

variable (runtime : StorageRuntime)

theorem releaseInflightReferences_eq (entry : IoEntry) :
    (∃ memories targets, (runtime.releaseInflightReferences entry).1 =
        { runtime with memoryEntries := memories, targetEntries := targets }) ∧
      (runtime.releaseInflightReferences entry).2 = { entry with referencesReleased := true } := by
  unfold releaseInflightReferences
  split
  · rename_i released
    refine ⟨⟨_, _, rfl⟩, ?_⟩
    rw [← released]
  · exact ⟨⟨_, _, rfl⟩, rfl⟩

/-- The end of an IO moves credits and writes its entry. -/
theorem finishIo_ended (slot : Nat) (entry : IoEntry) (running : entry.terminal = false)
    (result : IoResult) :
    ∃ memories targets, runtime.finishIo slot entry result =
      { runtime with
        memoryEntries := memories
        targetEntries := targets
        terminalResultCount := runtime.terminalResultCount + 1
        ioEntries := runtime.ioEntries.set slot (entry.ended result) } := by
  obtain ⟨⟨memories, targets, settled⟩, released⟩ :=
    releaseInflightReferences_eq runtime (entry.finish result)
  refine ⟨memories, targets, ?_⟩
  unfold finishIo
  simp only [running, settled, released]
  rfl

theorem finishIo_ioEntries (slot : Nat) (entry : IoEntry) (running : entry.terminal = false)
    (result : IoResult) :
    (runtime.finishIo slot entry result).ioEntries =
      runtime.ioEntries.set slot (entry.ended result) := by
  obtain ⟨_, _, finished⟩ := finishIo_ended runtime slot entry running result
  rw [finished]

/-! ## What a turn of the harvest can do -/

/-- An entry of which only the operations and the observation error have changed. -/
def IoEntry.revised (entry : IoEntry) (operations : List DataPathOperation) (error : AnyStatus) :
    IoEntry :=
  { entry with dataPathOperations := operations, asyncObservationError := error }

/-- One turn of a harvest leaves the runtime alone, revises one IO entry, or ends an IO
that has operations. -/
inductive Turn (runtime : StorageRuntime) : StorageRuntime → Prop
  | still : Turn runtime runtime
  | revise {slot : Nat} {entry : IoEntry} {operations : List DataPathOperation}
      {error : AnyStatus} (found : runtime.ioEntries[slot]? = some entry)
      (silent : entry.dataPathOperations = [] → operations = []) :
      Turn runtime
        { runtime with ioEntries := runtime.ioEntries.set slot (entry.revised operations error) }
  | finish {slot : Nat} {entry : IoEntry} {operations : List DataPathOperation}
      {error : AnyStatus} {result : IoResult} (found : runtime.ioEntries[slot]? = some entry)
      (running : entry.terminal = false) (pending : entry.dataPathOperations ≠ []) :
      Turn runtime (runtime.finishIo slot (entry.revised operations error) result)

/-- A refresh revises the entry, and ends only an IO with operations. -/
theorem refreshComponentIo_entry (async : DataPathId → Bool) (answers : HarvestAnswers)
    (entry : IoEntry) :
    ∃ operations error,
      (refreshComponentIo async answers entry).entry = entry.revised operations error ∧
      (entry.dataPathOperations = [] → operations = []) ∧
      ((refreshComponentIo async answers entry).finished.isSome →
        entry.terminal = false ∧ entry.dataPathOperations ≠ []) := by
  unfold refreshComponentIo
  split
  · exact ⟨entry.dataPathOperations, entry.asyncObservationError, rfl, id, nofun⟩
  rename_i working
  obtain ⟨running, pending⟩ := not_or.mp (mt or_eq_true_iff.mpr working)
  have running : entry.terminal = false := eq_false_iff.mpr running
  have pending : entry.dataPathOperations ≠ [] := fun none => pending (List.isEmpty_iff.mpr none)
  dsimp only
  split
  · exact ⟨entry.dataPathOperations, _, rfl, id, nofun⟩
  split
  · split
    · exact ⟨_, _, rfl, fun none => absurd none pending, fun _ => ⟨running, pending⟩⟩
    · exact ⟨[], _, rfl, fun _ => rfl, fun _ => ⟨running, pending⟩⟩
  · exact ⟨[], _, rfl, fun _ => rfl, fun _ => ⟨running, pending⟩⟩

variable (answers : HarvestAnswers) {slot : Nat} {entry : IoEntry}

/-- The IO table after the refresh of a slot: the entry that the refresh leaves, or the one
the IO ends with. -/
theorem refreshSlot_ioEntries {runtime : StorageRuntime}
    (found : runtime.ioEntries[slot]? = some entry) :
    ((refreshComponentIo runtime.components.asyncCompletion answers entry).finished = none ∧
      (refreshSlot answers runtime slot).1.ioEntries = runtime.ioEntries.set slot
        (refreshComponentIo runtime.components.asyncCompletion answers entry).entry) ∨
    ∃ result operations error,
      (refreshComponentIo runtime.components.asyncCompletion answers entry).finished = some result ∧
      entry.terminal = false ∧ entry.dataPathOperations ≠ [] ∧
      (refreshSlot answers runtime slot).1.ioEntries =
        runtime.ioEntries.set slot ((entry.revised operations error).ended result) := by
  obtain ⟨operations, error, entryEq, _, ended⟩ :=
    refreshComponentIo_entry runtime.components.asyncCompletion answers entry
  unfold refreshSlot
  rw [found]
  dsimp only
  cases finished :
      (refreshComponentIo runtime.components.asyncCompletion answers entry).finished with
  | none => exact .inl ⟨rfl, rfl⟩
  | some result =>
    obtain ⟨running, pending⟩ := ended (by rw [finished]; rfl)
    refine .inr ⟨result, operations, error, rfl, running, pending, ?_⟩
    rw [entryEq]
    exact finishIo_ioEntries runtime slot (entry.revised operations error) running result

variable (error : DataPathId × Status)

/-- A progress error leaves the IO table alone, is noted in an asynchronous IO, or ends a
synchronous one. -/
theorem failSlot_ioEntries (runtime : StorageRuntime) (slot : Nat) :
    failSlot error runtime slot = runtime ∨
      ∃ entry, runtime.ioEntries[slot]? = some entry ∧ entry.live = true ∧
        (entry.dataPathOperations.any fun operation => operation.dataPath == error.1) = true ∧
        ((entry.asyncIo runtime.components.asyncCompletion = true ∧
          ∃ noted, (failSlot error runtime slot).ioEntries =
            runtime.ioEntries.set slot (entry.revised entry.dataPathOperations noted)) ∨
        (entry.asyncIo runtime.components.asyncCompletion = false ∧
          (failSlot error runtime slot).ioEntries =
            runtime.ioEntries.set slot (entry.ended ⟨.failed, some error.2, {}⟩))) := by
  unfold failSlot
  split
  · exact .inl rfl
  rename_i entry found
  split
  · rename_i met
    obtain ⟨live, named⟩ := and_eq_true_iff.mp met
    refine .inr ⟨entry, found, live, named, ?_⟩
    split
    · rename_i async
      exact .inl ⟨async, _, rfl⟩
    rename_i sync
    have running : entry.terminal = false := by
      simpa using (and_eq_true_iff.mp live).2
    exact .inr ⟨eq_false_iff.mpr sync, finishIo_ioEntries runtime slot entry running _⟩
  · exact .inl rfl

theorem turn_refreshSlot (runtime : StorageRuntime) (slot : Nat) :
    Turn runtime (refreshSlot answers runtime slot).1 := by
  unfold refreshSlot
  split
  · exact .still
  rename_i entry found
  obtain ⟨operations, error, entryEq, silent, ended⟩ :=
    refreshComponentIo_entry runtime.components.asyncCompletion answers entry
  dsimp only
  rw [entryEq]
  split
  · exact .revise found silent
  rename_i result finished
  obtain ⟨running, pending⟩ := ended (by rw [finished]; rfl)
  exact .finish found running pending

theorem turn_failSlot (runtime : StorageRuntime) (slot : Nat) :
    Turn runtime (failSlot error runtime slot) := by
  unfold failSlot
  split
  · exact .still
  rename_i entry found
  split
  · rename_i met
    obtain ⟨live, named⟩ := and_eq_true_iff.mp met
    split
    · exact .revise found id
    have running : entry.terminal = false := by
      simpa using (and_eq_true_iff.mp live).2
    have pending : entry.dataPathOperations ≠ [] := by
      intro none
      rw [none] at named
      cases named
    exact .finish found running pending
  · exact .still

theorem turn_harvestStep (runtime : StorageRuntime) (turn : HarvestStep) :
    Turn runtime (harvestStep answers runtime turn).1 := by
  cases turn with
  | fail error slot => exact turn_failSlot error runtime slot
  | refresh slot => exact turn_refreshSlot answers runtime slot

variable {keeps : StorageRuntime → Prop}

/-- What every step of a harvest keeps, the harvest keeps. -/
theorem harvest_steps {answers : HarvestAnswers}
    (preserved : ∀ runtime turn, keeps runtime → keeps (harvestStep answers runtime turn).1)
    {runtime : StorageRuntime} (initial : keeps runtime) (errors : List (DataPathId × Status)) :
    keeps (runtime.harvest errors answers).1 := by
  unfold harvest
  rw [emitFrom_fst]
  exact invariant_runFrom preserved initial _

/-- What every turn keeps, a harvest keeps. -/
theorem harvest_keeps (preserved : ∀ before after, Turn before after → keeps before → keeps after)
    {runtime : StorageRuntime} (initial : keeps runtime) (errors : List (DataPathId × Status))
    (answers : HarvestAnswers) : keeps (runtime.harvest errors answers).1 :=
  harvest_steps
    (fun state turn holds => preserved state _ (turn_harvestStep answers state turn) holds)
    initial errors

/-! ## What the other operations do to the IO table -/

/-- The operations that leave the IO table alone. -/
def RuntimeOp.quiet : RuntimeOp → Bool
  | .submit _ _ _ | .harvest _ _ | .releaseIo _ _ => false
  | _ => true

/-- What a runtime is created with. -/
def StorageRuntime.identity (runtime : StorageRuntime) :
    Nat × RuntimeConfig × RuntimeComponents :=
  (runtime.runtimeId, runtime.config, runtime.components)

/-- What the quiet operations leave alone. -/
def StorageRuntime.frame (runtime : StorageRuntime) :
    (Nat × RuntimeConfig × RuntimeComponents) × List IoEntry × Nat :=
  (runtime.identity, runtime.ioEntries, runtime.ioGenCounter)

/-- A quiet operation keeps the frame, and the results of released IO unless it ends the
runtime. -/
structure Quietly (before after : StorageRuntime) : Prop where
  frame : after.frame = before.frame
  results : after.releasedResults = before.releasedResults ∨ after.releasedResults = ∅

theorem Quietly.refl : Quietly runtime runtime :=
  ⟨rfl, .inl rfl⟩

theorem quietly_finalizeShutdown (answers : ShutdownAnswers) :
    Quietly runtime (runtime.finalizeShutdown answers).runtime := by
  unfold finalizeShutdown
  split
  · exact ⟨rfl, .inl rfl⟩
  split
  · exact ⟨rfl, .inl rfl⟩
  split
  · exact ⟨rfl, .inl rfl⟩
  · exact ⟨rfl, .inr rfl⟩

theorem quietly_shutdownLeave (answers : ShutdownAnswers) :
    Quietly runtime (runtime.shutdownLeave answers).runtime := by
  unfold shutdownLeave
  split
  · exact quietly_finalizeShutdown runtime answers
  · exact Quietly.refl runtime

theorem quietly_apply {op : RuntimeOp} (quiet : op.quiet = true) :
    Quietly runtime (runtime.apply op).1 := by
  cases op with
  | registerMemory _ _ | allocateMemory _ _ _ _ | unregisterMemory _ _ | freeMemory _ _
  | openTarget _ _ | openBatchItem _ _ | close _ _ =>
    simp only [StorageRuntime.apply, registerMemory, allocateMemory, unregisterMemory, freeMemory,
      dropMemory, openTarget, openResolved, close]
    repeat' split
    all_goals exact ⟨rfl, .inl rfl⟩
  | submit requests context answers | harvest errors answers | releaseIo handle answer =>
    cases quiet
  | shutdownEnter answers =>
    show Quietly runtime (runtime.shutdownEnter answers).runtime
    unfold shutdownEnter
    split
    · exact Quietly.refl runtime
    · have left := quietly_shutdownLeave { runtime with state := .draining } answers
      exact ⟨left.frame, left.results⟩
  | shutdownLeave answers => exact quietly_shutdownLeave runtime answers

theorem quiet_ioEntries {op : RuntimeOp} (quiet : op.quiet = true) :
    (runtime.apply op).1.ioEntries = runtime.ioEntries :=
  congrArg (fun frame => frame.2.1) (quietly_apply runtime quiet).frame

/-- The entry of a released IO. -/
def IoEntry.freed (entry : IoEntry) : IoEntry :=
  { entry with dataPathOperations := [], released := true, active := false }

/-- `release_io` leaves the IO table alone, or frees the slot of a terminal IO. -/
theorem releaseIo_ioEntries (handle : IoHandle) (answer : DataPathId → DataPathOp → Guarded Unit) :
    (runtime.releaseIo handle answer).runtime = runtime ∨
      ∃ entry, runtime.ioEntries[handle.slot]? = some entry ∧ entry.terminal = true ∧
        (runtime.releaseIo handle answer).runtime.ioEntries =
          runtime.ioEntries.set handle.slot entry.freed := by
  unfold releaseIo
  split
  · exact .inl rfl
  rename_i entry valid
  split
  · exact .inl rfl
  rename_i ended
  split
  · exact .inl rfl
  · exact .inr ⟨entry, (lookup_some valid).2.1, eq_true_of_not_eq_false ended, rfl⟩

/-- A submit leaves the IO table alone, or writes the entry of its IO into a free slot. -/
theorem submit_ioEntries (requests : List IoRequest) (context : HostSubmitContext)
    (answers : SubmitAnswers) :
    (runtime.submit requests context answers).runtime.ioEntries = runtime.ioEntries ∨
      ∃ groups operations error,
        (runtime.submit requests context answers).runtime.ioEntries =
          placeAt runtime.ioEntries (findFreeSlot runtime.ioEntries)
            (issuedEntry (nextGeneration runtime.ioGenCounter) groups operations error) := by
  rcases submit_cases runtime requests context answers with
    ⟨_, ⟨entries, runtimeEq, _⟩⟩ | ⟨_, _, _, issued⟩
  · exact .inl (by rw [runtimeEq])
  obtain ⟨_, _, error, after⟩ := issued.after
  exact .inr ⟨_, _, error, by rw [after]⟩

/-- An entry that is not in use has no operations. -/
def Idle (entries : List IoEntry) : Prop :=
  ∀ (slot : Nat) (entry : IoEntry), entries[slot]? = some entry → entry.active = false →
    entry.dataPathOperations = []

namespace Idle

variable {entries : List IoEntry}

theorem set (idle : Idle entries) {old : IoEntry} (found : entries[slot]? = some old)
    (silent : entry.active = false → entry.dataPathOperations = []) :
    Idle (entries.set slot entry) := by
  intro query reached at_ inactive
  rw [getElem?_set_found found] at at_
  split at at_
  · cases at_
    exact silent inactive
  · exact idle query reached at_ inactive

/-- An IO with operations is in use. -/
theorem active (idle : Idle entries) (found : entries[slot]? = some entry)
    (pending : entry.dataPathOperations ≠ []) :
    entry.active = true := by
  by_contra inactive
  exact pending (idle slot entry found (eq_false_iff.mpr inactive))

theorem turn {runtime after : StorageRuntime} (idle : Idle runtime.ioEntries)
    (turn : Turn runtime after) : Idle after.ioEntries := by
  cases turn with
  | still => exact idle
  | revise found silent =>
    exact idle.set found fun inactive => silent (idle _ _ found inactive)
  | @finish slot entry operations error result found running pending =>
    have active := idle.active found pending
    rw [finishIo_ioEntries runtime slot (entry.revised operations error) running result]
    refine idle.set found fun inactive => ?_
    exact nomatch inactive.symm.trans active

theorem apply {runtime : StorageRuntime} (idle : Idle runtime.ioEntries) (op : RuntimeOp) :
    Idle (runtime.apply op).1.ioEntries := by
  cases quiet : op.quiet with
  | true => rw [quiet_ioEntries runtime quiet]; exact idle
  | false =>
    cases op with
    | submit requests context answers =>
      rcases submit_ioEntries runtime requests context answers with
        same | ⟨groups, operations, error, placed⟩
      · exact same ▸ idle
      have ioEntries : (runtime.apply (.submit requests context answers)).1.ioEntries =
          placeAt runtime.ioEntries (findFreeSlot runtime.ioEntries)
            (issuedEntry (nextGeneration runtime.ioGenCounter) groups operations error) :=
        placed
      intro slot entry found inactive
      rw [ioEntries, getElem?_placeAt (findFreeSlot_le _)] at found
      split at found
      · cases found
        have empty : operations.isEmpty = true := by
          simpa [issuedEntry] using inactive
        exact List.isEmpty_iff.mp empty
      · exact idle slot entry found inactive
    | harvest errors answers =>
      exact @harvest_keeps (fun runtime => Idle runtime.ioEntries)
        (fun _ _ moved holds => Idle.turn holds moved) runtime idle errors answers
    | releaseIo handle answer =>
      rcases releaseIo_ioEntries runtime handle answer with
        same | ⟨entry, found, _, freed⟩
      · have unchanged : (runtime.apply (.releaseIo handle answer)).1 = runtime := same
        rw [unchanged]
        exact idle
      · have ioEntries : (runtime.apply (.releaseIo handle answer)).1.ioEntries =
            runtime.ioEntries.set handle.slot entry.freed := freed
        rw [ioEntries]
        exact idle.set found fun _ => rfl
    | _ => cases quiet

end Idle

/-! ## What no operation changes -/

theorem turn_frame {runtime after : StorageRuntime} (turn : Turn runtime after) :
    after.identity = runtime.identity ∧ after.state = runtime.state := by
  cases turn with
  | still | revise => exact ⟨rfl, rfl⟩
  | @finish slot entry operations error result found running pending =>
    obtain ⟨_, _, finished⟩ :=
      finishIo_ended runtime slot (entry.revised operations error) running result
    rw [finished]
    exact ⟨rfl, rfl⟩

theorem apply_identity (op : RuntimeOp) :
    (runtime.apply op).1.identity = runtime.identity := by
  cases quiet : op.quiet with
  | true => exact congrArg Prod.fst (quietly_apply runtime quiet).frame
  | false =>
    cases op with
    | submit requests context answers =>
      show (runtime.submit requests context answers).runtime.identity = runtime.identity
      rcases submit_cases runtime requests context answers with
        ⟨_, ⟨_, runtimeEq, _⟩⟩ | ⟨_, _, _, issued⟩
      · rw [runtimeEq]
        rfl
      obtain ⟨_, _, _, after⟩ := issued.after
      rw [after]
      rfl
    | harvest errors answers =>
      exact @harvest_keeps (fun reached => reached.identity = runtime.identity)
        (fun _ _ moved holds => (turn_frame moved).1.trans holds) runtime rfl errors answers
    | releaseIo handle answer =>
      show (runtime.releaseIo handle answer).runtime.identity = runtime.identity
      unfold releaseIo
      repeat' split
      all_goals rfl
    | _ => cases quiet

theorem harvest_state (errors : List (DataPathId × Status)) (answers : HarvestAnswers) :
    (runtime.harvest errors answers).1.state = runtime.state :=
  @harvest_keeps (fun reached => reached.state = runtime.state)
    (fun _ _ moved same => (turn_frame moved).2.trans same) runtime rfl errors answers

/-! ## A runtime of one memory and one target

The runs that the later modules give as examples start here: one DataPath, which takes
any request, one registered memory and one open target, both in slot 0. -/

/-- A DataPath that supports everything. -/
def anyCapabilities : DataPathCapabilities :=
  ⟨true, true, true, true, true, true, 1, 1, 1, 0⟩

/-- The only question left open is whether the DataPaths complete asynchronously. -/
def plainComponents (async : Bool) : RuntimeComponents :=
  ⟨"HOST", fun _ => async, fun _ => anyCapabilities⟩

def plainSetup : List RuntimeOp :=
  [.registerMemory ⟨4096, 8, .host, -1, ""⟩ none,
    .openTarget (.ok ⟨8, 0⟩) ⟨.plain (.ok 0), .plain (.ok "domain"), .plain (.ok ())⟩]

/-- One byte from the target into the memory. -/
def byteRequest : IoRequest :=
  ⟨.read, ⟨1, 0, 1⟩, 0, ⟨1, 0, 1⟩, 0, 1⟩

def hostContext : HostSubmitContext := ⟨.hostExecution, -1, false⟩

/-- A submit of so many bytes which the DataPath answers with an operation and these
states. -/
def submitBytes (op : Option DataPathOp) (states : List IoRequestState) : RuntimeOp :=
  .submit (List.replicate states.length byteRequest) hostContext
    { stream := none
      pointer := fun _ => none
      registered := fun _ => .plain (.ok 0)
      group := fun _ =>
        { entered := none
          outcome := ⟨none, op, states.map fun state => ⟨state, none⟩⟩
          restored := none
          released := .plain (.ok ()) } }

/-- A harvest that finds exactly these operations completed, and releases them. -/
def completing (ops : List DataPathOp) : RuntimeOp :=
  let queried : DataPathId → DataPathOp → Guarded DataPathSnapshot := fun _ op =>
    .plain (.ok { state := if op ∈ ops then .completed else .inFlight })
  .harvest []
    { queried
      requeried := queried
      released := fun _ op =>
        .plain (if op ∈ ops then .ok () else .error ⟨.busy, "operation in flight"⟩) }

end Tutti
