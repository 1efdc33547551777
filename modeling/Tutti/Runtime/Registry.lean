import Tutti.Foundation.OrderedDict
import Tutti.Foundation.SlotTable
import Tutti.Runtime.DataPath

/-!
# The registries of `StorageRuntime`

The state behind `registry_mutex_`: the memory, target and IO tables with their
generation counters, and the operations that fill and empty the first two. Only
the component-backed runtime is modelled. What is decided outside of it (the
resolver, the vendor's pointer query, the DataPaths) enters as arguments.
-/

namespace Tutti

open Foundation

inductive RuntimeState where
  | running
  | draining
  | stopped
  deriving DecidableEq, Repr

inductive MemoryKind where
  | host
  | pinnedHost
  | device
  | managed
  deriving DecidableEq, Repr

/-- `DEVICE` and `MANAGED` memory belongs to an accelerator. -/
def MemoryKind.accelerated : MemoryKind → Bool
  | .host | .pinnedHost => false
  | .device | .managed => true

inductive MemoryOwnership where
  | callerOwned
  | runtimeOwned
  deriving DecidableEq, Repr

structure RuntimeConfig where
  accelId : Int := -1
  maxTerminalResults : Nat := 64
  deriving DecidableEq, Repr

/-- What is fixed when the runtime is assembled: the compiled accelerator profile,
which DataPaths implement `AsyncCompletion`, and their capabilities. -/
structure RuntimeComponents where
  compiledProfile : String
  asyncCompletion : DataPathId → Bool
  capabilities : DataPathId → DataPathCapabilities

/-! ## Entries -/

/-- What the handle validation reads of an entry. -/
class SlotEntry (Entry : Type) where
  active : Entry → Bool
  generation : Entry → Nat

/-- An entry of the memory or of the target table. -/
structure Registered (Body : Type) where
  active : Bool
  generation : Nat
  inflightCount : Nat
  body : Body
  deriving DecidableEq, Repr

instance {Body : Type} : SlotEntry (Registered Body) where
  active := Registered.active
  generation := Registered.generation

structure DataPathMemoryRegistration where
  dataPath : DataPathId
  domain : String
  memory : DataPathMemory
  deriving DecidableEq, Repr

structure MemoryBody where
  size : Nat
  ownership : MemoryOwnership
  kind : MemoryKind
  accelId : Int
  dataPathRegistrations : List DataPathMemoryRegistration
  deriving DecidableEq, Repr

structure TargetBody where
  logicalSize : Nat
  dataPath : Option DataPathId
  dataPathTarget : DataPathTarget
  registrationDomain : String
  deriving DecidableEq, Repr

abbrev MemoryEntry := Registered MemoryBody
abbrev TargetEntry := Registered TargetBody

structure DataPathOperation where
  dataPath : DataPathId
  op : DataPathOp
  /-- The runtime's indices of the requests that were handed to the DataPath. -/
  requestIndices : List Nat
  terminalSnapshot : Option DataPathSnapshot := none
  released : Bool := false
  deriving DecidableEq, Repr

structure IoEntry where
  active : Bool
  generation : Nat
  state : IoState := .inFlight
  terminal : Bool := false
  released : Bool := false
  referencesReleased : Bool := false
  ioStatus : AnyStatus := none
  asyncObservationError : AnyStatus := none
  completionDetail : IoCompletionDetail := {}
  dataPathOperations : List DataPathOperation := []
  memorySlots : List Nat := []
  targetSlots : List Nat := []
  deriving DecidableEq, Repr

instance : SlotEntry IoEntry where
  active := IoEntry.active
  generation := IoEntry.generation

structure IoResult where
  state : IoState
  status : AnyStatus
  detail : IoCompletionDetail
  deriving DecidableEq, Repr

structure StorageRuntime where
  runtimeId : Nat
  config : RuntimeConfig
  components : RuntimeComponents
  /-- The initialised DataPaths, which are also those with a progress gate. -/
  initializedDataPaths : List DataPathId
  state : RuntimeState := .running
  memoryEntries : List MemoryEntry := []
  targetEntries : List TargetEntry := []
  ioEntries : List IoEntry := []
  memoryGenCounter : Nat := 0
  targetGenCounter : Nat := 0
  ioGenCounter : Nat := 0
  terminalResultCount : Nat := 0
  releasedResults : OrderedDict Nat IoResult := ∅
  releasedResultOrder : List Nat := []

/-- What an operation returns, the runtime it leaves and the calls it made. -/
structure Reply (Value : Type) where
  value : Value
  runtime : StorageRuntime
  calls : List DataPathCall := []

/-- `++counter` of a 64-bit generation counter. -/
def nextGeneration (counter : Nat) : Nat :=
  (counter + 1) % uint64Size

/-- `find_free_memory_slot_`, `find_free_target_slot_` and `find_free_io_slot_`. -/
def findFreeSlot {Entry : Type} [SlotEntry Entry] (entries : List Entry) : Nat :=
  firstFree SlotEntry.active entries

variable {Entry : Type}

theorem findFreeSlot_le [SlotEntry Entry] (entries : List Entry) :
    findFreeSlot entries ≤ entries.length :=
  List.findIdx_le_length

/-- A new entry does not replace one in use. -/
theorem inactive_of_findFreeSlot [SlotEntry Entry] {entries : List Entry} {entry : Entry}
    (found : entries[findFreeSlot entries]? = some entry) :
    SlotEntry.active entry = false :=
  used_firstFree found

namespace StorageRuntime

/-! ## Handle validation -/

/-- The entry a handle stands for, if the handle is valid. -/
def lookup {Entry : Type} [SlotEntry Entry] {kind : HandleKind} (runtime : StorageRuntime)
    (entries : List Entry) (handle : Handle kind) : Option Entry :=
  if runtime.state = .stopped ∨ handle.valid = false ∨ handle.runtimeId ≠ runtime.runtimeId then
    none
  else
    entries[handle.slot]?.filter fun entry =>
      SlotEntry.active entry && SlotEntry.generation entry == handle.generation

/-- `validate_memory_`, with the entry. -/
def validateMemory (runtime : StorageRuntime) (handle : MemoryHandle) : Option MemoryEntry :=
  runtime.lookup runtime.memoryEntries handle

/-- `validate_target_`, with the entry. -/
def validateTarget (runtime : StorageRuntime) (handle : TargetHandle) : Option TargetEntry :=
  runtime.lookup runtime.targetEntries handle

/-- `validate_io_`, with the entry. -/
def validateIo (runtime : StorageRuntime) (handle : IoHandle) : Option IoEntry :=
  runtime.lookup runtime.ioEntries handle

variable {runtime : StorageRuntime}

theorem lookup_some [SlotEntry Entry] {kind : HandleKind} {entries : List Entry}
    {handle : Handle kind} {entry : Entry} (found : runtime.lookup entries handle = some entry) :
    handle.runtimeId = runtime.runtimeId ∧ entries[handle.slot]? = some entry ∧
      SlotEntry.active entry = true ∧ SlotEntry.generation entry = handle.generation := by
  unfold lookup at found
  split at found
  · cases found
  rename_i passes
  obtain ⟨inside, matching⟩ := Option.filter_eq_some_iff.mp found
  obtain ⟨_, own⟩ := not_or.mp (not_or.mp passes).2
  obtain ⟨active, generation⟩ := Bool.and_eq_true_iff.mp matching
  exact ⟨not_not.mp own, inside, active, beq_iff_eq.mp generation⟩

theorem lookup_stopped [SlotEntry Entry] {kind : HandleKind} (stopped : runtime.state = .stopped)
    (entries : List Entry) (handle : Handle kind) :
    runtime.lookup entries handle = none := by
  rw [lookup, if_pos (.inl stopped)]

/-! ## Memory -/

/-- `MemoryView`, with address 0 for a null pointer. -/
structure MemoryView where
  address : Nat
  size : Nat
  expectedKind : MemoryKind
  expectedAccelId : Int
  expectedProfile : String

/-- `profile_matches_`: equal up to the case of the letters. -/
def profileMatches (compiled requested : String) : Bool :=
  requested.toList.map Char.toUpper == compiled.toList.map Char.toUpper

/-- `validate_pointer_accel_`; `vendor` is what the accelerator's pointer query
comes to. -/
def validatePointerAccel (accelId : Int) (vendor : AnyStatus) (kind : MemoryKind)
    (expectedAccelId : Int) : AnyStatus :=
  if kind.accelerated = false then none
  else if accelId < 0 then
    some ⟨.invalidArgument, "accelerator memory cannot belong to a host-only Runtime"⟩
  else if (if 0 ≤ expectedAccelId then expectedAccelId else accelId) ≠ accelId then
    some ⟨.invalidArgument, "device pointer accelerator does not match Runtime"⟩
  else vendor

/-- The checks of `register_memory` that come after its state check. -/
def validateView (runtime : StorageRuntime) (view : MemoryView) (vendor : AnyStatus) : AnyStatus :=
  if view.address = 0 ∨ view.size = 0 then
    some ⟨.invalidArgument, "address and size must be non-null/non-zero"⟩
  else if view.expectedProfile ≠ "" ∧
      profileMatches runtime.components.compiledProfile view.expectedProfile = false then
    some ⟨.invalidArgument, "memory profile does not match compiled accelerator profile"⟩
  else if view.expectedKind.accelerated ∧ runtime.config.accelId < 0 then
    some ⟨.unsupported, "host-only Runtime cannot register accelerator memory"⟩
  else
    match validatePointerAccel runtime.config.accelId vendor view.expectedKind
        view.expectedAccelId with
    | some status => some status
    | none =>
      if 0 ≤ view.expectedAccelId ∧ 0 ≤ runtime.config.accelId ∧
          view.expectedAccelId ≠ runtime.config.accelId then
        some ⟨.invalidArgument, "memory accelerator does not match Runtime"⟩
      else none

/-- A new entry of the memory table, in the first free slot. -/
def addMemory (runtime : StorageRuntime) (body : MemoryBody) : Reply (Except Status MemoryHandle) :=
  let slot := findFreeSlot runtime.memoryEntries
  let generation := nextGeneration runtime.memoryGenCounter
  { value := .ok ⟨runtime.runtimeId, slot, generation⟩
    runtime :=
      { runtime with
        memoryGenCounter := generation
        memoryEntries := placeAt runtime.memoryEntries slot ⟨true, generation, 0, body⟩ } }

/-- The answer of every operation that needs a running runtime. -/
def notRunning : Status := ⟨.notReady, "runtime is not in RUNNING state"⟩

/-- `register_memory`. -/
def registerMemory (runtime : StorageRuntime) (view : MemoryView) (vendor : AnyStatus) :
    Reply (Except Status MemoryHandle) :=
  if runtime.state ≠ .running then ⟨.error notRunning, runtime, []⟩
  else
    match runtime.validateView view vendor with
    | some status => ⟨.error status, runtime, []⟩
    | none =>
      runtime.addMemory
        { size := view.size
          ownership := .callerOwned
          kind := view.expectedKind
          accelId :=
            if 0 ≤ view.expectedAccelId then view.expectedAccelId
            else if view.expectedKind.accelerated then runtime.config.accelId else -1
          dataPathRegistrations := [] }

/-- `allocate_memory`; `allocated` says whether `malloc` found the bytes. -/
def allocateMemory (runtime : StorageRuntime) (size : Nat) (kind : MemoryKind) (accelId : Int)
    (allocated : Bool) : Reply (Except Status MemoryHandle) :=
  if runtime.state ≠ .running then ⟨.error notRunning, runtime, []⟩
  else if size = 0 then ⟨.error ⟨.invalidArgument, "size must be > 0"⟩, runtime, []⟩
  else if kind.accelerated then
    ⟨.error ⟨.unsupported, "backend allocation for DEVICE/MANAGED memory is not implemented"⟩,
      runtime, []⟩
  else if 0 ≤ accelId ∧ 0 ≤ runtime.config.accelId ∧ accelId ≠ runtime.config.accelId then
    ⟨.error ⟨.invalidArgument, "memory accelerator does not match Runtime"⟩, runtime, []⟩
  else if 0 ≤ accelId ∧ runtime.config.accelId < 0 then
    ⟨.error ⟨.invalidArgument, "host-only Runtime cannot allocate accelerator memory"⟩,
      runtime, []⟩
  else if allocated = false then
    ⟨.error ⟨.resourceExhausted, "allocation failed"⟩, runtime, []⟩
  else runtime.addMemory ⟨size, .runtimeOwned, kind, accelId, []⟩

/-- The loop of `unregister_data_path_memory_`, over the registrations from the last
to the first: it stops at the first failure. -/
def unregisterAll (answer : DataPathMemoryRegistration → Guarded Unit) :
    List DataPathMemoryRegistration → AnyStatus × List DataPathCall
  | [] => (none, [])
  | registration :: rest =>
    let call := answer registration
    let made := call.logged (.unregisterMemory registration.dataPath registration.memory)
    match call.outcome with
    | .error status => (some status, made)
    | .ok _ =>
      let (failure, calls) := unregisterAll answer rest
      (failure, made ++ calls)

/-- `unregister_data_path_memory_`. -/
def unregisterDataPathMemory (answer : DataPathMemoryRegistration → Guarded Unit)
    (entry : MemoryEntry) : AnyStatus × MemoryEntry × List DataPathCall :=
  match unregisterAll answer entry.body.dataPathRegistrations.reverse with
  | (some status, calls) => (some status, entry, calls)
  | (none, calls) =>
    (none, { entry with body := { entry.body with dataPathRegistrations := [] } }, calls)

/-- The common body of `unregister_memory` and `free_memory`. -/
def dropMemory (runtime : StorageRuntime) (required : MemoryOwnership) (refusal : String)
    (handle : MemoryHandle) (answer : DataPathMemoryRegistration → Guarded Unit) :
    Reply AnyStatus :=
  match runtime.validateMemory handle with
  | none => ⟨some ⟨.notFound, "invalid memory handle"⟩, runtime, []⟩
  | some entry =>
    if entry.body.ownership ≠ required then ⟨some ⟨.invalidArgument, refusal⟩, runtime, []⟩
    else if 0 < entry.inflightCount then
      ⟨some ⟨.busy, "memory has inflight operations"⟩, runtime, []⟩
    else
      match unregisterDataPathMemory answer entry with
      | (some status, _, calls) => ⟨some status, runtime, calls⟩
      | (none, cleaned, calls) =>
        { value := none
          runtime :=
            { runtime with
              memoryEntries := runtime.memoryEntries.set handle.slot
                { cleaned with active := false } }
          calls }

/-- `unregister_memory`. -/
def unregisterMemory (runtime : StorageRuntime) :=
  runtime.dropMemory .callerOwned "unregister_memory requires CALLER_OWNED registration"

/-- `free_memory`. -/
def freeMemory (runtime : StorageRuntime) :=
  runtime.dropMemory .runtimeOwned "free_memory requires RUNTIME_OWNED allocation"

/-! ## Targets -/

/-- What the resolver and the DataPath lookup of an open come to. -/
structure Resolution where
  logicalSize : Nat
  dataPath : DataPathId

/-- What a DataPath answers to the calls of one open. -/
structure OpenAnswers where
  opened : Guarded DataPathTarget
  domain : Guarded String
  closed : Guarded Unit

/-- The part of an open that talks to the DataPath: `DataPath::open`, then
`registration_domain`, and `close` when there is no domain. -/
def openDataPath (path : DataPathId) (answers : OpenAnswers) :
    Except Status (DataPathTarget × String) × List DataPathCall :=
  let made := answers.opened.logged (.openTarget path)
  match answers.opened.outcome with
  | .error status => (.error status, made)
  | .ok target =>
    let asked := made ++ answers.domain.logged (.registrationDomain path target)
    match answers.domain.outcome with
    | .error status => (.error status, asked ++ answers.closed.logged (.close path target))
    | .ok domain => (.ok (target, domain), asked)

/-- A new entry of the target table, in the first free slot. -/
def addTarget (runtime : StorageRuntime) (body : TargetBody) : TargetHandle × StorageRuntime :=
  let slot := findFreeSlot runtime.targetEntries
  let generation := nextGeneration runtime.targetGenCounter
  (⟨runtime.runtimeId, slot, generation⟩,
    { runtime with
      targetGenCounter := generation
      targetEntries := placeAt runtime.targetEntries slot ⟨true, generation, 0, body⟩ })

/-- The entry of a target that its DataPath has opened. -/
def openedBody (resolution : Resolution) (target : DataPathTarget) (domain : String) : TargetBody :=
  ⟨resolution.logicalSize, some resolution.dataPath, target, domain⟩

/-- A resolved target is opened by its DataPath and entered into the table. These are
also phases 2 and 3 of `open_batch` for one of its items. -/
def openResolved (runtime : StorageRuntime) (resolution : Resolution) (answers : OpenAnswers) :
    Reply (Except Status TargetHandle) :=
  match openDataPath resolution.dataPath answers with
  | (.error status, calls) => ⟨.error status, runtime, calls⟩
  | (.ok (target, domain), calls) =>
    let (handle, after) := runtime.addTarget (openedBody resolution target domain)
    ⟨.ok handle, after, calls⟩

/-- `open`. -/
def openTarget (runtime : StorageRuntime) (resolved : Except Status Resolution)
    (answers : OpenAnswers) : Reply (Except Status TargetHandle) :=
  if runtime.state ≠ .running then ⟨.error notRunning, runtime, []⟩
  else
    match resolved with
    | .error status => ⟨.error status, runtime, []⟩
    | .ok resolution => runtime.openResolved resolution answers

/-- A target entry once its DataPath has closed it. -/
def TargetBody.cleared (body : TargetBody) : TargetBody :=
  { body with dataPath := none, dataPathTarget := 0, registrationDomain := "" }

/-- The closing of one target entry, shared by `close_locked_` and
`finalize_shutdown_locked_`: `DataPath::close`, then the entry is retired. -/
def closeEntry (answer : Guarded Unit) (entry : TargetEntry) :
    AnyStatus × TargetEntry × List DataPathCall :=
  match entry.body.dataPath with
  | none => (none, { entry with active := false }, [])
  | some path =>
    let made := answer.logged (.close path entry.body.dataPathTarget)
    match answer.outcome with
    | .error status => (some status, entry, made)
    | .ok _ =>
      (none, { entry with active := false, body := TargetBody.cleared entry.body }, made)

/-- `close`, by way of `close_locked_`. -/
def close (runtime : StorageRuntime) (handle : TargetHandle) (answer : Guarded Unit) :
    Reply AnyStatus :=
  match runtime.validateTarget handle with
  | none => ⟨some ⟨.notFound, "invalid target handle"⟩, runtime, []⟩
  | some entry =>
    if 0 < entry.inflightCount then
      ⟨some ⟨.busy, "target has inflight operations"⟩, runtime, []⟩
    else
      let (failure, closed, calls) := closeEntry answer entry
      { value := failure
        runtime :=
          { runtime with targetEntries := runtime.targetEntries.set handle.slot closed }
        calls }

end StorageRuntime

end Tutti
