import Tutti.Storage.SlotMedia

/-!
# The DataPath interface

The types that `StorageRuntime` exchanges with its DataPaths. A DataPath is not
modelled as code: whatever it answers is an argument of the runtime's operations,
so that results hold for every behaviour of it. Each call is made under a device
guard, which can refuse the call or fail to restore the caller's device after it
(`Guarded`). The calls an operation really made are listed in order as
`DataPathCall`s.
-/

namespace Tutti

/-- A status as the runtime stores it; `none` is OK. -/
abbrev AnyStatus := Option Status

/-! ## Guarded calls -/

/-- A DataPath method called between entering and restoring a device guard. -/
structure Guarded (Answer : Type) where
  entered : AnyStatus
  result : Except Status Answer
  restored : AnyStatus

namespace Guarded

variable {Answer : Type}

/-- A call to which nothing happens but the method itself. -/
def plain (result : Except Status Answer) : Guarded Answer :=
  ⟨none, result, none⟩

/-- The guard let the method run. -/
def called (call : Guarded Answer) : Bool :=
  call.entered.isNone

/-- `call_data_path_result_` and `call_data_path_status_`: a guard that cannot be
restored hides what the method returned. -/
def outcome (call : Guarded Answer) : Except Status Answer :=
  match call.entered, call.restored with
  | some status, _ => .error status
  | none, some status => .error status
  | none, none => call.result

/-- The method ran and returned OK, whatever became of the guard. -/
def done (call : Guarded Answer) : Bool :=
  call.called && call.result.isOk

end Guarded

/-! ## Handles and requests -/

inductive HandleKind where
  | memory
  | target
  | io
  deriving DecidableEq, Repr

/-- `OpaqueHandle`: minted by a runtime for one of its slots. -/
structure Handle (kind : HandleKind) where
  runtimeId : Nat
  slot : Nat
  generation : Nat
  deriving DecidableEq, Repr

def Handle.valid {kind : HandleKind} (handle : Handle kind) : Bool :=
  handle.generation != 0

abbrev MemoryHandle := Handle .memory
abbrev TargetHandle := Handle .target
abbrev IoHandle := Handle .io

inductive IoDirection where
  | read
  | write
  deriving DecidableEq, Repr

structure IoRequest where
  direction : IoDirection
  memory : MemoryHandle
  memoryOffset : Nat
  target : TargetHandle
  targetOffset : Nat
  length : Nat
  deriving DecidableEq, Repr

inductive ExecutionDomain where
  | hostExecution
  | deviceExecution
  deriving DecidableEq, Repr

/-- `HostSubmitContext`; of the stream only its presence is kept. -/
structure HostSubmitContext where
  executionDomain : ExecutionDomain
  accelId : Int
  stream : Bool
  deriving DecidableEq, Repr

/-! ## What a DataPath is asked and what it answers -/

abbrev DataPathId := Nat
abbrev DataPathTarget := Nat
abbrev DataPathMemory := Nat
abbrev DataPathOp := Nat

/-- The `DataPathCapabilities` the runtime checks requests against. -/
structure DataPathCapabilities where
  supportsHostExecution : Bool
  supportsDeviceExecution : Bool
  supportsHostMemory : Bool
  supportsDeviceMemory : Bool
  supportsRead : Bool
  supportsWrite : Bool
  targetAlignmentBytes : Nat
  memoryAlignmentBytes : Nat
  lengthAlignmentBytes : Nat
  maxSingleIoBytes : Nat
  deriving DecidableEq, Repr

structure DataPathRequest where
  intent : IoRequest
  memory : DataPathMemory
  target : DataPathTarget
  deriving DecidableEq, Repr

inductive IoRequestState where
  | accepted
  | rejected
  deriving DecidableEq, Repr

structure IoRequestInitialState where
  state : IoRequestState := .rejected
  status : AnyStatus := none
  deriving DecidableEq, Repr

structure SubmitOutcome where
  status : AnyStatus := none
  op : Option DataPathOp := none
  initialStates : List IoRequestInitialState := []
  deriving DecidableEq, Repr

inductive IoState where
  | inFlight
  | completed
  | failed
  deriving DecidableEq, Repr

inductive IoFailureKind where
  | none
  | resolveLba
  | cqTimeout
  | nvmeCqError
  | cudaQueryError
  | statusD2hError
  | unknown
  deriving DecidableEq, Repr

inductive IoFailureScope where
  | none
  | requestIndices
  | wholeOperation
  deriving DecidableEq, Repr

def uint32Max : Nat := 2 ^ 32 - 1

structure IoCompletionDetail where
  confirmedBytes : Nat := 0
  timeoutSeen : Bool := false
  firstFailedEntry : Nat := uint32Max
  failureKind : IoFailureKind := .none
  rawCqStatus : Nat := 0
  failureScope : IoFailureScope := .none
  failedRequestIndices : List Nat := []
  deriving DecidableEq, Repr

structure DataPathSnapshot where
  state : IoState := .inFlight
  status : AnyStatus := none
  bytesTransferred : Nat := 0
  detail : IoCompletionDetail := {}
  deriving DecidableEq, Repr

/-- A method call that reached a DataPath. A submit carries the operation it
returned, a release whether it returned OK. -/
inductive DataPathCall where
  | openTarget (path : DataPathId)
  | registrationDomain (path : DataPathId) (target : DataPathTarget)
  | close (path : DataPathId) (target : DataPathTarget)
  | registerMemory (path : DataPathId) (domain : String)
  | unregisterMemory (path : DataPathId) (memory : DataPathMemory)
  | submit (path : DataPathId) (requests : List DataPathRequest) (op : Option DataPathOp)
  | progress (path : DataPathId)
  | query (path : DataPathId) (op : DataPathOp)
  | release (path : DataPathId) (op : DataPathOp) (ok : Bool)
  | enqueueWait (path : DataPathId) (ops : List DataPathOp)
  | shutdown (path : DataPathId)
  deriving DecidableEq, Repr

/-- The call, if the guard let it through. -/
def Guarded.logged {Answer : Type} (call : Guarded Answer) (entry : DataPathCall) :
    List DataPathCall :=
  if call.called then [entry] else []

end Tutti
