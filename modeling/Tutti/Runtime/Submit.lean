import Tutti.Runtime.Registry

/-!
# `submit_component_backed_`

A submit validates each request on its own, groups the valid ones by DataPath,
reserves an IO entry with one in-flight credit per request and side, and hands
each group to its DataPath. What the DataPath does not accept is rejected and its
credit rolled back; an IO of which nothing was accepted is retired at once.
-/

namespace Tutti

open Foundation

/-! ## Credits -/

namespace Registered

variable {Body : Type}

def grantCredit (entry : Registered Body) : Registered Body :=
  { entry with inflightCount := entry.inflightCount + 1 }

/-- A credit is given back only if there is one. -/
def returnCredit (entry : Registered Body) : Registered Body :=
  { entry with inflightCount := entry.inflightCount - 1 }

end Registered

/-- One credit for each slot of the list. -/
def grantCredits {Body : Type} (slots : List Nat) (entries : List (Registered Body)) :
    List (Registered Body) :=
  slots.foldl (fun entries slot => entries.modify slot Registered.grantCredit) entries

/-- One credit back for each slot of the list. -/
def returnCredits {Body : Type} (slots : List Nat) (entries : List (Registered Body)) :
    List (Registered Body) :=
  slots.foldl (fun entries slot => entries.modify slot Registered.returnCredit) entries

/-! ## Answers and outcomes -/

/-- What a DataPath answers to the submit of one group. -/
structure GroupAnswer where
  entered : AnyStatus
  outcome : SubmitOutcome
  restored : AnyStatus
  /-- The answer to the release of an operation that the runtime gives up. -/
  released : Guarded Unit

/-- Everything a submit is told from outside. -/
structure SubmitAnswers where
  /-- The vendor's stream ownership query. -/
  stream : AnyStatus
  /-- The vendor's pointer query, by memory slot. -/
  pointer : Nat → AnyStatus
  /-- `DataPath::register_memory`, by request index. -/
  registered : Nat → Guarded DataPathMemory
  group : DataPathId → GroupAnswer

structure IoSubmitOutcome where
  status : AnyStatus
  io : Option IoHandle
  initialStates : List IoRequestInitialState

namespace GroupAnswer

/-- What the runtime sees of the submit: nothing, if the guard refused it. -/
def submitted (answer : GroupAnswer) : SubmitOutcome :=
  match answer.entered with
  | some _ => {}
  | none => answer.outcome

def guardStatus (answer : GroupAnswer) : AnyStatus :=
  match answer.entered with
  | some status => some status
  | none => answer.restored

/-- Why the outcome cannot be read request by request, if it cannot. -/
def fault (answer : GroupAnswer) (count : Nat) : AnyStatus :=
  match answer.guardStatus with
  | some status => some status
  | none =>
    if answer.submitted.initialStates.length ≠ count then
      some ⟨.internal, "DataPath returned invalid state count"⟩
    else none

/-- Some request of the group was accepted, under an operation. -/
def anyAccepted (answer : GroupAnswer) : Bool :=
  answer.submitted.op.isSome &&
    answer.submitted.initialStates.any (fun state => state.state == .accepted)

/-- The operation of the group is entered into the books. -/
def keeps (answer : GroupAnswer) (asyncPath : Bool) (count : Nat) : Bool :=
  match answer.fault count with
  | some _ => asyncPath && answer.submitted.op.isSome
  | none => answer.anyAccepted

end GroupAnswer

/-- One request of a group, with its index in the batch. -/
structure Member where
  index : Nat
  request : DataPathRequest
  deriving DecidableEq, Repr

def Member.memorySlot (member : Member) : Nat := member.request.intent.memory.slot

def Member.targetSlot (member : Member) : Nat := member.request.intent.target.slot

structure PendingGroup where
  dataPath : DataPathId
  members : List Member
  deriving DecidableEq, Repr

/-- The initial states under construction, with the rejection that the overall
status reports. -/
structure Verdicts where
  states : List IoRequestInitialState
  firstRejection : AnyStatus := some ⟨.invalidArgument, "all requests rejected"⟩
  haveRejection : Bool := false

namespace Verdicts

/-- `reject_one`. -/
def rejectOne (verdicts : Verdicts) (index : Nat) (status : AnyStatus) : Verdicts where
  states := verdicts.states.set index ⟨.rejected, status⟩
  firstRejection := if verdicts.haveRejection then verdicts.firstRejection else status
  haveRejection := true

def accept (verdicts : Verdicts) (index : Nat) (status : AnyStatus) : Verdicts :=
  { verdicts with states := verdicts.states.set index ⟨.accepted, status⟩ }

/-- A failure that is reported without rejecting a request. -/
def note (verdicts : Verdicts) (status : AnyStatus) : Verdicts :=
  { verdicts with
    haveRejection := true
    firstRejection :=
      if verdicts.firstRejection.isNone then status else verdicts.firstRejection }

end Verdicts

namespace StorageRuntime

/-! ## Validation -/

/-- `validate_request_`. -/
def validateRequest (runtime : StorageRuntime) (request : IoRequest) :
    Except Status (MemoryEntry × TargetEntry) :=
  if request.length = 0 then .error ⟨.invalidArgument, "request length must be > 0"⟩
  else
    match runtime.validateMemory request.memory with
    | none => .error ⟨.invalidArgument, "invalid memory handle in request"⟩
    | some memory =>
      match runtime.validateTarget request.target with
      | none => .error ⟨.invalidArgument, "invalid target handle in request"⟩
      | some target =>
        if memory.body.size < request.memoryOffset then
          .error ⟨.outOfRange, "memory_offset exceeds memory size"⟩
        else if memory.body.size - request.memoryOffset < request.length then
          .error ⟨.outOfRange, "memory_offset + length exceeds memory size"⟩
        else if target.body.logicalSize < request.targetOffset then
          .error ⟨.outOfRange, "target_offset exceeds target size"⟩
        else if target.body.logicalSize - request.targetOffset < request.length then
          .error ⟨.outOfRange, "target_offset + length exceeds target size"⟩
        else .ok (memory, target)

/-- `validate_submit_context_`. -/
def validateSubmitContext (runtime : StorageRuntime) (context : HostSubmitContext)
    (stream : AnyStatus) : AnyStatus :=
  let mismatch : Status := ⟨.invalidArgument, "submit accelerator does not match Runtime"⟩
  let accelId := runtime.config.accelId
  if 0 ≤ context.accelId ∧ 0 ≤ accelId ∧ context.accelId ≠ accelId then some mismatch
  else if context.executionDomain = .deviceExecution ∧ 0 ≤ context.accelId ∧ accelId < 0 then
    some mismatch
  else if context.executionDomain ≠ .deviceExecution then none
  else if accelId < 0 ∨ (if 0 ≤ context.accelId then context.accelId else accelId) ≠ accelId then
    some mismatch
  else if context.stream = false then
    some ⟨.invalidArgument, "DEVICE_EXECUTION requires a non-null stream"⟩
  else stream

/-- `validate_data_path_context_`. -/
def validateDataPathContext (caps : DataPathCapabilities) (context : HostSubmitContext) :
    AnyStatus :=
  if context.executionDomain = .hostExecution ∧ caps.supportsHostExecution = false then
    some ⟨.unsupported, "DataPath does not support HOST_EXECUTION"⟩
  else if context.executionDomain = .deviceExecution ∧ caps.supportsDeviceExecution = false then
    some ⟨.unsupported, "DataPath does not support DEVICE_EXECUTION"⟩
  else none

/-- `validate_component_memory_`. -/
def validateComponentMemory (runtime : StorageRuntime) (memory : MemoryBody) (pointer : AnyStatus)
    (caps : DataPathCapabilities) : AnyStatus :=
  if memory.kind.accelerated ∧ 0 ≤ memory.accelId ∧ memory.accelId ≠ runtime.config.accelId then
    some ⟨.invalidArgument, "device memory accelerator does not match Runtime"⟩
  else
    match validatePointerAccel runtime.config.accelId pointer memory.kind memory.accelId with
    | some status => some status
    | none =>
      if (if memory.kind.accelerated then caps.supportsDeviceMemory
          else caps.supportsHostMemory) = false then
        some ⟨.unsupported, "DataPath does not support the request memory kind"⟩
      else none

/-- `validate_component_request_`. An alignment of 0 is never met. -/
def validateComponentRequest (request : IoRequest) (caps : DataPathCapabilities) : AnyStatus :=
  let aligned (value alignment : Nat) : Bool := alignment != 0 && value % alignment == 0
  if (request.direction = .read ∧ caps.supportsRead = false) ∨
      (request.direction = .write ∧ caps.supportsWrite = false) then
    some ⟨.unsupported, "DataPath does not support the request direction"⟩
  else if caps.maxSingleIoBytes ≠ 0 ∧ caps.maxSingleIoBytes < request.length then
    some ⟨.outOfRange, "request exceeds DataPath max_single_io_bytes"⟩
  else if aligned request.targetOffset caps.targetAlignmentBytes = false ∨
      aligned request.memoryOffset caps.memoryAlignmentBytes = false ∨
      aligned request.length caps.lengthAlignmentBytes = false then
    some ⟨.invalidArgument, "request violates DataPath alignment"⟩
  else none

/-- Every check on one request up to its memory registration. The source computes
those that depend on the DataPath or on the memory once per submit. -/
def validateCandidate (runtime : StorageRuntime) (context : HostSubmitContext)
    (pointer : Nat → AnyStatus) (request : IoRequest) :
    Except Status (MemoryEntry × TargetBody × DataPathId) :=
  match runtime.validateRequest request with
  | .error status => .error status
  | .ok (memory, target) =>
    match target.body.dataPath with
    | none => .error ⟨.notReady, "target has no DataPath"⟩
    | some path =>
      let caps := runtime.components.capabilities path
      match validateDataPathContext caps context with
      | some status => .error status
      | none =>
        match runtime.validateComponentMemory memory.body (pointer request.memory.slot)
            caps with
        | some status => .error status
        | none =>
          match validateComponentRequest request caps with
          | some status => .error status
          | none => .ok (memory, target.body, path)

/-- `registration_for_`: the registration of the memory in the target's domain,
made at its first use. -/
def registrationFor (runtime : StorageRuntime) (slot : Nat) (memory : MemoryEntry)
    (target : TargetBody) (path : DataPathId) (call : Guarded DataPathMemory) :
    Except Status DataPathMemory × StorageRuntime × List DataPathCall :=
  match memory.body.dataPathRegistrations.find? (fun registration =>
      registration.dataPath == path && registration.domain == target.registrationDomain) with
  | some registration => (.ok registration.memory, runtime, [])
  | none =>
    let made := call.logged (.registerMemory path target.registrationDomain)
    match call.outcome with
    | .error status => (.error status, runtime, made)
    | .ok registered =>
      let registration := ⟨path, target.registrationDomain, registered⟩
      let body := { memory.body with
        dataPathRegistrations := memory.body.dataPathRegistrations ++ [registration] }
      (.ok registered,
        { runtime with
          memoryEntries := runtime.memoryEntries.set slot { memory with body } },
        made)

/-! ## Planning: the loop over the requests -/

/-- The requests that passed validation, each with its DataPath. -/
structure Planning where
  runtime : StorageRuntime
  verdicts : Verdicts
  candidates : List (DataPathId × Member) := []
  calls : List DataPathCall := []

/-- One turn of the validation loop. -/
def planOne (context : HostSubmitContext) (answers : SubmitAnswers) (planning : Planning)
    (item : IoRequest × Nat) : Planning :=
  match planning.runtime.validateCandidate context answers.pointer item.1 with
  | .error status =>
    { planning with verdicts := planning.verdicts.rejectOne item.2 (some status) }
  | .ok (memory, target, path) =>
    match planning.runtime.registrationFor item.1.memory.slot memory target path
        (answers.registered item.2) with
    | (.error status, runtime, made) =>
      { planning with
        runtime
        verdicts := planning.verdicts.rejectOne item.2 (some status)
        calls := planning.calls ++ made }
    | (.ok registered, runtime, made) =>
      { planning with
        runtime
        candidates := planning.candidates ++
          [(path, ⟨item.2, ⟨item.1, registered, target.dataPathTarget⟩⟩)]
        calls := planning.calls ++ made }

def plan (runtime : StorageRuntime) (requests : List IoRequest) (context : HostSubmitContext)
    (answers : SubmitAnswers) : Planning :=
  requests.zipIdx.foldl (planOne context answers)
    { runtime
      verdicts := { states := List.replicate requests.length {} } }

/-- A request joins the group of its DataPath, or opens one. -/
def addToGroup : List PendingGroup → DataPathId × Member → List PendingGroup
  | [], (path, member) => [⟨path, [member]⟩]
  | group :: groups, (path, member) =>
    if group.dataPath = path then ⟨path, group.members ++ [member]⟩ :: groups
    else group :: addToGroup groups (path, member)

def groupCandidates (candidates : List (DataPathId × Member)) : List PendingGroup :=
  candidates.foldl addToGroup []

/-! ## Issuing: the loop over the groups -/

/-- A submit between two groups: the IO entry it reserved and what it will return. -/
structure Issuing where
  runtime : StorageRuntime
  entry : IoEntry
  verdicts : Verdicts
  anyAccepted : Bool := false

namespace Issuing

/-- A request that the DataPath did not take is rejected and its credits go back. -/
def rejectMember (issuing : Issuing) (member : Member) (status : AnyStatus) : Issuing :=
  { issuing with
    verdicts := issuing.verdicts.rejectOne member.index status
    runtime :=
      { issuing.runtime with
        memoryEntries := returnCredits [member.memorySlot] issuing.runtime.memoryEntries
        targetEntries := returnCredits [member.targetSlot] issuing.runtime.targetEntries } }

def rejectGroup (issuing : Issuing) (members : List Member) (status : AnyStatus) : Issuing :=
  members.foldl (fun issuing member => issuing.rejectMember member status) issuing

/-- The initial state of one request, as the DataPath reported it. -/
def settleMember (hasOp : Bool) (issuing : Issuing) (item : Member × IoRequestInitialState) :
    Issuing :=
  if item.2.state = .accepted ∧ hasOp then
    { issuing with
      verdicts := issuing.verdicts.accept item.1.index none
      anyAccepted := true }
  else
    issuing.rejectMember item.1
      (if item.2.state = .rejected then item.2.status
        else some ⟨.internal, "DataPath accepted request without operation"⟩)

/-- The operation of a group enters the books. -/
def keepOp (issuing : Issuing) (group : PendingGroup) (op : DataPathOp) : Issuing :=
  { issuing with
    entry :=
      { issuing.entry with
        dataPathOperations := issuing.entry.dataPathOperations ++
          [{ dataPath := group.dataPath
             op
             requestIndices := group.members.map Member.index }] } }

/-- An operation of unknown extent is kept with all its requests: the work it stands
for may have been issued. -/
def keepFaulty (issuing : Issuing) (group : PendingGroup) (op : DataPathOp) (error : Status) :
    Issuing :=
  let kept := issuing.keepOp group op
  { kept with
    entry :=
      { kept.entry with
        asyncObservationError :=
          if kept.entry.asyncObservationError.isNone then some error
          else kept.entry.asyncObservationError }
    verdicts :=
      (group.members.foldl (fun verdicts member => verdicts.accept member.index (some error))
        issuing.verdicts).note (some error)
    anyAccepted := true }

/-- The readable outcome of a group: request by request, then its operation, then its
status. -/
def settleGroup (issuing : Issuing) (group : PendingGroup) (answer : GroupAnswer) : Issuing :=
  let submitted := answer.submitted
  let settled := (group.members.zip submitted.initialStates).foldl
    (settleMember submitted.op.isSome) issuing
  let booked :=
    match submitted.op with
    | some op => if answer.anyAccepted then settled.keepOp group op else settled
    | none => settled
  if submitted.status.isSome ∧ answer.anyAccepted = false then
    { booked with verdicts := booked.verdicts.note submitted.status }
  else booked

/-- One turn of the loop over the groups. -/
def submitGroup (async : DataPathId → Bool) (answers : DataPathId → GroupAnswer)
    (issuing : Issuing) (group : PendingGroup) : Issuing :=
  let answer := answers group.dataPath
  match answer.fault group.members.length with
  | some error =>
    match answer.submitted.op with
    | some op =>
      if async group.dataPath then issuing.keepFaulty group op error
      else issuing.rejectGroup group.members (some error)
    | none => issuing.rejectGroup group.members (some error)
  | none => issuing.settleGroup group answer

end Issuing

/-- The calls made for one group: the submit, and the release of an operation that is
given up. -/
def groupCalls (async : DataPathId → Bool) (answers : DataPathId → GroupAnswer)
    (group : PendingGroup) : List DataPathCall :=
  let answer := answers group.dataPath
  let made :=
    if answer.entered.isNone then
      [.submit group.dataPath (group.members.map Member.request) answer.submitted.op]
    else []
  match answer.submitted.op with
  | some op =>
    if answer.keeps (async group.dataPath) group.members.length then made
    else made ++ answer.released.logged (.release group.dataPath op answer.released.done)
  | none => made

/-- `release_inflight_references_`. -/
def releaseInflightReferences (runtime : StorageRuntime) (entry : IoEntry) :
    StorageRuntime × IoEntry :=
  if entry.referencesReleased then (runtime, entry)
  else
    ({ runtime with
        memoryEntries := returnCredits entry.memorySlots runtime.memoryEntries
        targetEntries := returnCredits entry.targetSlots runtime.targetEntries },
      { entry with referencesReleased := true })

/-- The entry a submit reserves for its groups. -/
def reservedEntry (generation : Nat) (groups : List PendingGroup) : IoEntry where
  active := true
  generation
  memorySlots := (groups.flatMap PendingGroup.members).map Member.memorySlot
  targetSlots := (groups.flatMap PendingGroup.members).map Member.targetSlot

/-- The reservation: the next generation, and the credits of every candidate. -/
def reserve (runtime : StorageRuntime) (groups : List PendingGroup) (verdicts : Verdicts) :
    Issuing :=
  let entry := reservedEntry (nextGeneration runtime.ioGenCounter) groups
  { runtime :=
      { runtime with
        ioGenCounter := entry.generation
        memoryEntries := grantCredits entry.memorySlots runtime.memoryEntries
        targetEntries := grantCredits entry.targetSlots runtime.targetEntries }
    entry
    verdicts }

/-- The end of a submit: the IO is live, or retired if nothing was accepted. -/
def conclude (slot : Nat) (issuing : Issuing) : IoSubmitOutcome × StorageRuntime :=
  let verdicts := issuing.verdicts
  if issuing.anyAccepted then
    ({ status :=
        if verdicts.haveRejection then
          verdicts.firstRejection.map fun first => ⟨first.code, "partial submit: " ++ first.message⟩
        else none
       io := some ⟨issuing.runtime.runtimeId, slot, issuing.entry.generation⟩
       initialStates := verdicts.states },
      { issuing.runtime with ioEntries := placeAt issuing.runtime.ioEntries slot issuing.entry })
  else
    let (runtime, entry) := issuing.runtime.releaseInflightReferences issuing.entry
    ({ status := verdicts.firstRejection, io := none, initialStates := verdicts.states },
      { runtime with
        ioEntries := placeAt runtime.ioEntries slot
          { entry with active := false, dataPathOperations := [] } })

/-- A batch of which every request is refused for one reason. -/
def rejectAll (requests : List IoRequest) (status : Status) : IoSubmitOutcome where
  status := some status
  io := none
  initialStates := List.replicate requests.length ⟨.rejected, some status⟩

/-- The groups of a planned batch are submitted under one IO entry. -/
def issue (planning : Planning) (groups : List PendingGroup) (answers : SubmitAnswers) :
    Reply IoSubmitOutcome :=
  let runtime := planning.runtime
  let async := runtime.components.asyncCompletion
  let issuing := groups.foldl (Issuing.submitGroup async answers.group)
    (runtime.reserve groups planning.verdicts)
  let (outcome, after) := conclude (findFreeSlot runtime.ioEntries) issuing
  ⟨outcome, after, planning.calls ++ groups.flatMap (groupCalls async answers.group)⟩

/-- `submit`, by way of `submit_component_backed_`. -/
def submit (runtime : StorageRuntime) (requests : List IoRequest) (context : HostSubmitContext)
    (answers : SubmitAnswers) : Reply IoSubmitOutcome :=
  if runtime.state ≠ .running then ⟨rejectAll requests notRunning, runtime, []⟩
  else if requests.isEmpty then ⟨⟨none, none, []⟩, runtime, []⟩
  else
    match runtime.validateSubmitContext context answers.stream with
    | some status => ⟨rejectAll requests status, runtime, []⟩
    | none =>
      if runtime.config.maxTerminalResults ≤ runtime.terminalResultCount then
        ⟨rejectAll requests ⟨.resourceExhausted, "terminal result limit reached"⟩, runtime, []⟩
      else
        let planning := runtime.plan requests context answers
        let groups := groupCandidates planning.candidates
        if groups.isEmpty then
          ⟨⟨planning.verdicts.firstRejection, none, planning.verdicts.states⟩,
            planning.runtime, planning.calls⟩
        else issue planning groups answers

end StorageRuntime

end Tutti
