import Tutti.Foundation.OrderedDict
import Tutti.Foundation.Run
import Tutti.Runtime.DataPath

/-!
# Closing a target of `StripedDataPath`

A batch may name any number of targets, and its kernel dereferences the device handle of
each target that an entry is for, be the request accepted or rejected after its first
pieces were made. `close` frees the handle of a target unless an op in flight is on it. The
op records one target, the first of its batch that was found, whether or not a request on
it was accepted.
-/

namespace Tutti.Striped

open Foundation OrderedDict

/-- An identity of the SPI; generation 0 is the invalid one. -/
structure SpiIdentity where
  token : Nat
  generation : Nat
  deriving DecidableEq, Repr

/-- An op in the table. `accepted` lists the targets of its accepted requests, and `used`
those of all its entries; the source keeps neither. -/
structure OpEntry where
  state : IoState
  targetToken : Nat
  opGeneration : Nat := 1
  accepted : List Nat
  used : List Nat
  deriving DecidableEq, Repr

structure StripedPath where
  /-- The generation of each open target. -/
  targets : OrderedDict Nat Nat := ∅
  ops : OrderedDict Nat OpEntry := ∅
  nextTargetToken : Nat := 1
  nextOpToken : Nat := 1
  maxInFlightOperations : Nat

/-- A request of a batch, with the verdict of its validation and fan-out, and whether it
left entries behind when it was rejected. -/
structure Request where
  target : SpiIdentity
  passes : Bool
  leaves : Bool := false
  deriving DecidableEq, Repr

/-- An entry of the request is in the launch. -/
def Request.issues (request : Request) : Bool := request.passes || request.leaves

/-- What a submit meets: the checks before the batch is looked at, the reservations up to
the launch, and the state after recording the event. -/
structure SubmitAnswer where
  ready : Bool := true
  launched : Bool := true
  state : IoState := .inFlight

inductive StripedOp where
  | openTarget
  | submit (requests : List Request) (answer : SubmitAnswer)
  | progress (polled : List (Nat × IoState))
  | release (op : SpiIdentity)
  | close (target : SpiIdentity)

/-- The entries of an op are on the target it records. -/
def OpEntry.Single (entry : OpEntry) : Prop :=
  ∀ target, target ∈ entry.accepted ∨ target ∈ entry.used → target = entry.targetToken

namespace StripedPath

/-- `find_target_`. -/
def findsTarget (path : StripedPath) (target : SpiIdentity) : Bool :=
  target.generation != 0 && path.targets.get? target.token == some target.generation

def targetHasInflightOps (path : StripedPath) (token : Nat) : Bool :=
  path.ops.entries.any fun pair => pair.2.state == .inFlight && pair.2.targetToken == token

/-- The requests of a batch whose target was found, in order. -/
def found (path : StripedPath) (requests : List Request) : List Request :=
  requests.filter fun request => path.findsTarget request.target

def openTarget (path : StripedPath) : StripedPath :=
  { path with
    targets := path.targets.set path.nextTargetToken 1
    nextTargetToken := path.nextTargetToken + 1 }

/-- `submit_impl_` up to the registration of the op. -/
def submit (path : StripedPath) (requests : List Request) (answer : SubmitAnswer) :
    StripedPath :=
  let inFlight := path.ops.entries.countP fun pair => pair.2.state == .inFlight
  if answer.ready = false ∨ path.maxInFlightOperations ≤ inFlight then path
  else
    match (path.found requests).head? with
    | none => path
    | some first =>
      let accepted := ((path.found requests).filter Request.passes).map (·.target.token)
      let used := ((path.found requests).filter Request.issues).map (·.target.token)
      if used = [] ∨ answer.launched = false then path
      else { path with
        ops := path.ops.set path.nextOpToken
          { state := answer.state, targetToken := first.target.token, accepted, used }
        nextOpToken := path.nextOpToken + 1 }

/-- One op polled by `progress_impl_`. -/
def poll (path : StripedPath) (polled : Nat × IoState) : StripedPath :=
  match path.ops.get? polled.1 with
  | none => path
  | some entry =>
    if entry.state = .inFlight then
      { path with ops := path.ops.set polled.1 { entry with state := polled.2 } }
    else path

def release (path : StripedPath) (op : SpiIdentity) : Except Status Unit × StripedPath :=
  match (path.ops.get? op.token).filter fun entry =>
      op.generation != 0 && entry.opGeneration == op.generation with
  | none => (.error ⟨.notFound, "release: op not found"⟩, path)
  | some entry =>
    if entry.state = .inFlight then
      (.error ⟨.busy, "release: op is still in flight"⟩, path)
    else (.ok (), { path with ops := path.ops.erase op.token })

def close (path : StripedPath) (target : SpiIdentity) : Except Status Unit × StripedPath :=
  if target.generation = 0 then
    (.error ⟨.invalidArgument, "close: target identity is invalid"⟩, path)
  else
    match path.targets.get? target.token with
    | none => (.error ⟨.notFound, "close: target not found"⟩, path)
    | some generation =>
      if generation ≠ target.generation then
        (.error ⟨.notFound, "close: generation mismatch"⟩, path)
      else if path.targetHasInflightOps target.token = true then
        (.error ⟨.busy, "close: target has in-flight operations"⟩, path)
      else (.ok (), { path with targets := path.targets.erase target.token })

def step (path : StripedPath) : StripedOp → StripedPath
  | .openTarget => path.openTarget
  | .submit requests answer => path.submit requests answer
  | .progress polled => polled.foldl poll path
  | .release op => (path.release op).2
  | .close target => (path.close target).2

/-- A target is closed, and its handle freed, only if no op in flight has an accepted
request or any other entry on it. -/
def ClosesUnused (path : StripedPath) : StripedOp → Prop
  | .close target => (path.close target).1 = .ok () →
      ∀ token entry, path.ops.get? token = some entry → entry.state = .inFlight →
        target.token ∉ entry.accepted ∧ target.token ∉ entry.used
  | _ => True

/-- Every request of a batch that makes entries is on the first target found for the
batch. -/
def OneTarget (path : StripedPath) : StripedOp → Prop
  | .submit requests _ => ∀ first ∈ (path.found requests).head?,
      ∀ request ∈ path.found requests, request.issues = true →
        request.target.token = first.target.token
  | _ => True

instance (path : StripedPath) (op : StripedOp) : Decidable (path.OneTarget op) := by
  cases op <;> unfold OneTarget <;> infer_instance

/-! ## The recorded target -/

/-- Every op records the target of its entries. -/
def Covers (path : StripedPath) : Prop :=
  ∀ token entry, path.ops.get? token = some entry → entry.Single

variable {path : StripedPath}

section

variable (covers : path.Covers)
include covers

/-- An op that is entered or changed keeps the others as they are. -/
theorem Covers.set (token : Nat) {entry : OpEntry} (one : entry.Single) {after : StripedPath}
    (ops : after.ops = path.ops.set token entry) : after.Covers := by
  intro query found present
  rw [ops, get?_set] at present
  split at present
  · cases present
    exact one
  · exact covers query found present

theorem Covers.submit {requests : List Request} {answer : SubmitAnswer}
    (one : path.OneTarget (.submit requests answer)) :
    (path.submit requests answer).Covers := by
  unfold StripedPath.submit
  dsimp only
  split
  · exact covers
  split
  · exact covers
  rename_i first head
  split
  · exact covers
  refine covers.set path.nextOpToken (fun target listed => ?_) rfl
  rcases listed with listed | listed
  · obtain ⟨request, kept, rfl⟩ := List.mem_map.mp listed
    obtain ⟨member, passes⟩ := List.mem_filter.mp kept
    exact one first head request member (Bool.or_eq_true_iff.mpr (.inl passes))
  · obtain ⟨request, kept, rfl⟩ := List.mem_map.mp listed
    obtain ⟨member, issues⟩ := List.mem_filter.mp kept
    exact one first head request member issues

theorem Covers.poll (polled : Nat × IoState) :
    (path.poll polled).Covers := by
  unfold StripedPath.poll
  split
  · exact covers
  rename_i entry present
  split
  · have one : ({ entry with state := polled.2 } : OpEntry).Single :=
      covers polled.1 entry present
    exact covers.set polled.1 one rfl
  · exact covers

theorem Covers.release (op : SpiIdentity) :
    (path.release op).2.Covers := by
  unfold StripedPath.release
  split
  · exact covers
  split
  · exact covers
  intro query entry present
  rw [get?_erase] at present
  split at present
  · cases present
  · exact covers query entry present

omit covers in
theorem ops_close (path : StripedPath) (target : SpiIdentity) :
    (path.close target).2.ops = path.ops := by
  unfold close
  split
  · rfl
  split
  · rfl
  split
  · rfl
  split
  · rfl
  · rfl

theorem Covers.step {op : StripedOp} (one : path.OneTarget op) :
    (path.step op).Covers := by
  cases op with
  | openTarget => exact covers
  | submit requests answer => exact covers.submit one
  | progress polled =>
    have kept : ∀ (path : StripedPath) polled, path.Covers → (path.poll polled).Covers :=
      fun _ polled covers => covers.poll polled
    exact invariant_runFrom kept covers polled
  | release op => exact covers.release op
  | close target =>
    intro token entry present
    rw [StripedPath.step, ops_close] at present
    exact covers token entry present

omit covers in
theorem not_inflight_of_close {target : SpiIdentity} (closed : (path.close target).1 = .ok ()) :
    path.targetHasInflightOps target.token = false := by
  unfold close at closed
  split at closed
  · cases closed
  split at closed
  · cases closed
  split at closed
  · cases closed
  split at closed
  · cases closed
  rename_i idle
  exact Bool.eq_false_iff.mpr idle

theorem Covers.closesUnused (op : StripedOp) : path.ClosesUnused op := by
  cases op with
  | close target =>
    intro closed token entry present flying
    have idle := not_inflight_of_close closed
    have unused : ¬ (target.token ∈ entry.accepted ∨ target.token ∈ entry.used) := by
      intro listed
      have busy : path.targetHasInflightOps target.token = true := by
        refine List.any_eq_true.mpr ⟨(token, entry), get?_eq_some_iff.mp present, ?_⟩
        rw [covers token entry present _ listed, flying]
        simp
      exact nomatch idle.symm.trans busy
    exact not_or.mp unused
  | openTarget | submit requests answer | progress polled | release op => trivial

end

/-- In every run whose batches have entries on their first target only, no target is closed
while an op in flight has an entry on it. -/
theorem closesUnused_of_oneTarget (maxInFlightOperations : Nat) (ops : List StripedOp)
    (one : Along step OneTarget { maxInFlightOperations } ops) :
    Along step ClosesUnused { maxInFlightOperations } ops :=
  Along.imp_of_invariant Covers (fun _ _ covers one => covers.step one)
    (fun _ op covers _ => covers.closesUnused op)
    nofun one

/-- Two targets are in use, by an accepted request and by what a rejected one left behind,
and cannot be closed; the third can. -/
def threeTargets : List StripedOp :=
  [.openTarget, .openTarget, .openTarget,
    .submit [⟨⟨2, 1⟩, true, false⟩, ⟨⟨1, 1⟩, false, false⟩] {},
    .submit [⟨⟨3, 1⟩, false, true⟩] {}, .close ⟨2, 1⟩, .close ⟨3, 1⟩, .close ⟨1, 1⟩]

theorem closesUnused_of_oneTarget_three :
    Along step OneTarget { maxInFlightOperations := 4 } threeTargets ∧
      (runFrom step { maxInFlightOperations := 4 } threeTargets).targets.keys = [2, 3] ∧
      Along step ClosesUnused { maxInFlightOperations := 4 } threeTargets :=
  ⟨by decide, by decide, closesUnused_of_oneTarget 4 _ (by decide)⟩

/-- The first request of a batch, on target 1, is rejected and the second, on target 2, is
accepted. The op records target 1, and target 2 is closed under it. -/
theorem second_target_closed :
    ¬ Along step ClosesUnused { maxInFlightOperations := 4 }
      [.openTarget, .openTarget, .submit [⟨⟨1, 1⟩, false, false⟩, ⟨⟨2, 1⟩, true, false⟩] {},
        .close ⟨2, 1⟩] := by
  rintro ⟨_, _, _, closes, _⟩
  exact absurd (closes (by decide) 1 ⟨.inFlight, 1, 1, [2], [2]⟩ (by decide) rfl) (by decide)

end StripedPath

end Tutti.Striped
