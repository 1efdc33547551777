import Mathlib.Algebra.Ring.Nat
import Mathlib.Data.List.Basic
import Mathlib.Data.List.Infix

/-!
# Submitting a batch with retries

`_submit_retry` submits its requests in segments. The runtime accepts some requests of a call
and rejects the others: these are submitted again, a segment that is too wide is halved, and
two rounds in a row that accept nothing are an error.
-/

namespace Tutti.Nvme

open List

/-- The answer to a submit of `width` requests: a verdict for each of them, with a ticket
for those accepted. -/
structure SubmitResult (width : Nat) where
  ioHandle : Option Nat
  statusOk : Bool
  statusMsg : String
  initialStates : List Bool
  judged : initialStates.length = width
  held : ioHandle = none → true ∉ initialStates

namespace SubmitResult

variable {α : Type} {width : Nat} (result : SubmitResult width) (pending : List α)

def accepted : List α :=
  ((pending.zip result.initialStates).filter Prod.snd).map Prod.fst

/-- What stands in `pending` at the positions of `rejected`. -/
def rejected : List α :=
  ((pending.zip result.initialStates).filter fun judged => !judged.2).map Prod.fst

variable {pending}

theorem accepted_append_rejected (asked : width = pending.length) :
    (result.accepted pending ++ result.rejected pending).Perm pending := by
  have parts := (filter_append_perm Prod.snd (pending.zip result.initialStates)).map Prod.fst
  rwa [map_append, map_fst_zip (asked ▸ result.judged.ge)] at parts

theorem accepted_of_none (absent : result.ioHandle = none) : result.accepted pending = [] := by
  refine map_eq_nil_iff.mpr (filter_eq_nil_iff.mpr fun verdict listed accepted => ?_)
  exact result.held absent (accepted ▸ (of_mem_zip listed).2)

end SubmitResult

def isBatchWidthRejection (statusMsg : String) : Bool :=
  ["too many sub-IOs", "batch bytes exceed limit"].any fun marker =>
    decide (marker.toList <:+: statusMsg.toList)

/-- A ticket with the original indices of the requests accepted under it. -/
structure SubmittedHandle where
  handle : Nat
  batchIndices : List Nat

inductive SubmitFailure where
  /-- The call to the runtime raises. -/
  | submit
  /-- Some request is not rejected, but there is no ticket for it. -/
  | missingHandle (statusMsg : String)
  | refused (statusMsg : String)
  /-- Two rounds in a row accepted nothing. -/
  | starved (diagnostics : List String)

/-- The runtime: its answer to a list of requests after some number of answers, or `none`
where the call raises. -/
abbrev SubmitPort (Request : Type) :=
  Nat → (requests : List Request) → Option (SubmitResult requests.length)

/-- Requests with their original indices. -/
abbrev Segment (Request : Type) :=
  List (Nat × Request)

variable {Request : Type}

/-- The variables of the loop; the last segment of the source comes first. `calls` are the
answers so far: the ticket and the original indices accepted. -/
structure Retrying (Request : Type) where
  segments : List (Segment Request)
  handles : List SubmittedHandle := []
  allRejectedRounds : Nat := 0
  rejectionDiagnostics : List String := []
  calls : List (Option Nat × List Nat) := []

inductive SubmitRetry (Request : Type) where
  | going (loop : Retrying Request)
  | returned (loop : Retrying Request)
  | raised (failure : SubmitFailure) (loop : Retrying Request)

/-- The completions that the call adds to `_deferred_completions`. -/
def SubmitRetry.deferred : SubmitRetry Request → List (List SubmittedHandle)
  | .raised _ loop => if loop.handles.isEmpty then [] else [loop.handles]
  | _ => []

namespace Retrying

def answered (loop : Retrying Request) (pending : Segment Request) {width : Nat}
    (result : SubmitResult width) : Retrying Request :=
  let acceptedIndices := (result.accepted pending).map Prod.fst
  { loop with
    handles := loop.handles ++ (result.ioHandle.map (⟨·, acceptedIndices⟩)).toList
    calls := loop.calls ++ [(result.ioHandle, acceptedIndices)] }

/-- One pass of the loop for the segment `pending`, once it is answered. -/
def answer (loop : Retrying Request) (pending : Segment Request)
    (below : List (Segment Request)) {width : Nat} (result : SubmitResult width) :
    SubmitRetry Request :=
  let rejected := result.rejected pending
  let next := loop.answered pending result
  if result.ioHandle = none ∧ rejected.length ≠ pending.length then
    .raised (.missingHandle result.statusMsg) next
  else if rejected = [] then
    if result.ioHandle = none ∨ result.statusOk = false then
      .raised (.refused result.statusMsg) next
    else .going { next with segments := below, allRejectedRounds := 0 }
  else if rejected.length = pending.length then
    let rejectionDiagnostics := loop.rejectionDiagnostics ++
      [s!"round={loop.allRejectedRounds + 1} pending={pending.length} status={result.statusMsg}"]
    if 1 < pending.length ∧ isBatchWidthRejection result.statusMsg then
      let mid := pending.length / 2
      .going { next with
        segments := pending.drop mid :: pending.take mid :: below
        rejectionDiagnostics }
    else if 2 ≤ loop.allRejectedRounds + 1 then
      .raised (.starved (rejectionDiagnostics.drop (rejectionDiagnostics.length - 2))) next
    else
      .going { next with
        segments := rejected :: below
        allRejectedRounds := loop.allRejectedRounds + 1
        rejectionDiagnostics }
  else .going { next with segments := rejected :: below, allRejectedRounds := 0 }

def run (submit : SubmitPort Request) :
    Nat → Retrying Request → SubmitRetry Request
  | 0, loop => .going loop
  | fuel + 1, loop =>
      match loop.segments with
      | [] => .returned loop
      | pending :: below =>
          match submit loop.calls.length (pending.map Prod.snd) with
          | none => .raised .submit loop
          | some result =>
              match loop.answer pending below result with
              | .going next => run submit fuel next
              | outcome => outcome

/-- A bound on the calls left. -/
def effort (loop : Retrying Request) : Nat :=
  2 * (loop.segments.map fun segment => max 1 (2 * segment.length - 1)).sum +
    (1 - loop.allRejectedRounds)

end Retrying

/-- The segments of at most `widthLimit` requests, where `0` is no limit. -/
def presplit (widthLimit : Nat) (indexed : Segment Request) :
    List (Segment Request) :=
  if widthLimit ≠ 0 ∧ widthLimit < indexed.length then
    (range ((indexed.length + widthLimit - 1) / widthLimit)).map fun segment =>
      (indexed.drop (segment * widthLimit)).take widthLimit
  else [indexed]

def submitRetry (submit : SubmitPort Request)
    (widthLimit : Nat) (requests : List Request) : SubmitRetry Request :=
  let loop : Retrying Request :=
    { segments := presplit widthLimit (requests.zipIdx.map Prod.swap) }
  loop.run submit (loop.effort + 1)

variable {loop : Retrying Request}

namespace Retrying

/-- Every ticket is among the handles, with what was accepted under it. -/
structure Owned (loop : Retrying Request) : Prop where
  tickets : loop.handles.map SubmittedHandle.handle = loop.calls.filterMap Prod.fst
  drained : loop.handles.flatMap SubmittedHandle.batchIndices = loop.calls.flatMap Prod.snd

/-- Each of `count` indices was accepted once or waits in one segment. -/
structure Shares (count : Nat) (loop : Retrying Request) : Prop extends loop.Owned where
  shared : (loop.calls.flatMap Prod.snd ++ loop.segments.flatten.map Prod.fst).Perm
    (range count)

theorem Owned.answered (owned : loop.Owned) (pending : Segment Request) {width : Nat}
    (result : SubmitResult width) :
    (loop.answered pending result).Owned := by
  constructor
  · simp only [Retrying.answered, map_append, filterMap_append, owned.tickets]
    cases result.ioHandle <;> rfl
  simp only [Retrying.answered, flatMap_append, owned.drained]
  cases issued : result.ioHandle with
  | none => rw [result.accepted_of_none issued]; rfl
  | some handle => rfl

section Answer

variable {count : Nat} {loop : Retrying Request} {pending : Segment Request}
  {below : List (Segment Request)} {width : Nat} (shares : Shares count loop)
  (top : loop.segments = pending :: below) (result : SubmitResult width)
  (asked : width = pending.length)

include shares top asked

/-- What a pass leaves to do may be arranged in any way. -/
theorem Shares.leave {next : Retrying Request} (kept : List (Segment Request))
    (left : kept.flatten.Perm (result.rejected pending)) (segments : next.segments = kept ++ below)
    (handles : next.handles = (loop.answered pending result).handles)
    (calls : next.calls = (loop.answered pending result).calls) : Shares count next := by
  have owned := shares.toOwned.answered pending result
  refine ⟨⟨?_, ?_⟩, ?_⟩
  · rw [handles, calls, owned.tickets]
  · rw [handles, calls, owned.drained]
  have parts := ((left.append_left _).trans (result.accepted_append_rejected asked)).map Prod.fst
  have shared := shares.shared
  rw [top, flatten_cons, map_append] at shared
  refine .trans ?_ shared
  simp only [calls, segments, Retrying.answered, flatMap_append, flatMap_singleton,
    flatten_append, map_append, append_assoc] at parts ⊢
  rw [← append_assoc (map _ _)]
  exact (parts.append_right _).append_left _

/-- One pass shares out what it is given, and there is less to do if it goes on. -/
theorem Shares.answer :
    match loop.answer pending below result with
    | .going next => Shares count next ∧ next.effort < loop.effort
    | .returned _ => False
    | .raised _ last => last.Owned := by
  have owned := shares.toOwned.answered pending result
  have leave := @Shares.leave _ _ _ _ _ _ shares top result asked
  have parts := result.accepted_append_rejected asked
  have lengths := parts.length_eq
  rw [length_append] at lengths
  unfold Retrying.answer
  dsimp only
  split_ifs with missing done refused all wide
  · exact owned
  · exact owned
  · refine ⟨leave [] (by rw [done]; exact .nil) rfl rfl rfl, ?_⟩
    simp only [effort, top, map_cons, sum_cons]
    omega
  · refine ⟨leave [_, _] ?_ rfl rfl rfl, ?_⟩
    · have none_accepted : result.accepted pending = [] := length_eq_zero_iff.mp (by omega)
      rw [none_accepted] at parts
      rw [flatten_cons, flatten_singleton]
      exact (perm_append_comm.trans (.of_eq (take_append_drop _ _))).trans parts.symm
    · simp only [effort, top, map_cons, sum_cons, length_drop, length_take]
      omega
  · exact owned
  · refine ⟨leave [_] (.of_eq flatten_singleton) rfl rfl rfl, ?_⟩
    simp only [effort, top, map_cons, sum_cons]
    omega
  · refine ⟨leave [_] (.of_eq flatten_singleton) rfl rfl rfl, ?_⟩
    have some_rejected := length_pos_iff.mpr done
    simp only [effort, top, map_cons, sum_cons]
    omega

end Answer

end Retrying

/-- What `_submit_retry` leaves for `count` requests, once it has ended. -/
def SubmitRetry.Exact (count : Nat) (outcome : SubmitRetry Request) : Prop :=
  match outcome with
  | .going _ => False
  | .returned last =>
      (last.handles.flatMap SubmittedHandle.batchIndices).Perm (range count) ∧
        (last.calls.flatMap Prod.snd).Perm (range count)
  | .raised _ last =>
      outcome.deferred.flatten.map SubmittedHandle.handle = last.calls.filterMap Prod.fst ∧
        outcome.deferred.flatten.flatMap SubmittedHandle.batchIndices =
          last.calls.flatMap Prod.snd

theorem Retrying.Owned.deferred (owned : loop.Owned) {count : Nat} (failure : SubmitFailure) :
    (SubmitRetry.raised failure loop).Exact count := by
  have all : (SubmitRetry.raised failure loop).deferred.flatten = loop.handles := by
    rw [SubmitRetry.deferred]
    split_ifs with empty
    · exact (List.isEmpty_iff.mp empty).symm
    · exact flatten_singleton
  exact ⟨all ▸ owned.tickets, all ▸ owned.drained⟩

theorem Retrying.Shares.run (submit : SubmitPort Request) {count : Nat} (fuel : Nat)
    (shares : Shares count loop) (enough : loop.effort < fuel) :
    (loop.run submit fuel).Exact count := by
  induction fuel generalizing loop with
  | zero => exact absurd enough (Nat.not_lt_zero _)
  | succ fuel ih =>
      unfold Retrying.run
      split
      · rename_i finished
        have shared := shares.shared
        rw [finished, flatten_nil, map_nil, append_nil] at shared
        exact ⟨shares.drained ▸ shared, shared⟩
      rename_i pending below top
      split
      · exact shares.deferred _
      rename_i result _
      have passed := shares.answer top result (length_map _)
      revert passed
      cases loop.answer pending below result with
      | going next =>
          rintro ⟨shares, less⟩
          exact ih shares (less.trans_le (Nat.le_of_lt_succ enough))
      | returned last => exact False.elim
      | raised failure last => exact fun owned => owned.deferred failure

theorem flatten_presplit (widthLimit : Nat) (indexed : Segment Request) :
    (presplit widthLimit indexed).flatten = indexed := by
  unfold presplit
  split_ifs with wide
  · have prefixes : ∀ count, ((range count).map fun segment =>
        (indexed.drop (segment * widthLimit)).take widthLimit).flatten =
          indexed.take (count * widthLimit) := by
      intro count
      induction count with
      | zero => simp
      | succ count ih =>
          rw [range_succ, map_append, flatten_append, ih, map_singleton,
            flatten_singleton, Nat.succ_mul, take_add]
    have division := Nat.lt_div_mul_add (a := indexed.length + widthLimit - 1)
      (Nat.pos_of_ne_zero wide.1)
    rw [prefixes, take_of_length_le (by omega)]
  · exact flatten_singleton

/-- Whatever the runtime accepts and rejects, `_submit_retry` ends, returns handles that have
every request once, or leaves every ticket to the deferred completion. -/
theorem submitRetry_exact (submit : SubmitPort Request) (widthLimit : Nat)
    (requests : List Request) :
    (submitRetry submit widthLimit requests).Exact requests.length := by
  refine Retrying.Shares.run submit _ ⟨⟨rfl, rfl⟩, ?_⟩ (Nat.lt_succ_self _)
  rw [flatten_presplit, map_map]
  exact .of_eq ((zipIdx_map_snd 0 requests).trans range_eq_range'.symm)

end Tutti.Nvme
