import Tutti.Runtime.RuntimeRuns

/-!
# Failure attribution

An IO may have sub-operations on several DataPaths. When it ends FAILED with the scope
`REQUEST_INDICES`, a caller treats every request that is not listed as done. That is
right if each sub-operation with an unlisted request is terminal and did not report
that request as failed (`Attributed`).

The merge of `refresh_component_io_` does not always get there. A synchronous IO ends
with its first failure, while other sub-operations are in flight; a query that fails
after a failure leaves no trace in the detail; a failure without a scope is not joined
to one with request indices; and a failure whose status is OK is overwritten by the
next one. Without these (`Clear`) every IO ends with an attribution
(`attributes_of_clear`); `inFlight_taken_as_done` is the first of them.
-/

namespace Tutti

open Foundation List StorageRuntime

/-- The request indices of a sub-operation and what it was observed to report. -/
abbrev Observation := List Nat × Except Status DataPathSnapshot

namespace Observation

/-- The failure that a sub-operation reports, in the runtime's indices. -/
def failure (observed : Observation) : Option IoCompletionDetail :=
  match observed.2 with
  | .error _ => none
  | .ok snapshot =>
    if snapshot.state = .failed then some (translateDetail observed.1 snapshot.detail) else none

/-- The sub-operation is terminal. -/
def Terminal (observed : Observation) : Prop :=
  ∃ snapshot, observed.2 = .ok snapshot ∧ snapshot.state ≠ .inFlight

/-- The sub-operation is terminal, and has not failed for this request. A failure that is
not attributed to requests is one for all of them. -/
def Clears (observed : Observation) (index : Nat) : Prop :=
  observed.Terminal ∧ ∀ detail, observed.failure = some detail →
    detail.failureScope = .requestIndices ∧ index ∉ detail.failedRequestIndices

/-- The sub-operation reports failed requests by their indices. -/
def byRequest (observed : Observation) : Bool :=
  observed.failure.any fun detail => detail.failureScope == .requestIndices

/-- The merge can attribute this report: it is terminal (an asynchronous IO waits until
it is), and a failure has a status and a scope. -/
def attributable (asyncIo : Bool) (observed : Observation) : Bool :=
  match observed.2 with
  | .error _ => asyncIo
  | .ok snapshot =>
    match snapshot.state with
    | .inFlight => asyncIo
    | .completed => true
    | .failed =>
      snapshot.status.isSome &&
        (translateDetail observed.1 snapshot.detail).failureScope != .none

end Observation

/-- If a sub-operation reports failed requests by their indices, then all of them report
what the merge can attribute. -/
def Clear (asyncIo : Bool) (observed : List Observation) : Prop :=
  observed.any Observation.byRequest = true → observed.all (Observation.attributable asyncIo) = true
  deriving Decidable

/-! ## The merge -/

theorem mem_insertIndices {index : Nat} {known indices : List Nat} :
    index ∈ insertIndices known indices ↔ index ∈ known ∨ index ∈ indices := by
  unfold insertIndices
  induction indices generalizing known with
  | nil => simp
  | cons head indices ih =>
    rw [foldl_cons, ih, mem_cons]
    split
    · rename_i listed
      constructor
      · rintro (here | later)
        · exact .inl here
        · exact .inr (.inr later)
      · rintro (here | rfl | later)
        · exact .inl here
        · exact .inl listed
        · exact .inr later
    · rw [mem_append, mem_singleton, or_assoc]

/-- What two joined details need to stay attributed to requests. -/
theorem joinDetail_scoped {known further : IoCompletionDetail}
    (byRequest : (joinDetail known further).failureScope = .requestIndices) :
    known.failureScope ≠ .wholeOperation ∧
      ((further.failureScope = .requestIndices ∧
          (joinDetail known further).failedRequestIndices =
            insertIndices known.failedRequestIndices further.failedRequestIndices) ∨
        (further.failureScope = .none ∧ known.failureScope = .requestIndices ∧
          (joinDetail known further).failedRequestIndices = known.failedRequestIndices)) := by
  revert byRequest
  unfold joinDetail
  split
  · exact nofun
  rename_i partly
  obtain ⟨knownScope, furtherScope⟩ := not_or.mp partly
  split
  · rename_i both
    exact fun _ => ⟨knownScope, .inl ⟨both, rfl⟩⟩
  rename_i other
  intro byRequest
  refine ⟨knownScope, .inr ⟨?_, byRequest, rfl⟩⟩
  cases scope : further.failureScope with
  | none => rfl
  | requestIndices => exact absurd scope other
  | wholeOperation => exact absurd scope furtherScope

/-- Joining a failure that has a scope leaves one. -/
theorem joinDetail_scope_ne_none {known further : IoCompletionDetail}
    (scope : further.failureScope ≠ .none) : (joinDetail known further).failureScope ≠ .none := by
  unfold joinDetail
  split
  · exact nofun
  rename_i partly
  split
  · exact nofun
  rename_i other
  cases found : further.failureScope with
  | none => exact absurd found scope
  | requestIndices => exact absurd found other
  | wholeOperation => exact absurd (.inr found) partly

/-- The merge after the observations `seen`. -/
structure Gathered (asyncIo : Bool) (seen : List Observation) (merge : Merge) : Prop where
  terminal : merge.allTerminal = true → ∀ observed ∈ seen,
    observed.Terminal ∨ (asyncIo = false ∧ merge.failed = true)
  sound : merge.failed = false → ∀ observed ∈ seen, observed.failure = none
  byRequest : merge.completionDetail.failureScope = .requestIndices →
    seen.any Observation.byRequest = true
  /-- While every report is attributable, a scope covers all failures so far. -/
  attributed : seen.all (Observation.attributable asyncIo) = true →
    (merge.firstFailure = none → ∀ observed ∈ seen, observed.failure = none) ∧
    (merge.completionDetail.failureScope = .none → ∀ observed ∈ seen, observed.failure = none) ∧
    (merge.completionDetail.failureScope = .requestIndices → ∀ observed ∈ seen, ∀ detail,
      observed.failure = some detail → detail.failureScope = .requestIndices ∧
        detail.failedRequestIndices ⊆ merge.completionDetail.failedRequestIndices)

namespace Gathered

variable {asyncIo : Bool} {seen : List Observation} {merge : Merge}

section

variable (gathered : Gathered asyncIo seen merge)
include gathered

/-- An observation that reports no failure and leaves the detail alone. -/
theorem pass {observed : Observation} (silent : observed.failure = none) (ended : Bool)
    (terminal : ended = true → merge.allTerminal = true ∧ observed.Terminal) :
    Gathered asyncIo (seen ++ [observed]) { merge with allTerminal := ended } := by
  have all : ∀ {claim : Observation → Prop}, (∀ other ∈ seen, claim other) → claim observed →
      ∀ other ∈ seen ++ [observed], claim other := fun before new =>
    forall_mem_append.mpr ⟨before, forall_mem_singleton.mpr new⟩
  refine ⟨?_, ?_, ?_, ?_⟩
  · intro ended
    obtain ⟨before, new⟩ := terminal ended
    exact all (gathered.terminal before) (.inl new)
  · intro unfailed
    exact all (gathered.sound unfailed) silent
  · intro scope
    rw [any_append, gathered.byRequest scope, Bool.true_or]
  intro attributable
  rw [all_append] at attributable
  obtain ⟨none, unscoped, covered⟩ := gathered.attributed (Bool.and_eq_true_iff.mp attributable).1
  refine ⟨fun first => all (none first) silent, fun scope => all (unscoped scope) silent, ?_⟩
  intro scope
  refine all (covered scope) ?_
  intro detail reported
  exact absurd (silent.symm.trans reported) (by exact nofun)

omit gathered in
/-- A failed query of a synchronous IO. -/
theorem queryError (gathered : Gathered false seen merge) (indices : List Nat) (status : Status) :
    Gathered false (seen ++ [(indices, .error status)]) (merge.queryError false status) := by
  have detail : (merge.queryError false status).completionDetail.failureScope =
      .requestIndices → merge.completionDetail.failureScope = .requestIndices := by
    unfold Merge.queryError
    simp only [Bool.false_eq_true, ↓reduceIte]
    split
    · exact nofun
    · exact id
  have failed : (merge.queryError false status).failed = true := by
    unfold Merge.queryError
    simp only [Bool.false_eq_true, ↓reduceIte]
    split
    · rfl
    · rfl
  refine ⟨fun _ _ _ => .inr ⟨rfl, failed⟩, ?_, ?_, ?_⟩
  · intro unfailed
    exact absurd (failed.symm.trans unfailed) Bool.noConfusion
  · intro scope
    rw [any_append, gathered.byRequest (detail scope), Bool.true_or]
  intro attributable
  rw [all_append] at attributable
  exact absurd (Bool.and_eq_true_iff.mp attributable).2 Bool.noConfusion

/-- A failed sub-operation. -/
theorem failure (indices : List Nat) {snapshot : DataPathSnapshot}
    (state : snapshot.state = .failed) :
    Gathered asyncIo (seen ++ [(indices, .ok snapshot)])
      (merge.failure snapshot.status (translateDetail indices snapshot.detail)) := by
  have reported : Observation.failure (indices, .ok snapshot) =
      some (translateDetail indices snapshot.detail) := if_pos state
  have detailed : Observation.attributable asyncIo (indices, .ok snapshot) = true →
      snapshot.status.isSome = true ∧
        (translateDetail indices snapshot.detail).failureScope ≠ .none := by
    intro attributable
    simpa [Observation.attributable, state] using attributable
  have terminal : Observation.Terminal (indices, .ok snapshot) :=
    ⟨snapshot, rfl, by rw [state]; exact nofun⟩
  generalize translateDetail indices snapshot.detail = further at reported detailed ⊢
  obtain ⟨failed, ended⟩ : (merge.failure snapshot.status further).failed = true ∧
      (merge.failure snapshot.status further).allTerminal = merge.allTerminal := by
    unfold Merge.failure
    split
    · exact ⟨rfl, rfl⟩
    · exact ⟨rfl, rfl⟩
  have last : ∀ detail, Observation.failure (indices, .ok snapshot) = some detail →
      further = detail := fun detail found => Option.some.inj (reported.symm.trans found)
  refine ⟨?_, ?_, ?_, ?_⟩
  · intro all
    rw [ended] at all
    refine forall_mem_append.mpr ⟨fun observed earlier => ?_,
      forall_mem_singleton.mpr (.inl terminal)⟩
    rcases gathered.terminal all observed earlier with terminal | ⟨sync, _⟩
    · exact .inl terminal
    · exact .inr ⟨sync, failed⟩
  · intro unfailed
    exact absurd (failed.symm.trans unfailed) Bool.noConfusion
  · intro scope
    rw [any_append, Bool.or_eq_true_iff]
    by_cases here : further.failureScope = .requestIndices
    · right
      simp [Observation.byRequest, reported, here]
    left
    refine gathered.byRequest ?_
    unfold Merge.failure at scope
    split at scope
    · exact absurd scope here
    rcases (joinDetail_scoped scope).2 with ⟨further, _⟩ | ⟨_, known, _⟩
    · exact absurd further here
    · exact known
  · intro attributable
    rw [all_append] at attributable
    obtain ⟨before, new⟩ := Bool.and_eq_true_iff.mp attributable
    obtain ⟨none, unscoped, covered⟩ := gathered.attributed before
    have new := detailed (all_eq_true.mp new _ (.head _))
    unfold Merge.failure
    split
    · -- the first failure: nothing failed before it
      rename_i first
      have silent := none (Option.isNone_iff_eq_none.mp first)
      refine ⟨?_, fun scope => absurd scope new.2, fun scope => forall_mem_append.mpr
        ⟨?_, forall_mem_singleton.mpr ?_⟩⟩
      · intro missing
        have status : snapshot.status = Option.none := missing
        rw [status] at new
        exact absurd new.1 Bool.noConfusion
      · intro observed earlier detail found
        rw [silent observed earlier] at found
        cases found
      · intro detail found
        rw [← last detail found]
        exact ⟨scope, List.Subset.refl _⟩
    · rename_i later
      refine ⟨?_, fun scope => absurd scope (joinDetail_scope_ne_none new.2), ?_⟩
      · intro missing
        exact absurd (Option.isNone_iff_eq_none.mpr missing) later
      intro scope
      obtain ⟨knownScope, joined⟩ := joinDetail_scoped scope
      rcases joined with ⟨furtherScope, indicesEq⟩ | ⟨furtherScope, _⟩
      · rw [indicesEq]
        refine forall_mem_append.mpr ⟨?_, forall_mem_singleton.mpr ?_⟩
        · intro observed earlier detail found
          have known : merge.completionDetail.failureScope = .requestIndices := by
            cases scopeEq : merge.completionDetail.failureScope with
            | requestIndices => rfl
            | wholeOperation => exact absurd scopeEq knownScope
            | none =>
              rw [unscoped scopeEq observed earlier] at found
              cases found
          obtain ⟨byRequest, listed⟩ := covered known observed earlier detail found
          exact ⟨byRequest, fun index member => mem_insertIndices.mpr (.inl (listed member))⟩
        · intro detail found
          rw [← last detail found]
          exact ⟨furtherScope, fun index member => mem_insertIndices.mpr (.inr member)⟩
      · exact absurd furtherScope new.2

theorem observe (observed : Observation) :
    Gathered asyncIo (seen ++ [observed]) (merge.observe asyncIo observed) := by
  obtain ⟨indices, result⟩ := observed
  cases result with
  | error status =>
    cases asyncIo with
    | false => exact gathered.queryError indices status
    | true => exact { gathered.pass rfl false nofun with }
  | ok snapshot =>
    cases state : snapshot.state with
    | inFlight =>
      have silent : Observation.failure (indices, .ok snapshot) = none :=
        if_neg (by rw [state]; exact nofun)
      simp only [Merge.observe, state]
      exact gathered.pass silent false nofun
    | completed =>
      have silent : Observation.failure (indices, .ok snapshot) = none :=
        if_neg (by rw [state]; exact nofun)
      have terminal : Observation.Terminal (indices, .ok snapshot) :=
        ⟨snapshot, rfl, by rw [state]; exact nofun⟩
      simp only [Merge.observe, state]
      exact { gathered.pass silent merge.allTerminal fun ended => ⟨ended, terminal⟩ with }
    | failed =>
      simp only [Merge.observe, state]
      have confirmed : Gathered asyncIo seen (merge.confirm snapshot) := { gathered with }
      exact confirmed.failure indices state

theorem foldl (observed : List Observation) :
    Gathered asyncIo (seen ++ observed) (observed.foldl (Merge.observe asyncIo) merge) := by
  induction observed generalizing seen merge with
  | nil => simpa using gathered
  | cons first observed ih =>
    have next := ih (gathered.observe first)
    simpa using next

end

end Gathered

/-! ## One refresh -/

/-- What the sub-operations of an entry report to a refresh. -/
def IoEntry.observations (entry : IoEntry) (answers : HarvestAnswers) : List Observation :=
  entry.dataPathOperations.map fun operation =>
    (operation.requestIndices, operation.observation answers)

theorem gathered_merge (async : DataPathId → Bool) (answers : HarvestAnswers) (entry : IoEntry) :
    Gathered (entry.asyncIo async) (entry.observations answers) (entry.merge async answers) := by
  have initial : Gathered (entry.asyncIo async) []
      { failed := entry.asyncObservationError.isSome
        firstFailure := entry.asyncObservationError
        asyncObservationError := entry.asyncObservationError } :=
    { terminal := fun _ _ member => nomatch member
      sound := fun _ _ member => nomatch member
      byRequest := nofun
      attributed := fun _ =>
        ⟨fun _ _ member => (nomatch member), fun _ _ member => (nomatch member), nofun⟩ }
  exact initial.foldl (entry.observations answers)

variable {async : DataPathId → Bool} {answers : HarvestAnswers} {entry : IoEntry}

/-- A refresh ends an IO with what its sub-operations amount to, when all of them are
terminal or, for a synchronous IO, when something failed. -/
theorem refreshComponentIo_finished {result : IoResult}
    (finished : (refreshComponentIo async answers entry).finished = some result) :
    result = (entry.merge async answers).result ∧
      ((entry.merge async answers).allTerminal = true ∨
        entry.asyncIo async = false ∧ (entry.merge async answers).failed = true) := by
  unfold refreshComponentIo at finished
  split at finished
  · cases finished
  dsimp only at finished
  split at finished
  · cases finished
  rename_i ends
  generalize entry.merge async answers = merged at *
  have ended : merged.allTerminal = true ∨
      entry.asyncIo async = false ∧ merged.failed = true := by
    revert ends
    cases merged.allTerminal <;> cases entry.asyncIo async <;> cases merged.failed <;> simp
  split at finished
  · split at finished
    · cases finished
    · exact ⟨(Option.some.inj finished).symm, ended⟩
  · exact ⟨(Option.some.inj finished).symm, ended⟩

/-- An IO that ends with request indices attributes every accepted request, and one that
ends COMPLETED has only completed sub-operations. -/
structure Attributed (accepted : List (IoRequest × Nat)) (observed : List Observation)
    (ended : IoEntry) : Prop where
  unlisted : ended.completionDetail.failureScope = .requestIndices →
    ∀ request ∈ accepted, request.2 ∉ ended.completionDetail.failedRequestIndices →
      (∃ report ∈ observed, request.2 ∈ report.1) ∧
        ∀ report ∈ observed, request.2 ∈ report.1 → report.Clears request.2
  completed : ended.state = .completed → ∀ report ∈ observed,
    ∃ snapshot, report.2 = .ok snapshot ∧ snapshot.state = .completed

/-- The stored detail is request-scoped only if the merged one is. -/
theorem finishDetail_scoped {merge : Merge}
    (byRequest : (finishDetail merge.result).failureScope = .requestIndices) :
    merge.completionDetail.failureScope = .requestIndices ∧
      (finishDetail merge.result).failedRequestIndices =
        merge.completionDetail.failedRequestIndices := by
  revert byRequest
  unfold finishDetail
  split
  · exact nofun
  unfold Merge.result Merge.finalDetail
  dsimp only
  split
  · exact nofun
  · exact fun byRequest => ⟨byRequest, rfl⟩

theorem attributed_of_finished {result : IoResult} {accepted : List (IoRequest × Nat)}
    (clear : Clear (entry.asyncIo async) (entry.observations answers))
    (recorded : ∀ request ∈ accepted, ∃ operation ∈ entry.dataPathOperations,
      request.2 ∈ operation.requestIndices)
    (finished : (refreshComponentIo async answers entry).finished = some result)
    (operations : List DataPathOperation) (error : AnyStatus) :
    Attributed accepted (entry.observations answers)
      ((entry.revised operations error).ended result) := by
  have gathered := gathered_merge async answers entry
  obtain ⟨rfl, ends⟩ := refreshComponentIo_finished finished
  refine ⟨?_, ?_⟩
  · intro byRequest request member unlisted
    obtain ⟨scope, indices⟩ := finishDetail_scoped byRequest
    have attributable := clear (gathered.byRequest scope)
    obtain ⟨_, _, covered⟩ := gathered.attributed attributable
    refine ⟨?_, ?_⟩
    · obtain ⟨operation, held, named⟩ := recorded request member
      exact ⟨_, mem_map.mpr ⟨operation, held, rfl⟩, named⟩
    intro report reported named
    have terminal : report.Terminal := by
      cases asyncIo : entry.asyncIo async with
      | true =>
        rcases ends with all | ⟨sync, _⟩
        · rcases gathered.terminal all report reported with terminal | ⟨sync, _⟩
          · exact terminal
          · exact absurd (asyncIo.symm.trans sync) Bool.noConfusion
        · exact absurd (asyncIo.symm.trans sync) Bool.noConfusion
      | false =>
        have fine := all_eq_true.mp attributable report reported
        rw [asyncIo] at fine
        unfold Observation.attributable at fine
        split at fine
        · exact absurd fine Bool.noConfusion
        rename_i snapshot ok
        refine ⟨snapshot, ok, fun flying => ?_⟩
        rw [flying] at fine
        exact absurd fine Bool.noConfusion
    refine ⟨terminal, fun detail failure => ?_⟩
    obtain ⟨detailScope, listed⟩ := covered scope report reported detail failure
    refine ⟨detailScope, fun blamed => unlisted ?_⟩
    have stored := listed blamed
    rw [← indices] at stored
    exact stored
  · intro completed report reported
    have unfailed : (entry.merge async answers).failed = false := by
      by_contra failed
      have state : (entry.merge async answers).result.state = .failed :=
        if_pos (Bool.eq_true_of_not_eq_false failed)
      exact absurd (state.symm.trans completed) (by exact nofun)
    have all : (entry.merge async answers).allTerminal = true := by
      rcases ends with all | ⟨_, failed⟩
      · exact all
      · exact nomatch unfailed.symm.trans failed
    have silent := gathered.sound unfailed report reported
    rcases gathered.terminal all report reported with ⟨snapshot, ok, terminal⟩ | ⟨_, failed⟩
    · refine ⟨snapshot, ok, ?_⟩
      cases state : snapshot.state with
      | inFlight => exact absurd state terminal
      | completed => rfl
      | failed =>
        unfold Observation.failure at silent
        rw [ok] at silent
        simp only [state] at silent
        cases silent
    · exact nomatch unfailed.symm.trans failed

/-! ## Runs -/

/-- Every accepted request of an IO in flight belongs to one of its operations. -/
def Recorded (accepted : Nat → List (IoRequest × Nat)) (entries : List IoEntry) : Prop :=
  ∀ (slot : Nat) (entry : IoEntry), entries[slot]? = some entry → entry.live = true →
    ∀ request ∈ accepted slot, ∃ operation ∈ entry.dataPathOperations,
      request.2 ∈ operation.requestIndices

theorem releaseAsync_indices (answers : HarvestAnswers) (operations : List DataPathOperation) :
    (releaseAsync answers operations).1.map DataPathOperation.requestIndices =
      operations.map DataPathOperation.requestIndices := by
  induction operations with
  | nil => rfl
  | cons operation operations ih =>
    unfold releaseAsync
    split
    · rw [map_cons, map_cons, ih]
    dsimp only
    split
    · rfl
    split
    · rfl
    · rw [map_cons, map_cons, ih]

/-- A refresh that does not end the IO keeps the requests of each operation. -/
theorem refreshComponentIo_indices
    (going : (refreshComponentIo async answers entry).finished = none) :
    (refreshComponentIo async answers entry).entry.live = entry.live ∧
      (refreshComponentIo async answers entry).entry.dataPathOperations.map
          DataPathOperation.requestIndices =
        entry.dataPathOperations.map DataPathOperation.requestIndices := by
  revert going
  unfold refreshComponentIo
  split
  · exact fun _ => ⟨rfl, rfl⟩
  dsimp only
  split
  · exact fun _ => ⟨rfl, rfl⟩
  split
  · have indices := releaseAsync_indices answers entry.dataPathOperations
    split
    · rename_i released
      rw [released] at indices
      exact fun _ => ⟨rfl, indices⟩
    · exact nofun
  · exact nofun

variable {runtime : StorageRuntime}

namespace Recorded

variable {accepted : Nat → List (IoRequest × Nat)} {entries : List IoEntry}

theorem set (recorded : Recorded accepted entries) {slot : Nat} {old : IoEntry}
    (found : entries[slot]? = some old) (kept : entry.live = true → old.live = true ∧
      entry.dataPathOperations.map DataPathOperation.requestIndices =
        old.dataPathOperations.map DataPathOperation.requestIndices) :
    Recorded accepted (entries.set slot entry) := by
  intro query reached at_ live request member
  rw [getElem?_set_found found] at at_
  split at at_
  · rename_i here
    cases at_
    obtain ⟨oldLive, indices⟩ := kept live
    obtain ⟨operation, held, named⟩ := recorded slot old found oldLive request (here ▸ member)
    have listed : operation.requestIndices ∈
        entry.dataPathOperations.map DataPathOperation.requestIndices := by
      rw [indices]
      exact mem_map.mpr ⟨operation, held, rfl⟩
    obtain ⟨other, present, same⟩ := mem_map.mp listed
    exact ⟨other, present, same ▸ named⟩
  · exact recorded query reached at_ live request member

/-- An entry that is no longer in flight has nothing to record. -/
theorem retire (recorded : Recorded accepted entries) {slot : Nat} {old : IoEntry}
    (found : entries[slot]? = some old) (stopped : entry.live = false) :
    Recorded accepted (entries.set slot entry) :=
  recorded.set found fun live => nomatch stopped.symm.trans live

theorem ended_live (entry : IoEntry) (result : IoResult) : (entry.ended result).live = false :=
  Bool.and_false _

theorem harvestStep (recorded : Recorded accepted runtime.ioEntries) (answers : HarvestAnswers)
    (turn : HarvestStep) :
    Recorded accepted (StorageRuntime.harvestStep answers runtime turn).1.ioEntries := by
  cases turn with
  | fail error slot =>
    show Recorded accepted (failSlot error runtime slot).ioEntries
    rcases failSlot_ioEntries error runtime slot with
      same | ⟨entry, found, _, _, ⟨_, noted, revised⟩ | ⟨_, ended⟩⟩
    · rw [same]
      exact recorded
    · rw [revised]
      exact recorded.set found fun live => ⟨live, rfl⟩
    · rw [ended]
      exact recorded.retire found (ended_live _ _)
  | refresh slot =>
    show Recorded accepted (refreshSlot answers runtime slot).1.ioEntries
    cases found : runtime.ioEntries[slot]? with
    | none =>
      unfold refreshSlot
      rw [found]
      exact recorded
    | some entry =>
      rcases refreshSlot_ioEntries answers found with
        ⟨going, revised⟩ | ⟨result, operations, error, _, _, _, ended⟩
      · rw [revised]
        obtain ⟨live, indices⟩ := refreshComponentIo_indices going
        exact recorded.set found fun running => ⟨live.symm.trans running, indices⟩
      · rw [ended]
        exact recorded.retire found (ended_live _ _)

theorem step {books : Books} (recorded : Recorded books.accepted books.runtime.ioEntries)
    (op : RuntimeOp) :
    Recorded (books.step op).accepted (books.step op).runtime.ioEntries := by
  cases quiet : op.quiet with
  | true =>
    have accepted : (books.step op).accepted = books.accepted := by
      cases op <;> first | rfl | cases quiet
    rw [books.step_runtime, quiet_ioEntries _ quiet, accepted]
    exact recorded
  | false =>
    cases op with
    | submit requests context answers =>
      show Recorded (books.recorded requests
        (books.runtime.submit requests context answers).value)
        (books.runtime.submit requests context answers).runtime.ioEntries
      rcases submit_cases books.runtime requests context answers with
        ⟨refused, ⟨entries, runtimeEq, _⟩⟩ | ⟨_, _, _, spec⟩
      · rw [runtimeEq, Books.recorded, refused]
        exact recorded
      generalize books.runtime.submit requests context answers = reply at spec ⊢
      obtain ⟨_, _, error, after⟩ := spec.after
      generalize (groupCandidates
        (books.runtime.plan requests context answers).candidates).flatMap
        (keptOps books.runtime.components.asyncCompletion answers.group) = operations
        at spec after
      rw [after]
      intro slot entry found live request member
      rw [getElem?_placeAt (findFreeSlot_le _)] at found
      have io := spec.io
      split at found
      · rename_i here
        cases found
        have kept : operations.isEmpty = false := by
          have active := (Bool.and_eq_true_iff.mp live).1
          simpa [issuedEntry] using active
        rw [kept] at io
        rw [Books.recorded, io, here] at member
        simp only [Bool.false_eq_true, ↓reduceIte, Function.update_self] at member
        exact spec.accepted request.2 (mem_filter.mp member).2
      · rename_i elsewhere
        have other : books.recorded requests reply.value slot = books.accepted slot := by
          cases empty : operations.isEmpty with
          | true => simp [Books.recorded, io, empty]
          | false =>
            simp only [Books.recorded, io, empty, Bool.false_eq_true]
            exact Function.update_of_ne elsewhere _ _
        rw [other] at member
        exact recorded slot entry found live request member
    | harvest errors answers =>
      exact @harvest_steps
        (fun runtime => Recorded books.accepted runtime.ioEntries) answers
        (fun _ turn holds => Recorded.harvestStep holds answers turn) books.runtime recorded
        errors
    | releaseIo handle answer =>
      show Recorded books.accepted (books.runtime.releaseIo handle answer).runtime.ioEntries
      rcases releaseIo_ioEntries books.runtime handle answer with
        same | ⟨entry, found, _, freed⟩
      · rw [same]
        exact recorded
      · rw [freed]
        exact recorded.retire found (Bool.false_and _)
    | _ => cases quiet

end Recorded

/-! ## Attribution along runs -/

/-- The reports that a refresh meets can be attributed. -/
def ClearTurn (answers : HarvestAnswers) (runtime : StorageRuntime) : HarvestStep → Prop
  | .fail _ _ => True
  | .refresh slot => ∀ entry ∈ runtime.ioEntries[slot]?, entry.terminal = false →
      Clear (entry.asyncIo runtime.components.asyncCompletion) (entry.observations answers)

/-- Every IO that a turn ends is attributed. -/
def AttributesTurn (accepted : Nat → List (IoRequest × Nat)) (answers : HarvestAnswers)
    (runtime : StorageRuntime) (turn : HarvestStep) : Prop :=
  ∀ (slot : Nat) (entry ended : IoEntry), runtime.ioEntries[slot]? = some entry →
    entry.terminal = false →
    (harvestStep answers runtime turn).1.ioEntries[slot]? = some ended → ended.terminal = true →
      Attributed (accepted slot) (entry.observations answers) ended

/-- The condition on a run: each refresh meets reports that can be attributed. -/
def Books.Clear (books : Books) : RuntimeOp → Prop
  | .harvest errors answers =>
    Along (fun runtime turn => (harvestStep answers runtime turn).1) (ClearTurn answers)
      books.runtime (harvestSteps errors books.runtime.ioEntries.length)
  | _ => True

/-- The property of a run: IO ends only in a harvest, and then with an attribution. -/
def Books.Attributes (books : Books) : RuntimeOp → Prop
  | .harvest errors answers =>
    Along (fun runtime turn => (harvestStep answers runtime turn).1)
      (AttributesTurn books.accepted answers) books.runtime
      (harvestSteps errors books.runtime.ioEntries.length)
  | op => ∀ (slot : Nat) (entry ended : IoEntry), books.runtime.ioEntries[slot]? = some entry →
      entry.terminal = false → (books.step op).runtime.ioEntries[slot]? = some ended →
        ended.terminal = false

theorem attributesTurn_of_clear {accepted : Nat → List (IoRequest × Nat)} {turn : HarvestStep}
    (idle : Idle runtime.ioEntries) (recorded : Recorded accepted runtime.ioEntries)
    (clear : ClearTurn answers runtime turn) :
    AttributesTurn accepted answers runtime turn := by
  intro slot entry ended found running reached terminal
  have changed : ended ≠ entry := by
    rintro rfl
    exact nomatch running.symm.trans terminal
  cases turn with
  | fail error other =>
    have reached : (failSlot error runtime other).ioEntries[slot]? = some ended := reached
    rcases failSlot_ioEntries error runtime other with
      same | ⟨old, at_, _, _, ⟨_, noted, revised⟩ | ⟨_, finished⟩⟩
    · rw [same, found] at reached
      exact absurd (Option.some.inj reached).symm changed
    · rw [revised] at reached
      rcases getElem?_set_cases at_ found reached with ⟨_, rfl, rfl⟩ | same
      · exact nomatch running.symm.trans terminal
      · exact absurd same changed
    · rw [finished] at reached
      rcases getElem?_set_cases at_ found reached with ⟨_, rfl, rfl⟩ | same
      · -- the IO fails as a whole
        exact ⟨nofun, nofun⟩
      · exact absurd same changed
  | refresh other =>
    have reached : (refreshSlot answers runtime other).1.ioEntries[slot]? = some ended := reached
    cases at_ : runtime.ioEntries[other]? with
    | none =>
      unfold refreshSlot at reached
      rw [at_] at reached
      exact absurd (Option.some.inj (reached.symm.trans found)) changed
    | some old =>
      rcases refreshSlot_ioEntries answers at_ with
        ⟨going, revised⟩ | ⟨result, operations, error, finished, _, pending, ends⟩
      · rw [revised] at reached
        rcases getElem?_set_cases at_ found reached with ⟨_, rfl, rfl⟩ | same
        · obtain ⟨_, _, entryEq, _⟩ := refreshComponentIo_entry
            runtime.components.asyncCompletion answers entry
          rw [entryEq] at terminal
          exact nomatch running.symm.trans terminal
        · exact absurd same changed
      · rw [ends] at reached
        rcases getElem?_set_cases at_ found reached with ⟨rfl, rfl, rfl⟩ | same
        · have live : entry.live = true := by
            rw [IoEntry.live, idle.active at_ pending, running, Bool.not_false, Bool.and_self]
          exact attributed_of_finished (clear entry at_ running) (recorded slot entry at_ live)
            finished operations error
        · exact absurd same changed

/-- Nothing but a harvest ends an IO. -/
theorem attributes_of_not_harvest (books : Books) {op : RuntimeOp}
    (other : ∀ errors answers, op ≠ .harvest errors answers) : books.Attributes op := by
  have ends : ∀ (slot : Nat) (entry ended : IoEntry),
      books.runtime.ioEntries[slot]? = some entry → entry.terminal = false →
      (books.step op).runtime.ioEntries[slot]? = some ended → ended.terminal = false := by
    intro slot entry ended found running reached
    rw [books.step_runtime] at reached
    cases quiet : op.quiet with
    | true =>
      rw [quiet_ioEntries _ quiet, found] at reached
      cases reached
      exact running
    | false =>
      cases op with
      | submit requests context answers =>
        have reached : (books.runtime.submit requests context answers).runtime.ioEntries[slot]? =
            some ended := reached
        rcases submit_ioEntries books.runtime requests context answers with
          same | ⟨groups, operations, error, placed⟩
        · rw [same, found] at reached
          cases reached
          exact running
        rw [placed, getElem?_placeAt (findFreeSlot_le _)] at reached
        split at reached
        · cases reached
          rfl
        rw [found] at reached
        cases reached
        exact running
      | harvest errors answers => exact absurd rfl (other errors answers)
      | releaseIo handle answer =>
        have reached : (books.runtime.releaseIo handle answer).runtime.ioEntries[slot]? =
            some ended := reached
        rcases releaseIo_ioEntries books.runtime handle answer with
          same | ⟨old, at_, terminal, freed⟩
        · rw [same, found] at reached
          cases reached
          exact running
        · rw [freed] at reached
          rcases getElem?_set_cases at_ found reached with ⟨_, rfl, _⟩ | rfl
          · exact nomatch running.symm.trans terminal
          · exact running
      | _ => cases quiet
  cases op with
  | harvest errors answers => exact absurd rfl (other errors answers)
  | _ => exact ends

/-- In every run whose refreshes all meet reports that can be attributed, every IO ends
with an attribution. -/
theorem attributes_of_clear (runtimeId : Nat) (config : RuntimeConfig)
    (components : RuntimeComponents) (paths : List DataPathId) (ops : List RuntimeOp)
    (clear : Along Books.step Books.Clear
      { runtime := created runtimeId config components paths } ops) :
    Along Books.step Books.Attributes
      { runtime := created runtimeId config components paths } ops := by
  refine Along.imp_of_invariant
    (fun books => Idle books.runtime.ioEntries ∧ Recorded books.accepted books.runtime.ioEntries)
    (fun books op holds _ => ⟨books.step_runtime op ▸ holds.1.apply op, holds.2.step op⟩)
    ?_ ⟨fun _ _ found => (nomatch found), fun _ _ found => (nomatch found)⟩ clear
  intro books op holds clear
  by_cases harvesting : ∃ errors answers, op = .harvest errors answers
  · obtain ⟨errors, answers, rfl⟩ := harvesting
    refine Along.imp_of_invariant
      (fun runtime : StorageRuntime =>
        Idle runtime.ioEntries ∧ Recorded books.accepted runtime.ioEntries)
      (fun runtime turn holds _ => ⟨holds.1.turn (turn_harvestStep answers runtime turn),
        holds.2.harvestStep answers turn⟩)
      (fun runtime turn holds clear => attributesTurn_of_clear holds.1 holds.2 clear)
      holds clear
  · exact attributes_of_not_harvest books fun errors answers same =>
      harvesting ⟨errors, answers, same⟩

/-! ### Two DataPaths -/

/-- A second target, on the DataPath 1. -/
def pairSetup : List RuntimeOp :=
  plainSetup ++
    [.openTarget (.ok ⟨8, 1⟩) ⟨.plain (.ok 0), .plain (.ok "domain"), .plain (.ok ())⟩]

/-- One byte from either target; the DataPath takes it as operation 1. -/
def submitPair : RuntimeOp :=
  .submit [byteRequest, { byteRequest with target := ⟨1, 1, 2⟩ }] hostContext
    { stream := none
      pointer := fun _ => none
      registered := fun _ => .plain (.ok 0)
      group := fun _ =>
        { entered := none
          outcome := ⟨none, some 1, [⟨.accepted, none⟩]⟩
          restored := none
          released := .plain (.ok ()) } }

/-- A harvest that finds the read on DataPath 0 failed and the other in this state. -/
def firstFailing (other : IoState) : HarvestAnswers :=
  let failed : DataPathSnapshot :=
    { state := .failed
      status := some ⟨.deviceError, "media error"⟩
      detail := { failureKind := .nvmeCqError, failureScope := .requestIndices,
                  failedRequestIndices := [0] } }
  let queried : DataPathId → DataPathOp → Guarded DataPathSnapshot := fun path _ =>
    .plain (.ok (if path = 0 then failed else { state := other }))
  ⟨queried, queried, fun path _ => .plain (if path = 0 ∨ other = .completed then .ok ()
    else .error ⟨.busy, "operation in flight"⟩)⟩

/-- One read fails and the other is done. -/
theorem attributes_of_clear_pair :
    Along Books.step Books.Clear { runtime := created 1 {} (plainComponents false) [0, 1] }
        (pairSetup ++ [submitPair, .harvest [] (firstFailing .completed)]) ∧
      Along Books.step Books.Attributes
        { runtime := created 1 {} (plainComponents false) [0, 1] }
        (pairSetup ++ [submitPair, .harvest [] (firstFailing .completed)]) := by
  refine ⟨?clear, attributes_of_clear 1 {} (plainComponents false) [0, 1] _ ?clear⟩
  refine ⟨trivial, trivial, trivial, trivial, ⟨?_, trivial⟩, trivial⟩
  intro entry found _
  cases found
  decide

/-- One read fails while the other is in flight: the IO ends with the first one listed,
and nothing but its index tells the second one from a read that is done. -/
theorem inFlight_taken_as_done :
    ¬ Along Books.step Books.Attributes
      { runtime := created 1 {} (plainComponents false) [0, 1] }
      (pairSetup ++ [submitPair, .harvest [] (firstFailing .inFlight)]) := by
  intro along
  have attributed := along.2.2.2.2.1.1 0 _ _ rfl rfl rfl rfl
  have unlisted := attributed.unlisted rfl ({ byteRequest with target := ⟨1, 1, 2⟩ }, 1)
    (by decide) (by decide)
  obtain ⟨snapshot, reported, ended⟩ := (unlisted.2 ([1], .ok { state := .inFlight })
    (.tail _ (.head _)) (.head _)).1
  cases reported
  exact ended rfl

end Tutti
