import Tutti.Runtime.Submit

/-!
# What one submit does

The validation loop changes nothing of the runtime but memory registrations
(`planned_plan`). The groups it leads to hold the candidates, each once
(`members_groupCandidates`). The loop over the groups touches the credits, the
operations and the verdicts, and nothing else (`Issuing.Within`).
-/

namespace Tutti

open Foundation List PendingGroup

/-! ## Looking at a table slot by slot -/

section Tables

variable {Body : Type}

/-- The credits of a slot; none if there is no such slot. -/
def inflightAt (entries : List (Registered Body)) (slot : Nat) : Nat :=
  entries[slot]?.elim 0 Registered.inflightCount

def activeAt (entries : List (Registered Body)) (slot : Nat) : Bool :=
  entries[slot]?.elim false Registered.active

/-- The tables differ in the bodies of their entries at most. -/
def SameSlots (first second : List (Registered Body)) : Prop :=
  ∀ slot, inflightAt second slot = inflightAt first slot ∧
    activeAt second slot = activeAt first slot

theorem SameSlots.refl (entries : List (Registered Body)) : SameSlots entries entries :=
  fun _ => ⟨rfl, rfl⟩

theorem SameSlots.trans {first second third : List (Registered Body)}
    (left : SameSlots first second) (right : SameSlots second third) : SameSlots first third :=
  fun slot => ⟨(right slot).1.trans (left slot).1, (right slot).2.trans (left slot).2⟩

variable {entries : List (Registered Body)}

section

variable {old : Registered Body} {slot : Nat} (found : entries[slot]? = some old)
include found

theorem inflightAt_set (entry : Registered Body) (query : Nat) :
    inflightAt (entries.set slot entry) query =
      if query = slot then entry.inflightCount else inflightAt entries query := by
  unfold inflightAt
  rw [getElem?_set_found found]
  split
  · rfl
  · rfl

theorem activeAt_set (entry : Registered Body) (query : Nat) :
    activeAt (entries.set slot entry) query =
      if query = slot then entry.active else activeAt entries query := by
  unfold activeAt
  rw [getElem?_set_found found]
  split
  · rfl
  · rfl

/-- Rewriting an entry with its own flag and count changes no slot. -/
theorem SameSlots.set {entry : Registered Body} (active : entry.active = old.active)
    (inflight : entry.inflightCount = old.inflightCount) :
    SameSlots entries (entries.set slot entry) := by
  intro query
  rw [inflightAt_set found, activeAt_set found]
  by_cases same : query = slot
  · subst same
    simp [inflight, active, inflightAt, activeAt, found]
  · simp [same]

end

end Tables

/-- A readable outcome has one state per request. -/
theorem GroupAnswer.initialStates_length (answer : GroupAnswer) {count : Nat}
    (readable : answer.fault count = none) : answer.submitted.initialStates.length = count := by
  unfold fault at readable
  split at readable
  · cases readable
  split at readable
  · cases readable
  rename_i equal
  exact not_not.mp equal

/-! ## Verdicts -/

namespace Verdicts

/-- The request of this index is reported as accepted. -/
def acceptedAt (verdicts : Verdicts) (index : Nat) : Bool :=
  verdicts.states[index]?.any fun state => state.state == .accepted

variable (verdicts : Verdicts)

theorem acceptedAt_rejectOne (index : Nat) (status : AnyStatus) (query : Nat) :
    (verdicts.rejectOne index status).acceptedAt query =
      (decide (query ≠ index) && verdicts.acceptedAt query) := by
  unfold acceptedAt rejectOne
  simp only [getElem?_set]
  by_cases same : index = query
  · subst same
    by_cases inside : index < verdicts.states.length
    · simp only [inside, ne_eq, not_true_eq_false, decide_false]
      rfl
    · simp [inside]
  · simp [same, Ne.symm same]

theorem acceptedAt_accept (index : Nat) (status : AnyStatus) (query : Nat) :
    (verdicts.accept index status).acceptedAt query =
      (decide (query = index ∧ index < verdicts.states.length) || verdicts.acceptedAt query) := by
  unfold acceptedAt accept
  simp only [getElem?_set]
  by_cases same : index = query
  · subst same
    by_cases inside : index < verdicts.states.length
    · simp only [inside, and_self, decide_true]
      rfl
    · simp [inside]
  · simp [same, Ne.symm same]

theorem acceptedAt_foldl_accept (members : List Member) (status : AnyStatus) (query : Nat) :
    (members.foldl (fun verdicts member => verdicts.accept member.index status)
        verdicts).acceptedAt query =
      (decide (query ∈ members.map Member.index ∧ query < verdicts.states.length) ||
        verdicts.acceptedAt query) := by
  induction members generalizing verdicts with
  | nil => simp
  | cons member members ih =>
    have length : (verdicts.accept member.index status).states.length =
        verdicts.states.length := length_set
    rw [foldl_cons, ih, acceptedAt_accept, length, ← Bool.or_assoc]
    congr 1
    rw [← Bool.decide_or]
    congr 1
    simp only [map_cons, mem_cons, eq_iff_iff]
    constructor
    · rintro (later | here)
      · exact ⟨.inr later.1, later.2⟩
      · exact ⟨.inl here.1, here.1 ▸ here.2⟩
    · rintro ⟨here | later, inside⟩
      · exact .inr ⟨here, here ▸ inside⟩
      · exact .inl ⟨later, inside⟩

theorem acceptedAt_replicate (count query : Nat) :
    acceptedAt { states := replicate count {} } query = false := by
  unfold acceptedAt
  rw [getElem?_replicate]
  split
  · rfl
  · rfl

end Verdicts

namespace StorageRuntime

/-! ## The validation loop -/

variable {runtime : StorageRuntime}

theorem validateCandidate_ok {context : HostSubmitContext} {pointer : Nat → AnyStatus}
    {request : IoRequest} {memory : MemoryEntry} {target : TargetBody} {path : DataPathId}
    (passed : runtime.validateCandidate context pointer request = .ok (memory, target, path)) :
    (runtime.memoryEntries[request.memory.slot]? = some memory ∧ memory.active = true) ∧
      activeAt runtime.targetEntries request.target.slot = true := by
  have valid : ∃ entry, runtime.validateRequest request = .ok (memory, entry) := by
    unfold validateCandidate at passed
    split at passed
    · cases passed
    rename_i found entry valid
    split at passed
    · cases passed
    dsimp only at passed
    split at passed
    · cases passed
    split at passed
    · cases passed
    split at passed
    · cases passed
    · cases passed
      exact ⟨entry, valid⟩
  obtain ⟨entry, valid⟩ := valid
  unfold validateRequest at valid
  split at valid
  · cases valid
  split at valid
  · cases valid
  rename_i held memoryFound
  split at valid
  · cases valid
  rename_i opened targetFound
  obtain ⟨_, memoryAt, memoryActive, _⟩ := lookup_some memoryFound
  obtain ⟨_, targetAt, targetActive, _⟩ := lookup_some targetFound
  have same : held = memory := by
    split at valid
    · cases valid
    split at valid
    · cases valid
    split at valid
    · cases valid
    split at valid
    · cases valid
    · cases valid
      rfl
  subst same
  refine ⟨⟨memoryAt, memoryActive⟩, ?_⟩
  simp only [activeAt, targetAt]
  exact targetActive

/-- Registering memory with a DataPath writes the registrations of one entry. -/
theorem registrationFor_within {slot : Nat} {memory : MemoryEntry}
    (found : runtime.memoryEntries[slot]? = some memory) (target : TargetBody) (path : DataPathId)
    (call : Guarded DataPathMemory) :
    ∃ entries, (runtime.registrationFor slot memory target path call).2.1 =
        { runtime with memoryEntries := entries } ∧
      SameSlots runtime.memoryEntries entries := by
  unfold registrationFor
  split
  · exact ⟨runtime.memoryEntries, rfl, SameSlots.refl _⟩
  split
  · exact ⟨runtime.memoryEntries, rfl, SameSlots.refl _⟩
  · exact ⟨_, rfl, SameSlots.set found rfl rfl⟩

/-- The validation loop after the requests `seen`. -/
structure Planned (runtime : StorageRuntime) (count : Nat) (seen : List (IoRequest × Nat))
    (planning : Planning) : Prop where
  within : ∃ entries, planning.runtime = { runtime with memoryEntries := entries } ∧
    SameSlots runtime.memoryEntries entries
  candidates : (planning.candidates.map fun candidate =>
    (candidate.2.request.intent, candidate.2.index)).Sublist seen
  active : ∀ candidate ∈ planning.candidates,
    activeAt runtime.memoryEntries candidate.2.memorySlot = true ∧
      activeAt runtime.targetEntries candidate.2.targetSlot = true
  undecided : ∀ index, planning.verdicts.acceptedAt index = false
  count : planning.verdicts.states.length = count

variable {seen : List (IoRequest × Nat)} {planning : Planning}

section

variable {count : Nat} (planned : Planned runtime count seen planning)
include planned

theorem Planned.reject (item : IoRequest × Nat) (status : AnyStatus) {after : StorageRuntime}
    (within : ∃ entries, after = { runtime with memoryEntries := entries } ∧
      SameSlots runtime.memoryEntries entries) (calls : List DataPathCall) :
    Planned runtime count (seen ++ [item])
      { planning with
        runtime := after
        verdicts := planning.verdicts.rejectOne item.2 status
        calls } where
  within
  candidates := planned.candidates.trans (sublist_append_left _ _)
  active := planned.active
  undecided index := by
    rw [Verdicts.acceptedAt_rejectOne, planned.undecided, Bool.and_false]
  count := by
    simp [Verdicts.rejectOne, planned.count]

variable (context : HostSubmitContext)

theorem Planned.planOne (answers : SubmitAnswers) (item : IoRequest × Nat) :
    Planned runtime count (seen ++ [item])
      (StorageRuntime.planOne context answers planning item) := by
  unfold StorageRuntime.planOne
  split
  · exact planned.reject item _ planned.within _
  rename_i memory target path passed
  obtain ⟨before, runtimeEq, same⟩ := planned.within
  obtain ⟨⟨memoryAt, memoryActive⟩, targetActive⟩ := validateCandidate_ok passed
  obtain ⟨entries, afterEq, kept⟩ := registrationFor_within memoryAt target path
    (answers.registered item.2)
  have within : ∃ entries,
      (planning.runtime.registrationFor item.1.memory.slot memory target path
        (answers.registered item.2)).2.1 = { runtime with memoryEntries := entries } ∧
      SameSlots runtime.memoryEntries entries := by
    refine ⟨entries, ?_, ?_⟩
    · rw [afterEq, runtimeEq]
    · rw [runtimeEq] at kept
      exact same.trans kept
  split
  · rename_i status after made registered
    rw [registered] at within
    exact planned.reject item _ within _
  rename_i registered after made accepted
  rw [accepted] at within
  refine ⟨within, ?_, ?_, planned.undecided, planned.count⟩
  · rw [map_append]
    exact planned.candidates.append (List.Sublist.refl _)
  intro candidate member
  rcases mem_append.mp member with earlier | new
  · exact planned.active candidate earlier
  rw [mem_singleton.mp new]
  rw [runtimeEq] at memoryAt targetActive
  have held : activeAt before item.1.memory.slot = true := by
    simp [activeAt, memoryAt, memoryActive]
  exact ⟨(same item.1.memory.slot).2.symm.trans held, targetActive⟩

theorem planned_foldl (answers : SubmitAnswers) (items : List (IoRequest × Nat)) :
    Planned runtime count (seen ++ items)
      (items.foldl (StorageRuntime.planOne context answers) planning) := by
  induction items generalizing seen planning with
  | nil => simpa using planned
  | cons item items ih =>
    have next := ih (planned.planOne context answers item)
    simpa using next

end

theorem planned_plan (runtime : StorageRuntime) (requests : List IoRequest)
    (context : HostSubmitContext) (answers : SubmitAnswers) :
    Planned runtime requests.length requests.zipIdx (runtime.plan requests context answers) := by
  have initial : Planned runtime requests.length []
      { runtime, verdicts := { states := replicate requests.length {} } } :=
    { within := ⟨runtime.memoryEntries, rfl, SameSlots.refl _⟩
      candidates := List.Sublist.refl _
      active := nofun
      undecided := Verdicts.acceptedAt_replicate _
      count := length_replicate }
  exact planned_foldl initial context answers requests.zipIdx

/-! ## The groups -/

theorem members_addToGroup (groups : List PendingGroup) (candidate : DataPathId × Member) :
    ((addToGroup groups candidate).flatMap PendingGroup.members).Perm
      (groups.flatMap PendingGroup.members ++ [candidate.2]) := by
  induction groups with
  | nil => exact List.Perm.refl _
  | cons group groups ih =>
    unfold addToGroup
    split
    · simp only [flatMap_cons, append_assoc]
      exact List.Perm.append_left _ perm_append_comm
    · simp only [flatMap_cons, append_assoc]
      exact List.Perm.append_left _ ih

variable (candidates : List (DataPathId × Member))

/-- The groups hold the candidates, each once. -/
theorem members_groupCandidates :
    ((groupCandidates candidates).flatMap PendingGroup.members).Perm (candidates.map Prod.snd) := by
  have folded : ∀ groups : List PendingGroup,
      ((candidates.foldl addToGroup groups).flatMap members).Perm
        (groups.flatMap members ++ candidates.map Prod.snd) := by
    induction candidates with
    | nil =>
      intro groups
      simp
    | cons candidate candidates ih =>
      intro groups
      refine (ih (addToGroup groups candidate)).trans ?_
      rw [map_cons, append_cons]
      exact (members_addToGroup groups candidate).append_right _
  exact folded []

/-- No group is empty. -/
theorem members_ne_nil_of_groupCandidates :
    ∀ group ∈ groupCandidates candidates, group.members ≠ [] := by
  have added : ∀ (candidate : DataPathId × Member) (groups : List PendingGroup),
      (∀ group ∈ groups, group.members ≠ []) →
        ∀ group ∈ addToGroup groups candidate, group.members ≠ [] := by
    intro candidate groups
    induction groups with
    | nil => exact fun _ => forall_mem_singleton.mpr (cons_ne_nil _ _)
    | cons head groups ih =>
      intro filled
      obtain ⟨first, rest⟩ := forall_mem_cons.mp filled
      unfold addToGroup
      split
      · exact forall_mem_cons.mpr ⟨append_ne_nil_of_right_ne_nil _ (cons_ne_nil _ _), rest⟩
      · exact forall_mem_cons.mpr ⟨first, ih rest⟩
  have folded : ∀ groups : List PendingGroup, (∀ group ∈ groups, group.members ≠ []) →
      ∀ group ∈ candidates.foldl addToGroup groups, group.members ≠ [] := by
    induction candidates with
    | nil => exact fun _ filled => filled
    | cons candidate candidates ih =>
      exact fun groups filled => ih (addToGroup groups candidate) (added candidate groups filled)
  exact folded [] nofun

/-! ## The loop over the groups -/

/-- The operation of a group, if it enters the books. -/
def keptOps (async : DataPathId → Bool) (answers : DataPathId → GroupAnswer)
    (group : PendingGroup) : List DataPathOperation :=
  let answer := answers group.dataPath
  match answer.submitted.op with
  | some op =>
    if answer.keeps (async group.dataPath) group.members.length then
      [{ dataPath := group.dataPath
         op
         requestIndices := group.members.map Member.index }]
    else []
  | none => []

namespace Issuing

/-- What a part of the loop over the groups may do: it moves credits, enters
`operations` into the books, and accepts requests of these operations only. -/
structure Within (before after : Issuing) (operations : List DataPathOperation) : Prop where
  runtime : ∃ memories targets, after.runtime =
    { before.runtime with memoryEntries := memories, targetEntries := targets }
  entry : ∃ error, after.entry =
    { before.entry with
      dataPathOperations := before.entry.dataPathOperations ++ operations
      asyncObservationError := error }
  accepted : ∀ index, after.verdicts.acceptedAt index = true →
    before.verdicts.acceptedAt index = true ∨
      ∃ operation ∈ operations, index ∈ operation.requestIndices
  anyAccepted : after.anyAccepted = (before.anyAccepted || !operations.isEmpty)

variable (issuing : Issuing)

theorem Within.refl : Within issuing issuing [] where
  runtime := ⟨_, _, rfl⟩
  entry := ⟨issuing.entry.asyncObservationError, by rw [append_nil]⟩
  accepted _ accepted := .inl accepted
  anyAccepted := by simp

theorem Within.trans {first second third : Issuing} {left right : List DataPathOperation}
    (earlier : Within first second left) (later : Within second third right) :
    Within first third (left ++ right) where
  runtime := by
    obtain ⟨_, _, secondEq⟩ := earlier.runtime
    obtain ⟨memories, targets, thirdEq⟩ := later.runtime
    exact ⟨memories, targets, by rw [thirdEq, secondEq]⟩
  entry := by
    obtain ⟨_, secondEq⟩ := earlier.entry
    obtain ⟨error, thirdEq⟩ := later.entry
    exact ⟨error, by rw [thirdEq, secondEq, append_assoc]⟩
  accepted index accepted := by
    rcases later.accepted index accepted with before | ⟨operation, listed, named⟩
    · rcases earlier.accepted index before with before | ⟨operation, listed, named⟩
      · exact .inl before
      · exact .inr ⟨operation, mem_append_left _ listed, named⟩
    · exact .inr ⟨operation, mem_append_right _ listed, named⟩
  anyAccepted := by
    rw [later.anyAccepted, earlier.anyAccepted]
    cases left with
    | nil => simp
    | cons => simp

theorem within_rejectMember (member : Member) (status : AnyStatus) :
    Within issuing (issuing.rejectMember member status) [] where
  runtime := ⟨_, _, rfl⟩
  entry := (Within.refl issuing).entry
  accepted index accepted := by
    have moved := Verdicts.acceptedAt_rejectOne issuing.verdicts member.index status index
    exact .inl (Bool.and_eq_true_iff.mp (moved.symm.trans accepted)).2
  anyAccepted := (Within.refl issuing).anyAccepted

theorem within_rejectGroup (members : List Member) (status : AnyStatus) :
    Within issuing (issuing.rejectGroup members status) [] := by
  induction members generalizing issuing with
  | nil => exact Within.refl issuing
  | cons member members ih =>
    exact (within_rejectMember issuing member status).trans
      (ih (issuing.rejectMember member status))

/-- The loop over the requests of a group: it leaves the entry alone, and accepts only
what the DataPath reported as accepted under an operation. -/
structure Settling (hasOp : Bool) (items : List (Member × IoRequestInitialState))
    (before after : Issuing) : Prop where
  runtime : ∃ memories targets, after.runtime =
    { before.runtime with memoryEntries := memories, targetEntries := targets }
  entry : after.entry = before.entry
  accepted : ∀ index, after.verdicts.acceptedAt index = true →
    before.verdicts.acceptedAt index = true ∨
      ∃ item ∈ items, item.1.index = index ∧ item.2.state = .accepted ∧ hasOp = true
  anyAccepted : after.anyAccepted =
    (before.anyAccepted || (hasOp && items.any fun item => item.2.state == .accepted))

theorem settling_settleMember (hasOp : Bool) (issuing : Issuing)
    (item : Member × IoRequestInitialState) :
    Settling hasOp [item] issuing (issuing.settleMember hasOp item) := by
  unfold settleMember
  split
  · rename_i both
    refine ⟨⟨_, _, rfl⟩, rfl, ?_, ?_⟩
    · intro index accepted
      have moved := Verdicts.acceptedAt_accept issuing.verdicts item.1.index none index
      rcases Bool.or_eq_true_iff.mp (moved.symm.trans accepted) with here | before
      · exact .inr ⟨item, mem_singleton_self _, (of_decide_eq_true here).1.symm, both⟩
      · exact .inl before
    · simp [both.1, both.2]
  rename_i refused
  have within := within_rejectMember issuing item.1
    (if item.2.state = .rejected then item.2.status
      else some ⟨.internal, "DataPath accepted request without operation"⟩)
  refine ⟨within.runtime, rfl, ?_, ?_⟩
  · intro index accepted
    rcases within.accepted index accepted with before | ⟨_, listed, _⟩
    · exact .inl before
    · cases listed
  have none : (hasOp && [item].any fun item => item.2.state == .accepted) = false := by
    cases hasOp with
    | false => rfl
    | true =>
      have rejected : item.2.state ≠ .accepted := fun accepted => refused ⟨accepted, rfl⟩
      simp [beq_eq_false_iff_ne.mpr rejected]
  rw [none, Bool.or_false]
  rfl

theorem settling_foldl (hasOp : Bool) (issuing : Issuing)
    (items : List (Member × IoRequestInitialState)) :
    Settling hasOp items issuing (items.foldl (settleMember hasOp) issuing) := by
  induction items generalizing issuing with
  | nil =>
    refine ⟨⟨_, _, rfl⟩, rfl, fun _ accepted => .inl accepted, ?_⟩
    simp
  | cons item items ih =>
    have first := settling_settleMember hasOp issuing item
    have rest := ih (issuing.settleMember hasOp item)
    refine ⟨?_, rest.entry.trans first.entry, ?_, ?_⟩
    · obtain ⟨_, _, firstEq⟩ := first.runtime
      obtain ⟨memories, targets, restEq⟩ := rest.runtime
      exact ⟨memories, targets, by rw [foldl_cons, restEq, firstEq]⟩
    · intro index accepted
      rcases rest.accepted index accepted with before | ⟨found, listed, reported⟩
      · rcases first.accepted index before with before | ⟨found, listed, reported⟩
        · exact .inl before
        · exact .inr ⟨found, mem_cons.mpr (.inl (mem_singleton.mp listed)), reported⟩
      · exact .inr ⟨found, .tail _ listed, reported⟩
    · rw [foldl_cons, rest.anyAccepted, first.anyAccepted, Bool.or_assoc,
        ← Bool.and_or_distrib_left, any_cons, any_cons, any_nil, Bool.or_false]

variable (group : PendingGroup)

theorem within_keepOp (op : DataPathOp) {settled : Issuing} {hasOp : Bool}
    {items : List (Member × IoRequestInitialState)}
    (settling : Settling hasOp items issuing settled)
    (members : ∀ item ∈ items, item.1 ∈ group.members)
    (accepts : (hasOp && items.any fun item => item.2.state == .accepted) = true) :
    Within issuing (settled.keepOp group op)
      [{ dataPath := group.dataPath
         op
         requestIndices := group.members.map Member.index }] where
  runtime := settling.runtime
  entry := ⟨issuing.entry.asyncObservationError, by rw [keepOp, settling.entry]⟩
  accepted index accepted := by
    rcases settling.accepted index accepted with before | ⟨item, listed, named, _⟩
    · exact .inl before
    · exact .inr ⟨_, mem_singleton_self _, mem_map.mpr ⟨item.1, members item listed, named⟩⟩
  anyAccepted := by
    have moved := settling.anyAccepted
    rw [accepts] at moved
    exact moved

theorem within_keepFaulty (op : DataPathOp) (error : Status) :
    Within issuing (issuing.keepFaulty group op error)
      [{ dataPath := group.dataPath
         op
         requestIndices := group.members.map Member.index }] where
  runtime := ⟨_, _, rfl⟩
  entry := ⟨_, rfl⟩
  accepted index accepted := by
    have moved := Verdicts.acceptedAt_foldl_accept issuing.verdicts group.members (some error) index
    rcases Bool.or_eq_true_iff.mp (moved.symm.trans accepted) with here | before
    · exact .inr ⟨_, mem_singleton_self _, (of_decide_eq_true here).1⟩
    · exact .inl before
  anyAccepted := (Bool.or_true _).symm

/-- A note on the verdicts is not seen by `Within`. -/
theorem Within.note {before after : Issuing} {operations : List DataPathOperation}
    (within : Within before after operations) (status : AnyStatus) :
    Within before { after with verdicts := after.verdicts.note status } operations :=
  { within with }

theorem within_settleGroup (answer : GroupAnswer)
    (readable : answer.fault group.members.length = none) :
    Within issuing (issuing.settleGroup group answer)
      (match answer.submitted.op with
        | some op =>
          if answer.anyAccepted then
            [{ dataPath := group.dataPath
               op
               requestIndices := group.members.map Member.index }]
          else []
        | none => []) := by
  have lengths := answer.initialStates_length readable
  set paired := group.members.zip answer.submitted.initialStates
  have settling := settling_foldl answer.submitted.op.isSome issuing paired
  have reported : (answer.submitted.op.isSome &&
      paired.any fun item => item.2.state == .accepted) = answer.anyAccepted := by
    have states := map_snd_zip (le_of_eq lengths)
    unfold GroupAnswer.anyAccepted
    rw [← states, any_map]
    rfl
  have refused : answer.anyAccepted = false →
      Within issuing (paired.foldl (settleMember answer.submitted.op.isSome) issuing) [] := by
    intro rejected
    rw [← reported] at rejected
    refine ⟨settling.runtime, ⟨issuing.entry.asyncObservationError, ?_⟩, ?_, ?_⟩
    · rw [settling.entry, append_nil]
    · intro index accepted
      rcases settling.accepted index accepted with before | ⟨item, listed, _, state, op⟩
      · exact .inl before
      have some : paired.any (fun item => item.2.state == .accepted) = true :=
        any_eq_true.mpr ⟨item, listed, beq_iff_eq.mpr state⟩
      rw [op, some] at rejected
      cases rejected
    · rw [settling.anyAccepted, rejected]
      rfl
  unfold settleGroup
  dsimp only
  split
  · rename_i noted
    rw [noted.2]
    have kept := (refused noted.2).note answer.submitted.status
    cases op : answer.submitted.op with
    | none => simpa only [op] using kept
    | some value => simpa [op] using kept
  cases op : answer.submitted.op with
  | none =>
    have none : answer.anyAccepted = false := by
      simp [GroupAnswer.anyAccepted, op]
    simpa only [op] using refused none
  | some value =>
    cases accepts : answer.anyAccepted with
    | false => simpa [op] using refused accepts
    | true =>
      have kept := within_keepOp issuing group value settling
        (fun item listed => (of_mem_zip listed).1) (reported.trans accepts)
      simpa [op] using kept

variable (async : DataPathId → Bool) (answers : DataPathId → GroupAnswer)

theorem within_submitGroup (issuing : Issuing) (group : PendingGroup) :
    Within issuing (submitGroup async answers issuing group) (keptOps async answers group) := by
  unfold submitGroup keptOps GroupAnswer.keeps
  dsimp only
  cases faulty : (answers group.dataPath).fault group.members.length with
  | none => exact within_settleGroup issuing group (answers group.dataPath) faulty
  | some error =>
    cases op : (answers group.dataPath).submitted.op with
    | none => exact within_rejectGroup issuing group.members (some error)
    | some value =>
      cases asyncPath : async group.dataPath with
      | false =>
        exact within_rejectGroup issuing group.members (some error)
      | true =>
        exact within_keepFaulty issuing group value error

theorem within_foldl (issuing : Issuing) (groups : List PendingGroup) :
    Within issuing (groups.foldl (submitGroup async answers) issuing)
      (groups.flatMap (keptOps async answers)) := by
  induction groups generalizing issuing with
  | nil => exact Within.refl issuing
  | cons group groups ih =>
    exact (within_submitGroup async answers issuing group).trans
      (ih (submitGroup async answers issuing group))

end Issuing

/-! ## The whole submit -/

/-- The IO entry that a submit of these groups leaves: live with the operations that
were kept, or retired if there are none. -/
def issuedEntry (generation : Nat) (groups : List PendingGroup)
    (operations : List DataPathOperation) (error : AnyStatus) : IoEntry :=
  { reservedEntry generation groups with
    active := !operations.isEmpty
    referencesReleased := operations.isEmpty
    dataPathOperations := operations
    asyncObservationError := error }

/-- What is left of a submit whose groups were handed to their DataPaths and of which
`operations` were kept. -/
structure Issued (runtime : StorageRuntime) (groups : List PendingGroup)
    (operations : List DataPathOperation) (reply : Reply IoSubmitOutcome) : Prop where
  after : ∃ memories targets error, reply.runtime =
    { runtime with
      memoryEntries := memories
      targetEntries := targets
      ioGenCounter := nextGeneration runtime.ioGenCounter
      ioEntries := placeAt runtime.ioEntries (findFreeSlot runtime.ioEntries)
        (issuedEntry (nextGeneration runtime.ioGenCounter) groups operations error) }
  io : reply.value.io =
    if operations.isEmpty then none
    else
      some ⟨runtime.runtimeId, findFreeSlot runtime.ioEntries,
        nextGeneration runtime.ioGenCounter⟩
  accepted : ∀ index : Nat,
    (reply.value.initialStates[index]?.any fun state => state.state == .accepted) = true →
      ∃ operation ∈ operations, index ∈ operation.requestIndices

theorem issued_issue {count : Nat} (planned : Planned runtime count seen planning)
    (groups : List PendingGroup) (answers : SubmitAnswers) :
    Issued runtime groups
      (groups.flatMap (keptOps runtime.components.asyncCompletion answers.group))
      (issue planning groups answers) := by
  obtain ⟨entries, runtimeEq, _⟩ := planned.within
  have within := Issuing.within_foldl runtime.components.asyncCompletion answers.group
    (reserve { runtime with memoryEntries := entries } groups planning.verdicts) groups
  unfold issue
  dsimp only
  rw [runtimeEq]
  generalize groups.foldl (Issuing.submitGroup runtime.components.asyncCompletion answers.group) _ =
    issuing at within ⊢
  generalize groups.flatMap (keptOps runtime.components.asyncCompletion answers.group) =
    operations at within ⊢
  obtain ⟨memories, targets, issuingEq⟩ := within.runtime
  obtain ⟨error, entryEq⟩ := within.entry
  have accepted : ∀ index, issuing.verdicts.acceptedAt index = true →
      ∃ operation ∈ operations, index ∈ operation.requestIndices := by
    intro index accepted
    rcases within.accepted index accepted with before | listed
    · have undecided := planned.undecided index
      exact nomatch undecided.symm.trans before
    · exact listed
  have any : issuing.anyAccepted = !operations.isEmpty := within.anyAccepted
  unfold conclude
  cases empty : operations.isEmpty with
  | false =>
    rw [empty] at any
    simp only [any, Bool.not_false]
    refine ⟨⟨memories, targets, error, ?_⟩, ?_, accepted⟩
    · rw [issuingEq, entryEq]
      simp only [issuedEntry, empty]
      rfl
    · rw [issuingEq, entryEq, empty]
      rfl
  | true =>
    rw [empty] at any
    obtain rfl : operations = [] := List.isEmpty_iff.mp empty
    simp only [any, Bool.not_true, Bool.false_eq_true]
    refine ⟨⟨?_, ?_, error, ?_⟩, rfl, accepted⟩
    · exact returnCredits issuing.entry.memorySlots issuing.runtime.memoryEntries
    · exact returnCredits issuing.entry.targetSlots issuing.runtime.targetEntries
    · rw [issuingEq, entryEq]
      rfl

/-- A submit either hands nothing to a DataPath, and then changes memory registrations
at most, or it issues the groups of its candidates. -/
theorem submit_cases (runtime : StorageRuntime) (requests : List IoRequest)
    (context : HostSubmitContext) (answers : SubmitAnswers) :
    ((runtime.submit requests context answers).value.io = none ∧
      (∃ entries, (runtime.submit requests context answers).runtime =
          { runtime with memoryEntries := entries } ∧
        SameSlots runtime.memoryEntries entries)) ∨
    (runtime.state = .running ∧
      let groups := groupCandidates (runtime.plan requests context answers).candidates
      groups ≠ [] ∧ runtime.submit requests context answers =
        issue (runtime.plan requests context answers) groups answers ∧
      Issued runtime groups
        (groups.flatMap (keptOps runtime.components.asyncCompletion answers.group))
        (runtime.submit requests context answers)) := by
  have planned := planned_plan runtime requests context answers
  have unchanged : ∃ entries, runtime = { runtime with memoryEntries := entries } ∧
      SameSlots runtime.memoryEntries entries :=
    ⟨runtime.memoryEntries, rfl, SameSlots.refl _⟩
  unfold submit
  split
  · exact .inl ⟨rfl, unchanged⟩
  rename_i running
  split
  · exact .inl ⟨rfl, unchanged⟩
  split
  · exact .inl ⟨rfl, unchanged⟩
  split
  · exact .inl ⟨rfl, unchanged⟩
  dsimp only
  split
  · exact .inl ⟨rfl, planned.within⟩
  rename_i some
  refine .inr ⟨not_not.mp running, ?_, rfl, issued_issue planned _ answers⟩
  intro none
  exact some (List.isEmpty_iff.mpr none)

end StorageRuntime

end Tutti
