import Mathlib.Algebra.BigOperators.Group.List.Basic
import Tutti.Runtime.CreditTables
import Tutti.Runtime.RuntimeRuns

/-!
# In-flight credits

Each memory and target entry counts the requests in flight on it, so that it is not
torn down under them. A submit grants one credit per candidate and side; what the
DataPath rejects is rolled back, and the end of the IO gives the rest back.

The slots of a rejected request stay listed in the IO entry, so its credit is given
back a second time when the IO ends, at the expense of other requests on the same
entry. The counts are exact along every run in which the DataPaths accept each group
whole (`creditsExact_of_whole`); `partialAccept_loses_credit` is a run with a partial
acceptance in which a target with a request in flight is closed.
-/

namespace Tutti

open Foundation Function IoEntry List StorageRuntime

/-! ## What the IO in flight demand -/

/-- The credits that the IO in flight hold on a slot. -/
def demandOf (side : IoEntry → List Nat) (entries : List IoEntry) (slot : Nat) : Nat :=
  (entries.map fun entry => if entry.live then (side entry).count slot else 0).sum

variable {old : IoEntry} {slot : Nat} {entries : List IoEntry} (side : IoEntry → List Nat)

theorem demandOf_set (found : entries[slot]? = some old) (entry : IoEntry) (query : Nat) :
    demandOf side (entries.set slot entry) query +
        (if old.live then (side old).count query else 0) =
      demandOf side entries query + (if entry.live then (side entry).count query else 0) :=
  sum_map_set (fun entry : IoEntry => if entry.live then (side entry).count query else 0) found
    entry

/-- Rewriting an entry with the same credits changes no demand. -/
theorem demandOf_set_same (found : entries[slot]? = some old) (entry : IoEntry)
    (live : entry.live = old.live) (slots : old.live = true → side entry = side old) (query : Nat) :
    demandOf side (entries.set slot entry) query = demandOf side entries query := by
  have moved := demandOf_set side found entry query
  cases running : old.live with
  | false =>
    rw [live, running] at moved
    exact moved
  | true =>
    rw [live, slots running] at moved
    exact add_right_cancel moved

theorem demandOf_placeAt (entries : List IoEntry) (entry : IoEntry) (query : Nat) :
    demandOf side (placeAt entries (findFreeSlot entries) entry) query =
      demandOf side entries query + (if entry.live then (side entry).count query else 0) := by
  refine sum_map_placeAt (fun entry : IoEntry => if entry.live then (side entry).count query else 0)
    entries (findFreeSlot entries) entry ?_
  intro old found
  have free : old.active = false := inactive_of_findFreeSlot found
  have idle : old.live = false := by
    rw [live, free, Bool.false_and]
  simp [idle]

/-- The slots an IO entry holds credits on are those of its accepted requests. -/
def IoEntry.Matches (entry : IoEntry) (accepted : List (IoRequest × Nat)) : Prop :=
  ∀ slot,
    entry.memorySlots.count slot = accepted.countP (fun item => item.1.memory.slot == slot) ∧
      entry.targetSlots.count slot = accepted.countP (fun item => item.1.target.slot == slot)

/-- The invariant of the runs: the tables cover the IO in flight, and each of these holds
the credits of its accepted requests. -/
structure Balanced (accepted : Nat → List (IoRequest × Nat)) (runtime : StorageRuntime) :
    Prop where
  memory : Covered runtime.memoryEntries (demandOf IoEntry.memorySlots runtime.ioEntries)
  target : Covered runtime.targetEntries (demandOf IoEntry.targetSlots runtime.ioEntries)
  live : ∀ (slot : Nat) (entry : IoEntry), runtime.ioEntries[slot]? = some entry →
    entry.live = true → entry.referencesReleased = false ∧ entry.Matches (accepted slot)

variable {after : StorageRuntime}

namespace Balanced

variable {accepted : Nat → List (IoRequest × Nat)} {runtime : StorageRuntime}

/-- What only touches the two tables. -/
theorem tables (balanced : Balanced accepted runtime) (same : after.ioEntries = runtime.ioEntries)
    (memory : Covered after.memoryEntries (demandOf IoEntry.memorySlots runtime.ioEntries))
    (target : Covered after.targetEntries (demandOf IoEntry.targetSlots runtime.ioEntries)) :
    Balanced accepted after where
  memory := same ▸ memory
  target := same ▸ target
  live := same ▸ balanced.live

/-- What rewrites one IO entry and with it the credits it holds. -/
theorem rewrite (balanced : Balanced accepted runtime) (found : runtime.ioEntries[slot]? = some old)
    (entry : IoEntry) (entries : after.ioEntries = runtime.ioEntries.set slot entry)
    (memory : Covered after.memoryEntries
      (demandOf IoEntry.memorySlots (runtime.ioEntries.set slot entry)))
    (target : Covered after.targetEntries
      (demandOf IoEntry.targetSlots (runtime.ioEntries.set slot entry))) (live : entry.live = true →
      entry.referencesReleased = false ∧ entry.Matches (accepted slot)) :
    Balanced accepted after := by
  refine ⟨entries ▸ memory, entries ▸ target, fun query reached at_ running => ?_⟩
  rw [entries, getElem?_set_found found] at at_
  split at at_
  · rename_i same
    cases at_
    exact same ▸ live running
  · exact balanced.live query reached at_ running

end Balanced

/-- The end of an IO that still holds its credits. -/
theorem finishIo_eq (runtime : StorageRuntime) (slot : Nat) (entry : IoEntry)
    (running : entry.terminal = false) (held : entry.referencesReleased = false)
    (result : IoResult) :
    runtime.finishIo slot entry result =
      { runtime with
        memoryEntries := returnCredits entry.memorySlots runtime.memoryEntries
        targetEntries := returnCredits entry.targetSlots runtime.targetEntries
        terminalResultCount := runtime.terminalResultCount + 1
        ioEntries := runtime.ioEntries.set slot
          { entry.finish result with referencesReleased := true } } := by
  unfold finishIo releaseInflightReferences
  simp [running, finish, held]

namespace Balanced

variable {accepted : Nat → List (IoRequest × Nat)} {runtime : StorageRuntime}

theorem unregisterDataPathMemory_inflight (answer : DataPathMemoryRegistration → Guarded Unit)
    (entry : MemoryEntry) :
    (unregisterDataPathMemory answer entry).2.1.inflightCount = entry.inflightCount := by
  unfold unregisterDataPathMemory
  split
  · rfl
  · rfl

theorem closeEntry_inflight (answer : Guarded Unit) (entry : TargetEntry) :
    (closeEntry answer entry).2.1.inflightCount = entry.inflightCount := by
  unfold closeEntry
  split
  · rfl
  split
  · rfl
  · rfl

variable {Body : Type}
  {retire : Registered Body → AnyStatus × Registered Body × List DataPathCall}

theorem inflightAt_retireAll
    (kept : ∀ entry, (retire entry).2.1.inflightCount = entry.inflightCount)
    (entries : List (Registered Body)) (slot : Nat) :
    inflightAt (retireAll retire entries).2.1 slot = inflightAt entries slot := by
  induction entries generalizing slot with
  | nil => rfl
  | cons entry entries ih =>
    unfold retireAll
    split
    · cases slot with
      | zero => rfl
      | succ slot => exact ih slot
    have same := kept entry
    split
    · rename_i failed
      rw [failed] at same
      cases slot with
      | zero => exact same
      | succ slot => rfl
    · rename_i retired
      rw [retired] at same
      cases slot with
      | zero => exact same
      | succ slot => exact ih slot

/-- With nothing in flight there is no demand. -/
theorem demandOf_eq_zero (none : runtime.countInflightIo = 0) (slot : Nat) :
    demandOf side runtime.ioEntries slot = 0 := by
  have ended := filter_eq_nil_iff.mp (eq_nil_of_length_eq_zero none)
  refine sum_eq_zero ?_
  intro weight member
  obtain ⟨entry, listed, rfl⟩ := mem_map.mp member
  exact if_neg (ended entry listed)

theorem Covered.retireAll {entries : List (Registered Body)} {demand : Nat → Nat}
    (covered : Covered entries demand) (none : ∀ slot, demand slot = 0)
    (kept : ∀ entry, (retire entry).2.1.inflightCount = entry.inflightCount) :
    Covered (StorageRuntime.retireAll retire entries).2.1 demand where
  counts slot := (inflightAt_retireAll kept entries slot).trans (covered.counts slot)
  active slot wanted := by
    rw [none slot] at wanted
    exact absurd wanted (lt_irrefl 0)

section

variable (balanced : Balanced accepted runtime)
include balanced

theorem turn (idle : Idle runtime.ioEntries) (turn : Turn runtime after) :
    Balanced accepted after := by
  cases turn with
  | still => exact balanced
  | @revise slot entry operations error found silent =>
    have same := fun side slots =>
      demandOf_set_same side found (entry.revised operations error) rfl slots
    exact balanced.rewrite found (entry.revised operations error) rfl
      (balanced.memory.congr (same memorySlots fun _ => rfl))
      (balanced.target.congr (same targetSlots fun _ => rfl))
      (balanced.live slot entry found)
  | @finish slot entry operations error result found running pending =>
    have live : entry.live = true := by
      rw [IoEntry.live, idle.active found pending, running, Bool.not_false, Bool.and_self]
    have held := (balanced.live slot entry found live).1
    have freed : ∀ side : IoEntry → List Nat, ∀ ended : IoEntry, ended.live = false →
        ∀ query, demandOf side (runtime.ioEntries.set slot ended) query +
          (side entry).count query = demandOf side runtime.ioEntries query := by
      intro side ended stopped query
      have moved := demandOf_set side found ended query
      simpa [live, stopped] using moved
    let ended : IoEntry :=
      { (entry.revised operations error).finish result with referencesReleased := true }
    have stopped : ended.live = false := Bool.and_false _
    rw [finishIo_eq runtime slot (entry.revised operations error) running held result]
    refine balanced.rewrite found ended rfl ?_ ?_ ?_
    · exact balanced.memory.giveBack (freed memorySlots ended stopped)
    · exact balanced.target.giveBack (freed targetSlots ended stopped)
    · intro running
      exact nomatch stopped.symm.trans running

theorem harvest (idle : Idle runtime.ioEntries)
    (errors : List (DataPathId × Status)) (answers : HarvestAnswers) :
    Balanced accepted (runtime.harvest errors answers).1 :=
  (@harvest_keeps (fun runtime => Idle runtime.ioEntries ∧ Balanced accepted runtime)
    (fun _ _ moved holds => ⟨holds.1.turn moved, holds.2.turn holds.1 moved⟩) runtime
    ⟨idle, balanced⟩ errors answers).2

theorem addMemory (body : MemoryBody) :
    Balanced accepted (runtime.addMemory body).runtime :=
  balanced.tables rfl (balanced.memory.place _ body) balanced.target

theorem registerMemory (view : MemoryView)
    (vendor : AnyStatus) : Balanced accepted (runtime.registerMemory view vendor).runtime := by
  unfold StorageRuntime.registerMemory
  split
  · exact balanced
  split
  · exact balanced
  · exact balanced.addMemory _

theorem allocateMemory (size : Nat) (kind : MemoryKind) (accelId : Int) (allocated : Bool) :
    Balanced accepted (runtime.allocateMemory size kind accelId allocated).runtime := by
  unfold StorageRuntime.allocateMemory
  repeat' split
  all_goals first | exact balanced | exact balanced.addMemory _

theorem dropMemory (required : MemoryOwnership) (refusal : String) (handle : MemoryHandle)
    (answer : DataPathMemoryRegistration → Guarded Unit) :
    Balanced accepted (runtime.dropMemory required refusal handle answer).runtime := by
  unfold StorageRuntime.dropMemory
  split
  · exact balanced
  rename_i entry valid
  split
  · exact balanced
  split
  · exact balanced
  rename_i unused
  have kept := unregisterDataPathMemory_inflight answer entry
  split
  · exact balanced
  rename_i cleaned calls unregistered
  rw [unregistered] at kept
  have idle : entry.inflightCount = 0 := Nat.eq_zero_of_not_pos unused
  exact balanced.tables rfl
    (balanced.memory.retire (lookup_some valid).2.1 idle (kept.trans idle))
    balanced.target

theorem openResolved (resolution : Resolution) (answers : OpenAnswers) :
    Balanced accepted (runtime.openResolved resolution answers).runtime := by
  unfold StorageRuntime.openResolved
  split
  · exact balanced
  · exact balanced.tables rfl balanced.memory (balanced.target.place _ _)

theorem openTarget (resolved : Except Status Resolution) (answers : OpenAnswers) :
    Balanced accepted (runtime.openTarget resolved answers).runtime := by
  unfold StorageRuntime.openTarget
  split
  · exact balanced
  split
  · exact balanced
  · exact balanced.openResolved _ answers

theorem close (handle : TargetHandle)
    (answer : Guarded Unit) : Balanced accepted (runtime.close handle answer).runtime := by
  unfold StorageRuntime.close
  split
  · exact balanced
  rename_i entry valid
  split
  · exact balanced
  rename_i unused
  have idle : entry.inflightCount = 0 := Nat.eq_zero_of_not_pos unused
  exact balanced.tables rfl balanced.memory
    (balanced.target.retire (lookup_some valid).2.1 idle
      ((closeEntry_inflight answer entry).trans idle))

/-- Releasing a terminal IO touches no credit. -/
theorem releaseIo (handle : IoHandle) (answer : DataPathId → DataPathOp → Guarded Unit) :
    Balanced accepted (runtime.releaseIo handle answer).runtime := by
  unfold StorageRuntime.releaseIo
  split
  · exact balanced
  rename_i entry valid
  have found := (lookup_some valid).2.1
  split
  · exact balanced
  rename_i finished
  have ended : entry.live = false := by
    rw [IoEntry.live, Bool.eq_true_of_not_eq_false finished, Bool.not_true, Bool.and_false]
  split
  · exact balanced
  have idle : entry.freed.live = false := Bool.false_and _
  have same := fun side => demandOf_set_same side found entry.freed (idle.trans ended.symm)
    (fun live => nomatch ended.symm.trans live)
  refine balanced.rewrite found entry.freed rfl (balanced.memory.congr (same _))
    (balanced.target.congr (same _)) ?_
  intro live
  exact nomatch idle.symm.trans live

theorem finalizeShutdown (none : runtime.countInflightIo = 0) (answers : ShutdownAnswers) :
    Balanced accepted (runtime.finalizeShutdown answers).runtime := by
  have targets := Covered.retireAll balanced.target (demandOf_eq_zero _ none)
    (fun entry => closeEntry_inflight (answers.closed entry) entry)
  have memories := Covered.retireAll balanced.memory (demandOf_eq_zero _ none)
    (fun entry => (by
      have kept := unregisterDataPathMemory_inflight answers.unregistered entry
      unfold retireMemory
      split
      all_goals
        rename_i unregistered
        rw [unregistered] at kept
        exact kept :
      (retireMemory answers.unregistered entry).2.1.inflightCount = entry.inflightCount))
  unfold StorageRuntime.finalizeShutdown
  split
  · rename_i closing
    rw [closing] at targets
    exact balanced.tables rfl balanced.memory targets
  rename_i closing
  rw [closing] at targets
  split
  · rename_i dropping
    rw [dropping] at memories
    exact balanced.tables rfl memories targets
  · rename_i dropping
    rw [dropping] at memories
    split
    · exact balanced.tables rfl memories targets
    · exact balanced.tables rfl memories targets

theorem shutdownLeave (answers : ShutdownAnswers) :
    Balanced accepted (runtime.shutdownLeave answers).runtime := by
  unfold StorageRuntime.shutdownLeave
  split
  · rename_i none
    exact balanced.finalizeShutdown none answers
  · exact balanced

theorem shutdownEnter (answers : ShutdownAnswers) :
    Balanced accepted (runtime.shutdownEnter answers).runtime := by
  unfold StorageRuntime.shutdownEnter
  split
  · exact balanced
  have draining : Balanced accepted { runtime with state := .draining } :=
    balanced.tables rfl balanced.memory balanced.target
  exact draining.shutdownLeave answers

end

end Balanced

/-! ## Groups that are accepted whole -/

/-- The DataPath takes the whole group: it returns an operation, and either accepts every
request or, as an asynchronous one, leaves the outcome unreadable. -/
def GroupAnswer.acceptsAll (answer : GroupAnswer) (asyncPath : Bool) (count : Nat) : Bool :=
  answer.submitted.op.isSome &&
    match answer.fault count with
    | some _ => asyncPath
    | none => answer.submitted.initialStates.all fun state => state.state == .accepted

variable {groups : List PendingGroup}

namespace StorageRuntime.Issuing

/-- All of these requests were accepted, and no credit was rolled back. -/
structure Taken (members : List Member) (before after : Issuing) : Prop where
  runtime : after.runtime = before.runtime
  count : after.verdicts.states.length = before.verdicts.states.length
  accepted : ∀ index, after.verdicts.acceptedAt index =
    (decide (index ∈ members.map Member.index ∧ index < before.verdicts.states.length) ||
      before.verdicts.acceptedAt index)

theorem Taken.trans {first second third : Issuing} {left right : List Member}
    (earlier : Taken left first second) (later : Taken right second third) :
    Taken (left ++ right) first third where
  runtime := later.runtime.trans earlier.runtime
  count := later.count.trans earlier.count
  accepted index := by
    rw [later.accepted, earlier.accepted, earlier.count, ← Bool.or_assoc, ← Bool.decide_or,
      map_append]
    congr 2
    simp only [mem_append, eq_iff_iff]
    tauto

theorem length_foldl_accept (verdicts : Verdicts) (members : List Member) (status : AnyStatus) :
    (members.foldl (fun verdicts member => verdicts.accept member.index status)
      verdicts).states.length = verdicts.states.length := by
  induction members generalizing verdicts with
  | nil => rfl
  | cons member members ih => exact (ih _).trans length_set

theorem taken_of_verdicts {before after : Issuing} {members : List Member} (status : AnyStatus)
    (runtime : after.runtime = before.runtime) (verdicts : after.verdicts.states = (members.foldl
      (fun verdicts member => verdicts.accept member.index status) before.verdicts).states) :
    Taken members before after where
  runtime
  count := by rw [verdicts, length_foldl_accept]
  accepted index := by
    rw [← Verdicts.acceptedAt_foldl_accept before.verdicts members status index]
    unfold Verdicts.acceptedAt
    rw [verdicts]

theorem settle_whole {items : List (Member × IoRequestInitialState)}
    (all : ∀ item ∈ items, item.2.state = .accepted) (issuing : Issuing) :
    (items.foldl (settleMember true) issuing).runtime = issuing.runtime ∧
      (items.foldl (settleMember true) issuing).verdicts =
        (items.map Prod.fst).foldl (fun verdicts member => verdicts.accept member.index none)
          issuing.verdicts := by
  induction items generalizing issuing with
  | nil => exact ⟨rfl, rfl⟩
  | cons item items ih =>
    have first : issuing.settleMember true item =
        { issuing with
          verdicts := issuing.verdicts.accept item.1.index none
          anyAccepted := true } := if_pos ⟨all item (.head _), rfl⟩
    have rest := ih (fun item member => all item (.tail _ member)) (issuing.settleMember true item)
    rw [foldl_cons, map_cons]
    rw [first] at rest ⊢
    exact rest

/-- Only the loop over the requests moves credits and states. -/
theorem settleGroup_same (issuing : Issuing) (group : PendingGroup) (answer : GroupAnswer) :
    (issuing.settleGroup group answer).runtime =
        ((group.members.zip answer.submitted.initialStates).foldl
          (settleMember answer.submitted.op.isSome) issuing).runtime ∧
      (issuing.settleGroup group answer).verdicts.states =
        ((group.members.zip answer.submitted.initialStates).foldl
          (settleMember answer.submitted.op.isSome) issuing).verdicts.states := by
  unfold settleGroup
  dsimp only
  cases answer.submitted.op with
  | none =>
    split
    · exact ⟨rfl, rfl⟩
    · exact ⟨rfl, rfl⟩
  | some op =>
    cases answer.anyAccepted with
    | true | false => exact ⟨by split <;> rfl, by split <;> rfl⟩

variable {async : DataPathId → Bool} {answers : DataPathId → GroupAnswer}

/-- A group that is accepted whole keeps all its credits. -/
theorem taken_submitGroup {group : PendingGroup}
    (whole : (answers group.dataPath).acceptsAll (async group.dataPath) group.members.length)
    (issuing : Issuing) :
    Taken group.members issuing (submitGroup async answers issuing group) := by
  obtain ⟨hasOp, rest⟩ := Bool.and_eq_true_iff.mp whole
  obtain ⟨op, opEq⟩ := Option.isSome_iff_exists.mp hasOp
  unfold submitGroup
  dsimp only
  cases faulty : (answers group.dataPath).fault group.members.length with
  | some error =>
    rw [faulty] at rest
    simp only [opEq, rest]
    exact taken_of_verdicts (some error) rfl rfl
  | none =>
    rw [faulty] at rest
    have readable := (answers group.dataPath).initialStates_length faulty
    have all : ∀ item ∈ group.members.zip (answers group.dataPath).submitted.initialStates,
        item.2.state = .accepted := by
      intro item member
      exact beq_iff_eq.mp (all_eq_true.mp rest item.2 (of_mem_zip member).2)
    obtain ⟨runtimeEq, verdictsEq⟩ := settle_whole all issuing
    rw [map_fst_zip (le_of_eq readable.symm)] at verdictsEq
    obtain ⟨sameRuntime, sameStates⟩ := settleGroup_same issuing group (answers group.dataPath)
    rw [hasOp] at sameRuntime sameStates
    exact taken_of_verdicts none (sameRuntime.trans runtimeEq)
      (sameStates.trans (congrArg Verdicts.states verdictsEq))

theorem taken_foldl (whole : ∀ group ∈ groups,
      (answers group.dataPath).acceptsAll (async group.dataPath) group.members.length)
    (issuing : Issuing) :
    Taken (groups.flatMap PendingGroup.members) issuing
      (groups.foldl (submitGroup async answers) issuing) := by
  induction groups generalizing issuing with
  | nil =>
    refine ⟨rfl, rfl, fun index => ?_⟩
    simp
  | cons group groups ih =>
    exact (taken_submitGroup (whole group (.head _)) issuing).trans
      (ih (fun group member => whole group (.tail _ member)) _)

end StorageRuntime.Issuing

/-- A group that is accepted whole has its operation kept. -/
theorem keptOps_ne_nil {async : DataPathId → Bool} {answers : DataPathId → GroupAnswer}
    {group : PendingGroup} (filled : group.members ≠ [])
    (whole : (answers group.dataPath).acceptsAll (async group.dataPath) group.members.length) :
    keptOps async answers group ≠ [] := by
  obtain ⟨hasOp, rest⟩ := Bool.and_eq_true_iff.mp whole
  obtain ⟨op, opEq⟩ := Option.isSome_iff_exists.mp hasOp
  have keeps : (answers group.dataPath).keeps (async group.dataPath) group.members.length =
      true := by
    unfold GroupAnswer.keeps
    cases faulty : (answers group.dataPath).fault group.members.length with
    | some error =>
      rw [faulty] at rest
      exact Bool.and_eq_true_iff.mpr ⟨rest, hasOp⟩
    | none =>
      rw [faulty] at rest
      have readable := (answers group.dataPath).initialStates_length faulty
      have reported : (answers group.dataPath).submitted.initialStates ≠ [] := by
        intro none
        rw [none] at readable
        exact filled (eq_nil_of_length_eq_zero readable.symm)
      obtain ⟨state, listed⟩ := exists_mem_of_ne_nil _ reported
      unfold GroupAnswer.anyAccepted
      rw [hasOp]
      exact any_eq_true.mpr ⟨state, listed, all_eq_true.mp rest state listed⟩
  unfold keptOps
  simp only [opEq, keeps]
  exact cons_ne_nil _ _

variable {runtime : StorageRuntime}

variable {planning : Planning}

/-- An issue of groups that are all accepted whole: every credit stays granted, and
exactly the candidates are reported as accepted. -/
theorem issue_whole {count : Nat} {seen : List (IoRequest × Nat)}
    (planned : Planned runtime count seen planning) {answers : SubmitAnswers} (some : groups ≠ [])
    (filled : ∀ group ∈ groups, group.members ≠ [])
    (whole : ∀ group ∈ groups, (answers.group group.dataPath).acceptsAll
      (runtime.components.asyncCompletion group.dataPath) group.members.length) :
    (groups.flatMap (keptOps runtime.components.asyncCompletion answers.group)).isEmpty = false ∧
      (issue planning groups answers).runtime.memoryEntries =
        grantCredits ((groups.flatMap PendingGroup.members).map Member.memorySlot)
          planning.runtime.memoryEntries ∧
      (issue planning groups answers).runtime.targetEntries =
        grantCredits ((groups.flatMap PendingGroup.members).map Member.targetSlot)
          runtime.targetEntries ∧
      ∀ index : Nat, ((issue planning groups answers).value.initialStates[index]?.any
          fun state => state.state == .accepted) =
        decide (index ∈ (groups.flatMap PendingGroup.members).map Member.index ∧
          index < count) := by
  obtain ⟨entries, runtimeEq, _⟩ := planned.within
  have kept : (groups.flatMap (keptOps runtime.components.asyncCompletion
      answers.group)).isEmpty = false := by
    obtain ⟨group, listed⟩ := exists_mem_of_ne_nil _ some
    obtain ⟨operation, held⟩ := exists_mem_of_ne_nil _
      (keptOps_ne_nil (filled group listed) (whole group listed))
    refine isEmpty_eq_false_iff.mpr ?_
    exact ne_nil_of_mem (mem_flatMap.mpr ⟨group, listed, held⟩)
  have within := Issuing.within_foldl runtime.components.asyncCompletion answers.group
    (planning.runtime.reserve groups planning.verdicts) groups
  have taken := Issuing.taken_foldl whole (planning.runtime.reserve groups planning.verdicts)
  have any := within.anyAccepted
  rw [kept, Bool.not_false] at any
  have async : planning.runtime.components.asyncCompletion =
      runtime.components.asyncCompletion := by rw [runtimeEq]
  have targets : planning.runtime.targetEntries = runtime.targetEntries := by rw [runtimeEq]
  refine ⟨kept, ?_, ?_, ?_⟩
  · unfold issue conclude
    simp only [async, any, taken.runtime]
    rfl
  · unfold issue conclude
    simp only [async, any, taken.runtime]
    rw [← targets]
    rfl
  intro index
  have accepted := taken.accepted index
  -- the reservation leaves the verdicts alone
  simp only [reserve, planned.count, planned.undecided index, Bool.or_false] at accepted
  unfold issue conclude
  simp only [async, any]
  exact accepted

/-! ## The accepted requests are the candidates -/

theorem nodup_zipIdx (requests : List IoRequest) : requests.zipIdx.Nodup := by
  refine List.Nodup.of_map Prod.snd ?_
  rw [zipIdx_map_snd]
  exact nodup_range'

variable {requests : List IoRequest}

/-- Requests picked from a batch in order are those found by their indices. -/
theorem filter_zipIdx_perm {picked : List (IoRequest × Nat)}
    (within : picked.Sublist requests.zipIdx) {test : IoRequest × Nat → Bool}
    (listed : ∀ item ∈ requests.zipIdx, test item = true ↔ item.2 ∈ picked.map Prod.snd) :
    (requests.zipIdx.filter test).Perm picked := by
  refine (perm_ext_iff_of_nodup ((nodup_zipIdx requests).filter _)
    (within.nodup (nodup_zipIdx requests))).mpr ?_
  intro item
  rw [mem_filter]
  constructor
  · rintro ⟨member, passes⟩
    obtain ⟨other, chosen, same⟩ := mem_map.mp ((listed item member).mp passes)
    have here := mem_zipIdx_iff_getElem?.mp member
    have there := mem_zipIdx_iff_getElem?.mp (within.subset chosen)
    rw [same, here] at there
    have equal : other = item := Prod.ext (Option.some.inj there).symm same
    exact equal ▸ chosen
  · intro chosen
    have member := within.subset chosen
    exact ⟨member, (listed item member).mpr (mem_map.mpr ⟨item, chosen, rfl⟩)⟩

/-- The reserved entry lists, on each side, the slots of the requests that the submit
reports as accepted. -/
theorem matches_acceptedOf
    (planned : Planned runtime requests.length requests.zipIdx planning)
    {states : List IoRequestInitialState} (generation : Nat) (operations : List DataPathOperation)
    (error : AnyStatus)
    (reported : ∀ index : Nat, (states[index]?.any fun state => state.state == .accepted) =
      decide (index ∈ ((groupCandidates planning.candidates).flatMap
        PendingGroup.members).map Member.index ∧ index < requests.length)) :
    (issuedEntry generation (groupCandidates planning.candidates) operations error).Matches
      (acceptedOf requests states) := by
  have members := members_groupCandidates planning.candidates
  have perm : (acceptedOf requests states).Perm (planning.candidates.map fun candidate =>
      (candidate.2.request.intent, candidate.2.index)) := by
    refine filter_zipIdx_perm planned.candidates ?_
    intro item member
    have inside : item.2 < requests.length := by
      obtain ⟨inside, _⟩ := List.getElem?_eq_some_iff.mp (mem_zipIdx_iff_getElem?.mp member)
      exact inside
    rw [reported, decide_eq_true_iff, and_iff_left inside, (members.map Member.index).mem_iff,
      map_map, map_map]
    rfl
  have counted : ∀ (side : IoRequest → Nat) (slot : Nat),
      (((groupCandidates planning.candidates).flatMap PendingGroup.members).map
          fun member => side member.request.intent).count slot =
        (acceptedOf requests states).countP (fun item => side item.1 == slot) := by
    intro side slot
    rw [perm.countP_eq, countP_map, count_eq_countP, countP_map, members.countP_eq, countP_map]
    rfl
  exact fun slot => ⟨counted (fun request => request.memory.slot) slot,
    counted (fun request => request.target.slot) slot⟩

/-! ## The runs -/

/-- Every DataPath accepts the groups it is handed whole. -/
def Books.Whole (books : Books) : RuntimeOp → Prop
  | .submit requests context answers =>
    ∀ group ∈ groupCandidates (books.runtime.plan requests context answers).candidates,
      (answers.group group.dataPath).acceptsAll
        (books.runtime.components.asyncCompletion group.dataPath) group.members.length
  | _ => True

/-- A new IO in flight whose credits were granted. -/
theorem Balanced.place {accepted : Nat → List (IoRequest × Nat)}
    (balanced : Balanced accepted runtime) (entry : IoEntry) (live : entry.live = true)
    (held : entry.referencesReleased = false) {requests : List (IoRequest × Nat)}
    (fit : entry.Matches requests) (ioEntries : after.ioEntries =
      placeAt runtime.ioEntries (findFreeSlot runtime.ioEntries) entry)
    (memory : Covered after.memoryEntries fun slot =>
      demandOf IoEntry.memorySlots runtime.ioEntries slot + entry.memorySlots.count slot)
    (target : Covered after.targetEntries fun slot =>
      demandOf IoEntry.targetSlots runtime.ioEntries slot + entry.targetSlots.count slot) :
    Balanced (update accepted (findFreeSlot runtime.ioEntries) requests) after := by
  have inside := findFreeSlot_le runtime.ioEntries
  refine ⟨?_, ?_, ?_⟩
  · refine memory.congr fun slot => ?_
    rw [ioEntries, demandOf_placeAt, if_pos live]
  · refine target.congr fun slot => ?_
    rw [ioEntries, demandOf_placeAt, if_pos live]
  intro slot reached found running
  rw [ioEntries, getElem?_placeAt inside] at found
  split at found
  · rename_i here
    cases found
    rw [here, update_self]
    exact ⟨held, fit⟩
  · rename_i elsewhere
    rw [update_of_ne elsewhere]
    exact balanced.live slot reached found running

variable {books : Books}

section

variable (balanced : Balanced books.accepted books.runtime)
include balanced

theorem Balanced.submit (requests : List IoRequest) (context : HostSubmitContext)
    (answers : SubmitAnswers) (whole : books.Whole (.submit requests context answers)) :
    Balanced (books.step (.submit requests context answers)).accepted
      (books.step (.submit requests context answers)).runtime := by
  rcases submit_cases books.runtime requests context answers with
    ⟨refused, ⟨entries, runtimeEq, same⟩⟩ | ⟨_, some, issued, spec⟩
  · have accepted : (books.step (.submit requests context answers)).accepted =
        books.accepted := by
      simp only [Books.step, Books.recorded, refused]
    rw [accepted]
    refine balanced.tables ?_ ?_ ?_
    · simp only [Books.step, runtimeEq]
    · simp only [Books.step, runtimeEq]
      exact balanced.memory.sameSlots same
    · simp only [Books.step, runtimeEq]
      exact balanced.target
  · have planned := planned_plan books.runtime requests context answers
    simp only [Books.Whole] at whole
    generalize books.runtime.plan requests context answers = planning
      at planned some issued spec whole
    obtain ⟨kept, memories, targets, reported⟩ := issue_whole planned some
      (members_ne_nil_of_groupCandidates planning.candidates) whole
    rw [← issued] at memories targets reported
    obtain ⟨_, _, error, after⟩ := spec.after
    have io := spec.io
    rw [kept] at io
    have fit := matches_acceptedOf planned (nextGeneration books.runtime.ioGenCounter)
      ((groupCandidates planning.candidates).flatMap
        (keptOps books.runtime.components.asyncCompletion answers.group)) error reported
    have members := members_groupCandidates planning.candidates
    have active : ∀ member ∈ (groupCandidates planning.candidates).flatMap PendingGroup.members,
        activeAt books.runtime.memoryEntries member.memorySlot = true ∧
          activeAt books.runtime.targetEntries member.targetSlot = true := by
      intro member listed
      obtain ⟨candidate, chosen, rfl⟩ := mem_map.mp (members.mem_iff.mp listed)
      exact planned.active candidate chosen
    obtain ⟨entries, runtimeEq, same⟩ := planned.within
    have recorded : (books.step (.submit requests context answers)).accepted =
        update books.accepted (findFreeSlot books.runtime.ioEntries)
          (acceptedOf requests
            (books.runtime.submit requests context answers).value.initialStates) := by
      simp [Books.step, Books.recorded, io]
    rw [recorded]
    refine balanced.place _ ?_ kept fit ?_ ?_ ?_
    · simp [IoEntry.live, issuedEntry, reservedEntry, kept]
    · simp only [Books.step, after]
    · simp only [Books.step, memories, runtimeEq]
      refine (balanced.memory.sameSlots same).grant fun slot listed => ?_
      obtain ⟨member, held, rfl⟩ := mem_map.mp listed
      exact (same _).2.trans (active member held).1
    · simp only [Books.step, targets]
      refine balanced.target.grant fun slot listed => ?_
      obtain ⟨member, held, rfl⟩ := mem_map.mp listed
      exact (active member held).2

theorem Balanced.step (idle : Idle books.runtime.ioEntries) (op : RuntimeOp)
    (whole : books.Whole op) :
    Balanced (books.step op).accepted (books.step op).runtime := by
  cases op with
  | registerMemory view vendor => exact balanced.registerMemory view vendor
  | allocateMemory size kind accelId allocated =>
    exact balanced.allocateMemory size kind accelId allocated
  | unregisterMemory handle answer | freeMemory handle answer =>
    exact balanced.dropMemory _ _ handle answer
  | openTarget resolved answers => exact balanced.openTarget resolved answers
  | openBatchItem resolution answers => exact balanced.openResolved resolution answers
  | close handle answer => exact balanced.close handle answer
  | submit requests context answers => exact balanced.submit requests context answers whole
  | harvest errors answers => exact balanced.harvest idle errors answers
  | releaseIo handle answer => exact balanced.releaseIo handle answer
  | shutdownEnter answers => exact balanced.shutdownEnter answers
  | shutdownLeave answers => exact balanced.shutdownLeave answers

omit balanced in
theorem balanced_created (runtimeId : Nat) (config : RuntimeConfig)
    (components : RuntimeComponents) (paths : List DataPathId) :
    Balanced (fun _ => []) (created runtimeId config components paths) where
  memory := ⟨fun _ => rfl, nofun⟩
  target := ⟨fun _ => rfl, nofun⟩
  live _ _ found := nomatch found

/-! ## Exact counts -/

/-- The accepted requests on a slot whose IO is not terminal yet. -/
def Books.outstanding (books : Books) (side : IoRequest → Nat) (slot : Nat) : Nat :=
  (books.runtime.ioEntries.zipIdx.map fun item =>
    if item.1.live then
      (books.accepted item.2).countP (fun accepted => side accepted.1 == slot)
    else 0).sum

/-- Every count is the number of accepted requests in flight, and so `close` and
`unregister_memory` are refused as BUSY exactly while there are some. -/
structure Books.CreditsExact (books : Books) : Prop where
  memory : ∀ (slot : Nat) (entry : MemoryEntry),
    books.runtime.memoryEntries[slot]? = some entry →
      entry.inflightCount = books.outstanding (fun request => request.memory.slot) slot
  target : ∀ (slot : Nat) (entry : TargetEntry),
    books.runtime.targetEntries[slot]? = some entry →
      entry.inflightCount = books.outstanding (fun request => request.target.slot) slot
  closing : ∀ (handle : TargetHandle) (entry : TargetEntry) (answer : Guarded Unit),
    books.runtime.validateTarget handle = some entry →
      (books.runtime.close handle answer).value =
        if 0 < books.outstanding (fun request => request.target.slot) handle.slot then
          some ⟨.busy, "target has inflight operations"⟩
        else (closeEntry answer entry).1
  unregistering : ∀ (handle : MemoryHandle) (entry : MemoryEntry)
    (answer : DataPathMemoryRegistration → Guarded Unit),
    books.runtime.validateMemory handle = some entry → entry.body.ownership = .callerOwned →
      (books.runtime.unregisterMemory handle answer).value =
        if 0 < books.outstanding (fun request => request.memory.slot) handle.slot then
          some ⟨.busy, "memory has inflight operations"⟩
        else (unregisterDataPathMemory answer entry).1

theorem Balanced.outstanding_eq (side : IoRequest → Nat) (slots : IoEntry → List Nat)
    (fits : ∀ (entry : IoEntry) (accepted : List (IoRequest × Nat)), entry.Matches accepted →
      ∀ slot, (slots entry).count slot =
        accepted.countP (fun item => side item.1 == slot)) (slot : Nat) :
    demandOf slots books.runtime.ioEntries slot = books.outstanding side slot := by
  unfold demandOf
  nth_rewrite 1 [← zipIdx_map_fst 0 books.runtime.ioEntries]
  rw [map_map]
  refine congrArg sum (map_congr_left ?_)
  intro item member
  have found := mem_zipIdx_iff_getElem?.mp member
  rw [comp_apply]
  split
  · rename_i live
    exact fits item.1 _ (balanced.live item.2 item.1 found live).2 slot
  · rfl

theorem Balanced.creditsExact :
    books.CreditsExact := by
  have memories := fun slot entry (found : books.runtime.memoryEntries[slot]? = some entry) =>
    (balanced.memory.inflightCount found).trans
      (balanced.outstanding_eq (fun request => request.memory.slot) _
        (fun _ _ fit slot => (fit slot).1) slot)
  have targets := fun slot entry (found : books.runtime.targetEntries[slot]? = some entry) =>
    (balanced.target.inflightCount found).trans
      (balanced.outstanding_eq (fun request => request.target.slot) _
        (fun _ _ fit slot => (fit slot).2) slot)
  refine ⟨memories, targets, ?_, ?_⟩
  · intro handle entry answer valid
    rw [← targets handle.slot entry (lookup_some valid).2.1]
    unfold StorageRuntime.close
    rw [valid]
    dsimp only
    split
    · rfl
    · rfl
  · intro handle entry answer valid owned
    rw [← memories handle.slot entry (lookup_some valid).2.1]
    unfold StorageRuntime.unregisterMemory StorageRuntime.dropMemory
    rw [valid]
    dsimp only
    rw [if_neg (not_not.mpr owned)]
    split
    · rfl
    split
    · rename_i failed
      rw [failed]
    · rename_i done
      rw [done]

end

/-- Along every run in which the DataPaths accept each group whole, the credits are
exact in every state. -/
theorem creditsExact_of_whole (runtimeId : Nat) (config : RuntimeConfig)
    (components : RuntimeComponents) (paths : List DataPathId) (ops : List RuntimeOp)
    (whole : Along Books.step Books.Whole
      { runtime := created runtimeId config components paths } ops) :
    Always Books.step Books.CreditsExact
      { runtime := created runtimeId config components paths } ops := by
  have always : Always Books.step
      (fun books => Idle books.runtime.ioEntries ∧ Balanced books.accepted books.runtime)
      { runtime := created runtimeId config components paths } ops :=
    Along.always
      (fun books op holds whole =>
        ⟨books.step_runtime op ▸ holds.1.apply op, holds.2.step holds.1 op whole⟩)
      ⟨fun _ _ found => (nomatch found), balanced_created runtimeId config components paths⟩ whole
  exact always.imp fun _ holds => holds.2.creditsExact

/-- Two reads in flight on one target, then one. -/
theorem creditsExact_of_whole_pair :
    Along Books.step Books.Whole { runtime := created 1 {} (plainComponents false) [0] }
        (plainSetup ++ [submitBytes (some 1) [.accepted, .accepted],
          submitBytes (some 2) [.accepted], completing [1]]) ∧
      Always Books.step Books.CreditsExact
        { runtime := created 1 {} (plainComponents false) [0] }
        (plainSetup ++ [submitBytes (some 1) [.accepted, .accepted],
          submitBytes (some 2) [.accepted], completing [1]]) := by
  refine ⟨?whole, creditsExact_of_whole 1 {} (plainComponents false) [0] _ ?whole⟩
  refine ⟨trivial, trivial, ?_, ?_, trivial, trivial⟩
  all_goals
    intro group member
    rw [mem_singleton.mp member]
    rfl

/-- A read in flight, and a batch of two of which the DataPath takes the first: when the
batch ends, the target has no credit left although the read is in flight, and can be
closed. -/
theorem partialAccept_loses_credit :
    ¬ Books.CreditsExact (runFrom Books.step
        { runtime := created 1 {} (plainComponents false) [0] }
        (plainSetup ++ [submitBytes (some 1) [.accepted],
          submitBytes (some 2) [.accepted, .rejected], completing [2]])) ∧
      ((runFrom Books.step { runtime := created 1 {} (plainComponents false) [0] }
        (plainSetup ++ [submitBytes (some 1) [.accepted],
          submitBytes (some 2) [.accepted, .rejected], completing [2]])).runtime.close ⟨1, 0, 1⟩
        (.plain (.ok ()))).value = none := by
  refine ⟨fun credits => ?_, rfl⟩
  have exactly : 0 = 1 := credits.target 0 ⟨true, 1, 0, ⟨8, some 0, 0, "domain"⟩⟩ rfl
  exact absurd exactly (by decide)

end Tutti
