import Mathlib.Logic.Relation
import Tutti.Index.ChunkIndex

/-!
# The engine of a rank

`KVEngine` forwards the planning calls of a worker to the rank's own `ChunkIndex`
and remembers the keys of the open plans. A key of an open plan is never resident,
whatever the worker does; the engine's write path relies on it when a plan is
refused because its keys are in flight.
-/

namespace Tutti

open ChunkIndex Foundation

/-- The planning state of a rank's engine, which is bound for direct transfer. -/
structure KVEngine (Key : Type) where
  index : ChunkIndex Key
  plannedStoreKeys : Finset Key

namespace KVEngine

variable {Key : Type} [DecidableEq Key]

/-- `hash_keys` from the start of a request. -/
def hashKeys (digest : Key → List Nat → Key) (engine : KVEngine Key) (tokenIds : List Nat) :
    List Key :=
  (engine.index.hashKeys digest tokenIds 0 none).1

/-- `confirm_store`. -/
def confirmStore (engine : KVEngine Key) (keys : List Key) (ok : Bool) : KVEngine Key where
  index := engine.index.confirmStore keys ok
  plannedStoreKeys := engine.plannedStoreKeys \ keys.toFinset

/-- The outcome of `plan_store`: refused, admitted, or raised by the preparation of
the write targets, which withdraws the plan. -/
inductive PlanOutcome (Key : Type) where
  | refused
  | admitted (plan : StorePlan Key)
  | raised

/-- `plan_store`. `prepares` says whether the backend can prepare the targets. -/
def planStore (engine : KVEngine Key) (keys : List Key) (prepares : Bool) :
    PlanOutcome Key × KVEngine Key :=
  match engine.index.planStore keys with
  | none => (.refused, engine)
  | some (plan, index) =>
    let planned : KVEngine Key :=
      ⟨index, engine.plannedStoreKeys ∪ plan.newKeys.toFinset⟩
    if plan.newKeys ≠ [] ∧ prepares = false then
      (.raised, planned.confirmStore plan.newKeys false)
    else (.admitted plan, planned)

/-- The keys of a batch that `apply_evictions` may drop. -/
def droppable (engine : KVEngine Key) (keys : List Key) : List Key :=
  keys.filter fun key => engine.index.isResident key && !engine.index.isPinned key

/-- `apply_evictions`: drop what the scheduler evicted, as far as it is resident and
unprotected here. -/
def applyEvictions (engine : KVEngine Key) (keys : List Key) : Nat × KVEngine Key :=
  let droppable := engine.droppable keys
  (droppable.length,
    ⟨(engine.index.forget droppable).2, engine.plannedStoreKeys \ droppable.toFinset⟩)

/-- `begin_step`. -/
def beginStep (engine : KVEngine Key) (maxPendingAge : Nat) : Nat × KVEngine Key :=
  let (reclaimed, index) := engine.index.advanceEpoch.reclaimStalePending maxPendingAge
  (reclaimed.length, ⟨index, engine.plannedStoreKeys \ reclaimed.toFinset⟩)

/-- `store_plan_pending`. -/
def storePlanPending (engine : KVEngine Key) (keys : List Key) : Bool :=
  keys.all (· ∈ engine.plannedStoreKeys)

/-- `pin`: the missing keys are raised. -/
def pin (engine : KVEngine Key) (keys : List Key) : Except (List Key) (KVEngine Key) :=
  match engine.index.pin keys with
  | .error missing => .error missing
  | .ok index => .ok { engine with index }

/-- `unpin`: the first unprotected key is raised. -/
def unpin (engine : KVEngine Key) (keys : List Key) : Except Key Unit × KVEngine Key :=
  let (result, index) := engine.index.unpin keys
  (result, { engine with index })

/-- An engine over an empty index. -/
def fresh (index : ChunkIndex Key) : KVEngine Key := ⟨index, ∅⟩

/-! ## What the operations do to one key -/

variable {keys : List Key}

variable {engine next : KVEngine Key}

theorem pin_ok (pinned : engine.pin keys = .ok next) :
    (∀ key ∈ keys, key ∈ engine.index.resident) ∧
      next = { engine with
        index := { engine.index with
          pins := fun key => engine.index.pins key + keys.count key } } := by
  unfold pin ChunkIndex.pin at pinned
  by_cases complete : keys.filter (· ∉ engine.index.resident) = []
  · simp only [complete, ne_eq, not_true_eq_false, ↓reduceIte, Except.ok.injEq] at pinned
    refine ⟨fun key member => ?_, pinned.symm⟩
    simpa using List.filter_eq_nil_iff.mp complete key member
  · simp only [ne_eq, complete, not_false_eq_true, ↓reduceIte, reduceCtorEq] at pinned

variable {engine : KVEngine Key}

theorem pin_error {keys missing : List Key} (refused : engine.pin keys = .error missing) :
    ∃ key ∈ keys, key ∉ engine.index.resident := by
  unfold pin ChunkIndex.pin at refused
  by_cases complete : keys.filter (· ∉ engine.index.resident) = []
  · simp only [complete, ne_eq, not_true_eq_false, ↓reduceIte, reduceCtorEq] at refused
  obtain ⟨key, member⟩ := List.exists_mem_of_ne_nil _ complete
  rw [List.mem_filter, decide_eq_true_eq] at member
  exact ⟨key, member⟩

/-- Releasing protections changes nothing but their counts. -/
theorem unpin_eq (engine : KVEngine Key) (keys : List Key) :
    ∃ pins, (engine.unpin keys).2 =
      { engine with index := { engine.index with pins } } := by
  obtain ⟨pins, same, _⟩ := engine.index.unpin_eq keys
  exact ⟨pins, congrArg (fun index => { engine with index }) same⟩

theorem mem_resident_applyEvictions {key : Key} :
    key ∈ (engine.applyEvictions keys).2.index.resident ↔
      key ∈ engine.index.resident ∧ (key ∈ keys → 0 < engine.index.pins key) := by
  simp only [applyEvictions, droppable, forget, OrderedDict.mem_eraseIf, List.mem_filter,
    isResident, isPinned, Bool.and_eq_true, Bool.not_eq_true', decide_eq_false_iff_not, Nat.not_lt]
  rw [and_comm]
  refine and_congr_right fun resident => ?_
  simp only [resident, Nat.pos_iff_ne_zero]
  constructor
  · intro kept member free
    simp [member, free] at kept
  intro kept
  by_cases member : key ∈ keys
  · simp [kept member]
  · simp [member]

/-- An admitted plan is a plan of the index. -/
theorem planStore_admitted {prepares : Bool} {plan : StorePlan Key}
    (admitted : engine.planStore keys prepares = (.admitted plan, next)) :
    engine.index.Planned keys plan next.index := by
  unfold planStore at admitted
  split at admitted
  · exact nomatch congrArg Prod.fst admitted
  rename_i inner
  split at admitted
  · exact nomatch congrArg Prod.fst admitted
  · cases admitted
    exact planStore_planned inner

/-! ## Open plans and resident keys -/

/-- No key of an open plan is resident. -/
def Apart (engine : KVEngine Key) : Prop :=
  ∀ key ∈ engine.plannedStoreKeys, key ∉ engine.index.resident

omit [DecidableEq Key] in
/-- Fewer open plans and fewer resident keys stay apart. -/
theorem Apart.mono (apart : engine.Apart)
    (planned : next.plannedStoreKeys ⊆ engine.plannedStoreKeys)
    (resident : ∀ key, key ∈ next.index.resident → key ∈ engine.index.resident) : next.Apart :=
  fun key member present => apart key (planned member) (resident key present)

theorem Apart.confirmStore (apart : engine.Apart) (keys : List Key) (ok : Bool) :
    (engine.confirmStore keys ok).Apart := by
  intro key member present
  obtain ⟨planned, other⟩ := Finset.mem_sdiff.mp member
  rw [List.mem_toFinset] at other
  rcases mem_resident_confirmStore.mp present with ⟨_, named⟩ | before
  · exact other named
  · exact apart key planned before

theorem Apart.planStore (apart : engine.Apart) (keys : List Key) (prepares : Bool) :
    (engine.planStore keys prepares).2.Apart := by
  unfold KVEngine.planStore
  split
  · exact apart
  rename_i plan index inner
  have planned := planStore_planned inner
  have opened : Apart ⟨index, engine.plannedStoreKeys ∪ plan.newKeys.toFinset⟩ := by
    intro key member present
    have before := (planned.mem_resident.mp present).2
    rcases Finset.mem_union.mp member with old | new
    · exact apart key old before
    · exact (planned.mem_newKeys.mp (List.mem_toFinset.mp new)).2 before
  split
  · exact opened.confirmStore plan.newKeys false
  · exact opened

theorem Apart.applyEvictions (apart : engine.Apart) (keys : List Key) :
    (engine.applyEvictions keys).2.Apart :=
  apart.mono Finset.sdiff_subset fun _ present => (mem_resident_applyEvictions.mp present).1

/-- The engine up to its protections. -/
def SameUpToPins (before after : KVEngine Key) : Prop :=
  ∃ pins, after = { before with index := { before.index with pins } }

omit [DecidableEq Key] in
theorem SameUpToPins.refl (engine : KVEngine Key) : SameUpToPins engine engine :=
  ⟨engine.index.pins, rfl⟩

omit [DecidableEq Key] in
theorem SameUpToPins.trans {first second third : KVEngine Key} (left : SameUpToPins first second)
    (right : SameUpToPins second third) : SameUpToPins first third := by
  obtain ⟨_, rfl⟩ := left
  obtain ⟨pins, rfl⟩ := right
  exact ⟨pins, rfl⟩

/-- What a worker does to its engine. -/
inductive Moves (engine : KVEngine Key) : KVEngine Key → Prop
  | pins {next : KVEngine Key} (same : SameUpToPins engine next) : Moves engine next
  | beginStep (maxPendingAge : Nat) : Moves engine (engine.beginStep maxPendingAge).2
  | applyEvictions (keys : List Key) : Moves engine (engine.applyEvictions keys).2
  | planStore (keys : List Key) (prepares : Bool) : Moves engine (engine.planStore keys prepares).2
  | confirmStore (keys : List Key) (ok : Bool) : Moves engine (engine.confirmStore keys ok)

/-- The states that a worker can bring its engine to. -/
abbrev Evolves : KVEngine Key → KVEngine Key → Prop := Relation.ReflTransGen Moves

theorem chain_planStore (engine : KVEngine Key) (keys : List Key) (prepares : Bool) :
    (engine.planStore keys prepares).2.index.chain = engine.index.chain := by
  unfold KVEngine.planStore
  split
  · rfl
  rename_i plan index inner
  have same : index.chain = engine.index.chain := by
    rw [(planStore_planned inner).next_eq]
    rfl
  split
  · exact (index.confirmStore_frame plan.newKeys false).2.1.trans same
  · exact same

theorem Moves.apart (moves : Moves engine next)
    (apart : engine.Apart) : next.Apart := by
  cases moves with
  | pins same =>
    obtain ⟨pins, rfl⟩ := same
    exact apart
  | beginStep maxPendingAge => exact apart.mono Finset.sdiff_subset fun _ => id
  | applyEvictions keys => exact apart.applyEvictions keys
  | planStore keys prepares => exact apart.planStore keys prepares
  | confirmStore keys ok => exact apart.confirmStore keys ok

theorem Moves.chain (moves : Moves engine next) :
    next.index.chain = engine.index.chain := by
  cases moves with
  | pins same =>
    obtain ⟨pins, rfl⟩ := same
    rfl
  | beginStep maxPendingAge => rfl
  | applyEvictions keys => rfl
  | planStore keys prepares => exact engine.chain_planStore keys prepares
  | confirmStore keys ok => exact (engine.index.confirmStore_frame keys ok).2.1

/-- Whatever the worker does, open plans and resident keys stay apart and the keys of
the engine stay the same. -/
theorem Evolves.apart (evolves : Evolves engine next)
    (apart : engine.Apart) : next.Apart := by
  induction evolves with
  | refl => exact apart
  | tail _ moves ih => exact moves.apart ih

theorem Evolves.chain (evolves : Evolves engine next) :
    next.index.chain = engine.index.chain := by
  induction evolves with
  | refl => rfl
  | tail _ moves ih => exact moves.chain.trans ih

end KVEngine

end Tutti
