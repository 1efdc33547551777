import Mathlib.Data.Finset.Basic
import Mathlib.Data.List.Nodup
import Tutti.Foundation.Bytes
import Tutti.Foundation.Run

/-!
# The slot allocator of the object store

A slot is free, reserved, committed or reclaiming. Never-used slots are handed
out in ascending order up to the high-water mark, recycled slots come first, and
a slot returns to the free list only through the reclaim queue, where the caller
zeroes it. None of the operations fails: slots in the wrong state are ignored.
-/

namespace Tutti

open Function List

open Foundation (uint64Size)

/-- A slot's lifecycle. -/
inductive SlotState where
  | free
  | reserved
  | committed
  | reclaiming
  deriving DecidableEq, Repr

/-- Result of a reservation attempt; `generations` is parallel to `slots`. -/
structure SlotReservation where
  slots : List Nat
  generations : List Nat
  rejected : Nat
  deriving DecidableEq, Repr

/-- Occupancy counts of the slots below the high-water mark, and the number of
slots never handed out. -/
structure SpaceAllocatorStats where
  totalSlots : Nat
  freeSlots : Nat
  reservedSlots : Nat
  committedSlots : Nat
  reclaimingSlots : Nat
  unmaterialisedSlots : Nat
  deriving DecidableEq, Repr

/-- The allocator. `states` and `generations` are only read below `totalSlots`. -/
structure SpaceAllocator where
  totalSlots : Nat
  slotBytes : Nat
  highWater : Nat
  readyLimit : Nat
  states : Nat → SlotState
  generations : Nat → Nat
  freeList : List Nat
  reclaimQueue : List Nat
  reclaimInFlight : Finset Nat

namespace SpaceAllocator

/-- A default-constructed allocator: no slots, and no ready limit. -/
def unconfigured : SpaceAllocator where
  totalSlots := 0
  slotBytes := 0
  highWater := 0
  readyLimit := uint64Size - 1
  states := fun _ => .free
  generations := fun _ => 0
  freeList := []
  reclaimQueue := []
  reclaimInFlight := ∅

/-- `configure` derives the slot count from the capacity and forgets every slot;
it refuses a capacity below one slot. The ready limit is not touched. -/
def configure (allocator : SpaceAllocator) (capacityBytes slotBytes : Nat) :
    Option SpaceAllocator :=
  if slotBytes = 0 then none
  else if capacityBytes / slotBytes = 0 then none
  else some { allocator with
    totalSlots := capacityBytes / slotBytes
    slotBytes
    highWater := 0
    states := fun _ => .free
    generations := fun _ => 0
    freeList := []
    reclaimQueue := []
    reclaimInFlight := ∅ }

def setReadyLimit (allocator : SpaceAllocator) (limit : Nat) : SpaceAllocator :=
  { allocator with readyLimit := limit }

/-- Write one entry of `states_`. -/
def mark (allocator : SpaceAllocator) (slot : Nat) (state : SlotState) : SpaceAllocator :=
  { allocator with states := update allocator.states slot state }

/-- `take_free_slot_locked`: a recycled slot, else the next never-used one below
the ready limit, else the sentinel `totalSlots`. -/
def takeFreeSlot (allocator : SpaceAllocator) : Nat × SpaceAllocator :=
  match allocator.freeList with
  | slot :: rest => (slot, { allocator with freeList := rest })
  | [] =>
    if allocator.highWater < min allocator.totalSlots allocator.readyLimit then
      (allocator.highWater, { allocator with highWater := allocator.highWater + 1 })
    else (allocator.totalSlots, allocator)

/-- `reserve`: takes what is available and reports the remainder. -/
def reserve : Nat → SpaceAllocator → SlotReservation × SpaceAllocator
  | 0, allocator => (⟨[], [], 0⟩, allocator)
  | count + 1, allocator =>
    let taken := allocator.takeFreeSlot
    if taken.2.totalSlots ≤ taken.1 then (⟨[], [], count + 1⟩, taken.2)
    else
      let rest := reserve count (taken.2.mark taken.1 .reserved)
      (⟨taken.1 :: rest.1.slots, taken.2.generations taken.1 :: rest.1.generations,
        rest.1.rejected⟩, rest.2)

/-- The body of the loop of `commit`. -/
def commitSlot (allocator : SpaceAllocator) (slot : Nat) : SpaceAllocator :=
  if allocator.totalSlots ≤ slot then allocator
  else if allocator.states slot = .reserved then allocator.mark slot .committed
  else allocator

def commit (allocator : SpaceAllocator) (slots : List Nat) : SpaceAllocator :=
  slots.foldl commitSlot allocator

/-- The common body of the loops of `abort` and `release`: a slot in state `source`
starts reclaiming and joins the queue. -/
def retireSlot (source : SlotState) (allocator : SpaceAllocator) (slot : Nat) : SpaceAllocator :=
  if allocator.totalSlots ≤ slot then allocator
  else if allocator.states slot = source then
    { allocator.mark slot .reclaiming with reclaimQueue := allocator.reclaimQueue ++ [slot] }
  else allocator

/-- `abort`: reserved slots start reclaiming, all others are ignored. -/
def abort (allocator : SpaceAllocator) (slots : List Nat) : SpaceAllocator :=
  slots.foldl (retireSlot .reserved) allocator

/-- `release`: committed slots start reclaiming, all others are ignored. The
count it returns has no reader in the store. -/
def release (allocator : SpaceAllocator) (slots : List Nat) : SpaceAllocator :=
  slots.foldl (retireSlot .committed) allocator

/-- `take_reclaimable`: the slots leave the queue and are in flight until they
are finished or requeued. -/
def takeReclaimable (allocator : SpaceAllocator) (max : Nat) : List Nat × SpaceAllocator :=
  (allocator.reclaimQueue.take max,
    { allocator with
      reclaimQueue := allocator.reclaimQueue.drop max
      reclaimInFlight := allocator.reclaimInFlight ∪ (allocator.reclaimQueue.take max).toFinset })

/-- The body of the loop of `finish_reclaim`: the generation is bumped (64-bit)
and the slot is free again. -/
def finishSlot (allocator : SpaceAllocator) (slot : Nat) : SpaceAllocator :=
  if allocator.totalSlots ≤ slot then allocator
  else if slot ∈ allocator.reclaimInFlight then
    { allocator.mark slot .free with
      reclaimInFlight := allocator.reclaimInFlight.erase slot
      generations := update allocator.generations slot
        ((allocator.generations slot + 1) % uint64Size)
      freeList := allocator.freeList ++ [slot] }
  else allocator

def finishReclaim (allocator : SpaceAllocator) (slots : List Nat) : SpaceAllocator :=
  slots.foldl finishSlot allocator

/-- The body of the loop of `requeue_reclaim`: the slot stays reclaiming. -/
def requeueSlot (allocator : SpaceAllocator) (slot : Nat) : SpaceAllocator :=
  if allocator.totalSlots ≤ slot then allocator
  else if slot ∈ allocator.reclaimInFlight then
    { allocator with
      reclaimInFlight := allocator.reclaimInFlight.erase slot
      reclaimQueue := allocator.reclaimQueue ++ [slot] }
  else allocator

def requeueReclaim (allocator : SpaceAllocator) (slots : List Nat) : SpaceAllocator :=
  slots.foldl requeueSlot allocator

def generationOf (allocator : SpaceAllocator) (slot : Nat) : Nat :=
  if allocator.totalSlots ≤ slot then 0 else allocator.generations slot

/-- How many slots below the high-water mark are in a state. -/
def countIn (allocator : SpaceAllocator) (state : SlotState) : Nat :=
  (range allocator.highWater).countP (fun slot => allocator.states slot = state)

def stats (allocator : SpaceAllocator) : SpaceAllocatorStats where
  totalSlots := allocator.totalSlots
  freeSlots := allocator.countIn .free
  reservedSlots := allocator.countIn .reserved
  committedSlots := allocator.countIn .committed
  reclaimingSlots := allocator.countIn .reclaiming
  unmaterialisedSlots := allocator.totalSlots - allocator.highWater

/-! ## The representation invariant -/

/-- The free list holds the free slots below the high-water mark, the reclaim
queue and the in-flight set share the reclaiming ones, each once. -/
structure Sound (allocator : SpaceAllocator) : Prop where
  highWater_le : allocator.highWater ≤ allocator.totalSlots
  free_iff : ∀ slot, slot ∈ allocator.freeList ↔
    slot < allocator.highWater ∧ allocator.states slot = .free
  reclaiming_iff : ∀ slot, (slot ∈ allocator.reclaimQueue ∨ slot ∈ allocator.reclaimInFlight) ↔
    slot < allocator.highWater ∧ allocator.states slot = .reclaiming
  untouched : ∀ slot, allocator.highWater ≤ slot → allocator.states slot = .free
  freeList_nodup : allocator.freeList.Nodup
  reclaimQueue_nodup : allocator.reclaimQueue.Nodup
  queue_disjoint : ∀ slot ∈ allocator.reclaimQueue, slot ∉ allocator.reclaimInFlight

variable {allocator next : SpaceAllocator} {slot : Nat}

/-- A slot that is not free has been handed out. -/
theorem Sound.lt_highWater (sound : allocator.Sound) (used : allocator.states slot ≠ .free) :
    slot < allocator.highWater := by
  by_contra beyond
  exact used (sound.untouched slot (by omega))

theorem Sound.lt_totalSlots (sound : allocator.Sound) (used : allocator.states slot ≠ .free) :
    slot < allocator.totalSlots :=
  lt_of_lt_of_le (sound.lt_highWater used) sound.highWater_le

/-- A reserved or committed slot is in none of the three collections. -/
theorem Sound.not_mem_of_held (sound : allocator.Sound)
    (held : allocator.states slot = .reserved ∨ allocator.states slot = .committed) :
    slot ∉ allocator.freeList ∧ slot ∉ allocator.reclaimQueue ∧
      slot ∉ allocator.reclaimInFlight := by
  refine ⟨fun member => ?_, fun member => ?_, fun member => ?_⟩
  · have state := ((sound.free_iff slot).mp member).2
    simp only [state, reduceCtorEq, or_self] at held
  · have state := ((sound.reclaiming_iff slot).mp (.inl member)).2
    simp only [state, reduceCtorEq, or_self] at held
  · have state := ((sound.reclaiming_iff slot).mp (.inr member)).2
    simp only [state, reduceCtorEq, or_self] at held

theorem sound_unconfigured : unconfigured.Sound where
  highWater_le := le_refl 0
  free_iff := by simp [unconfigured]
  reclaiming_iff := by simp [unconfigured]
  untouched := fun _ _ => rfl
  freeList_nodup := nodup_nil
  reclaimQueue_nodup := nodup_nil
  queue_disjoint := by simp [unconfigured]

/-- What `configure` asks for, and what it leaves. -/
theorem configure_eq_some_iff {capacityBytes slotBytes : Nat} :
    allocator.configure capacityBytes slotBytes = some next ↔
      slotBytes ≠ 0 ∧ capacityBytes / slotBytes ≠ 0 ∧ next = { allocator with
        totalSlots := capacityBytes / slotBytes
        slotBytes
        highWater := 0
        states := fun _ => .free
        generations := fun _ => 0
        freeList := []
        reclaimQueue := []
        reclaimInFlight := ∅ } := by
  unfold configure
  split
  · rename_i zero
    exact ⟨nofun, fun ok => absurd zero ok.1⟩
  rename_i sized
  split
  · rename_i none
    exact ⟨nofun, fun ok => absurd none ok.2.1⟩
  · rename_i positive
    exact ⟨fun same => ⟨sized, positive, (Option.some.inj same).symm⟩, fun ok => ok.2.2 ▸ rfl⟩

theorem sound_configure {capacityBytes slotBytes : Nat}
    (configured : allocator.configure capacityBytes slotBytes = some next) : next.Sound := by
  obtain ⟨_, _, rfl⟩ := configure_eq_some_iff.mp configured
  exact {
    highWater_le := Nat.zero_le _
    free_iff := by simp
    reclaiming_iff := by simp
    untouched := fun _ _ => rfl
    freeList_nodup := nodup_nil
    reclaimQueue_nodup := nodup_nil
    queue_disjoint := by simp }

/-! ## One slot at a time -/

section

variable (allocator) (slot) (state : SlotState)

@[simp] theorem mark_states :
    (allocator.mark slot state).states = update allocator.states slot state := rfl

@[simp] theorem mark_freeList : (allocator.mark slot state).freeList = allocator.freeList := rfl

@[simp] theorem mark_reclaimQueue :
    (allocator.mark slot state).reclaimQueue = allocator.reclaimQueue := rfl

@[simp] theorem mark_reclaimInFlight :
    (allocator.mark slot state).reclaimInFlight = allocator.reclaimInFlight := rfl

end

/-- Pushing an absent slot at the back of a duplicate-free queue. -/
theorem nodup_push {slots : List Nat} (nodup : slots.Nodup) (absent : slot ∉ slots) :
    (slots ++ [slot]).Nodup := by
  rw [← concat_eq_append]
  exact nodup.concat absent

/-- What every operation leaves alone: the geometry and the ready limit. -/
structure SameGeometry (before after : SpaceAllocator) : Prop where
  totalSlots : after.totalSlots = before.totalSlots
  slotBytes : after.slotBytes = before.slotBytes
  readyLimit : after.readyLimit = before.readyLimit

theorem SameGeometry.refl (allocator : SpaceAllocator) : SameGeometry allocator allocator :=
  ⟨rfl, rfl, rfl⟩

theorem SameGeometry.trans {first second third : SpaceAllocator}
    (left : SameGeometry first second) (right : SameGeometry second third) :
    SameGeometry first third :=
  ⟨right.totalSlots.trans left.totalSlots, right.slotBytes.trans left.slotBytes,
    right.readyLimit.trans left.readyLimit⟩

/-- What every operation but `reserve` leaves alone: also the high-water mark. -/
structure SameExtent (before after : SpaceAllocator) : Prop extends SameGeometry before after where
  highWater : after.highWater = before.highWater

theorem SameExtent.refl (allocator : SpaceAllocator) : SameExtent allocator allocator :=
  ⟨.refl allocator, rfl⟩

theorem SameExtent.trans {first second third : SpaceAllocator}
    (left : SameExtent first second) (right : SameExtent second third) :
    SameExtent first third :=
  ⟨left.toSameGeometry.trans right.toSameGeometry, right.highWater.trans left.highWater⟩

/-- A loop whose body leaves the extent alone leaves it alone. -/
theorem sameExtent_foldl {body : SpaceAllocator → Nat → SpaceAllocator}
    (each : ∀ allocator slot, SameExtent allocator (body allocator slot))
    (allocator : SpaceAllocator) (slots : List Nat) :
    SameExtent allocator (slots.foldl body allocator) :=
  Foundation.invariant_runFrom (fun reached slot same => same.trans (each reached slot))
    (SameExtent.refl allocator) slots

section

variable (sound : allocator.Sound)
include sound

/-- Moving one handed-out slot to another state keeps the invariant when the
collections change at that slot only, and in step with its new state. -/
theorem Sound.move (below : slot < allocator.highWater) {state : SlotState}
    {freed queued : List Nat} {inFlight : Finset Nat} {generations : Nat → Nat}
    (free_here : slot ∈ freed ↔ state = .free)
    (free_else : ∀ query, query ≠ slot → (query ∈ freed ↔ query ∈ allocator.freeList))
    (reclaiming_here : (slot ∈ queued ∨ slot ∈ inFlight) ↔ state = .reclaiming)
    (queued_else : ∀ query, query ≠ slot → (query ∈ queued ↔ query ∈ allocator.reclaimQueue))
    (inFlight_else : ∀ query, query ≠ slot → (query ∈ inFlight ↔ query ∈ allocator.reclaimInFlight))
    (freed_nodup : freed.Nodup) (queued_nodup : queued.Nodup)
    (not_both : slot ∈ queued → slot ∉ inFlight) :
    SpaceAllocator.Sound { allocator.mark slot state with
      freeList := freed
      reclaimQueue := queued
      reclaimInFlight := inFlight
      generations } where
  highWater_le := sound.highWater_le
  free_iff := by
    intro query
    by_cases same : query = slot
    · subst same
      simp only [mark_states, update_self, free_here]
      exact ⟨fun free => ⟨below, free⟩, fun both => both.2⟩
    · simp only [mark_states, update_of_ne same, free_else query same]
      exact sound.free_iff query
  reclaiming_iff := by
    intro query
    by_cases same : query = slot
    · subst same
      simp only [mark_states, update_self, reclaiming_here]
      exact ⟨fun reclaiming => ⟨below, reclaiming⟩, fun both => both.2⟩
    · simp only [mark_states, update_of_ne same, queued_else query same, inFlight_else query same]
      exact sound.reclaiming_iff query
  untouched := by
    intro query beyond
    have beyond : allocator.highWater ≤ query := beyond
    have different : query ≠ slot := by omega
    simp only [mark_states, update_of_ne different]
    exact sound.untouched query beyond
  freeList_nodup := freed_nodup
  reclaimQueue_nodup := queued_nodup
  queue_disjoint := by
    intro query member
    by_cases same : query = slot
    · subst same
      exact not_both member
    · have before := sound.queue_disjoint query ((queued_else query same).mp member)
      exact fun flying => before ((inFlight_else query same).mp flying)

/-- Committing a slot keeps the invariant. -/
theorem Sound.commitSlot (slot : Nat) :
    (allocator.commitSlot slot).Sound := by
  unfold SpaceAllocator.commitSlot
  split_ifs with _ reserved
  · exact sound
  · obtain ⟨notFree, notQueued, notInFlight⟩ := sound.not_mem_of_held (.inl reserved)
    refine sound.move (sound.lt_highWater (by rw [reserved]; decide)) ?_ (fun _ _ => Iff.rfl) ?_
      (fun _ _ => Iff.rfl) (fun _ _ => Iff.rfl) sound.freeList_nodup sound.reclaimQueue_nodup
      (fun member => (notQueued member).elim)
    · simp [notFree]
    · simp [notQueued, notInFlight]
  · exact sound

omit sound in
/-- Aborting or releasing a slot keeps the invariant. -/
theorem Sound.retireSlot {source : SlotState}
    (held : source = .reserved ∨ source = .committed) (sound : allocator.Sound) (slot : Nat) :
    (allocator.retireSlot source slot).Sound := by
  unfold SpaceAllocator.retireSlot
  split_ifs with _ current
  · exact sound
  · rw [← current] at held
    obtain ⟨notFree, notQueued, notInFlight⟩ := sound.not_mem_of_held held
    have used : allocator.states slot ≠ .free := by
      rcases held with reserved | committed
      · rw [reserved]; decide
      · rw [committed]; decide
    refine sound.move (sound.lt_highWater used) ?_ (fun _ _ => Iff.rfl) ?_ ?_
      (fun _ _ => Iff.rfl) sound.freeList_nodup ?_ (fun _ => notInFlight)
    · simp [notFree]
    · simp
    · intro query different
      simp [different]
    · exact nodup_push sound.reclaimQueue_nodup notQueued
  · exact sound

theorem Sound.of_flying (flying : slot ∈ allocator.reclaimInFlight) :
    slot < allocator.highWater ∧ allocator.states slot = .reclaiming ∧
      slot ∉ allocator.reclaimQueue ∧ slot ∉ allocator.freeList := by
  obtain ⟨below, reclaiming⟩ := (sound.reclaiming_iff slot).mp (.inr flying)
  refine ⟨below, reclaiming, fun queued => sound.queue_disjoint slot queued flying, fun free => ?_⟩
  have free := ((sound.free_iff slot).mp free).2
  rw [reclaiming] at free
  cases free

/-- Finishing the reclaim of a slot keeps the invariant. -/
theorem Sound.finishSlot (slot : Nat) :
    (allocator.finishSlot slot).Sound := by
  unfold SpaceAllocator.finishSlot
  split_ifs with _ flying
  · exact sound
  · obtain ⟨below, reclaiming, notQueued, notFree⟩ := sound.of_flying flying
    refine sound.move below ?_ ?_ ?_ (fun _ _ => Iff.rfl) ?_ ?_ sound.reclaimQueue_nodup
      (fun member => (notQueued member).elim)
    · simp
    · intro query different
      simp [different]
    · simp [notQueued]
    · intro query different
      simp [different]
    · exact nodup_push sound.freeList_nodup notFree
  · exact sound

/-- Requeueing a slot keeps the invariant. -/
theorem Sound.requeueSlot (slot : Nat) :
    (allocator.requeueSlot slot).Sound := by
  unfold SpaceAllocator.requeueSlot
  split_ifs with _ flying
  · exact sound
  · obtain ⟨below, reclaiming, notQueued, notFree⟩ := sound.of_flying flying
    have unchanged : allocator.states = (allocator.mark slot .reclaiming).states := by
      rw [mark_states, ← reclaiming, update_eq_self]
    have moved : SpaceAllocator.Sound { allocator.mark slot .reclaiming with
        reclaimInFlight := allocator.reclaimInFlight.erase slot
        reclaimQueue := allocator.reclaimQueue ++ [slot] } := by
      refine sound.move below ?_ (fun _ _ => Iff.rfl) ?_ ?_ ?_ sound.freeList_nodup ?_ ?_
      · simp [notFree]
      · simp
      · intro query different
        simp [different]
      · intro query different
        simp [different]
      · exact nodup_push sound.reclaimQueue_nodup notQueued
      · simp
    unfold mark at moved
    rw [show update allocator.states slot .reclaiming = allocator.states from
      unchanged.symm] at moved
    exact moved
  · exact sound

/-! ## Whole operations -/

section

variable (slots : List Nat)

theorem Sound.commit :
    (allocator.commit slots).Sound :=
  Foundation.invariant_runFrom (fun _ slot reached => reached.commitSlot slot) sound slots

theorem Sound.abort :
    (allocator.abort slots).Sound :=
  Foundation.invariant_runFrom (fun _ slot reached => reached.retireSlot (.inl rfl) slot)
    sound slots

theorem Sound.release :
    (allocator.release slots).Sound :=
  Foundation.invariant_runFrom (fun _ slot reached => reached.retireSlot (.inr rfl) slot)
    sound slots

theorem Sound.finishReclaim :
    (allocator.finishReclaim slots).Sound :=
  Foundation.invariant_runFrom (fun _ slot reached => reached.finishSlot slot) sound slots

theorem Sound.requeueReclaim :
    (allocator.requeueReclaim slots).Sound :=
  Foundation.invariant_runFrom (fun _ slot reached => reached.requeueSlot slot) sound slots

end

theorem Sound.setReadyLimit (limit : Nat) :
    (allocator.setReadyLimit limit).Sound :=
  { sound with }

theorem Sound.takeReclaimable (max : Nat) :
    (allocator.takeReclaimable max).2.Sound := by
  refine { sound with
    reclaiming_iff := fun slot => ?_
    reclaimQueue_nodup := ?_
    queue_disjoint := fun slot later flying => ?_ }
  · have split : slot ∈ allocator.reclaimQueue ↔
        slot ∈ allocator.reclaimQueue.take max ∨ slot ∈ allocator.reclaimQueue.drop max := by
      rw [← mem_append, take_append_drop]
    refine Iff.trans ?_ (sound.reclaiming_iff slot)
    simp only [SpaceAllocator.takeReclaimable, Finset.mem_union, mem_toFinset]
    tauto
  · exact sound.reclaimQueue_nodup.sublist (drop_sublist max _)
  · simp only [SpaceAllocator.takeReclaimable, Finset.mem_union, mem_toFinset] at later flying
    rcases flying with flying | earlier
    · exact sound.queue_disjoint slot (mem_of_mem_drop later) flying
    have nodup := sound.reclaimQueue_nodup
    rw [← take_append_drop max allocator.reclaimQueue, nodup_append] at nodup
    exact nodup.2.2 slot earlier slot later rfl

end

/-- What the loops over slots read and write of one slot: whether it exists, its
state, its generation and whether its reclaim is in flight. -/
structure SlotView where
  inRange : Bool
  state : SlotState
  generation : Nat
  flying : Bool
  deriving DecidableEq

def viewOf (allocator : SpaceAllocator) (slot : Nat) : SlotView where
  inRange := slot < allocator.totalSlots
  state := allocator.states slot
  generation := allocator.generations slot
  flying := slot ∈ allocator.reclaimInFlight

/-- `commit`, seen at one slot. -/
def SlotView.commit (seen : SlotView) : SlotView :=
  if seen.inRange ∧ seen.state = .reserved then { seen with state := .committed } else seen

/-- `abort` or `release`, seen at one slot. -/
def SlotView.retire (source : SlotState) (seen : SlotView) : SlotView :=
  if seen.inRange ∧ seen.state = source then { seen with state := .reclaiming } else seen

/-- `finish_reclaim`, seen at one slot. -/
def SlotView.finish (seen : SlotView) : SlotView :=
  if seen.inRange ∧ seen.flying then
    { seen with
      state := .free
      generation := (seen.generation + 1) % uint64Size
      flying := false }
  else seen

/-- `requeue_reclaim`, seen at one slot. -/
def SlotView.requeue (seen : SlotView) : SlotView :=
  if seen.inRange ∧ seen.flying then { seen with flying := false } else seen

section

variable {source : SlotState} (allocator) (slots : List Nat) (slot : Nat)

theorem viewOf_commit :
    (allocator.commit slots).viewOf slot =
      if slot ∈ slots then (allocator.viewOf slot).commit else allocator.viewOf slot := by
  refine Foundation.view_runFrom viewOf SlotView.commit ?_ ?_ ?_ allocator slots slot
  · intro seen
    unfold SlotView.commit
    split <;> simp_all
  · intro allocator slot
    unfold commitSlot SlotView.commit
    by_cases outside : allocator.totalSlots ≤ slot
    · simp [viewOf, outside]
    · by_cases reserved : allocator.states slot = .reserved <;>
        simp [viewOf, outside, reserved, mark]
  · intro allocator slot query different
    unfold commitSlot
    split_ifs
    · rfl
    · simp only [viewOf, mark, update_of_ne different]
      rfl
    · rfl

theorem viewOf_retire (live : source ≠ .reclaiming) :
    viewOf (slots.foldl (retireSlot source) allocator) slot =
      if slot ∈ slots then (allocator.viewOf slot).retire source else allocator.viewOf slot := by
  refine Foundation.view_runFrom viewOf (SlotView.retire source) ?_ ?_ ?_ allocator slots slot
  · intro seen
    unfold SlotView.retire
    split
    · simp [live.symm]
    · simp_all
  · intro allocator slot
    unfold retireSlot SlotView.retire
    by_cases outside : allocator.totalSlots ≤ slot
    · simp [viewOf, outside]
    · by_cases current : allocator.states slot = source <;>
        simp [viewOf, outside, current, mark]
  · intro allocator slot query different
    unfold retireSlot
    split_ifs
    · rfl
    · simp only [viewOf, mark, update_of_ne different]
      rfl
    · rfl

theorem viewOf_finishReclaim :
    (allocator.finishReclaim slots).viewOf slot =
      if slot ∈ slots then (allocator.viewOf slot).finish else allocator.viewOf slot := by
  refine Foundation.view_runFrom viewOf SlotView.finish ?_ ?_ ?_ allocator slots slot
  · intro seen
    unfold SlotView.finish
    split <;> simp_all
  · intro allocator slot
    unfold finishSlot SlotView.finish
    by_cases outside : allocator.totalSlots ≤ slot
    · simp [viewOf, outside]
    · by_cases flying : slot ∈ allocator.reclaimInFlight <;>
        simp [viewOf, outside, flying, mark]
  · intro allocator slot query different
    unfold finishSlot
    split_ifs
    · rfl
    · simp [viewOf, different]
      rfl
    · rfl

theorem viewOf_requeueReclaim :
    (allocator.requeueReclaim slots).viewOf slot =
      if slot ∈ slots then (allocator.viewOf slot).requeue else allocator.viewOf slot := by
  refine Foundation.view_runFrom viewOf SlotView.requeue ?_ ?_ ?_ allocator slots slot
  · intro seen
    unfold SlotView.requeue
    split <;> simp_all
  · intro allocator slot
    unfold requeueSlot SlotView.requeue
    by_cases outside : allocator.totalSlots ≤ slot
    · simp [viewOf, outside]
    · by_cases flying : slot ∈ allocator.reclaimInFlight <;> simp [viewOf, outside, flying]
  · intro allocator slot query different
    unfold requeueSlot
    split_ifs
    · rfl
    · simp [viewOf, different]
    · rfl

theorem retire_sameExtent (source : SlotState) :
    SameExtent allocator (slots.foldl (retireSlot source) allocator) := by
  refine sameExtent_foldl (fun allocator slot => ?_) allocator slots
  unfold retireSlot
  split_ifs <;> exact ⟨⟨rfl, rfl, rfl⟩, rfl⟩

theorem commit_sameExtent : SameExtent allocator (allocator.commit slots) := by
  refine sameExtent_foldl (fun allocator slot => ?_) allocator slots
  unfold commitSlot
  split_ifs <;> exact ⟨⟨rfl, rfl, rfl⟩, rfl⟩

theorem abort_sameExtent : SameExtent allocator (allocator.abort slots) :=
  retire_sameExtent allocator slots .reserved

theorem release_sameExtent : SameExtent allocator (allocator.release slots) :=
  retire_sameExtent allocator slots .committed

theorem finishReclaim_sameExtent : SameExtent allocator (allocator.finishReclaim slots) := by
  refine sameExtent_foldl (fun allocator slot => ?_) allocator slots
  unfold finishSlot
  split_ifs <;> exact ⟨⟨rfl, rfl, rfl⟩, rfl⟩

theorem requeueReclaim_sameExtent : SameExtent allocator (allocator.requeueReclaim slots) := by
  refine sameExtent_foldl (fun allocator slot => ?_) allocator slots
  unfold requeueSlot
  split_ifs <;> exact ⟨⟨rfl, rfl, rfl⟩, rfl⟩

theorem states_commit :
    (allocator.commit slots).states slot =
      if slot ∈ slots ∧ slot < allocator.totalSlots ∧ allocator.states slot = .reserved then
        .committed
      else allocator.states slot := by
  have seen := congrArg SlotView.state (viewOf_commit allocator slots slot)
  by_cases named : slot ∈ slots
  · by_cases moves : slot < allocator.totalSlots ∧ allocator.states slot = .reserved <;>
      simpa [viewOf, SlotView.commit, named, moves] using seen
  · simpa [viewOf, named] using seen

theorem states_retire (live : source ≠ .reclaiming) :
    (slots.foldl (retireSlot source) allocator).states slot =
      if slot ∈ slots ∧ slot < allocator.totalSlots ∧ allocator.states slot = source then
        .reclaiming
      else allocator.states slot := by
  have seen := congrArg SlotView.state (viewOf_retire allocator slots slot live)
  by_cases named : slot ∈ slots
  · by_cases moves : slot < allocator.totalSlots ∧ allocator.states slot = source <;>
      simpa [viewOf, SlotView.retire, named, moves] using seen
  · simpa [viewOf, named] using seen

theorem generations_commit : (allocator.commit slots).generations = allocator.generations := by
  funext slot
  have seen := congrArg SlotView.generation (viewOf_commit allocator slots slot)
  unfold SlotView.commit at seen
  split_ifs at seen <;> exact seen

theorem generations_retire (source : SlotState) :
    (slots.foldl (retireSlot source) allocator).generations = allocator.generations := by
  induction slots generalizing allocator with
  | nil => rfl
  | cons slot slots ih =>
    refine (ih _).trans ?_
    unfold retireSlot
    split_ifs <;> rfl

end

section

variable (sound : allocator.Sound)
include sound

/-- Scrubbing: slots are taken off the queue, those whose zeroing failed go back,
the others become free with the next generation. -/
theorem viewOf_scrub {max : Nat} {failed done : List Nat}
    (taken : ∀ slot ∈ done, slot ∈ allocator.reclaimQueue.take max)
    (apart : ∀ slot ∈ done, slot ∉ failed) (slot : Nat) :
    let scrubbed := ((allocator.takeReclaimable max).2.requeueReclaim failed).finishReclaim done
    scrubbed.states slot = (if slot ∈ done then .free else allocator.states slot) ∧
      scrubbed.generations slot =
        if slot ∈ done then (allocator.generations slot + 1) % uint64Size
        else allocator.generations slot := by
  intro scrubbed
  set taking := (allocator.takeReclaimable max).2
  have finished := viewOf_finishReclaim (taking.requeueReclaim failed) done slot
  have requeued := viewOf_requeueReclaim taking failed slot
  by_cases named : slot ∈ done
  · have queued := mem_of_mem_take (taken slot named)
    have below := (sound.reclaiming_iff slot).mp (.inl queued)
    have inRange := lt_of_lt_of_le below.1 sound.highWater_le
    rw [if_neg (apart slot named)] at requeued
    rw [if_pos named, requeued] at finished
    have flying : slot ∈ taking.reclaimInFlight := by
      simp [taking, takeReclaimable, taken slot named]
    have same : taking.totalSlots = allocator.totalSlots := rfl
    have state := congrArg SlotView.state finished
    have generation := congrArg SlotView.generation finished
    simp only [SlotView.finish, viewOf, same, inRange, flying, and_self] at state generation
    simp only [named]
    exact ⟨state, generation⟩
  · rw [if_neg named, requeued] at finished
    simp only [named]
    unfold SlotView.requeue at finished
    split_ifs at finished
    all_goals exact ⟨congrArg SlotView.state finished, congrArg SlotView.generation finished⟩

/-! ## Reserving -/

/-- `reserve 1` handed out `slot`. -/
structure Claims (allocator : SpaceAllocator) (slot : Nat) (next : SpaceAllocator) : Prop where
  geometry : SameGeometry allocator next
  sound : next.Sound
  lt_totalSlots : slot < allocator.totalSlots
  was_free : allocator.states slot = .free
  states : next.states = update allocator.states slot .reserved
  generations : next.generations = allocator.generations
  freeList : next.freeList = allocator.freeList.tail
  reclaimQueue : next.reclaimQueue = allocator.reclaimQueue
  reclaimInFlight : next.reclaimInFlight = allocator.reclaimInFlight
  highWater : (allocator.freeList ≠ [] ∧ slot < allocator.highWater ∧
      next.highWater = allocator.highWater) ∨
    (allocator.freeList = [] ∧ slot = allocator.highWater ∧
      allocator.highWater < min allocator.totalSlots allocator.readyLimit ∧
      next.highWater = allocator.highWater + 1)

/-- Handing out the first recycled slot keeps the invariant. -/
theorem Sound.recycle {rest : List Nat} (recycled : allocator.freeList = slot :: rest) :
    SpaceAllocator.Sound { allocator.mark slot .reserved with freeList := rest } := by
  have member : slot ∈ allocator.freeList := by rw [recycled]; exact .head _
  obtain ⟨below, free⟩ := (sound.free_iff slot).mp member
  have nodup := sound.freeList_nodup
  rw [recycled, nodup_cons] at nodup
  have notReclaiming : ¬ (slot ∈ allocator.reclaimQueue ∨ slot ∈ allocator.reclaimInFlight) := by
    intro reclaiming
    have state := ((sound.reclaiming_iff slot).mp reclaiming).2
    rw [free] at state
    cases state
  refine sound.move below ?_ ?_ ?_ (fun _ _ => Iff.rfl) (fun _ _ => Iff.rfl) nodup.2
    sound.reclaimQueue_nodup (fun queued => (notReclaiming (.inl queued)).elim)
  · simp [nodup.1]
  · intro query different
    simp [recycled, different]
  · simp [notReclaiming]

/-- Handing out the slot at the high-water mark keeps the invariant. -/
theorem Sound.raise (inRange : allocator.highWater < allocator.totalSlots) :
    SpaceAllocator.Sound { allocator.mark allocator.highWater .reserved with
      highWater := allocator.highWater + 1 } := by
  have free := sound.untouched allocator.highWater le_rfl
  -- Below the mark nothing changes, and the slot at the mark is reserved.
  have below : ∀ query state, state ≠ SlotState.reserved →
      (query < allocator.highWater + 1 ∧
        update allocator.states allocator.highWater .reserved query = state ↔
        query < allocator.highWater ∧ allocator.states query = state) := by
    intro query state notReserved
    by_cases same : query = allocator.highWater
    · subst same
      simp [notReserved.symm]
    · rw [update_of_ne same]
      exact and_congr_left fun _ => by omega
  exact { sound with
    highWater_le := inRange
    free_iff := fun query => (sound.free_iff query).trans (below query .free (by decide)).symm
    reclaiming_iff := fun query =>
      (sound.reclaiming_iff query).trans (below query .reclaiming (by decide)).symm
    untouched := by
      intro query beyond
      have beyond : allocator.highWater + 1 ≤ query := beyond
      have different : query ≠ allocator.highWater := by omega
      simp only [mark_states, update_of_ne different]
      exact sound.untouched query (by omega) }

/-- One slot more is handed out, or the allocator is exhausted and unchanged. -/
theorem reserve_one :
    (allocator.freeList = [] ∧
      min allocator.totalSlots allocator.readyLimit ≤ allocator.highWater ∧
      reserve 1 allocator = (⟨[], [], 1⟩, allocator)) ∨
    ∃ slot next, reserve 1 allocator = (⟨[slot], [allocator.generations slot], 0⟩, next) ∧
      Claims allocator slot next := by
  cases recycled : allocator.freeList with
  | cons slot rest =>
    right
    have member : slot ∈ allocator.freeList := by rw [recycled]; exact .head _
    obtain ⟨below, free⟩ := (sound.free_iff slot).mp member
    have inRange := lt_of_lt_of_le below sound.highWater_le
    refine ⟨slot, { allocator.mark slot .reserved with freeList := rest }, ?_, ?_⟩
    · simp only [reserve, takeFreeSlot, recycled, not_le.mpr inRange]
      rfl
    exact ⟨⟨rfl, rfl, rfl⟩, sound.recycle recycled, inRange, free, rfl, rfl,
      by rw [recycled]; rfl, rfl, rfl,
      .inl ⟨by rw [recycled]; exact cons_ne_nil _ _, below, rfl⟩⟩
  | nil =>
    by_cases room : allocator.highWater < min allocator.totalSlots allocator.readyLimit
    · right
      have inRange : allocator.highWater < allocator.totalSlots := by omega
      refine ⟨allocator.highWater, { allocator.mark allocator.highWater .reserved with
        highWater := allocator.highWater + 1 }, ?_, ?_⟩
      · simp [reserve, takeFreeSlot, recycled, room, not_le.mpr inRange, mark]
      exact ⟨⟨rfl, rfl, rfl⟩, sound.raise inRange, inRange,
        sound.untouched allocator.highWater le_rfl, rfl, rfl, by rw [recycled]; exact recycled,
        rfl, rfl, .inr ⟨recycled, rfl, room, rfl⟩⟩
    · left
      refine ⟨rfl, not_lt.mp room, ?_⟩
      simp [reserve, takeFreeSlot, recycled, room]

/-- `reserve` stops at once, or hands out one slot and goes on. -/
theorem reserve_succ (count : Nat) :
    reserve (count + 1) allocator = (⟨[], [], count + 1⟩, allocator) ∨
    ∃ slot next, Claims allocator slot next ∧ reserve (count + 1) allocator =
      (⟨slot :: (reserve count next).1.slots,
        allocator.generations slot :: (reserve count next).1.generations,
        (reserve count next).1.rejected⟩, (reserve count next).2) := by
  have one := reserve_one sound
  dsimp only [reserve] at one ⊢
  split_ifs at one ⊢ with exhausted
  · rcases one with ⟨_, _, same⟩ | ⟨_, _, same, _⟩
    · rw [(Prod.mk.inj same).2]
      exact .inl rfl
    · cases same
  · rcases one with ⟨_, _, same⟩ | ⟨slot, next, same, claims⟩
    · cases same
    simp only [Prod.mk.injEq, SlotReservation.mk.injEq, cons.injEq, and_true] at same
    obtain ⟨⟨rfl, generation⟩, rfl⟩ := same
    rw [generation]
    exact .inr ⟨_, _, claims, rfl⟩

/-- `reserve` keeps the invariant. -/
theorem Sound.reserve (count : Nat) :
    (SpaceAllocator.reserve count allocator).2.Sound := by
  induction count generalizing allocator with
  | zero => exact sound
  | succ count ih =>
    rcases reserve_succ sound count with spent | ⟨_, _, claims, reserved⟩
    · rw [spent]
      exact sound
    · rw [reserved]
      exact ih claims.sound

end

/-- With no recycled slot, `reserve` hands out consecutive slots from the
high-water mark on, as many as the limits leave. -/
theorem reserve_eq_of_freeList_nil (count : Nat) (recycled : allocator.freeList = []) :
    let granted := min count (min allocator.totalSlots allocator.readyLimit - allocator.highWater)
    (reserve count allocator).1.slots = range' allocator.highWater granted ∧
      (reserve count allocator).2 = { allocator with
        highWater := allocator.highWater + granted
        states := fun slot =>
          if allocator.highWater ≤ slot ∧ slot < allocator.highWater + granted then .reserved
          else allocator.states slot } := by
  induction count generalizing allocator with
  | zero =>
    have none : ∀ slot, ¬ (allocator.highWater ≤ slot ∧ slot < allocator.highWater) := by omega
    simp [reserve, none]
  | succ count ih =>
    by_cases room : allocator.highWater < min allocator.totalSlots allocator.readyLimit
    · have inRange : ¬ allocator.totalSlots ≤ allocator.highWater := by omega
      have step := @ih { allocator.mark allocator.highWater .reserved with
        highWater := allocator.highWater + 1 } recycled
      have granted : min (count + 1)
          (min allocator.totalSlots allocator.readyLimit - allocator.highWater) =
            min count (min allocator.totalSlots allocator.readyLimit -
              (allocator.highWater + 1)) + 1 := by omega
      have first : allocator.takeFreeSlot = (allocator.highWater,
          { allocator with highWater := allocator.highWater + 1 }) := by
        simp [takeFreeSlot, recycled, room]
      simp only [reserve, first, inRange, granted]
      refine ⟨?_, ?_⟩
      · exact congrArg (allocator.highWater :: ·) step.1
      refine step.2.trans ?_
      simp only [mark]
      congr 1
      · omega
      funext slot
      by_cases same : slot = allocator.highWater
      · subst same
        have before : ¬ allocator.highWater + 1 ≤ allocator.highWater := by omega
        simp [before]
      · rw [update_of_ne same]
        exact if_congr (by omega) rfl rfl
    · have none : min (count + 1)
          (min allocator.totalSlots allocator.readyLimit - allocator.highWater) = 0 := by omega
      have outside : ∀ slot, ¬ (allocator.highWater ≤ slot ∧ slot < allocator.highWater) := by
        omega
      have exhausted : allocator.takeFreeSlot = (allocator.totalSlots, allocator) := by
        simp [takeFreeSlot, recycled, room]
      simp [reserve, exhausted, none, outside]

/-! ## Runs -/

/-- One call on a configured allocator, with any arguments. -/
inductive Call (allocator : SpaceAllocator) : SpaceAllocator → Prop where
  | setReadyLimit (limit : Nat) : Call allocator (allocator.setReadyLimit limit)
  | reserve (count : Nat) : Call allocator (reserve count allocator).2
  | commit (slots : List Nat) : Call allocator (allocator.commit slots)
  | abort (slots : List Nat) : Call allocator (allocator.abort slots)
  | release (slots : List Nat) : Call allocator (allocator.release slots)
  | takeReclaimable (max : Nat) : Call allocator (allocator.takeReclaimable max).2
  | finishReclaim (slots : List Nat) : Call allocator (allocator.finishReclaim slots)
  | requeueReclaim (slots : List Nat) : Call allocator (allocator.requeueReclaim slots)

theorem Call.sound (call : allocator.Call next) (sound : allocator.Sound) : next.Sound := by
  cases call with
  | setReadyLimit limit => exact sound.setReadyLimit limit
  | reserve count => exact sound.reserve count
  | commit slots => exact sound.commit slots
  | abort slots => exact sound.abort slots
  | release slots => exact sound.release slots
  | takeReclaimable max => exact sound.takeReclaimable max
  | finishReclaim slots => exact sound.finishReclaim slots
  | requeueReclaim slots => exact sound.requeueReclaim slots

/-- Every slot below a mark is in one of the states. -/
theorem countP_states (states : Nat → SlotState) (mark : Nat) :
    (range mark).countP (states · = .free) + (range mark).countP (states · = .reserved) +
      (range mark).countP (states · = .committed) +
      (range mark).countP (states · = .reclaiming) = mark := by
  induction mark with
  | zero => rfl
  | succ mark ih =>
    simp only [range_succ, countP_append, countP_singleton]
    cases states mark <;> simp <;> omega

/-- From its configuration on and whatever slots the calls name, the allocator keeps every slot
in one place, and its counts add up. -/
theorem slots_conserved {capacityBytes slotBytes : Nat} {reached : SpaceAllocator}
    (configured : allocator.configure capacityBytes slotBytes = some next)
    (calls : Relation.ReflTransGen Call next reached) :
    reached.Sound ∧ reached.stats.freeSlots + reached.stats.reservedSlots +
      reached.stats.committedSlots + reached.stats.reclaimingSlots +
      reached.stats.unmaterialisedSlots = reached.stats.totalSlots := by
  have sound : reached.Sound := by
    induction calls with
    | refl => exact sound_configure configured
    | tail _ call ih => exact call.sound ih
  have counted := countP_states reached.states reached.highWater
  have below := sound.highWater_le
  refine ⟨sound, ?_⟩
  dsimp only [stats, countIn]
  omega

theorem slots_conserved_repeats : ∃ next reached, unconfigured.configure 4 2 = some next ∧
    reached = ((SpaceAllocator.reserve 3 next).2.abort [0, 0, 7]) ∧ reached.Sound :=
  ⟨_, _, rfl, rfl, (@slots_conserved unconfigured _ 4 2 _ rfl
    (.tail (.single (.reserve 3)) (.abort [0, 0, 7]))).1⟩

end SpaceAllocator

end Tutti
