import Tutti.Storage.StoreMoves

/-!
# Who owns a slot

The index and the reverse map name the same pairs of key and slot, and a slot in
the index is reserved or committed in the allocator (`Owned`). Every move keeps
this, failed writes included, so a slot never belongs to two keys and is never
handed out while a key has it.
-/

namespace Tutti

open Foundation Function OrderedDict SpaceAllocator

namespace ObjectStoreCore

/-- The slot is reserved or committed in the allocator. -/
def InUse (allocator : SpaceAllocator) (slot : Nat) : Prop :=
  allocator.states slot = .reserved ∨ allocator.states slot = .committed

/-- Index, reverse map and allocator agree on the slots in use. -/
structure Owned (core : ObjectStoreCore) : Prop where
  sound : core.allocator.Sound
  owner_iff : ∀ slot key, core.slotOwner slot = some key ↔
    ∃ entry, core.index.get? key = some entry ∧ entry.slot = slot
  inUse : ∀ key entry, core.index.get? key = some entry → InUse core.allocator entry.slot

variable {core next : ObjectStoreCore} {key : ObjectKey} {entry : Entry}

variable {allocator : SpaceAllocator}

/-- Index and reverse map stay inverse when an absent key enters with a slot of no entry. -/
theorem owner_iff_insert (entry : Entry) {index : OrderedDict ObjectKey Entry}
    {owner : Nat → Option ObjectKey} (inverse : ∀ slot key, owner slot = some key ↔
      ∃ entry, index.get? key = some entry ∧ entry.slot = slot)
    (absent : index.get? key = none)
    (apart : ∀ holder other, index.get? holder = some other → other.slot ≠ entry.slot)
    (slot : Nat) (holder : ObjectKey) :
    update owner entry.slot (some key) slot = some holder ↔
      ∃ other, (index.set key entry).get? holder = some other ∧ other.slot = slot := by
  simp only [get?_set]
  by_cases here : slot = entry.slot
  · subst here
    rw [update_self]
    by_cases same : holder = key
    · simp [same]
    simp only [Option.some.injEq, Ne.symm same, same, false_iff]
    rintro ⟨other, present, located⟩
    exact apart holder other present located
  · rw [update_of_ne here, inverse]
    by_cases same : holder = key
    · subst same
      simp only [absent, reduceCtorEq, false_and, exists_false, ↓reduceIte, Option.some.injEq,
        exists_eq_left', false_iff]
      exact Ne.symm here
    · simp [same]

section

variable (owned : core.Owned) (present : core.index.get? key = some entry)
include owned present

theorem Owned.owner :
    core.slotOwner entry.slot = some key :=
  (owned.owner_iff entry.slot key).mpr ⟨entry, present, rfl⟩

/-- No two keys have the same slot. -/
theorem Owned.key_unique {other : ObjectKey} {second : Entry}
    (present' : core.index.get? other = some second) (same : entry.slot = second.slot) :
    key = other := by
  have owner := owned.owner present
  rw [same, owned.owner present'] at owner
  exact (Option.some.inj owner).symm

theorem Owned.lt_totalSlots :
    entry.slot < core.allocator.totalSlots := by
  refine owned.sound.lt_totalSlots ?_
  rcases owned.inUse key entry present with reserved | committed
  · rw [reserved]
    exact nofun
  · rw [committed]
    exact nofun

/-- A free slot is in no entry of the index. -/
theorem Owned.ne_of_free {slot : Nat} (free : core.allocator.states slot = .free) :
    entry.slot ≠ slot := by
  rintro rfl
  rcases owned.inUse key entry present with reserved | committed
  · rw [free] at reserved
    cases reserved
  · rw [free] at committed
    cases committed

/-! ## Changes of one key -/

omit present

/-- Nothing changes in the maps, and slots in use stay in use. -/
theorem Owned.of_states (index : next.index = core.index)
    (slotOwner : next.slotOwner = core.slotOwner) (sound : next.allocator.Sound)
    (kept : ∀ slot, InUse core.allocator slot → InUse next.allocator slot) : next.Owned where
  sound
  owner_iff := by
    rw [index, slotOwner]
    exact owned.owner_iff
  inUse := by
    rw [index]
    exact fun key entry present => kept entry.slot (owned.inUse key entry present)

/-- A fresh key enters with a slot that was free. -/
theorem Owned.insertReserved {slot generation : Nat} (absent : core.index.get? key = none)
    (claims : core.allocator.Claims slot allocator) :
    (core.insertReserved key slot generation allocator).Owned where
  sound := claims.sound
  owner_iff := owner_iff_insert ⟨slot, generation, 0, false⟩ owned.owner_iff absent
    fun _ _ present => owned.ne_of_free present claims.was_free
  inUse := by
    intro holder entry present
    simp only [ObjectStoreCore.insertReserved, get?_set] at present
    unfold InUse
    simp only [ObjectStoreCore.insertReserved, claims.states]
    split at present
    · cases present
      left
      rw [update_self]
    · have different := owned.ne_of_free present claims.was_free
      rw [update_of_ne different]
      exact owned.inUse holder entry present

include present

/-- A committed key keeps its slot. -/
theorem Owned.commitEntry (commitSeq : Nat) :
    (core.commitEntry key entry commitSeq).Owned where
  sound := owned.sound
  owner_iff := by
    intro query holder
    simp only [ObjectStoreCore.commitEntry, owned.owner_iff, get?_set]
    by_cases same : holder = key
    · subst same
      simp [present]
    · simp [same]
  inUse := by
    intro holder other found
    simp only [ObjectStoreCore.commitEntry, get?_set] at found
    split at found
    · cases found
      exact owned.inUse key entry present
    · exact owned.inUse holder other found

/-- A key that leaves gives up its slot. -/
theorem Owned.removeKey :
    (core.removeKey key entry.slot).Owned where
  sound := owned.sound
  owner_iff := by
    intro query holder
    simp only [ObjectStoreCore.removeKey, get?_erase]
    by_cases here : query = entry.slot
    · subst here
      rw [update_self]
      simp only [reduceCtorEq, false_iff]
      rintro ⟨other, found, located⟩
      split at found
      · cases found
      rename_i different
      exact different (owned.key_unique found present located)
    · rw [update_of_ne here, owned.owner_iff]
      by_cases same : holder = key
      · subst same
        simp only [present, Option.some.injEq, exists_eq_left', ↓reduceIte, reduceCtorEq,
          false_and, exists_false, iff_false]
        exact Ne.symm here
      · simp [same]
  inUse := by
    intro holder other found
    simp only [ObjectStoreCore.removeKey, get?_erase] at found
    split at found
    · cases found
    · exact owned.inUse holder other found

/-- A slot that has left the index. -/
theorem Owned.ne_of_removeKey {other : ObjectKey} {second : Entry}
    (found : (core.removeKey key entry.slot).index.get? other = some second) :
    second.slot ≠ entry.slot := by
  intro same
  simp only [ObjectStoreCore.removeKey, get?_erase] at found
  split at found
  · cases found
  rename_i different
  exact different (owned.key_unique found present same)

/-- A key that leaves may have its slot retired. -/
theorem Owned.retire {source : SlotState} (live : source = .reserved ∨ source = .committed) :
    Owned { core.removeKey key entry.slot with
      allocator := [entry.slot].foldl (retireSlot source) core.allocator } where
  sound := owned.sound.retireSlot live entry.slot
  owner_iff := (owned.removeKey present).owner_iff
  inUse := by
    intro other second found
    have different := owned.ne_of_removeKey present found
    have reclaims : source ≠ .reclaiming := by
      rcases live with rfl | rfl <;> exact nofun
    unfold InUse
    rw [states_retire _ _ _ reclaims]
    simp only [List.mem_singleton, different, false_and]
    exact (owned.removeKey present).inUse other second found

end

theorem InUse.commit {slot : Nat} (inUse : InUse allocator slot) (slots : List Nat) :
    InUse (allocator.commit slots) slot := by
  unfold InUse
  rw [states_commit]
  split
  · exact .inr rfl
  · exact inUse

theorem Grown.owned (grown : Grown core next) (owned : core.Owned) : next.Owned := by
  obtain ⟨_, _, _, limit, rfl⟩ := grown
  exact owned.of_states rfl rfl (owned.sound.setReadyLimit limit) (fun _ inUse => inUse)

/-- Every move keeps the slots owned. -/
theorem Move.owned {slips drains : Bool} {session next : Session}
    (move : Move slips drains session next) (owned : session.core.Owned) : next.core.Owned := by
  cases move with
  | grant _ _ _ absent claims => exact owned.insertReserved absent claims
  | commit _ lands =>
    have committed := owned.commitEntry lands.reserves.1 session.core.nextCommitSeq
    exact committed.of_states rfl rfl (owned.sound.commit _) (fun _ inUse => inUse.commit _)
  | record _ _ lands =>
    have committed := owned.commitEntry lands.reserves.1 session.core.nextCommitSeq
    exact committed.of_states rfl rfl owned.sound (fun _ inUse => inUse)
  | refuse _ | spoil _ _ _ _ | pins _ =>
    exact owned.of_states rfl rfl owned.sound (fun _ inUse => inUse)
  | abort _ reserves => exact owned.retire reserves.1 (.inl rfl)
  | release _ holds _ =>
    have retired := owned.retire holds.1 (.inr rfl)
    exact retired.of_states rfl rfl retired.sound (fun _ inUse => inUse)
  | drainReclaim draining max zeroing =>
    have sound := (@Move.drainReclaim slips drains session draining max zeroing).sound owned.sound
    refine owned.of_states rfl rfl sound fun slot inUse => ?_
    have free : slot ∉ drained session max zeroing := fun done =>
      (owned.sound.not_mem_of_held inUse).2.1 (mem_queue_of_mem_drained done)
    have states := (allocator_drainReclaim owned.sound max zeroing slot).1
    rw [if_neg free] at states
    unfold InUse
    rw [states]
    exact inUse
  | precreateStep headroom faults => exact (core_precreateStep session headroom faults).owned owned
  | checkpoint outcome =>
    obtain ⟨_, _, same⟩ := core_checkpoint session outcome
    rw [same]
    exact owned.of_states rfl rfl owned.sound (fun _ inUse => inUse)

/-- Every run keeps the slots owned. -/
theorem Owned.run {session : Session} (owned : session.core.Owned) (operations : List StoreOp) :
    (runFrom step session operations).core.Owned :=
  run_keep (motive := fun session => session.core.Owned) (fun _ owned => owned.sound)
    (fun _ _ move owned => move.owned owned) owned operations

end ObjectStoreCore

end Tutti
