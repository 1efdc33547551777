import Tutti.Storage.SlotOwnership

/-!
# Recovery from arbitrary media

`open` rebuilds the index from the newest readable checkpoint. Nothing is
assumed about the bytes: an entry is accepted only if its slot exists, neither
its key nor its slot is taken, and the header in the slot confirms it. The
allocator is brought into line by reserving every slot up to the largest
accepted one, committing the accepted slots and aborting the gaps.
-/

namespace Tutti

open Foundation List
open OrderedDict hiding keys

/-! ## The allocator after recovery -/

namespace SpaceAllocator

/-- An allocator that has handed out nothing. -/
structure Pristine (allocator : SpaceAllocator) : Prop where
  sound : allocator.Sound
  highWater : allocator.highWater = 0
  freeList : allocator.freeList = []
  reclaimInFlight : allocator.reclaimInFlight = ∅
  states : ∀ slot, allocator.states slot = .free
  generations : ∀ slot, allocator.generations slot = 0

theorem pristine_configure {allocator next : SpaceAllocator} {capacityBytes slotBytes : Nat}
    (configured : allocator.configure capacityBytes slotBytes = some next) : next.Pristine := by
  have sound := sound_configure configured
  obtain ⟨_, _, rfl⟩ := configure_eq_some_iff.mp configured
  exact ⟨sound, rfl, rfl, rfl, fun _ => rfl, fun _ => rfl⟩

end SpaceAllocator

namespace ObjectStoreCore

open SpaceAllocator

/-- How far recovery claims slots: through the largest recovered one. -/
def claimBound (slots : List Nat) : Nat := if slots = [] then 0 else slots.foldl max 0 + 1

variable {slots : List Nat}

theorem lt_claimBound {slot : Nat} (member : slot ∈ slots) :
    slot < claimBound slots := by
  have bounded : ∀ (slots : List Nat) (start : Nat), start ≤ slots.foldl max start ∧
      ∀ slot ∈ slots, slot ≤ slots.foldl max start := by
    intro slots
    induction slots with
    | nil => exact fun start => ⟨le_rfl, nofun⟩
    | cons head slots ih =>
      intro start
      obtain ⟨above, each⟩ := ih (max start head)
      exact ⟨le_trans (le_max_left _ _) above,
        forall_mem_cons.mpr ⟨le_trans (le_max_right _ _) above, each⟩⟩
  rw [claimBound, if_neg (ne_nil_of_mem member)]
  exact Nat.lt_succ_of_le ((bounded slots 0).2 slot member)

theorem claimBound_le {bound : Nat} (below : ∀ slot ∈ slots, slot < bound) :
    claimBound slots ≤ bound := by
  have bounded : ∀ (slots : List Nat) (start : Nat), start < bound →
      (∀ slot ∈ slots, slot < bound) → slots.foldl max start < bound := by
    intro slots
    induction slots with
    | nil => exact fun _ first _ => first
    | cons head slots ih =>
      intro start first each
      refine ih _ (max_lt first (each head (.head _))) fun slot member => ?_
      exact each slot (.tail _ member)
  unfold claimBound
  split
  · exact Nat.zero_le bound
  rename_i some
  obtain ⟨slot, member⟩ := exists_mem_of_ne_nil slots some
  exact bounded slots 0 (Nat.zero_lt_of_lt (below slot member)) below

/-- How many slots recovery is granted. -/
def claimGranted (allocator : SpaceAllocator) (slots : List Nat) : Nat :=
  min (claimBound slots) (min allocator.totalSlots allocator.readyLimit)

/-- The recovered slots are committed, the gaps below the largest start
reclaiming, and nothing else is handed out. -/
structure Claimed (allocator : SpaceAllocator) (slots : List Nat) (next : SpaceAllocator) :
    Prop where
  sound : next.Sound
  geometry : SameGeometry allocator next
  highWater : next.highWater = claimGranted allocator slots
  freeList : next.freeList = []
  generations : ∀ slot, next.generations slot = 0
  states : ∀ slot, next.states slot =
    if slot < claimGranted allocator slots then
      if slot ∈ slots then .committed else .reclaiming
    else .free

theorem claimed_claimRecovered {allocator : SpaceAllocator} (pristine : allocator.Pristine)
    (slots : List Nat) : Claimed allocator slots (claimRecovered allocator slots) := by
  by_cases empty : slots = []
  · subst empty
    have none : claimGranted allocator [] = 0 := by
      rw [claimGranted, claimBound, if_pos rfl, zero_min]
    refine ⟨pristine.sound, .refl _, pristine.highWater.trans none.symm, pristine.freeList,
      pristine.generations, fun slot => ?_⟩
    exact pristine.states slot
  have bound : claimBound slots = slots.foldl max 0 + 1 := if_neg empty
  obtain ⟨handed, reserved⟩ := reserve_eq_of_freeList_nil (slots.foldl max 0 + 1) pristine.freeList
  have sound := pristine.sound.reserve (slots.foldl max 0 + 1)
  rw [pristine.highWater, Nat.sub_zero, ← bound, ← claimGranted] at handed reserved
  simp only [claimRecovered, empty, ↓reduceIte, ← bound]
  rw [← bound] at sound
  rw [handed, reserved]
  rw [reserved] at sound
  have inRange : claimGranted allocator slots ≤ allocator.totalSlots :=
    le_trans (min_le_right _ _) (min_le_left _ _)
  generalize taken : { allocator with
    highWater := 0 + claimGranted allocator slots
    states := fun slot =>
      if 0 ≤ slot ∧ slot < 0 + claimGranted allocator slots then SlotState.reserved
      else allocator.states slot : SpaceAllocator } = claimed at sound ⊢
  generalize listed : (range' 0 (claimGranted allocator slots)).filter
    (fun slot => decide (slot ∉ slots)) = gaps
  have sound := (sound.commit slots).abort gaps
  have geometry : SameGeometry allocator claimed := by
    rw [← taken]
    exact ⟨rfl, rfl, rfl⟩
  have extent := (commit_sameExtent claimed slots).trans (abort_sameExtent _ gaps)
  have states : ∀ slot, ((claimed.commit slots).abort gaps).states slot =
      if slot < claimGranted allocator slots then
        if slot ∈ slots then .committed else .reclaiming
      else .free := by
    intro slot
    have total := (commit_sameExtent claimed slots).totalSlots
    rw [geometry.totalSlots] at total
    have initial : claimed.states slot =
        if slot < claimGranted allocator slots then .reserved else .free := by
      rw [← taken]
      simp [pristine.states]
    have gap : slot ∈ gaps ↔ slot < claimGranted allocator slots ∧ slot ∉ slots := by
      rw [← listed, mem_filter]
      simp
    rw [SpaceAllocator.abort, states_retire _ _ _ (by decide), states_commit, total, initial]
    by_cases below : slot < claimGranted allocator slots
    · have exists_ : slot < allocator.totalSlots := lt_of_lt_of_le below inRange
      by_cases recovered : slot ∈ slots
      · simp [recovered, below, exists_, geometry.totalSlots]
      · simp [gap, recovered, below, exists_]
    · simp [below]
  have highWater : ((claimed.commit slots).abort gaps).highWater =
      claimGranted allocator slots := by
    rw [extent.highWater, ← taken, zero_add]
  refine ⟨sound, geometry.trans extent.toSameGeometry, highWater, ?_, ?_, states⟩
  · refine eq_nil_iff_forall_not_mem.mpr fun slot member => ?_
    obtain ⟨below, free⟩ := (sound.free_iff slot).mp member
    rw [highWater] at below
    rw [states, if_pos below] at free
    split at free <;> cases free
  · intro slot
    rw [SpaceAllocator.abort, generations_retire, generations_commit, ← taken]
    exact pristine.generations slot

/-! ## The entries of the checkpoint -/

/-- The header in the slot of an entry confirms that the key was committed
there. -/
structure Confirmed (core : ObjectStoreCore) (media : Media) (key : ObjectKey) (entry : Entry) :
    Prop where
  committed : entry.committed = true
  lt_totalSlots : entry.slot < core.allocator.totalSlots
  header : ∃ header fields,
    readObjectHeader media (core.headerPath entry.slot) (core.headerOffset entry.slot) =
      some header ∧
    decodeObjectHeader header ⟨key, core.config.layout.payloadBytes, entry.generation, true⟩ =
      .ok fields ∧ fields.commitSeq = entry.commitSeq

variable {media : Media} {entry : CheckpointEntry}

/-- What it takes for an entry of the checkpoint to be accepted. -/
theorem judgeEntry_accepted_iff {core : ObjectStoreCore} {commitSeq : Nat} :
    core.judgeEntry media entry = .accepted commitSeq ↔
      entry.payloadBytes = core.config.layout.payloadBytes ∧ core.index.get? entry.key = none ∧
        core.slotOwner entry.slot = none ∧
        core.Confirmed media entry.key ⟨entry.slot, entry.generation, commitSeq, true⟩ := by
  unfold judgeEntry
  constructor
  · intro accepted
    split at accepted
    · cases accepted
    rename_i geometry
    push Not at geometry
    split at accepted
    · cases accepted
    rename_i fresh
    push Not at fresh
    have absent : core.index.get? entry.key = none := get?_eq_none_iff.mpr fresh.1
    have unowned : core.slotOwner entry.slot = none := Option.not_isSome_iff_eq_none.mp fresh.2
    split at accepted
    · cases accepted
    rename_i header found
    split at accepted
    · cases accepted
    rename_i fields decoded
    cases accepted
    rw [geometry.2] at decoded
    exact ⟨geometry.2, absent, unowned, rfl, geometry.1, header, fields, found, decoded, rfl⟩
  · rintro ⟨payload, absent, unowned, _, inRange, header, fields, found, decoded, rfl⟩
    have outside : ¬ (core.allocator.totalSlots ≤ entry.slot ∨
        entry.payloadBytes ≠ core.config.layout.payloadBytes) := by
      rintro (beyond | different)
      · exact absurd inRange (not_lt.mpr beyond)
      · exact different payload
    have taken : ¬ (entry.key ∈ core.index ∨ (core.slotOwner entry.slot).isSome = true) := by
      rintro (present | owned)
      · exact get?_eq_none_iff.mp absent present
      · rw [unowned] at owned
        cases owned
    rw [if_neg outside, if_neg taken]
    simp only [found, payload, decoded]

/-- What holds while the entries of the checkpoint are walked over: the entries
that were there before are kept, and the others are confirmed by their headers
and sit in the collected slots. -/
structure Recovering (base : ObjectStoreCore) (media : Media) (core : ObjectStoreCore)
    (slots : List Nat) : Prop where
  frame : ∃ index slotOwner recovery checkpointSeq, core = { base with
    index
    slotOwner
    recovery
    checkpointSeq }
  owner_iff : ∀ slot key, core.slotOwner slot = some key ↔
    ∃ entry, core.index.get? key = some entry ∧ entry.slot = slot
  unowned : ∀ slot, core.slotOwner slot = none → base.slotOwner slot = none
  kept : ∀ key entry, base.index.get? key = some entry → core.index.get? key = some entry
  origin : ∀ key entry, core.index.get? key = some entry →
    base.index.get? key = some entry ∨
      base.index.get? key = none ∧ entry.slot ∈ slots ∧ base.Confirmed media key entry
  collected : ∀ slot ∈ slots, base.slotOwner slot = none ∧
    ∃ key entry, core.index.get? key = some entry ∧ entry.slot = slot ∧
      base.Confirmed media key entry

section

variable {base core : ObjectStoreCore} (recovering : Recovering base media core slots)
include recovering

/-- A dropped entry is only counted. -/
theorem Recovering.drop (recovery : RecoveryReport) :
    Recovering base media { core with recovery } slots := by
  refine { recovering with frame := ?_ }
  obtain ⟨_, _, _, _, rfl⟩ := recovering.frame
  exact ⟨_, _, _, _, rfl⟩

/-- An accepted entry joins the index. -/
theorem Recovering.adopt {commitSeq : Nat}
    (accepted : core.judgeEntry media entry = .accepted commitSeq) :
    Recovering base media (core.adoptEntry entry commitSeq) (slots ++ [entry.slot]) := by
  obtain ⟨_, absent, unowned, confirmed⟩ := judgeEntry_accepted_iff.mp accepted
  have based : base.Confirmed media entry.key ⟨entry.slot, entry.generation, commitSeq, true⟩ := by
    obtain ⟨_, _, _, _, rfl⟩ := recovering.frame
    exact { confirmed with }
  have before : base.index.get? entry.key = none := by
    cases present : base.index.get? entry.key with
    | none => rfl
    | some found =>
      rw [recovering.kept _ _ present] at absent
      cases absent
  have apart : ∀ key other, core.index.get? key = some other → other.slot ≠ entry.slot := by
    intro key other present same
    have owner := (recovering.owner_iff entry.slot key).mpr ⟨other, present, same⟩
    rw [unowned] at owner
    cases owner
  have keys : ∀ key other, core.index.get? key = some other → key ≠ entry.key := by
    rintro key other present rfl
    rw [absent] at present
    cases present
  refine ⟨?_, ?_, ?_, ?_, ?_, ?_⟩
  · obtain ⟨_, _, _, _, rfl⟩ := recovering.frame
    exact ⟨_, _, _, _, rfl⟩
  · exact owner_iff_insert ⟨_, entry.generation, commitSeq, true⟩ recovering.owner_iff absent apart
  · intro slot none
    refine recovering.unowned slot ?_
    by_cases here : slot = entry.slot
    · rw [here]
      exact unowned
    · simpa only [adoptEntry, Function.update_of_ne here] using none
  · intro key other present
    have found := recovering.kept key other present
    simp only [adoptEntry, get?_set, keys key other found]
    exact found
  · intro key other found
    simp only [adoptEntry, get?_set] at found
    split at found
    · rename_i same
      cases found
      rw [same]
      exact .inr ⟨before, mem_append_right _ (mem_singleton_self _), based⟩
    · rcases recovering.origin key other found with old | ⟨fresh, located, confirmed⟩
      · exact .inl old
      · exact .inr ⟨fresh, mem_append_left _ located, confirmed⟩
  · intro slot member
    rcases mem_append.mp member with earlier | last
    · obtain ⟨unowned, key, other, found, located, confirmed⟩ := recovering.collected slot earlier
      refine ⟨unowned, key, other, ?_, located, confirmed⟩
      simp only [adoptEntry, get?_set, keys key other found]
      exact found
    · rw [mem_singleton] at last
      subst last
      refine ⟨recovering.unowned _ unowned, entry.key, _, ?_, rfl, based⟩
      simp only [adoptEntry, get?_set_self]

/-- Index and reverse map name the same pairs of key and slot. -/
def Inverse (core : ObjectStoreCore) : Prop :=
  ∀ slot key, core.slotOwner slot = some key ↔
    ∃ entry, core.index.get? key = some entry ∧ entry.slot = slot

omit recovering in
theorem Recovering.start {base : ObjectStoreCore} {media : Media} (inverse : base.Inverse)
    (recovery : RecoveryReport) (checkpointSeq : Nat) :
    Recovering base media { base with recovery, checkpointSeq } [] where
  frame := ⟨_, _, _, _, rfl⟩
  owner_iff := inverse
  unowned := fun _ none => none
  kept := fun _ _ present => present
  origin := fun _ _ present => .inl present
  collected := nofun

/-- The walk over the entries of the checkpoint. -/
theorem Recovering.recoverEntries (entries : List CheckpointEntry) (highest : Nat) :
    Recovering base media (ObjectStoreCore.recoverEntries media entries slots highest core).2.2
      (ObjectStoreCore.recoverEntries media entries slots highest core).1 := by
  induction entries generalizing core slots highest with
  | nil => exact recovering
  | cons entry entries ih =>
    rw [ObjectStoreCore.recoverEntries]
    cases verdict : core.judgeEntry media entry with
    | geometry | duplicate | header => exact ih (recovering.drop _) highest
    | accepted commitSeq => exact ih (recovering.adopt verdict) _

end

/-- The walk changes the index, the reverse map and the report. -/
theorem recoverEntries_frame (media : Media) (entries : List CheckpointEntry) (slots : List Nat)
    (highest : Nat) (core : ObjectStoreCore) :
    ∃ index slotOwner recovery, (recoverEntries media entries slots highest core).2.2 =
      { core with index, slotOwner, recovery } := by
  induction entries generalizing slots highest core with
  | nil => exact ⟨_, _, _, rfl⟩
  | cons entry entries ih =>
    rw [recoverEntries]
    cases core.judgeEntry media entry with
    | geometry | duplicate | header => exact ih slots highest _
    | accepted commitSeq => exact ih _ _ _

/-- The sum of the verdicts counted so far. -/
def judged (core : ObjectStoreCore) : Nat :=
  core.recovery.accepted + core.recovery.droppedHeader + core.recovery.droppedGeometry +
    core.recovery.droppedDuplicate

/-- Every entry is counted under exactly one verdict. -/
theorem judged_recoverEntries (media : Media) (entries : List CheckpointEntry) (slots : List Nat)
    (highest : Nat) (core : ObjectStoreCore) :
    (recoverEntries media entries slots highest core).2.2.judged = core.judged + entries.length ∧
      (recoverEntries media entries slots highest core).2.2.recovery.checkpointEntries =
        core.recovery.checkpointEntries := by
  induction entries generalizing core slots highest with
  | nil => exact ⟨rfl, rfl⟩
  | cons entry entries ih =>
    rw [recoverEntries]
    cases core.judgeEntry media entry with
    | geometry | duplicate | header | accepted =>
      refine ⟨(ih _ _ _).1.trans ?_, (ih _ _ _).2⟩
      simp only [judged, adoptEntry, length_cons]
      omega

/-! ## Loading the checkpoint -/

/-- What `load_checkpoint_locked` makes of a store: entries confirmed by their
headers join the index, and the allocator claims their slots. -/
theorem recovering_loadCheckpoint {session : Session} (inverse : session.core.Inverse) :
    ∃ slots middle commitSeq, Recovering session.core session.media middle slots ∧
      (loadCheckpoint session).core = { middle with
        commitSeq
        allocator := claimRecovered session.core.allocator slots } ∧
      middle.recovery.checkpointEntries = middle.judged := by
  unfold loadCheckpoint
  split
  · exact ⟨[], _, _, .start inverse {} session.core.checkpointSeq, rfl, rfl⟩
  rename_i sequence entries _
  have start := @Recovering.start session.core session.media inverse
    { checkpointAvailable := true, checkpointEntries := entries.length } sequence
  have walked := start.recoverEntries entries 0
  have counted := judged_recoverEntries session.media entries [] 0 { session.core with
    recovery := { checkpointAvailable := true, checkpointEntries := entries.length }
    checkpointSeq := sequence }
  dsimp only [adoptCheckpoint]
  generalize recoverEntries session.media entries [] 0 _ = recovered at walked counted ⊢
  have same : recovered.2.2.allocator = session.core.allocator := by
    obtain ⟨_, _, _, _, shape⟩ := walked.frame
    rw [shape]
  refine ⟨recovered.1, recovered.2.2, max recovered.2.2.commitSeq recovered.2.1, walked, ?_, ?_⟩
  · rw [same]
  · rw [counted.2, counted.1]
    simp [judged]

end ObjectStoreCore

end Tutti
