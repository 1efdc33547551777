import Tutti.Storage.StoreOpen

/-!
# Every slot has one key

From a fresh open on, no sequence of operations makes two keys share a slot, or
hands out a slot that a key still has: neither failed header writes nor failed
zeroing nor failed materialisation breaks the agreement of index, reverse map
and allocator. The placements of two keys then never coincide on the media, unless
one mount is configured under two texts: mounts are told apart by their texts, and
`path_for_slot` gives `/mnt` and `/mnt/` the same files.
-/

namespace Tutti

open Foundation

namespace ObjectStoreCore

variable {core next : ObjectStoreCore} {key other : ObjectKey}

/-- The placement is the one the index has for the key. -/
def Placed (core : ObjectStoreCore) (key : ObjectKey) (placement : ObjectPlacement) : Prop :=
  ∃ entry, core.index.get? key = some entry ∧
    placement = core.placementFor entry.slot entry.generation

variable {placement : ObjectPlacement}

theorem placed_of_lookup (found : core.lookup key = .ok placement) :
    core.Placed key placement := by
  unfold lookup at found
  split at found
  · cases found
  rename_i entry present
  split at found
  · cases found
  · cases found
    exact ⟨entry, present, rfl⟩

/-- Every placement handed out so far is the one in the index. -/
def AllPlaced (core : ObjectStoreCore) (outcome : ReserveOutcome) : Prop :=
  outcome.accepted.length = outcome.acceptedKeys.length ∧
    ∀ pair ∈ outcome.accepted.zip outcome.acceptedKeys, core.Placed pair.2 pair.1

variable {outcome : ReserveOutcome}

theorem AllPlaced.accept (all : core.AllPlaced outcome) (placed : core.Placed key placement) :
    core.AllPlaced (outcome.accept placement key) := by
  refine ⟨?_, ?_⟩
  · simp [ReserveOutcome.accept, all.1]
  intro pair member
  simp only [ReserveOutcome.accept, List.zip_append all.1, List.mem_append] at member
  rcases member with earlier | last
  · exact all.2 pair earlier
  simp only [List.zip_cons_cons, List.zip_nil_right, List.mem_singleton] at last
  rw [last]
  exact placed

/-- A fresh key does not move the others. -/
theorem Placed.insertReserved (placed : core.Placed other placement)
    (absent : core.index.get? key = none) (slot generation : Nat) (allocator : SpaceAllocator) :
    (core.insertReserved key slot generation allocator).Placed other placement := by
  obtain ⟨entry, present, rfl⟩ := placed
  exact ⟨entry, get?_insertReserved absent present _ _ _, rfl⟩

theorem allPlaced_reserveKeys (keys : List ObjectKey) {core : ObjectStoreCore}
    (sound : core.allocator.Sound) (all : core.AllPlaced outcome) :
    (reserveKeys keys outcome core).2.AllPlaced (reserveKeys keys outcome core).1 := by
  induction keys generalizing outcome core with
  | nil => exact all
  | cons key keys ih =>
    rw [reserveKeys]
    split
    · exact ih sound all
    cases present : core.index.get? key with
    | some existing => exact ih sound (all.accept ⟨existing, present, rfl⟩)
    | none =>
      rcases SpaceAllocator.reserve_one sound with
        ⟨_, _, exhausted⟩ | ⟨slot, allocator, granted, claims⟩
      · simp only [exhausted]
        exact all
      simp only [granted]
      have moved : (core.insertReserved key slot (core.allocator.generations slot)
          allocator).AllPlaced outcome :=
        ⟨all.1, fun pair member => (all.2 pair member).insertReserved present _ _ _⟩
      refine ih claims.sound (moved.accept
        ⟨⟨slot, core.allocator.generations slot, 0, false⟩, ?_, rfl⟩)
      simp only [ObjectStoreCore.insertReserved, OrderedDict.get?_set_self]

theorem placed_of_reserve (sound : core.allocator.Sound) {keys : List ObjectKey}
    (reserved : core.reserve keys = (.ok outcome, next)) :
    ∀ pair ∈ outcome.accepted.zip outcome.acceptedKeys, next.Placed pair.2 pair.1 := by
  have start : core.AllPlaced {} := ⟨rfl, fun _ member => (List.not_mem_nil member).elim⟩
  have all := allPlaced_reserveKeys keys sound start
  rw [reserveKeys_of_ok reserved] at all
  exact all.2

/-- No two slots overlap in one file. -/
def SlotsApart (core : ObjectStoreCore) : Prop :=
  ∀ first < core.allocator.totalSlots, ∀ second < core.allocator.totalSlots, first ≠ second →
    core.headerPath first ≠ core.headerPath second ∨
      core.headerOffset first + core.slotBytes ≤ core.headerOffset second ∨
      core.headerOffset second + core.slotBytes ≤ core.headerOffset first

theorem SlotsApart.of_sameStore (apart : core.SlotsApart) (same : SameStore core next) :
    next.SlotsApart := by
  unfold SlotsApart headerPath headerOffset
  rw [same.placement, same.slotBytes, same.totalSlots]
  exact apart

/-- Two keys never have one place on the media. -/
theorem Owned.placed_apart (owned : core.Owned) (apart : core.SlotsApart)
    (positive : 0 < core.slotBytes) {first second : ObjectPlacement}
    (placed : core.Placed key first) (placed' : core.Placed other second)
    (different : key ≠ other) : ¬ (first.uri = second.uri ∧ first.offset = second.offset) := by
  obtain ⟨entry, present, rfl⟩ := placed
  obtain ⟨entry', present', rfl⟩ := placed'
  rintro ⟨uri, offset⟩
  have slots : entry.slot ≠ entry'.slot := fun same =>
    different (owned.key_unique present present' same)
  have path := congrArg normalise (List.append_cancel_left uri)
  have offset : core.headerOffset entry.slot = core.headerOffset entry'.slot :=
    Nat.add_right_cancel offset
  rcases apart _ (owned.lt_totalSlots present) _ (owned.lt_totalSlots present') slots with
    file | below | below
  · exact file path
  · omega
  · omega

/-- Slot exclusivity: the reverse map is the inverse of the index, the slots of
the index exist and are in none of the allocator's collections, and no two keys
have one place on the media, be it learnt from `lookup` or from `reserve`. -/
structure Exclusive (core : ObjectStoreCore) : Prop where
  inverse : core.Inverse
  unique : ∀ key entry other second, core.index.get? key = some entry →
    core.index.get? other = some second → entry.slot = second.slot → key = other
  lt_totalSlots : ∀ key entry, core.index.get? key = some entry →
    entry.slot < core.allocator.totalSlots
  not_available : ∀ key entry, core.index.get? key = some entry →
    entry.slot ∉ core.allocator.freeList ∧ entry.slot ∉ core.allocator.reclaimQueue ∧
      entry.slot ∉ core.allocator.reclaimInFlight
  lookup_placed : ∀ key placement, core.lookup key = .ok placement → core.Placed key placement
  reserve_placed : ∀ keys outcome next, core.reserve keys = (.ok outcome, next) →
    ∀ pair ∈ outcome.accepted.zip outcome.acceptedKeys, next.Placed pair.2 pair.1
  placed_apart : ∀ key other first second, core.Placed key first → core.Placed other second →
    key ≠ other → ¬ (first.uri = second.uri ∧ first.offset = second.offset)

theorem Owned.exclusive (owned : core.Owned) (apart : core.SlotsApart)
    (positive : 0 < core.slotBytes) : core.Exclusive where
  inverse := owned.owner_iff
  unique := fun _ _ _ _ present present' same => owned.key_unique present present' same
  lt_totalSlots := fun _ _ present => owned.lt_totalSlots present
  not_available := fun key entry present =>
    owned.sound.not_mem_of_held (owned.inUse key entry present)
  lookup_placed := fun _ _ found => placed_of_lookup found
  reserve_placed := fun _ _ _ reserved => placed_of_reserve owned.sound reserved
  placed_apart := fun _ _ _ _ placed placed' different =>
    owned.placed_apart apart positive placed placed' different

/-! ## From the first open on -/

theorem GeometryOk.placement_sound {config : StoreConfig} {allocator : SpaceAllocator}
    (geometry : GeometryOk core config allocator) : (placementOf config).Sound := by
  have valid := geometry.valid
  simp only [FixedSegmentFilePlacement.geometryValid, decide_eq_true_eq] at valid
  exact ⟨nodup_firstOccurrences _, valid.1, valid.2⟩

variable {media : Media} {config : StoreConfig} {session : Session}

theorem FreshOpen.placement_sound (opened : FreshOpen media config session) :
    session.core.placement.Sound := by
  obtain ⟨allocator, geometry, _⟩ := opened.geometry
  rw [opened.placement]
  exact geometry.placement_sound

theorem FreshOpen.owned (opened : FreshOpen media config session) : session.core.Owned := by
  obtain ⟨slots, taken, _, states⟩ := opened.claimed
  refine ⟨opened.sound, opened.inverse, fun key entry present => .inr ?_⟩
  have member := (taken entry.slot).mpr ⟨key, entry, present, rfl⟩
  rw [states, if_pos (lt_claimBound member), if_pos member]

/-- The store stays the same store along a run. -/
theorem sameStore_run (sound : session.core.allocator.Sound) (operations : List StoreOp) :
    SameStore session.core (runFrom step session operations).core := by
  have start : session.core.allocator.Sound ∧ SameStore session.core session.core :=
    ⟨sound, .refl _⟩
  have both := run_keep
    (motive := fun reached => reached.core.allocator.Sound ∧ SameStore session.core reached.core)
    (fun _ holds => holds.1)
    (fun _ _ move holds => ⟨move.sound holds.1, holds.2.trans move.sameStore⟩) start operations
  exact both.2

/-- The mounts that some slot is on. -/
def usedMounts (config : StoreConfig) : List String :=
  (firstOccurrences config.devices).take (slotTotal config)

/-- No mount is listed under two texts. -/
def MountsDistinct (config : StoreConfig) : Prop :=
  ∀ first ∈ usedMounts config, ∀ second ∈ usedMounts config,
    normalise first.toList = normalise second.toList → first = second

instance (config : StoreConfig) : Decidable (MountsDistinct config) :=
  inferInstanceAs (Decidable (∀ first ∈ usedMounts config, ∀ second ∈ usedMounts config,
    normalise first.toList = normalise second.toList → first = second))

section Opened

variable (opened : FreshOpen media config session)
include opened

theorem FreshOpen.totalSlots : session.core.allocator.totalSlots = slotTotal config := by
  obtain ⟨allocator, geometry, total⟩ := opened.geometry
  rw [total]
  exact geometry.totalSlots_eq.1

theorem FreshOpen.mount_mem {slot : Nat} (inside : slot < slotTotal config) :
    (placementOf config).mountForSlot slot ∈ usedMounts config := by
  have sound := opened.placement_sound
  rw [opened.placement] at sound
  have device := Nat.mod_lt slot (List.length_pos_of_ne_nil sound.mounts_ne_nil)
  have low : slot % (firstOccurrences config.devices).length < slotTotal config :=
    lt_of_le_of_lt (Nat.mod_le _ _) inside
  refine List.mem_take_iff_getElem.mpr ⟨_, lt_min low device, ?_⟩
  rw [FixedSegmentFilePlacement.mountForSlot, List.getD_eq_getElem?_getD,
    List.getElem?_eq_getElem device, Option.getD_some]
  rfl

/-- Slots of distinct mounts are in different files, and those of one mount apart. -/
theorem FreshOpen.slotsApart (distinct : MountsDistinct config) : session.core.SlotsApart := by
  intro first inside second inside' different
  rw [opened.totalSlots] at inside inside'
  by_cases same : session.core.headerPath first = session.core.headerPath second
  · right
    have sound := opened.placement_sound
    rw [opened.placement] at sound
    unfold headerPath at same
    rw [opened.placement] at same
    obtain ⟨mount, file⟩ := segmentPath_inj same
    have mounts := distinct _ (opened.mount_mem inside) _ (opened.mount_mem inside') mount
    unfold headerOffset
    rw [opened.placement, opened.slotBytes]
    exact sound.apart different mounts file
  · exact .inl same

end Opened

/-- In every state that a new store with distinct mounts reaches after a successful
open, whatever fails on the way, the slots are exclusive. -/
theorem exclusive_of_open {faults : OpenFaults}
    (ok : openStore ⟨fresh, media⟩ config faults = (.ok (), session))
    (distinct : MountsDistinct config) (operations : List StoreOp) :
    (runFrom step session operations).core.Exclusive := by
  have opened := freshOpen ok
  have same := sameStore_run opened.sound operations
  refine (opened.owned.run operations).exclusive ((opened.slotsApart distinct).of_sameStore same) ?_
  have positive := opened.placement_sound.slotBytes_pos
  rw [opened.placement] at positive
  rw [same.slotBytes, opened.slotBytes]
  exact positive

theorem exclusive_pair :
    openStore ⟨fresh, .blank⟩ pairConfig {} = (.ok (), pairSession) ∧
      (runFrom step pairSession [.reserve [[1], [2], [1], []],
        .commit [([1], .done), ([2], .failed ⟨.deviceError, "header write"⟩ [])],
        .release [[1]], .abort [[2], [3]], .drainReclaim 2 fun _ => .done,
        .reserve [[3]]]).core.Exclusive :=
  ⟨openStore_pair, exclusive_of_open openStore_pair (by decide) _⟩

/-! ## One mount, two texts -/

/-- The pair with its mount listed a second time, with a slash at the end. -/
def twiceConfig : StoreConfig := { pairConfig with devices := ["/mnt", "/mnt/"] }

/-- That store after its first open. Both mounts give its slots the file
`/mnt/r0/segments/0.seg`. -/
def twiceSession : Session :=
  ⟨{ pairSession.core with
      config := twiceConfig
      placement := placementOf twiceConfig
      mountCount := 2
      groupSlots := 4 }, pairSession.media⟩

theorem openStore_twice : openStore ⟨fresh, .blank⟩ twiceConfig {} = (.ok (), twiceSession) := by
  have nothing := @loadCheckpoint_of_zeros
    ⟨{ fresh.withGeometry twiceConfig pairStore.allocator with containerBytes := 8192 },
      Media.blank.setCheckpoint pairConfig.root (List.replicate 16384 0)⟩ 16384 rfl
  have opened := @openStore_eq twiceConfig {} ⟨fresh, .blank⟩ _ _ _ _ _ _ rfl rfl rfl rfl rfl
    nothing rfl rfl
  exact opened

/-- Both keys of one `reserve` get the same uri and offset. -/
theorem twice_shares_placement :
    openStore ⟨fresh, .blank⟩ twiceConfig {} = (.ok (), twiceSession) ∧
      ¬ MountsDistinct twiceConfig ∧
      ¬ (runFrom step twiceSession [.reserve [[1], [2]]]).core.Exclusive := by
  refine ⟨openStore_twice, by decide, fun exclusive => ?_⟩
  refine exclusive.placed_apart [1] [2] _ _ ⟨⟨0, 0, 0, false⟩, ?_, rfl⟩
    ⟨⟨1, 0, 0, false⟩, ?_, rfl⟩ (by decide) ⟨?_, ?_⟩
  · decide +kernel
  · decide +kernel
  · decide +kernel
  · decide +kernel

end ObjectStoreCore

end Tutti
