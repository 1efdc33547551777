import Tutti.Storage.Generations

/-!
# The bytes of a slot

Every slot has a region of its segment file: the header block and the payload.
Regions of one mount never overlap, but which texts name one file is decided by
path normalisation, while the store tells mounts apart by their texts as they are
configured. Two spellings of one mount put two slots in one place.
-/

namespace Tutti

open Foundation List

namespace ObjectStoreCore

/-! ## Regions -/

/-- The slots below `total_slots` have regions of their own, inside their files,
aligned, with the payload and all its segments inside. -/
structure RegionsApart (core : ObjectStoreCore) : Prop where
  apart : core.SlotsApart
  inside : ∀ slot < core.allocator.totalSlots,
    core.headerOffset slot + core.slotBytes ≤ core.placement.fileBytes
  aligned : ∀ slot < core.allocator.totalSlots, core.headerOffset slot % alignment = 0 ∧
    core.placement.payloadOffsetForSlot slot % alignment = 0
  payload : ∀ slot < core.allocator.totalSlots,
    core.headerOffset slot + ObjectHeaderLayout.headerBytes ≤
        core.placement.payloadOffsetForSlot slot ∧
      core.placement.payloadOffsetForSlot slot + core.config.layout.payloadBytes ≤
        core.headerOffset slot + core.slotBytes
  segments : ∀ slot < core.allocator.totalSlots, ∀ segment < core.config.layout.segmentCount,
    core.placement.payloadOffsetForSlot slot + (segment + 1) * core.config.layout.segmentBytes ≤
      core.headerOffset slot + core.slotBytes

/-- An accepted configuration names every mount. -/
theorem named_of_open {session reached : Session} {config : StoreConfig} {faults : OpenFaults}
    (closed : session.core.opened = false)
    (ok : openStore session config faults = (.ok (), reached)) : "" ∉ config.devices := by
  unfold openStore at ok
  split at ok
  · cases ok
  simp only [closed, Bool.false_eq_true] at ok
  obtain ⟨placed, built, _⟩ := andThen_ok ok
  unfold setGeometry buildBackend at built
  dsimp only at built
  split at built
  · cases built
  rename_i backend
  split at backend
  · cases backend
  split at backend
  · cases backend
  rename_i named
  exact named

section Opened

variable {media : Media} {config : StoreConfig} {session : Session}

section

variable (opened : FreshOpen media config session)
include opened

theorem FreshOpen.configOk : ConfigOk config := by
  obtain ⟨_, geometry, _⟩ := opened.geometry
  exact checkConfig_ok geometry.checked

omit opened in
theorem slotSize_aligned (checked : ConfigOk config) : slotSize config % alignment = 0 := by
  have product : alignment ∣ config.layout.segmentBytes * config.layout.segmentCount :=
    Dvd.dvd.mul_right (Nat.dvd_of_mod_eq_zero checked.segment_aligned) _
  have wrap : alignment ∣ uint64Size := by decide
  exact Nat.mod_eq_zero_of_dvd (Nat.dvd_add (Nat.dvd_of_mod_eq_zero checked.header_aligned)
    ((Nat.dvd_mod_iff wrap).mpr product))

omit opened in
/-- The first slots of the mounts start their files. -/
theorem path_of_mount {placement : FixedSegmentFilePlacement} {device : Nat}
    (inside : device < placement.mounts.length) :
    normalise (placement.pathForSlot device) =
        segmentPath (placement.mounts.get ⟨device, inside⟩) placement.rank 0 ∧
      placement.headerOffsetForSlot device = 0 := by
  unfold FixedSegmentFilePlacement.pathForSlot FixedSegmentFilePlacement.headerOffsetForSlot
    FixedSegmentFilePlacement.mountForSlot FixedSegmentFilePlacement.fileForSlot
  rw [Nat.mod_eq_of_lt inside, Nat.div_eq_of_lt inside, Nat.zero_div, Nat.zero_mod, Nat.zero_mul,
    getD_eq_getElem?_getD, getElem?_eq_getElem inside]
  exact ⟨rfl, rfl⟩

theorem FreshOpen.payloadOffset (slot : Nat) :
    session.core.placement.payloadOffsetForSlot slot =
      session.core.headerOffset slot + config.segmentHeaderBytes := by
  rw [headerOffset, opened.placement]
  rfl

/-- The first slots of two mounts both start their files, so the files differ. -/
theorem FreshOpen.mountsDistinct (regions : RegionsApart session.core) :
    MountsDistinct config := by
  intro first member second member' same
  by_contra different
  obtain ⟨device, below, rfl⟩ := mem_take_iff_getElem.mp member
  obtain ⟨other, below', rfl⟩ := mem_take_iff_getElem.mp member'
  obtain ⟨exists_, inside⟩ := lt_min_iff.mp below
  obtain ⟨exists', inside'⟩ := lt_min_iff.mp below'
  obtain ⟨path, offset⟩ := @path_of_mount (placementOf config) device inside
  obtain ⟨path', offset'⟩ := @path_of_mount (placementOf config) other inside'
  have slots : device ≠ other := by
    rintro rfl
    exact different rfl
  rw [← opened.totalSlots] at exists_ exists'
  have apart := regions.apart device exists_ other exists' slots
  rw [headerPath, headerPath, headerOffset, headerOffset, opened.placement, path, path'] at apart
  have wide := opened.wellLaid.header_le
  have block : alignment = 4096 := rfl
  rcases apart with files | below | below
  · refine files ?_
    rw [segmentPath_eq, segmentPath_eq]
    exact congrArg (fun mount : NormalPath => NormalPath.mk mount.absolute
      (segmentName 0 :: "segments".toList :: ('r' :: Nat.toDigits 10 _) :: mount.stack)) same
  · omega
  · omega

/-- The last segment ends inside its region only if the payload size is not
wrapped. -/
theorem FreshOpen.payload_lt (regions : RegionsApart session.core) :
    config.layout.segmentBytes * config.layout.segmentCount < uint64Size := by
  have checked := opened.configOk
  have exists_ : config.layout.segmentCount - 1 < session.core.config.layout.segmentCount := by
    rw [opened.config_eq]
    exact Nat.sub_lt checked.segmentCount_pos one_pos
  have last := regions.segments 0 opened.wellLaid.totalSlots_pos _ exists_
  rw [opened.payloadOffset, opened.slotBytes, opened.config_eq,
    Nat.sub_add_cancel checked.segmentCount_pos, Nat.mul_comm] at last
  have wrapped : config.layout.segmentBytes * config.layout.segmentCount ≤
      config.layout.payloadBytes := by
    unfold slotSize at last
    omega
  exact lt_of_le_of_lt wrapped (Nat.mod_lt _ (by decide))

theorem FreshOpen.regionsApart (distinct : MountsDistinct config)
    (small : config.layout.segmentBytes * config.layout.segmentCount < uint64Size) :
    RegionsApart session.core where
  apart := opened.slotsApart distinct
  inside := by
    intro slot _
    rw [opened.wellLaid.slotBytes]
    exact opened.placement_sound.slot_le_fileBytes slot
  aligned := by
    intro slot _
    have checked := opened.configOk
    have header : alignment ∣ session.core.headerOffset slot := by
      rw [headerOffset, opened.placement]
      exact Dvd.dvd.mul_left (Nat.dvd_of_mod_eq_zero (slotSize_aligned checked)) _
    refine ⟨Nat.mod_eq_zero_of_dvd header, ?_⟩
    rw [opened.payloadOffset]
    exact Nat.mod_eq_zero_of_dvd
      (Nat.dvd_add header (Nat.dvd_of_mod_eq_zero checked.header_aligned))
  payload := by
    intro slot _
    have wide : ObjectHeaderLayout.headerBytes ≤ config.segmentHeaderBytes :=
      opened.configOk.header_le
    rw [opened.payloadOffset, opened.config_eq, opened.slotBytes, slotSize]
    omega
  segments := by
    intro slot _ segment inside
    rw [opened.config_eq] at inside ⊢
    have whole : config.layout.payloadBytes =
        config.layout.segmentBytes * config.layout.segmentCount := Nat.mod_eq_of_lt small
    have fits : (segment + 1) * config.layout.segmentBytes ≤ config.layout.payloadBytes := by
      rw [whole, mul_comm config.layout.segmentBytes]
      exact Nat.mul_le_mul_right _ inside
    rw [opened.payloadOffset, opened.slotBytes, slotSize]
    omega

end

/-- The slots of an accepted configuration have regions of their own exactly if
no mount is listed under two texts and the payload size does not wrap. -/
theorem regionsApart_iff {faults : OpenFaults}
    (ok : openStore ⟨fresh, media⟩ config faults = (.ok (), session)) :
    RegionsApart session.core ↔ MountsDistinct config ∧
      config.layout.segmentBytes * config.layout.segmentCount < uint64Size := by
  have opened := freshOpen ok
  constructor
  · intro regions
    exact ⟨opened.mountsDistinct regions, opened.payload_lt regions⟩
  · rintro ⟨distinct, small⟩
    exact opened.regionsApart distinct small

end Opened

theorem regionsApart_iff_pair :
    openStore ⟨fresh, .blank⟩ pairConfig {} = (.ok (), pairSession) ∧
      (RegionsApart pairSession.core ↔ MountsDistinct pairConfig ∧
        pairConfig.layout.segmentBytes * pairConfig.layout.segmentCount < uint64Size) :=
  ⟨openStore_pair, regionsApart_iff openStore_pair⟩

/-- Both slots are in the file `/mnt/r0/segments/0.seg`, from its first byte on. -/
theorem twice_overlaps :
    openStore ⟨fresh, .blank⟩ twiceConfig {} = (.ok (), twiceSession) ∧
      twiceSession.core.placement.pathForSlot 0 = twiceSession.core.placement.pathForSlot 1 ∧
      ¬ RegionsApart twiceSession.core := by
  have path : twiceSession.core.placement.pathForSlot 0 =
      twiceSession.core.placement.pathForSlot 1 := by decide +kernel
  refine ⟨openStore_twice, path, fun regions => ?_⟩
  have offsets : twiceSession.core.headerOffset 0 = 0 ∧ twiceSession.core.headerOffset 1 = 0 ∧
      twiceSession.core.slotBytes = 8192 := by decide +kernel
  rcases regions.apart 0 (by decide) 1 (by decide) (by decide) with files | below | below
  · exact files (congrArg normalise path)
  · omega
  · omega

end ObjectStoreCore

end Tutti
