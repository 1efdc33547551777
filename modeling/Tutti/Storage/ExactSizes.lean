import Tutti.Storage.CheckpointFile

/-!
# The sizes that open computes

A store can be configured by its number of slots. `open` multiplies the sizes of the
configuration in 64 bits and guards the size of a file and of a group, but neither the
payload of an object nor the capacity in bytes: where one of these wraps around, the store
opens with fewer slots than it was asked for, or with smaller ones.
-/

namespace Tutti

open Foundation CheckpointLayout

namespace ObjectStoreCore

variable {config : StoreConfig} {session : Session} {faults : OpenFaults}

/-- A store configured in slots has the sizes that its configuration asks for, computed
without wrap-around. -/
structure ExactSizes (config : StoreConfig) (core : ObjectStoreCore) : Prop where
  totalSlots : core.allocator.totalSlots = config.capacitySlots
  slotBytes : core.slotBytes =
    config.segmentHeaderBytes + config.layout.segmentBytes * config.layout.segmentCount
  fileBytes : core.placement.fileBytes = core.slotBytes * config.segmentFileSlots
  fileBytes_lt : core.placement.fileBytes < uint64Size
  offset : ∀ slot < config.capacitySlots,
    core.headerOffset slot + core.slotBytes ≤ core.placement.fileBytes
  groupSlots : core.groupSlots = config.segmentFileSlots * core.mountCount
  groupSlots_lt : core.groupSlots < uint64Size
  container : containerHeaderBytes +
      (entryCountBytes + config.capacitySlots * (entryFixedBytes + maxKeyBytes)) ≤
    core.containerBytes
  region : ∀ index < containerCount,
    checkpointContainerOffset index core.containerBytes = index * core.containerBytes ∧
      (index + 1) * core.containerBytes < uint64Size

theorem checkConfig_fits (ok : checkConfig config = .ok ()) :
    slotSize config * config.segmentFileSlots < uint64Size := by
  unfold checkConfig at ok
  split_ifs at ok with _ _ _ _ _ fits
  push Not at fits
  have bound := Nat.mul_le_of_le_div _ _ _ fits.2
  have wide : 0 < uint64Size := by decide
  rw [slotSize, mul_comm]
  omega

/-- `open` computes the sizes exactly if neither the payload nor the capacity in bytes
exceeds 64 bits, which it does not check. -/
theorem exactSizes_iff {media : Media}
    (ok : openStore ⟨fresh, media⟩ config faults = (.ok (), session))
    (slots : 0 < config.capacitySlots) :
    ExactSizes config session.core ↔
      config.layout.segmentBytes * config.layout.segmentCount < uint64Size ∧
        config.capacitySlots * (config.segmentHeaderBytes +
          config.layout.segmentBytes * config.layout.segmentCount) < uint64Size := by
  have opened := freshOpen ok
  obtain ⟨allocator, geometry, total⟩ := opened.geometry
  have laid := opened.wellLaid
  have positive : 0 < slotSize config := by
    rw [← opened.slotBytes, laid.slotBytes]
    exact laid.placement.slotBytes_pos
  have derived : session.core.allocator.totalSlots =
      config.capacitySlots * slotSize config % uint64Size / slotSize config := by
    rw [total, geometry.totalSlots_eq.1, capacityOf, if_pos slots]
  have payload : config.layout.payloadBytes =
      config.layout.segmentBytes * config.layout.segmentCount % uint64Size := rfl
  constructor
  · intro sizes
    have same := opened.slotBytes.symm.trans sizes.slotBytes
    have product : config.layout.segmentBytes * config.layout.segmentCount < uint64Size := by
      have below := Nat.mod_lt (config.layout.segmentBytes * config.layout.segmentCount)
        (show 0 < uint64Size by decide)
      rw [slotSize, payload] at same
      omega
    refine ⟨product, ?_⟩
    have fits := Nat.div_mul_le_self (config.capacitySlots * slotSize config % uint64Size)
      (slotSize config)
    rw [← derived, sizes.totalSlots] at fits
    rw [← same]
    exact lt_of_le_of_lt fits (Nat.mod_lt _ (by decide))
  · rintro ⟨product, capacity⟩
    have same : slotSize config =
        config.segmentHeaderBytes + config.layout.segmentBytes * config.layout.segmentCount := by
      rw [slotSize, payload, Nat.mod_eq_of_lt product]
    rw [← same] at capacity
    have totalSlots : session.core.allocator.totalSlots = config.capacitySlots := by
      rw [derived, Nat.mod_eq_of_lt capacity, Nat.mul_div_cancel _ positive]
    have bounds := checkpointContainerBytes_bounds laid.totalSlots_small
    rw [← opened.containerBytes, totalSlots] at bounds
    have region := opened.regionLaid
    have grouped := (Nat.le_div_iff_mul_le (List.length_pos_of_ne_nil
      geometry.placement_sound.mounts_ne_nil)).mp geometry.grouped
    exact {
      totalSlots
      slotBytes := opened.slotBytes.trans same
      fileBytes := by rw [opened.placement, opened.slotBytes]; rfl
      fileBytes_lt := opened.placement ▸ checkConfig_fits geometry.checked
      offset := fun slot _ => laid.slotBytes ▸ laid.placement.slot_le_fileBytes slot
      groupSlots := by rw [opened.groupSlots, opened.mountCount]
      groupSlots_lt := by
        rw [opened.groupSlots]
        exact lt_of_le_of_lt grouped (by decide)
      container := bounds.1
      region := fun index valid => ⟨region.offset_eq valid, lt_of_le_of_lt
        (Nat.mul_le_mul_right _ valid) (Nat.mul_comm _ containerCount ▸ region.small)⟩ }

/-- The pair, asked to hold so many slots that its capacity in bytes wraps around. -/
def overflowing : StoreConfig := { pairConfig with capacitySlots := 2 ^ 51 + 2 }

theorem overflowing_opens : ∃ session,
    openStore ⟨fresh, .blank⟩ overflowing {} = (.ok (), session) ∧
      session.core.allocator.totalSlots = 2 ∧ ¬ ExactSizes overflowing session.core := by
  have nothing := @loadCheckpoint_of_zeros ⟨{ pairStore with config := overflowing },
    Media.blank.setCheckpoint pairConfig.root (List.replicate 16384 0)⟩ 16384 rfl
  have opened := @openStore_eq overflowing {} ⟨fresh, .blank⟩ _ _ _ _ _ _ rfl rfl rfl rfl rfl
    nothing rfl rfl
  refine ⟨_, opened, rfl, fun sizes => ?_⟩
  exact absurd sizes.totalSlots (by decide)

theorem exactSizes_iff_pair :
    openStore ⟨fresh, .blank⟩ pairConfig {} = (.ok (), pairSession) ∧
      ExactSizes pairConfig pairSession.core :=
  ⟨openStore_pair, (exactSizes_iff openStore_pair (by decide)).mpr (by decide)⟩

end ObjectStoreCore

end Tutti
