import Tutti.Storage.Recovery

/-!
# Opening the store, stage by stage

A successful `open` of a closed store went through all its stages. Each stage is
summed up by what it changes, so that the state it ends in can be read off the
media it started from.
-/

namespace Tutti

open Foundation List ResidencyBitmap

namespace ObjectStoreCore

/-! ## The stages -/

/-- The size of a slot: the object header and the payload. -/
def slotSize (config : StoreConfig) : Nat := config.segmentHeaderBytes + config.layout.payloadBytes

/-- The slots that a configuration provides. -/
def slotTotal (config : StoreConfig) : Nat := capacityOf config (slotSize config) / slotSize config

/-- The store after its geometry was set up. -/
def withGeometry (core : ObjectStoreCore) (config : StoreConfig) (allocator : SpaceAllocator) :
    ObjectStoreCore :=
  { core with
    config
    slotBytes := slotSize config
    mountCount := (firstOccurrences config.devices).length
    placement := placementOf config
    allocator
    groupSlots := config.segmentFileSlots * (firstOccurrences config.devices).length }

/-- What the checks on the geometry leave behind. -/
structure GeometryOk (core : ObjectStoreCore) (config : StoreConfig)
    (allocator : SpaceAllocator) : Prop where
  checked : checkConfig config = .ok ()
  valid : (placementOf config).geometryValid = true
  configured : core.allocator.configure (capacityOf config (slotSize config)) (slotSize config) =
    some allocator
  grouped : config.segmentFileSlots ≤
    (uint64Size - 1) / (firstOccurrences config.devices).length

theorem andThen_ok {first : Except Status Unit × Session}
    {next : Session → Except Status Unit × Session} {reached : Session}
    (ok : andThen first next = (.ok (), reached)) :
    ∃ middle, first = (.ok (), middle) ∧ next middle = (.ok (), reached) := by
  obtain ⟨status, middle⟩ := first
  cases status with
  | error error => cases ok
  | ok done => exact ⟨middle, rfl, ok⟩

variable {config : StoreConfig}

theorem setGeometry_ok {core next : ObjectStoreCore} (checked : checkConfig config = .ok ())
    (ok : core.setGeometry config = (.ok (), next)) :
    ∃ allocator, GeometryOk core config allocator ∧ next = core.withGeometry config allocator := by
  unfold setGeometry buildBackend at ok
  dsimp only at ok
  split at ok
  · cases ok
  rename_i built
  split at built
  · cases built
  split at built
  · cases built
  split at built
  · cases built
  rename_i valid
  cases built
  split at ok
  · cases ok
  rename_i allocator configured
  split at ok
  · cases ok
  rename_i grouped
  cases ok
  exact ⟨allocator, ⟨checked, Bool.eq_true_of_not_eq_false valid, configured,
    not_lt.mp grouped⟩, rfl⟩

variable {faults : OpenFaults}

/-- A successful `open` of a closed store. -/
structure Stages (session : Session) (config : StoreConfig) (faults : OpenFaults)
    (allocator : SpaceAllocator) (checked adopted mapped reached : Session) : Prop where
  geometry : GeometryOk session.core config allocator
  checkpoint : ensureCheckpoint ⟨session.core.withGeometry config allocator, session.media⟩
    faults = (.ok (), checked)
  adopt : adoptMedia (loadCheckpoint checked) faults = (.ok (), adopted)
  residency : mapResidency adopted faults = (.ok (), mapped)
  reached : reached = { mapped with core := { mapped.core with opened := true } }

theorem openStore_ok {session reached : Session} (closed : session.core.opened = false)
    (ok : openStore session config faults = (.ok (), reached)) :
    ∃ allocator checked adopted mapped,
      Stages session config faults allocator checked adopted mapped reached := by
  unfold openStore at ok
  split at ok
  · cases ok
  rename_i checked
  simp only [closed, Bool.false_eq_true] at ok
  obtain ⟨⟨placed, media⟩, built, ok⟩ := andThen_ok ok
  obtain ⟨laid, layout, ok⟩ := andThen_ok ok
  obtain ⟨ready, checkpoint, ok⟩ := andThen_ok ok
  obtain ⟨adopted, adopt, ok⟩ := andThen_ok ok
  obtain ⟨mapped, residency, last⟩ := andThen_ok ok
  obtain ⟨succeeded, stored⟩ := Prod.mk.inj built
  obtain ⟨placed_eq, rfl⟩ := Session.mk.inj stored
  obtain ⟨allocator, geometry, rfl⟩ := setGeometry_ok checked (Prod.ext succeeded placed_eq)
  unfold ensureLayout at layout
  split at layout <;> cases layout
  exact ⟨allocator, ready, adopted, mapped, geometry, checkpoint, adopt, residency,
    (congrArg Prod.snd last).symm⟩

/-- `open` succeeds when each of its stages does. -/
theorem openStore_eq {session laid checked reading adopted mapped : Session}
    {placed : ObjectStoreCore}
    (closed : session.core.opened = false) (valid : checkConfig config = .ok ())
    (geometry : session.core.setGeometry config = (.ok (), placed))
    (layout : ensureLayout ⟨placed, session.media⟩ faults = (.ok (), laid))
    (checkpoint : ensureCheckpoint laid faults = (.ok (), checked))
    (loaded : loadCheckpoint checked = reading)
    (adopt : adoptMedia reading faults = (.ok (), adopted))
    (residency : mapResidency adopted faults = (.ok (), mapped)) :
    openStore session config faults =
      (.ok (), { mapped with core := { mapped.core with opened := true } }) := by
  simp [openStore, valid, closed, geometry, andThen, layout, checkpoint, loaded, adopt, residency]

/-! ## What each stage changes -/

/-- Everything but the residency bitmaps is the same. -/
structure SameFiles (before after : Media) : Prop where
  checkpoint : after.checkpoint = before.checkpoint
  segment : after.segment = before.segment

/-- Every header that can be read stays as it is. -/
def Retains (before after : Media) : Prop :=
  ∀ path offset header, readObjectHeader before path offset = some header →
    readObjectHeader after path offset = some header

theorem SameFiles.retains {before after : Media} (same : SameFiles before after) :
    Retains before after := by
  intro path offset header found
  unfold readObjectHeader at found ⊢
  rw [same.segment]
  exact found

variable (media : Media)

theorem Retains.refl : Retains media media := fun _ _ _ found => found

theorem Retains.trans {first second third : Media} (left : Retains first second)
    (right : Retains second third) : Retains first third :=
  fun path offset header found => right path offset header (left path offset header found)

/-- Growing a file keeps what can be read of it. -/
theorem retains_extend (path : SegmentPath) (size : Nat) (ready : Option Nat) :
    Retains media (media.setSegment path (SegmentFile.extend (media.segment path) size ready)) := by
  intro query offset header found
  unfold readObjectHeader Media.setSegment at *
  by_cases here : query = path
  · subst here
    simp only [Function.update_self]
    cases before : media.segment query with
    | none =>
      rw [before] at found
      cases found
    | some file =>
      rw [before] at found
      dsimp only [SegmentFile.extend, SegmentFile.padded] at found ⊢
      split at found
      · cases found
      have larger : ¬ max file.size size ≤ offset := by omega
      have within : offset < file.size := by omega
      simp only [larger, within]
      exact found
  · simp only [Function.update_of_ne here]
    exact found

variable {media} {fileBytes : Nat} {next : Media}

theorem Built.retains (built : Built fileBytes media next) : Retains media next := by
  induction built with
  | refl => exact .refl media
  | tail _ lengthens ih =>
    obtain ⟨path, size, ready, _, _, rfl⟩ := lengthens
    exact ih.trans (retains_extend _ path size ready)

/-- Building segment files leaves the other files alone. -/
theorem Built.frame (built : Built fileBytes media next) :
    next.checkpoint = media.checkpoint ∧ next.residency = media.residency := by
  induction built with
  | refl => exact ⟨rfl, rfl⟩
  | tail _ lengthens ih =>
    obtain ⟨_, _, _, _, _, rfl⟩ := lengthens
    exact ih

variable (media)

theorem SameFiles.refl : SameFiles media media := ⟨rfl, rfl⟩

theorem SameFiles.trans {first second third : Media} (left : SameFiles first second)
    (right : SameFiles second third) : SameFiles first third :=
  ⟨right.checkpoint.trans left.checkpoint, right.segment.trans left.segment⟩

theorem sameFiles_write (bitmap : ResidencyBitmap) (slot : Nat) (bit : Bool) :
    SameFiles media (ResidencyBitmap.write media bitmap slot bit) := by
  unfold write
  split
  · exact .refl media
  split
  · exact .refl media
  split
  · exact .refl media
  · exact ⟨rfl, rfl⟩

theorem sameFiles_clearAll (bitmap : ResidencyBitmap) :
    SameFiles media (ResidencyBitmap.clearAll media bitmap) := by
  unfold clearAll
  split
  · exact .refl media
  split
  · exact .refl media
  split
  · exact .refl media
  · exact ⟨rfl, rfl⟩

theorem sameFiles_openWritable (root : NormalPath) (rankId rankCount slotCount fingerprint : Nat)
    (fault : Option Status) :
    SameFiles media
      (ResidencyBitmap.openWritable media root rankId rankCount slotCount fingerprint fault).2 := by
  unfold openWritable
  dsimp only
  split
  · exact .refl media
  split
  · exact .refl media
  split
  · exact ⟨rfl, rfl⟩
  split
  · exact ⟨rfl, rfl⟩
  split
  · exact .refl media
  split
  · exact .refl media
  · exact ⟨rfl, rfl⟩
  · exact .refl media

theorem sameFiles_rebuildResidency (core : ObjectStoreCore) (media : Media) :
    SameFiles media (core.rebuildResidency media) := by
  unfold rebuildResidency
  split
  · have kept : ∀ (reached : Media) (pair : ObjectKey × Entry), SameFiles media reached →
        SameFiles media (set reached core.ownResidency pair.2.slot) :=
      fun _ _ same => same.trans (sameFiles_write _ _ _ _)
    exact invariant_runFrom kept (sameFiles_clearAll media core.ownResidency) _
  · exact .refl media

theorem sameFiles_loadCheckpoint (session : Session) :
    SameFiles session.media (loadCheckpoint session).media := by
  unfold loadCheckpoint
  split
  · exact .refl _
  · exact sameFiles_rebuildResidency _ _

/-- Only the checkpoint file is created. -/
theorem ensureCheckpoint_frame (session : Session) (faults : OpenFaults) :
    (ensureCheckpoint session faults).2.core = { session.core with
        containerBytes := checkpointContainerBytes session.core.allocator.totalSlots maxKeyBytes } ∧
      (ensureCheckpoint session faults).2.media.segment = session.media.segment ∧
      (ensureCheckpoint session faults).2.media.residency = session.media.residency := by
  unfold ensureCheckpoint
  dsimp only
  split
  · exact ⟨rfl, rfl, rfl⟩
  refine ⟨rfl, ?_⟩
  unfold ensureMetadataFile
  split
  · exact ⟨rfl, rfl⟩
  split
  · exact ⟨rfl, rfl⟩
  · split <;> exact ⟨rfl, rfl⟩

theorem ensureCheckpoint_ok {session next : Session}
    (ok : ensureCheckpoint session faults = (.ok (), next)) :
    next.core = { session.core with
      containerBytes := checkpointContainerBytes session.core.allocator.totalSlots maxKeyBytes } ∧
    next.media.segment = session.media.segment := by
  obtain ⟨core, segment, _⟩ := ensureCheckpoint_frame session faults
  rw [ok] at core segment
  exact ⟨core, segment⟩

theorem mapResidency_ok {session next : Session}
    (ok : mapResidency session faults = (.ok (), next)) :
    ∃ own peers, next.core = { session.core with
      ownResidency := own
      peerResidency := peers } ∧ SameFiles session.media next.media := by
  unfold mapResidency at ok
  dsimp only at ok
  split at ok
  · cases ok
    exact ⟨_, _, rfl, .refl _⟩
  split at ok
  · cases ok
  cases ok
  refine ⟨_, _, rfl, ?_⟩
  split
  · exact .refl _
  · exact sameFiles_openWritable _ _ _ _ _ _ _

/-- Adopting groups changes how many slots are ready, nothing else. -/
theorem adoptGroups_core (probe : SegmentPath → Option Status) (rounds : Nat)
    (core : ObjectStoreCore) :
    ∃ precreated, (adoptGroups media probe rounds core).2 =
      { core with precreated } := by
  induction rounds generalizing core with
  | zero => exact ⟨_, rfl⟩
  | succ rounds ih =>
    rw [adoptGroups]
    dsimp only
    split
    · exact ⟨_, rfl⟩
    split
    · exact ⟨_, rfl⟩
    · exact ⟨_, rfl⟩
    · exact ih _

/-- What adopting the media changes, whether it succeeds or not. A reader adopts
nothing; for a writer that is open the ready limit is the number of slots
precreated. -/
theorem adoptMedia_frame (session : Session) (faults : OpenFaults) :
    ∃ precreated limit, (adoptMedia session faults).2.core = { session.core with
        precreated
        allocator := session.core.allocator.setReadyLimit limit } ∧
      Built session.core.placement.fileBytes session.media (adoptMedia session faults).2.media ∧
      ((adoptMedia session faults).1 = .ok () →
        session.core.config.readOnly = true ∧ precreated = session.core.precreated ∧
          limit = session.core.allocator.readyLimit ∨
        session.core.config.readOnly = false ∧ limit = precreated) := by
  unfold adoptMedia
  split
  · rename_i reader
    exact ⟨_, _, rfl, .refl, fun _ => .inl ⟨reader, rfl, rfl⟩⟩
  rename_i writer
  have writer := Bool.eq_false_iff.mpr writer
  obtain ⟨precreated, adopted⟩ := adoptGroups_core session.media faults.probe
    session.core.allocator.totalSlots session.core
  split
  · rename_i result
    rw [result] at adopted
    exact ⟨precreated, session.core.allocator.readyLimit, adopted, .refl, nofun⟩
  rename_i result
  rw [result] at adopted
  subst adopted
  split
  · have built := built_materialiseGroup session.core.placement.fileBytes faults.materialise
      (groupPaths { session.core with precreated } 0) session.media
    split
    · rename_i group
      rw [group] at built
      exact ⟨precreated, session.core.allocator.readyLimit, rfl, built, nofun⟩
    · rename_i group
      rw [group] at built
      exact ⟨_, _, rfl, built, fun _ => .inr ⟨writer, rfl⟩⟩
  · exact ⟨_, _, rfl, .refl, fun _ => .inr ⟨writer, rfl⟩⟩

/-- What adopting the media has changed when it succeeds. -/
theorem adoptMedia_ok {session next : Session} (ok : adoptMedia session faults = (.ok (), next)) :
    ∃ precreated limit, next.core = { session.core with
        precreated
        allocator := session.core.allocator.setReadyLimit limit } ∧
      (session.core.config.readOnly = true ∧ precreated = session.core.precreated ∧
          limit = session.core.allocator.readyLimit ∨
        session.core.config.readOnly = false ∧ limit = precreated) ∧
      Built session.core.placement.fileBytes session.media next.media := by
  have frame := adoptMedia_frame session faults
  rw [ok] at frame
  obtain ⟨precreated, limit, core, built, ready⟩ := frame
  exact ⟨precreated, limit, core, ready rfl, built⟩

/-! ## Opening a new store -/

/-- The slot belongs to some key of the index. -/
def Taken (core : ObjectStoreCore) (slot : Nat) : Prop :=
  ∃ key entry, core.index.get? key = some entry ∧ entry.slot = slot

theorem capacityOf_lt (config : StoreConfig) (slotBytes : Nat) :
    capacityOf config slotBytes < uint64Size := by
  unfold capacityOf
  split
  · exact Nat.mod_lt _ (by decide)
  · exact config.capacityBytes.toNat_lt

theorem GeometryOk.totalSlots_eq {core : ObjectStoreCore} {allocator : SpaceAllocator}
    (geometry : GeometryOk core config allocator) :
    allocator.totalSlots = capacityOf config (slotSize config) / slotSize config ∧
      allocator.readyLimit = core.allocator.readyLimit := by
  obtain ⟨_, _, rfl⟩ := SpaceAllocator.configure_eq_some_iff.mp geometry.configured
  exact ⟨rfl, rfl⟩

/-- What a new store is like right after it was opened on some media. -/
structure FreshOpen (media : Media) (config : StoreConfig) (session : Session) : Prop where
  opened : session.core.opened = true
  config_eq : session.core.config = config
  placement : session.core.placement = placementOf config
  slotBytes : session.core.slotBytes = slotSize config
  groupSlots : session.core.groupSlots =
    config.segmentFileSlots * (firstOccurrences config.devices).length
  mountCount : session.core.mountCount = (firstOccurrences config.devices).length
  containerBytes : session.core.containerBytes =
    checkpointContainerBytes session.core.allocator.totalSlots maxKeyBytes
  geometry : ∃ allocator, GeometryOk fresh config allocator ∧
    session.core.allocator.totalSlots = allocator.totalSlots
  inverse : session.core.Inverse
  confirmed : ∀ key entry, session.core.index.get? key = some entry →
    session.core.Confirmed media key entry
  sound : session.core.allocator.Sound
  claimed : ∃ slots, (∀ slot, slot ∈ slots ↔ session.core.Taken slot) ∧
    session.core.allocator.highWater = claimBound slots ∧
    ∀ slot, session.core.allocator.states slot =
      if slot < claimBound slots then
        if slot ∈ slots then .committed else .reclaiming
      else .free
  freeList : session.core.allocator.freeList = []
  generations : ∀ slot, session.core.allocator.generations slot = 0
  counted : session.core.recovery.checkpointEntries = session.core.judged
  pins : ∀ key, session.core.pins key = 0
  idle : session.core.precreateBusy = false
  clean : session.core.checkpointDirty = false
  ready : config.readOnly = true ∧ session.core.allocator.readyLimit = uint64Size - 1 ∨
    config.readOnly = false ∧ session.core.allocator.readyLimit = session.core.precreated
  retains : Retains media session.media

variable {session : Session}

theorem inverse_fresh : fresh.Inverse := by
  intro slot key
  constructor
  · intro owner
    cases owner
  · rintro ⟨entry, present, _⟩
    cases present

theorem freshOpen {media : Media}
    (ok : openStore ⟨fresh, media⟩ config faults = (.ok (), session)) :
    FreshOpen media config session := by
  obtain ⟨allocator, checked, adopted, mapped, stages⟩ := openStore_ok rfl ok
  have geometry := stages.geometry
  obtain ⟨core_checked, segment⟩ := ensureCheckpoint_ok stages.checkpoint
  have inverse : checked.core.Inverse := by
    rw [core_checked]
    exact inverse_fresh
  obtain ⟨slots, middle, commitSeq, recovering, loaded, counted⟩ :=
    recovering_loadCheckpoint inverse
  obtain ⟨precreated, limit, adopted_core, ready, built⟩ := adoptMedia_ok stages.adopt
  obtain ⟨own, peers, mapped_core, same⟩ := mapResidency_ok stages.residency
  obtain ⟨index, slotOwner, recovery, checkpointSeq, rfl⟩ := recovering.frame
  have pristine := SpaceAllocator.pristine_configure geometry.configured
  have claimed := claimed_claimRecovered pristine slots
  have allocated : checked.core.allocator = allocator := by rw [core_checked]; rfl
  have core_eq : session.core = { fresh.withGeometry config allocator with
      containerBytes := checkpointContainerBytes allocator.totalSlots maxKeyBytes
      index
      slotOwner
      recovery
      checkpointSeq
      commitSeq
      precreated
      allocator := (claimRecovered allocator slots).setReadyLimit limit
      ownResidency := own
      peerResidency := peers
      opened := true } := by
    rw [stages.reached, mapped_core, adopted_core, loaded, core_checked]
    rfl
  have last : session.media = mapped.media := by rw [stages.reached]
  obtain ⟨core, reached⟩ := session
  subst core_eq last
  have readyLimit : allocator.readyLimit = uint64Size - 1 := geometry.totalSlots_eq.2
  have granted : claimGranted allocator slots = claimBound slots := by
    refine min_eq_left (claimBound_le fun slot member => ?_)
    obtain ⟨_, _, _, _, rfl, confirmed⟩ := recovering.collected slot member
    have inRange := confirmed.lt_totalSlots
    rw [allocated] at inRange
    have fits := Nat.div_le_self (capacityOf config (slotSize config)) (slotSize config)
    have total := geometry.totalSlots_eq.1
    have bound := capacityOf_lt config (slotSize config)
    omega
  have recovered : ∀ key entry, index.get? key = some entry →
      entry.slot ∈ slots ∧ checked.core.Confirmed checked.media key entry := by
    intro key entry present
    rcases recovering.origin key entry present with old | ⟨_, located, confirmed⟩
    · rw [core_checked] at old
      cases old
    · exact ⟨located, confirmed⟩
  have totalSlots := claimed.geometry.totalSlots
  exact {
    opened := rfl
    config_eq := rfl
    placement := rfl
    slotBytes := rfl
    groupSlots := rfl
    mountCount := rfl
    containerBytes := congrArg (checkpointContainerBytes · maxKeyBytes) totalSlots.symm
    geometry := ⟨allocator, geometry, totalSlots⟩
    inverse := recovering.owner_iff
    confirmed := by
      intro key entry present
      obtain ⟨located, committed, inRange, header, fields, found, decoded, seq⟩ :=
        recovered key entry present
      refine ⟨committed, ?_, header, fields, ?_, ?_, seq⟩
      · rw [allocated, ← totalSlots] at inRange
        exact inRange
      · unfold readObjectHeader at found ⊢
        rw [segment, core_checked] at found
        exact found
      · rw [core_checked] at decoded
        exact decoded
    sound := claimed.sound.setReadyLimit limit
    claimed := by
      refine ⟨slots, fun slot => ⟨fun member => ?_, ?_⟩, ?_, fun slot => ?_⟩
      · obtain ⟨_, key, entry, present, located, _⟩ := recovering.collected slot member
        exact ⟨key, entry, present, located⟩
      · rintro ⟨key, entry, present, rfl⟩
        exact (recovered key entry present).1
      · rw [← granted]
        exact claimed.highWater
      · rw [← granted]
        exact claimed.states slot
    freeList := claimed.freeList
    generations := claimed.generations
    counted
    pins := fun _ => rfl
    idle := rfl
    clean := rfl
    ready := by
      have mode : (loadCheckpoint checked).core.config = config := by
        rw [loaded, core_checked]
        rfl
      rw [mode] at ready
      rcases ready with ⟨reader, _, unlimited⟩ | ⟨writer, rfl⟩
      · refine .inl ⟨reader, ?_⟩
        rw [← readyLimit, ← claimed.geometry.readyLimit, ← allocated]
        rw [loaded] at unlimited
        exact unlimited
      · exact .inr ⟨writer, rfl⟩
    retains := by
      have first : Retains media checked.media := by
        intro path offset header found
        unfold readObjectHeader at found ⊢
        rw [segment]
        exact found
      exact ((first.trans (sameFiles_loadCheckpoint checked).retains).trans built.retains).trans
        same.retains }

/-- The index holds what the media prove, the allocator agrees with it, and the
report accounts for every entry of the checkpoint. -/
structure RecoverySound (core : ObjectStoreCore) (media : Media) : Prop where
  keys_nodup : core.index.keys.Nodup
  slots_distinct : ∀ key entry other second, core.index.get? key = some entry →
    core.index.get? other = some second → entry.slot = second.slot → key = other
  lt_totalSlots : ∀ key entry, core.index.get? key = some entry →
    entry.slot < core.allocator.totalSlots
  proved : ∀ key entry, core.index.get? key = some entry → ∃ header fields,
    readObjectHeader media (core.headerPath entry.slot) (core.headerOffset entry.slot) =
      some header ∧
    validateStructure header = .ok fields ∧
    HeaderExpectation.Meets ⟨key, core.config.layout.payloadBytes, entry.generation, true⟩ fields
  committed_iff : ∀ slot, core.allocator.states slot = .committed ↔ core.Taken slot
  reclaiming : ∀ slot taken, ¬ core.Taken slot → core.Taken taken → slot < taken →
    core.allocator.states slot = .reclaiming
  untouched : ∀ slot, (∀ taken, core.Taken taken → taken < slot) →
    core.allocator.highWater ≤ slot ∧ core.allocator.states slot = .free
  counted : core.recovery.checkpointEntries = core.recovery.accepted +
    core.recovery.droppedHeader + core.recovery.droppedGeometry + core.recovery.droppedDuplicate

/-- Whatever the media contain, a new store that opens on them has recovered
only what they prove. -/
theorem recoverySound_of_open {media : Media} {config : StoreConfig} {faults : OpenFaults}
    {session : Session} (ok : openStore ⟨fresh, media⟩ config faults = (.ok (), session)) :
    RecoverySound session.core media := by
  have opened := freshOpen ok
  obtain ⟨slots, taken, highWater, states⟩ := opened.claimed
  exact {
    keys_nodup := session.core.index.nodup_keys
    slots_distinct := by
      intro key entry other second present present' same
      have owner := (opened.inverse entry.slot key).mpr ⟨entry, present, rfl⟩
      have owner' := (opened.inverse entry.slot other).mpr ⟨second, present', same.symm⟩
      rw [owner] at owner'
      exact Option.some.inj owner'
    lt_totalSlots := fun key entry present => (opened.confirmed key entry present).lt_totalSlots
    proved := by
      intro key entry present
      obtain ⟨header, fields, found, decoded, _⟩ := (opened.confirmed key entry present).header
      obtain ⟨_, _, valid, meets⟩ := decodeObjectHeader_ok_iff.mp decoded
      exact ⟨header, fields, found, valid, meets⟩
    committed_iff := by
      intro slot
      rw [states, ← taken]
      by_cases member : slot ∈ slots
      · simp [lt_claimBound member]
      · simp only [member, iff_false]
        split <;> exact nofun
    reclaiming := by
      intro slot larger free held below
      rw [← taken] at free held
      rw [states, if_pos (lt_trans below (lt_claimBound held)), if_neg free]
    untouched := by
      intro slot above
      have beyond : claimBound slots ≤ slot :=
        claimBound_le fun member held => above member ((taken member).mp held)
      rw [highWater, states, if_neg (not_lt.mpr beyond)]
      exact ⟨beyond, rfl⟩
    counted := opened.counted }

/-! ## A cold pool -/

/-- Reading zeros, or past the end of the file, gives zeros. -/
theorem padTo_loadAt_zeros (length offset bytes : Nat) :
    padTo bytes (loadAt (replicate length (0 : UInt8)) offset bytes) =
      replicate bytes 0 := by
  rw [padTo, loadAt, drop_replicate, take_replicate, length_replicate, replicate_append_replicate]
  congr 1
  omega

theorem decodeCheckpoint_zeros (length : Nat) :
    (decodeCheckpoint (replicate length (0 : UInt8))).toOption = none := by
  unfold decodeCheckpoint
  split
  · rfl
  rename_i long
  have wide : 8 ≤ length := by
    rw [length_replicate] at long
    simp only [CheckpointLayout.containerHeaderBytes] at long
    omega
  rw [if_pos]
  · rfl
  · rw [loadAt, CheckpointLayout.magicOffset, drop_zero, take_replicate, min_eq_left wide]

/-- A checkpoint region of zeros has no readable container. -/
theorem readContainer_of_zeros {size : Nat}
    (file : session.media.checkpoint session.core.config.root = some (replicate size 0))
    (index : Nat) : readContainer session index = none := by
  unfold readContainer readCheckpointContainer
  split
  · rfl
  · rw [file, Option.map_some, Option.bind_some, padTo_loadAt_zeros, decodeCheckpoint_zeros]

theorem containerSequences_of_zeros {size : Nat}
    (file : session.media.checkpoint session.core.config.root = some (replicate size 0)) :
    containerSequences session = [0, 0] := by
  simp only [containerSequences, readContainer_of_zeros file, Option.map_none]
  rfl

/-- Nothing is recovered from a checkpoint region of zeros. -/
theorem loadCheckpoint_of_zeros {size : Nat}
    (file : session.media.checkpoint session.core.config.root = some (replicate size 0)) :
    loadCheckpoint session = ⟨{ session.core with recovery := {} }, session.media⟩ := by
  rw [loadCheckpoint, containerSequences_of_zeros file]
  rfl

/-- A writer with two slots of one block of payload each. -/
def pairConfig : StoreConfig :=
  ⟨"/kv", 2, 0, ⟨4096, 1⟩, 2, 4096, [1], ["/mnt"], 0, 1, false⟩

/-- The store of that writer with its geometry set up. -/
def pairStore : ObjectStoreCore :=
  { fresh.withGeometry pairConfig ⟨2, 8192, 0, uint64Size - 1, fun _ => .free, fun _ => 0, [], [],
      ∅⟩ with
    containerBytes := 8192 }

/-- What that writer finds after its first open on blank media. -/
def pairSession : Session :=
  ⟨{ pairStore with
      precreated := 2
      allocator := pairStore.allocator.setReadyLimit 2
      opened := true },
    (Media.blank.setCheckpoint pairConfig.root (replicate 16384 0)).setSegment
      (segmentPath "/mnt" 0 0)
      ⟨16384, some 16384, fun _ => zeroBlock⟩⟩

theorem openStore_pair : openStore ⟨fresh, .blank⟩ pairConfig {} = (.ok (), pairSession) := by
  have nothing := @loadCheckpoint_of_zeros
    ⟨pairStore, Media.blank.setCheckpoint pairConfig.root (replicate 16384 0)⟩ 16384 rfl
  have opened := @openStore_eq pairConfig {} ⟨fresh, .blank⟩ _ _ _ _ _ _ rfl rfl rfl rfl rfl
    nothing rfl rfl
  exact opened

/-! ## A pool with a checkpoint -/

/-- Media whose first container has a checkpoint of the given entries. -/
def savedFile (entries : List CheckpointEntry) : Bytes :=
  encodeCheckpoint entries 1 ++ replicate 8192 0

section Saved

variable {entries : List CheckpointEntry} (few : (encodeBody entries).length ≤ 4096)
include few

theorem length_encodeCheckpoint_of_few : (encodeCheckpoint entries 1).length = 8192 := by
  have header : CheckpointLayout.containerHeaderBytes = 4096 := rfl
  have block : alignment = 4096 := rfl
  have wide : uint64Size = 2 ^ 64 := rfl
  have counted : 8 ≤ (encodeBody entries).length := by
    rw [encodeBody, length_append, length_littleEndian]
    exact Nat.le_add_right _ _
  rw [length_encodeCheckpoint (by omega), roundUp, if_neg (by decide), header, block, wide]
  omega

/-- The only checkpoint on the media is read from its container. -/
theorem readContainer_of_saved (encodable : ∀ entry ∈ entries, entry.Encodable)
    (size : session.core.containerBytes = 8192)
    (file : session.media.checkpoint session.core.config.root = some (savedFile entries)) :
    readContainer session 0 = some (1, entries) ∧ readContainer session 1 = none := by
  have length := length_encodeCheckpoint_of_few few
  have small : CheckpointLayout.containerHeaderBytes + (encodeBody entries).length + alignment <
      uint64Size := by
    have sizes : CheckpointLayout.containerHeaderBytes = 4096 ∧ alignment = 4096 ∧
      uint64Size = 2 ^ 64 := by decide
    omega
  have whole : decodeCheckpoint (encodeCheckpoint entries 1 ++ []) = .ok (1, entries) :=
    decodeCheckpoint_encodeCheckpoint small encodable (by decide) []
  unfold readContainer readCheckpointContainer
  rw [size, if_neg (by decide), if_neg (by decide), file]
  simp only [Option.map_some, Option.bind_some, savedFile, loadAt]
  constructor
  · have offset : checkpointContainerOffset 0 8192 = 0 := rfl
    rw [offset, drop_zero, take_left' length, padTo, length, Nat.sub_self, replicate_zero, whole]
    rfl
  · have offset : checkpointContainerOffset 1 8192 = 8192 := rfl
    rw [offset, drop_left' length, take_replicate, padTo, length_replicate,
      replicate_append_replicate]
    exact decodeCheckpoint_zeros _

/-- Opening a store of two slots on such media. -/
theorem openStore_saved (encodable : ∀ entry ∈ entries, entry.Encodable) {chosen : StoreConfig}
    (valid : checkConfig chosen = .ok ()) (writer : chosen.readOnly = false) {media : Media}
    (file : media.checkpoint chosen.root = some (savedFile entries)) {placed : ObjectStoreCore}
    (geometry : fresh.setGeometry chosen = (.ok (), placed)) {recovered : ObjectStoreCore}
    (adopts : adoptCheckpoint { placed with containerBytes := 8192 } media 1 entries = recovered)
    {adopted mapped : Session}
    (adopt : adoptMedia ⟨recovered, recovered.rebuildResidency media⟩ {} = (.ok (), adopted))
    (total : placed.allocator.totalSlots = 2) (config : placed.config = chosen)
    (residency : mapResidency adopted {} = (.ok (), mapped)) :
    openStore ⟨fresh, media⟩ chosen {} =
      (.ok (), { mapped with core := { mapped.core with opened := true } }) := by
  have layout : ensureLayout ⟨placed, media⟩ {} = (.ok (), ⟨placed, media⟩) := by
    unfold ensureLayout
    rw [config, writer]
    rfl
  have checkpoint : ensureCheckpoint ⟨placed, media⟩ {} =
      (.ok (), ⟨{ placed with containerBytes := 8192 }, media⟩) := by
    unfold ensureCheckpoint ensureMetadataFile
    dsimp only
    rw [total, config, writer, file, Option.getD_some, savedFile, length_append,
      length_encodeCheckpoint_of_few few, length_replicate]
    rfl
  have loaded : loadCheckpoint ⟨{ placed with containerBytes := 8192 }, media⟩ =
      ⟨recovered, recovered.rebuildResidency media⟩ := by
    obtain ⟨first, second⟩ := @readContainer_of_saved
      ⟨{ placed with containerBytes := 8192 }, media⟩ entries few encodable rfl
      (by rw [← file, ← config])
    have sequences : containerSequences ⟨{ placed with containerBytes := 8192 }, media⟩ =
        [1, 0] := by
      simp only [containerSequences, CheckpointLayout.containerCount, range_succ, range_zero,
        nil_append, singleton_append, map_cons, map_nil, first, second]
      rfl
    rw [loadCheckpoint, sequences, selectCheckpointContainer_pair, if_pos rfl, if_neg one_ne_zero,
      Option.bind_some, first]
    dsimp only
    rw [adopts]
  exact openStore_eq rfl valid geometry layout checkpoint loaded adopt residency

end Saved

section Verdicts

variable {core : ObjectStoreCore} {media : Media} {entry : CheckpointEntry}
  {entries : List CheckpointEntry} {slots : List Nat} {highest : Nat}

theorem recoverEntries_of_accepted {commitSeq : Nat}
    (judged : core.judgeEntry media entry = .accepted commitSeq) :
    recoverEntries media (entry :: entries) slots highest core = recoverEntries media entries
      (slots ++ [entry.slot]) (max highest commitSeq) (core.adoptEntry entry commitSeq) := by
  rw [recoverEntries, judged]

theorem recoverEntries_of_geometry (judged : core.judgeEntry media entry = .geometry) :
    recoverEntries media (entry :: entries) slots highest core =
      recoverEntries media entries slots highest { core with recovery := { core.recovery with
        droppedGeometry := core.recovery.droppedGeometry + 1 } } := by
  rw [recoverEntries, judged]

theorem recoverEntries_of_duplicate (judged : core.judgeEntry media entry = .duplicate) :
    recoverEntries media (entry :: entries) slots highest core =
      recoverEntries media entries slots highest { core with recovery := { core.recovery with
        droppedDuplicate := core.recovery.droppedDuplicate + 1 } } := by
  rw [recoverEntries, judged]

theorem recoverEntries_of_header (judged : core.judgeEntry media entry = .header) :
    recoverEntries media (entry :: entries) slots highest core =
      recoverEntries media entries slots highest { core with recovery := { core.recovery with
        droppedHeader := core.recovery.droppedHeader + 1 } } := by
  rw [recoverEntries, judged]

end Verdicts

/-- A store of two slots that has recovered one entry. -/
def recoveredOne (placed : ObjectStoreCore) (entry : CheckpointEntry) (commitSeq : Nat)
    (report : RecoveryReport) : ObjectStoreCore :=
  { placed with
    containerBytes := 8192
    checkpointSeq := 1
    recovery := report
    index := placed.index.set entry.key ⟨entry.slot, entry.generation, commitSeq, true⟩
    slotOwner := Function.update placed.slotOwner entry.slot (some entry.key)
    commitSeq := max placed.commitSeq (max 0 commitSeq)
    allocator := claimRecovered placed.allocator [entry.slot] }

/-- The header of an object whose key is `[1]`. -/
def oneHeader : Bytes := (encodeObjectHeader [1] 4096 0 1).getD []

/-- The first entry has its header in slot 0, the second has none, the third is in a
slot that does not exist, and the last names the first key again. -/
def mixedEntries : List CheckpointEntry :=
  [⟨[1], 0, 4096, 0, 1⟩, ⟨[2], 1, 4096, 0, 2⟩, ⟨[3], 7, 4096, 0, 3⟩, ⟨[1], 1, 4096, 0, 4⟩]

def mixedMedia : Media :=
  (Media.blank.setCheckpoint pairConfig.root (savedFile mixedEntries)).setSegment
    (segmentPath "/mnt" 0 0) ⟨16384, some 16384, Function.update (fun _ => zeroBlock) 0 oneHeader⟩

/-- What the pair recovers from these media. -/
def mixedStore : ObjectStoreCore :=
  recoveredOne pairStore ⟨[1], 0, 4096, 0, 1⟩ 1 ⟨4, 1, 1, 1, 1, true⟩

theorem adoptCheckpoint_mixed :
    adoptCheckpoint pairStore mixedMedia 1 mixedEntries = mixedStore := by
  have walk : recoverEntries mixedMedia mixedEntries [] 0 { pairStore with
      checkpointSeq := 1
      recovery := { checkpointAvailable := true, checkpointEntries := 4 } } =
    ([0], 1, { adoptEntry pairStore ⟨[1], 0, 4096, 0, 1⟩ 1 with
      checkpointSeq := 1
      recovery := ⟨4, 1, 1, 1, 1, true⟩ }) := by
    rw [mixedEntries, recoverEntries_of_accepted (by decide +kernel : _ = EntryVerdict.accepted 1),
      recoverEntries_of_header (by decide +kernel), recoverEntries_of_geometry (by decide +kernel),
      recoverEntries_of_duplicate (by decide +kernel)]
    rfl
  unfold adoptCheckpoint
  dsimp only
  have counted : mixedEntries.length = 4 := rfl
  rw [counted, walk]
  rfl

/-- One entry is accepted, and one is dropped for each reason. -/
theorem recoverySound_mixed :
    ∃ session, openStore ⟨fresh, mixedMedia⟩ pairConfig {} = (.ok (), session) ∧
      session.core.index.entries = [([1], ⟨0, 0, 1, true⟩)] ∧
      session.core.recovery = ⟨4, 1, 1, 1, 1, true⟩ ∧ RecoverySound session.core mixedMedia := by
  have opened := @openStore_saved mixedEntries (by decide +kernel) (by decide +kernel) pairConfig
    rfl rfl mixedMedia rfl _ rfl _ adoptCheckpoint_mixed _ _ rfl rfl rfl rfl
  exact ⟨_, opened, rfl, rfl, recoverySound_of_open opened⟩

end ObjectStoreCore

end Tutti
