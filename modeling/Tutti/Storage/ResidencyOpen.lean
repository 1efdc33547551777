import Tutti.Storage.ResidencyBits

/-!
# Opening a store over old bits

`open` loads the checkpoint before it maps the bitmap of the rank. The step that
rebuilds the bitmap from the verified keys therefore finds no bitmap to rebuild,
and the bits that an earlier store left behind stay as they were found. The bits
are one-sided all the same if the old ones were, and if no key is released while
the bitmap is not mapped.
-/

namespace Tutti

open Foundation Function ResidencyBitmap SpaceAllocator

namespace ObjectStoreCore

/-! ## What recovery finds -/

/-- A store with the geometry of a configuration, to judge entries by. -/
def surveyor (config : StoreConfig) : ObjectStoreCore :=
  fresh.withGeometry config { SpaceAllocator.unconfigured with totalSlots := slotTotal config }

/-- The slots that recovery verifies: those of the entries whose headers confirm
them, the first for each key and slot. -/
def verifiedSlots (config : StoreConfig) (media : Media) : List Nat :=
  ((surveyor config).firstConfirmed media (retainedIn config media) []).map CheckpointEntry.slot

variable (core : ObjectStoreCore)

theorem confirms_segment {media other : Media} (segment : other.segment = media.segment)
    (entry : CheckpointEntry) :
    core.confirms other entry = core.confirms media entry := by
  unfold confirms judgeEntry readObjectHeader
  rw [segment]

theorem firstConfirmed_segment {media other : Media} (segment : other.segment = media.segment)
    (entries taken : List CheckpointEntry) :
    core.firstConfirmed other entries taken = core.firstConfirmed media entries taken := by
  induction entries generalizing taken with
  | nil => rfl
  | cons entry entries ih => simp only [firstConfirmed, confirms_segment core segment, ih]

variable {media : Media}

section Stages

variable {session checked : Session} {config : StoreConfig} {faults : OpenFaults}
  {allocator : SpaceAllocator}

section

variable (geometry : GeometryOk session.core config allocator)
  (ensured : ensureCheckpoint ⟨session.core.withGeometry config allocator, session.media⟩
    faults = (.ok (), checked))
include geometry ensured

theorem sameJudge_surveyor : SameJudge (surveyor config) checked.core := by
  obtain ⟨core, _⟩ := ensureCheckpoint_ok ensured
  rw [core]
  exact ⟨rfl, rfl, geometry.totalSlots_eq.1⟩

/-- Loading the checkpoint leaves the layout and the segment files alone. -/
theorem sameGroups_surveyor :
    SameGroups ⟨surveyor config, session.media⟩ (loadCheckpoint checked) := by
  obtain ⟨core, segment⟩ := ensureCheckpoint_ok ensured
  obtain ⟨_, _, _, _, _, frame⟩ := loadCheckpoint_frame checked
  have claimed := (loadCheckpoint_walked checked).2.2
  have configured : checked.core.allocator = allocator := by
    rw [core]
    rfl
  refine ⟨?_, ?_, ?_, ?_, ?_⟩
  · rw [frame, core]
    rfl
  · rw [frame, core]
    rfl
  · rw [frame, core]
    rfl
  · rw [claimed, configured, (claimed_claimRecovered
      (pristine_configure geometry.configured) _).geometry.totalSlots]
    exact geometry.totalSlots_eq.1
  · rw [(sameFiles_loadCheckpoint checked).segment, segment]

/-- A key in the index of a store that has loaded the checkpoint was there before
or was verified. -/
theorem loadCheckpoint_origin {key : ObjectKey} {entry : Entry}
    (present : (loadCheckpoint checked).core.index.get? key = some entry) :
    session.core.index.get? key = some entry ∨ ∃ stored ∈ retainedIn config session.media,
      (surveyor config).Source session.media key entry stored := by
  obtain ⟨core, segment⟩ := ensureCheckpoint_ok ensured
  rw [(loadCheckpoint_walked checked).1] at present
  rcases recoverEntries_origin _ present with before | ⟨stored, member, source⟩
  · left
    rw [core] at before
    exact before
  · right
    rw [storedEntries_ensured geometry ensured] at member
    refine ⟨stored, member, source.key, source.slot, source.generation, ?_⟩
    rw [← confirms_congr (sameJudge_surveyor geometry ensured), ← confirms_segment _ segment]
    exact source.confirms

end

end Stages

/-! ## What opening does to the bits -/

/-- What opening does to the committed keys and to the bits, whether it succeeds
or not. -/
structure Opening (config : StoreConfig) (before after : Session) : Prop where
  laid : RankLaid config after.core
  kept : ∀ key entry, before.core.index.get? key = some entry →
    after.core.index.get? key = some entry
  origin : ∀ key entry, after.core.index.get? key = some entry →
    before.core.index.get? key = some entry ∨ ∃ stored ∈ retainedIn config before.media,
      (surveyor config).Source before.media key entry stored
  bits : ∀ root rank slot, residencyBit after.media root rank slot = true →
    residencyBit before.media root rank slot = true
  others : OthersKept config before.media after.media

variable {config : StoreConfig}

theorem Opening.of_index {before after : Session} (laid : RankLaid config after.core)
    (index : after.core.index = before.core.index)
    (residency : after.media.residency = before.media.residency) :
    Opening config before after where
  laid
  kept := by
    rw [index]
    exact fun _ _ present => present
  origin := by
    rw [index]
    exact fun _ _ present => .inl present
  bits := by
    intro root rank slot set
    rw [residencyBit, residency] at set
    exact set
  others := by
    intro root rank _
    rw [residency]

/-- A later stage that keeps the index and sets no bits. -/
theorem Opening.next {before middle after : Session} (opening : Opening config before middle)
    (laid : RankLaid config after.core) (index : after.core.index = middle.core.index)
    (bits : ∀ root rank slot, residencyBit after.media root rank slot = true →
      residencyBit middle.media root rank slot = true)
    (others : OthersKept config middle.media after.media) : Opening config before after where
  laid
  kept := by
    rw [index]
    exact opening.kept
  origin := by
    rw [index]
    exact opening.origin
  bits := fun root rank slot set => opening.bits root rank slot (bits root rank slot set)
  others := fun root rank apart => (others root rank apart).trans (opening.others root rank apart)

/-- Whatever holds where the first part fails, and after the second part where it
succeeds, holds in the end. -/
theorem andThen_cases {motive : Session → Prop} {first : Except Status Unit × Session}
    {next : Session → Except Status Unit × Session}
    (failed : ∀ error, first.1 = .error error → motive first.2)
    (succeeded : first.1 = .ok () → motive (next first.2).2) :
    motive (andThen first next).2 := by
  obtain ⟨status, middle⟩ := first
  cases status with
  | error error => exact failed error rfl
  | ok done => exact succeeded rfl

/-- Setting up the geometry changes the geometry, and the allocator if that gets
as far. -/
theorem setGeometry_frame (config : StoreConfig) :
    ∃ placement slotBytes mountCount groupSlots allocator,
      (core.setGeometry config).2 = { core with
        config
        placement
        slotBytes
        mountCount
        groupSlots
        allocator } ∧
      (allocator = core.allocator ∨
        core.allocator.configure (capacityOf config (slotSize config)) (slotSize config) =
          some allocator) := by
  unfold setGeometry buildBackend
  dsimp only
  split
  · rename_i built
    split at built
    · cases built
      exact ⟨_, _, _, _, _, rfl, .inl rfl⟩
    split at built
    · cases built
      exact ⟨_, _, _, _, _, rfl, .inl rfl⟩
    split at built
    · cases built
      exact ⟨_, _, _, _, _, rfl, .inl rfl⟩
    · cases built
  · rename_i built
    split at built
    · cases built
    split at built
    · cases built
    split at built
    · cases built
    cases built
    split
    · exact ⟨_, _, _, _, _, rfl, .inl rfl⟩
    rename_i configured
    split
    · exact ⟨_, _, _, _, _, rfl, .inr configured⟩
    · exact ⟨_, _, _, _, _, rfl, .inr configured⟩

/-- The number of slots that the allocator is configured with. -/
theorem configure_totalSlots {allocator next : SpaceAllocator}
    (configured : allocator.configure (capacityOf config (slotSize config)) (slotSize config) =
      some next) : next.Sound ∧ next.totalSlots = slotTotal config := by
  refine ⟨(pristine_configure configured).sound, ?_⟩
  obtain ⟨_, _, rfl⟩ := configure_eq_some_iff.mp configured
  rfl

/-- An unmapped store whose index is unchanged. -/
theorem RankLaid.unmapped_of {core next : ObjectStoreCore} (laid : RankLaid config core)
    (index : next.index = core.index) (own : next.ownResidency = none)
    (sound : next.allocator.Sound) (total : next.allocator.totalSlots ≤ slotTotal config) :
    RankLaid config next where
  sound
  total
  slots := by
    rw [index]
    exact laid.slots
  own := by
    rw [own]
    exact nofun
  unmapped := fun _ => own
  peers := by
    rw [own]
    exact nofun

variable {session : Session}

/-- Without a mapped bitmap there is nothing to rebuild. -/
theorem loadCheckpoint_media (own : session.core.ownResidency = none) :
    (loadCheckpoint session).media = session.media := by
  have unmapped : (loadCheckpoint session).core.ownResidency = none := by
    obtain ⟨_, _, _, _, _, frame⟩ := loadCheckpoint_frame session
    rw [frame]
    exact own
  revert unmapped
  unfold loadCheckpoint
  split
  · exact fun _ => rfl
  intro unmapped
  dsimp only at unmapped ⊢
  rw [rebuildResidency, unmapped]
  rfl

variable {faults : OpenFaults}

theorem opening_loadCheckpoint {session checked : Session} {allocator : SpaceAllocator}
    (laid : RankLaid config session.core) (own : session.core.ownResidency = none)
    (geometry : GeometryOk session.core config allocator)
    (ensured : ensureCheckpoint ⟨session.core.withGeometry config allocator, session.media⟩
      faults = (.ok (), checked)) (residency : checked.media.residency = session.media.residency) :
    Opening config session (loadCheckpoint checked) ∧
      (loadCheckpoint checked).core.ownResidency = none ∧
      (loadCheckpoint checked).core.config = config ∧
      (loadCheckpoint checked).core.allocator.totalSlots = slotTotal config := by
  obtain ⟨core, _⟩ := ensureCheckpoint_ok ensured
  obtain ⟨_, _, _, _, _, frame⟩ := loadCheckpoint_frame checked
  obtain ⟨sound, total⟩ := configure_totalSlots geometry.configured
  have pristine := pristine_configure geometry.configured
  have claimed := claimed_claimRecovered pristine (walked checked).1
  have unmapped : (loadCheckpoint checked).core.ownResidency = none := by
    rw [frame, core]
    exact own
  have config_eq : (loadCheckpoint checked).core.config = config := by
    rw [frame, core]
    rfl
  have allocated : (loadCheckpoint checked).core.allocator =
      claimRecovered allocator (walked checked).1 := by
    rw [(loadCheckpoint_walked checked).2.2, core]
    rfl
  have same : (loadCheckpoint checked).media.residency = session.media.residency := by
    rw [loadCheckpoint_media (by rw [core]; exact own), residency]
  have totalSlots : (loadCheckpoint checked).core.allocator.totalSlots = slotTotal config := by
    rw [allocated, claimed.geometry.totalSlots, total]
  refine ⟨?_, unmapped, config_eq, totalSlots⟩
  exact {
    laid := {
      sound := by
        rw [allocated]
        exact claimed.sound
      total := totalSlots.le
      slots := by
        intro key entry present
        rcases loadCheckpoint_origin geometry ensured present with before | ⟨_, _, source⟩
        · exact laid.slots key entry before
        · obtain ⟨_, _, header⟩ := confirms_iff.mp source.confirms
          rw [← source.slot]
          exact header.lt_totalSlots
      own := by
        rw [unmapped]
        exact nofun
      unmapped := fun _ => unmapped
      peers := by
        rw [unmapped]
        exact nofun }
    kept := by
      intro key entry present
      rw [(loadCheckpoint_walked checked).1]
      refine recoverEntries_keeps _ ?_
      rw [core]
      exact present
    origin := fun key entry present => loadCheckpoint_origin geometry ensured present
    bits := by
      intro root rank slot set
      rw [residencyBit, same] at set
      exact set
    others := by
      intro home rank _
      rw [same] }

/-- No more bits are set than before, and only the file of one rank may differ. -/
structure FewerBits (home : NormalPath) (rankId : Nat) (media next : Media) : Prop where
  bits : ∀ root rank slot, residencyBit next root rank slot = true →
    residencyBit media root rank slot = true
  others : ∀ root rank, ¬ (root = home ∧ rank = rankId) →
    next.residency root rank = media.residency root rank

theorem fewerBits_setResidency {home : NormalPath} {rankId : Nat} {file : ResidencyFile}
    (fewer : ∀ slot, file.bits slot = true → residencyBit media home rankId slot = true) :
    FewerBits home rankId media (media.setResidency home rankId file) := by
  have apart : ∀ root rank, ¬ (root = home ∧ rank = rankId) →
      (media.setResidency home rankId file).residency root rank = media.residency root rank := by
    intro root rank different
    unfold Media.setResidency
    dsimp only
    by_cases same : root = home
    · subst same
      rw [update_self, update_of_ne fun equal => different ⟨rfl, equal⟩]
    · rw [update_of_ne same]
  refine ⟨fun root rank slot set => ?_, apart⟩
  by_cases own : root = home ∧ rank = rankId
  · obtain ⟨rfl, rfl⟩ := own
    simp only [residencyBit, Media.setResidency, update_self, Option.map_some] at set
    exact fewer slot set
  · rw [residencyBit, apart root rank own] at set
    exact set

/-- Opening the own bitmap makes a file with clear bits or keeps the bits of the
file that is there. -/
theorem openWritable_effect (media : Media) (root : NormalPath)
    (rankId rankCount slotCount fingerprint : Nat) (fault : Option Status) :
    (∀ mapping, (ResidencyBitmap.openWritable media root rankId rankCount slotCount fingerprint
        fault).1 = .ok mapping → mapping = ⟨root, rankId, slotCount, true⟩) ∧
      FewerBits root rankId media (ResidencyBitmap.openWritable media root rankId rankCount
        slotCount fingerprint fault).2 := by
  have unchanged : FewerBits root rankId media media := ⟨fun _ _ _ set => set, fun _ _ _ => rfl⟩
  unfold openWritable
  dsimp only
  split
  · exact ⟨by rintro _ ⟨⟩, unchanged⟩
  split
  · exact ⟨by rintro _ ⟨⟩, unchanged⟩
  split
  · exact ⟨fun _ ok => (Except.ok.inj ok).symm, fewerBits_setResidency (by rintro _ ⟨⟩)⟩
  rename_i file found
  split
  · exact ⟨fun _ ok => (Except.ok.inj ok).symm, fewerBits_setResidency (by rintro _ ⟨⟩)⟩
  split
  · exact ⟨by rintro _ ⟨⟩, unchanged⟩
  split
  · exact ⟨fun _ ok => (Except.ok.inj ok).symm, unchanged⟩
  · refine ⟨fun _ ok => (Except.ok.inj ok).symm, fewerBits_setResidency fun slot set => ?_⟩
    rw [residencyBit, found]
    exact set
  · exact ⟨by rintro _ ⟨⟩, unchanged⟩

variable {mapping : ResidencyMapping}

theorem openReadonly_ok {root : NormalPath} {rank rankCount slotCount fingerprint : Nat}
    {fault : Option Status}
    (ok : ResidencyBitmap.openReadonly media root rank rankCount slotCount fingerprint fault =
      .ok mapping) : mapping = ⟨root, rank, slotCount, false⟩ := by
  unfold openReadonly at ok
  split at ok
  · cases ok
  split at ok
  · cases ok
  split at ok
  · cases ok
  split at ok
  · cases ok
  split at ok
  · exact (Except.ok.inj ok).symm
  · cases ok

theorem toOption_eq_some {result : Except Status ResidencyMapping}
    (found : result.toOption = some mapping) : result = .ok mapping := by
  cases result with
  | error error => cases found
  | ok value => exact congrArg Except.ok (Option.some.inj found)

/-- An entry of a table over a range is a value of its function. -/
theorem getD_map_range {α : Type*} {table : Nat → Option α} {count index : Nat} {value : α}
    (found : ((List.range count).map table).getD index none = some value) :
    table index = some value := by
  rw [List.getD_eq_getElem?_getD, List.getElem?_map] at found
  by_cases inside : index < count
  · rw [List.getElem?_range inside] at found
    exact found
  · rw [List.getElem?_eq_none (by rw [List.length_range]; exact not_lt.mp inside)] at found
    cases found

/-- The last stages: mapping the bitmaps and marking the store open. -/
def finishOpen (session : Session) (faults : OpenFaults) : Except Status Unit × Session :=
  andThen (mapResidency session faults) fun session =>
    (.ok (), { session with core := { session.core with opened := true } })

theorem Opening.finishOpen {before session : Session} (opening : Opening config before session)
    (config_eq : session.core.config = config)
    (total : session.core.allocator.totalSlots = slotTotal config) (faults : OpenFaults) :
    Opening config before (finishOpen session faults).2 := by
  subst config_eq
  unfold finishOpen mapResidency
  dsimp only
  split
  · exact opening.next { opening.laid with unmapped := nofun } rfl (fun _ _ _ set => set)
      fun _ _ _ => rfl
  split
  · exact opening
  refine opening.next { opening.laid with own := ?_, unmapped := nofun, peers := ?_ } rfl ?_ ?_
  · intro mapping mapped
    refine ⟨rfl, ?_⟩
    split at mapped
    · rename_i reader
      have shape := openReadonly_ok (toOption_eq_some mapped)
      rw [total] at shape
      rw [shape, reader, Bool.not_true]
    · rename_i writer
      have shape := (openWritable_effect _ _ _ _ _ _ _).1 mapping (toOption_eq_some mapped)
      rw [total] at shape
      rw [shape, Bool.eq_false_iff.mpr writer, Bool.not_false]
  · intro _ rank mapping other found
    have found := getD_map_range found
    rw [if_neg other] at found
    have shape := openReadonly_ok (toOption_eq_some found)
    rw [total] at shape
    exact shape
  · intro root rank slot set
    split at set
    · exact set
    · exact (openWritable_effect _ _ _ _ _ _ _).2.bits root rank slot set
  · intro root rank apart
    split
    · rfl
    exact (openWritable_effect _ _ _ _ _ _ _).2.others root rank apart

/-- Opening keeps the index, adds verified keys only, and sets no bits. -/
theorem opening_openStore (laid : RankLaid config session.core) (faults : OpenFaults) :
    Opening config session (openStore session config faults).2 := by
  have unchanged : Opening config session session := .of_index laid rfl rfl
  unfold openStore
  split
  · exact unchanged
  rename_i checks
  split
  · split
    · exact unchanged
    · exact unchanged
  rename_i closed
  have own := laid.unmapped (Bool.eq_false_iff.mpr closed)
  obtain ⟨_, _, _, _, allocator, frame, allocated⟩ := setGeometry_frame session.core config
  -- Until the checkpoint is loaded the index is the old one.
  have early : ∀ reached : Session, reached.core.index = session.core.index →
      reached.core.ownResidency = none → reached.core.allocator = allocator →
      reached.media.residency = session.media.residency →
      Opening config session reached := by
    intro reached index unmapped same residency
    refine .of_index (laid.unmapped_of index unmapped ?_ ?_) index residency
    · rw [same]
      rcases allocated with rfl | configured
      · exact laid.sound
      · exact (configure_totalSlots configured).1
    · rw [same]
      rcases allocated with rfl | configured
      · exact laid.total
      · exact (configure_totalSlots configured).2.le
  refine andThen_cases (fun _ _ => ?_) fun placed => ?_
  · exact early _ (by rw [frame]) (by rw [frame]; exact own) (by rw [frame]) rfl
  obtain ⟨fitted, geometry, place⟩ : ∃ fitted, GeometryOk session.core config fitted ∧
      (session.core.setGeometry config).2 = session.core.withGeometry config fitted :=
    setGeometry_ok checks (Prod.ext placed rfl)
  rw [place]
  have fits : fitted = allocator := by
    rw [frame] at place
    exact (congrArg ObjectStoreCore.allocator place).symm
  subst fits
  refine andThen_cases (fun _ failed => ?_) fun laidOut => ?_
  · unfold ensureLayout
    split
    · exact early _ rfl own rfl rfl
    · exact early _ rfl own rfl rfl
  have same : (ensureLayout ⟨session.core.withGeometry config fitted, session.media⟩
      faults).2 = ⟨session.core.withGeometry config fitted, session.media⟩ := by
    unfold ensureLayout
    split <;> rfl
  rw [same]
  obtain ⟨core, _, residency⟩ := ensureCheckpoint_frame
    ⟨session.core.withGeometry config fitted, session.media⟩ faults
  refine andThen_cases (fun _ _ => ?_) fun ensured => ?_
  · exact early _ (by rw [core]; rfl) (by rw [core]; exact own) (by rw [core]; rfl) residency
  obtain ⟨loaded, unmapped, config_eq, total⟩ := opening_loadCheckpoint laid own geometry
    (Prod.ext ensured rfl) residency
  generalize loadCheckpoint (ensureCheckpoint ⟨session.core.withGeometry config fitted,
    session.media⟩ faults).2 = reached at loaded unmapped config_eq total ⊢
  obtain ⟨_, limit, adopted, built, _⟩ := adoptMedia_frame reached faults
  have files := built.frame.2
  have adopting : Opening config session (adoptMedia reached faults).2 := by
    generalize (adoptMedia reached faults).2 = next at adopted files
    obtain ⟨core, media⟩ := next
    subst adopted
    refine loaded.next (loaded.laid.unmapped_of rfl unmapped
      (loaded.laid.sound.setReadyLimit limit) loaded.laid.total) rfl ?_ ?_
    · intro root rank slot set
      rw [residencyBit, files] at set
      exact set
    · intro root rank _
      rw [files]
  refine andThen_cases (fun _ _ => adopting) fun _ => ?_
  refine adopting.finishOpen ?_ ?_ faults
  · rw [adopted]
    exact config_eq
  · rw [adopted]
    exact total

/-! ## One-sided bits -/

theorem RankLaid.close (laid : RankLaid config session.core) (outcome : WriteOutcome) :
    RankLaid config (close session outcome).2.core := by
  unfold ObjectStoreCore.close
  split
  · exact laid
  dsimp only
  split
  · obtain ⟨_, _, same⟩ := core_persistCheckpoint session outcome
    rw [same]
    exact laid.unmapped_of rfl rfl laid.sound laid.total
  · exact laid.unmapped_of rfl rfl laid.sound laid.total

theorem RankLaid.rankStep (laid : RankLaid config session.core) (operation : RankOp) :
    RankLaid config (rankStep config session operation).core := by
  cases operation with
  | store operation => exact laid.step operation
  | close outcome => exact laid.close outcome
  | reopen faults => exact (opening_openStore laid faults).laid

/-- Keys are released only while the rank's bitmap is mapped. -/
def ReleasesMapped (session : Session) : RankOp → Prop
  | .store (.release _) => session.core.ownResidency.usable = true
  | _ => True

/-- The bits stay truthful as long as no key is released behind their back. -/
theorem Truthful.rankStep (truthful : Truthful config session) (laid : RankLaid config session.core)
    {operation : RankOp} (mapped : ReleasesMapped session operation) :
    Truthful config (rankStep config session operation) := by
  cases operation with
  | store operation =>
    by_cases commits : ∃ keys, operation = .commit keys
    · obtain ⟨keys, rfl⟩ := commits
      have committing := committing_commit session keys
      intro slot exists_ set
      rcases committing.bits _ _ _ set with before | committed
      · obtain ⟨key, entry, holds, located⟩ := truthful slot exists_ before
        exact ⟨key, entry, committing.kept key entry holds, located⟩
      · exact committed
    · by_cases releases : ∃ keys, operation = .release keys
      · obtain ⟨keys, rfl⟩ := releases
        exact truthful_release laid mapped truthful keys
      · push Not at commits releases
        exact (step_quiet session commits releases).truthful truthful
  | close outcome => exact (quiet_close session outcome).truthful truthful
  | reopen faults =>
    have opening := opening_openStore laid faults
    intro slot exists_ set
    obtain ⟨key, entry, holds, located⟩ := truthful slot exists_ (opening.bits _ _ _ set)
    exact ⟨key, entry, ⟨opening.kept key entry holds.1, holds.2⟩, located⟩

/-- A set bit of the mapped bitmap stands for a committed key. -/
def OneSided (session : Session) : Prop :=
  ∀ slot, ResidencyBitmap.test session.media session.core.ownResidency slot = true →
    session.core.CommittedAt slot

/-- What holds of a rank between two of its operations. -/
structure Faithful (config : StoreConfig) (session : Session) : Prop where
  laid : RankLaid config session.core
  truthful : Truthful config session

theorem Faithful.rankStep (faithful : Faithful config session) {operation : RankOp}
    (mapped : ReleasesMapped session operation) :
    Faithful config (rankStep config session operation) :=
  ⟨faithful.laid.rankStep operation, faithful.truthful.rankStep faithful.laid mapped⟩

theorem Faithful.oneSided (faithful : Faithful config session) : OneSided session := by
  obtain ⟨laid, truthful⟩ := faithful
  intro slot set
  cases own : session.core.ownResidency with
  | none =>
    rw [own] at set
    cases set
  | some mapping =>
    rw [own, test_some, (laid.own mapping own).2] at set
    exact truthful slot set.1 set.2

/-- A new store has a key committed in just the slots that recovery verified. -/
theorem committedAt_iff_verified (ok : openStore ⟨fresh, media⟩ config faults = (.ok (), session))
    (slot : Nat) : session.core.CommittedAt slot ↔ slot ∈ verifiedSlots config media := by
  obtain ⟨allocator, checked, adopted, mapped, stages⟩ := openStore_ok rfl ok
  obtain ⟨core, segment⟩ := ensureCheckpoint_ok stages.checkpoint
  obtain ⟨index, _, _, _, _⟩ := stages.result inverse_fresh
  have inverse : checked.core.Inverse := by
    rw [core]
    exact inverse_fresh
  have recovering := recovering_walked inverse
  have judge := sameJudge_surveyor stages.geometry stages.checkpoint
  have nothing : checked.core.HoldsJust [] := by
    rw [core]
    exact ⟨fun _ => iff_of_true rfl nofun, fun _ => iff_of_true rfl nofun⟩
  have slots : (walked checked).1 = verifiedSlots config media := by
    have walk := @slots_recoverEntries (surveyor config) checked.core checked.media
      (storedEntries checked) [] 0 judge nothing
    rw [verifiedSlots, ← storedEntries_ensured stages.geometry stages.checkpoint,
      ← firstConfirmed_segment _ segment]
    exact walk
  rw [← slots]
  constructor
  · rintro ⟨key, entry, holds, rfl⟩
    have present := holds.1
    rw [index] at present
    rcases recovering.origin key entry present with old | ⟨_, located, _⟩
    · rw [core] at old
      cases old
    · exact located
  · intro member
    obtain ⟨_, key, entry, present, located, confirmed⟩ := recovering.collected slot member
    refine ⟨key, entry, ⟨?_, confirmed.committed⟩, located⟩
    rw [index]
    exact present

/-- The bits of a bitmap file that is not empty are found as they were left. -/
theorem bits_openWritable {root : NormalPath} {rankId : Nat} {file : ResidencyFile}
    (found : media.residency root rankId = some file) (nonempty : file.size ≠ 0)
    (rankCount slotCount fingerprint : Nat) (fault : Option Status) (slot : Nat) :
    residencyBit (ResidencyBitmap.openWritable media root rankId rankCount slotCount fingerprint
      fault).2 root rankId slot = file.bits slot := by
  have before : residencyBit media root rankId slot = file.bits slot := by
    rw [residencyBit, found]
    rfl
  unfold openWritable
  split
  · exact before
  split
  · exact before
  rw [found]
  dsimp only
  rw [if_neg nonempty]
  split
  · exact before
  split
  · exact before
  · simp [residencyBit, Media.setResidency]
  · exact before

theorem bits_of_open (ok : openStore ⟨fresh, media⟩ config faults = (.ok (), session))
    {file : ResidencyFile} (found : media.residency config.root config.rankId = some file)
    (nonempty : file.size ≠ 0) (slot : Nat) :
    residencyBit session.media config.root config.rankId slot = file.bits slot := by
  obtain ⟨allocator, checked, adopted, mapped, stages⟩ := openStore_ok rfl ok
  obtain ⟨core, _⟩ := ensureCheckpoint_ok stages.checkpoint
  have ensured := (ensureCheckpoint_frame ⟨fresh.withGeometry config allocator, media⟩ faults).2.2
  rw [stages.checkpoint] at ensured
  have loaded := @loadCheckpoint_media checked (by rw [core]; rfl)
  obtain ⟨_, _, _, _, _, frame⟩ := loadCheckpoint_frame checked
  obtain ⟨_, _, adopting, _, built⟩ := adoptMedia_ok stages.adopt
  have files := built.frame.2
  have same : adopted.media.residency = media.residency := by
    rw [files, loaded]
    exact ensured
  have config_eq : adopted.core.config = config := by
    rw [adopting, frame, core]
    rfl
  have before : residencyBit adopted.media config.root config.rankId slot = file.bits slot := by
    rw [residencyBit, same, found]
    rfl
  have mapping := stages.residency
  rw [stages.reached]
  unfold mapResidency at mapping
  dsimp only at mapping
  rw [config_eq] at mapping
  split at mapping
  · cases mapping
    exact before
  split at mapping
  · cases mapping
  cases mapping
  split
  · exact before
  refine bits_openWritable ?_ nonempty _ _ _ _ slot
  rw [same]
  exact found

/-- The bits of a rank are one-sided in every run of its store that starts on
bits that recovery verifies and releases keys only while the bitmap is mapped;
and the bitmap holds just the verified slots if it was found that way. -/
theorem oneSided_of_verified_bits {media : Media} {config : StoreConfig} {faults : OpenFaults}
    {session : Session} (ok : openStore ⟨fresh, media⟩ config faults = (.ok (), session))
    (found : ∀ slot < slotTotal config,
      residencyBit media config.root config.rankId slot = true → slot ∈ verifiedSlots config media)
    (operations : List RankOp)
    (mapped : Along (rankStep config) ReleasesMapped session operations) :
    Always (rankStep config) OneSided session operations ∧
      ∀ file, media.residency config.root config.rankId = some file → file.size ≠ 0 →
        (∀ slot < slotTotal config, file.bits slot = true ↔ slot ∈ verifiedSlots config media) →
        session.core.ownResidency.usable = true →
        ∀ slot < slotTotal config,
          ResidencyBitmap.test session.media session.core.ownResidency slot = true ↔
            session.core.CommittedAt slot := by
  have opening := @opening_openStore config ⟨fresh, media⟩ (rankLaid_fresh config) faults
  rw [ok] at opening
  have initial : Faithful config session := by
    refine ⟨opening.laid, fun slot exists_ set => ?_⟩
    rw [committedAt_iff_verified ok]
    exact found slot exists_ (opening.bits _ _ _ set)
  constructor
  · have kept : ∀ reached operation, Faithful config reached → ReleasesMapped reached operation →
        Faithful config (rankStep config reached operation) :=
      fun reached operation faithful guard => faithful.rankStep guard
    exact (mapped.always kept initial).imp fun reached faithful => faithful.oneSided
  · intro file present nonempty exactly usable slot exists_
    obtain ⟨mapping, own⟩ := Option.isSome_iff_exists.mp usable
    rw [own, test_some, (opening.laid.own mapping own).2, committedAt_iff_verified ok,
      bits_of_open ok present nonempty, exactly slot exists_]
    exact and_iff_right exists_

/-! ## Two ranks -/

/-- The writer of two slots as one of two ranks. -/
def ranksConfig (rank : Nat) : StoreConfig := { pairConfig with rankId := rank, rankCount := 2 }

/-- That store, opened, with its mappings. -/
def ranksStore (rank : Nat) (own : ResidencyBitmap) (peers : List ResidencyBitmap) :
    ObjectStoreCore :=
  { pairSession.core with
    config := ranksConfig rank
    placement := placementOf (ranksConfig rank)
    ownResidency := own
    peerResidency := peers }

/-- Media with nothing on them but an empty checkpoint. -/
def coldMedia : Media := Media.blank.setCheckpoint pairConfig.root (List.replicate 16384 0)

/-- The bitmap file that a rank makes for itself. -/
def coldFile (rank : Nat) : ResidencyFile :=
  ⟨residencyFileBytes 2, encodeResidencyHeader rank 2 2
    (fingerprintDigest (ranksStore rank none [])), fun _ => false⟩

/-- What the first rank finds after opening on these media. -/
def coldSession : Session :=
  ⟨ranksStore 0 (some ⟨pairConfig.root, 0, 2, true⟩) [none, none],
    (coldMedia.setSegment (segmentPath "/mnt" 0 0)
      ⟨16384, some 16384, fun _ => zeroBlock⟩).setResidency
      pairConfig.root 0 (coldFile 0)⟩

theorem openStore_cold :
    openStore ⟨fresh, coldMedia⟩ (ranksConfig 0) {} = (.ok (), coldSession) := by
  have result := @openStore_zeros (ranksConfig 0) rfl rfl fresh rfl coldMedia rfl _ rfl _ _ rfl rfl
    rfl rfl
  exact result

theorem oneSided_of_verified_bits_cold :
    openStore ⟨fresh, coldMedia⟩ (ranksConfig 0) {} = (.ok (), coldSession) ∧
      Along (rankStep (ranksConfig 0)) ReleasesMapped coldSession
        [.store (.reserve [[1]]), .store (.commit [([1], .done)]), .store (.release [[1]])] ∧
      Always (rankStep (ranksConfig 0)) OneSided coldSession
        [.store (.reserve [[1]]), .store (.commit [([1], .done)]), .store (.release [[1]])] := by
  refine ⟨openStore_cold, ?along, (oneSided_of_verified_bits openStore_cold ?_ _ ?along).1⟩
  · refine ⟨trivial, trivial, ?_, trivial⟩
    rw [ReleasesMapped]
    decide +kernel
  · intro slot _ set
    cases set

/-- A bitmap file of the first rank whose bits were all left set. -/
def staleFile : ResidencyFile := { coldFile 0 with bits := fun _ => true }

/-- Media with nothing on them but that file and an empty checkpoint. -/
def staleMedia : Media := coldMedia.setResidency pairConfig.root 0 staleFile

/-- What the first rank finds after opening on these media. -/
def staleSession : Session :=
  ⟨ranksStore 0 (some ⟨pairConfig.root, 0, 2, true⟩) [none, none],
    staleMedia.setSegment (segmentPath "/mnt" 0 0) ⟨16384, some 16384, fun _ => zeroBlock⟩⟩

theorem openStore_stale :
    openStore ⟨fresh, staleMedia⟩ (ranksConfig 0) {} = (.ok (), staleSession) := by
  have result := @openStore_zeros (ranksConfig 0) rfl rfl fresh rfl staleMedia rfl _ rfl _ _ rfl rfl
    rfl rfl
  exact result

/-- Nothing was ever committed, and both bits are set. -/
theorem staleBits_survive :
    openStore ⟨fresh, staleMedia⟩ (ranksConfig 0) {} = (.ok (), staleSession) ∧
      (ranksConfig 0).readOnly = false ∧ 1 < (ranksConfig 0).rankCount ∧
      validateResidencyHeader staleFile.header 2 2
        (fingerprintDigest (ranksStore 0 none [])) = none ∧
      ResidencyBitmap.test staleSession.media staleSession.core.ownResidency 0 = true ∧
      ¬ staleSession.core.CommittedAt 0 := by
  refine ⟨openStore_stale, rfl, by decide, by decide +kernel, by decide +kernel, ?_⟩
  rintro ⟨key, entry, holds, _⟩
  cases holds.1

end ObjectStoreCore

end Tutti
