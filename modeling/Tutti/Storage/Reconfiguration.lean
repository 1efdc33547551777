import Tutti.Storage.ResidencyOpen
import Tutti.Storage.SlotRegions

/-!
# Opening a pool under another configuration

A new object is opened on media that an earlier one has written, under a
configuration that differs in one field. Nothing on the media records the
namespace fingerprint, so a new object never compares it, and takes over the keys
of another namespace. The slot count decides how long a checkpoint container is,
and with it how long the checkpoint file has to be: a pool that grows past that
length starts with an empty checkpoint.
-/

namespace Tutti

open Foundation CheckpointLayout SpaceAllocator

namespace ObjectStoreCore

/-! ## When opening succeeds -/

section Succeeds

variable {media : Media} {config : StoreConfig} {fileBytes : Nat}

section

variable (whole : fileBytes ≠ 0 ∧ fileBytes % alignment = 0)
include whole

theorem segmentFileIsReady_succeeds (media : Media) (path : SegmentPath) :
    ∃ found, segmentFileIsReady media path fileBytes none = .ok found := by
  unfold segmentFileIsReady
  rw [if_neg (by simp [whole])]
  cases media.segment path with
  | none => exact ⟨_, rfl⟩
  | some file => exact ⟨_, rfl⟩

/-- Without faults the probes of a group come to a result. -/
theorem probe_succeeds (media : Media) (paths : List SegmentPath) (start : Bool) :
    ∃ found, paths.foldl (fun (found : Except Status Bool) path => found.bind fun present =>
      if present = true then segmentFileIsReady media path fileBytes none
      else .ok false) (.ok start) = .ok found := by
  induction paths generalizing start with
  | nil => exact ⟨start, rfl⟩
  | cons path paths ih =>
    obtain ⟨first, probed⟩ := segmentFileIsReady_succeeds whole media path
    cases start with
    | false => exact ih false
    | true =>
      rw [List.foldl_cons, Except.bind, if_pos rfl, probed]
      exact ih first

omit whole in
theorem adoptGroups_succeeds (media : Media) (rounds : Nat) (core : ObjectStoreCore)
    (whole : core.placement.fileBytes ≠ 0 ∧ core.placement.fileBytes % alignment = 0) :
    ∃ precreated, adoptGroups media (fun _ => none) rounds core =
      (.ok (), { core with precreated }) := by
  induction rounds generalizing core with
  | zero => exact ⟨core.precreated, rfl⟩
  | succ rounds ih =>
    rw [adoptGroups]
    split
    · exact ⟨core.precreated, rfl⟩
    obtain ⟨found, probed⟩ := probe_succeeds whole media (core.groupPaths core.precreated) true
    rw [probed]
    cases found with
    | false => exact ⟨core.precreated, rfl⟩
    | true =>
      obtain ⟨precreated, adopted⟩ := ih { core with
        precreated := min core.allocator.totalSlots (core.precreated + core.groupSlots) }
        whole
      exact ⟨precreated, adopted⟩

/-- A group that is ready is left as it is. -/
theorem materialiseGroup_of_ready (faults : SegmentPath → MaterialiseFault)
    {paths : List SegmentPath} (ready : ∀ path ∈ paths, FileReady media fileBytes path) :
    materialiseGroup fileBytes faults paths media = (.ok (), media) := by
  induction paths with
  | nil => rfl
  | cons path paths ih =>
    obtain ⟨file, found, full, marked⟩ := ready path (.head _)
    have first : materialiseSegmentFile media path fileBytes (faults path) = (.ok (), media) := by
      unfold materialiseSegmentFile
      rw [if_neg (by simp [whole])]
      simp [found, full, marked]
    rw [materialiseGroup, first]
    exact ih fun other member => ready other (List.mem_cons_of_mem path member)

end

theorem mapResidency_succeeds (session : Session) :
    ∃ mapped, mapResidency session {} = (.ok (), mapped) := by
  unfold mapResidency
  dsimp only
  split
  · exact ⟨_, rfl⟩
  · rw [ite_self]
    exact ⟨_, rfl⟩

theorem setGeometry_succeeds {core : ObjectStoreCore} {allocator : SpaceAllocator}
    (geometry : GeometryOk core config allocator) (named : "" ∉ config.devices) :
    core.setGeometry config = (.ok (), core.withGeometry config allocator) := by
  have valid := geometry.valid
  have some : config.devices ≠ [] := by
    intro none
    simp only [FixedSegmentFilePlacement.geometryValid, placementOf, none] at valid
    exact absurd rfl (decide_eq_true_iff.mp valid).1
  have configured : core.allocator.configure
      (capacityOf config (config.segmentHeaderBytes + config.layout.payloadBytes))
      (config.segmentHeaderBytes + config.layout.payloadBytes) = Option.some allocator :=
    geometry.configured
  unfold setGeometry buildBackend
  simp only [some, named, valid, configured, not_lt.mpr geometry.grouped, Bool.true_eq_false,
    ↓reduceIte]
  rfl

/-- The space that `open` asks for on the media can be had. -/
structure Placeable (config : StoreConfig) : Prop where
  named : "" ∉ config.devices
  region : regionBytes config ≠ 0 ∧ regionBytes config % alignment = 0
  file : (placementOf config).fileBytes ≠ 0 ∧ (placementOf config).fileBytes % alignment = 0

/-- Without faults a writer opens on any media on which its first group is ready. -/
theorem openStore_succeeds {opener : ObjectStoreCore} {allocator : SpaceAllocator}
    (shut : opener.opened = false) (geometry : GeometryOk opener config allocator)
    (writer : config.readOnly = false) (placeable : Placeable config)
    (ready : GroupReady ⟨surveyor config, media⟩ 0) :
    ∃ reached, openStore ⟨opener, media⟩ config {} = (.ok (), reached) := by
  have total : allocator.totalSlots = slotTotal config := geometry.totalSlots_eq.1
  have layout : ensureLayout ⟨opener.withGeometry config allocator, media⟩ {} =
      (.ok (), ⟨opener.withGeometry config allocator, media⟩) := by
    unfold ensureLayout
    rw [ite_self]
  have checkpoint : ∃ checked, ensureCheckpoint ⟨opener.withGeometry config allocator, media⟩ {} =
      (.ok (), checked) := by
    have region : regionBytes config = checkpointContainerBytes allocator.totalSlots maxKeyBytes *
        containerCount % uint64Size := by
      rw [regionBytes, total]
    have usable := placeable.region
    rw [region] at usable
    unfold ensureCheckpoint ensureMetadataFile
    dsimp only [withGeometry]
    rw [if_neg (Bool.eq_false_iff.mp writer), if_neg (by simp [usable])]
    split
    · exact ⟨_, rfl⟩
    · exact ⟨_, rfl⟩
  obtain ⟨checked, checkpoint⟩ := checkpoint
  have same := @sameGroups_surveyor ⟨opener, media⟩ checked config {} allocator geometry checkpoint
  have adopt : ∃ adopted, adoptMedia (loadCheckpoint checked) {} = (.ok (), adopted) := by
    obtain ⟨core, _⟩ := ensureCheckpoint_ok checkpoint
    obtain ⟨_, _, _, _, _, frame⟩ := loadCheckpoint_frame checked
    have writer : (loadCheckpoint checked).core.config.readOnly = false := by
      rw [frame, core]
      exact writer
    generalize loadCheckpoint checked = loaded at *
    have file := placeable.file
    have placement : loaded.core.placement = placementOf config := same.placement
    rw [← placement] at file
    obtain ⟨precreated, adopted⟩ := adoptGroups_succeeds loaded.media
      loaded.core.allocator.totalSlots loaded.core file
    have first : materialiseGroup loaded.core.placement.fileBytes (fun _ => none)
        (groupPaths { loaded.core with precreated } 0) loaded.media =
        (.ok (), loaded.media) :=
      materialiseGroup_of_ready file (fun _ => none) ((same.groupReady 0).mpr ready)
    unfold adoptMedia
    rw [if_neg (Bool.eq_false_iff.mp writer), adopted]
    dsimp only
    split
    · exact ⟨_, by rw [first]⟩
    · exact ⟨_, rfl⟩
  obtain ⟨adopted, adopt⟩ := adopt
  obtain ⟨mapped, residency⟩ := mapResidency_succeeds adopted
  exact ⟨_, openStore_eq shut geometry.checked (setGeometry_succeeds geometry placeable.named)
    layout checkpoint rfl adopt residency⟩

/-- Whether the geometry is accepted does not depend on the object. -/
theorem GeometryOk.elsewhere {core other : ObjectStoreCore} {allocator : SpaceAllocator}
    (geometry : GeometryOk core config allocator) :
    ∃ allocator, GeometryOk other config allocator := by
  obtain ⟨checked, valid, configured, grouped⟩ := geometry
  obtain ⟨sized, positive, _⟩ := configure_eq_some_iff.mp configured
  exact ⟨_, checked, valid, configure_eq_some_iff.mpr ⟨sized, positive, rfl⟩, grouped⟩

end Succeeds

/-! ## The media that a pool leaves -/

variable {operations : List StoreOp} {outcome : WriteOutcome} {media : Media}
  {config : StoreConfig} {faults : OpenFaults} {session : Session}

section Pool

theorem FreshOpen.placeable (opened : FreshOpen media config session)
    (named : "" ∉ config.devices) : Placeable config := by
  have checked := opened.configOk
  have aligned := slotSize_aligned checked
  have region := opened.wellLaid.regionLaid opened.containerBytes
  have bytes : regionBytes config =
      session.core.containerBytes * containerCount := by
    rw [regionBytes, ← opened.totalSlots, ← opened.containerBytes, Nat.mod_eq_of_lt region.small]
  have header := region.header_le
  have twice : containerCount = 2 := rfl
  have long : containerHeaderBytes = 4096 := rfl
  refine ⟨named, ⟨?_, ?_⟩, ?_, ?_⟩
  · rw [bytes, twice]
    omega
  · rw [bytes, Nat.mul_mod, region.aligned, Nat.zero_mul, Nat.zero_mod]
  · have wide := checked.header_le
    have block : alignment = 4096 := rfl
    exact mul_ne_zero (by omega) (pos_iff_ne_zero.mp checked.fileSlots_pos)
  · exact Nat.mod_eq_zero_of_dvd
      (Dvd.dvd.mul_right (Nat.dvd_of_mod_eq_zero aligned) config.segmentFileSlots)

section

variable (ok : openStore ⟨fresh, media⟩ config faults = (.ok (), session))
  (writer : config.readOnly = false)
include ok writer

/-- The first group of a writer is ready in every state. -/
theorem firstGroup_ready (operations : List StoreOp)
    {left : Media} (segment : left.segment = (runFrom step session operations).media.segment) :
    GroupReady ⟨surveyor config, left⟩ 0 := by
  have opened := freshOpen ok
  have same := sameStore_run opened.sound operations
  have running := (running_of_open ok).run operations
  obtain ⟨groups, positive, _, below⟩ := (running.provisioned (by
    rw [same.config, opened.config_eq]
    exact writer)).groups
  have first := (below 0 positive).2
  rw [Nat.zero_mul] at first
  have groups : SameGroups (runFrom step session operations) ⟨surveyor config, left⟩ :=
    ⟨(same.placement.trans opened.placement).symm, (same.groupSlots.trans opened.groupSlots).symm,
      (same.mountCount.trans opened.mountCount).symm,
      (same.totalSlots.trans opened.totalSlots).symm, segment⟩
  exact (groups.groupReady 0).mpr first

omit ok writer in
/-- The end of a run leaves the segment files alone. -/
theorem finish_segment (session : Session) (outcome : WriteOutcome) (way : Finish) :
    (finish session outcome way).2.media.segment = session.media.segment := by
  cases way with
  | checkpoint => exact media_checkpoint session outcome
  | close =>
    dsimp only [finish, close]
    split
    · rfl
    split
    · exact (media_persistCheckpoint session outcome).1
    · rfl

/-- What a pool leaves behind after a checkpoint that succeeded. -/
structure Saved (config : StoreConfig) (pool : Session) (left : Media) : Prop where
  durable : Durable pool
  placement : pool.core.placement = placementOf config
  layout : pool.core.config.layout = config.layout
  totalSlots : pool.core.allocator.totalSlots = slotTotal config
  segment : left.segment = pool.media.segment
  stored : storedIn config left = pool.core.checkpointEntries
  region : regionBytes config ≤ ((left.checkpoint config.root).getD []).length

theorem saved_of_checkpoint (distinct : MountsDistinct config) (short : ShortKeys session)
    (room : highestSequence (runFrom step session operations) + 1 < uint64Size) {after : Session}
    (saved : checkpoint (runFrom step session operations) outcome = (.ok (), after)) :
    Saved config (runFrom step session operations) after.media := by
  have opened := freshOpen ok
  have same := sameStore_run opened.sound operations
  have durable := (durable_of_open ok distinct short).run operations
  have mirrored := (mirrored_of_open ok).run operations
  have config_eq := same.config.trans opened.config_eq
  have next : runFrom step session (operations ++ [.checkpoint outcome]) = after := by
    rw [runFrom_append, runFrom_cons, runFrom_nil, step, saved]
  have after_same := sameStore_run opened.sound (operations ++ [.checkpoint outcome])
  have after_mirrored := (mirrored_of_open ok).run (operations ++ [.checkpoint outcome])
  rw [next] at after_same after_mirrored
  generalize runFrom step session operations = reached at *
  have fits := durable.fits (by rw [same.containerBytes, opened.containerBytes, same.totalSlots])
  have writes : reached.core.config.readOnly = false := by
    rw [config_eq]
    exact writer
  have persisted : persistCheckpoint reached outcome = (.ok (), after) := by
    unfold checkpoint at saved
    rw [if_neg (Bool.eq_false_iff.mp writes)] at saved
    split at saved
    · cases saved
    · exact saved
  obtain ⟨_, stored⟩ := durable.storedEntries_persist mirrored writes fits room persisted
  have after_config : after.core.config = config := after_same.config.trans opened.config_eq
  have after_bytes : after.core.containerBytes =
      checkpointContainerBytes (slotTotal config) maxKeyBytes := by
    rw [after_same.containerBytes, opened.containerBytes, opened.totalSlots]
  obtain ⟨file, region⟩ := after_mirrored.region (by rw [after_config]; exact writer)
  refine ⟨durable, same.placement.trans opened.placement, by rw [config_eq],
    same.totalSlots.trans opened.totalSlots, ?_, ?_, ?_⟩
  · have kept := (media_persistCheckpoint reached outcome).1
    rw [persisted] at kept
    exact kept
  · rw [← stored]
    refine @storedEntries_congr after (lookingAt config after.media) ?_ ?_ rfl
    · rw [after_config]
      rfl
    · rw [after_bytes]
      rfl
  · have found := region.found
    have long := region.long
    rw [after_config] at found
    rw [after_bytes] at long
    rw [found, Option.getD_some]
    exact (Nat.mod_le _ _).trans long

/-- A checkpoint succeeds if its write does, and the file keeps its length. -/
theorem checkpoint_succeeds (distinct : MountsDistinct config) (short : ShortKeys session)
    (operations : List StoreOp) {file : Bytes}
    (found : (runFrom step session operations).media.checkpoint config.root = some file) :
    ∃ after written, checkpoint (runFrom step session operations) .done = (.ok (), after) ∧
      after.media.checkpoint config.root = some written ∧ written.length = file.length := by
  have opened := freshOpen ok
  have same := sameStore_run opened.sound operations
  have durable := (durable_of_open ok distinct short).run operations
  have mirrored := (mirrored_of_open ok).run operations
  have config_eq := same.config.trans opened.config_eq
  generalize runFrom step session operations = reached at *
  have writes : reached.core.config.readOnly = false := by
    rw [config_eq]
    exact writer
  have fits := durable.fits (by rw [same.containerBytes, opened.containerBytes, same.totalSlots])
  obtain ⟨known, region⟩ := mirrored.region writes
  have known_eq : known = file := by
    have here := region.found
    rw [config_eq, found] at here
    exact (Option.some.inj here).symm
  subst known_eq
  have result : checkpoint reached .done = persistCheckpoint reached .done := by
    rw [checkpoint, if_neg (Bool.eq_false_iff.mp writes),
      if_neg (by rw [same.opened, opened.opened]; exact Bool.true_eq_false.mp)]
  rcases persistCheckpoint_cases mirrored.laid region .done with
    ⟨large, _⟩ | ⟨_, ⟨_, persisted⟩ | ⟨failed, _⟩⟩
  · exact absurd fits (not_le.mpr large)
  · have length := length_leftBy (length_padTo fits) .done
    refine ⟨_, _, result.trans persisted, ?_, region.overwritten (nextContainer_lt reached) length⟩
    dsimp only [persistedMedia, Media.setCheckpoint]
    rw [config_eq, Function.update_self]
  · exact absurd rfl failed

end

/-- A new object recovers the committed keys of a pool whose entries the media
retain for it. -/
theorem Saved.recovers {pool : Session} {left : Media} (saved : Saved config pool left)
    {chosen : StoreConfig} (placement : placementOf chosen = placementOf config)
    (layout : chosen.layout = config.layout)
    (inside : ∀ key entry, pool.core.Holds key entry → entry.slot < slotTotal chosen)
    (retained : retainedIn chosen left = pool.core.checkpointEntries) {again : OpenFaults}
    {recovered : Session} (anew : openStore ⟨fresh, left⟩ chosen again = (.ok (), recovered))
    (key : ObjectKey) (entry : Entry) :
    recovered.core.index.get? key = some entry ↔ pool.core.Holds key entry := by
  obtain ⟨allocator, checked, adopted, mapped, stages⟩ := openStore_ok rfl anew
  obtain ⟨core, segment⟩ := ensureCheckpoint_ok stages.checkpoint
  obtain ⟨index, _⟩ := stages.result inverse_fresh
  rw [index, walked, storedEntries_ensured stages.geometry stages.checkpoint, retained]
  refine saved.durable.recoverEntries_iff
    (sameJudge_surveyor stages.geometry stages.checkpoint) ?_ ?_
    (placement.trans saved.placement.symm) (layout.trans saved.layout.symm) inside
    (segment.trans saved.segment) key entry
  · rw [core]
    rfl
  · rw [core]
    rfl

end Pool

/-! ## Another fingerprint -/

/-- The same configuration for another namespace. -/
def renamed (config : StoreConfig) (fingerprint : Bytes) : StoreConfig :=
  { config with namespaceFingerprint := fingerprint }

/-- An object refuses to open: the argument is invalid, the media stay as they
are, and nothing is recovered. -/
structure Refuses (opener : ObjectStoreCore) (media : Media) (config : StoreConfig) : Prop where
  rejected : ∀ faults, ∃ message,
    (openStore ⟨opener, media⟩ config faults).1 = .error ⟨.invalidArgument, message⟩
  preserved : ∀ faults, (openStore ⟨opener, media⟩ config faults).2.media = media
  nothing : ∀ faults, (openStore ⟨opener, media⟩ config faults).2.core.index = opener.index

section Renamed

/-- An object that is not open accepts every fingerprint. -/
theorem openStore_renamed (ok : openStore ⟨fresh, media⟩ config faults = (.ok (), session))
    (writer : config.readOnly = false) (operations : List StoreOp) {left : Media}
    (segment : left.segment = (runFrom step session operations).media.segment)
    (fingerprint : Bytes) {opener : ObjectStoreCore} (shut : opener.opened = false) :
    ∃ reached, openStore ⟨opener, left⟩ (renamed config fingerprint) {} = (.ok (), reached) := by
  have opened := freshOpen ok
  obtain ⟨_, geometry, _⟩ := opened.geometry
  obtain ⟨allocator, geometry⟩ := @GeometryOk.elsewhere config fresh opener _ geometry
  have placeable := opened.placeable (named_of_open rfl ok)
  have geometry : GeometryOk opener (renamed config fingerprint) allocator := { geometry with }
  have placeable : Placeable (renamed config fingerprint) := { placeable with }
  exact openStore_succeeds shut geometry writer placeable
    (firstGroup_ready ok writer operations segment)

/-- An object that is open compares the fingerprint. -/
theorem refuses_of_opened {opener : ObjectStoreCore} (opened : opener.opened = true)
    {chosen : StoreConfig} (valid : checkConfig chosen = .ok ())
    (different : chosen.namespaceFingerprint ≠ opener.config.namespaceFingerprint)
    (media : Media) : Refuses opener media chosen := by
  have mismatch : sameNamespace chosen opener.config = false := by
    exact decide_eq_false fun same => different same.2.2.2.1
  have result : ∀ faults, openStore ⟨opener, media⟩ chosen faults =
      (.error ⟨.invalidArgument, "namespace fingerprint, layout or uri mismatch"⟩,
        ⟨opener, media⟩) := by
    intro faults
    simp [openStore, valid, opened, mismatch]
  exact ⟨fun faults => ⟨_, by rw [result]⟩, fun faults => by rw [result],
    fun faults => by rw [result]⟩

/-- Another fingerprint is refused just by an object that is open itself. A new
object on the media of the pool never refuses it. -/
theorem refuses_renamed_iff (ok : openStore ⟨fresh, media⟩ config faults = (.ok (), session))
    (writer : config.readOnly = false) (operations : List StoreOp) (outcome : WriteOutcome)
    (way : Finish) {fingerprint : Bytes} (different : fingerprint ≠ config.namespaceFingerprint)
    {opener : ObjectStoreCore} (owner : opener.opened = true →
      opener.config.namespaceFingerprint = config.namespaceFingerprint) :
    Refuses opener (finish (runFrom step session operations) outcome way).2.media
      (renamed config fingerprint) ↔ opener.opened = true := by
  have opened := freshOpen ok
  obtain ⟨_, geometry, _⟩ := opened.geometry
  constructor
  · intro refuses
    by_contra shut
    obtain ⟨reached, accepted⟩ := openStore_renamed ok writer operations
      (finish_segment (runFrom step session operations) outcome way) fingerprint
      (Bool.eq_false_iff.mpr shut)
    obtain ⟨message, rejected⟩ := refuses.rejected {}
    rw [accepted] at rejected
    cases rejected
  · intro running
    have valid : checkConfig (renamed config fingerprint) = .ok () := geometry.checked
    refine refuses_of_opened running valid ?_ _
    rw [owner running]
    exact different

/-- A new object takes over all keys of another namespace. -/
theorem renamed_recovers (ok : openStore ⟨fresh, media⟩ config faults = (.ok (), session))
    (writer : config.readOnly = false) (distinct : MountsDistinct config)
    (short : ShortKeys session)
    (room : highestSequence (runFrom step session operations) + 1 < uint64Size) {after : Session}
    (saved : checkpoint (runFrom step session operations) outcome = (.ok (), after))
    {fingerprint : Bytes} {again : OpenFaults} {recovered : Session}
    (anew : openStore ⟨fresh, after.media⟩ (renamed config fingerprint) again =
      (.ok (), recovered)) (key : ObjectKey) (entry : Entry) :
    recovered.core.index.get? key = some entry ↔
      (runFrom step session operations).core.Holds key entry := by
  have saved := saved_of_checkpoint ok writer distinct short room saved
  refine @Saved.recovers config _ _ saved (renamed config fingerprint) rfl rfl ?_ ?_ _ _ anew key
    entry
  · intro key entry holds
    have inside := saved.durable.owned.lt_totalSlots holds.1
    rw [saved.totalSlots] at inside
    exact inside
  · rw [← saved.stored]
    exact if_pos (.inr saved.region)

end Renamed

/-- The pair with one key committed. -/
def oneCommitted : List StoreOp := [.reserve [[1]], .commit [([1], .done)]]

theorem highestSequence_oneCommitted :
    highestSequence (runFrom step pairSession oneCommitted) + 1 < uint64Size := by
  have mirror : mirrorOf (runFrom step pairSession oneCommitted) = mirrorOf pairSession :=
    mirrorOf_congr rfl rfl rfl
  rw [highestSequence, mirror, mirrorOf_pair]
  decide +kernel

theorem holds_oneCommitted :
    (runFrom step pairSession oneCommitted).core.Holds [1] ⟨0, 0, 1, true⟩ :=
  ⟨by decide +kernel, rfl⟩

/-- The pair itself refuses another fingerprint while it is open. -/
theorem refuses_renamed_iff_pair :
    openStore ⟨fresh, .blank⟩ pairConfig {} = (.ok (), pairSession) ∧
      Refuses (runFrom step pairSession oneCommitted).core
        (finish (runFrom step pairSession oneCommitted) .done .checkpoint).2.media
        (renamed pairConfig [2]) :=
  ⟨openStore_pair, (refuses_renamed_iff openStore_pair rfl oneCommitted .done .checkpoint
    (by decide) fun _ => rfl).mpr rfl⟩

/-- A pool with fingerprint 1 commits a key and writes its checkpoint. A new object
with fingerprint 2 opens on the media and has the key. -/
theorem renamed_pair_accepted :
    pairConfig.namespaceFingerprint ≠ [2] ∧ ∃ after recovered,
      openStore ⟨fresh, .blank⟩ pairConfig {} = (.ok (), pairSession) ∧
      checkpoint (runFrom step pairSession oneCommitted) .done = (.ok (), after) ∧
      openStore ⟨fresh, after.media⟩ (renamed pairConfig [2]) {} = (.ok (), recovered) ∧
      recovered.core.contains [1] = true := by
  obtain ⟨after, _, saved, _⟩ := @checkpoint_succeeds _ _ _ _ openStore_pair rfl (by decide)
    shortKeys_pair oneCommitted (List.replicate 16384 0) rfl
  have segment := media_checkpoint (runFrom step pairSession oneCommitted) .done
  rw [saved] at segment
  obtain ⟨recovered, anew⟩ := @openStore_renamed _ _ _ _ openStore_pair rfl oneCommitted _ segment
    [2] fresh rfl
  have present := (renamed_recovers openStore_pair rfl (by decide) shortKeys_pair
    highestSequence_oneCommitted saved anew [1] ⟨0, 0, 1, true⟩).mpr holds_oneCommitted
  refine ⟨by decide, after, recovered, openStore_pair, saved, anew, ?_⟩
  rw [contains, present]
  rfl

/-! ## Another slot count -/

/-- The same configuration with another capacity in slots. -/
def resized (config : StoreConfig) (slots : Nat) : StoreConfig :=
  { config with capacitySlots := slots }

/-- The length of a checkpoint container. -/
def containerBytesOf (config : StoreConfig) : Nat :=
  checkpointContainerBytes (slotTotal config) maxKeyBytes

/-- Nothing is committed, or the containers keep their length and every committed
slot exists under the new capacity. -/
def KeepsContainers (config : StoreConfig) (slots : Nat) (core : ObjectStoreCore) : Prop :=
  (∀ key entry, ¬ core.Holds key entry) ∨
    containerBytesOf (resized config slots) = containerBytesOf config ∧
      ∀ key entry, core.Holds key entry → entry.slot < slotTotal (resized config slots)

/-- The checkpoint file is long enough for longer containers already. -/
def Presized (config : StoreConfig) (slots : Nat) (media : Media) : Prop :=
  containerBytesOf (resized config slots) ≠ containerBytesOf config ∧
    regionBytes (resized config slots) ≤ ((media.checkpoint config.root).getD []).length

section Resized

/-- Nothing is recovered from a file that had to be started anew. -/
theorem index_of_short {left : Media} {again : OpenFaults} {recovered : Session}
    (writer : config.readOnly = false)
    (short : ((left.checkpoint config.root).getD []).length < regionBytes config)
    (anew : openStore ⟨fresh, left⟩ config again = (.ok (), recovered)) (key : ObjectKey) :
    recovered.core.index.get? key = none := by
  obtain ⟨allocator, checked, adopted, mapped, stages⟩ := openStore_ok rfl anew
  obtain ⟨core, _⟩ := ensureCheckpoint_ok stages.checkpoint
  obtain ⟨index, _⟩ := stages.result inverse_fresh
  have nothing : retainedIn config left = [] := by
    unfold retainedIn
    rw [writer]
    exact if_neg (by
      simp only [Bool.false_eq_true, false_or, not_le]
      exact short)
  rw [index, walked, storedEntries_ensured stages.geometry stages.checkpoint, nothing,
    recoverEntries, core]
  rfl

/-- With distinct mounts, a new object with another capacity recovers the committed
keys if the containers keep their length. If it does recover them, that is the reason, or the
file was longer than the pool needed. -/
theorem resized_recovers (ok : openStore ⟨fresh, media⟩ config faults = (.ok (), session))
    (writer : config.readOnly = false) (distinct : MountsDistinct config)
    (short : ShortKeys session) {operations : List StoreOp}
    (room : highestSequence (runFrom step session operations) + 1 < uint64Size)
    {outcome : WriteOutcome} {after : Session}
    (saved : checkpoint (runFrom step session operations) outcome = (.ok (), after))
    {slots : Nat} {again : OpenFaults} {recovered : Session}
    (anew : openStore ⟨fresh, after.media⟩ (resized config slots) again = (.ok (), recovered)) :
    (KeepsContainers config slots (runFrom step session operations).core →
      ∀ key entry, (runFrom step session operations).core.Holds key entry →
        recovered.core.index.get? key = some entry) ∧
    ((∀ key entry, (runFrom step session operations).core.Holds key entry →
        recovered.core.index.get? key = some entry) →
      KeepsContainers config slots (runFrom step session operations).core ∨
        Presized config slots after.media) := by
  have saved := saved_of_checkpoint ok writer distinct short room saved
  have opened := freshOpen anew
  constructor
  · rintro (nothing | ⟨same, inside⟩) key entry holds
    · exact absurd holds (nothing key entry)
    have region : regionBytes (resized config slots) = regionBytes config :=
      congrArg (fun bytes => bytes * containerCount % uint64Size) same
    have retained : retainedIn (resized config slots) after.media =
        (runFrom step session operations).core.checkpointEntries := by
      have long : regionBytes (resized config slots) ≤
          ((after.media.checkpoint (resized config slots).root).getD []).length := by
        rw [region]
        exact saved.region
      rw [← saved.stored, retainedIn, if_pos (.inr long)]
      exact @storedEntries_congr (lookingAt config after.media)
        (lookingAt (resized config slots) after.media) rfl same rfl
    exact (@Saved.recovers config _ _ saved (resized config slots) rfl rfl inside retained _ _
      anew key entry).mpr holds
  · intro recovers
    by_cases same : containerBytesOf (resized config slots) = containerBytesOf config
    · refine .inl (.inr ⟨same, fun key entry holds => ?_⟩)
      have inside := opened.owned.lt_totalSlots (recovers key entry holds)
      rw [opened.totalSlots] at inside
      exact inside
    by_cases long : regionBytes (resized config slots) ≤
        ((after.media.checkpoint config.root).getD []).length
    · exact .inr ⟨same, long⟩
    refine .inl (.inl fun key entry holds => ?_)
    have found := recovers key entry holds
    rw [@index_of_short (resized config slots) after.media again recovered writer
      (not_le.mp long) anew key] at found
    cases found

/-- Without faults a new object with another capacity opens, if the checkpoint
file it needs can be made and the first group is made of the same files. -/
theorem openStore_resized (ok : openStore ⟨fresh, media⟩ config faults = (.ok (), session))
    (writer : config.readOnly = false) (operations : List StoreOp) {left : Media}
    (segment : left.segment = (runFrom step session operations).media.segment) {slots : Nat}
    (some : 0 < slotTotal (resized config slots)) (region : regionBytes (resized config slots) ≠ 0 ∧
      regionBytes (resized config slots) % alignment = 0)
    (first : (surveyor (resized config slots)).groupPaths 0 = (surveyor config).groupPaths 0) :
    ∃ reached, openStore ⟨fresh, left⟩ (resized config slots) {} = (.ok (), reached) := by
  have opened := freshOpen ok
  obtain ⟨_, geometry, _⟩ := opened.geometry
  have placeable := opened.placeable (named_of_open rfl ok)
  obtain ⟨sized, _, _⟩ := configure_eq_some_iff.mp geometry.configured
  have geometry : GeometryOk fresh (resized config slots) _ :=
    { geometry with
      configured := configure_eq_some_iff.mpr ⟨sized, pos_iff_ne_zero.mp some, rfl⟩ }
  have ready : GroupReady ⟨surveyor (resized config slots), left⟩ 0 := by
    have before := firstGroup_ready ok writer operations segment
    unfold GroupReady at before ⊢
    rw [first]
    exact before
  exact openStore_succeeds rfl geometry writer ⟨placeable.named, region, placeable.file⟩ ready

end Resized

/-- The checkpoint of the pair, with what opening it under another capacity gives. -/
theorem openStore_resized_pair {slots : Nat} (some : 0 < slotTotal (resized pairConfig slots))
    (region : regionBytes (resized pairConfig slots) ≠ 0 ∧
      regionBytes (resized pairConfig slots) % alignment = 0)
    (first : (surveyor (resized pairConfig slots)).groupPaths 0 =
      (surveyor pairConfig).groupPaths 0) :
    ∃ after written recovered,
      checkpoint (runFrom step pairSession oneCommitted) .done = (.ok (), after) ∧
      after.media.checkpoint pairConfig.root = Option.some written ∧ written.length = 16384 ∧
      openStore ⟨fresh, after.media⟩ (resized pairConfig slots) {} = (.ok (), recovered) := by
  obtain ⟨after, written, saved, found, length⟩ := @checkpoint_succeeds _ _ _ _ openStore_pair rfl
    (by decide) shortKeys_pair oneCommitted (List.replicate 16384 0) rfl
  have segment := media_checkpoint (runFrom step pairSession oneCommitted) .done
  rw [saved] at segment
  obtain ⟨recovered, anew⟩ := openStore_resized openStore_pair rfl oneCommitted segment some region
    first
  rw [List.length_replicate] at length
  exact ⟨after, written, recovered, saved, found, length, anew⟩

/-- One more slot: the containers keep their length, and the key is recovered. -/
theorem resized_recovers_pair :
    ∃ after recovered, checkpoint (runFrom step pairSession oneCommitted) .done = (.ok (), after) ∧
      openStore ⟨fresh, after.media⟩ (resized pairConfig 3) {} = (.ok (), recovered) ∧
      recovered.core.index.get? [1] = some ⟨0, 0, 1, true⟩ := by
  obtain ⟨after, _, recovered, saved, _, _, anew⟩ := @openStore_resized_pair 3 (by decide)
    (by decide +kernel) rfl
  refine ⟨after, recovered, saved, anew, ?_⟩
  refine (resized_recovers openStore_pair rfl (by decide) shortKeys_pair
    highestSequence_oneCommitted saved anew).1 (.inr ⟨by decide +kernel,
      fun key entry holds => ?_⟩) [1] _ holds_oneCommitted
  have inside := ((freshOpen openStore_pair).owned.run oneCommitted).lt_totalSlots holds.1
  exact lt_trans inside (by decide +kernel)

/-- Thirteen more slots: the file is too short for the longer containers, and the
key is gone. -/
theorem resized_pair_forgets :
    pairConfig.capacitySlots < 15 ∧ ∃ after recovered,
      openStore ⟨fresh, .blank⟩ pairConfig {} = (.ok (), pairSession) ∧
      checkpoint (runFrom step pairSession oneCommitted) .done = (.ok (), after) ∧
      (runFrom step pairSession oneCommitted).core.Holds [1] ⟨0, 0, 1, true⟩ ∧
      openStore ⟨fresh, after.media⟩ (resized pairConfig 15) {} = (.ok (), recovered) ∧
      recovered.core.contains [1] = false := by
  obtain ⟨after, written, recovered, saved, found, length, anew⟩ := @openStore_resized_pair 15
    (by decide) (by decide +kernel) rfl
  have short : ((after.media.checkpoint (resized pairConfig 15).root).getD []).length <
      regionBytes (resized pairConfig 15) := by
    have found : after.media.checkpoint (resized pairConfig 15).root = some written := found
    rw [found, Option.getD_some, length]
    decide +kernel
  refine ⟨by decide, after, recovered, openStore_pair, saved, holds_oneCommitted, anew, ?_⟩
  rw [contains, index_of_short rfl short anew]
  rfl

end ObjectStoreCore

end Tutti
