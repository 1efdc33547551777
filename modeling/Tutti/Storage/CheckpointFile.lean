import Tutti.Storage.Provisioning

/-!
# The checkpoint region on the media

The region holds two containers, one behind the other. Overwriting one of them
leaves the other as it was, and a container that was written in full is read back
as it was encoded.
-/

namespace Tutti

open Foundation CheckpointLayout List

variable (value : Nat)

theorem roundUp_mod : roundUp value alignment % alignment = 0 := by
  rw [roundUp, if_neg (by decide), Nat.mul_mod_left]

theorem roundUp_le : roundUp value alignment ≤ value + alignment - 1 := by
  exact le_trans (Nat.div_mul_le_self _ _) (Nat.mod_le _ _)

theorem roundUp_mono {small large : Nat} (le : small ≤ large)
    (room : large + alignment < uint64Size) :
    roundUp small alignment ≤ roundUp large alignment := by
  rw [roundUp, roundUp, Nat.mod_eq_of_lt (by omega), Nat.mod_eq_of_lt (by omega)]
  exact Nat.mul_le_mul_right _ (Nat.div_le_div_right (by omega))

/-- The size of a container is not wrapped around. -/
theorem checkpointContainerBytes_eq {slots : Nat} (small : slots * alignment < uint64Size) :
    checkpointContainerBytes slots maxKeyBytes = roundUp (containerHeaderBytes +
        (entryCountBytes + slots * (entryFixedBytes + maxKeyBytes))) alignment ∧
      (containerHeaderBytes + (entryCountBytes + slots * (entryFixedBytes + maxKeyBytes)) +
        alignment) * 2 < uint64Size := by
  have fixed : entryFixedBytes + maxKeyBytes = 292 := rfl
  have header : containerHeaderBytes = 4096 := rfl
  have count : entryCountBytes = 8 := rfl
  have block : alignment = 4096 := rfl
  have wide : uint64Size = 18446744073709551616 := rfl
  rw [checkpointContainerBytes, fixed, header, count]
  rw [block] at small ⊢
  have body : (8 + slots * 292) % uint64Size = 8 + slots * 292 := Nat.mod_eq_of_lt (by omega)
  rw [body, Nat.mod_eq_of_lt (by omega)]
  exact ⟨rfl, by omega⟩

/-- A container holds as many entries with keys of full length as there are
slots, and the region does not overflow. -/
theorem checkpointContainerBytes_bounds {slots : Nat} (small : slots * alignment < uint64Size) :
    containerHeaderBytes +
        (entryCountBytes + slots * (entryFixedBytes + maxKeyBytes)) ≤
      checkpointContainerBytes slots maxKeyBytes ∧
    checkpointContainerBytes slots maxKeyBytes * containerCount < uint64Size := by
  obtain ⟨sized, room⟩ := checkpointContainerBytes_eq small
  rw [sized]
  refine ⟨le_roundUp (by omega), lt_of_le_of_lt (Nat.mul_le_mul_right _ ?_) room⟩
  exact (roundUp_le _).trans (Nat.sub_le _ _)

variable {length : Nat} {file : Bytes}

theorem padTo_of_le (long : length ≤ file.length) :
    padTo length file = file := by
  rw [padTo, Nat.sub_eq_zero_of_le long, replicate_zero, append_nil]

theorem length_padTo (short : file.length ≤ length) :
    (padTo length file).length = length := by
  rw [padTo, length_append, length_replicate]
  omega

namespace ObjectStoreCore

/-- The sizes of the checkpoint region are in order. -/
structure RegionLaid (core : ObjectStoreCore) : Prop where
  aligned : core.containerBytes % alignment = 0
  header_le : CheckpointLayout.containerHeaderBytes ≤ core.containerBytes
  small : core.containerBytes * CheckpointLayout.containerCount < uint64Size

variable {core : ObjectStoreCore}

theorem RegionLaid.congr {next : ObjectStoreCore} (laid : core.RegionLaid)
    (size : next.containerBytes = core.containerBytes) : next.RegionLaid where
  aligned := by rw [size]; exact laid.aligned
  header_le := by rw [size]; exact laid.header_le
  small := by rw [size]; exact laid.small

theorem WellLaid.regionLaid (laid : core.WellLaid) (sized : core.containerBytes =
      checkpointContainerBytes core.allocator.totalSlots maxKeyBytes) : core.RegionLaid := by
  have bounds := checkpointContainerBytes_bounds laid.totalSlots_small
  rw [← sized] at bounds
  refine ⟨?_, by omega, bounds.2⟩
  rw [sized]
  exact roundUp_mod _

variable {config : StoreConfig} {session : Session}

theorem FreshOpen.regionLaid {media : Media} (opened : FreshOpen media config session) :
    session.core.RegionLaid :=
  opened.wellLaid.regionLaid opened.containerBytes

/-- The checkpoint file is there, with room for both containers. -/
structure Region (session : Session) (file : Bytes) : Prop where
  found : session.media.checkpoint session.core.config.root = some file
  long : session.core.containerBytes * CheckpointLayout.containerCount ≤ file.length

/-- The bytes of a container. -/
def containerIn (core : ObjectStoreCore) (file : Bytes) (index : Nat) : Bytes :=
  loadAt file (index * core.containerBytes) core.containerBytes

section Containers

variable {session : Session} {file : Bytes} {index : Nat}

theorem RegionLaid.offset_eq (laid : core.RegionLaid) (valid : index < containerCount) :
    checkpointContainerOffset index core.containerBytes = index * core.containerBytes := by
  have small := laid.small
  have within : index * core.containerBytes ≤
      core.containerBytes * containerCount := by
    rw [mul_comm]
    exact Nat.mul_le_mul_left _ valid.le
  exact Nat.mod_eq_of_lt (lt_of_le_of_lt within small)

theorem RegionLaid.offset_aligned (laid : core.RegionLaid) (index : Nat) :
    index * core.containerBytes % alignment = 0 := by
  rw [Nat.mul_mod, laid.aligned, Nat.mul_zero, Nat.zero_mod]

variable (laid : session.core.RegionLaid) (region : Region session file)
  (valid : index < containerCount)
include region valid

theorem Region.container_le :
    index * session.core.containerBytes + session.core.containerBytes ≤ file.length := by
  calc index * session.core.containerBytes + session.core.containerBytes
      = (index + 1) * session.core.containerBytes := by rw [Nat.succ_mul]
    _ ≤ containerCount * session.core.containerBytes :=
        Nat.mul_le_mul_right _ valid
    _ ≤ file.length := by
        rw [mul_comm]
        exact region.long

include laid in
/-- Containers are read where they are. -/
theorem readContainer_eq :
    readContainer session index =
      (decodeCheckpoint (session.core.containerIn file index)).toOption := by
  have positive : session.core.containerBytes ≠ 0 := by
    have header := laid.header_le
    rw [containerHeaderBytes] at header
    omega
  have full : (loadAt file (index * session.core.containerBytes)
      session.core.containerBytes).length = session.core.containerBytes := by
    have fits := region.container_le valid
    simp only [loadAt, length_take, length_drop]
    omega
  unfold readContainer readCheckpointContainer
  rw [laid.offset_eq valid, if_neg, region.found, Option.map_some, padTo_of_le full.ge]
  · rfl
  rintro (zero | unaligned | misplaced)
  · exact positive zero
  · exact unaligned laid.aligned
  · exact misplaced (laid.offset_aligned index)

/-- The checkpoint file after one container was overwritten. -/
def overwritten (core : ObjectStoreCore) (file : Bytes) (index : Nat) (bytes : Bytes) : Bytes :=
  storeAt file (index * core.containerBytes) bytes

variable {bytes : Bytes}

theorem Region.overwritten (full : bytes.length = session.core.containerBytes) :
    (session.core.overwritten file index bytes).length = file.length := by
  have fits := region.container_le valid
  rw [← full] at fits
  exact length_storeAt (by rw [full] at fits ⊢; exact fits)

/-- Only the container that was overwritten changes. -/
theorem containerIn_overwritten (full : bytes.length = session.core.containerBytes) {query : Nat} :
    session.core.containerIn (session.core.overwritten file index bytes) query =
      if query = index then bytes else session.core.containerIn file query := by
  have fits : index * session.core.containerBytes + bytes.length ≤ file.length := by
    rw [full]
    exact region.container_le valid
  split
  · rename_i same
    subst same
    exact loadAt_storeAt_self fits full
  rename_i different
  refine loadAt_storeAt_of_disjoint fits ?_
  rw [full]
  have apart : ∀ {low high : Nat}, low < high →
      low * session.core.containerBytes + session.core.containerBytes ≤
        high * session.core.containerBytes := by
    intro low high below
    rw [← Nat.succ_mul]
    exact Nat.mul_le_mul_right _ below
  rcases lt_or_gt_of_ne different with below | above
  · exact .inl (apart below)
  · exact .inr (apart above)

/-- The bytes that a write leaves in its container. -/
def leftBy (core : ObjectStoreCore) (image : Bytes) : WriteOutcome → Bytes
  | .done => image
  | .failed _ left => padTo core.containerBytes (left.take core.containerBytes)

variable {image : Bytes}

omit region valid in
theorem length_leftBy (full : image.length = core.containerBytes) (outcome : WriteOutcome) :
    (core.leftBy image outcome).length = core.containerBytes := by
  cases outcome with
  | done => exact full
  | failed error left => exact length_padTo (length_take_le _ _)

include laid in
/-- Writing a container overwrites it, whatever becomes of the write. -/
theorem writeCheckpointContainer_eq (full : image.length = session.core.containerBytes)
    (outcome : WriteOutcome) :
    (writeCheckpointContainer session.media session.core.config.root
      (checkpointContainerOffset index session.core.containerBytes) image outcome).2 =
        session.media.setCheckpoint session.core.config.root
          (session.core.overwritten file index (session.core.leftBy image outcome)) ∧
    ((writeCheckpointContainer session.media session.core.config.root
      (checkpointContainerOffset index session.core.containerBytes) image outcome).1 = .ok () ↔
        outcome = .done) := by
  have header := laid.header_le
  have nonempty : image ≠ [] := by
    rintro rfl
    rw [← full] at header
    exact absurd header (by decide)
  have whole : padTo (index * session.core.containerBytes + image.length) file = file := by
    refine padTo_of_le ?_
    rw [full]
    exact region.container_le valid
  unfold writeCheckpointContainer
  rw [laid.offset_eq valid, if_neg, if_neg (fun misplaced => misplaced (laid.offset_aligned index)),
    region.found]
  · dsimp only
    rw [whole, full]
    cases outcome with
    | done => exact ⟨rfl, iff_of_true rfl rfl⟩
    | failed error left => exact ⟨rfl, iff_of_false nofun nofun⟩
  · rintro (empty | unaligned)
    · exact nonempty empty
    · rw [full] at unaligned
      exact unaligned laid.aligned

/-! ## Persisting -/

omit region valid

/-- The sequence number found in a container, zero where it cannot be read. -/
def sequenceIn (session : Session) (index : Nat) : Nat :=
  ((readContainer session index).map Prod.fst).getD 0

theorem containerSequences_eq (session : Session) :
    containerSequences session = [sequenceIn session 0, sequenceIn session 1] := rfl

/-- The container that the next checkpoint overwrites. -/
def nextContainer (session : Session) : Nat := nextCheckpointContainer (containerSequences session)

theorem nextContainer_lt (session : Session) :
    nextContainer session < containerCount := by
  rw [nextContainer, containerSequences_eq, nextCheckpointContainer_pair]
  split_ifs <;> decide

/-- The image that the next checkpoint writes. -/
def nextImage (session : Session) : Bytes :=
  encodeCheckpoint session.core.checkpointEntries (nextSequence session)

/-- The media after the next checkpoint was written. -/
def persistedMedia (session : Session) (file : Bytes) (outcome : WriteOutcome) : Media :=
  session.media.setCheckpoint session.core.config.root
    (session.core.overwritten file (nextContainer session)
      (session.core.leftBy (padTo session.core.containerBytes (nextImage session)) outcome))

include laid region

/-- What `persist_checkpoint_locked` does: nothing if the image is too large,
else it overwrites the next container. -/
theorem persistCheckpoint_cases (outcome : WriteOutcome) :
    (session.core.containerBytes < (nextImage session).length ∧
      persistCheckpoint session outcome =
        (.error ⟨.internal, "checkpoint image exceeds its container"⟩, session)) ∨
    (nextImage session).length ≤ session.core.containerBytes ∧
      (outcome = .done ∧ persistCheckpoint session outcome = (.ok (), ⟨{ session.core with
          checkpointSeq := nextSequence session
          checkpointDirty := false }, persistedMedia session file outcome⟩) ∨
        outcome ≠ .done ∧ ∃ error, persistCheckpoint session outcome =
          (.error error, ⟨session.core, persistedMedia session file outcome⟩)) := by
  by_cases large : session.core.containerBytes < (nextImage session).length
  · refine .inl ⟨large, ?_⟩
    unfold nextImage at large
    rw [persistCheckpoint, if_pos large]
  refine .inr ⟨not_lt.mp large, ?_⟩
  have full : (padTo session.core.containerBytes (nextImage session)).length =
      session.core.containerBytes := length_padTo (not_lt.mp large)
  obtain ⟨media, status⟩ :=
    writeCheckpointContainer_eq laid region (nextContainer_lt session) full outcome
  rw [persistedMedia, ← media]
  unfold nextImage nextContainer at *
  rw [persistCheckpoint, if_neg large]
  generalize writeCheckpointContainer _ _ _ _ _ = written at status
  obtain ⟨result, left⟩ := written
  cases result with
  | ok done => exact .inl ⟨status.mp rfl, rfl⟩
  | error error =>
    refine .inr ⟨fun done => ?_, error, rfl⟩
    have ok := status.mpr done
    cases ok

/-- The region stays in place, whatever becomes of a checkpoint. -/
theorem Region.persistCheckpoint (outcome : WriteOutcome) :
    ∃ next, Region (ObjectStoreCore.persistCheckpoint session outcome).2 next := by
  have written : ∀ core : ObjectStoreCore, core.config = session.core.config →
      core.containerBytes = session.core.containerBytes →
      (nextImage session).length ≤ session.core.containerBytes →
      ∃ next, Region ⟨core, persistedMedia session file outcome⟩ next := by
    intro core config size fits
    refine ⟨session.core.overwritten file (nextContainer session) (session.core.leftBy
      (padTo session.core.containerBytes (nextImage session)) outcome), ?_, ?_⟩
    · dsimp only [persistedMedia, Media.setCheckpoint]
      rw [config, Function.update_self]
    rw [size, region.overwritten (nextContainer_lt session)
      (length_leftBy (length_padTo fits) outcome)]
    exact region.long
  rcases persistCheckpoint_cases laid region outcome with
    ⟨_, same⟩ | ⟨fits, ⟨_, same⟩ | ⟨_, _, same⟩⟩
  · rw [same]
    exact ⟨file, region⟩
  · rw [same]
    exact written _ rfl rfl fits
  · rw [same]
    exact written _ rfl rfl fits

end Containers

/-! ## The region of a session -/

/-- A writer has its checkpoint region on the media. -/
structure Mirrored (session : Session) : Prop where
  laid : session.core.RegionLaid
  sound : session.core.allocator.Sound
  region : session.core.config.readOnly = false → ∃ file, Region session file

variable {session next : Session}

/-- A step that leaves the checkpoint file alone. -/
theorem Mirrored.of_same (mirrored : Mirrored session)
    (same : SameStore session.core next.core) (sound : next.core.allocator.Sound)
    (kept : next.media.checkpoint = session.media.checkpoint) : Mirrored next := by
  refine ⟨mirrored.laid.congr same.containerBytes, sound, fun writer => ?_⟩
  rw [same.config] at writer
  obtain ⟨file, region⟩ := mirrored.region writer
  refine ⟨file, ?_, ?_⟩
  · rw [kept, same.config]
    exact region.found
  · rw [same.containerBytes]
    exact region.long

theorem zeroSlots_frame (core : ObjectStoreCore) (zeroing : Nat → ZeroOutcome)
    (slots : List Nat) (media : Media) :
    (zeroSlots core zeroing slots media).2.2.checkpoint = media.checkpoint ∧
      (zeroSlots core zeroing slots media).2.2.residency = media.residency := by
  refine @zeroSlots_induct core zeroing slots media
    (fun reached => reached.checkpoint = media.checkpoint ∧ reached.residency = media.residency)
    (fun slot _ zeroed kept => ?_) ⟨rfl, rfl⟩
  unfold zeroFileRange
  split
  · exact kept
  split
  · exact kept
  · exact kept

variable {slips drains : Bool}

/-- Only `checkpoint` touches the checkpoint file. -/
theorem Move.checkpoint_kept
    (move : Move slips drains session next) :
    next.media.checkpoint = session.media.checkpoint ∨
      ∃ outcome, next = (ObjectStoreCore.checkpoint session outcome).2 := by
  cases move with
  | grant _ _ _ _ _ | refuse _ | spoil _ _ _ _ | abort _ _ | pins _ => exact .inl rfl
  | commit _ _ | record _ _ _ | release _ _ _ => exact .inl (sameFiles_write _ _ _ _).checkpoint
  | drainReclaim _ max zeroing => exact .inl (zeroSlots_frame _ _ _ _).1
  | precreateStep headroom faults => exact .inl (built_precreateStep _ headroom faults).frame.1
  | checkpoint outcome => exact .inr ⟨outcome, rfl⟩

theorem Move.mirrored
    (move : Move slips drains session next) (mirrored : Mirrored session) : Mirrored next := by
  rcases move.checkpoint_kept with kept | ⟨outcome, rfl⟩
  · exact mirrored.of_same move.sameStore (move.sound mirrored.sound) kept
  refine ⟨mirrored.laid.congr move.sameStore.containerBytes, move.sound mirrored.sound,
    fun writer => ?_⟩
  rw [move.sameStore.config] at writer
  obtain ⟨file, region⟩ := mirrored.region writer
  rw [ObjectStoreCore.checkpoint, if_neg (Bool.eq_false_iff.mp writer)]
  split
  · exact ⟨file, region⟩
  · exact region.persistCheckpoint mirrored.laid outcome

theorem Mirrored.run (mirrored : Mirrored session) (operations : List StoreOp) :
    Mirrored (runFrom step session operations) :=
  run_keep (motive := Mirrored) (fun _ holds => holds.sound) (fun _ _ move => move.mirrored)
    mirrored operations

/-! ## The region after open -/

variable {faults : OpenFaults}

/-- `open` makes sure that a writer has its region; a region that is there stays
as it is. -/
theorem ensureCheckpoint_region (laid : next.core.RegionLaid)
    (ok : ensureCheckpoint session faults = (.ok (), next)) :
    (session.core.config.readOnly = true ∧ next.media = session.media) ∨
      session.core.config.readOnly = false ∧ (∃ file, Region next file) ∧
        ∀ file, Region ⟨next.core, session.media⟩ file → next.media = session.media := by
  obtain ⟨core, _⟩ := ensureCheckpoint_ok ok
  have small := laid.small
  rw [core] at small
  unfold ensureCheckpoint at ok
  dsimp only at ok small
  split at ok
  · rename_i reader
    cases ok
    exact .inl ⟨reader, rfl⟩
  rename_i writer
  refine .inr ⟨Bool.eq_false_iff.mpr writer, ?_⟩
  rw [Nat.mod_eq_of_lt small] at ok
  unfold ensureMetadataFile at ok
  split at ok
  · cases ok
  rename_i valid
  split at ok
  · cases ok
  split at ok
  · rename_i long
    cases ok
    refine ⟨?_, fun _ _ => rfl⟩
    cases found : session.media.checkpoint session.core.config.root with
    | none =>
      rw [found, Option.getD_none, length_nil, Nat.le_zero] at long
      exact (valid (.inl long)).elim
    | some file =>
      rw [found] at long
      exact ⟨file, found, long⟩
  · rename_i short
    cases ok
    refine ⟨⟨_, Function.update_self _ _ _, ?_⟩, fun file region => ?_⟩
    · exact (length_replicate).ge
    have found := region.found
    have long := region.long
    rw [found] at short
    exact (short long).elim

/-- The checkpoint file that `open` leaves is the one it loaded. -/
theorem Stages.checkpoint_kept {reached checked adopted mapped : Session}
    {allocator : SpaceAllocator}
    (stages : Stages session config faults allocator checked adopted mapped reached) :
    reached.media.checkpoint = checked.media.checkpoint := by
  obtain ⟨_, _, _, _, built⟩ := adoptMedia_ok stages.adopt
  obtain ⟨_, _, _, same⟩ := mapResidency_ok stages.residency
  rw [stages.reached]
  exact same.checkpoint.trans (built.frame.1.trans (sameFiles_loadCheckpoint checked).checkpoint)

/-- A new store that was opened has its region. -/
theorem mirrored_of_open {media : Media}
    (ok : openStore ⟨fresh, media⟩ config faults = (.ok (), session)) :
    Mirrored session := by
  have opened := freshOpen ok
  obtain ⟨allocator, checked, adopted, mapped, stages⟩ := openStore_ok rfl ok
  obtain ⟨core, _⟩ := ensureCheckpoint_ok stages.checkpoint
  have sized : checked.core.containerBytes = session.core.containerBytes := by
    obtain ⟨_, geometry, totalSlots⟩ := opened.geometry
    rw [opened.containerBytes, totalSlots, core]
    have same := geometry.configured
    rw [stages.geometry.configured] at same
    cases same
    rfl
  refine ⟨opened.regionLaid, opened.sound, fun writer => ?_⟩
  rw [opened.config_eq] at writer
  rcases ensureCheckpoint_region (opened.regionLaid.congr sized) stages.checkpoint with
    ⟨reader, _⟩ | ⟨_, ⟨file, region⟩, _⟩
  · have reader : config.readOnly = true := reader
    rw [writer] at reader
    cases reader
  refine ⟨file, ?_, ?_⟩
  · rw [stages.checkpoint_kept, opened.config_eq]
    have found := region.found
    rw [core] at found
    exact found
  · rw [← sized]
    exact region.long

end ObjectStoreCore

end Tutti
