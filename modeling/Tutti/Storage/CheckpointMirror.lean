import Tutti.Foundation.Mirror
import Tutti.Storage.CheckpointFile

/-!
# Crash atomicity of the checkpoint

The two containers are mirrored cells. A checkpoint overwrites the next cell with
a larger sequence number; a write that fails, or that a crash cuts short, leaves
its cell unreadable or complete. A new object therefore always loads the body of
the last checkpoint whose image is complete, as long as the 64-bit sequence
numbers do not wrap.
-/

namespace Tutti

open Foundation CheckpointLayout List
open OrderedDict hiding keys

namespace ObjectStoreCore

/-! ## The containers as mirrored cells -/

/-- What can be read of the two containers. -/
def mirrorOf (session : Session) : Mirror (List CheckpointEntry) :=
  ⟨readContainer session 0, readContainer session 1⟩

/-- What `load_checkpoint_locked` selects. -/
def selected (session : Session) : Option (Nat × List CheckpointEntry) :=
  (selectCheckpointContainer (containerSequences session)).bind (readContainer session)

variable (session : Session)

theorem selected_eq_newest : selected session = (mirrorOf session).newest := by
  rw [selected, containerSequences_eq, selectCheckpointContainer_pair]
  unfold Mirror.newest mirrorOf
  change (if Mirror.number (readContainer session 1) = 0 then
      if Mirror.number (readContainer session 0) = 0 then none else some 0
    else if Mirror.number (readContainer session 0) < Mirror.number (readContainer session 1) then
      some 1 else some 0).bind (readContainer session) = _
  split
  · split <;> rfl
  · split <;> rfl

theorem nextContainer_eq :
    nextContainer session = if (mirrorOf session).nextIsSecond = true then 1 else 0 := by
  rw [nextContainer, containerSequences_eq, nextCheckpointContainer_pair]
  unfold Mirror.nextIsSecond mirrorOf
  change (if Mirror.number (readContainer session 0) = 0 then 0
    else if Mirror.number (readContainer session 1) = 0 then 1
    else if Mirror.number (readContainer session 1) < Mirror.number (readContainer session 0) then 1
    else 0) = _
  split
  · rfl
  split
  · rfl
  · simp

/-- The highest sequence number that the store knows of. -/
def highestSequence (session : Session) : Nat :=
  max session.core.checkpointSeq
    (max (Mirror.number (mirrorOf session).first) (Mirror.number (mirrorOf session).second))

theorem nextSequence_eq :
    nextSequence session = (highestSequence session + 1) % uint64Size := by
  rfl

/-- Which store reads the containers does not matter. -/
theorem mirrorOf_congr {session other : Session}
    (root : other.core.config.root = session.core.config.root)
    (size : other.core.containerBytes = session.core.containerBytes)
    (file : other.media.checkpoint = session.media.checkpoint) :
    mirrorOf other = mirrorOf session := by
  unfold mirrorOf readContainer readCheckpointContainer
  rw [root, size, file]

variable {core : ObjectStoreCore}

/-- A checkpoint overwrites the next cell with what its write left there. -/
theorem mirrorOf_persisted {session : Session} {file : Bytes} (laid : session.core.RegionLaid)
    (region : Region session file) (fits : (nextImage session).length ≤ session.core.containerBytes)
    (outcome : WriteOutcome) (root : core.config.root = session.core.config.root)
    (size : core.containerBytes = session.core.containerBytes) :
    mirrorOf ⟨core, persistedMedia session file outcome⟩ =
      (mirrorOf session).overwrite (decodeCheckpoint (session.core.leftBy
        (padTo session.core.containerBytes (nextImage session)) outcome)).toOption := by
  have full := length_leftBy (length_padTo fits) outcome
  unfold persistedMedia
  generalize session.core.leftBy (padTo session.core.containerBytes (nextImage session)) outcome =
    left at full ⊢
  set next := session.core.overwritten file (nextContainer session) left
  set media := session.media.setCheckpoint session.core.config.root next
  have region' : Region ⟨core, media⟩ next := by
    refine ⟨?_, ?_⟩
    · dsimp only [media, Media.setCheckpoint]
      rw [root, Function.update_self]
    · rw [region.overwritten (nextContainer_lt session) full, size]
      exact region.long
  have read : ∀ query < containerCount, readContainer ⟨core, media⟩ query =
      if query = nextContainer session then (decodeCheckpoint left).toOption
      else readContainer session query := by
    intro query valid
    have here : core.containerIn = session.core.containerIn := by
      unfold containerIn
      rw [size]
    rw [readContainer_eq (laid.congr size) region' valid, here,
      containerIn_overwritten region (nextContainer_lt session) full]
    split
    · rfl
    · rw [readContainer_eq laid region valid]
  unfold mirrorOf
  rw [read 0 (by decide), read 1 (by decide), nextContainer_eq]
  change _ = if (mirrorOf session).nextIsSecond = true then _ else _
  cases (mirrorOf session).nextIsSecond with
  | true => rfl
  | false => rfl

/-! ## What the store writes -/

/-- An entry of the index as the store makes it: `reserve` admits the key, and
the numbers are 64 bits wide. -/
structure Storable (key : ObjectKey) (entry : Entry) : Prop where
  nonempty : key ≠ []
  short : key.length ≤ maxKeyBytes
  slot_lt : entry.slot < uint64Size
  generation_lt : entry.generation < uint64Size
  commitSeq_lt : entry.commitSeq < uint64Size

/-- The index can be written in a checkpoint. -/
structure Snapshot (index : OrderedDict ObjectKey Entry) : Prop where
  storable : ∀ key entry, index.get? key = some entry → Storable key entry
  few : index.size * alignment < uint64Size

variable {stored : CheckpointEntry}

theorem mem_checkpointEntries :
    stored ∈ core.checkpointEntries ↔ ∃ entry, core.Holds stored.key entry ∧
      stored = ⟨stored.key, entry.slot, core.config.layout.payloadBytes, entry.generation,
        entry.commitSeq⟩ := by
  unfold checkpointEntries
  rw [mem_map]
  constructor
  · rintro ⟨⟨key, entry⟩, member, rfl⟩
    obtain ⟨among, committed⟩ := mem_filter.mp member
    exact ⟨entry, ⟨get?_eq_some_iff.mpr among, committed⟩, rfl⟩
  · rintro ⟨entry, ⟨present, committed⟩, same⟩
    refine ⟨(stored.key, entry), ?_, same.symm⟩
    exact mem_filter.mpr ⟨get?_eq_some_iff.mp present, committed⟩

theorem Snapshot.encodable (snapshot : Snapshot core.index)
    (member : stored ∈ core.checkpointEntries) : stored.Encodable := by
  obtain ⟨entry, holds, same⟩ := mem_checkpointEntries.mp member
  have storable := snapshot.storable _ entry holds.1
  rw [same]
  exact {
    key_ne := storable.nonempty
    key_lt := lt_of_le_of_lt storable.short (by decide)
    slot_lt := storable.slot_lt
    payloadBytes_lt := Nat.mod_lt _ (by decide)
    generation_lt := storable.generation_lt
    commitSeq_lt := storable.commitSeq_lt }

theorem length_flatMap_encodeEntry_le {entries : List CheckpointEntry}
    (short : ∀ entry ∈ entries, entry.key.length ≤ maxKeyBytes) :
    (entries.flatMap encodeEntry).length ≤ entries.length * (entryFixedBytes + maxKeyBytes) := by
  induction entries with
  | nil => exact le_refl 0
  | cons entry entries ih =>
    have here := short entry (.head _)
    have later := ih fun other member => short other (mem_cons_of_mem entry member)
    rw [flatMap_cons, length_append, length_encodeEntry, length_cons, Nat.succ_mul]
    omega

/-- The body of a checkpoint is bounded by the number of keys. -/
theorem Snapshot.length_encodeBody (snapshot : Snapshot core.index) :
    (encodeBody core.checkpointEntries).length ≤
      entryCountBytes + core.index.size * (entryFixedBytes + maxKeyBytes) := by
  have short : ∀ entry ∈ core.checkpointEntries, entry.key.length ≤ maxKeyBytes := by
    intro stored member
    obtain ⟨entry, holds, _⟩ := mem_checkpointEntries.mp member
    exact (snapshot.storable _ entry holds.1).short
  have count : core.checkpointEntries.length ≤ core.index.size := by
    rw [checkpointEntries, length_map, size, OrderedDict.keys, length_map]
    exact length_filter_le _ _
  have body := length_flatMap_encodeEntry_le short
  have scaled := Nat.mul_le_mul_right (entryFixedBytes + maxKeyBytes) count
  rw [encodeBody, length_append, length_littleEndian, entryCountBytes]
  omega

/-- The image of a snapshot does not overflow. -/
theorem Snapshot.small (snapshot : Snapshot core.index) :
    containerHeaderBytes + (encodeBody core.checkpointEntries).length + alignment < uint64Size := by
  have bound := snapshot.length_encodeBody
  have room := (checkpointContainerBytes_eq snapshot.few).2
  omega

/-- A complete image is read back as it was written. -/
theorem Snapshot.decode_image {session : Session} (snapshot : Snapshot session.core.index) :
    decodeCheckpoint (padTo session.core.containerBytes (nextImage session)) =
      .ok (nextSequence session, session.core.checkpointEntries) := by
  refine decodeCheckpoint_encodeCheckpoint snapshot.small
    (fun _ member => snapshot.encodable member) ?_ _
  exact Nat.mod_lt _ (by decide)

/-! ## Restarts -/

/-- Loading a checkpoint takes over its sequence number. -/
theorem loadCheckpoint_frame :
    ∃ index slotOwner recovery commitSeq allocator, (loadCheckpoint session).core =
      { session.core with
        index
        slotOwner
        recovery
        commitSeq
        allocator
        checkpointSeq := ((selected session).map Prod.fst).getD session.core.checkpointSeq } := by
  unfold loadCheckpoint
  rw [← selected]
  cases selected session with
  | none => exact ⟨_, _, _, _, _, rfl⟩
  | some found =>
    obtain ⟨sequence, entries⟩ := found
    obtain ⟨index, slotOwner, recovery, frame⟩ := recoverEntries_frame session.media entries [] 0
      { session.core with
        checkpointSeq := sequence
        recovery := { checkpointAvailable := true, checkpointEntries := entries.length } }
    dsimp only [adoptCheckpoint]
    rw [frame]
    exact ⟨_, _, _, _, _, rfl⟩

/-- A new object of the same configuration when it turns to the checkpoint. -/
def renewed (core : ObjectStoreCore) : ObjectStoreCore :=
  { fresh.withGeometry core.config
      ((SpaceAllocator.unconfigured.configure (capacityOf core.config (slotSize core.config))
        (slotSize core.config)).getD .unconfigured) with
    containerBytes := core.containerBytes }

/-- The object is gone, and a new one loads the checkpoint. -/
def restarted (session : Session) : Session :=
  loadCheckpoint ⟨session.core.renewed, session.media⟩

/-- A store, and the body of the last checkpoint whose image is complete. -/
structure Ledger where
  session : Session
  landed : Option (List CheckpointEntry)

/-- A checkpoint of any index that the store can hold, or a restart. -/
inductive MirrorOp where
  | checkpoint (index : OrderedDict ObjectKey Entry) (snapshot : Snapshot index)
      (outcome : WriteOutcome)
  | restart

/-- The store with the index it is to write. -/
def holding (session : Session) (index : OrderedDict ObjectKey Entry) : Session :=
  ⟨{ session.core with index }, session.media⟩

/-- The bytes that the next checkpoint leaves in its container. -/
def writtenBytes (session : Session) (outcome : WriteOutcome) : Bytes :=
  session.core.leftBy (padTo session.core.containerBytes (nextImage session)) outcome

/-- The next checkpoint leaves its complete image. -/
def Completes (session : Session) (outcome : WriteOutcome) : Prop :=
  (nextImage session).length ≤ session.core.containerBytes ∧
    writtenBytes session outcome = padTo session.core.containerBytes (nextImage session)
  deriving Decidable

def Ledger.step (ledger : Ledger) : MirrorOp → Ledger
  | .checkpoint index _ outcome =>
    ⟨(persistCheckpoint (holding ledger.session index) outcome).2,
      if Completes (holding ledger.session index) outcome then
        some (holding ledger.session index).core.checkpointEntries
      else ledger.landed⟩
  | .restart => ⟨restarted ledger.session, ledger.landed⟩

/-- A write that is cut short leaves bytes that are rejected, or the complete
image. -/
def Ledger.Tame (ledger : Ledger) : MirrorOp → Prop
  | .checkpoint index _ outcome =>
    (decodeCheckpoint (writtenBytes (holding ledger.session index) outcome)).toOption = none ∨
      writtenBytes (holding ledger.session index) outcome =
        padTo ledger.session.core.containerBytes (nextImage (holding ledger.session index))
  | .restart => True

/-- A new object selects the last complete checkpoint, and the sequence numbers
of two readable containers are different. -/
structure Ledger.Atomic (ledger : Ledger) : Prop where
  selects : (selected ledger.session).map Prod.snd = ledger.landed
  distinct : ∀ first second, readContainer ledger.session 0 = some first →
    readContainer ledger.session 1 = some second → first.1 ≠ second.1

def MirrorOp.writes : MirrorOp → Bool
  | .checkpoint _ _ _ => true
  | .restart => false

/-- What holds after a number of checkpoints. -/
structure Mirroring (session : Session) (landed : Option (List CheckpointEntry)) (count : Nat) :
    Prop where
  laid : session.core.RegionLaid
  region : ∃ file, Region session file
  tracks : (mirrorOf session).Tracks landed count
  memory : session.core.checkpointSeq ≤ count

section Mirroring

variable {session : Session} {landed : Option (List CheckpointEntry)} {count : Nat}

section

variable (mirroring : Mirroring session landed count)
include mirroring

theorem Mirroring.atomic :
    Ledger.Atomic ⟨session, landed⟩ := by
  refine ⟨?_, ?_⟩
  · rw [selected_eq_newest]
    exact mirroring.tracks.newest_eq
  intro first second readable readable' same
  have different := mirroring.tracks.distinct
  dsimp only [mirrorOf] at different readable readable'
  rw [readable, readable'] at different
  exact different rfl rfl same

theorem Mirroring.highest_le :
    highestSequence session ≤ count :=
  max_le mirroring.memory (max_le mirroring.tracks.first_le mirroring.tracks.second_le)

/-- While numbers are left, the next one is above all that are known. -/
theorem Mirroring.nextSequence (room : count + 1 < uint64Size) :
    ObjectStoreCore.nextSequence session = highestSequence session + 1 := by
  have highest := mirroring.highest_le
  rw [nextSequence_eq]
  exact Nat.mod_eq_of_lt (by omega)

/-- What the store holds besides does not matter. -/
theorem Mirroring.holding (index : OrderedDict ObjectKey Entry) :
    Mirroring (ObjectStoreCore.holding session index) landed count :=
  ⟨{ mirroring.laid with },
    mirroring.region.imp fun _ region => ⟨region.found, region.long⟩, mirroring.tracks,
    mirroring.memory⟩

omit mirroring in
/-- What a checkpoint makes of the containers and of the number in memory. -/
theorem persistCheckpoint_mirror {file : Bytes} (laid : session.core.RegionLaid)
    (region : Region session file) (outcome : WriteOutcome) :
    (persistCheckpoint session outcome).2.core.RegionLaid ∧
      mirrorOf (persistCheckpoint session outcome).2 =
        (if (nextImage session).length ≤ session.core.containerBytes then
          (mirrorOf session).overwrite (decodeCheckpoint (writtenBytes session outcome)).toOption
        else mirrorOf session) ∧
      (persistCheckpoint session outcome).2.core.checkpointSeq =
        if (nextImage session).length ≤ session.core.containerBytes ∧ outcome = .done then
          nextSequence session
        else session.core.checkpointSeq := by
  rcases persistCheckpoint_cases laid region outcome with
    ⟨large, same⟩ | ⟨fits, ⟨done, same⟩ | ⟨failed, _, same⟩⟩
  · rw [same, if_neg (not_le.mpr large), if_neg fun both => not_le.mpr large both.1]
    exact ⟨laid, rfl, rfl⟩
  · rw [same, if_pos fits, if_pos ⟨fits, done⟩]
    exact ⟨{ laid with },
      mirrorOf_persisted laid region fits outcome rfl rfl, rfl⟩
  · rw [same, if_pos fits, if_neg fun both => failed both.2]
    exact ⟨laid, mirrorOf_persisted laid region fits outcome rfl rfl, rfl⟩

/-- A checkpoint keeps the mirror as long as its number does not wrap. -/
theorem Mirroring.persist (room : count + 1 < uint64Size) (snapshot : Snapshot session.core.index)
    {outcome : WriteOutcome}
    (tame : (decodeCheckpoint (writtenBytes session outcome)).toOption = none ∨
      writtenBytes session outcome = padTo session.core.containerBytes (nextImage session)) :
    Mirroring (persistCheckpoint session outcome).2
      (if Completes session outcome then some session.core.checkpointEntries else landed)
      (count + 1) := by
  have highest := mirroring.highest_le
  have next := mirroring.nextSequence room
  have remembered := mirroring.memory
  obtain ⟨file, region⟩ := mirroring.region
  obtain ⟨laid, mirror, memory⟩ := persistCheckpoint_mirror mirroring.laid region outcome
  refine ⟨laid, region.persistCheckpoint mirroring.laid outcome, ?_, ?_⟩
  · rw [mirror]
    by_cases fits : (nextImage session).length ≤ session.core.containerBytes
    · rw [if_pos fits]
      by_cases complete : writtenBytes session outcome =
          padTo session.core.containerBytes (nextImage session)
      · -- The complete image is the newest.
        rw [if_pos ⟨fits, complete⟩, complete, snapshot.decode_image, next]
        have bounded : (mirrorOf session).Tracks landed (highestSequence session) :=
          { mirroring.tracks with
            first_le := le_trans (le_max_left _ _) (le_max_right _ _)
            second_le := le_trans (le_max_right _ _) (le_max_right _ _) }
        have landed := bounded.land session.core.checkpointEntries (Nat.lt_succ_self _)
        exact landed.mono (Nat.succ_le_succ highest)
      · have rejected := tame.resolve_right complete
        rw [if_neg fun both => complete both.2, rejected]
        exact mirroring.tracks.tear.mono (Nat.le_succ count)
    · rw [if_neg fits, if_neg fun both => fits both.1]
      exact mirroring.tracks.mono (Nat.le_succ count)
  · rw [memory]
    split
    · omega
    · omega

/-- A restart finds what is on the media. -/
theorem Mirroring.restarted :
    Mirroring (ObjectStoreCore.restarted session) landed count := by
  obtain ⟨_, _, _, _, _, frame⟩ := loadCheckpoint_frame ⟨session.core.renewed, session.media⟩
  have files := sameFiles_loadCheckpoint ⟨session.core.renewed, session.media⟩
  have root : (ObjectStoreCore.restarted session).core.config.root = session.core.config.root := by
    rw [ObjectStoreCore.restarted, frame]
    rfl
  have size : (ObjectStoreCore.restarted session).core.containerBytes =
      session.core.containerBytes := by
    rw [ObjectStoreCore.restarted, frame]
    rfl
  obtain ⟨file, region⟩ := mirroring.region
  refine ⟨mirroring.laid.congr size, ⟨file, ?_, ?_⟩, ?_, ?_⟩
  · rw [root]
    exact (congrFun files.checkpoint _).trans region.found
  · rw [size]
    exact region.long
  · rw [mirrorOf_congr root size files.checkpoint]
    exact mirroring.tracks
  rw [ObjectStoreCore.restarted, frame]
  rw [selected_eq_newest]
  exact mirroring.tracks.number_newest_le

end

end Mirroring

variable {ledger : Ledger} {count : Nat}

/-- One step of the history, of which the checkpoints are counted. -/
theorem Ledger.mirroring_step (mirroring : Mirroring ledger.session ledger.landed count)
    {operation : MirrorOp} (room : count + (if operation.writes then 1 else 0) < uint64Size)
    (tame : ledger.Tame operation) :
    Mirroring (ledger.step operation).session (ledger.step operation).landed
      (count + if operation.writes then 1 else 0) := by
  cases operation with
  | checkpoint index snapshot outcome =>
    exact (mirroring.holding index).persist room snapshot tame
  | restart => exact mirroring.restarted

/-- The whole history, while numbers are left for its checkpoints. -/
theorem Ledger.atomic_run (mirroring : Mirroring ledger.session ledger.landed count)
    {operations : List MirrorOp} (few : count + operations.countP MirrorOp.writes < uint64Size)
    (tame : Along Ledger.step Ledger.Tame ledger operations) :
    Always Ledger.step Ledger.Atomic ledger operations := by
  induction operations generalizing ledger count with
  | nil => exact mirroring.atomic
  | cons operation operations ih =>
    rw [countP_cons] at few
    have next := Ledger.mirroring_step mirroring (by omega) tame.1
    refine ⟨mirroring.atomic, ih next ?_ tame.2⟩
    omega

/-! ## The last complete checkpoint -/

/-- A store that opened on two empty containers mirrors nothing. -/
theorem mirroring_of_open {media : Media} {config : StoreConfig} {faults : OpenFaults}
    {session : Session} (ok : openStore ⟨fresh, media⟩ config faults = (.ok (), session))
    (writer : config.readOnly = false)
    (empty : readContainer session 0 = none ∧ readContainer session 1 = none) :
    Mirroring session none 0 := by
  have opened := freshOpen ok
  have nothing : mirrorOf session = ⟨none, none⟩ := by
    rw [mirrorOf, empty.1, empty.2]
  have region := (mirrored_of_open ok).region (by rw [opened.config_eq]; exact writer)
  obtain ⟨allocator, checked, adopted, mapped, stages⟩ := openStore_ok rfl ok
  obtain ⟨core_checked, _⟩ := ensureCheckpoint_ok stages.checkpoint
  obtain ⟨_, _, adopted_core, _⟩ := adoptMedia_ok stages.adopt
  obtain ⟨_, _, mapped_core, _⟩ := mapResidency_ok stages.residency
  obtain ⟨_, _, _, _, _, frame⟩ := loadCheckpoint_frame checked
  have core_eq : session.core.config.root = checked.core.config.root ∧
      session.core.containerBytes = checked.core.containerBytes ∧
      session.core.checkpointSeq = ((selected checked).map Prod.fst).getD
        checked.core.checkpointSeq := by
    rw [stages.reached, mapped_core, adopted_core, frame]
    exact ⟨rfl, rfl, rfl⟩
  refine ⟨opened.regionLaid, region, ?_, ?_⟩
  · rw [nothing]
    exact Mirror.tracks_empty 0
  have same := mirrorOf_congr core_eq.1 core_eq.2.1 stages.checkpoint_kept
  rw [core_eq.2.2, selected_eq_newest, ← same, nothing, core_checked]
  exact le_rfl

/-- From two empty containers on, through any checkpoints and restarts, a new
object selects the body of the last checkpoint whose image is complete, and two
readable containers have different sequence numbers, as long as there are fewer
than 2^64 checkpoints. -/
theorem selects_last_complete {media : Media} {config : StoreConfig} {faults : OpenFaults}
    {session : Session} (ok : openStore ⟨fresh, media⟩ config faults = (.ok (), session))
    (writer : config.readOnly = false)
    (empty : readContainer session 0 = none ∧ readContainer session 1 = none)
    {operations : List MirrorOp} (tame : Along Ledger.step Ledger.Tame ⟨session, none⟩ operations)
    (few : operations.countP MirrorOp.writes < uint64Size) :
    Always Ledger.step Ledger.Atomic ⟨session, none⟩ operations := by
  refine Ledger.atomic_run (mirroring_of_open ok writer empty) ?_ tame
  rw [zero_add]
  exact few

/-! ## When the sequence numbers wrap -/

theorem snapshot_empty : Snapshot ∅ := ⟨nofun, by decide⟩

/-- An index with one committed key. -/
def oneKey : OrderedDict ObjectKey Entry :=
  (∅ : OrderedDict ObjectKey Entry).set [1] ⟨0, 0, 1, true⟩

theorem snapshot_oneKey : Snapshot oneKey := by
  refine ⟨fun key entry present => ?_, by decide⟩
  rw [oneKey, get?_set] at present
  split at present
  · rename_i same
    cases present
    rw [same]
    exact ⟨by decide, by decide, by decide, by decide, by decide⟩
  · cases present

theorem tame_done (ledger : Ledger) {index : OrderedDict ObjectKey Entry}
    (snapshot : Snapshot index) : ledger.Tame (.checkpoint index snapshot .done) := Or.inr rfl

theorem readContainer_pair (index : Nat) : readContainer pairSession index = none :=
  @readContainer_of_zeros pairSession 16384 rfl index

theorem selects_last_complete_pair :
    openStore ⟨fresh, .blank⟩ pairConfig {} = (.ok (), pairSession) ∧
      Always Ledger.step Ledger.Atomic ⟨pairSession, none⟩
        [.checkpoint ∅ snapshot_empty .done, .restart, .checkpoint oneKey snapshot_oneKey .done] :=
  ⟨openStore_pair, selects_last_complete openStore_pair rfl
    ⟨readContainer_pair 0, readContainer_pair 1⟩
    ⟨tame_done _ _, trivial, tame_done _ _, trivial⟩ (by decide)⟩

/-- A number of checkpoints of the empty index, and one more with a key. -/
def thenOneKey (count : Nat) : List MirrorOp :=
  replicate count (.checkpoint ∅ snapshot_empty .done) ++
    [.checkpoint oneKey snapshot_oneKey .done]

/-- Small images fit into a container of the pair. -/
theorem nextImage_le {session : Session} (size : session.core.containerBytes = 8192)
    (small : (encodeBody session.core.checkpointEntries).length ≤ 4096) :
    (nextImage session).length ≤ session.core.containerBytes := by
  have header : containerHeaderBytes = 4096 := rfl
  have block : alignment = 4096 := rfl
  have wide : uint64Size = 18446744073709551616 := rfl
  have room : containerHeaderBytes +
      (encodeBody session.core.checkpointEntries).length + alignment < uint64Size := by omega
  have rounded := roundUp_le (containerHeaderBytes +
    (encodeBody session.core.checkpointEntries).length)
  have whole := roundUp_mod (containerHeaderBytes +
    (encodeBody session.core.checkpointEntries).length)
  rw [nextImage, length_encodeCheckpoint room]
  rw [block] at rounded whole ⊢
  omega

/-- What is known after a number of checkpoints of the empty index. -/
structure Counted (ledger : Ledger) (count : Nat) : Prop where
  mirroring : Mirroring ledger.session ledger.landed count
  memory : ledger.session.core.checkpointSeq = count
  landed : 0 < count → ledger.landed = some []
  size : ledger.session.core.containerBytes = 8192

theorem Counted.next (counted : Counted ledger count) (room : count + 1 < uint64Size) :
    Counted (ledger.step (.checkpoint ∅ snapshot_empty .done)) (count + 1) := by
  have held := counted.mirroring.holding ∅
  have fits : (nextImage (holding ledger.session ∅)).length ≤
      (holding ledger.session ∅).core.containerBytes := by
    have nothing : (holding ledger.session ∅).core.checkpointEntries = [] := rfl
    refine nextImage_le counted.size ?_
    rw [nothing]
    decide
  obtain ⟨file, region⟩ := held.region
  obtain ⟨_, _, memory⟩ := persistCheckpoint_mirror held.laid region .done
  rcases persistCheckpoint_cases held.laid region .done with
    ⟨large, _⟩ | ⟨_, ⟨_, same⟩ | ⟨failed, _⟩⟩
  · omega
  · refine ⟨held.persist room snapshot_empty (.inr rfl), ?_, fun _ => ?_, ?_⟩
    · have highest := held.highest_le
      have known : count ≤ highestSequence (holding ledger.session ∅) := by
        rw [← counted.memory]
        exact le_max_left _ _
      dsimp only [Ledger.step]
      rw [memory, if_pos ⟨fits, rfl⟩, held.nextSequence room]
      omega
    · exact if_pos ⟨fits, rfl⟩
    · dsimp only [Ledger.step]
      rw [same]
      exact counted.size
  · exact (failed rfl).elim

theorem counted_replicate (room : count < uint64Size) :
    Counted (runFrom Ledger.step ⟨pairSession, none⟩
      (replicate count (.checkpoint ∅ snapshot_empty .done))) count := by
  induction count with
  | zero =>
    have empty := mirroring_of_open openStore_pair rfl ⟨readContainer_pair 0, readContainer_pair 1⟩
    exact ⟨empty, rfl, fun positive => absurd positive (lt_irrefl 0), rfl⟩
  | succ count ih =>
    rw [replicate_succ', runFrom_append]
    exact (ih (by omega)).next room

theorem tame_replicate (ledger : Ledger) (count : Nat) :
    Along Ledger.step Ledger.Tame ledger (thenOneKey count) := by
  induction count generalizing ledger with
  | zero => exact ⟨tame_done _ _, trivial⟩
  | succ count ih => exact ⟨tame_done _ _, ih _⟩

/-- With all numbers used up, the next checkpoint carries number zero, and the
body of an older one is selected. -/
theorem Counted.wraps (counted : Counted ledger count) (positive : 0 < count)
    (used : count + 1 = uint64Size) :
    (∃ stored, (ledger.step (.checkpoint oneKey snapshot_oneKey .done)).landed = some [stored]) ∧
      (mirrorOf (ledger.step (.checkpoint oneKey snapshot_oneKey .done)).session).newest.map
        Prod.snd = some [] := by
  have held := counted.mirroring.holding oneKey
  set taken := holding ledger.session oneKey
  have one : taken.core.checkpointEntries =
      [⟨[1], 0, ledger.session.core.config.layout.payloadBytes, 0, 1⟩] := rfl
  have fits : (nextImage taken).length ≤ taken.core.containerBytes := by
    refine nextImage_le counted.size ?_
    exact (by decide : 8 + (36 + 1) ≤ 4096)
  obtain ⟨file, region⟩ := held.region
  obtain ⟨_, mirror, _⟩ := persistCheckpoint_mirror held.laid region .done
  have wrapped : nextSequence taken = 0 := by
    have highest := held.highest_le
    have known : ledger.session.core.checkpointSeq ≤ highestSequence taken := le_max_left _ _
    rw [counted.memory] at known
    rw [nextSequence_eq, le_antisymm highest known, used, Nat.mod_self]
  have decoded := @Snapshot.decode_image taken snapshot_oneKey
  have complete : writtenBytes taken .done =
      padTo taken.core.containerBytes (nextImage taken) := rfl
  refine ⟨⟨_, (if_pos ⟨fits, complete⟩).trans (congrArg some one)⟩, ?_⟩
  dsimp only [Ledger.step]
  rw [mirror, if_pos fits, complete, decoded, wrapped, Mirror.newest_overwrite_of_zero rfl,
    held.tracks.tear.newest_eq]
  exact counted.landed positive

/-- A restart selects what the media hold. -/
theorem selected_restarted :
    selected (restarted session) = (mirrorOf session).newest := by
  obtain ⟨_, _, _, _, _, frame⟩ := loadCheckpoint_frame ⟨session.core.renewed, session.media⟩
  rw [selected_eq_newest]
  refine congrArg Mirror.newest (mirrorOf_congr ?_ ?_ (sameFiles_loadCheckpoint _).checkpoint)
  · rw [restarted, frame]
    rfl
  · rw [restarted, frame]
    rfl

/-- After 2^64 checkpoints a restart loads the body of an older one. -/
theorem wrapAround_forgets : ∃ count, count + 1 = uint64Size ∧
    Along Ledger.step Ledger.Tame ⟨pairSession, none⟩ (thenOneKey count) ∧
      (∃ stored, (runFrom Ledger.step ⟨pairSession, none⟩ (thenOneKey count)).landed =
        some [stored]) ∧
      (selected (restarted (runFrom Ledger.step ⟨pairSession, none⟩
        (thenOneKey count)).session)).map Prod.snd = some [] := by
  obtain ⟨count, used⟩ : ∃ count, count + 1 = uint64Size := ⟨18446744073709551615, rfl⟩
  have positive : 0 < count := by
    have wide : 1 < uint64Size := by decide
    omega
  have counted := @counted_replicate count (by omega)
  have wraps := counted.wraps positive used
  refine ⟨count, used, tame_replicate _ _, ?_⟩
  rw [thenOneKey, runFrom_append, selected_restarted]
  exact wraps

end ObjectStoreCore

end Tutti
