import Tutti.Foundation.OrderedDict
import Tutti.Storage.ResidencyBitmap
import Tutti.Storage.SpaceAllocator

/-!
# The object store

`ObjectStoreCore` owns the index from keys to slots and the reverse map, and
drives the allocator, the object headers, the checkpoint and the residency
bitmap. Every operation is a function of the store and of the media under it
(`Session`); what the environment decides about each transfer is a parameter.
-/

namespace Tutti

open Foundation

/-! ## Configuration -/

/-- Object geometry: `segment_count` segments of `segment_bytes` bytes. -/
structure ObjectLayout where
  segmentBytes : Nat
  segmentCount : Nat
  deriving DecidableEq, Repr

/-- The payload size, in 64-bit arithmetic. -/
def ObjectLayout.payloadBytes (layout : ObjectLayout) : Nat :=
  layout.segmentBytes * layout.segmentCount % uint64Size

structure StoreConfig where
  uri : String
  capacitySlots : Nat
  capacityBytes : UInt64
  layout : ObjectLayout
  segmentFileSlots : Nat
  segmentHeaderBytes : Nat
  namespaceFingerprint : Bytes
  /-- The mount paths of the configured devices. -/
  devices : List String
  rankId : Nat
  rankCount : Nat
  readOnly : Bool
  deriving DecidableEq, Repr

/-- The namespace root, under which the checkpoint and the bitmaps are. -/
def StoreConfig.root (config : StoreConfig) : NormalPath := normalise config.uri.toList

/-- Longest key that can be checkpointed. -/
def maxKeyBytes : Nat := 256

/-! ## State -/

structure Entry where
  slot : Nat
  generation : Nat
  commitSeq : Nat
  committed : Bool
  deriving DecidableEq, Repr

structure RecoveryReport where
  checkpointEntries : Nat := 0
  accepted : Nat := 0
  droppedHeader : Nat := 0
  droppedGeometry : Nat := 0
  droppedDuplicate : Nat := 0
  checkpointAvailable : Bool := false
  deriving DecidableEq, Repr

structure ObjectPlacement where
  uri : List Char
  offset : Nat
  payloadBytes : Nat
  slot : Nat
  generation : Nat
  deriving DecidableEq, Repr

structure ReserveOutcome where
  accepted : List ObjectPlacement := []
  acceptedKeys : List ObjectKey := []
  rejectedCount : Nat := 0
  deriving DecidableEq, Repr

/-- One accepted key more. -/
def ReserveOutcome.accept (outcome : ReserveOutcome) (placement : ObjectPlacement)
    (key : ObjectKey) : ReserveOutcome :=
  { outcome with
    accepted := outcome.accepted ++ [placement]
    acceptedKeys := outcome.acceptedKeys ++ [key] }

/-- The members of `ObjectStoreCore`. `slotOwner` and `pins` are never iterated,
so they are functions; a pin count of zero is an absent entry. -/
structure ObjectStoreCore where
  placement : FixedSegmentFilePlacement
  config : StoreConfig
  opened : Bool
  slotBytes : Nat
  mountCount : Nat
  precreated : Nat
  groupSlots : Nat
  precreateBusy : Bool
  precreateTarget : Nat
  commitSeq : Nat
  checkpointSeq : Nat
  containerBytes : Nat
  checkpointDirty : Bool
  allocator : SpaceAllocator
  index : OrderedDict ObjectKey Entry
  slotOwner : Nat → Option ObjectKey
  pins : ObjectKey → Nat
  ownResidency : ResidencyBitmap
  peerResidency : List ResidencyBitmap
  recovery : RecoveryReport

/-- A store and the media it runs on. -/
structure Session where
  core : ObjectStoreCore
  media : Media

namespace ObjectStoreCore

/-- A newly constructed store. -/
def fresh : ObjectStoreCore where
  placement := ⟨[], 0, 0, 0, 0⟩
  config := ⟨"", 0, 0, ⟨0, 0⟩, 0, 0, [], [], 0, 1, false⟩
  opened := false
  slotBytes := 0
  mountCount := 1
  precreated := 0
  groupSlots := 0
  precreateBusy := false
  precreateTarget := 0
  commitSeq := 0
  checkpointSeq := 0
  containerBytes := 0
  checkpointDirty := false
  allocator := .unconfigured
  index := ∅
  slotOwner := fun _ => none
  pins := fun _ => 0
  ownResidency := none
  peerResidency := []
  recovery := {}

/-- `fingerprint_digest_locked`. -/
def fingerprintDigest (core : ObjectStoreCore) : Nat :=
  (objectIdentity core.config.namespaceFingerprint).toNat

/-- The file and header offset of a slot. -/
def headerPath (core : ObjectStoreCore) (slot : Nat) : SegmentPath :=
  normalise (core.placement.pathForSlot slot)

def headerOffset (core : ObjectStoreCore) (slot : Nat) : Nat :=
  core.placement.headerOffsetForSlot slot

/-- `placement_locked`. -/
def placementFor (core : ObjectStoreCore) (slot generation : Nat) : ObjectPlacement where
  uri := core.placement.uriForSlot slot
  offset := core.placement.payloadOffsetForSlot slot
  payloadBytes := core.config.layout.payloadBytes
  slot
  generation

/-! ## Queries -/

/-- The key is in the index and committed. -/
def contains (core : ObjectStoreCore) (key : ObjectKey) : Bool :=
  ((core.index.get? key).map Entry.committed).getD false

def containsPrefix (core : ObjectStoreCore) (keys : List ObjectKey) : Nat :=
  (keys.takeWhile core.contains).length

/-- The bitmaps of all ranks, this rank's own in its place. -/
def rankBitmaps (core : ObjectStoreCore) : List ResidencyBitmap :=
  (List.range core.config.rankCount).map fun rank =>
    if rank = core.config.rankId then core.ownResidency else (core.peerResidency.getD rank none)

/-- `contains_prefix_all_ranks`: falls back to this rank's view for a single rank
or an unusable own bitmap. -/
def containsPrefixAllRanks (core : ObjectStoreCore) (media : Media) (keys : List ObjectKey) :
    Nat :=
  if core.config.rankCount ≤ 1 ∨ core.ownResidency.usable = false then core.containsPrefix keys
  else (keys.takeWhile fun key =>
    match core.index.get? key with
    | none => false
    | some entry => entry.committed && allRanksCommitted media core.rankBitmaps entry.slot).length

def lookup (core : ObjectStoreCore) (key : ObjectKey) : Except Status ObjectPlacement :=
  match core.index.get? key with
  | none => .error ⟨.notFound, "object not committed"⟩
  | some entry =>
    if entry.committed = false then .error ⟨.notFound, "object not committed"⟩
    else .ok (core.placementFor entry.slot entry.generation)

def readySlots (core : ObjectStoreCore) : Nat :=
  if core.opened = false then 0 else core.precreated

def slotGeneration (core : ObjectStoreCore) (slot : Nat) : Nat :=
  if core.opened = false ∨ core.allocator.totalSlots ≤ slot then 0
  else core.allocator.generationOf slot

/-- `recover`: the committed keys. -/
def recover (core : ObjectStoreCore) : Except Status (List ObjectKey) :=
  if core.opened = false then .error ⟨.notReady, "store is not open"⟩
  else .ok ((core.index.entries.filter fun pair => pair.2.committed).map Prod.fst)

/-! ## Reserve -/

def readOnlyError (operation : String) : Status :=
  ⟨.unsupported, operation ++ ": store is read-only"⟩

/-- Enter a reserved slot in the index and in the reverse map. -/
def insertReserved (core : ObjectStoreCore) (key : ObjectKey) (slot generation : Nat)
    (allocator : SpaceAllocator) : ObjectStoreCore :=
  { core with
    allocator
    index := core.index.set key ⟨slot, generation, 0, false⟩
    slotOwner := Function.update core.slotOwner slot (some key) }

/-- The loop of `reserve`: a present key hands back its placement, and the first
exhaustion ends the loop. -/
def reserveKeys : List ObjectKey → ReserveOutcome → ObjectStoreCore →
    ReserveOutcome × ObjectStoreCore
  | [], outcome, core => (outcome, core)
  | key :: keys, outcome, core =>
    if key = [] ∨ maxKeyBytes < key.length then
      reserveKeys keys { outcome with rejectedCount := outcome.rejectedCount + 1 } core
    else
      match core.index.get? key with
      | some existing =>
        reserveKeys keys
          (outcome.accept (core.placementFor existing.slot existing.generation) key) core
      | none =>
        match SpaceAllocator.reserve 1 core.allocator with
        | (⟨slot :: _, generation :: _, _⟩, allocator) =>
          reserveKeys keys (outcome.accept (core.placementFor slot generation) key)
            (core.insertReserved key slot generation allocator)
        | (_, allocator) =>
          ({ outcome with rejectedCount := outcome.rejectedCount + (keys.length + 1) },
            { core with allocator })

def reserve (core : ObjectStoreCore) (keys : List ObjectKey) :
    Except Status ReserveOutcome × ObjectStoreCore :=
  if core.config.readOnly = true then (.error (readOnlyError "reserve"), core)
  else if core.opened = false then (.error ⟨.notReady, "store is not open"⟩, core)
  else
    let reserved := reserveKeys keys {} core
    (.ok reserved.1, reserved.2)

/-! ## Abort, release, pin -/

/-- Remove a key and give up its slot. -/
def removeKey (core : ObjectStoreCore) (key : ObjectKey) (slot : Nat) : ObjectStoreCore :=
  { core with
    index := core.index.erase key
    slotOwner := Function.update core.slotOwner slot none }

/-- The loop of `abort`: uncommitted keys leave the index, and their slots are
collected. -/
def abortKeys : List ObjectKey → List Nat → ObjectStoreCore → List Nat × ObjectStoreCore
  | [], slots, core => (slots, core)
  | key :: keys, slots, core =>
    match core.index.get? key with
    | none => abortKeys keys slots core
    | some entry =>
      if entry.committed = true then abortKeys keys slots core
      else abortKeys keys (slots ++ [entry.slot]) (core.removeKey key entry.slot)

def abort (core : ObjectStoreCore) (keys : List ObjectKey) :
    Except Status Unit × ObjectStoreCore :=
  if core.config.readOnly = true then (.error (readOnlyError "abort"), core)
  else
    let aborted := abortKeys keys [] core
    (.ok (), { aborted.2 with allocator := aborted.2.allocator.abort aborted.1 })

/-- The loop of `release`: committed keys that are not pinned leave the index and
the bitmap, and their slots are collected. -/
def releaseKeys : List ObjectKey → List Nat → Session → List Nat × Session
  | [], slots, session => (slots, session)
  | key :: keys, slots, session =>
    match session.core.index.get? key with
    | none => releaseKeys keys slots session
    | some entry =>
      if entry.committed = false ∨ 0 < session.core.pins key then
        releaseKeys keys slots session
      else
        releaseKeys keys (slots ++ [entry.slot])
          ⟨session.core.removeKey key entry.slot,
            ResidencyBitmap.clear session.media session.core.ownResidency entry.slot⟩

def release (session : Session) (keys : List ObjectKey) : Except Status Nat × Session :=
  if session.core.config.readOnly = true then (.error (readOnlyError "release"), session)
  else
    let released := releaseKeys keys [] session
    let core := released.2.core
    if released.1 = [] then (.ok 0, released.2)
    else (.ok released.1.length, ⟨{ core with
      allocator := core.allocator.release released.1
      checkpointDirty := true }, released.2.media⟩)

/-- `pin`: reference counts of 32 bits. -/
def pin (core : ObjectStoreCore) (keys : List ObjectKey) : Except Status Unit × ObjectStoreCore :=
  if core.config.readOnly = true then (.error (readOnlyError "pin"), core)
  else (.ok (), { core with
    pins := keys.foldl (fun pins key => Function.update pins key ((pins key + 1) % 2 ^ 32))
      core.pins })

def unpin (core : ObjectStoreCore) (keys : List ObjectKey) :
    Except Status Unit × ObjectStoreCore :=
  if core.config.readOnly = true then (.error (readOnlyError "unpin"), core)
  else (.ok (), { core with
    pins := keys.foldl (fun pins key => Function.update pins key (pins key - 1)) core.pins })

/-! ## Commit -/

/-- `write_header_locked`. -/
def writeHeader (session : Session) (slot : Nat) (key : ObjectKey) (generation commitSeq : Nat)
    (outcome : WriteOutcome) : Except Status Unit × Media :=
  match encodeObjectHeader key session.core.config.layout.payloadBytes generation commitSeq with
  | none => (.error ⟨.invalidArgument, "could not encode header"⟩, session.media)
  | some header =>
    writeObjectHeader session.media (session.core.headerPath slot)
      (session.core.headerOffset slot) header outcome

/-- Mark an entry committed. -/
def commitEntry (core : ObjectStoreCore) (key : ObjectKey) (entry : Entry) (commitSeq : Nat) :
    ObjectStoreCore :=
  { core with index := core.index.set key { entry with committed := true, commitSeq } }

/-- The loop of `commit`. Each key comes with what becomes of its header write,
if one is made; the first failure returns at once. The slots committed so far
are collected. -/
def commitKeys : List (ObjectKey × WriteOutcome) → List Nat → Session →
    Except Status Unit × List Nat × Session
  | [], slots, session => (.ok (), slots, session)
  | (key, outcome) :: keys, slots, session =>
    match session.core.index.get? key with
    | none => commitKeys keys slots session
    | some entry =>
      if entry.committed = true then commitKeys keys slots session
      else
        let seq := (session.core.commitSeq + 1) % uint64Size
        let core := { session.core with commitSeq := seq }
        match writeHeader session entry.slot key entry.generation seq outcome with
        | (.error error, media) => (.error error, slots, ⟨core, media⟩)
        | (.ok (), media) =>
          commitKeys keys (slots ++ [entry.slot])
            ⟨core.commitEntry key entry seq,
              ResidencyBitmap.set media core.ownResidency entry.slot⟩

/-- `commit`: the allocator and the dirty flag follow only when every header
write of the batch succeeded. -/
def commit (session : Session) (keys : List (ObjectKey × WriteOutcome)) :
    Except Status Unit × Session :=
  if session.core.config.readOnly = true then (.error (readOnlyError "commit"), session)
  else if session.core.opened = false then (.error ⟨.notReady, "store is not open"⟩, session)
  else
    match commitKeys keys [] session with
    | (.error error, _, reached) => (.error error, reached)
    | (.ok (), slots, reached) =>
      if slots = [] then (.ok (), reached)
      else (.ok (), ⟨{ reached.core with
        allocator := reached.core.allocator.commit slots
        checkpointDirty := true }, reached.media⟩)

/-! ## Reclamation -/

/-- The loop of `drain_reclaim`: zero every slot that was taken, and sort the
slots into done and failed. -/
def zeroSlots (core : ObjectStoreCore) (zeroing : Nat → ZeroOutcome) :
    List Nat → Media → List Nat × List Nat × Media
  | [], media => ([], [], media)
  | slot :: slots, media =>
    let zeroed := zeroFileRange media (core.headerPath slot) (core.headerOffset slot)
      core.slotBytes (zeroing slot)
    let rest := zeroSlots core zeroing slots zeroed.2
    match zeroed.1 with
    | .ok () => (slot :: rest.1, rest.2)
    | .error _ => (rest.1, slot :: rest.2.1, rest.2.2)

/-- `drain_reclaim`: failed slots are requeued, zeroed ones are free again. -/
def drainReclaim (session : Session) (max : Nat) (zeroing : Nat → ZeroOutcome) : Nat × Session :=
  let core := session.core
  let taken := core.allocator.takeReclaimable max
  let zeroed := zeroSlots core zeroing taken.1 session.media
  (zeroed.1.length, ⟨{ core with
    allocator := (taken.2.requeueReclaim zeroed.2.1).finishReclaim zeroed.1 }, zeroed.2.2⟩)

/-! ## Growth -/

/-- `group_paths_locked`: the files of the group that contains a slot. -/
def groupPaths (core : ObjectStoreCore) (slot : Nat) : List SegmentPath :=
  let groupStart := slot / core.groupSlots * core.groupSlots
  ((List.range core.mountCount).filter fun device =>
    groupStart + device < core.allocator.totalSlots).map fun device =>
      normalise (core.placement.pathForSlot (groupStart + device))

/-- `materialise_group`: stops at the first failure. -/
def materialiseGroup (fileBytes : Nat) (faults : SegmentPath → MaterialiseFault) :
    List SegmentPath → Media → Except Status Unit × Media
  | [], media => (.ok (), media)
  | path :: paths, media =>
    match materialiseSegmentFile media path fileBytes (faults path) with
    | (.error error, left) => (.error error, left)
    | (.ok (), next) => materialiseGroup fileBytes faults paths next

/-- The target of `precreate_step`: the frontier and the headroom, rounded up to
whole groups in 64-bit arithmetic. -/
def targetFor (core : ObjectStoreCore) (headroom : Nat) : Nat :=
  let total := core.allocator.totalSlots
  let frontier := total - core.allocator.stats.unmaterialisedSlots
  let wanted := if total - frontier ≤ headroom then total else frontier + headroom
  min total ((wanted + core.groupSlots - 1) % uint64Size / core.groupSlots * core.groupSlots)

/-- The first locked region of `precreate_step`: sets the target and decides
which group to build, if any. -/
def precreateBegin (core : ObjectStoreCore) (headroom : Nat) :
    Except Status (Option (Nat × Nat)) × ObjectStoreCore :=
  if core.opened = false then (.error ⟨.notReady, "store is not open"⟩, core)
  else if core.config.readOnly = true then (.ok none, core)
  else
    let target := core.targetFor headroom
    let groupEnd := min core.allocator.totalSlots (core.precreated + core.groupSlots)
    if core.precreateBusy = true ∨ target ≤ core.precreated then
      (.ok none, { core with precreateTarget := target })
    else
      (.ok (some (core.precreated, groupEnd)),
        { core with precreateTarget := target, precreateBusy := true })

/-- The second locked region of `precreate_step`: publishes a group that was
built. -/
def precreateFinish (core : ObjectStoreCore) (made : Bool) (groupEnd : Nat) : ObjectStoreCore :=
  if made = true then
    { core with
      precreateBusy := false
      precreated := groupEnd
      allocator := core.allocator.setReadyLimit groupEnd }
  else { core with precreateBusy := false }

/-- `precreate_step`, undisturbed between its two locked regions. -/
def precreateStep (session : Session) (headroom : Nat) (faults : SegmentPath → MaterialiseFault) :
    Except Status Nat × Session :=
  match precreateBegin session.core headroom with
  | (.error error, core) => (.error error, ⟨core, session.media⟩)
  | (.ok none, core) => (.ok 0, ⟨core, session.media⟩)
  | (.ok (some (start, groupEnd)), core) =>
    match materialiseGroup core.placement.fileBytes faults (core.groupPaths start)
      session.media with
    | (.error error, media) => (.error error, ⟨core.precreateFinish false groupEnd, media⟩)
    | (.ok (), media) => (.ok (groupEnd - start), ⟨core.precreateFinish true groupEnd, media⟩)

/-! ## Checkpoint -/

/-- The container at an index, decoded; `none` is empty or unreadable. -/
def readContainer (session : Session) (index : Nat) : Option (Nat × List CheckpointEntry) :=
  (readCheckpointContainer session.media session.core.config.root
    (checkpointContainerOffset index session.core.containerBytes)
    session.core.containerBytes).bind fun data => (decodeCheckpoint data).toOption

/-- The sequence numbers of `read_container_sequences_locked`. -/
def containerSequences (session : Session) : List Nat :=
  (List.range CheckpointLayout.containerCount).map fun index =>
    ((readContainer session index).map Prod.fst).getD 0

/-- The entries of a checkpoint: reservations are not durable. -/
def checkpointEntries (core : ObjectStoreCore) : List CheckpointEntry :=
  (core.index.entries.filter fun pair => pair.2.committed).map fun pair =>
    ⟨pair.1, pair.2.slot, core.config.layout.payloadBytes, pair.2.generation, pair.2.commitSeq⟩

/-- The sequence number of the next checkpoint, in 64-bit arithmetic. -/
def nextSequence (session : Session) : Nat :=
  (max session.core.checkpointSeq ((containerSequences session).foldl max 0) + 1) % uint64Size

/-- `persist_checkpoint_locked`: an empty or the oldest container is overwritten
in full. -/
def persistCheckpoint (session : Session) (outcome : WriteOutcome) :
    Except Status Unit × Session :=
  let core := session.core
  let container := nextCheckpointContainer (containerSequences session)
  let sequence := nextSequence session
  let image := encodeCheckpoint core.checkpointEntries sequence
  if core.containerBytes < image.length then
    (.error ⟨.internal, "checkpoint image exceeds its container"⟩, session)
  else
    match writeCheckpointContainer session.media core.config.root
      (checkpointContainerOffset container core.containerBytes) (padTo core.containerBytes image)
      outcome with
    | (.error error, media) => (.error error, ⟨core, media⟩)
    | (.ok (), media) =>
      (.ok (), ⟨{ core with checkpointSeq := sequence, checkpointDirty := false }, media⟩)

def checkpoint (session : Session) (outcome : WriteOutcome) : Except Status Unit × Session :=
  if session.core.config.readOnly = true then (.error (readOnlyError "checkpoint"), session)
  else if session.core.opened = false then (.error ⟨.notReady, "store is not open"⟩, session)
  else persistCheckpoint session outcome

/-! ## Recovery -/

/-- Why an entry of the checkpoint is dropped, or the commit sequence in the
header that confirms it. -/
inductive EntryVerdict where
  | geometry
  | duplicate
  | header
  | accepted (commitSeq : Nat)
  deriving DecidableEq, Repr

/-- The checks that recovery makes on one entry of the checkpoint. -/
def judgeEntry (core : ObjectStoreCore) (media : Media) (entry : CheckpointEntry) : EntryVerdict :=
  if core.allocator.totalSlots ≤ entry.slot ∨
      entry.payloadBytes ≠ core.config.layout.payloadBytes then .geometry
  else if entry.key ∈ core.index ∨ (core.slotOwner entry.slot).isSome = true then .duplicate
  else
    match readObjectHeader media (core.headerPath entry.slot) (core.headerOffset entry.slot) with
    | none => .header
    | some header =>
      match decodeObjectHeader header
        ⟨entry.key, entry.payloadBytes, entry.generation, true⟩ with
      | .error _ => .header
      | .ok fields => .accepted fields.commitSeq

/-- Enter a confirmed entry in the index and in the reverse map. -/
def adoptEntry (core : ObjectStoreCore) (entry : CheckpointEntry) (commitSeq : Nat) :
    ObjectStoreCore :=
  { core with
    index := core.index.set entry.key ⟨entry.slot, entry.generation, commitSeq, true⟩
    slotOwner := Function.update core.slotOwner entry.slot (some entry.key)
    recovery := { core.recovery with accepted := core.recovery.accepted + 1 } }

/-- The loop of `load_checkpoint_locked`: the slots to commit and the highest
commit sequence are collected. -/
def recoverEntries (media : Media) : List CheckpointEntry → List Nat → Nat → ObjectStoreCore →
    List Nat × Nat × ObjectStoreCore
  | [], slots, highest, core => (slots, highest, core)
  | entry :: entries, slots, highest, core =>
    match core.judgeEntry media entry with
    | .geometry =>
      recoverEntries media entries slots highest { core with
        recovery := { core.recovery with
          droppedGeometry := core.recovery.droppedGeometry + 1 } }
    | .duplicate =>
      recoverEntries media entries slots highest { core with
        recovery := { core.recovery with
          droppedDuplicate := core.recovery.droppedDuplicate + 1 } }
    | .header =>
      recoverEntries media entries slots highest { core with
        recovery := { core.recovery with droppedHeader := core.recovery.droppedHeader + 1 } }
    | .accepted commitSeq =>
      recoverEntries media entries (slots ++ [entry.slot]) (max highest commitSeq)
        (core.adoptEntry entry commitSeq)

/-- The recovered slots go through reserve and commit in the allocator; every
slot is claimed up to the largest, and the gaps are aborted. -/
def claimRecovered (allocator : SpaceAllocator) (slots : List Nat) : SpaceAllocator :=
  if slots = [] then allocator
  else
    let claimed := SpaceAllocator.reserve (slots.foldl max 0 + 1) allocator
    let gaps := claimed.1.slots.filter fun slot => slot ∉ slots
    (claimed.2.commit slots).abort gaps

/-- Rebuild the own bitmap from the committed entries. -/
def rebuildResidency (core : ObjectStoreCore) (media : Media) : Media :=
  if core.ownResidency.usable = true then
    (core.index.entries.filter fun pair => pair.2.committed).foldl
      (fun media pair => ResidencyBitmap.set media core.ownResidency pair.2.slot)
      (ResidencyBitmap.clearAll media core.ownResidency)
  else media

/-- Rebuild the store from the entries of the chosen checkpoint. -/
def adoptCheckpoint (core : ObjectStoreCore) (media : Media) (sequence : Nat)
    (entries : List CheckpointEntry) : ObjectStoreCore :=
  let recovered := recoverEntries media entries [] 0 { core with
    checkpointSeq := sequence
    recovery := { checkpointAvailable := true, checkpointEntries := entries.length } }
  let core := recovered.2.2
  { core with
    commitSeq := max core.commitSeq recovered.2.1
    allocator := claimRecovered core.allocator recovered.1 }

/-- `load_checkpoint_locked`: never fails. -/
def loadCheckpoint (session : Session) : Session :=
  match (selectCheckpointContainer (containerSequences session)).bind (readContainer session) with
  | none => ⟨{ session.core with recovery := {} }, session.media⟩
  | some (sequence, entries) =>
    let core := session.core.adoptCheckpoint session.media sequence entries
    ⟨core, core.rebuildResidency session.media⟩

/-! ## Open and close -/

/-- What the environment decides about the file operations of `open`. -/
structure OpenFaults where
  layout : Option Status := none
  metadata : Option Status := none
  probe : SegmentPath → Option Status := fun _ => none
  materialise : SegmentPath → MaterialiseFault := fun _ => none
  residencyDirectory : Option Status := none
  ownResidency : Option Status := none
  peerResidency : Nat → Option Status := fun _ => none

/-- The checks of `open` on its argument alone. -/
def checkConfig (config : StoreConfig) : Except Status Unit :=
  if config.uri = "" then .error ⟨.invalidArgument, "uri must not be empty"⟩
  else if config.layout.segmentBytes = 0 ∨ config.layout.segmentCount = 0 then
    .error ⟨.invalidArgument, "layout must specify segment_bytes and segment_count"⟩
  else if config.layout.segmentBytes % alignment ≠ 0 then
    .error ⟨.invalidArgument, "segment_bytes must be 4096-aligned for O_DIRECT"⟩
  else if config.segmentFileSlots = 0 then
    .error ⟨.invalidArgument, "segment_file_slots must be positive"⟩
  else if config.segmentHeaderBytes < ObjectHeaderLayout.headerBytes ∨
      config.segmentHeaderBytes % alignment ≠ 0 then
    .error ⟨.invalidArgument, "segment_header_bytes must be at least 4096 and 4096-aligned"⟩
  else if uint64Size - 1 - config.segmentHeaderBytes < config.layout.payloadBytes ∨
      (uint64Size - 1) / (config.segmentHeaderBytes + config.layout.payloadBytes) <
        config.segmentFileSlots then
    .error ⟨.invalidArgument, "segment_file_slots overflows file size"⟩
  else .ok ()

/-- Reopening an open store must name the same namespace. -/
def sameNamespace (config other : StoreConfig) : Bool :=
  config.layout = other.layout ∧ config.segmentFileSlots = other.segmentFileSlots ∧
    config.segmentHeaderBytes = other.segmentHeaderBytes ∧
    config.namespaceFingerprint = other.namespaceFingerprint ∧ config.uri = other.uri

/-- The placement that `build_backend_locked` builds: each mount once. -/
def placementOf (config : StoreConfig) : FixedSegmentFilePlacement :=
  let slotBytes := config.segmentHeaderBytes + config.layout.payloadBytes
  ⟨firstOccurrences config.devices, config.rankId, slotBytes,
    slotBytes * config.segmentFileSlots, config.segmentHeaderBytes⟩

/-- `build_backend_locked`, after `config_` and `slot_bytes_` are set. -/
def buildBackend (core : ObjectStoreCore) : Except Status Unit × ObjectStoreCore :=
  if core.config.devices = [] then
    (.error ⟨.invalidArgument, "at least one device must be configured"⟩, core)
  else if "" ∈ core.config.devices then
    (.error ⟨.invalidArgument, "device needs a mount_path"⟩, core)
  else
    let core := { core with mountCount := (firstOccurrences core.config.devices).length }
    if (placementOf core.config).geometryValid = false then
      (.error ⟨.invalidArgument, "invalid fixed segment file geometry"⟩, core)
    else (.ok (), { core with placement := placementOf core.config })

/-- The capacity in bytes that the allocator is configured with, in 64-bit
arithmetic. -/
def capacityOf (config : StoreConfig) (slotBytes : Nat) : Nat :=
  if 0 < config.capacitySlots then config.capacitySlots * slotBytes % uint64Size
  else config.capacityBytes.toNat

/-- The part of `open` that sets up the geometry, up to `group_slots_`. -/
def setGeometry (core : ObjectStoreCore) (config : StoreConfig) :
    Except Status Unit × ObjectStoreCore :=
  let core := { core with
    config
    slotBytes := config.segmentHeaderBytes + config.layout.payloadBytes }
  match buildBackend core with
  | (.error error, core) => (.error error, core)
  | (.ok (), core) =>
    match core.allocator.configure (capacityOf config core.slotBytes) core.slotBytes with
    | none =>
      (.error ⟨.invalidArgument, "capacity_bytes too small to hold a single object"⟩, core)
    | some allocator =>
      let core := { core with allocator }
      if (uint64Size - 1) / core.mountCount < config.segmentFileSlots then
        (.error ⟨.invalidArgument, "segment group size overflows"⟩, core)
      else (.ok (), { core with groupSlots := config.segmentFileSlots * core.mountCount })

/-- `adopt_existing_groups_locked`: whole groups only, stopping at the first file
that is not ready. Each round adopts at least one slot. -/
def adoptGroups (media : Media) (probe : SegmentPath → Option Status) :
    (rounds : Nat) → ObjectStoreCore → Except Status Unit × ObjectStoreCore
  | 0, core => (.ok (), core)
  | rounds + 1, core =>
    if core.allocator.totalSlots ≤ core.precreated then (.ok (), core)
    else
      let ready := (core.groupPaths core.precreated).foldl
        (fun (found : Except Status Bool) path => found.bind fun present =>
          if present = true then
            segmentFileIsReady media path core.placement.fileBytes (probe path)
          else .ok false) (.ok true)
      match ready with
      | .error error => (.error error, core)
      | .ok false => (.ok (), core)
      | .ok true =>
        adoptGroups media probe rounds { core with
          precreated := min core.allocator.totalSlots (core.precreated + core.groupSlots) }

/-- The media half of `open`: a writer adopts the groups on media, builds the
first group of a cold pool, and publishes the ready limit. -/
def adoptMedia (session : Session) (faults : OpenFaults) : Except Status Unit × Session :=
  if session.core.config.readOnly = true then (.ok (), session)
  else
    match adoptGroups session.media faults.probe session.core.allocator.totalSlots
      session.core with
    | (.error error, core) => (.error error, ⟨core, session.media⟩)
    | (.ok (), core) =>
      if core.precreated = 0 then
        match materialiseGroup core.placement.fileBytes faults.materialise (core.groupPaths 0)
          session.media with
        | (.error error, media) => (.error error, ⟨core, media⟩)
        | (.ok (), media) =>
          let ready := min core.groupSlots core.allocator.totalSlots
          (.ok (), ⟨{ core with
            precreated := ready
            allocator := core.allocator.setReadyLimit ready }, media⟩)
      else
        (.ok (), ⟨{ core with allocator := core.allocator.setReadyLimit core.precreated },
          session.media⟩)

/-- The bitmaps are mapped last; one that cannot be mapped is not fatal. -/
def mapResidency (session : Session) (faults : OpenFaults) : Except Status Unit × Session :=
  let core := session.core
  let config := core.config
  let slots := core.allocator.totalSlots
  let digest := core.fingerprintDigest
  if config.rankCount ≤ 1 then (.ok (), session)
  else
    match (if config.readOnly = true then none else faults.residencyDirectory) with
    | some error => (.error error, session)
    | none =>
      let own : Except Status ResidencyMapping × Media :=
        if config.readOnly = true then
          (ResidencyBitmap.openReadonly session.media config.root config.rankId config.rankCount
            slots digest faults.ownResidency, session.media)
        else
          ResidencyBitmap.openWritable session.media config.root config.rankId config.rankCount
            slots digest faults.ownResidency
      let peers := (List.range config.rankCount).map fun rank =>
        if rank = config.rankId then none
        else (ResidencyBitmap.openReadonly own.2 config.root rank config.rankCount slots digest
          (faults.peerResidency rank)).toOption
      (.ok (), ⟨{ core with ownResidency := own.1.toOption, peerResidency := peers }, own.2⟩)

/-- Continue where the first step succeeded. -/
def andThen (first : Except Status Unit × Session)
    (next : Session → Except Status Unit × Session) : Except Status Unit × Session :=
  match first with
  | (.error error, session) => (.error error, session)
  | (.ok (), session) => next session

/-- `ensure_layout_locked`: only directories, so only its failure is seen. -/
def ensureLayout (session : Session) (faults : OpenFaults) : Except Status Unit × Session :=
  match (if session.core.config.readOnly = true then none else faults.layout) with
  | some error => (.error error, session)
  | none => (.ok (), session)

/-- The checkpoint region of `open`. -/
def ensureCheckpoint (session : Session) (faults : OpenFaults) : Except Status Unit × Session :=
  let containerBytes := checkpointContainerBytes session.core.allocator.totalSlots maxKeyBytes
  let core := { session.core with containerBytes }
  if core.config.readOnly = true then (.ok (), ⟨core, session.media⟩)
  else
    let ensured := ensureMetadataFile session.media core.config.root
      (containerBytes * CheckpointLayout.containerCount % uint64Size) faults.metadata
    (ensured.1, ⟨core, ensured.2⟩)

def openStore (session : Session) (config : StoreConfig) (faults : OpenFaults) :
    Except Status Unit × Session :=
  match checkConfig config with
  | .error error => (.error error, session)
  | .ok () =>
    if session.core.opened = true then
      if sameNamespace config session.core.config = true then (.ok (), session)
      else
        (.error ⟨.invalidArgument, "namespace fingerprint, layout or uri mismatch"⟩, session)
    else
      let geometry := session.core.setGeometry config
      andThen (geometry.1, ⟨geometry.2, session.media⟩) fun session =>
        andThen (ensureLayout session faults) fun session =>
          andThen (ensureCheckpoint session faults) fun session =>
            andThen (adoptMedia (loadCheckpoint session) faults) fun session =>
              andThen (mapResidency session faults) fun session =>
                (.ok (), { session with core := { session.core with opened := true } })

/-- `close`: a dirty checkpoint is flushed and the bitmaps are unmapped. Nothing
else is reset. -/
def close (session : Session) (outcome : WriteOutcome) : Except Status Unit × Session :=
  if session.core.opened = false then (.ok (), session)
  else
    let flushed :=
      if session.core.checkpointDirty = true then persistCheckpoint session outcome
      else (.ok (), session)
    (flushed.1, ⟨{ flushed.2.core with
      ownResidency := none
      peerResidency := []
      opened := false }, flushed.2.media⟩)

end ObjectStoreCore

end Tutti
