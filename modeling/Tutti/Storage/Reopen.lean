import Tutti.Storage.CheckpointFile

/-!
# Closing and reopening one object

`close` resets only the bitmaps and the open flag, and `open` configures the
allocator from nothing while the index, the reverse map and the pins of the
object live on. Reopening therefore agrees with opening a new object on the same
media exactly if the object was empty and without pins, and no slot that the
checkpoint brings back lies behind the ready limit of the old session.
-/

namespace Tutti

open Foundation SpaceAllocator

namespace ObjectStoreCore

/-! ## What the checkpoint brings back -/

/-- What the judgement of an entry depends on, besides the index. -/
structure SameJudge (core other : ObjectStoreCore) : Prop where
  placement : other.placement = core.placement
  layout : other.config.layout = core.config.layout
  totalSlots : other.allocator.totalSlots = core.allocator.totalSlots

theorem SameJudge.trans {first second third : ObjectStoreCore} (left : SameJudge first second)
    (right : SameJudge second third) : SameJudge first third :=
  ⟨right.placement.trans left.placement, right.layout.trans left.layout,
    right.totalSlots.trans left.totalSlots⟩

/-- The entries of the checkpoint that `open` selects. -/
def storedEntries (session : Session) : List CheckpointEntry :=
  (((selectCheckpointContainer (containerSequences session)).bind
    (readContainer session)).map Prod.snd).getD []

/-- The header in its slot confirms an entry of the checkpoint. -/
def confirms (core : ObjectStoreCore) (media : Media) (entry : CheckpointEntry) : Bool :=
  match judgeEntry { core with index := ∅, slotOwner := fun _ => none } media entry with
  | .accepted _ => true
  | _ => false

theorem confirms_iff {core : ObjectStoreCore} {media : Media} {entry : CheckpointEntry} :
    core.confirms media entry = true ↔
      ∃ commitSeq, entry.payloadBytes = core.config.layout.payloadBytes ∧
        core.Confirmed media entry.key ⟨entry.slot, entry.generation, commitSeq, true⟩ := by
  unfold confirms
  constructor
  · intro confirmed
    split at confirmed
    · rename_i commitSeq accepted
      obtain ⟨payload, _, _, header⟩ := judgeEntry_accepted_iff.mp accepted
      exact ⟨commitSeq, payload, { header with }⟩
    · cases confirmed
  · rintro ⟨commitSeq, payload, header⟩
    have accepted := @judgeEntry_accepted_iff media entry
      { core with index := ∅, slotOwner := fun _ => none } commitSeq
    rw [accepted.mpr ⟨payload, rfl, rfl, { header with }⟩]

section SameJudge

variable {core other : ObjectStoreCore} (same : SameJudge core other)
include same

theorem SameJudge.symm : SameJudge other core :=
  ⟨same.placement.symm, same.layout.symm, same.totalSlots.symm⟩

theorem SameJudge.confirmed {media : Media} {key : ObjectKey} {entry : Entry}
    (confirmed : core.Confirmed media key entry) : other.Confirmed media key entry := by
  refine ⟨confirmed.committed, ?_, ?_⟩
  · rw [same.totalSlots]
    exact confirmed.lt_totalSlots
  · rw [headerPath, headerOffset, same.placement, same.layout]
    exact confirmed.header

theorem judgeEntry_congr (index : other.index = core.index)
    (owner : other.slotOwner = core.slotOwner) (media : Media) (entry : CheckpointEntry) :
    other.judgeEntry media entry = core.judgeEntry media entry := by
  unfold judgeEntry headerPath headerOffset
  rw [same.placement, same.layout, same.totalSlots, index, owner]

theorem confirms_congr (media : Media) (entry : CheckpointEntry) :
    other.confirms media entry = core.confirms media entry := by
  have judged := @judgeEntry_congr { core with index := ∅, slotOwner := fun _ => none }
    { other with index := ∅, slotOwner := fun _ => none }
    { same with } rfl rfl media entry
  rw [confirms, judged, confirms]

end SameJudge

/-- The walk over the checkpoint depends on nothing else. -/
theorem recoverEntries_congr (media : Media) (entries : List CheckpointEntry) {slots : List Nat}
    {highest highest' : Nat} {core other : ObjectStoreCore} (same : SameJudge core other)
    (index : other.index = core.index) (owner : other.slotOwner = core.slotOwner) :
    (recoverEntries media entries slots highest' other).1 =
        (recoverEntries media entries slots highest core).1 ∧
      (recoverEntries media entries slots highest' other).2.2.index =
        (recoverEntries media entries slots highest core).2.2.index ∧
      (recoverEntries media entries slots highest' other).2.2.slotOwner =
        (recoverEntries media entries slots highest core).2.2.slotOwner := by
  induction entries generalizing slots highest highest' core other with
  | nil => exact ⟨rfl, index, owner⟩
  | cons entry entries ih =>
    rw [recoverEntries, recoverEntries, judgeEntry_congr same index owner]
    cases core.judgeEntry media entry with
    | geometry | duplicate | header =>
      exact ih { same with } index owner
    | accepted commitSeq =>
      refine ih { same with } ?_ ?_
      · simp only [adoptEntry, index]
      · simp only [adoptEntry, owner]

variable {core : ObjectStoreCore}

/-- Of the entries that their headers confirm, the first for each key and slot. -/
def firstConfirmed (core : ObjectStoreCore) (media : Media) :
    List CheckpointEntry → List CheckpointEntry → List CheckpointEntry
  | [], taken => taken
  | entry :: entries, taken =>
    if core.confirms media entry = true ∧
        ∀ other ∈ taken, other.key ≠ entry.key ∧ other.slot ≠ entry.slot then
      firstConfirmed core media entries (taken ++ [entry])
    else firstConfirmed core media entries taken

theorem Inverse.unowned (inverse : core.Inverse) (empty : core.index = ∅) :
    core.slotOwner = fun _ => none := by
  funext slot
  cases owner : core.slotOwner slot with
  | none => rfl
  | some key =>
    obtain ⟨entry, present, _⟩ := (inverse slot key).mp owner
    rw [empty] at present
    cases present

/-- The index and the reverse map hold just what was taken. -/
structure HoldsJust (core : ObjectStoreCore) (taken : List CheckpointEntry) : Prop where
  index : ∀ key, core.index.get? key = none ↔ ∀ other ∈ taken, other.key ≠ key
  owner : ∀ slot, core.slotOwner slot = none ↔ ∀ other ∈ taken, other.slot ≠ slot

theorem HoldsJust.nil (index : core.index = ∅) (owner : core.slotOwner = fun _ => none) :
    core.HoldsJust [] := by
  refine ⟨fun key => iff_of_true ?_ nofun, fun slot => iff_of_true ?_ nofun⟩
  · rw [index]
    rfl
  · rw [owner]

theorem HoldsJust.adopt {taken : List CheckpointEntry} (holds : core.HoldsJust taken)
    (entry : CheckpointEntry) (commitSeq : Nat) :
    (core.adoptEntry entry commitSeq).HoldsJust (taken ++ [entry]) := by
  have widened {Name : Type} (name : CheckpointEntry → Name) (query : Name) :
      (∀ other ∈ taken ++ [entry], name other ≠ query) ↔
        query ≠ name entry ∧ ∀ other ∈ taken, name other ≠ query := by
    simp [or_imp, forall_and, and_comm, eq_comm]
  refine ⟨fun key => ?_, fun slot => ?_⟩
  · rw [widened CheckpointEntry.key, ← holds.index, adoptEntry, OrderedDict.get?_set]
    by_cases same : key = entry.key
    · simp [same]
    · simp [same]
  · rw [widened CheckpointEntry.slot, ← holds.owner, adoptEntry]
    by_cases same : slot = entry.slot
    · simp [same]
    · simp [same]

/-- An entry is accepted if its header confirms it and nothing taken so far is in
its way. -/
theorem judgeEntry_accepted_of_holdsJust {base core : ObjectStoreCore} {media : Media}
    {taken : List CheckpointEntry} (same : SameJudge base core) (holds : core.HoldsJust taken)
    (entry : CheckpointEntry) :
    (∃ commitSeq, core.judgeEntry media entry = .accepted commitSeq) ↔
      base.confirms media entry = true ∧
        ∀ other ∈ taken, other.key ≠ entry.key ∧ other.slot ≠ entry.slot := by
  simp only [confirms_iff, judgeEntry_accepted_iff, holds.index, holds.owner, same.layout]
  constructor
  · rintro ⟨commitSeq, payload, key, slot, found⟩
    exact ⟨⟨commitSeq, payload, same.symm.confirmed found⟩, fun other member =>
      ⟨key other member, slot other member⟩⟩
  · rintro ⟨⟨commitSeq, payload, found⟩, apart⟩
    exact ⟨commitSeq, payload, fun other member => (apart other member).1,
      fun other member => (apart other member).2, same.confirmed found⟩

/-- From an empty index, recovery takes the first confirmed entry for each key
and slot. -/
theorem slots_recoverEntries {base core : ObjectStoreCore} (media : Media)
    (entries : List CheckpointEntry) {taken : List CheckpointEntry} {highest : Nat}
    (same : SameJudge base core) (holds : core.HoldsJust taken) :
    (recoverEntries media entries (taken.map CheckpointEntry.slot) highest core).1 =
      (base.firstConfirmed media entries taken).map CheckpointEntry.slot := by
  induction entries generalizing taken highest core with
  | nil => rfl
  | cons entry entries ih =>
    have verdict := @judgeEntry_accepted_of_holdsJust base core media taken same holds entry
    rw [recoverEntries, firstConfirmed]
    cases judged : core.judgeEntry media entry with
    | accepted commitSeq =>
      rw [if_pos (verdict.mp ⟨commitSeq, judged⟩)]
      have next := @ih (core.adoptEntry entry commitSeq) (taken ++ [entry])
        (max highest commitSeq) { same with }
        (holds.adopt entry commitSeq)
      rw [List.map_append] at next
      exact next
    | geometry | duplicate | header =>
      rw [if_neg]
      · exact ih { same with } ⟨holds.index, holds.owner⟩
      intro accepted
      obtain ⟨commitSeq, other⟩ := verdict.mpr accepted
      rw [judged] at other
      cases other

/-- The walk over the selected checkpoint. -/
def walked (session : Session) : List Nat × Nat × ObjectStoreCore :=
  recoverEntries session.media (storedEntries session) [] 0 session.core

theorem loadCheckpoint_walked (session : Session) :
    (loadCheckpoint session).core.index = (walked session).2.2.index ∧
      (loadCheckpoint session).core.slotOwner = (walked session).2.2.slotOwner ∧
      (loadCheckpoint session).core.allocator =
        claimRecovered session.core.allocator (walked session).1 := by
  unfold walked storedEntries loadCheckpoint
  split
  · rename_i nothing
    rw [nothing]
    exact ⟨rfl, rfl, rfl⟩
  rename_i sequence entries found
  rw [found]
  dsimp only [Option.map_some, Option.getD_some, adoptCheckpoint]
  have start : SameJudge session.core { session.core with
      checkpointSeq := sequence
      recovery := { checkpointAvailable := true, checkpointEntries := entries.length } } :=
    ⟨rfl, rfl, rfl⟩
  obtain ⟨slots, index, owner⟩ := @recoverEntries_congr session.media entries [] 0 0 _ _ start
    rfl rfl
  refine ⟨index, owner, ?_⟩
  obtain ⟨_, _, _, frame⟩ := recoverEntries_frame session.media entries [] 0 _
  rw [slots, frame]

variable {session : Session}

theorem recovering_walked (inverse : session.core.Inverse) :
    Recovering session.core session.media (walked session).2.2 (walked session).1 :=
  (@Recovering.start session.core session.media inverse session.core.recovery
    session.core.checkpointSeq).recoverEntries (storedEntries session) 0

/-! ## What a successful open leaves -/

variable {faults : OpenFaults} {allocator : SpaceAllocator} {config : StoreConfig}

/-- The groups that are ready depend on the layout and the segment files. -/
structure SameGroups (session other : Session) : Prop where
  placement : other.core.placement = session.core.placement
  groupSlots : other.core.groupSlots = session.core.groupSlots
  mountCount : other.core.mountCount = session.core.mountCount
  totalSlots : other.core.allocator.totalSlots = session.core.allocator.totalSlots
  segment : other.media.segment = session.media.segment

theorem SameGroups.groupReady {other : Session} (same : SameGroups session other) (slot : Nat) :
    GroupReady other slot ↔ GroupReady session slot := by
  unfold GroupReady FileReady groupPaths
  rw [same.placement, same.groupSlots, same.mountCount, same.totalSlots, same.segment]

theorem AdoptedGroups.congr {other : Session} {adopted : Nat} (same : SameGroups session other)
    (counted : AdoptedGroups other adopted) :
    AdoptedGroups session adopted := by
  refine ⟨fun group inside => ?_, ?_⟩
  · have ready := counted.ready group inside
    rw [same.groupSlots, same.totalSlots, same.groupReady] at ready
    exact ready
  · have stopped := counted.stopped
    rw [same.groupSlots, same.totalSlots, same.groupReady] at stopped
    exact stopped

/-- The groups that are ready on the media are counted in one way. -/
theorem AdoptedGroups.unique {first second : Nat} (counted : AdoptedGroups session first)
    (counted' : AdoptedGroups session second) :
    first = second := by
  have ordered : ∀ {low high : Nat}, AdoptedGroups session low → AdoptedGroups session high →
      ¬ low < high := by
    intro low high stops passes smaller
    obtain ⟨inside, made⟩ := passes.ready low smaller
    rcases stops.stopped with beyond | missing
    · omega
    · exact missing made
  exact le_antisymm (not_lt.mp (ordered counted' counted)) (not_lt.mp (ordered counted counted'))

section

variable {reached checked adopted mapped : Session}
  (stages : Stages session config faults allocator checked adopted mapped reached)
  (inverse : session.core.Inverse)
include stages inverse

/-- The members that `open` takes from the checkpoint, and those it takes over
from the object it runs on. -/
theorem Stages.result :
    reached.core.index = (walked checked).2.2.index ∧
      reached.core.slotOwner = (walked checked).2.2.slotOwner ∧
      reached.core.pins = session.core.pins ∧
      ∃ limit, reached.core.allocator =
        (claimRecovered allocator (walked checked).1).setReadyLimit limit ∧
          (config.readOnly = true → limit = allocator.readyLimit) := by
  obtain ⟨core_checked, _⟩ := ensureCheckpoint_ok stages.checkpoint
  obtain ⟨index, owner, claimed⟩ := loadCheckpoint_walked checked
  obtain ⟨slots, _, _, _, _, _, loaded⟩ := stages.loaded inverse
  obtain ⟨precreated, limit, adopted_core, ready, _⟩ := adoptMedia_ok stages.adopt
  obtain ⟨own, peers, mapped_core, _⟩ := mapResidency_ok stages.residency
  have allocated : checked.core.allocator = allocator := by rw [core_checked]; rfl
  have config_eq : (loadCheckpoint checked).core.config = config := by
    rw [loaded]
    rfl
  have same : (loadCheckpoint checked).core.pins = session.core.pins := by
    rw [loaded]
    rfl
  have readyLimit : (loadCheckpoint checked).core.allocator.readyLimit = allocator.readyLimit := by
    rw [loaded]
    exact (claimed_claimRecovered
      (pristine_configure stages.geometry.configured) slots).geometry.readyLimit
  rw [allocated] at claimed
  rw [stages.reached, mapped_core, adopted_core, ← claimed]
  refine ⟨index, owner, same, limit, rfl, fun reader => ?_⟩
  rcases ready with ⟨_, _, kept⟩ | ⟨writer, _⟩
  · rw [kept, readyLimit]
  · rw [config_eq, reader] at writer
    cases writer

/-- The groups that a writer finds ready decide how much it publishes. -/
theorem Stages.adoptedGroups (writer : config.readOnly = false)
    (idle : session.core.precreateBusy = false) {found : Session}
    (same : SameGroups found (loadCheckpoint checked)) {groups : Nat}
    (start : session.core.precreated =
      min found.core.allocator.totalSlots (groups * found.core.groupSlots))
    (below : ∀ group < groups,
      group * found.core.groupSlots < found.core.allocator.totalSlots ∧
        GroupReady found (group * found.core.groupSlots)) :
    ∃ counted, AdoptedGroups found counted ∧
      reached.core.precreated =
        min found.core.allocator.totalSlots (max counted 1 * found.core.groupSlots) ∧
      reached.core.allocator.readyLimit = reached.core.precreated := by
  obtain ⟨slots, _, _, _, _, _, loaded⟩ := stages.loaded inverse
  have laid := stages.wellLaid inverse
  have adopt := stages.adopt
  generalize loadCheckpoint checked = read at loaded same laid adopt
  rw [← same.totalSlots, ← same.groupSlots] at start
  have below : ∀ group < groups, group * read.core.groupSlots < read.core.allocator.totalSlots ∧
      GroupReady read (group * read.core.groupSlots) := by
    intro group inside
    rw [same.groupSlots, same.totalSlots, same.groupReady]
    exact below group inside
  obtain ⟨core, left⟩ := read
  subst loaded
  obtain ⟨counted, groups_eq, precreated, provisioned⟩ :=
    adoptMedia_writer laid writer idle start below adopt
  have limit := (provisioned.map stages.residency).limit
  obtain ⟨_, _, mapped_core, _⟩ := mapResidency_ok stages.residency
  refine ⟨counted, groups_eq.congr same, ?_, ?_⟩
  · rw [stages.reached, mapped_core]
    rw [precreated, same.totalSlots, same.groupSlots]
  · rw [stages.reached]
    exact limit

end

/-! ## What close leaves -/

/-- `close` may write the checkpoint; of the object it resets the bitmaps and the
open flag. -/
theorem close_core (opened : session.core.opened = true) (outcome : WriteOutcome) :
    ∃ sequence dirty, (close session outcome).2.core = { session.core with
        checkpointSeq := sequence
        checkpointDirty := dirty
        ownResidency := none
        peerResidency := []
        opened := false } ∧
      (close session outcome).2.media.segment = session.media.segment := by
  unfold close
  rw [if_neg (Bool.not_eq_false _ ▸ opened)]
  dsimp only
  split
  · obtain ⟨sequence, dirty, core⟩ := core_persistCheckpoint session outcome
    refine ⟨sequence, dirty, ?_, (media_persistCheckpoint session outcome).1⟩
    rw [core]
  · exact ⟨_, _, rfl, rfl⟩

/-- What is known of an object that ran and was closed. -/
structure ClosedStore (config : StoreConfig) (closed : Session) : Prop where
  shut : closed.core.opened = false
  config_eq : closed.core.config = config
  inverse : closed.core.Inverse
  laid : closed.core.WellLaid
  regionLaid : closed.core.RegionLaid
  placement : closed.core.placement = placementOf config
  groupSlots : closed.core.groupSlots =
    config.segmentFileSlots * (firstOccurrences config.devices).length
  mountCount : closed.core.mountCount = (firstOccurrences config.devices).length
  totalSlots : closed.core.allocator.totalSlots =
    capacityOf config (slotSize config) / slotSize config
  containerBytes : closed.core.containerBytes =
    checkpointContainerBytes closed.core.allocator.totalSlots maxKeyBytes
  region : config.readOnly = false → ∃ file, Region closed file
  provisioned : config.readOnly = false → Provisioned closed
  unlimited : config.readOnly = true → closed.core.allocator.readyLimit = uint64Size - 1

theorem Move.readyLimit_reader {slips drains : Bool} {next : Session}
    (move : Move slips drains session next) (reader : session.core.config.readOnly = true) :
    next.core.allocator.readyLimit = session.core.allocator.readyLimit := by
  have contrary : session.core.config.readOnly = false →
      next.core.allocator.readyLimit = session.core.allocator.readyLimit := by
    intro writer
    rw [reader] at writer
    cases writer
  cases move with
  | grant writer _ _ _ _ | commit writer _ | record _ writer _ | refuse writer
  | spoil _ writer _ _ | abort writer _ | release writer _ _ =>
    exact contrary writer
  | pins _ => rfl
  | drainReclaim _ max zeroing =>
    exact (finishReclaim_sameExtent _ _).readyLimit.trans (requeueReclaim_sameExtent _ _).readyLimit
  | precreateStep headroom faults =>
    unfold ObjectStoreCore.precreateStep precreateBegin
    by_cases closed : session.core.opened = false
    · rw [if_pos closed]
    · rw [if_neg closed, if_pos reader]
  | checkpoint outcome =>
    obtain ⟨_, _, core⟩ := core_checkpoint session outcome
    rw [core]

/-- A reader's ready limit stays where it was. -/
theorem readyLimit_reader (sound : session.core.allocator.Sound)
    (reader : session.core.config.readOnly = true) (operations : List StoreOp) :
    (runFrom step session operations).core.allocator.readyLimit =
      session.core.allocator.readyLimit := by
  have kept := run_keep
    (motive := fun reached => reached.core.allocator.Sound ∧
      reached.core.config.readOnly = true ∧
      reached.core.allocator.readyLimit = session.core.allocator.readyLimit)
    (fun _ holds => holds.1) (fun _ _ move holds => ⟨move.sound holds.1,
      by rw [move.sameStore.config]; exact holds.2.1,
      (move.readyLimit_reader holds.2.1).trans holds.2.2⟩) ⟨sound, reader, rfl⟩ operations
  exact kept.2.2

theorem closedStore {media : Media}
    (ok : openStore ⟨fresh, media⟩ config faults = (.ok (), session)) (operations : List StoreOp)
    (outcome : WriteOutcome) :
    ClosedStore config (close (runFrom step session operations) outcome).2 := by
  have opened := freshOpen ok
  have same := sameStore_run opened.sound operations
  have running := (running_of_open ok).run operations
  have mirrored := (mirrored_of_open ok).run operations
  have owned := opened.owned.run operations
  have config_eq := same.config.trans opened.config_eq
  have unlimited : config.readOnly = true →
      (runFrom step session operations).core.allocator.readyLimit = uint64Size - 1 := by
    intro reader
    rcases opened.ready with ⟨_, unlimited⟩ | ⟨writer, _⟩
    · rw [readyLimit_reader opened.sound (by rw [opened.config_eq]; exact reader), unlimited]
    · rw [reader] at writer
      cases writer
  generalize runFrom step session operations = reached at *
  have totalSlots : reached.core.allocator.totalSlots =
      capacityOf config (slotSize config) / slotSize config := by
    obtain ⟨allocator, geometry, total⟩ := opened.geometry
    rw [same.totalSlots, total]
    exact geometry.totalSlots_eq.1
  have containerBytes : reached.core.containerBytes =
      checkpointContainerBytes reached.core.allocator.totalSlots maxKeyBytes := by
    rw [same.containerBytes, same.totalSlots]
    exact opened.containerBytes
  have placement := same.placement.trans opened.placement
  have groupSlots := same.groupSlots.trans opened.groupSlots
  have mountCount := same.mountCount.trans opened.mountCount
  have open_ := same.opened.trans opened.opened
  obtain ⟨sequence, dirty, core, segment⟩ := close_core open_ outcome
  have region : config.readOnly = false → ∃ file, Region (close reached outcome).2 file := by
    intro writer
    obtain ⟨file, region⟩ := mirrored.region (by rw [config_eq]; exact writer)
    unfold close
    rw [if_neg (Bool.not_eq_false _ ▸ open_)]
    split
    · obtain ⟨next, region⟩ := region.persistCheckpoint mirrored.laid outcome
      exact ⟨next, region.found, region.long⟩
    · exact ⟨file, region.found, region.long⟩
  generalize (close reached outcome).2 = closed at *
  obtain ⟨closedCore, closedMedia⟩ := closed
  subst core
  exact {
    shut := rfl
    config_eq := config_eq
    inverse := owned.owner_iff
    laid := { running.laid with }
    regionLaid := { mirrored.laid with }
    placement
    groupSlots
    mountCount
    totalSlots
    containerBytes
    region
    provisioned := by
      intro writer
      have provisioned := running.provisioned (by rw [config_eq]; exact writer)
      obtain ⟨groups, positive, built, below⟩ := provisioned.groups
      refine ⟨provisioned.idle, provisioned.limit, groups, positive, built, fun group inside => ?_⟩
      obtain ⟨started, made⟩ := below group inside
      refine ⟨started, fun path member => ?_⟩
      unfold FileReady
      rw [segment]
      exact made path member
    unlimited }

/-! ## Two ways to open -/

/-- What `open` has in hand when it turns to the checkpoint on the media of the
closed object. -/
structure Finds (closed : Session) (base : ObjectStoreCore) (allocator : SpaceAllocator)
    (checked : Session) : Prop where
  media : checked.media = closed.media
  stored : storedEntries checked = storedEntries closed
  judge : SameJudge closed.core checked.core
  index : checked.core.index = base.index
  slotOwner : checked.core.slotOwner = base.slotOwner
  allocator : checked.core.allocator = allocator

variable {base : ObjectStoreCore}

theorem ClosedStore.finds {closed checked : Session} (store : ClosedStore config closed)
    (geometry : GeometryOk base config allocator)
    (ok : ensureCheckpoint ⟨base.withGeometry config allocator, closed.media⟩ faults =
      (.ok (), checked)) : Finds closed base allocator checked := by
  obtain ⟨core, _⟩ := ensureCheckpoint_ok ok
  have total : allocator.totalSlots = closed.core.allocator.totalSlots :=
    geometry.totalSlots_eq.1.trans store.totalSlots.symm
  have size : checked.core.containerBytes = closed.core.containerBytes := by
    rw [core, store.containerBytes, ← total]
    rfl
  have root : checked.core.config.root = closed.core.config.root := by
    rw [core, store.config_eq]
    rfl
  have media : checked.media = closed.media := by
    rcases ensureCheckpoint_region (store.regionLaid.congr size) ok with
      ⟨_, same⟩ | ⟨writer, _, kept⟩
    · exact same
    obtain ⟨file, region⟩ := store.region writer
    refine kept file ⟨?_, ?_⟩
    · rw [root]
      exact region.found
    · rw [size]
      exact region.long
  have stored : storedEntries checked = storedEntries closed := by
    unfold storedEntries containerSequences readContainer
    rw [media, root, size]
  obtain ⟨checkedCore, _⟩ := checked
  subst core
  exact ⟨media, stored, ⟨store.placement.symm, congrArg StoreConfig.layout store.config_eq.symm,
    total⟩, rfl, rfl, rfl⟩

/-- The slots that `open` takes from the checkpoint when the index is empty. -/
theorem Finds.slots {closed checked : Session} (finds : Finds closed base allocator checked)
    (index : base.index = ∅) (owner : base.slotOwner = fun _ => none) :
    (walked checked).1 = (closed.core.firstConfirmed closed.media (storedEntries closed) []).map
      CheckpointEntry.slot := by
  have nothing := HoldsJust.nil (finds.index.trans index) (finds.slotOwner.trans owner)
  have walk := @slots_recoverEntries closed.core checked.core checked.media
    (storedEntries checked) [] 0 finds.judge nothing
  rw [finds.media, finds.stored] at walk
  unfold walked
  rw [finds.media, finds.stored]
  exact walk

/-- The members that a reopened store is compared on. -/
structure Agrees (core other : ObjectStoreCore) : Prop where
  index : ∀ key, core.index.get? key = other.index.get? key
  slotOwner : core.slotOwner = other.slotOwner
  states : core.allocator.states = other.allocator.states
  readyLimit : core.allocator.readyLimit = other.allocator.readyLimit
  pins : core.pins = other.pins

/-- No `reserve` hands out the slot of a key that `contains` reports. -/
def NoClash (core : ObjectStoreCore) : Prop :=
  ∀ keys outcome next, core.reserve keys = (.ok outcome, next) →
    ∀ key entry, core.index.get? key = none → next.index.get? key = some entry →
      ∀ other held, core.contains other = true → core.index.get? other = some held →
        held.slot ≠ entry.slot

theorem Owned.noClash (owned : core.Owned) : core.NoClash := by
  intro keys outcome next reserved key entry absent granted other held _ present same
  have stepped : next = (step ⟨core, .blank⟩ (.reserve keys)).core := by
    rw [step, reserved]
  have owned' : next.Owned := by
    rw [stepped]
    exact @Owned.run ⟨core, .blank⟩ owned [.reserve keys]
  have kept := reserve_keeps keys present
  rw [reserved] at kept
  have equal := owned'.key_unique kept granted same
  subst equal
  rw [absent] at present
  cases present

/-- What comes of opening an object on the media of the closed one. -/
structure OpensTo (closed : Session) (base : ObjectStoreCore) (allocator : SpaceAllocator)
    (checked reached : Session) : Prop where
  finds : Finds closed base allocator checked
  totalSlots : allocator.totalSlots = closed.core.allocator.totalSlots
  readyLimit : allocator.readyLimit = base.allocator.readyLimit
  recovering : Recovering checked.core checked.media (walked checked).2.2 (walked checked).1
  index : reached.core.index = (walked checked).2.2.index
  slotOwner : reached.core.slotOwner = (walked checked).2.2.slotOwner
  pins : reached.core.pins = base.pins
  sound : reached.core.allocator.Sound
  states : ∀ slot, reached.core.allocator.states slot =
    if slot < claimGranted allocator (walked checked).1 then
      if slot ∈ (walked checked).1 then .committed else .reclaiming
    else .free

section Reopening

variable {closed reopened renewed checked checked' reached : Session}
  {first second : SpaceAllocator}

/-- Every slot that the checkpoint brings back exists. -/
theorem OpensTo.lt_totalSlots {allocator : SpaceAllocator}
    (opens : OpensTo closed base allocator checked reached) {slot : Nat}
    (member : slot ∈ (walked checked).1) : slot < closed.core.allocator.totalSlots := by
  obtain ⟨_, _, _, _, rfl, confirmed⟩ := opens.recovering.collected slot member
  have inRange := confirmed.lt_totalSlots
  rw [opens.finds.allocator, opens.totalSlots] at inRange
  exact inRange

section

variable (store : ClosedStore config closed) (shut : base.opened = false) (inverse : base.Inverse)
  (ok : openStore ⟨base, closed.media⟩ config faults = (.ok (), reached))
include store shut inverse ok

omit store in
/-- The ready limit of a reader is the one the object had. -/
theorem readyLimit_of_reader (reader : config.readOnly = true) :
    reached.core.allocator.readyLimit = base.allocator.readyLimit := by
  obtain ⟨allocator, checked, adopted, mapped, stages⟩ := openStore_ok shut ok
  obtain ⟨_, _, _, limit, claims, kept⟩ := stages.result inverse
  rw [claims]
  exact (kept reader).trans stages.geometry.totalSlots_eq.2

theorem ClosedStore.opensTo :
    ∃ allocator checked, OpensTo closed base allocator checked reached := by
  obtain ⟨allocator, checked, adopted, mapped, stages⟩ := openStore_ok shut ok
  have finds := store.finds stages.geometry stages.checkpoint
  obtain ⟨index, slotOwner, pins, limit, claims, _⟩ := stages.result inverse
  have claimed := claimed_claimRecovered
    (pristine_configure stages.geometry.configured) (walked checked).1
  have inverse' : checked.core.Inverse := by
    intro slot key
    rw [finds.index, finds.slotOwner]
    exact inverse slot key
  refine ⟨allocator, checked, finds, ?_, stages.geometry.totalSlots_eq.2,
    recovering_walked inverse', index, slotOwner, pins, ?_, ?_⟩
  · exact stages.geometry.totalSlots_eq.1.trans store.totalSlots.symm
  · rw [claims]
    exact claimed.sound.setReadyLimit limit
  · rw [claims]
    exact claimed.states

/-- The ready limit of a writer follows from the files on the media. -/
theorem ClosedStore.readyLimit_writer (writer : config.readOnly = false)
    (idle : base.precreateBusy = false) {groups : Nat} (start : base.precreated =
      min closed.core.allocator.totalSlots (groups * closed.core.groupSlots))
    (below : ∀ group < groups,
      group * closed.core.groupSlots < closed.core.allocator.totalSlots ∧
        GroupReady closed (group * closed.core.groupSlots)) :
    ∃ adopted, AdoptedGroups closed adopted ∧ reached.core.allocator.readyLimit =
      min closed.core.allocator.totalSlots (max adopted 1 * closed.core.groupSlots) := by
  obtain ⟨allocator, checked, adopted, mapped, stages⟩ := openStore_ok shut ok
  have finds := store.finds stages.geometry stages.checkpoint
  obtain ⟨slots, _, _, _, _, _, loaded⟩ := stages.loaded inverse
  have claimed := claimed_claimRecovered (pristine_configure stages.geometry.configured) slots
  have total : allocator.totalSlots = closed.core.allocator.totalSlots :=
    stages.geometry.totalSlots_eq.1.trans store.totalSlots.symm
  have same : SameGroups closed (loadCheckpoint checked) := by
    refine ⟨?_, ?_, ?_, ?_, ?_⟩
    · rw [loaded, store.placement]
      rfl
    · rw [loaded, store.groupSlots]
      rfl
    · rw [loaded, store.mountCount]
      rfl
    · rw [loaded, ← total]
      exact claimed.geometry.totalSlots
    · rw [(sameFiles_loadCheckpoint checked).segment, finds.media]
  obtain ⟨counted, found, precreated, limit⟩ :=
    stages.adoptedGroups inverse writer idle same start below
  exact ⟨counted, found, limit.trans precreated⟩

end

/-- Both ways of opening end up with the same ready limit. -/
theorem readyLimit_agrees (store : ClosedStore config closed) {faults' : OpenFaults}
    (again : openStore closed config faults = (.ok (), reopened))
    (anew : openStore ⟨fresh, closed.media⟩ config faults' = (.ok (), renewed)) :
    reopened.core.allocator.readyLimit = renewed.core.allocator.readyLimit := by
  cases mode : config.readOnly with
  | true =>
    rw [readyLimit_of_reader store.shut store.inverse again mode,
      readyLimit_of_reader rfl inverse_fresh anew mode, store.unlimited mode]
    rfl
  | false =>
    have provisioned := store.provisioned mode
    obtain ⟨groups, _, start, below⟩ := provisioned.groups
    obtain ⟨adopted, counted, limit⟩ := store.readyLimit_writer store.shut store.inverse again
      mode provisioned.idle start below
    have cold : fresh.precreated =
        min closed.core.allocator.totalSlots (0 * closed.core.groupSlots) := by
      rw [Nat.zero_mul, min_zero]
      rfl
    obtain ⟨adopted', counted', limit'⟩ := store.readyLimit_writer rfl inverse_fresh anew mode
      rfl cold fun _ inside => absurd inside (Nat.not_lt_zero _)
    rw [limit, limit', counted.unique counted']

variable (opens' : OpensTo closed fresh second checked' renewed)
  (small : closed.core.allocator.totalSlots < uint64Size)
include opens' small

/-- In a new object every slot that the checkpoint brings back is committed. -/
theorem OpensTo.committed_anew {slot : Nat} (member : slot ∈ (walked checked').1) :
    renewed.core.allocator.states slot = .committed := by
  have inRange := opens'.lt_totalSlots member
  have limit : second.readyLimit = uint64Size - 1 := opens'.readyLimit
  have granted : slot < claimGranted second (walked checked').1 := by
    have bound := lt_claimBound member
    have total := opens'.totalSlots
    unfold claimGranted
    omega
  rw [opens'.states, if_pos granted, if_pos member]

variable (opens : OpensTo closed closed.core first checked reopened)
include opens

/-- A key that lived through the reopen sits in a slot that is not committed, so
the object does not agree with a new one. -/
theorem index_empty_of_agrees (inverse : closed.core.Inverse)
    (agrees : Agrees reopened.core renewed.core) (key : ObjectKey) :
    closed.core.index.get? key = none := by
  cases present : closed.core.index.get? key with
  | none => rfl
  | some entry =>
    have held : reopened.core.index.get? key = some entry := by
      rw [opens.index]
      refine opens.recovering.kept key entry ?_
      rw [opens.finds.index]
      exact present
    have owner : closed.core.slotOwner entry.slot = some key :=
      (inverse entry.slot key).mpr ⟨entry, present, rfl⟩
    have unlisted : entry.slot ∉ (walked checked).1 := by
      intro member
      have unowned := (opens.recovering.collected _ member).1
      rw [opens.finds.slotOwner, owner] at unowned
      cases unowned
    -- In the new object the slot of the key is committed.
    have anew := agrees.index key
    rw [held, opens'.index] at anew
    have committed : renewed.core.allocator.states entry.slot = .committed := by
      rcases opens'.recovering.origin key entry anew.symm with old | ⟨_, located, _⟩
      · rw [opens'.finds.index] at old
        cases old
      · exact opens'.committed_anew small located
    rw [← agrees.states, opens.states] at committed
    split at committed <;> cases committed

/-- The slots of an empty object that is opened again are those of a new one. -/
theorem agrees_of_empty (store : ClosedStore config closed) {faults' : OpenFaults}
    (again : openStore closed config faults = (.ok (), reopened))
    (anew : openStore ⟨fresh, closed.media⟩ config faults' = (.ok (), renewed))
    (empty : closed.core.index = ∅) (unpinned : ∀ key, closed.core.pins key = 0)
    (below : ∀ entry ∈ closed.core.firstConfirmed closed.media (storedEntries closed) [],
      entry.slot < closed.core.allocator.readyLimit) : Agrees reopened.core renewed.core := by
  have unowned := store.inverse.unowned empty
  have judge : SameJudge checked.core checked'.core :=
    opens.finds.judge.symm.trans opens'.finds.judge
  have index : checked'.core.index = checked.core.index := by
    rw [opens.finds.index, opens'.finds.index, empty]
    rfl
  have owner : checked'.core.slotOwner = checked.core.slotOwner := by
    rw [opens.finds.slotOwner, opens'.finds.slotOwner, unowned]
    rfl
  obtain ⟨slots_eq, index_eq, owner_eq⟩ := @recoverEntries_congr closed.media
    (storedEntries closed) [] 0 0 _ _ judge index owner
  have walk : walked checked = recoverEntries closed.media (storedEntries closed) [] 0
      checked.core := by
    rw [walked, opens.finds.media, opens.finds.stored]
  have walk' : walked checked' = recoverEntries closed.media (storedEntries closed) [] 0
      checked'.core := by
    rw [walked, opens'.finds.media, opens'.finds.stored]
  rw [← walk, ← walk'] at slots_eq index_eq owner_eq
  have granted : claimGranted first (walked checked).1 = claimBound (walked checked).1 := by
    refine min_eq_left (claimBound_le fun slot member => ?_)
    rw [opens.totalSlots, opens.readyLimit]
    have inRange := opens.lt_totalSlots member
    rw [opens.finds.slots empty unowned] at member
    obtain ⟨entry, taken, rfl⟩ := List.mem_map.mp member
    exact lt_min inRange (below entry taken)
  have granted' : claimGranted second (walked checked').1 = claimBound (walked checked').1 := by
    refine min_eq_left (claimBound_le fun slot member => ?_)
    have inRange := opens'.lt_totalSlots member
    have unlimited : second.readyLimit = uint64Size - 1 := opens'.readyLimit
    rw [opens'.totalSlots]
    omega
  refine ⟨fun key => ?_, ?_, ?_, readyLimit_agrees store again anew, ?_⟩
  · rw [opens.index, opens'.index, index_eq]
  · rw [opens.slotOwner, opens'.slotOwner, owner_eq]
  · funext slot
    rw [opens.states, opens'.states, granted, granted', slots_eq]
  rw [opens.pins, opens'.pins]
  funext key
  exact unpinned key

end Reopening

/-- Closing an object after any run and opening it again agrees with opening a
new object on the same media, and no slot that is in use is ever handed out
afterwards, exactly if the object was closed with an empty index and no pins and
the slots that the checkpoint brings back lie below the old ready limit. -/
theorem reopen_agrees_iff {media : Media} {config : StoreConfig} {faults : OpenFaults}
    {session : Session} (ok : openStore ⟨fresh, media⟩ config faults = (.ok (), session))
    (operations : List StoreOp) (outcome : WriteOutcome) {closed reopened renewed : Session}
    (closed_eq : closed = (close (runFrom step session operations) outcome).2)
    {faults' faults'' : OpenFaults} (again : openStore closed config faults' = (.ok (), reopened))
    (anew : openStore ⟨fresh, closed.media⟩ config faults'' = (.ok (), renewed)) :
    (Agrees reopened.core renewed.core ∧
      ∀ later, NoClash (runFrom step reopened later).core) ↔
      closed.core.index = ∅ ∧ (∀ key, closed.core.pins key = 0) ∧
        ∀ entry ∈ closed.core.firstConfirmed closed.media (storedEntries closed) [],
          entry.slot < closed.core.allocator.readyLimit := by
  have store : ClosedStore config closed := by
    rw [closed_eq]
    exact closedStore ok operations outcome
  obtain ⟨first, checked, opens⟩ := store.opensTo store.shut store.inverse again
  obtain ⟨second, checked', opens'⟩ := store.opensTo rfl inverse_fresh anew
  have small : closed.core.allocator.totalSlots < uint64Size := by
    have bounded := store.laid.totalSlots_small
    rw [alignment] at bounded
    omega
  constructor
  · rintro ⟨agrees, _⟩
    have absent := index_empty_of_agrees opens' small opens store.inverse agrees
    have empty : closed.core.index = ∅ := OrderedDict.eq_empty_of_get? absent
    refine ⟨empty, fun key => ?_, fun entry taken => ?_⟩
    · have same := agrees.pins
      rw [opens.pins, opens'.pins] at same
      exact congrFun same key
    have member' : entry.slot ∈ (walked checked').1 := by
      rw [opens'.finds.slots rfl rfl]
      exact List.mem_map_of_mem taken
    have committed := opens'.committed_anew small member'
    rw [← agrees.states, opens.states] at committed
    split at committed
    · rename_i inside
      rw [claimGranted, opens.readyLimit] at inside
      omega
    · cases committed
  · rintro ⟨empty, unpinned, below⟩
    have agrees := agrees_of_empty opens' small opens store again anew empty unpinned below
    refine ⟨agrees, fun later => ?_⟩
    have renewed_owned := (freshOpen anew).owned
    have owned : reopened.core.Owned := by
      refine ⟨opens.sound, fun slot key => ?_, fun key entry present => ?_⟩
      · rw [opens.slotOwner, opens.index]
        exact opens.recovering.owner_iff slot key
      rw [agrees.index] at present
      have inUse := renewed_owned.inUse key entry present
      unfold InUse at inUse ⊢
      rw [agrees.states]
      exact inUse
    exact (owned.run later).noClash

/-! ## A reservation that outlives its allocator -/

/-- Opening a store of two slots on media whose checkpoint file is empty. -/
theorem openStore_zeros {chosen : StoreConfig} (valid : checkConfig chosen = .ok ())
    (writer : chosen.readOnly = false) {core : ObjectStoreCore} (shut : core.opened = false)
    {media : Media} (file : media.checkpoint chosen.root = some (List.replicate 16384 0))
    {placed : ObjectStoreCore} (geometry : core.setGeometry chosen = (.ok (), placed))
    {adopted mapped : Session}
    (adopt : adoptMedia ⟨{ placed with containerBytes := 8192, recovery := {} }, media⟩ {} =
      (.ok (), adopted)) (total : placed.allocator.totalSlots = 2) (config : placed.config = chosen)
    (residency : mapResidency adopted {} = (.ok (), mapped)) :
    openStore ⟨core, media⟩ chosen {} =
      (.ok (), { mapped with core := { mapped.core with opened := true } }) := by
  have layout : ensureLayout ⟨placed, media⟩ {} = (.ok (), ⟨placed, media⟩) := by
    unfold ensureLayout
    rw [config, writer]
    rfl
  have checkpoint : ensureCheckpoint ⟨placed, media⟩ {} =
      (.ok (), ⟨{ placed with containerBytes := 8192 }, media⟩) := by
    unfold ensureCheckpoint ensureMetadataFile
    dsimp only
    rw [total, config, writer, file, Option.getD_some, List.length_replicate]
    rfl
  have nothing := @loadCheckpoint_of_zeros ⟨{ placed with containerBytes := 8192 }, media⟩ 16384
    (by rw [← file, ← config])
  exact openStore_eq shut valid geometry layout checkpoint nothing adopt residency

/-- The pair with one reservation. -/
def oneReserved : Session := runFrom step pairSession [.reserve [[1]]]

/-- The same object, closed and opened again. -/
def oneReopened : Session :=
  ⟨{ oneReserved.core with allocator := pairSession.core.allocator }, pairSession.media⟩

theorem openStore_oneReserved :
    openStore (close oneReserved .done).2 pairConfig {} = (.ok (), oneReopened) := by
  have result := @openStore_zeros pairConfig rfl rfl (close oneReserved .done).2.core rfl
    (close oneReserved .done).2.media rfl _ rfl _ _ rfl rfl rfl rfl
  exact result

theorem openStore_pairAnew :
    openStore ⟨fresh, pairSession.media⟩ pairConfig {} = (.ok (), pairSession) := by
  have result := @openStore_zeros pairConfig rfl rfl fresh rfl pairSession.media rfl _ rfl _ _ rfl
    rfl rfl rfl
  exact result

/-- After the reopen the key still has slot 0, which the new allocator hands out
again: once the key is committed, `contains` reports it while another key gets
its slot. -/
theorem oneReserved_clashes :
    openStore (close oneReserved .done).2 pairConfig {} = (.ok (), oneReopened) ∧
      openStore ⟨fresh, (close oneReserved .done).2.media⟩ pairConfig {} = (.ok (), pairSession) ∧
      ¬ Agrees oneReopened.core pairSession.core ∧
      (runFrom step oneReopened [.commit [([1], .done)]]).core.contains [1] = true ∧
      ¬ NoClash (runFrom step oneReopened [.commit [([1], .done)]]).core := by
  refine ⟨openStore_oneReserved, openStore_pairAnew, fun agrees => ?_, by decide +kernel,
    fun apart => ?_⟩
  · have same := agrees.index [1]
    cases same
  · have held : (runFrom step oneReopened [.commit [([1], .done)]]).core.index.get? [1] =
        some ⟨0, 0, 1, true⟩ := by decide +kernel
    have granted : ((runFrom step oneReopened [.commit [([1], .done)]]).core.reserve
        [[2]]).2.index.get? [2] = some ⟨0, 0, 0, false⟩ := by decide +kernel
    exact apart [[2]] _ _ rfl [2] _ (by decide +kernel) granted [1] _ (by decide +kernel) held rfl

/-- The pair after both slots were granted and given back. -/
def givenBack : Session := runFrom step pairSession [.reserve [[1], [2]], .abort [[1], [2]]]

def backReopened : Session :=
  ⟨{ givenBack.core with allocator := pairSession.core.allocator }, pairSession.media⟩

theorem openStore_givenBack :
    openStore (close givenBack .done).2 pairConfig {} = (.ok (), backReopened) := by
  have result := @openStore_zeros pairConfig rfl rfl (close givenBack .done).2.core rfl
    (close givenBack .done).2.media rfl _ rfl _ _ rfl rfl rfl rfl
  exact result

/-- Two grants that were given back leave nothing behind: the object that is opened
again is like a new one. -/
theorem reopen_agrees_iff_pair :
    (runFrom step pairSession [.reserve [[1], [2]]]).core.index.entries =
        [([1], ⟨0, 0, 0, false⟩), ([2], ⟨1, 0, 0, false⟩)] ∧
      openStore (close givenBack .done).2 pairConfig {} = (.ok (), backReopened) ∧
      openStore ⟨fresh, (close givenBack .done).2.media⟩ pairConfig {} = (.ok (), pairSession) ∧
      Agrees backReopened.core pairSession.core ∧
      ∀ later, NoClash (runFrom step backReopened later).core := by
  have nothing : storedEntries (close givenBack .done).2 = [] := by
    have empty := @containerSequences_of_zeros (close givenBack .done).2 16384 rfl
    rw [storedEntries, empty]
    rfl
  have same := @reopen_agrees_iff _ _ _ _ openStore_pair [.reserve [[1], [2]], .abort [[1], [2]]]
    .done (close givenBack .done).2 _ _ rfl _ _ openStore_givenBack openStore_pairAnew
  refine ⟨by decide +kernel, openStore_givenBack, openStore_pairAnew,
    same.mpr ⟨rfl, fun key => rfl, ?_⟩⟩
  rw [nothing]
  rintro entry ⟨⟩

end ObjectStoreCore

end Tutti
