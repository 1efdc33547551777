import Tutti.Storage.SlotExclusivity

/-!
# Which slots are ready

The pool grows by whole groups of segment files. At every moment of a session the
groups below `precreated` have all their files on the media at full size with
their ready marker, and the allocator's ready limit is `precreated`. No other
operation of the store takes a file out of that state.
-/

namespace Tutti

open Foundation Function SpaceAllocator

theorem FixedSegmentFilePlacement.Sound.slot_le_fileBytes {placement : FixedSegmentFilePlacement}
    (sound : placement.Sound) (slot : Nat) :
    placement.headerOffsetForSlot slot + placement.slotBytes ≤ placement.fileBytes := by
  have place := Nat.mod_lt (slot / placement.mounts.length) sound.slotsPerFile_pos
  have packed : placement.slotsPerFile * placement.slotBytes ≤ placement.fileBytes := by
    unfold slotsPerFile
    rw [if_neg (pos_iff_ne_zero.mp sound.slotBytes_pos)]
    exact Nat.div_mul_le_self _ _
  calc placement.headerOffsetForSlot slot + placement.slotBytes
      = (slot / placement.mounts.length % placement.slotsPerFile + 1) * placement.slotBytes := by
        rw [Nat.succ_mul, headerOffsetForSlot]
    _ ≤ placement.slotsPerFile * placement.slotBytes := Nat.mul_le_mul_right _ place
    _ ≤ placement.fileBytes := packed

namespace ObjectStoreCore

/-! ## The layout of an open store -/

/-- What the checks of `open` guarantee about the layout. -/
structure WellLaid (core : ObjectStoreCore) : Prop where
  placement : core.placement.Sound
  slotBytes : core.slotBytes = core.placement.slotBytes
  header_le : alignment ≤ core.slotBytes
  groupSlots_pos : 0 < core.groupSlots
  totalSlots_pos : 0 < core.allocator.totalSlots
  totalSlots_small : core.allocator.totalSlots * alignment < uint64Size

variable {core next : ObjectStoreCore}

theorem WellLaid.congr (laid : core.WellLaid) (placement : next.placement = core.placement)
    (slotBytes : next.slotBytes = core.slotBytes) (groupSlots : next.groupSlots = core.groupSlots)
    (totalSlots : next.allocator.totalSlots = core.allocator.totalSlots) : next.WellLaid := by
  obtain ⟨sound, width, header, group, some, few⟩ := laid
  rw [← placement] at sound width
  rw [← slotBytes] at width header
  exact ⟨sound, width, header, groupSlots ▸ group, totalSlots ▸ some, totalSlots ▸ few⟩

theorem WellLaid.of_sameStore (laid : core.WellLaid) (same : SameStore core next) :
    next.WellLaid :=
  laid.congr same.placement same.slotBytes same.groupSlots same.totalSlots

/-- What `open` has checked of its argument. -/
structure ConfigOk (config : StoreConfig) : Prop where
  segmentBytes_pos : 0 < config.layout.segmentBytes
  segmentCount_pos : 0 < config.layout.segmentCount
  segment_aligned : config.layout.segmentBytes % alignment = 0
  fileSlots_pos : 0 < config.segmentFileSlots
  header_le : alignment ≤ config.segmentHeaderBytes
  header_aligned : config.segmentHeaderBytes % alignment = 0

variable {config : StoreConfig}

theorem checkConfig_ok (ok : checkConfig config = .ok ()) :
    ConfigOk config := by
  unfold checkConfig at ok
  split at ok
  · cases ok
  split at ok
  · cases ok
  rename_i layout
  push Not at layout
  split at ok
  · cases ok
  rename_i segment
  split at ok
  · cases ok
  rename_i slots
  split at ok
  · cases ok
  rename_i header
  push Not at header
  exact ⟨pos_of_ne_zero layout.1, pos_of_ne_zero layout.2,
    not_not.mp segment, pos_of_ne_zero slots, header.1, header.2⟩

theorem GeometryOk.wellLaid {allocator : SpaceAllocator}
    (geometry : GeometryOk core config allocator) :
    (core.withGeometry config allocator).WellLaid := by
  have checked := checkConfig_ok geometry.checked
  have sound := geometry.placement_sound
  have wide : alignment ≤ slotSize config := le_trans checked.header_le (Nat.le_add_right _ _)
  obtain ⟨_, positive, rfl⟩ := configure_eq_some_iff.mp geometry.configured
  refine ⟨sound, rfl, wide, ?_, pos_of_ne_zero positive, ?_⟩
  · exact mul_pos checked.fileSlots_pos (List.length_pos_of_ne_nil sound.mounts_ne_nil)
  calc capacityOf config (slotSize config) / slotSize config * alignment
      ≤ capacityOf config (slotSize config) / slotSize config * slotSize config :=
        Nat.mul_le_mul_left _ wide
    _ ≤ capacityOf config (slotSize config) := Nat.div_mul_le_self _ _
    _ < uint64Size := capacityOf_lt config (slotSize config)

variable {media : Media} {session : Session}

theorem FreshOpen.wellLaid (opened : FreshOpen media config session) : session.core.WellLaid := by
  obtain ⟨allocator, geometry, totalSlots⟩ := opened.geometry
  exact geometry.wellLaid.congr opened.placement opened.slotBytes opened.groupSlots totalSlots

/-! ## Ready files -/

/-- The file exists at full size with its ready marker. -/
def FileReady (media : Media) (fileBytes : Nat) (path : SegmentPath) : Prop :=
  ∃ file, media.segment path = some file ∧ file.size = fileBytes ∧ file.ready = some fileBytes

/-- Every file of the group that contains a slot is ready. -/
def GroupReady (session : Session) (slot : Nat) : Prop :=
  ∀ path ∈ session.core.groupPaths slot,
    FileReady session.media session.core.placement.fileBytes path

/-- Every file that is ready stays ready. -/
def KeepsReady (fileBytes : Nat) (before after : Media) : Prop :=
  ∀ path, FileReady before fileBytes path → FileReady after fileBytes path

theorem KeepsReady.refl (fileBytes : Nat) (media : Media) : KeepsReady fileBytes media media :=
  fun _ ready => ready

variable {fileBytes : Nat}

theorem KeepsReady.trans {first second third : Media} (left : KeepsReady fileBytes first second)
    (right : KeepsReady fileBytes second third) :
    KeepsReady fileBytes first third :=
  fun path ready => right path (left path ready)

theorem SameFiles.keepsReady {before after : Media} (same : SameFiles before after)
    (fileBytes : Nat) : KeepsReady fileBytes before after := by
  intro path ready
  unfold FileReady
  rw [same.segment]
  exact ready

variable {path : SegmentPath}

/-- Overwriting a file within its size keeps it ready. -/
theorem keepsReady_setSegment {file next : SegmentFile} {fileBytes reach : Nat}
    (found : media.segment path = some file) (within : reach ≤ fileBytes)
    (size : next.size = max file.size reach) (marker : next.ready = file.ready) :
    KeepsReady fileBytes media (media.setSegment path next) := by
  rintro query ⟨present, located, full, marked⟩
  by_cases here : query = path
  · subst here
    rw [found] at located
    cases located
    refine ⟨next, update_self _ _ _, ?_, ?_⟩
    · rw [size, full, max_eq_left within]
    · rw [marker, marked]
  · refine ⟨present, ?_, full, marked⟩
    simpa only [Media.setSegment, update_of_ne here] using located

theorem Built.keepsReady {next : Media} (built : Built fileBytes media next) :
    KeepsReady fileBytes media next := by
  induction built with
  | refl => exact .refl fileBytes media
  | tail _ lengthens ih =>
    obtain ⟨path, size, ready, within, marker, rfl⟩ := lengthens
    refine ih.trans ?_
    rintro query ⟨file, found, full, marked⟩
    by_cases here : query = path
    · subst here
      rw [found] at marker ⊢
      refine ⟨_, update_self _ _ _, ?_, ?_⟩
      · rw [SegmentFile.extend, full, max_eq_left within]
      · exact marker.elim id fun kept => kept.trans marked
    · exact ⟨file, (update_of_ne here _ _).trans found, full, marked⟩

/-- A file that was materialised is ready. -/
theorem fileReady_of_materialise {media next : Media} {fault : MaterialiseFault}
    (ok : materialiseSegmentFile media path fileBytes fault = (.ok (), next)) :
    FileReady next fileBytes path := by
  unfold materialiseSegmentFile at ok
  dsimp only at ok
  split at ok
  · cases ok
  split at ok
  · cases ok
  rename_i short
  split at ok
  · rename_i ready
    cases ok
    obtain ⟨marked, full⟩ := ready
    obtain ⟨file, found, marker⟩ := Option.bind_eq_some_iff.mp marked
    refine ⟨file, found, ?_, marker⟩
    rw [found] at full
    exact full
  split at ok
  · cases ok
  cases fault with
  | some error => cases ok
  | none =>
    cases ok
    refine ⟨_, update_self _ _ _, ?_, ?_⟩
    · cases found : media.segment path with
      | none => rfl
      | some file =>
        simp only [found, Option.map_some] at short
        exact max_eq_right (not_lt.mp short)
    · cases media.segment path with
      | none => rfl
      | some file => rfl

variable {paths : List SegmentPath}

theorem fileReady_of_materialiseGroup {faults : SegmentPath → MaterialiseFault} {media next : Media}
    (ok : materialiseGroup fileBytes faults paths media = (.ok (), next)) :
    ∀ path ∈ paths, FileReady next fileBytes path := by
  induction paths generalizing media with
  | nil => exact fun _ member => (List.not_mem_nil member).elim
  | cons path paths ih =>
    rw [materialiseGroup] at ok
    split at ok
    · cases ok
    rename_i middle made
    have kept := (built_materialiseGroup fileBytes faults paths middle).keepsReady
    rw [ok] at kept
    exact List.forall_mem_cons.mpr ⟨kept _ (fileReady_of_materialise made), ih ok⟩

/-! ## Adopting groups -/

theorem segmentFileIsReady_ok {fault : Option Status} {found : Bool}
    (ok : segmentFileIsReady media path fileBytes fault = .ok found) :
    found = true ↔ FileReady media fileBytes path := by
  unfold segmentFileIsReady at ok
  split at ok
  · cases ok
  split at ok
  · rename_i missing
    cases ok
    refine iff_of_false Bool.false_ne_true ?_
    rintro ⟨file, found, _⟩
    rw [missing] at found
    cases found
  rename_i file present
  split at ok
  · cases ok
  cases ok
  rw [decide_eq_true_iff]
  constructor
  · rintro ⟨full, marked⟩
    exact ⟨file, present, full, marked⟩
  rintro ⟨other, found, full, marked⟩
  rw [present] at found
  cases found
  exact ⟨full, marked⟩

variable {probe : SegmentPath → Option Status}

/-- The probe of a group finds out whether all its files are ready. -/
theorem probe_ok {start : Except Status Bool} {found : Bool}
    (ok : paths.foldl (fun (found : Except Status Bool) path => found.bind fun present =>
      if present = true then segmentFileIsReady media path fileBytes (probe path)
      else .ok false) start = .ok found) :
    ∃ present, start = .ok present ∧
      (found = true ↔ present = true ∧ ∀ path ∈ paths, FileReady media fileBytes path) := by
  induction paths generalizing start with
  | nil => exact ⟨found, ok, by simp⟩
  | cons path paths ih =>
    obtain ⟨first, probed, rest⟩ := ih ok
    cases start with
    | error error => cases probed
    | ok present =>
      refine ⟨present, rfl, ?_⟩
      rw [rest]
      cases present with
      | false =>
        cases probed
        simp
      | true =>
        rw [segmentFileIsReady_ok probed]
        simp

/-- Adopting walks over whole groups and stops at the first one that is not
ready. -/
theorem adoptGroups_ok {rounds : Nat} {groups : Nat} (positive : 0 < core.groupSlots)
    (start : core.precreated = min core.allocator.totalSlots (groups * core.groupSlots))
    (enough : core.allocator.totalSlots ≤ groups * core.groupSlots + rounds)
    (ok : adoptGroups media probe rounds core = (.ok (), next)) :
    ∃ adopted, groups ≤ adopted ∧
      next = { core with
        precreated := min core.allocator.totalSlots (adopted * core.groupSlots) } ∧
      (∀ group, groups ≤ group → group < adopted →
        group * core.groupSlots < core.allocator.totalSlots ∧
          GroupReady ⟨core, media⟩ (group * core.groupSlots)) ∧
      (core.allocator.totalSlots ≤ adopted * core.groupSlots ∨
        ¬ GroupReady ⟨core, media⟩ (adopted * core.groupSlots)) := by
  have stays : core = { core with
      precreated := min core.allocator.totalSlots (groups * core.groupSlots) } := by rw [← start]
  induction rounds generalizing core groups with
  | zero =>
    cases ok
    exact ⟨groups, le_rfl, stays, fun _ above below => absurd below (by omega), .inl enough⟩
  | succ rounds ih =>
    rw [adoptGroups] at ok
    dsimp only at ok
    split at ok
    · cases ok
      exact ⟨groups, le_rfl, stays, fun _ above below => absurd below (by omega), .inl (by omega)⟩
    have here : core.precreated = groups * core.groupSlots := by omega
    split at ok
    · cases ok
    · rename_i probed
      obtain ⟨present, begun, found⟩ := probe_ok probed
      cases begun
      cases ok
      refine ⟨groups, le_rfl, stays, fun _ above below => absurd below (by omega),
        .inr fun ready => ?_⟩
      rw [← here] at ready
      exact Bool.false_ne_true (found.mpr ⟨rfl, ready⟩)
    rename_i probed
    obtain ⟨present, begun, found⟩ := probe_ok probed
    cases begun
    have ready : GroupReady ⟨core, media⟩ (groups * core.groupSlots) := by
      rw [← here]
      exact (found.mp rfl).2
    have further : min core.allocator.totalSlots (core.precreated + core.groupSlots) =
        min core.allocator.totalSlots ((groups + 1) * core.groupSlots) := by
      rw [here, Nat.succ_mul]
    have grown : core.allocator.totalSlots ≤ (groups + 1) * core.groupSlots + rounds := by
      omega
    rw [further] at ok
    obtain ⟨adopted, above, reached, between, stopped⟩ := @ih { core with
      precreated := min core.allocator.totalSlots ((groups + 1) * core.groupSlots) }
      (groups + 1) positive rfl grown ok rfl
    refine ⟨adopted, by omega, reached, fun group low high => ?_, stopped⟩
    rcases eq_or_lt_of_le low with rfl | later
    · exact ⟨by omega, ready⟩
    · exact between group later high

/-! ## The pool of a writer -/

/-- The ready limit of a writer: whole groups, all of them ready on the media. -/
structure Provisioned (session : Session) : Prop where
  idle : session.core.precreateBusy = false
  limit : session.core.allocator.readyLimit = session.core.precreated
  groups : ∃ groups, 0 < groups ∧ session.core.precreated =
      min session.core.allocator.totalSlots (groups * session.core.groupSlots) ∧
    ∀ group < groups, group * session.core.groupSlots < session.core.allocator.totalSlots ∧
      GroupReady session (group * session.core.groupSlots)

/-- At least one group is ready. -/
theorem Provisioned.first_le (provisioned : Provisioned session) :
    min session.core.allocator.totalSlots session.core.groupSlots ≤ session.core.precreated := by
  obtain ⟨groups, positive, precreated, _⟩ := provisioned.groups
  rw [precreated]
  exact min_le_min_left _ (Nat.le_mul_of_pos_left _ positive)

/-- A step that leaves the bookkeeping of the pool alone and keeps ready files
ready. -/
theorem Provisioned.of_same {session next : Session} (provisioned : Provisioned session)
    (same : SameStore session.core next.core)
    (busy : next.core.precreateBusy = session.core.precreateBusy)
    (precreated : next.core.precreated = session.core.precreated)
    (limit : next.core.allocator.readyLimit = session.core.allocator.readyLimit)
    (kept : KeepsReady session.core.placement.fileBytes session.media next.media) :
    Provisioned next := by
  have ready : ∀ slot, GroupReady session slot → GroupReady next slot := by
    intro slot ready path member
    rw [same.placement]
    refine kept path (ready path ?_)
    unfold groupPaths at member ⊢
    rw [same.groupSlots, same.mountCount, same.totalSlots, same.placement] at member
    exact member
  obtain ⟨groups, positive, built, below⟩ := provisioned.groups
  refine ⟨busy.trans provisioned.idle, ?_, groups, positive, ?_, fun group inside => ?_⟩
  · rw [limit, precreated]
    exact provisioned.limit
  · rw [precreated, same.totalSlots, same.groupSlots]
    exact built
  · rw [same.totalSlots, same.groupSlots]
    exact ⟨(below group inside).1, ready _ (below group inside).2⟩

/-- What a session of a store that is laid out well keeps. -/
structure Running (session : Session) : Prop where
  laid : session.core.WellLaid
  sound : session.core.allocator.Sound
  provisioned : session.core.config.readOnly = false → Provisioned session

theorem keepsReady_headerWritten (laid : session.core.WellLaid) {slot : Nat} {file : SegmentFile}
    (found : session.media.segment (session.core.headerPath slot) = some file) (bytes : Bytes) :
    KeepsReady session.core.placement.fileBytes session.media
      (headerWritten session slot file bytes) := by
  have inside := laid.placement.slot_le_fileBytes slot
  have header := laid.header_le
  have width := laid.slotBytes
  have within : session.core.headerOffset slot + alignment ≤ session.core.placement.fileBytes := by
    unfold headerOffset
    omega
  exact keepsReady_setSegment found within rfl rfl

theorem keepsReady_zeroSlots (laid : core.WellLaid) (zeroing : Nat → ZeroOutcome) (slots : List Nat)
    (media : Media) :
    KeepsReady core.placement.fileBytes media (zeroSlots core zeroing slots media).2.2 := by
  refine @zeroSlots_induct core zeroing slots media (KeepsReady core.placement.fileBytes media ·)
    (fun slot _ reached ready => ready.trans ?_) (.refl _ _)
  have inside : core.headerOffset slot + core.slotBytes ≤ core.placement.fileBytes := by
    rw [laid.slotBytes]
    exact laid.placement.slot_le_fileBytes slot
  unfold zeroFileRange
  cases found : reached.segment (core.headerPath slot) with
  | none => exact .refl _ _
  | some file =>
    cases zeroing slot with
    | done | failed error left => exact keepsReady_setSegment found inside rfl rfl

theorem media_persistCheckpoint (session : Session) (outcome : WriteOutcome) :
    (persistCheckpoint session outcome).2.media.segment = session.media.segment ∧
      (persistCheckpoint session outcome).2.media.residency = session.media.residency := by
  have written : ∀ {root offset image result},
      writeCheckpointContainer session.media root offset image outcome = result →
      result.2.segment = session.media.segment ∧ result.2.residency = session.media.residency := by
    rintro root offset image _ rfl
    unfold writeCheckpointContainer
    split
    · exact ⟨rfl, rfl⟩
    split
    · exact ⟨rfl, rfl⟩
    split
    · exact ⟨rfl, rfl⟩
    · cases outcome with
      | done | failed error left => exact ⟨rfl, rfl⟩
  unfold persistCheckpoint
  dsimp only
  split
  · exact ⟨rfl, rfl⟩
  split
  · rename_i failed
    exact written failed
  · rename_i done
    exact written done

theorem media_checkpoint (session : Session) (outcome : WriteOutcome) :
    (checkpoint session outcome).2.media.segment = session.media.segment := by
  unfold checkpoint
  split
  · rfl
  split
  · rfl
  · exact (media_persistCheckpoint session outcome).1

/-- What the first half of `precreate_step` decides. -/
theorem precreateBegin_cases (core : ObjectStoreCore) (headroom : Nat) :
    (∃ error, precreateBegin core headroom = (.error error, core)) ∨
    (∃ target, precreateBegin core headroom = (.ok none, { core with precreateTarget := target })) ∨
    core.precreated < core.allocator.totalSlots ∧
      precreateBegin core headroom = (.ok (some (core.precreated,
          min core.allocator.totalSlots (core.precreated + core.groupSlots))),
        { core with precreateTarget := core.targetFor headroom, precreateBusy := true }) := by
  unfold precreateBegin
  split
  · exact .inl ⟨_, rfl⟩
  split
  · exact .inr (.inl ⟨_, rfl⟩)
  dsimp only
  split
  · exact .inr (.inl ⟨_, rfl⟩)
  rename_i wanted
  push Not at wanted
  exact .inr (.inr ⟨lt_of_lt_of_le wanted.2 (min_le_left _ _), rfl⟩)

/-- What `precreate_step` does to an idle store: it sets its target, and may
build the next group. -/
theorem precreateStep_cases (idle : session.core.precreateBusy = false) (headroom : Nat)
    (faults : SegmentPath → MaterialiseFault) :
    ∃ target, ((precreateStep session headroom faults).2.core =
        { session.core with precreateTarget := target } ∨
      session.core.precreated < session.core.allocator.totalSlots ∧
        (∀ path ∈ session.core.groupPaths session.core.precreated,
          FileReady (precreateStep session headroom faults).2.media
            session.core.placement.fileBytes path) ∧
        (precreateStep session headroom faults).2.core = { session.core with
          precreateTarget := target
          precreated := min session.core.allocator.totalSlots
            (session.core.precreated + session.core.groupSlots)
          allocator := session.core.allocator.setReadyLimit
            (min session.core.allocator.totalSlots
              (session.core.precreated + session.core.groupSlots)) }) ∧
      KeepsReady session.core.placement.fileBytes session.media
        (precreateStep session headroom faults).2.media := by
  rcases precreateBegin_cases session.core headroom with
    ⟨error, begun⟩ | ⟨target, begun⟩ | ⟨room, begun⟩
  · rw [precreateStep, begun]
    exact ⟨_, .inl rfl, .refl _ _⟩
  · rw [precreateStep, begun]
    exact ⟨target, .inl rfl, .refl _ _⟩
  rw [precreateStep, begun]
  have kept := (built_materialiseGroup session.core.placement.fileBytes faults
    (session.core.groupPaths session.core.precreated) session.media).keepsReady
  refine ⟨session.core.targetFor headroom, ?_⟩
  dsimp only
  cases made : materialiseGroup session.core.placement.fileBytes faults
      (session.core.groupPaths session.core.precreated) session.media with
  | mk status media =>
    rw [made] at kept
    have made' : materialiseGroup session.core.placement.fileBytes faults (groupPaths
        { session.core with
          precreateTarget := session.core.targetFor headroom
          precreateBusy := true } session.core.precreated) session.media =
        (status, media) := made
    rw [made']
    cases status with
    | error error =>
      refine ⟨.inl ?_, kept⟩
      dsimp only [precreateFinish]
      rw [if_neg Bool.false_ne_true, ← idle]
    | ok done =>
      refine ⟨.inr ⟨room, fileReady_of_materialiseGroup made, ?_⟩, kept⟩
      dsimp only [precreateFinish]
      rw [if_pos rfl, ← idle]

/-- Building the next group keeps the pool provisioned. -/
theorem Provisioned.precreateStep (provisioned : Provisioned session) (headroom : Nat)
    (faults : SegmentPath → MaterialiseFault) :
    Provisioned (ObjectStoreCore.precreateStep session headroom faults).2 := by
  obtain ⟨target, outcome, kept⟩ := precreateStep_cases provisioned.idle headroom faults
  generalize (ObjectStoreCore.precreateStep session headroom faults).2 = next at outcome kept
  obtain ⟨core, media⟩ := next
  rcases outcome with same | ⟨room, made, same⟩
  · subst same
    exact provisioned.of_same ⟨rfl, rfl, rfl, rfl, rfl, rfl, rfl, rfl, rfl, rfl⟩ rfl rfl rfl kept
  subst same
  obtain ⟨groups, positive, built, below⟩ := provisioned.groups
  have here : session.core.precreated = groups * session.core.groupSlots := by omega
  refine ⟨provisioned.idle, rfl, groups + 1, by omega, ?_, fun group inside => ?_⟩
  · rw [here, Nat.succ_mul]
    rfl
  rcases Nat.lt_succ_iff_lt_or_eq.mp inside with earlier | rfl
  · exact ⟨(below group earlier).1, fun path member => kept path
      ((below group earlier).2 path member)⟩
  refine ⟨?_, ?_⟩
  · exact here ▸ room
  intro path member
  refine made path ?_
  rw [here]
  exact member

/-- A step that leaves the bookkeeping of the pool alone, hands out slots below the
ready limit only, and keeps ready files ready. -/
structure Undisturbed (session next : Session) : Prop where
  same : SameStore session.core next.core
  busy : next.core.precreateBusy = session.core.precreateBusy
  precreated : next.core.precreated = session.core.precreated
  limit : next.core.allocator.readyLimit = session.core.allocator.readyLimit
  highWater : next.core.allocator.highWater ≤
    max session.core.allocator.highWater session.core.allocator.readyLimit
  kept : KeepsReady session.core.placement.fileBytes session.media next.media

theorem Undisturbed.of_extent {session next : Session} (same : SameStore session.core next.core)
    (busy : next.core.precreateBusy = session.core.precreateBusy)
    (precreated : next.core.precreated = session.core.precreated)
    (extent : SpaceAllocator.SameExtent session.core.allocator next.core.allocator)
    (kept : KeepsReady session.core.placement.fileBytes session.media next.media) :
    Undisturbed session next :=
  ⟨same, busy, precreated, extent.readyLimit, extent.highWater.le.trans (le_max_left _ _), kept⟩

/-- Only `precreate_step` changes the bookkeeping of the pool. -/
theorem Move.undisturbed {slips drains : Bool} {session next : Session}
    (move : Move slips drains session next) (laid : session.core.WellLaid) :
    Undisturbed session next ∨
      ∃ headroom faults, next = (ObjectStoreCore.precreateStep session headroom faults).2 := by
  have same := move.sameStore
  cases move with
  | grant _ _ _ _ claims =>
    refine .inl ⟨same, rfl, rfl, claims.geometry.readyLimit, ?_, .refl _ _⟩
    dsimp only [insertReserved]
    rcases claims.highWater with ⟨_, _, kept⟩ | ⟨_, _, below, raised⟩
    · omega
    · omega
  | commit _ lands =>
    refine .inl (.of_extent same rfl rfl (commit_sameExtent _ _) ?_)
    exact (keepsReady_headerWritten laid lands.found _).trans
      ((sameFiles_write _ _ _ _).keepsReady _)
  | record _ _ lands =>
    refine .inl (.of_extent same rfl rfl (.refl _) ?_)
    exact (keepsReady_headerWritten laid lands.found _).trans
      ((sameFiles_write _ _ _ _).keepsReady _)
  | refuse _ | pins _ => exact .inl (.of_extent same rfl rfl (.refl _) (.refl _ _))
  | spoil left _ _ found =>
    exact .inl (.of_extent same rfl rfl (.refl _) (keepsReady_headerWritten laid found left))
  | abort _ _ =>
    exact .inl (.of_extent same rfl rfl (abort_sameExtent _ _) (.refl _ _))
  | release _ _ _ =>
    exact .inl (.of_extent same rfl rfl (release_sameExtent _ _)
      ((sameFiles_write _ _ _ _).keepsReady _))
  | drainReclaim _ max zeroing =>
    have taken : SpaceAllocator.SameExtent session.core.allocator
        (session.core.allocator.takeReclaimable max).2 := ⟨⟨rfl, rfl, rfl⟩, rfl⟩
    refine .inl (.of_extent same rfl rfl ?_ (keepsReady_zeroSlots laid _ _ _))
    exact (taken.trans (requeueReclaim_sameExtent _ _)).trans (finishReclaim_sameExtent _ _)
  | precreateStep headroom faults => exact .inr ⟨headroom, faults, rfl⟩
  | checkpoint outcome =>
    have media := media_checkpoint session outcome
    have kept : KeepsReady session.core.placement.fileBytes session.media
        (ObjectStoreCore.checkpoint session outcome).2.media := by
      intro path ready
      unfold FileReady
      rw [media]
      exact ready
    obtain ⟨_, _, core⟩ := core_checkpoint session outcome
    exact .inl (.of_extent same (by rw [core]) (by rw [core]) (by rw [core]; exact .refl _) kept)

/-- Every move keeps the pool. -/
theorem Move.running {slips drains : Bool} {session next : Session}
    (move : Move slips drains session next) (running : Running session) : Running next := by
  refine ⟨running.laid.of_sameStore move.sameStore, move.sound running.sound, fun writer => ?_⟩
  have writer : session.core.config.readOnly = false := by
    rw [move.sameStore.config] at writer
    exact writer
  have provisioned := running.provisioned writer
  rcases move.undisturbed running.laid with calm | ⟨headroom, faults, rfl⟩
  · exact provisioned.of_same calm.same calm.busy calm.precreated calm.limit calm.kept
  · exact provisioned.precreateStep headroom faults

/-- Every run keeps the pool. -/
theorem Running.run (running : Running session) (operations : List StoreOp) :
    Running (runFrom step session operations) :=
  run_keep (motive := Running) (fun _ holds => holds.sound) (fun _ _ move => move.running) running
    operations

/-! ## From the first open on -/

/-- The groups that `open` counts as ready on the media it finds: all of them up
to the first that is not. -/
structure AdoptedGroups (session : Session) (adopted : Nat) : Prop where
  ready : ∀ group < adopted, group * session.core.groupSlots < session.core.allocator.totalSlots ∧
    GroupReady session (group * session.core.groupSlots)
  stopped : session.core.allocator.totalSlots ≤ adopted * session.core.groupSlots ∨
    ¬ GroupReady session (adopted * session.core.groupSlots)

variable {faults : OpenFaults} {session : Session}

/-- A writer adopts the groups that are ready, and has at least one group in the
end. -/
theorem adoptMedia_writer {next : Session} {groups : Nat} (laid : session.core.WellLaid)
    (writer : session.core.config.readOnly = false) (idle : session.core.precreateBusy = false)
    (start : session.core.precreated =
      min session.core.allocator.totalSlots (groups * session.core.groupSlots))
    (below : ∀ group < groups,
      group * session.core.groupSlots < session.core.allocator.totalSlots ∧
        GroupReady session (group * session.core.groupSlots))
    (ok : adoptMedia session faults = (.ok (), next)) :
    ∃ adopted, AdoptedGroups session adopted ∧
      next.core.precreated = min session.core.allocator.totalSlots
        (max adopted 1 * session.core.groupSlots) ∧ Provisioned next := by
  have positive := laid.groupSlots_pos
  have some := laid.totalSlots_pos
  unfold adoptMedia at ok
  rw [if_neg (Bool.eq_false_iff.mp writer)] at ok
  split at ok
  · cases ok
  rename_i core result
  obtain ⟨adopted, above, rfl, between, stopped⟩ :=
    adoptGroups_ok positive start (Nat.le_add_left _ _) result
  have ready : ∀ group < adopted,
      group * session.core.groupSlots < session.core.allocator.totalSlots ∧
        GroupReady session (group * session.core.groupSlots) := by
    intro group inside
    by_cases earlier : group < groups
    · exact below group earlier
    · exact between group (not_lt.mp earlier) inside
  refine ⟨adopted, ⟨ready, stopped⟩, ?_⟩
  dsimp only at ok
  split at ok
  · have none : adopted = 0 := by
      by_contra some
      have := Nat.le_mul_of_pos_left session.core.groupSlots (pos_of_ne_zero some)
      omega
    subst none
    split at ok
    · cases ok
    rename_i media made
    cases ok
    rw [zero_max, one_mul, min_comm session.core.allocator.totalSlots]
    refine ⟨rfl, idle, rfl, 1, one_pos, ?_, fun group inside => ?_⟩
    · rw [one_mul, min_comm]
      rfl
    have first : group = 0 := by omega
    subst first
    rw [Nat.zero_mul]
    exact ⟨some, fileReady_of_materialiseGroup made⟩
  · rename_i warm
    have several : 0 < adopted := by
      by_contra none
      rw [Nat.eq_zero_of_not_pos none, Nat.zero_mul] at warm
      exact warm (min_zero _)
    cases ok
    rw [max_eq_left several]
    exact ⟨rfl, idle, rfl, adopted, several, rfl, ready⟩

/-- The last stages of `open` leave the pool alone. -/
theorem Provisioned.map {mapped : Session} (provisioned : Provisioned session)
    (ok : mapResidency session faults = (.ok (), mapped)) :
    Provisioned { mapped with core := { mapped.core with opened := true } } := by
  obtain ⟨own, peers, core, same⟩ := mapResidency_ok ok
  obtain ⟨reached, media⟩ := mapped
  subst core
  obtain ⟨groups, positive, built, below⟩ := provisioned.groups
  exact ⟨provisioned.idle, provisioned.limit, groups, positive, built, fun group inside =>
    ⟨(below group inside).1, fun path member =>
      same.keepsReady _ path ((below group inside).2 path member)⟩⟩

variable {config : StoreConfig}

variable {allocator : SpaceAllocator}

section

variable {reached checked adopted mapped : Session}
  (stages : Stages session config faults allocator checked adopted mapped reached)
  (inverse : session.core.Inverse)
include stages inverse

/-- What is known of a store that has loaded its checkpoint during `open`. -/
theorem Stages.loaded :
    ∃ slots index slotOwner recovery checkpointSeq commitSeq,
      (loadCheckpoint checked).core = { session.core.withGeometry config allocator with
        containerBytes := checkpointContainerBytes allocator.totalSlots maxKeyBytes
        index
        slotOwner
        recovery
        checkpointSeq
        commitSeq
        allocator := claimRecovered allocator slots } := by
  obtain ⟨core_checked, _⟩ := ensureCheckpoint_ok stages.checkpoint
  have inverse : checked.core.Inverse := by
    rw [core_checked]
    exact inverse
  obtain ⟨slots, middle, commitSeq, recovering, loaded, _⟩ := recovering_loadCheckpoint inverse
  obtain ⟨index, slotOwner, recovery, checkpointSeq, frame⟩ := recovering.frame
  refine ⟨slots, index, slotOwner, recovery, checkpointSeq, commitSeq, ?_⟩
  rw [loaded, frame, core_checked]
  rfl

/-- The layout is in place when the checkpoint has been loaded. -/
theorem Stages.wellLaid : (loadCheckpoint checked).core.WellLaid := by
  obtain ⟨slots, _, _, _, _, _, loaded⟩ := stages.loaded inverse
  have claimed := claimed_claimRecovered (pristine_configure stages.geometry.configured) slots
  rw [loaded]
  exact stages.geometry.wellLaid.congr rfl rfl rfl claimed.geometry.totalSlots

end

/-- A new store that was opened is running. -/
theorem running_of_open {media : Media}
    (ok : openStore ⟨fresh, media⟩ config faults = (.ok (), session)) :
    Running session := by
  have opened := freshOpen ok
  refine ⟨opened.wellLaid, opened.sound, fun writer => ?_⟩
  obtain ⟨allocator, checked, adopted, mapped, stages⟩ := openStore_ok rfl ok
  obtain ⟨slots, _, _, _, _, _, loaded⟩ := stages.loaded inverse_fresh
  have laid := stages.wellLaid inverse_fresh
  have adopt := stages.adopt
  generalize loadCheckpoint checked = read at loaded laid adopt
  obtain ⟨core, left⟩ := read
  subst loaded
  rw [opened.config_eq] at writer
  have cold : ∀ total groupSlots : Nat, 0 = min total (0 * groupSlots) := by simp
  obtain ⟨_, _, _, provisioned⟩ := adoptMedia_writer laid writer rfl (cold _ _)
    (fun _ inside => absurd inside (Nat.not_lt_zero _)) adopt
  rw [stages.reached]
  exact provisioned.map stages.residency

end ObjectStoreCore

end Tutti
