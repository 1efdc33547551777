import Mathlib.Logic.Relation
import Tutti.Storage.ObjectStoreCore

/-!
# The object store one key at a time

The operations of the store work on batches: they walk over the keys, collect
slots, and bring the allocator into line at the end. Here every operation is
split into moves, each of which changes one key (or runs one maintenance task).
The allocator follows each key at once, except in a commit batch that fails,
whose committed keys are only recorded. What holds after every move holds after
every operation, so the invariants of the store are proved per move.
-/

namespace Tutti

open Foundation List SpaceAllocator
open OrderedDict hiding keys

/-! ## Operations of a session -/

/-- The operations on an open store, with what the environment makes of them. -/
inductive StoreOp where
  | reserve (keys : List ObjectKey)
  | commit (keys : List (ObjectKey × WriteOutcome))
  | abort (keys : List ObjectKey)
  | release (keys : List ObjectKey)
  | pin (keys : List ObjectKey)
  | unpin (keys : List ObjectKey)
  | drainReclaim (max : Nat) (zeroing : Nat → ZeroOutcome)
  | precreateStep (headroom : Nat) (faults : SegmentPath → MaterialiseFault)
  | checkpoint (outcome : WriteOutcome)

namespace ObjectStoreCore

/-- The session after one operation. -/
def step (session : Session) : StoreOp → Session
  | .reserve keys => ⟨(session.core.reserve keys).2, session.media⟩
  | .commit keys => (commit session keys).2
  | .abort keys => ⟨(session.core.abort keys).2, session.media⟩
  | .release keys => (release session keys).2
  | .pin keys => ⟨(session.core.pin keys).2, session.media⟩
  | .unpin keys => ⟨(session.core.unpin keys).2, session.media⟩
  | .drainReclaim max zeroing => (drainReclaim session max zeroing).2
  | .precreateStep headroom faults => (precreateStep session headroom faults).2
  | .checkpoint outcome => (checkpoint session outcome).2

/-! ## Changes of one key -/

/-- The commit sequence that the next header write carries. -/
def nextCommitSeq (core : ObjectStoreCore) : Nat := (core.commitSeq + 1) % uint64Size

/-- A header write was attempted: the sequence number is used up. -/
def spendCommitSeq (core : ObjectStoreCore) : ObjectStoreCore :=
  { core with commitSeq := core.nextCommitSeq }

/-- The media after the header block of a slot was written. -/
def headerWritten (session : Session) (slot : Nat) (file : SegmentFile) (bytes : Bytes) : Media :=
  session.media.writeBlock (session.core.headerPath slot) file (session.core.headerOffset slot)
    bytes

/-- The key is committed in the index and in the bitmap. -/
def recordKey (session : Session) (key : ObjectKey) (entry : Entry) (file : SegmentFile)
    (header : Bytes) : Session :=
  ⟨session.core.spendCommitSeq.commitEntry key entry session.core.nextCommitSeq,
    ResidencyBitmap.set (headerWritten session entry.slot file header) session.core.ownResidency
      entry.slot⟩

/-- The allocator follows the keys that were committed. -/
def settleCommit (slots : List Nat) (session : Session) : Session :=
  ⟨{ session.core with
    allocator := session.core.allocator.commit slots
    checkpointDirty := session.core.checkpointDirty || !slots.isEmpty }, session.media⟩

/-- The key is committed, in the allocator too. -/
def commitKey (session : Session) (key : ObjectKey) (entry : Entry) (file : SegmentFile)
    (header : Bytes) : Session :=
  settleCommit [entry.slot] (recordKey session key entry file header)

def abortKey (core : ObjectStoreCore) (key : ObjectKey) (slot : Nat) : ObjectStoreCore :=
  { core.removeKey key slot with allocator := core.allocator.abort [slot] }

/-- The allocator follows the keys that were released. -/
def settleRelease (slots : List Nat) (session : Session) : Session :=
  ⟨{ session.core with
    allocator := session.core.allocator.release slots
    checkpointDirty := session.core.checkpointDirty || !slots.isEmpty }, session.media⟩

def releaseKey (session : Session) (key : ObjectKey) (slot : Nat) : Session :=
  settleRelease [slot] ⟨session.core.removeKey key slot,
    ResidencyBitmap.clear session.media session.core.ownResidency slot⟩

/-! ## Moves -/

/-- The key has a reservation that is not committed yet. -/
def Reserves (core : ObjectStoreCore) (key : ObjectKey) (entry : Entry) : Prop :=
  core.index.get? key = some entry ∧ entry.committed = false

/-- The key is committed. -/
def Holds (core : ObjectStoreCore) (key : ObjectKey) (entry : Entry) : Prop :=
  core.index.get? key = some entry ∧ entry.committed = true

/-- A header write that goes through: the file exists and the header encodes. -/
structure HeaderLands (session : Session) (key : ObjectKey) (entry : Entry) (file : SegmentFile)
    (header : Bytes) : Prop where
  reserves : session.core.Reserves key entry
  found : session.media.segment (session.core.headerPath entry.slot) = some file
  encoded : encodeObjectHeader key session.core.config.layout.payloadBytes entry.generation
    session.core.nextCommitSeq = some header

/-- One move of the store. Keys are recorded without the allocator following only
where slips are allowed, and slots are drained only where that is allowed. -/
inductive Move (slips drains : Bool) : Session → Session → Prop where
  /-- A fresh key gets a slot. -/
  | grant {session : Session} {key : ObjectKey} {slot : Nat} {next : SpaceAllocator}
      (writer : session.core.config.readOnly = false)
      (nonempty : key ≠ []) (short : key.length ≤ maxKeyBytes)
      (absent : session.core.index.get? key = none)
      (claims : session.core.allocator.Claims slot next) :
      Move slips drains session ⟨session.core.insertReserved key slot
        (session.core.allocator.generations slot) next, session.media⟩
  /-- A key of a commit batch that succeeds. -/
  | commit {session : Session} {key : ObjectKey} {entry : Entry} {file : SegmentFile}
      {header : Bytes} (writer : session.core.config.readOnly = false)
      (lands : HeaderLands session key entry file header) :
      Move slips drains session (commitKey session key entry file header)
  /-- A key of a commit batch that fails later on. -/
  | record {session : Session} {key : ObjectKey} {entry : Entry} {file : SegmentFile}
      {header : Bytes} (slipping : slips = true) (writer : session.core.config.readOnly = false)
      (lands : HeaderLands session key entry file header) :
      Move slips drains session (recordKey session key entry file header)
  /-- The header write of a reserved key fails without touching the media. -/
  | refuse {session : Session} (writer : session.core.config.readOnly = false) :
      Move slips drains session ⟨session.core.spendCommitSeq, session.media⟩
  /-- The header write of a reserved key fails and leaves arbitrary bytes. -/
  | spoil {session : Session} {key : ObjectKey} {entry : Entry} {file : SegmentFile} (left : Bytes)
      (writer : session.core.config.readOnly = false)
      (reserves : session.core.Reserves key entry)
      (found : session.media.segment (session.core.headerPath entry.slot) = some file) :
      Move slips drains session
        ⟨session.core.spendCommitSeq, headerWritten session entry.slot file left⟩
  | abort {session : Session} {key : ObjectKey} {entry : Entry}
      (writer : session.core.config.readOnly = false)
      (reserves : session.core.Reserves key entry) :
      Move slips drains session ⟨session.core.abortKey key entry.slot, session.media⟩
  | release {session : Session} {key : ObjectKey} {entry : Entry}
      (writer : session.core.config.readOnly = false)
      (holds : session.core.Holds key entry) (unpinned : session.core.pins key = 0) :
      Move slips drains session (releaseKey session key entry.slot)
  | pins {session : Session} (pins : ObjectKey → Nat) :
      Move slips drains session ⟨{ session.core with pins }, session.media⟩
  | drainReclaim {session : Session} (draining : drains = true) (max : Nat)
      (zeroing : Nat → ZeroOutcome) :
      Move slips drains session (ObjectStoreCore.drainReclaim session max zeroing).2
  | precreateStep {session : Session} (headroom : Nat) (faults : SegmentPath → MaterialiseFault) :
      Move slips drains session (ObjectStoreCore.precreateStep session headroom faults).2
  | checkpoint {session : Session} (outcome : WriteOutcome) :
      Move slips drains session (ObjectStoreCore.checkpoint session outcome).2

/-- Any number of moves. -/
abbrev Moves (slips drains : Bool) : Session → Session → Prop :=
  Relation.ReflTransGen (Move slips drains)

/-! ## What the maintenance tasks change -/

theorem core_persistCheckpoint (session : Session) (outcome : WriteOutcome) :
    ∃ sequence dirty, (persistCheckpoint session outcome).2.core =
      { session.core with checkpointSeq := sequence, checkpointDirty := dirty } := by
  unfold persistCheckpoint
  dsimp only
  split
  · exact ⟨_, _, rfl⟩
  split
  · exact ⟨_, _, rfl⟩
  · exact ⟨_, _, rfl⟩

/-- `checkpoint` changes two members of the store. -/
theorem core_checkpoint (session : Session) (outcome : WriteOutcome) :
    ∃ sequence dirty, (checkpoint session outcome).2.core =
      { session.core with checkpointSeq := sequence, checkpointDirty := dirty } := by
  unfold checkpoint
  split
  · exact ⟨_, _, rfl⟩
  split
  · exact ⟨_, _, rfl⟩
  · exact core_persistCheckpoint session outcome

variable {core : ObjectStoreCore} {zeroing : Nat → ZeroOutcome} {slots : List Nat} {slot : Nat}

variable {media : Media}

/-- What zeroing one slot keeps, zeroing all of them keeps. -/
theorem zeroSlots_induct {motive : Media → Prop}
    (first : ∀ slot ∈ slots, ∀ media, motive media → motive (zeroFileRange media
      (core.headerPath slot) (core.headerOffset slot) core.slotBytes (zeroing slot)).2)
    (start : motive media) : motive (zeroSlots core zeroing slots media).2.2 := by
  induction slots generalizing media with
  | nil => exact start
  | cons slot slots ih =>
    have rest := ih (fun other member => first other (.tail _ member))
      (first slot (.head _) media start)
    rw [zeroSlots]
    split
    · exact rest
    · exact rest

/-- Every slot is zeroed or failed. -/
theorem zeroSlots_perm :
    ((zeroSlots core zeroing slots media).1 ++ (zeroSlots core zeroing slots media).2.1).Perm
      slots := by
  induction slots generalizing media with
  | nil => rfl
  | cons slot slots ih =>
    rw [zeroSlots]
    split
    · exact ih.cons slot
    · exact perm_middle.trans (ih.cons slot)

theorem mem_of_mem_zeroSlots (done : slot ∈ (zeroSlots core zeroing slots media).1) :
    slot ∈ slots :=
  zeroSlots_perm.mem_iff.mp (mem_append_left _ done)

/-- No slot is both zeroed and failed. -/
theorem zeroSlots_disjoint (nodup : slots.Nodup)
    (done : slot ∈ (zeroSlots core zeroing slots media).1) :
    slot ∉ (zeroSlots core zeroing slots media).2.1 :=
  (nodup_append'.mp (zeroSlots_perm.nodup_iff.mpr nodup)).2.2 done

/-- The slots that `drain_reclaim` sets free. -/
def drained (session : Session) (max : Nat) (zeroing : Nat → ZeroOutcome) : List Nat :=
  (zeroSlots session.core zeroing (session.core.allocator.reclaimQueue.take max) session.media).1

variable {session : Session}

theorem mem_queue_of_mem_drained {max : Nat} (done : slot ∈ drained session max zeroing) :
    slot ∈ session.core.allocator.reclaimQueue :=
  mem_of_mem_take (mem_of_mem_zeroSlots done)

/-- A drained slot is free with the next generation, and no other slot changes. -/
theorem allocator_drainReclaim (sound : session.core.allocator.Sound) (max : Nat)
    (zeroing : Nat → ZeroOutcome) (slot : Nat) :
    (drainReclaim session max zeroing).2.core.allocator.states slot =
        (if slot ∈ drained session max zeroing then .free else session.core.allocator.states slot) ∧
      (drainReclaim session max zeroing).2.core.allocator.generations slot =
        if slot ∈ drained session max zeroing then
          (session.core.allocator.generations slot + 1) % uint64Size
        else session.core.allocator.generations slot := by
  have nodup := sound.reclaimQueue_nodup.sublist
    (take_sublist max session.core.allocator.reclaimQueue)
  exact viewOf_scrub sound (fun _ done => mem_of_mem_zeroSlots done)
    (fun _ done => zeroSlots_disjoint nodup done) slot

/-- What `precreate_step` may change of the store: its own bookkeeping, and the
ready limit. -/
def Grown (core next : ObjectStoreCore) : Prop :=
  ∃ target busy precreated limit, next = { core with
    precreateTarget := target
    precreateBusy := busy
    precreated
    allocator := core.allocator.setReadyLimit limit }

theorem Grown.refl (core : ObjectStoreCore) : Grown core core :=
  ⟨_, _, _, core.allocator.readyLimit, rfl⟩

theorem grown_precreateBegin (core : ObjectStoreCore) (headroom : Nat) :
    Grown core (precreateBegin core headroom).2 := by
  unfold precreateBegin
  split
  · exact ⟨_, _, _, core.allocator.readyLimit, rfl⟩
  split
  · exact ⟨_, _, _, core.allocator.readyLimit, rfl⟩
  dsimp only
  split
  · exact ⟨_, _, _, core.allocator.readyLimit, rfl⟩
  · exact ⟨_, _, _, core.allocator.readyLimit, rfl⟩

variable {next : ObjectStoreCore}

theorem Grown.finish {core : ObjectStoreCore} (grown : Grown core next) (made : Bool)
    (groupEnd : Nat) : Grown core (next.precreateFinish made groupEnd) := by
  obtain ⟨target, busy, precreated, limit, rfl⟩ := grown
  unfold precreateFinish
  split
  · exact ⟨_, _, _, _, rfl⟩
  · exact ⟨_, _, _, _, rfl⟩

theorem core_precreateStep (session : Session) (headroom : Nat)
    (faults : SegmentPath → MaterialiseFault) :
    Grown session.core (precreateStep session headroom faults).2.core := by
  have begun := grown_precreateBegin session.core headroom
  unfold precreateStep
  split
  · rename_i result
    rw [result] at begun
    exact begun
  · rename_i result
    rw [result] at begun
    exact begun
  · rename_i start groupEnd _ result
    rw [result] at begun
    split
    · exact begun.finish false groupEnd
    · exact begun.finish true groupEnd

/-- A segment file was made longer, and its marker is kept or published. -/
def Lengthens (fileBytes : Nat) (before after : Media) : Prop :=
  ∃ path size ready, size ≤ fileBytes ∧
    (ready = some fileBytes ∨ ready = (before.segment path).bind SegmentFile.ready) ∧
    after = before.setSegment path (SegmentFile.extend (before.segment path) size ready)

/-- Segment files were built, one after the other. -/
abbrev Built (fileBytes : Nat) : Media → Media → Prop :=
  Relation.ReflTransGen (Lengthens fileBytes)

theorem built_materialiseSegmentFile (media : Media) (path : SegmentPath) (fileBytes : Nat)
    (fault : MaterialiseFault) :
    Built fileBytes media (materialiseSegmentFile media path fileBytes fault).2 := by
  unfold materialiseSegmentFile
  split
  · exact .refl
  dsimp only
  split
  · exact .refl
  split
  · exact .refl
  split
  · exact .refl
  split
  · exact .single ⟨path, _, _, min_le_right _ _, .inr rfl, rfl⟩
  · exact .single ⟨path, _, _, le_rfl, .inl rfl, rfl⟩

theorem built_materialiseGroup (fileBytes : Nat) (faults : SegmentPath → MaterialiseFault)
    (paths : List SegmentPath) (media : Media) :
    Built fileBytes media (materialiseGroup fileBytes faults paths media).2 := by
  induction paths generalizing media with
  | nil => exact .refl
  | cons path paths ih =>
    have first := built_materialiseSegmentFile media path fileBytes (faults path)
    rw [materialiseGroup]
    split
    · rename_i result
      rw [result] at first
      exact first
    · rename_i next result
      rw [result] at first
      exact first.trans (ih next)

theorem built_precreateStep (session : Session) (headroom : Nat)
    (faults : SegmentPath → MaterialiseFault) :
    Built session.core.placement.fileBytes session.media
      (precreateStep session headroom faults).2.media := by
  have begun := grown_precreateBegin session.core headroom
  unfold precreateStep
  split
  · exact .refl
  · exact .refl
  rename_i start groupEnd core result
  rw [result] at begun
  have placement : core.placement = session.core.placement := by
    obtain ⟨_, _, _, _, same⟩ := begun
    dsimp only at same
    rw [same]
  have built := built_materialiseGroup core.placement.fileBytes faults (core.groupPaths start)
    session.media
  rw [← placement]
  split
  · rename_i failed
    rw [failed] at built
    exact built
  · rename_i made
    rw [made] at built
    exact built

theorem Grown.sound (grown : Grown core next) (sound : core.allocator.Sound) :
    next.allocator.Sound := by
  obtain ⟨target, busy, precreated, limit, rfl⟩ := grown
  exact sound.setReadyLimit limit

variable {slips drains : Bool}

/-- Every move keeps the allocator sound. -/
theorem Move.sound {next : Session} (move : Move slips drains session next)
    (sound : session.core.allocator.Sound) : next.core.allocator.Sound := by
  cases move with
  | grant _ _ _ _ claims => exact claims.sound
  | commit _ _ => exact sound.commit _
  | record _ _ _ | refuse _ | spoil _ _ _ _ | pins _ => exact sound
  | abort _ _ => exact sound.abort _
  | release _ _ _ => exact sound.release _
  | drainReclaim _ max zeroing =>
    exact ((sound.takeReclaimable max).requeueReclaim _).finishReclaim _
  | precreateStep headroom faults => exact (core_precreateStep session headroom faults).sound sound
  | checkpoint outcome =>
    obtain ⟨sequence, dirty, same⟩ := core_checkpoint session outcome
    rw [same]
    exact sound

/-! ## From operations to moves -/

variable {key : ObjectKey} {entry : Entry}

/-- A fresh key leaves the entries of the others alone. -/
theorem get?_insertReserved {other : ObjectKey} (absent : core.index.get? key = none)
    (present : core.index.get? other = some entry) (slot generation : Nat)
    (allocator : SpaceAllocator) :
    (core.insertReserved key slot generation allocator).index.get? other = some entry := by
  have different : other ≠ key := by
    rintro rfl
    rw [absent] at present
    cases present
  rw [insertReserved, get?_set, if_neg different]
  exact present

variable (keys : List ObjectKey)

/-- What holds before a `reserve` and with every fresh key holds after it. -/
theorem reserve_induct {motive : ObjectStoreCore → Prop}
    (fresh : ∀ core key slot generation allocator, core.index.get? key = none → motive core →
      motive (core.insertReserved key slot generation allocator))
    (exhausted : ∀ core allocator, motive core → motive { core with allocator })
    (initial : motive core) : motive (core.reserve keys).2 := by
  have walk : ∀ outcome, motive (reserveKeys keys outcome core).2 := by
    induction keys generalizing core with
    | nil => exact fun _ => initial
    | cons key keys ih =>
      intro outcome
      rw [reserveKeys]
      split
      · exact ih initial _
      cases absent : core.index.get? key with
      | some existing => exact ih initial _
      | none =>
        dsimp only
        split
        · exact ih (fresh _ _ _ _ _ absent initial) _
        · exact exhausted _ _ initial
  unfold reserve
  split_ifs
  · exact initial
  · exact initial
  · exact walk {}

theorem reserve_keeps (present : core.index.get? key = some entry) :
    (core.reserve keys).2.index.get? key = some entry :=
  reserve_induct keys
    (fun _ _ _ _ _ absent held => get?_insertReserved absent held _ _ _) (fun _ _ held => held)
    present

theorem reserveKeys_of_ok {keys : List ObjectKey} {outcome : ReserveOutcome}
    (reserved : core.reserve keys = (.ok outcome, next)) :
    reserveKeys keys {} core = (outcome, next) := by
  unfold reserve at reserved
  split_ifs at reserved
  · cases reserved
  · cases reserved
  · cases reserved
    rfl

theorem reserveKeys_moves (outcome : ReserveOutcome) (media : Media)
    (writer : core.config.readOnly = false) (sound : core.allocator.Sound) :
    Moves slips drains ⟨core, media⟩ ⟨(reserveKeys keys outcome core).2, media⟩ := by
  induction keys generalizing outcome core with
  | nil => exact .refl
  | cons key keys ih =>
    unfold reserveKeys
    split
    · exact ih _ writer sound
    rename_i valid
    push Not at valid
    cases present : core.index.get? key with
    | some existing => exact ih _ writer sound
    | none =>
      rcases reserve_one sound with
        ⟨_, _, exhausted⟩ | ⟨slot, next, granted, claims⟩
      · simp only [exhausted]
        exact .refl
      simp only [granted]
      have move := @Move.grant slips drains ⟨core, media⟩ key slot next writer valid.1 valid.2
        present claims
      exact .head move (ih _ writer claims.sound)

/-- The last key of a batch is aborted after the others. -/
theorem abort_removeKey (core : ObjectStoreCore) (slots : List Nat) (key : ObjectKey) (slot : Nat) :
    { core.removeKey key slot with allocator := core.allocator.abort (slots ++ [slot]) } =
      abortKey { core with allocator := core.allocator.abort slots } key slot := by
  unfold abortKey removeKey SpaceAllocator.abort
  rw [foldl_append]

theorem abortKeys_moves (keys : List ObjectKey) (slots : List Nat)
    (core : ObjectStoreCore) (media : Media) (writer : core.config.readOnly = false) :
    Moves slips drains ⟨{ core with allocator := core.allocator.abort slots }, media⟩
      ⟨{ (abortKeys keys slots core).2 with
        allocator := (abortKeys keys slots core).2.allocator.abort (abortKeys keys slots core).1 },
        media⟩ := by
  induction keys generalizing slots core with
  | nil => exact .refl
  | cons key keys ih =>
    unfold abortKeys
    cases present : core.index.get? key with
    | none => exact ih slots core writer
    | some entry =>
      dsimp only
      split
      · exact ih slots core writer
      rename_i uncommitted
      have move := @Move.abort slips drains
        ⟨{ core with allocator := core.allocator.abort slots }, media⟩ key entry writer
        ⟨present, Bool.eq_false_iff.mpr uncommitted⟩
      rw [← abort_removeKey] at move
      exact .head move (ih (slots ++ [entry.slot]) (core.removeKey key entry.slot) writer)

@[simp] theorem settleCommit_nil (session : Session) : settleCommit [] session = session := by
  unfold settleCommit
  simp only [isEmpty_nil, Bool.not_true, Bool.or_false]
  rfl

theorem settleCommit_of_ne_nil (some : slots ≠ []) (session : Session) :
    settleCommit slots session = ⟨{ session.core with
      allocator := session.core.allocator.commit slots
      checkpointDirty := true }, session.media⟩ := by
  unfold settleCommit
  simp [isEmpty_eq_false_iff.mpr some]

@[simp] theorem settleRelease_nil (session : Session) : settleRelease [] session = session := by
  unfold settleRelease
  simp only [isEmpty_nil, Bool.not_true, Bool.or_false]
  rfl

theorem settleRelease_of_ne_nil (some : slots ≠ []) (session : Session) :
    settleRelease slots session = ⟨{ session.core with
      allocator := session.core.allocator.release slots
      checkpointDirty := true }, session.media⟩ := by
  unfold settleRelease
  simp [isEmpty_eq_false_iff.mpr some]

theorem isEmpty_push (slots : List Nat) (slot : Nat) : (slots ++ [slot]).isEmpty = false := by
  cases slots <;> rfl

/-- The last key of a batch is released after the others. -/
theorem settleRelease_removeKey (session : Session) (slots : List Nat) (key : ObjectKey)
    (slot : Nat) :
    settleRelease (slots ++ [slot]) ⟨session.core.removeKey key slot,
        ResidencyBitmap.clear session.media session.core.ownResidency slot⟩ =
      releaseKey (settleRelease slots session) key slot := by
  unfold releaseKey settleRelease removeKey SpaceAllocator.release
  simp [isEmpty_push]

/-- What removing a key that is committed and not pinned keeps, the loop of `release` keeps. -/
theorem releaseKeys_induct {keys : List ObjectKey} {motive : List Nat → Session → Prop}
    (remove : ∀ key ∈ keys, ∀ slots session entry, session.core.Holds key entry →
      session.core.pins key = 0 → motive slots session →
      motive (slots ++ [entry.slot]) ⟨session.core.removeKey key entry.slot,
        ResidencyBitmap.clear session.media session.core.ownResidency entry.slot⟩)
    {slots : List Nat} {session : Session} (start : motive slots session) :
    motive (releaseKeys keys slots session).1 (releaseKeys keys slots session).2 := by
  induction keys generalizing slots session with
  | nil => exact start
  | cons key keys ih =>
    replace ih := @ih fun other member => remove other (.tail _ member)
    unfold releaseKeys
    cases present : session.core.index.get? key with
    | none => exact ih start
    | some entry =>
      dsimp only
      split
      · exact ih start
      rename_i kept
      push Not at kept
      exact ih (remove key (.head _) slots session entry
        ⟨present, Bool.eq_true_of_not_eq_false kept.1⟩ (Nat.le_zero.mp kept.2) start)

/-- The header write of a reserved key fails: the environment fails it, the file
is missing, or the header does not encode. -/
def HeaderFails (session : Session) (key : ObjectKey) (entry : Entry) (outcome : WriteOutcome) :
    Prop :=
  outcome ≠ .done ∨ session.media.segment (session.core.headerPath entry.slot) = none ∨
    key = [] ∨ session.core.config.layout.payloadBytes = 0

/-- The last key of a batch is committed after the others. -/
theorem settleCommit_recordKey (session : Session) (slots : List Nat) (key : ObjectKey)
    (entry : Entry) (file : SegmentFile) (header : Bytes) :
    settleCommit (slots ++ [entry.slot]) (recordKey session key entry file header) =
      commitKey (settleCommit slots session) key entry file header := by
  unfold commitKey settleCommit SpaceAllocator.commit
  rw [foldl_append]
  simp only [isEmpty_push, isEmpty_cons, Bool.not_false, Bool.or_true]
  rfl

/-- A key without an open reservation is skipped by `commit`. -/
theorem commitKeys_skip (idle : ∀ entry, ¬ session.core.Reserves key entry) (outcome : WriteOutcome)
    (keys : List (ObjectKey × WriteOutcome)) (slots : List Nat) :
    commitKeys ((key, outcome) :: keys) slots session = commitKeys keys slots session := by
  rw [commitKeys]
  cases present : session.core.index.get? key with
  | none => rfl
  | some entry =>
    have committed : entry.committed = true := by
      by_contra uncommitted
      exact idle entry ⟨present, Bool.eq_false_iff.mpr uncommitted⟩
    simp [committed]

/-- What a commit batch comes to: its keys are committed one by one, or some of
them are recorded and it fails at the next. -/
def CommitRuns (slips drains : Bool) (slots : List Nat) (session : Session) :
    Except Status Unit × List Nat × Session → Prop
  | (.ok (), committed, reached) =>
    Moves slips drains (settleCommit slots session) (settleCommit committed reached)
  | (.error _, _, reached) => Moves true drains session reached

section Writer

variable (writer : session.core.config.readOnly = false)
include writer

theorem releaseKeys_moves (slots : List Nat) :
    Moves slips drains (settleRelease slots session)
      (settleRelease (releaseKeys keys slots session).1 (releaseKeys keys slots session).2) := by
  refine (@releaseKeys_induct keys (fun reached next => next.core.config.readOnly = false ∧
    Moves slips drains (settleRelease slots session) (settleRelease reached next))
    (fun key _ reached next entry holds unpinned before => ⟨before.1, ?_⟩) slots session
    ⟨writer, .refl⟩).2
  rw [settleRelease_removeKey]
  exact before.2.tail (.release before.1 holds unpinned)

/-- A header write lands, or it fails and the sequence number is spent. -/
theorem writeHeader_cases (reserves : session.core.Reserves key entry) (outcome : WriteOutcome) :
    (∃ file header, HeaderLands session key entry file header ∧
      ¬ HeaderFails session key entry outcome ∧
      writeHeader session entry.slot key entry.generation session.core.nextCommitSeq outcome =
        (.ok (), headerWritten session entry.slot file header)) ∨
    ∃ error media, HeaderFails session key entry outcome ∧
      Move slips drains session ⟨session.core.spendCommitSeq, media⟩ ∧
      writeHeader session entry.slot key entry.generation session.core.nextCommitSeq outcome =
        (.error error, media) := by
  unfold writeHeader
  cases encoded : encodeObjectHeader key session.core.config.layout.payloadBytes entry.generation
      session.core.nextCommitSeq with
  | none =>
    have fails : key = [] ∨ session.core.config.layout.payloadBytes = 0 := by
      unfold encodeObjectHeader at encoded
      split at encoded
      · assumption
      · cases encoded
    exact .inr ⟨_, _, .inr (.inr fails), .refuse writer, rfl⟩
  | some header =>
    have encodes : ¬ (key = [] ∨ session.core.config.layout.payloadBytes = 0) := by
      intro fails
      rw [encodeObjectHeader, if_pos fails] at encoded
      cases encoded
    dsimp only [writeObjectHeader]
    cases found : session.media.segment (session.core.headerPath entry.slot) with
    | none => exact .inr ⟨_, _, .inr (.inl found), .refuse writer, rfl⟩
    | some file =>
      cases outcome with
      | done =>
        refine .inl ⟨file, header, ⟨reserves, found, encoded⟩, ?_, rfl⟩
        rintro (failed | missing | fails)
        · exact failed rfl
        · rw [found] at missing
          cases missing
        · exact encodes fails
      | failed error left =>
        exact .inr ⟨error, _, .inl nofun, .spoil left writer reserves found, rfl⟩

/-- A key with an open reservation is recorded, or the batch ends at it. -/
theorem commitKeys_reserved (reserves : session.core.Reserves key entry) (outcome : WriteOutcome)
    (keys : List (ObjectKey × WriteOutcome)) (slots : List Nat) :
    (∃ file header, HeaderLands session key entry file header ∧
      ¬ HeaderFails session key entry outcome ∧
      commitKeys ((key, outcome) :: keys) slots session =
        commitKeys keys (slots ++ [entry.slot]) (recordKey session key entry file header)) ∨
    ∃ error media, HeaderFails session key entry outcome ∧
      Move slips drains session ⟨session.core.spendCommitSeq, media⟩ ∧
      commitKeys ((key, outcome) :: keys) slots session =
        (.error error, slots, ⟨session.core.spendCommitSeq, media⟩) := by
  rw [commitKeys]
  simp only [reserves.1, reserves.2, Bool.false_eq_true]
  rcases writeHeader_cases writer reserves outcome with
    ⟨file, header, lands, succeeds, written⟩ | ⟨error, media, fails, move, failed⟩
  · rw [nextCommitSeq] at written
    rw [written]
    exact .inl ⟨file, header, lands, succeeds, rfl⟩
  · rw [nextCommitSeq] at failed
    rw [failed]
    exact .inr ⟨error, media, fails, move, rfl⟩

theorem commitKeys_moves (keys : List (ObjectKey × WriteOutcome)) (slots : List Nat) :
    CommitRuns slips drains slots session (commitKeys keys slots session) := by
  induction keys generalizing slots session with
  | nil => exact .refl
  | cons item keys ih =>
    obtain ⟨key, outcome⟩ := item
    by_cases reserved : ∃ entry, session.core.Reserves key entry
    · obtain ⟨entry, reserves⟩ := reserved
      rcases commitKeys_reserved writer reserves outcome keys slots with
        ⟨file, header, lands, _, continues⟩ | ⟨error, media, _, move, ends⟩
      · rw [continues]
        have rest := @ih (recordKey session key entry file header) writer (slots ++ [entry.slot])
        generalize commitKeys keys (slots ++ [entry.slot]) _ = result at rest
        obtain ⟨status, committed, reached⟩ := result
        cases status with
        | ok done =>
          rw [CommitRuns, settleCommit_recordKey] at rest
          have move := @Move.commit slips drains (settleCommit slots session) key entry file header
            writer ⟨reserves, lands.found, lands.encoded⟩
          exact .head move rest
        | error error => exact .head (.record rfl writer lands) rest
      · rw [ends]
        exact .single move
    · push Not at reserved
      rw [commitKeys_skip reserved]
      exact ih writer slots

/-- The session that `commit` leaves. -/
theorem commit_eq (opened : session.core.opened = true) (keys : List (ObjectKey × WriteOutcome)) :
    commit session keys =
      match commitKeys keys [] session with
      | (.error error, _, reached) => (.error error, reached)
      | (.ok (), slots, reached) => (.ok (), settleCommit slots reached) := by
  unfold commit
  simp only [writer, opened, Bool.false_eq_true, Bool.true_eq_false, ↓reduceIte]
  generalize commitKeys keys [] session = result
  obtain ⟨status, slots, reached⟩ := result
  cases status with
  | error error => rfl
  | ok done =>
    dsimp only
    split
    · rename_i none
      rw [none, settleCommit_nil]
    · rename_i some
      rw [settleCommit_of_ne_nil some]

end Writer

/-- Every operation is a sequence of moves; only a commit that fails slips, and
only `drain_reclaim` drains. -/
theorem step_moves {session : Session} (sound : session.core.allocator.Sound)
    (operation : StoreOp)
    (steady : slips = true ∨ ∀ keys, operation = .commit keys → (commit session keys).1 = .ok ())
    (tight : drains = true ∨ ∀ max zeroing, operation ≠ .drainReclaim max zeroing) :
    Moves slips drains session (step session operation) := by
  cases operation with
  | reserve keys =>
    dsimp only [step, reserve]
    split
    · exact .refl
    rename_i writer
    split
    · exact .refl
    · exact reserveKeys_moves keys {} session.media (Bool.eq_false_iff.mpr writer) sound
  | commit keys =>
    by_cases writer : session.core.config.readOnly = false
    · by_cases opened : session.core.opened = true
      · have moves := @commitKeys_moves session slips drains writer keys []
        have steady := steady.imp_right fun all => all keys rfl
        rw [step]
        rw [commit_eq writer opened] at steady ⊢
        generalize commitKeys keys [] session = result at moves steady
        obtain ⟨status, slots, reached⟩ := result
        cases status with
        | error error =>
          rcases steady with rfl | ok
          · exact moves
          · cases ok
        | ok done =>
          rw [CommitRuns, settleCommit_nil] at moves
          exact moves
      · simp only [step, commit, writer, opened, Bool.false_eq_true]
        exact .refl
    · simp only [step, commit, writer]
      exact .refl
  | abort keys =>
    dsimp only [step, abort]
    split
    · exact .refl
    rename_i writer
    exact abortKeys_moves keys [] session.core session.media (Bool.eq_false_iff.mpr writer)
  | release keys =>
    dsimp only [step, release]
    split
    · exact .refl
    rename_i writer
    have moves := @releaseKeys_moves session slips drains keys (Bool.eq_false_iff.mpr writer) []
    rw [settleRelease_nil] at moves
    split
    · rename_i none
      rw [none, settleRelease_nil] at moves
      exact moves
    · rename_i some
      rw [settleRelease_of_ne_nil some] at moves
      exact moves
  | pin keys | unpin keys =>
    dsimp only [step, pin, unpin]
    split
    · exact .refl
    · exact .single (.pins _)
  | drainReclaim max zeroing =>
    rcases tight with draining | never
    · exact .single (.drainReclaim draining max zeroing)
    · exact (never max zeroing rfl).elim
  | precreateStep headroom faults => exact .single (.precreateStep headroom faults)
  | checkpoint outcome => exact .single (.checkpoint outcome)

/-! ## Invariants -/

variable {motive : Session → Prop}

/-- What every move keeps, any number of moves keep. -/
theorem Moves.keep
    (kept : ∀ session next, Move slips drains session next → motive session → motive next)
    {next : Session} (moves : Moves slips drains session next) (initial : motive session) :
    motive next := by
  induction moves with
  | refl => exact initial
  | tail _ move ih => exact kept _ _ move ih

section

variable (sound : ∀ session, motive session → session.core.allocator.Sound)
  (kept : ∀ session next, Move true true session next → motive session → motive next)
  (initial : motive session)
include sound kept initial

/-- What every move keeps, every operation keeps. -/
theorem step_keep (operation : StoreOp) : motive (step session operation) :=
  (step_moves (sound session initial) operation (.inl rfl) (.inl rfl)).keep kept initial

/-- What every move keeps holds at the end of every run. -/
theorem run_keep (operations : List StoreOp) : motive (runFrom step session operations) := by
  have kept : ∀ reached operation, motive reached → motive (step reached operation) :=
    fun _ operation holds => step_keep sound kept holds operation
  exact invariant_runFrom kept initial operations

end

/-- What no operation of a session touches. -/
structure SameStore (before after : ObjectStoreCore) : Prop where
  placement : after.placement = before.placement
  config : after.config = before.config
  opened : after.opened = before.opened
  slotBytes : after.slotBytes = before.slotBytes
  mountCount : after.mountCount = before.mountCount
  groupSlots : after.groupSlots = before.groupSlots
  containerBytes : after.containerBytes = before.containerBytes
  ownResidency : after.ownResidency = before.ownResidency
  peerResidency : after.peerResidency = before.peerResidency
  totalSlots : after.allocator.totalSlots = before.allocator.totalSlots

theorem SameStore.refl (core : ObjectStoreCore) : SameStore core core :=
  ⟨rfl, rfl, rfl, rfl, rfl, rfl, rfl, rfl, rfl, rfl⟩

theorem SameStore.trans {first second third : ObjectStoreCore} (left : SameStore first second)
    (right : SameStore second third) : SameStore first third where
  placement := right.placement.trans left.placement
  config := right.config.trans left.config
  opened := right.opened.trans left.opened
  slotBytes := right.slotBytes.trans left.slotBytes
  mountCount := right.mountCount.trans left.mountCount
  groupSlots := right.groupSlots.trans left.groupSlots
  containerBytes := right.containerBytes.trans left.containerBytes
  ownResidency := right.ownResidency.trans left.ownResidency
  peerResidency := right.peerResidency.trans left.peerResidency
  totalSlots := right.totalSlots.trans left.totalSlots

theorem Grown.sameStore (grown : Grown core next) :
    SameStore core next := by
  obtain ⟨_, _, _, _, rfl⟩ := grown
  exact ⟨rfl, rfl, rfl, rfl, rfl, rfl, rfl, rfl, rfl, rfl⟩

section Move

variable {next : Session} (move : Move slips drains session next)
include move

theorem Move.sameStore : SameStore session.core next.core := by
  cases move with
  | grant _ _ _ _ claims => exact { SameStore.refl _ with totalSlots := claims.geometry.totalSlots }
  | commit _ _ =>
    exact { SameStore.refl _ with totalSlots := (commit_sameExtent _ _).totalSlots }
  | record _ _ _ | refuse _ | spoil _ _ _ _ | pins _ => exact { SameStore.refl _ with }
  | abort _ _ =>
    exact { SameStore.refl _ with totalSlots := (abort_sameExtent _ _).totalSlots }
  | release _ _ _ =>
    exact { SameStore.refl _ with totalSlots := (release_sameExtent _ _).totalSlots }
  | drainReclaim _ max zeroing =>
    refine { SameStore.refl _ with totalSlots := ?_ }
    dsimp only [ObjectStoreCore.drainReclaim]
    rw [(finishReclaim_sameExtent _ _).totalSlots, (requeueReclaim_sameExtent _ _).totalSlots]
    rfl
  | precreateStep headroom faults => exact (core_precreateStep session headroom faults).sameStore
  | checkpoint outcome =>
    obtain ⟨_, _, same⟩ := core_checkpoint session outcome
    rw [same]
    exact ⟨rfl, rfl, rfl, rfl, rfl, rfl, rfl, rfl, rfl, rfl⟩

/-! ## What a move leaves in the index -/

/-- Where an entry comes from after a move: it was there, a fresh key got it, or a
commit recorded it. -/
inductive Origin (session next : Session) (key : ObjectKey) : Entry → Prop where
  | kept {entry : Entry} (present : session.core.index.get? key = some entry) :
      Origin session next key entry
  | granted {slot : Nat} {allocator : SpaceAllocator} (nonempty : key ≠ [])
      (short : key.length ≤ maxKeyBytes)
      (claims : session.core.allocator.Claims slot allocator)
      (same : next.core.allocator = allocator) :
      Origin session next key ⟨slot, session.core.allocator.generations slot, 0, false⟩
  | recorded {entry : Entry} {file : SegmentFile} {header : Bytes}
      (lands : HeaderLands session key entry file header)
      (media : next.media = (recordKey session key entry file header).media) :
      Origin session next key
        { entry with committed := true, commitSeq := session.core.nextCommitSeq }

theorem Move.origin (present : next.core.index.get? key = some entry) :
    Origin session next key entry := by
  cases move with
  | grant _ nonempty short _ claims =>
    simp only [insertReserved, get?_set] at present
    split at present
    · rename_i here
      cases present
      cases here
      exact .granted nonempty short claims rfl
    · exact .kept present
  | commit _ lands | record _ _ lands =>
    simp only [commitKey, settleCommit, recordKey, commitEntry, get?_set] at present
    split at present
    · rename_i here
      cases present
      cases here
      exact .recorded lands rfl
    · exact .kept present
  | refuse _ | spoil _ _ _ _ | pins _ | drainReclaim _ _ _ => exact .kept present
  | abort _ _ | release _ _ _ =>
    simp only [abortKey, releaseKey, settleRelease, removeKey, get?_erase] at present
    split at present
    · cases present
    · exact .kept present
  | precreateStep headroom faults =>
    obtain ⟨_, _, _, _, same⟩ := core_precreateStep session headroom faults
    rw [same] at present
    exact .kept present
  | checkpoint outcome =>
    obtain ⟨_, _, same⟩ := core_checkpoint session outcome
    rw [same] at present
    exact .kept present

/-- Only a completed reclaim changes a generation. -/
theorem Move.generations :
    next.core.allocator.generations = session.core.allocator.generations ∨
      drains = true ∧
        ∃ max zeroing, next = (ObjectStoreCore.drainReclaim session max zeroing).2 := by
  cases move with
  | grant _ _ _ _ claims => exact .inl claims.generations
  | commit _ _ => exact .inl (generations_commit _ _)
  | record _ _ _ | refuse _ | spoil _ _ _ _ | pins _ => exact .inl rfl
  | abort _ _ | release _ _ _ => exact .inl (generations_retire _ _ _)
  | drainReclaim draining max zeroing => exact .inr ⟨draining, max, zeroing, rfl⟩
  | precreateStep headroom faults =>
    obtain ⟨_, _, _, _, same⟩ := core_precreateStep session headroom faults
    rw [same]
    exact .inl rfl
  | checkpoint outcome =>
    obtain ⟨_, _, same⟩ := core_checkpoint session outcome
    rw [same]
    exact .inl rfl

end Move

end ObjectStoreCore

end Tutti
