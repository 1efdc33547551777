import Tutti.Storage.Generations

/-!
# What the bits of a rank say

A rank keeps one bitmap file, and bit `slot` is to say that the rank has a key
committed there. The bits outlive the store that wrote them, while the store is
closed and after it is gone. Here the operations of one rank, opening and closing
included, are summed up by what they do to the bits and to the committed keys.
-/

namespace Tutti

open Foundation Function OrderedDict ResidencyBitmap

namespace ObjectStoreCore

/-! ## Single bits -/

/-- A bit in the bitmap file of a rank; a missing file has none. -/
def residencyBit (media : Media) (root : NormalPath) (rank slot : Nat) : Bool :=
  ((media.residency root rank).map fun file => file.bits slot).getD false

theorem test_some (media : Media) (mapping : ResidencyMapping) (slot : Nat) :
    ResidencyBitmap.test media (some mapping) slot = true ↔
      slot < mapping.slotCount ∧ residencyBit media mapping.root mapping.rank slot = true := by
  unfold test
  dsimp only
  split
  · rename_i outside
    exact iff_of_false nofun fun inside => absurd inside.1 (not_lt.mpr outside)
  · rename_i inside
    exact ⟨fun set => ⟨not_le.mp inside, set⟩, fun set => set.2⟩

variable {root : NormalPath}

/-- A mapping writes its own file only. -/
theorem residency_write_of_ne {mapping : ResidencyMapping} {rank : Nat}
    (different : ¬ (root = mapping.root ∧ rank = mapping.rank)) (media : Media) (slot : Nat)
    (bit : Bool) :
    (ResidencyBitmap.write media (some mapping) slot bit).residency root rank =
      media.residency root rank := by
  unfold write
  dsimp only
  split
  · rfl
  split
  · rfl
  unfold Media.setResidency
  dsimp only
  by_cases root : root = mapping.root
  · subst root
    have other : rank ≠ mapping.rank := fun same => different ⟨rfl, same⟩
    rw [update_self, update_of_ne other]
  · rw [update_of_ne root]

/-- In its own file a mapping changes one bit, if it may and the file is there. -/
theorem residencyBit_write (media : Media) (mapping : ResidencyMapping) (slot : Nat) (bit : Bool)
    (query : Nat) :
    residencyBit (ResidencyBitmap.write media (some mapping) slot bit) mapping.root mapping.rank
        query =
      if mapping.writable = true ∧ slot < mapping.slotCount ∧
          (media.residency mapping.root mapping.rank).isSome = true ∧ query = slot then bit
      else residencyBit media mapping.root mapping.rank query := by
  unfold write
  dsimp only
  split
  · rename_i refused
    rw [if_neg]
    rintro ⟨writable, inside, _⟩
    rcases refused with readonly | outside
    · rw [readonly] at writable
      cases writable
    · exact absurd inside (not_lt.mpr outside)
  · rename_i allowed
    push Not at allowed
    cases found : media.residency mapping.root mapping.rank with
    | none =>
      rw [if_neg]
      rintro ⟨_, _, present, _⟩
      cases present
    | some file =>
      simp [residencyBit, Media.setResidency, update_apply, found,
        Bool.eq_true_of_not_eq_false allowed.1, allowed.2]

variable {media : Media} {bitmap : ResidencyBitmap}

/-- A bit that is set after a write was set before, or it is the one written. -/
theorem residencyBit_of_write {slot query rank : Nat} {bit : Bool}
    (set : residencyBit (ResidencyBitmap.write media bitmap slot bit) root rank query = true) :
    residencyBit media root rank query = true ∨ query = slot ∧ bit = true := by
  cases bitmap with
  | none => exact .inl set
  | some mapping =>
    by_cases own : root = mapping.root ∧ rank = mapping.rank
    · obtain ⟨rfl, rfl⟩ := own
      rw [residencyBit_write] at set
      split at set
      · rename_i here
        exact .inr ⟨here.2.2.2, set⟩
      · exact .inl set
    · rw [residencyBit, residency_write_of_ne own] at set
      exact .inl set

/-- Clearing sets nothing. -/
theorem residencyBit_of_clear {slot query rank : Nat}
    (set : residencyBit (ResidencyBitmap.clear media bitmap slot) root rank query = true) :
    residencyBit media root rank query = true :=
  (residencyBit_of_write set).resolve_right nofun

/-- The bit that is cleared is clear afterwards. -/
theorem residencyBit_clear_self {mapping : ResidencyMapping} {slot : Nat}
    (writable : mapping.writable = true) (inside : slot < mapping.slotCount) :
    residencyBit (ResidencyBitmap.clear media (some mapping) slot) mapping.root mapping.rank slot =
      false := by
  rw [clear, residencyBit_write]
  split
  · rfl
  rename_i absent
  rw [residencyBit]
  cases found : media.residency mapping.root mapping.rank with
  | none => rfl
  | some file => exact (absent ⟨writable, inside, by rw [found]; rfl, rfl⟩).elim

/-! ## Operations of a rank -/

/-- What a rank does with its store over time; it always opens it with the same
configuration. -/
inductive RankOp where
  | store (operation : StoreOp)
  | close (outcome : WriteOutcome)
  | reopen (faults : OpenFaults)

def rankStep (config : StoreConfig) (session : Session) : RankOp → Session
  | .store operation => step session operation
  | .close outcome => (close session outcome).2
  | .reopen faults => (openStore session config faults).2

/-- Some key is committed in the slot. -/
def CommittedAt (core : ObjectStoreCore) (slot : Nat) : Prop :=
  ∃ key entry, core.Holds key entry ∧ entry.slot = slot

/-- A set bit of the rank's file stands for a committed key. -/
def Truthful (config : StoreConfig) (session : Session) : Prop :=
  ∀ slot < slotTotal config, residencyBit session.media config.root config.rankId slot = true →
    session.core.CommittedAt slot

/-- The bitmaps of other ranks are left alone. -/
def OthersKept (config : StoreConfig) (before after : Media) : Prop :=
  ∀ root rank, ¬ (root = config.root ∧ rank = config.rankId) →
    after.residency root rank = before.residency root rank

/-- The store of a rank between two operations: what its slots and mappings are. -/
structure RankLaid (config : StoreConfig) (core : ObjectStoreCore) : Prop where
  sound : core.allocator.Sound
  total : core.allocator.totalSlots ≤ slotTotal config
  slots : ∀ key entry, core.index.get? key = some entry → entry.slot < slotTotal config
  own : ∀ mapping, core.ownResidency = some mapping → core.config = config ∧
    mapping = ⟨config.root, config.rankId, slotTotal config, !config.readOnly⟩
  unmapped : core.opened = false → core.ownResidency = none
  peers : core.ownResidency.usable = true → ∀ rank mapping, rank ≠ config.rankId →
    core.peerResidency.getD rank none = some mapping →
    mapping = ⟨config.root, rank, slotTotal config, false⟩

theorem rankLaid_fresh (config : StoreConfig) : RankLaid config fresh where
  sound := SpaceAllocator.sound_unconfigured
  total := Nat.zero_le _
  slots := nofun
  own := nofun
  unmapped := fun _ => rfl
  peers := nofun

variable {config : StoreConfig}

/-- The mappings stay, and the slots of the index keep their bound. -/
theorem RankLaid.of_same {core next : ObjectStoreCore} (laid : RankLaid config core)
    (same : SameStore core next) (sound : next.allocator.Sound)
    (slots : ∀ key entry, next.index.get? key = some entry → entry.slot < slotTotal config) :
    RankLaid config next where
  sound
  total := by
    rw [same.totalSlots]
    exact laid.total
  slots
  own := by
    rw [same.ownResidency, same.config]
    exact laid.own
  unmapped := by
    rw [same.opened, same.ownResidency]
    exact laid.unmapped
  peers := by
    rw [same.ownResidency, same.peerResidency]
    exact laid.peers

theorem Move.rankLaid {slips drains : Bool} {session next : Session}
    (move : Move slips drains session next) (laid : RankLaid config session.core) :
    RankLaid config next.core := by
  refine laid.of_same move.sameStore (move.sound laid.sound) fun key entry present => ?_
  cases move.origin present with
  | kept before => exact laid.slots key entry before
  | granted _ _ claims _ => exact lt_of_lt_of_le claims.lt_totalSlots laid.total
  | recorded lands _ =>
    have inside := laid.slots key _ lands.reserves.1
    exact inside

theorem RankLaid.step {session : Session} (laid : RankLaid config session.core)
    (operation : StoreOp) :
    RankLaid config (step session operation).core :=
  step_keep (motive := fun session => RankLaid config session.core) (fun _ laid => laid.sound)
    (fun _ _ move laid => move.rankLaid laid) laid operation

/-! ## Operations that leave the bits alone -/

/-- Neither the committed keys nor the bitmaps change. -/
structure Quiet (before after : Session) : Prop where
  holds : ∀ key entry, after.core.Holds key entry ↔ before.core.Holds key entry
  residency : after.media.residency = before.media.residency

variable (session : Session)

theorem Quiet.refl : Quiet session session := ⟨fun _ _ => Iff.rfl, rfl⟩

/-- The index and the bitmaps are the same. -/
theorem Quiet.of_index {before after : Session} (index : after.core.index = before.core.index)
    (residency : after.media.residency = before.media.residency) : Quiet before after := by
  refine ⟨fun key entry => ?_, residency⟩
  rw [Holds, Holds, index]

theorem Quiet.truthful {before after : Session} (quiet : Quiet before after)
    (truthful : Truthful config before) : Truthful config after := by
  intro slot exists_ set
  rw [residencyBit, quiet.residency] at set
  obtain ⟨key, entry, holds, located⟩ := truthful slot exists_ set
  exact ⟨key, entry, (quiet.holds key entry).mpr holds, located⟩

theorem quiet_persistCheckpoint (outcome : WriteOutcome) :
    Quiet session (persistCheckpoint session outcome).2 := by
  obtain ⟨_, _, same⟩ := core_persistCheckpoint session outcome
  exact .of_index (by rw [same]) (media_persistCheckpoint session outcome).2

/-- Only commits and releases touch the bits. -/
theorem step_quiet {operation : StoreOp} (noCommit : ∀ keys, operation ≠ .commit keys)
    (noRelease : ∀ keys, operation ≠ .release keys) : Quiet session (step session operation) := by
  cases operation with
  | reserve keys => exact ⟨(holds_reserve session.core keys).1, rfl⟩
  | commit keys => exact (noCommit keys rfl).elim
  | abort keys =>
    dsimp only [step, abort]
    split
    · exact .refl _
    · exact ⟨(holds_abortKeys keys [] session.core).1, rfl⟩
  | release keys => exact (noRelease keys rfl).elim
  | pin keys | unpin keys =>
    dsimp only [step, pin, unpin]
    split
    · exact .refl _
    · exact .of_index rfl rfl
  | drainReclaim max zeroing => exact .of_index rfl (zeroSlots_frame _ _ _ _).2
  | precreateStep headroom faults =>
    obtain ⟨_, _, _, _, same⟩ := core_precreateStep session headroom faults
    refine .of_index ?_ (built_precreateStep session headroom faults).frame.2
    dsimp only [step]
    rw [same]
  | checkpoint outcome =>
    dsimp only [step, checkpoint]
    split
    · exact .refl _
    split
    · exact .refl _
    · exact quiet_persistCheckpoint session outcome

theorem quiet_close (outcome : WriteOutcome) :
    Quiet session (close session outcome).2 := by
  unfold close
  split
  · exact .refl _
  split
  · have quiet := quiet_persistCheckpoint session outcome
    exact ⟨quiet.holds, quiet.residency⟩
  · exact .of_index rfl rfl

/-! ## Commits -/

/-- The file is not the one that the store has mapped as its own. -/
def NotOwn (core : ObjectStoreCore) (root : NormalPath) (rank : Nat) : Prop :=
  ∀ mapping, core.ownResidency = some mapping → ¬ (root = mapping.root ∧ rank = mapping.rank)

/-- What committing some keys does to the committed keys and to the bits. -/
structure Committing (keys : List ObjectKey) (before after : Session) : Prop where
  own : after.core.ownResidency = before.core.ownResidency
  kept : ∀ key entry, before.core.Holds key entry → after.core.Holds key entry
  reserves : ∀ key entry, after.core.Reserves key entry → before.core.Reserves key entry
  origin : ∀ key entry, after.core.Holds key entry → before.core.Holds key entry ∨
    key ∈ keys ∧ ∃ reserved, before.core.Reserves key reserved ∧ reserved.slot = entry.slot
  bits : ∀ root rank slot, residencyBit after.media root rank slot = true →
    residencyBit before.media root rank slot = true ∨ after.core.CommittedAt slot
  others : ∀ root rank, before.core.NotOwn root rank →
    after.media.residency root rank = before.media.residency root rank

variable {keys : List ObjectKey}

theorem Committing.of_quiet {before after : Session}
    (own : after.core.ownResidency = before.core.ownResidency)
    (index : after.core.index = before.core.index)
    (residency : after.media.residency = before.media.residency) :
    Committing keys before after where
  own
  kept := fun key entry holds => ((Quiet.of_index index residency).holds key entry).mpr holds
  reserves := by
    intro key entry
    rw [Reserves, index]
    exact id
  origin := fun key entry holds =>
    .inl (((Quiet.of_index index residency).holds key entry).mp holds)
  bits := by
    intro root rank slot set
    rw [residencyBit, residency] at set
    exact .inl set
  others := by
    intro root rank _
    rw [residency]

theorem Committing.trans {first second third : Session} (left : Committing keys first second)
    (right : Committing keys second third) :
    Committing keys first third where
  own := right.own.trans left.own
  kept := fun key entry holds => right.kept key entry (left.kept key entry holds)
  reserves := fun key entry reserves => left.reserves key entry (right.reserves key entry reserves)
  origin := by
    intro key entry holds
    rcases right.origin key entry holds with earlier | ⟨named, reserved, reserves, located⟩
    · exact left.origin key entry earlier
    · exact .inr ⟨named, reserved, left.reserves key reserved reserves, located⟩
  bits := by
    intro root rank slot set
    rcases right.bits root rank slot set with earlier | committed
    · rcases left.bits root rank slot earlier with first | ⟨key, entry, holds, located⟩
      · exact .inl first
      · exact .inr ⟨key, entry, right.kept key entry holds, located⟩
    · exact .inr committed
  others := by
    intro root rank apart
    refine (right.others root rank ?_).trans (left.others root rank apart)
    rw [NotOwn, left.own]
    exact apart

theorem Committing.mono {more : List ObjectKey} {before after : Session}
    (committing : Committing keys before after) (subset : ∀ key ∈ keys, key ∈ more) :
    Committing more before after :=
  { committing with
    origin := fun key entry holds => (committing.origin key entry holds).imp_right fun gained =>
      ⟨subset key gained.1, gained.2⟩ }

theorem writeHeader_residency (slot : Nat) (key : ObjectKey) (generation commitSeq : Nat)
    (outcome : WriteOutcome) :
    (writeHeader session slot key generation commitSeq outcome).2.residency =
      session.media.residency := by
  unfold writeHeader
  split
  · rfl
  unfold writeObjectHeader
  split
  · rfl
  · split <;> rfl

/-- One key is committed. -/
theorem committing_recorded {session : Session} {key : ObjectKey} {entry : Entry}
    (reserves : session.core.Reserves key entry)
    (residency : media.residency = session.media.residency) (commitSeq : Nat) :
    Committing [key] session
      ⟨ObjectStoreCore.commitEntry { session.core with commitSeq } key entry commitSeq,
        set media session.core.ownResidency entry.slot⟩ where
  own := rfl
  kept := by
    intro query held holds
    have different : query ≠ key := by
      rintro rfl
      have same := Option.some.inj (holds.1.symm.trans reserves.1)
      have committed := holds.2
      rw [same, reserves.2] at committed
      cases committed
    simp only [Holds, commitEntry, get?_set, different]
    exact holds
  reserves := by
    intro query found unfinished
    simp only [Reserves, commitEntry, get?_set] at unfinished
    split at unfinished
    · obtain ⟨same, uncommitted⟩ := unfinished
      cases same
      cases uncommitted
    · exact unfinished
  origin := by
    intro query found holds
    simp only [Holds, commitEntry, get?_set] at holds
    split at holds
    · rename_i here
      subst here
      refine .inr ⟨.head _, entry, reserves, ?_⟩
      rw [← Option.some.inj holds.1]
    · exact .inl holds
  bits := by
    intro root rank slot set
    rcases residencyBit_of_write set with earlier | ⟨rfl, _⟩
    · rw [residencyBit, residency] at earlier
      exact .inl earlier
    · refine .inr ⟨key, { entry with committed := true, commitSeq }, ⟨?_, rfl⟩, rfl⟩
      simp [commitEntry]
  others := by
    intro root rank apart
    rw [← residency]
    cases own : session.core.ownResidency with
    | none => rfl
    | some mapping => exact residency_write_of_ne (apart mapping own) media entry.slot true

theorem committing_commitKeys (keys : List (ObjectKey × WriteOutcome)) (slots : List Nat)
    (session : Session) :
    Committing (keys.map Prod.fst) session (commitKeys keys slots session).2.2 := by
  induction keys generalizing slots session with
  | nil => exact .of_quiet rfl rfl rfl
  | cons item keys ih =>
    obtain ⟨key, outcome⟩ := item
    have later : ∀ slots session, Committing (((key, outcome) :: keys).map Prod.fst) session
        (commitKeys keys slots session).2.2 :=
      fun slots session => (ih slots session).mono fun _ member => .tail _ member
    rw [commitKeys]
    cases present : session.core.index.get? key with
    | none => exact later slots session
    | some entry =>
      dsimp only
      split
      · exact later slots session
      rename_i uncommitted
      have written := writeHeader_residency session entry.slot key entry.generation
        ((session.core.commitSeq + 1) % uint64Size) outcome
      split
      · rename_i result
        rw [result] at written
        exact .of_quiet rfl rfl written
      rename_i result
      rw [result] at written
      have recorded := committing_recorded
        ⟨present, Bool.eq_false_iff.mpr uncommitted⟩ written
        ((session.core.commitSeq + 1) % uint64Size)
      have named : ∀ query ∈ [key], query ∈ ((key, outcome) :: keys).map Prod.fst := by
        intro query member
        rw [List.mem_singleton.mp member]
        exact .head _
      exact (recorded.mono named).trans (later _ _)

theorem committing_commit (keys : List (ObjectKey × WriteOutcome)) :
    Committing (keys.map Prod.fst) session (commit session keys).2 := by
  have walk := committing_commitKeys keys [] session
  unfold commit
  split
  · exact .of_quiet rfl rfl rfl
  split
  · exact .of_quiet rfl rfl rfl
  split
  · rename_i result
    rw [result] at walk
    exact walk
  · rename_i result
    rw [result] at walk
    split
    · exact walk
    · exact walk.trans (.of_quiet rfl rfl rfl)

/-! ## Releases -/

/-- What releasing does to the committed keys and to the bits. -/
structure Releasing (before after : Session) : Prop where
  own : after.core.ownResidency = before.core.ownResidency
  origin : ∀ key entry, after.core.Holds key entry → before.core.Holds key entry
  bits : ∀ root rank slot, residencyBit after.media root rank slot = true →
    residencyBit before.media root rank slot = true
  others : ∀ root rank, before.core.NotOwn root rank →
    after.media.residency root rank = before.media.residency root rank

/-- One key is released. -/
theorem releasing_removed (key : ObjectKey) (slot : Nat) :
    Releasing session ⟨session.core.removeKey key slot,
      ResidencyBitmap.clear session.media session.core.ownResidency slot⟩ where
  own := rfl
  origin := by
    intro query entry holds
    simp only [Holds, removeKey, get?_erase] at holds
    split at holds
    · cases holds.1
    · exact holds
  bits := fun _ _ _ set => residencyBit_of_clear set
  others := by
    intro root rank apart
    cases own : session.core.ownResidency with
    | none => rfl
    | some mapping => exact residency_write_of_ne (apart mapping own) session.media slot false

theorem releasing_releaseKeys (keys : List ObjectKey) (slots : List Nat) (session : Session) :
    Releasing session (releaseKeys keys slots session).2 := by
  refine @releaseKeys_induct keys (fun _ next => Releasing session next)
    (fun key _ reached next entry _ _ before => ?_) slots session
    ⟨rfl, fun _ _ holds => holds, fun _ _ _ set => set, fun _ _ _ => rfl⟩
  have last := releasing_removed next key entry.slot
  refine ⟨before.own,
    fun query held holds => before.origin query held (last.origin query held holds),
    fun root rank slot set => before.bits root rank slot (last.bits root rank slot set),
    fun root rank apart => (last.others root rank ?_).trans (before.others root rank apart)⟩
  rw [NotOwn, before.own]
  exact apart

/-- While the bitmap is mapped, a released key takes its bit along. -/
theorem truthful_releaseKeys (keys : List ObjectKey) (slots : List Nat) {session : Session}
    (own : session.core.ownResidency = some ⟨config.root, config.rankId, slotTotal config, true⟩)
    (inside : ∀ key entry, session.core.index.get? key = some entry →
      entry.slot < slotTotal config) (truthful : Truthful config session) :
    Truthful config (releaseKeys keys slots session).2 := by
  refine (@releaseKeys_induct keys (fun _ next => (next.core.ownResidency =
      some ⟨config.root, config.rankId, slotTotal config, true⟩ ∧
      ∀ key entry, next.core.index.get? key = some entry → entry.slot < slotTotal config) ∧
      Truthful config next)
    (fun key _ reached next entry released _ before => ?_) slots session
    ⟨⟨own, inside⟩, truthful⟩).2
  obtain ⟨⟨own, inside⟩, truthful⟩ := before
  refine ⟨⟨own, fun query held found => ?_⟩, fun slot exists_ set => ?_⟩
  · simp only [removeKey, get?_erase] at found
    split at found
    · cases found
    · exact inside query held found
  have before := residencyBit_of_clear set
  obtain ⟨query, held, holds, rfl⟩ := truthful slot exists_ before
  refine ⟨query, held, ?_, rfl⟩
  have different : query ≠ key := by
    rintro rfl
    have same := Option.some.inj (holds.1.symm.trans released.1)
    have cleared := @residencyBit_clear_self next.media
      ⟨config.root, config.rankId, slotTotal config, true⟩ entry.slot rfl
      (inside query entry released.1)
    rw [own, same] at set
    rw [cleared] at set
    cases set
  simp only [Holds, removeKey, get?_erase, different]
  exact holds

theorem releasing_release (keys : List ObjectKey) :
    Releasing session (release session keys).2 := by
  have walk := releasing_releaseKeys keys [] session
  unfold release
  split
  · exact ⟨rfl, fun _ _ holds => holds, fun _ _ _ set => set, fun _ _ _ => rfl⟩
  dsimp only
  split
  · exact walk
  · exact { walk with }

theorem truthful_release {session : Session} (laid : RankLaid config session.core)
    (mapped : session.core.ownResidency.usable = true) (truthful : Truthful config session)
    (keys : List ObjectKey) :
    Truthful config (release session keys).2 := by
  obtain ⟨mapping, own⟩ := Option.isSome_iff_exists.mp mapped
  obtain ⟨config_eq, shape⟩ := laid.own mapping own
  unfold release
  split
  · exact truthful
  rename_i writer
  rw [config_eq] at writer
  rw [shape, Bool.eq_false_iff.mpr writer] at own
  have walk := truthful_releaseKeys keys [] own laid.slots truthful
  dsimp only
  split
  · exact walk
  · exact walk

/-! ## What a session keeps -/

/-- A committed key can only be lost to a release that names it while it is not pinned. -/
def Spares (key : ObjectKey) (session : Session) : StoreOp → Prop
  | .release keys => key ∈ keys → 0 < session.core.pins key
  | _ => True

section Spared

variable {session : Session} {key : ObjectKey} {entry : Entry}

theorem holds_releaseKeys (holds : session.core.Holds key entry) {keys : List ObjectKey}
    (spared : key ∈ keys → 0 < session.core.pins key) (slots : List Nat) :
    (releaseKeys keys slots session).2.core.Holds key entry := by
  refine (@releaseKeys_induct keys (fun _ next => next.core.Holds key entry ∧
    next.core.pins = session.core.pins) (fun other named _ next _ _ unpinned before => ?_)
    slots session ⟨holds, rfl⟩).1
  have different : key ≠ other := by
    rintro rfl
    rw [before.2] at unpinned
    exact (spared named).ne' unpinned
  refine ⟨?_, before.2⟩
  simp only [Holds, removeKey, get?_erase, different]
  exact before.1

theorem holds_step (holds : session.core.Holds key entry) {operation : StoreOp}
    (spared : Spares key session operation) : (step session operation).core.Holds key entry := by
  cases operation with
  | commit keys => exact (committing_commit session keys).kept key entry holds
  | release keys =>
    have walk := holds_releaseKeys holds spared []
    dsimp only [step, release]
    split
    · exact holds
    split
    · exact walk
    · exact walk
  | _ =>
    refine ((step_quiet session ?_ ?_).holds key entry).mpr holds
    · rintro keys ⟨⟩
    · rintro keys ⟨⟩

theorem holds_run (holds : session.core.Holds key entry) (operations : List StoreOp)
    (spared : Along step (Spares key) session operations) :
    (runFrom step session operations).core.Holds key entry := by
  induction operations generalizing session with
  | nil => exact holds
  | cons operation operations ih => exact ih (holds_step holds spared.1) spared.2

/-- With distinct mounts, once a key is committed, it keeps its slot, generation and
sequence number, its header stays readable and no other key gets its slot, until it
is released without a pin. -/
theorem committed_kept {media : Media} {faults : OpenFaults}
    (ok : openStore ⟨fresh, media⟩ config faults = (.ok (), session))
    (distinct : MountsDistinct config) (short : ShortKeys session)
    (earlier later : List StoreOp) (holds : (runFrom step session earlier).core.Holds key entry)
    (spared : Along step (Spares key) (runFrom step session earlier) later) :
    let reached := runFrom step (runFrom step session earlier) later
    reached.core.Holds key entry ∧ reached.core.Confirmed reached.media key entry ∧
      ∀ other found, reached.core.index.get? other = some found → found.slot = entry.slot →
        other = key := by
  have durable := ((durable_of_open ok distinct short).run earlier).run later
  have kept := holds_run holds later spared
  refine ⟨kept, durable.confirmed key entry kept, fun other found present same => ?_⟩
  exact durable.owned.key_unique present kept.1 same

theorem committed_kept_pinned :
    (runFrom step (runFrom step pairSession [.reserve [[1]], .commit [([1], .done)]])
      [.abort [[1]], .pin [[1]], .release [[1]]]).core.Holds [1] ⟨0, 0, 1, true⟩ := by
  refine (committed_kept openStore_pair (by decide) shortKeys_pair _ _ ?_ ?_).1
  · exact ⟨by decide +kernel, rfl⟩
  · exact ⟨trivial, trivial, fun _ => by decide +kernel, trivial⟩

end Spared

end ObjectStoreCore

end Tutti
