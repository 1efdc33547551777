import Tutti.Storage.CommitCoherence
import Tutti.Storage.Reopen
import Tutti.Storage.SlotHeaders

/-!
# What a restart brings back

A checkpoint holds the committed entries of the index, and each of them is
confirmed by the header in its slot; so a new object on the same media recovers
exactly these entries. A store that closes clean writes nothing: its media still
hold the checkpoint it was opened with, and what the headers confirmed then they
confirm again.
-/

namespace Tutti

open Bool Foundation List
open OrderedDict hiding keys

namespace ObjectStoreCore

/-! ## Recovering a whole checkpoint -/

/-- The entry of the index that an entry of the checkpoint stands for. -/
def restored (stored : CheckpointEntry) : Entry :=
  ⟨stored.slot, stored.generation, stored.commitSeq, true⟩

/-- Two entries of a checkpoint that do not stand in each other's way. -/
def Apart (first second : CheckpointEntry) : Prop :=
  first.key ≠ second.key ∧ first.slot ≠ second.slot

variable {core : ObjectStoreCore} {media : Media} {key : ObjectKey} {entry : Entry}

/-- Entries that their headers confirm and that are apart are all recovered. -/
theorem recoverEntries_whole {base core : ObjectStoreCore} {media : Media}
    (entries : List CheckpointEntry) {taken : List CheckpointEntry} {slots : List Nat}
    {highest : Nat} (same : SameJudge base core) (holds : core.HoldsJust taken)
    (index : ∀ key entry, core.index.get? key = some entry ↔
      ∃ stored ∈ taken, stored.key = key ∧ restored stored = entry)
    (apart : (taken ++ entries).Pairwise Apart)
    (confirmed : ∀ stored ∈ entries, stored.payloadBytes = base.config.layout.payloadBytes ∧
      base.Confirmed media stored.key (restored stored)) (key : ObjectKey) (entry : Entry) :
    (recoverEntries media entries slots highest core).2.2.index.get? key = some entry ↔
      ∃ stored ∈ taken ++ entries, stored.key = key ∧ restored stored = entry := by
  induction entries generalizing core taken slots highest with
  | nil =>
    rw [append_nil]
    exact index key entry
  | cons stored entries ih =>
    obtain ⟨payload, header⟩ := confirmed stored (.head _)
    have free : ∀ other ∈ taken, Apart other stored := fun other member =>
      (pairwise_append.mp apart).2.2 other member stored (.head _)
    have accepted : core.judgeEntry media stored = .accepted stored.commitSeq := by
      refine judgeEntry_accepted_iff.mpr ⟨?_, ?_, ?_, same.confirmed header⟩
      · rw [same.layout]
        exact payload
      · exact (holds.index stored.key).mpr fun other member => (free other member).1
      · exact (holds.owner stored.slot).mpr fun other member => (free other member).2
    rw [append_cons] at apart ⊢
    rw [recoverEntries, accepted]
    refine ih { same with } (holds.adopt stored _) ?_ apart
      fun other member => confirmed other (mem_cons_of_mem stored member)
    intro query found
    simp only [adoptEntry, get?_set, mem_append, mem_singleton]
    by_cases here : query = stored.key
    · rw [if_pos here]
      constructor
      · intro present
        exact ⟨stored, .inr rfl, here.symm, Option.some.inj present⟩
      rintro ⟨other, earlier | rfl, named, rfl⟩
      · exact absurd (named.trans here) (free other earlier).1
      · rfl
    · rw [if_neg here, index]
      constructor
      · rintro ⟨other, earlier, named, located⟩
        exact ⟨other, .inl earlier, named, located⟩
      rintro ⟨other, earlier | rfl, named, located⟩
      · exact ⟨other, earlier, named, located⟩
      · exact absurd named.symm here

/-! ## Recovering the same checkpoint again -/

/-- No header appeared: what can be read is what could be read before, or zero. -/
def Faded (before after : Media) : Prop :=
  ∀ path offset header, readObjectHeader after path offset = some header →
    readObjectHeader before path offset = some header ∨ header = zeroBlock

theorem Faded.refl (media : Media) : Faded media media := fun _ _ _ found => .inl found

theorem Faded.trans {first second third : Media} (left : Faded first second)
    (right : Faded second third) : Faded first third := by
  intro path offset header found
  rcases right path offset header found with earlier | zero
  · exact left path offset header earlier
  · exact .inr zero

theorem faded_of_segment {before after : Media} (same : after.segment = before.segment) :
    Faded before after := by
  intro path offset header found
  unfold readObjectHeader at *
  rw [same] at found
  exact .inl found

theorem validateStructure_zeroBlock : validateStructure zeroBlock = .error .emptySlot := by
  have long : ¬ zeroBlock.length < ObjectHeaderLayout.headerBytes := by
    rw [zeroBlock, length_replicate]
    decide
  have empty : loadAt zeroBlock ObjectHeaderLayout.magicOffset 8 = replicate 8 0 := by
    rfl
  rw [validateStructure, if_neg long, if_pos empty]

/-- An accepted entry has a key of its own. -/
theorem get?_adoptEntry {stored : CheckpointEntry} {commitSeq : Nat}
    (accepted : core.judgeEntry media stored = .accepted commitSeq)
    (present : core.index.get? key = some entry) :
    (core.adoptEntry stored commitSeq).index.get? key = some entry := by
  obtain ⟨_, absent, _⟩ := judgeEntry_accepted_iff.mp accepted
  have different : key ≠ stored.key := by
    rintro rfl
    rw [absent] at present
    cases present
  simp only [adoptEntry, get?_set, different, ↓reduceIte]
  exact present

variable {slots : List Nat}

/-- The walk never takes an entry of the index back. -/
theorem recoverEntries_keeps (entries : List CheckpointEntry) {highest : Nat}
    (present : core.index.get? key = some entry) :
    (recoverEntries media entries slots highest core).2.2.index.get? key = some entry := by
  induction entries generalizing core slots highest with
  | nil => exact present
  | cons stored entries ih =>
    rw [recoverEntries]
    cases verdict : core.judgeEntry media stored with
    | geometry | duplicate | header => exact ih present
    | accepted commitSeq => exact ih (get?_adoptEntry verdict present)

/-- Only the header of an entry is looked up on the media. -/
theorem judgeEntry_cases (core : ObjectStoreCore) (stored : CheckpointEntry) :
    (∀ media, core.judgeEntry media stored = .geometry) ∨
      (∀ media, core.judgeEntry media stored = .duplicate) ∨
      ∀ media, core.judgeEntry media stored = .header ∨
        ∃ commitSeq, core.judgeEntry media stored = .accepted commitSeq := by
  unfold judgeEntry
  split
  · exact .inl fun _ => rfl
  split
  · exact .inr (.inl fun _ => rfl)
  refine .inr (.inr fun media => ?_)
  split
  · exact .inl rfl
  split
  · exact .inl rfl
  · exact .inr ⟨_, rfl⟩

/-- An entry is judged as before if no header appeared and its own header, if it
was accepted, still confirms it. -/
theorem judgeEntry_again {before after : Media} (faded : Faded before after)
    {stored : CheckpointEntry}
    (kept : ∀ commitSeq, core.judgeEntry before stored = .accepted commitSeq →
      core.Confirmed after stored.key ⟨stored.slot, stored.generation, commitSeq, true⟩) :
    core.judgeEntry after stored = core.judgeEntry before stored := by
  rcases core.judgeEntry_cases stored with geometry | duplicate | looked
  · rw [geometry, geometry]
  · rw [duplicate, duplicate]
  rcases looked before with rejected | ⟨commitSeq, accepted⟩
  · rcases looked after with again | ⟨commitSeq, appeared⟩
    · rw [rejected, again]
    obtain ⟨payload, absent, unowned, confirmed⟩ := judgeEntry_accepted_iff.mp appeared
    obtain ⟨header, fields, found, decoded, sequence⟩ := confirmed.header
    rcases faded _ _ _ found with earlier | zero
    · have contrary := judgeEntry_accepted_iff.mpr ⟨payload, absent, unowned, rfl,
        confirmed.lt_totalSlots, header, fields, earlier, decoded, sequence⟩
      rw [rejected] at contrary
      cases contrary
    · have valid := (decodeObjectHeader_ok_iff.mp decoded).2.2.1
      rw [zero, validateStructure_zeroBlock] at valid
      cases valid
  · obtain ⟨payload, absent, unowned, _⟩ := judgeEntry_accepted_iff.mp accepted
    rw [accepted]
    exact judgeEntry_accepted_iff.mpr ⟨payload, absent, unowned, kept commitSeq accepted⟩

/-- The walk takes the same entries again if no header appeared and those of the
entries it took are kept. -/
theorem recoverEntries_again {base : ObjectStoreCore} {before after : Media}
    (faded : Faded before after) (entries : List CheckpointEntry) {highest : Nat}
    (same : SameJudge base core) (kept : ∀ key entry,
      (recoverEntries before entries slots highest core).2.2.index.get? key = some entry →
        core.index.get? key = some entry ∨ base.Confirmed after key entry) :
    recoverEntries after entries slots highest core =
      recoverEntries before entries slots highest core := by
  induction entries generalizing core slots highest with
  | nil => rfl
  | cons stored entries ih =>
    have judged : core.judgeEntry after stored = core.judgeEntry before stored := by
      refine judgeEntry_again faded fun commitSeq accepted => ?_
      obtain ⟨_, absent, _⟩ := judgeEntry_accepted_iff.mp accepted
      rw [recoverEntries, accepted] at kept
      rcases kept stored.key _ (recoverEntries_keeps entries (get?_set_self _ _ _))
        with present | confirmed
      · rw [absent] at present
        cases present
      · exact same.confirmed confirmed
    rw [recoverEntries] at kept
    rw [recoverEntries, recoverEntries, judged]
    cases verdict : core.judgeEntry before stored with
    | geometry | duplicate | header =>
      rw [verdict] at kept
      exact ih { same with } kept
    | accepted commitSeq =>
      rw [verdict] at kept
      refine ih { same with } fun key entry present => ?_
      exact (kept key entry present).imp_left (get?_adoptEntry verdict)

/-! ## Steps that leave the checkpoint valid -/

/-- A rewritten file holds no more than it did, apart from zeros. -/
theorem faded_setSegment {path : SegmentPath} {next : SegmentFile}
    (shown : ∀ place, next.block place = zeroBlock ∨
      ∃ file, media.segment path = some file ∧ next.block place = file.padded place) :
    Faded media (media.setSegment path next) := by
  intro query place header found
  rw [readObjectHeader_setSegment] at found
  by_cases here : query = path
  · rw [if_pos here] at found
    by_cases short : next.size ≤ place
    · rw [if_pos short] at found
      cases found
    rw [if_neg short] at found
    have found := Option.some.inj found
    rcases shown place with zero | ⟨file, located, same⟩
    · exact .inr (found.symm.trans zero)
    rw [same, SegmentFile.padded] at found
    split at found
    · rename_i inside
      left
      rw [readObjectHeader, here, located]
      dsimp only
      rw [if_neg (not_le.mpr inside), found]
    · exact .inr found.symm
  · rw [if_neg here] at found
    exact .inl found

theorem Built.faded {fileBytes : Nat} {next : Media} (built : Built fileBytes media next) :
    Faded media next := by
  induction built with
  | refl => exact .refl media
  | @tail before _ _ lengthens ih =>
    obtain ⟨path, size, ready, _, _, rfl⟩ := lengthens
    refine ih.trans (faded_setSegment fun place => ?_)
    cases found : before.segment path with
    | none => exact .inl rfl
    | some file => exact .inr ⟨file, rfl, rfl⟩

/-- Zeroing that succeeds leaves zeros. -/
theorem faded_zeroSlots (core : ObjectStoreCore) {zeroing : Nat → ZeroOutcome}
    (done : ∀ slot, zeroing slot = .done) (slots : List Nat) (media : Media) :
    Faded media (zeroSlots core zeroing slots media).2.2 := by
  refine @zeroSlots_induct core zeroing slots media (Faded media ·)
    (fun slot _ reached faded => faded.trans ?_) (.refl _)
  unfold zeroFileRange
  rw [done slot]
  split
  · exact .refl _
  rename_i file located
  refine faded_setSegment fun place => ?_
  dsimp only
  split
  · exact .inl rfl
  · exact .inr ⟨file, located, rfl⟩

/-- The committed keys and the checkpoint are as they were, and no header
appeared. -/
structure Unchanged (before after : Session) : Prop where
  holds : ∀ key entry, after.core.Holds key entry ↔ before.core.Holds key entry
  checkpoint : after.media.checkpoint = before.media.checkpoint
  faded : Faded before.media after.media

variable (session : Session)

theorem Unchanged.refl : Unchanged session session :=
  ⟨fun _ _ => Iff.rfl, rfl, .refl _⟩

theorem Unchanged.trans {first second third : Session} (left : Unchanged first second)
    (right : Unchanged second third) : Unchanged first third :=
  ⟨fun key entry => (right.holds key entry).trans (left.holds key entry),
    right.checkpoint.trans left.checkpoint, left.faded.trans right.faded⟩

/-- Reserving neither commits a key nor takes one away. -/
theorem holds_reserve (core : ObjectStoreCore) (keys : List ObjectKey) :
    (∀ key entry, (core.reserve keys).2.Holds key entry ↔ core.Holds key entry) ∧
      (core.reserve keys).2.checkpointDirty = core.checkpointDirty := by
  refine @reserve_induct core keys (fun reached => (∀ key entry, reached.Holds key entry ↔
    core.Holds key entry) ∧ reached.checkpointDirty = core.checkpointDirty) ?_
    (fun _ _ same => same) ⟨fun _ _ => Iff.rfl, rfl⟩
  intro reached fresh slot generation allocator absent same
  refine ⟨fun key entry => Iff.trans ?_ (same.1 key entry), same.2⟩
  simp only [Holds, insertReserved, get?_set]
  by_cases here : key = fresh
  · subst here
    rw [if_pos rfl, absent]
    constructor
    · rintro ⟨⟨⟩, ⟨⟩⟩
    · rintro ⟨⟨⟩, _⟩
  · rw [if_neg here]

variable (keys : List ObjectKey)

theorem holds_abortKeys (slots : List Nat) (core : ObjectStoreCore) :
    (∀ key entry, (abortKeys keys slots core).2.Holds key entry ↔ core.Holds key entry) ∧
      (abortKeys keys slots core).2.checkpointDirty = core.checkpointDirty := by
  induction keys generalizing slots core with
  | nil => exact ⟨fun _ _ => Iff.rfl, rfl⟩
  | cons head keys ih =>
    rw [abortKeys]
    cases found : core.index.get? head with
    | none => exact ih slots core
    | some existing =>
      dsimp only
      split
      · exact ih slots core
      rename_i uncommitted
      obtain ⟨later, dirty⟩ := ih (slots ++ [existing.slot]) (core.removeKey head existing.slot)
      refine ⟨fun key entry => (later key entry).trans ?_, dirty⟩
      simp only [Holds, removeKey, get?_erase]
      by_cases here : key = head
      · subst here
        rw [if_pos rfl, found]
        constructor
        · rintro ⟨⟨⟩, _⟩
        · rintro ⟨⟨⟩, committed⟩
          exact absurd committed uncommitted
      · rw [if_neg here]

/-- A batch of `release` that collected no slot changed nothing. -/
theorem releaseKeys_idle {slots : List Nat} {session : Session} :
    slots.length ≤ (releaseKeys keys slots session).1.length ∧
      ((releaseKeys keys slots session).1.length = slots.length →
        (releaseKeys keys slots session).2 = session) := by
  refine @releaseKeys_induct keys (fun reached next => slots.length ≤ reached.length ∧
    (reached.length = slots.length → next = session))
    (fun key _ reached next entry _ _ before => ?_) slots session ⟨le_rfl, fun _ => rfl⟩
  rw [length_append, length_singleton]
  exact ⟨by omega, fun same => by omega⟩

/-- All media operations of the step succeed; checkpoints are left to the end of
the run. -/
def MediaSucceed (session : Session) : StoreOp → Prop
  | .commit keys => session.core.config.readOnly = false → (commit session keys).1 = .ok ()
  | .drainReclaim _ zeroing => ∀ slot, zeroing slot = .done
  | .checkpoint _ => False
  | _ => True

/-- A step marks the checkpoint dirty, which only a writer does, or leaves it
valid. -/
theorem step_dirty {session : Session} (opened : session.core.opened = true)
    (operation : StoreOp) (succeed : MediaSucceed session operation) :
    (session.core.config.readOnly = false ∧
        (step session operation).core.checkpointDirty = true) ∨
      (step session operation).core.checkpointDirty = session.core.checkpointDirty ∧
        Unchanged session (step session operation) := by
  cases operation with
  | reserve keys =>
    obtain ⟨holds, dirty⟩ := holds_reserve session.core keys
    exact .inr ⟨dirty, holds, rfl, .refl _⟩
  | commit keys =>
    by_cases writer : session.core.config.readOnly = false
    · have done := succeed writer
      rw [commit_eq writer opened] at done
      dsimp only [step]
      rw [commit_eq writer opened]
      cases result : commitKeys keys [] session with
      | mk status rest =>
        obtain ⟨slots, reached⟩ := rest
        rw [result] at done
        cases status with
        | error error => cases done
        | ok done =>
          cases slots with
          | nil =>
            have same := (commitKeys_idle keys writer result).2 rfl
            subst same
            dsimp only
            rw [settleCommit_nil]
            exact .inr ⟨rfl, .refl _⟩
          | cons slot slots => exact .inl ⟨writer, or_true _⟩
    · right
      rw [not_eq_false] at writer
      dsimp only [step, commit]
      rw [if_pos writer]
      exact ⟨rfl, .refl _⟩
  | abort keys =>
    right
    dsimp only [step, abort]
    split
    · exact ⟨rfl, .refl _⟩
    · obtain ⟨holds, dirty⟩ := holds_abortKeys keys [] session.core
      exact ⟨dirty, holds, rfl, .refl _⟩
  | release keys =>
    dsimp only [step, release]
    split
    · exact .inr ⟨rfl, .refl _⟩
    rename_i writer
    split
    · rename_i none
      have same := (@releaseKeys_idle keys [] session).2 (by rw [none])
      rw [same]
      exact .inr ⟨rfl, .refl _⟩
    · exact .inl ⟨eq_false_iff.mpr writer, rfl⟩
  | pin keys | unpin keys =>
    right
    dsimp only [step, pin, unpin]
    split
    · exact ⟨rfl, .refl _⟩
    · exact ⟨rfl, fun _ _ => Iff.rfl, rfl, .refl _⟩
  | drainReclaim max zeroing =>
    exact .inr ⟨rfl, fun _ _ => Iff.rfl, (zeroSlots_frame _ _ _ _).1,
      faded_zeroSlots session.core succeed _ _⟩
  | precreateStep headroom faults =>
    right
    obtain ⟨_, _, _, _, core⟩ := core_precreateStep session headroom faults
    dsimp only [step]
    refine ⟨by rw [core], fun key entry => ?_,
      (built_precreateStep session headroom faults).frame.1,
      (built_precreateStep session headroom faults).faded⟩
    rw [Holds, core]
    exact Iff.rfl
  | checkpoint outcome => exact succeed.elim

/-- A header write leaves the checkpoint file alone. -/
theorem commitKeys_checkpoint (keys : List (ObjectKey × WriteOutcome)) (slots : List Nat)
    (session : Session) :
    (commitKeys keys slots session).2.2.media.checkpoint = session.media.checkpoint := by
  induction keys generalizing slots session with
  | nil => rfl
  | cons item keys ih =>
    obtain ⟨key, outcome⟩ := item
    by_cases reserved : ∃ entry, session.core.Reserves key entry
    · obtain ⟨entry, reserves⟩ := reserved
      rw [commitKeys]
      simp only [reserves.1, reserves.2, false_eq_true, ↓reduceIte]
      have written : (writeHeader session entry.slot key entry.generation
          ((session.core.commitSeq + 1) % uint64Size) outcome).2.checkpoint =
            session.media.checkpoint := by
        unfold writeHeader writeObjectHeader
        split
        · rfl
        split
        · rfl
        · split <;> rfl
      split
      · rename_i failed
        rw [failed] at written
        exact written
      · rename_i landed
        rw [landed] at written
        refine (ih _ _).trans ?_
        rw [ResidencyBitmap.set, (sameFiles_write _ _ _ _).checkpoint]
        exact written
    · push Not at reserved
      rw [commitKeys_skip reserved]
      exact ih slots session

theorem releaseKeys_checkpoint (slots : List Nat) (session : Session) :
    (releaseKeys keys slots session).2.media.checkpoint = session.media.checkpoint := by
  refine @releaseKeys_induct keys (fun _ next => next.media.checkpoint = session.media.checkpoint)
    (fun key _ reached next entry _ _ before => ?_) slots session rfl
  rw [ResidencyBitmap.clear, (sameFiles_write _ _ _ _).checkpoint]
  exact before

/-- Only `checkpoint` writes the checkpoint file. -/
theorem step_checkpoint_kept (operation : StoreOp) (succeed : MediaSucceed session operation) :
    (step session operation).media.checkpoint = session.media.checkpoint := by
  cases operation with
  | reserve _ | abort _ | pin _ | unpin _ => rfl
  | commit keys =>
    have kept := commitKeys_checkpoint keys [] session
    dsimp only [step, commit]
    split
    · rfl
    split
    · rfl
    split
    · rename_i failed
      rw [failed] at kept
      exact kept
    · rename_i done
      rw [done] at kept
      split
      · exact kept
      · exact kept
  | release keys =>
    have kept := releaseKeys_checkpoint keys [] session
    dsimp only [step, release]
    split
    · rfl
    split
    · exact kept
    · exact kept
  | drainReclaim max zeroing => exact (zeroSlots_frame _ _ _ _).1
  | precreateStep headroom faults => exact (built_precreateStep session headroom faults).frame.1
  | checkpoint outcome => exact succeed.elim

/-! ## From open on -/

/-- No container holds a key that `reserve` would refuse for its length. -/
def ShortKeys (session : Session) : Prop :=
  ∀ cell, cell = (mirrorOf session).first ∨ cell = (mirrorOf session).second →
    ∀ sequence entries, cell = some (sequence, entries) →
      ∀ stored ∈ entries, stored.key.length ≤ maxKeyBytes

theorem storedEntries_eq :
    storedEntries session = (((mirrorOf session).newest).map Prod.snd).getD [] := by
  rw [← selected_eq_newest]
  rfl

theorem storedEntries_congr {session other : Session}
    (root : other.core.config.root = session.core.config.root)
    (size : other.core.containerBytes = session.core.containerBytes)
    (file : other.media.checkpoint = session.media.checkpoint) :
    storedEntries other = storedEntries session := by
  rw [storedEntries_eq, storedEntries_eq, mirrorOf_congr root size file]

theorem ShortKeys.stored {session : Session} (short : ShortKeys session)
    {stored : CheckpointEntry} (member : stored ∈ storedEntries session) :
    stored.key.length ≤ maxKeyBytes := by
  rw [storedEntries_eq] at member
  have among : (mirrorOf session).newest = none ∨
      (mirrorOf session).newest = (mirrorOf session).first ∨
      (mirrorOf session).newest = (mirrorOf session).second := by
    unfold Mirror.newest
    split_ifs
    · exact .inl rfl
    · exact .inr (.inl rfl)
    · exact .inr (.inr rfl)
    · exact .inr (.inl rfl)
  cases newest : (mirrorOf session).newest with
  | none =>
    rw [newest] at member
    cases member
  | some pair =>
    rw [newest] at among member
    rcases among with none | cell
    · cases none
    · exact short _ cell pair.1 pair.2 rfl stored member

/-- The index entry comes from this entry of the checkpoint, which the header in
its slot confirms. -/
structure Source (core : ObjectStoreCore) (media : Media) (key : ObjectKey) (entry : Entry)
    (stored : CheckpointEntry) : Prop where
  key : stored.key = key
  slot : stored.slot = entry.slot
  generation : stored.generation = entry.generation
  confirms : core.confirms media stored = true

/-- What the walk adds to the index is in the checkpoint. -/
theorem recoverEntries_origin (entries : List CheckpointEntry) {highest : Nat}
    (present : (recoverEntries media entries slots highest core).2.2.index.get? key = some entry) :
    core.index.get? key = some entry ∨ ∃ stored ∈ entries, core.Source media key entry stored := by
  induction entries generalizing core slots highest with
  | nil => exact .inl present
  | cons stored entries ih =>
    -- The checks on a header do not depend on what was recovered so far.
    have later : ∀ reached : ObjectStoreCore,
        (∃ other ∈ entries, reached.Source media key entry other) → SameJudge core reached →
        ∃ other ∈ stored :: entries, core.Source media key entry other := by
      rintro reached ⟨other, member, source⟩ same
      refine ⟨other, mem_cons_of_mem stored member, source.key, source.slot, source.generation, ?_⟩
      rw [← confirms_congr same]
      exact source.confirms
    rw [recoverEntries] at present
    cases verdict : core.judgeEntry media stored with
    | geometry | duplicate | header =>
      rw [verdict] at present
      rcases ih present with before | among
      · exact .inl before
      · exact .inr (later _ among ⟨rfl, rfl, rfl⟩)
    | accepted commitSeq =>
      rw [verdict] at present
      rcases ih present with before | among
      · simp only [adoptEntry, get?_set] at before
        split at before
        · rename_i here
          cases before
          refine .inr ⟨stored, .head _, here.symm, rfl, rfl, ?_⟩
          obtain ⟨payload, _, _, confirmed⟩ := judgeEntry_accepted_iff.mp verdict
          exact confirms_iff.mpr ⟨commitSeq, payload, confirmed⟩
        · exact .inl before
      · exact .inr (later _ among ⟨rfl, rfl, rfl⟩)

/-- What a new object had in hand when it turned to the checkpoint. -/
structure LoadedFrom (checked session : Session) : Prop where
  index : session.core.index = (walked checked).2.2.index
  stored : storedEntries checked = storedEntries session
  judge : SameJudge checked.core session.core
  empty : checked.core.index = ∅
  unowned : checked.core.slotOwner = fun _ => none
  faded : Faded checked.media session.media

theorem loadNat_lt (data : Bytes) (offset : Nat) : loadNat data offset 8 < uint64Size := by
  have short : (loadAt data offset 8).length ≤ 8 := length_take_le _ _
  have bound := fromLittleEndian_lt (loadAt data offset 8)
  exact lt_of_lt_of_le bound (Nat.pow_le_pow_right (by decide) short)

/-- A confirmed entry has a key and 64-bit numbers. -/
theorem Confirmed.numbers_lt (confirmed : core.Confirmed media key entry) :
    key ≠ [] ∧ entry.generation < uint64Size ∧ entry.commitSeq < uint64Size := by
  obtain ⟨header, fields, _, decoded, sequence⟩ := confirmed.header
  obtain ⟨nonempty, _, valid, meets⟩ := decodeObjectHeader_ok_iff.mp decoded
  have loaded : fields = loadHeaderFields header := by
    unfold validateStructure at valid
    split_ifs at valid
    exact (Except.ok.inj valid).symm
  have generation : fields.generation = entry.generation := meets.generation rfl
  refine ⟨nonempty, ?_, ?_⟩
  · rw [← generation, loaded]
    exact loadNat_lt _ _
  · rw [← sequence, loaded]
    exact loadNat_lt _ _

section Opened

variable {config : StoreConfig} {faults : OpenFaults} {session : Session}
  (ok : openStore ⟨fresh, media⟩ config faults = (.ok (), session))
include ok

theorem loadedFrom_of_open : ∃ checked, LoadedFrom checked session := by
  have opened := freshOpen ok
  obtain ⟨allocator, checked, adopted, mapped, stages⟩ := openStore_ok rfl ok
  obtain ⟨index, _, _, _, _⟩ := stages.result inverse_fresh
  obtain ⟨core, _⟩ := ensureCheckpoint_ok stages.checkpoint
  obtain ⟨_, _, _, _, built⟩ := adoptMedia_ok stages.adopt
  obtain ⟨_, _, _, same⟩ := mapResidency_ok stages.residency
  obtain ⟨checkedCore, left⟩ := checked
  subst core
  have total : session.core.allocator.totalSlots = allocator.totalSlots := by
    obtain ⟨other, geometry, total⟩ := opened.geometry
    rw [total, geometry.totalSlots_eq.1, stages.geometry.totalSlots_eq.1]
  have size : session.core.containerBytes =
      checkpointContainerBytes allocator.totalSlots maxKeyBytes := by
    rw [opened.containerBytes, total]
  have root : session.core.config.root = config.root := by rw [opened.config_eq]
  have faded : Faded left session.media := by
    rw [stages.reached]
    exact ((faded_of_segment (sameFiles_loadCheckpoint _).segment).trans
      built.faded).trans (faded_of_segment same.segment)
  exact ⟨_, index, (storedEntries_congr root size stages.checkpoint_kept).symm,
    ⟨opened.placement, congrArg StoreConfig.layout opened.config_eq, total⟩, rfl, rfl, faded⟩

/-- A new object that was opened satisfies the invariant. -/
theorem durable_of_open (distinct : MountsDistinct config) (short : ShortKeys session) :
    Durable session := by
  have opened := freshOpen ok
  obtain ⟨checked, loaded⟩ := loadedFrom_of_open ok
  refine ⟨opened.owned, opened.wellLaid, opened.slotsApart distinct, ?_, ?_, ?_⟩
  · intro slot
    rw [opened.generations]
    decide
  · intro key entry present
    have confirmed := opened.confirmed key entry present
    obtain ⟨nonempty, generation, commitSeq⟩ := confirmed.numbers_lt
    refine ⟨nonempty, ?_, opened.wellLaid.slot_lt confirmed.lt_totalSlots, generation, commitSeq⟩
    rw [loaded.index] at present
    rcases recoverEntries_origin _ present with before | ⟨stored, member, source⟩
    · rw [loaded.empty] at before
      cases before
    rw [loaded.stored] at member
    rw [← source.key]
    exact short.stored member
  · intro key entry holds
    exact (opened.confirmed key entry holds.1).kept (.refl _) fun header read =>
      opened.retains _ _ _ read

end Opened

/-! ## The image fits -/

section Fits

variable {session : Session}

/-- Every key has a slot of its own. -/
theorem Durable.size_le (durable : Durable session) :
    session.core.index.size ≤ session.core.allocator.totalSlots := by
  have slots : ∀ key ∈ session.core.index.keySet, ∃ entry,
      session.core.index.get? key = some entry := fun key member =>
    mem_iff_get?.mp (mem_keySet.mp member)
  rw [← card_keySet, ← Finset.card_range session.core.allocator.totalSlots]
  refine Finset.card_le_card_of_injOn
    (fun key => ((session.core.index.get? key).map Entry.slot).getD 0) ?_ ?_
  · intro key member
    obtain ⟨entry, present⟩ := slots key member
    rw [Finset.mem_coe, Finset.mem_range]
    dsimp only
    rw [present]
    exact durable.owned.lt_totalSlots present
  · intro key member other member' same
    obtain ⟨entry, present⟩ := slots key member
    obtain ⟨second, present'⟩ := slots other member'
    dsimp only at same
    rw [present, present'] at same
    exact durable.owned.key_unique present present' same

theorem Durable.snapshot (durable : Durable session) : Snapshot session.core.index :=
  ⟨durable.storable, lt_of_le_of_lt (Nat.mul_le_mul_right _ durable.size_le)
    durable.laid.totalSlots_small⟩

/-- The image of a checkpoint never exceeds its container. -/
theorem Durable.fits (durable : Durable session) (sized : session.core.containerBytes =
      checkpointContainerBytes session.core.allocator.totalSlots maxKeyBytes) :
    (nextImage session).length ≤ session.core.containerBytes := by
  obtain ⟨exact_, room⟩ := checkpointContainerBytes_eq durable.laid.totalSlots_small
  have body := durable.snapshot.length_encodeBody
  have size := Nat.mul_le_mul_right (entryFixedBytes + maxKeyBytes) durable.size_le
  rw [nextImage, length_encodeCheckpoint durable.snapshot.small, sized, exact_]
  exact roundUp_mono (by omega) (by omega)

end Fits

/-! ## Round trip -/

section RoundTrip

variable {config : StoreConfig} {session closed recovered checked : Session}
  {allocator : SpaceAllocator}

/-- The entries of a checkpoint have different keys and different slots. -/
theorem Owned.checkpointEntries_apart {core : ObjectStoreCore} (owned : core.Owned) :
    core.checkpointEntries.Pairwise Apart := by
  have keys : core.index.entries.Pairwise fun first second => first.1 ≠ second.1 :=
    pairwise_map.mp core.index.nodup_keys
  refine pairwise_map.mpr ((keys.filter _).imp_of_mem ?_)
  intro first second member member' different
  refine ⟨different, fun same => different ?_⟩
  have present := get?_eq_some_iff.mpr (mem_filter.mp member).1
  have present' := get?_eq_some_iff.mpr (mem_filter.mp member').1
  exact owned.key_unique present present' same

/-- The walk of an empty object over the committed entries of a store takes them
all, if the object has room for their slots and the headers are in place. -/
theorem Durable.recoverEntries_iff (durable : Durable session) {base core : ObjectStoreCore}
    {media : Media} (same : SameJudge base core) (index : core.index = ∅)
    (unowned : core.slotOwner = fun _ => none) (placement : base.placement = session.core.placement)
    (layout : base.config.layout = session.core.config.layout)
    (inside : ∀ key entry, session.core.Holds key entry → entry.slot < base.allocator.totalSlots)
    (segment : media.segment = session.media.segment) (key : ObjectKey) (entry : Entry) :
    (recoverEntries media session.core.checkpointEntries [] 0 core).2.2.index.get? key =
      some entry ↔ session.core.Holds key entry := by
  have nothing := HoldsJust.nil index unowned
  have empty : ∀ key entry, core.index.get? key = some entry ↔
      ∃ stored ∈ [], CheckpointEntry.key stored = key ∧ restored stored = entry := by
    intro key entry
    rw [index]
    exact iff_of_false nofun (by rintro ⟨_, member, _⟩; cases member)
  have restores : ∀ stored entry, session.core.Holds stored.key entry →
      stored = ⟨stored.key, entry.slot, session.core.config.layout.payloadBytes, entry.generation,
        entry.commitSeq⟩ → restored stored = entry := by
    intro stored entry holds shape
    rw [shape, restored, ← holds.2]
  have confirmed : ∀ stored ∈ session.core.checkpointEntries,
      stored.payloadBytes = base.config.layout.payloadBytes ∧
        base.Confirmed media stored.key (restored stored) := by
    intro stored member
    obtain ⟨entry, holds, shape⟩ := mem_checkpointEntries.mp member
    have header := (durable.confirmed stored.key entry holds).header
    refine ⟨by rw [shape, layout], ?_⟩
    rw [restores stored entry holds shape]
    refine ⟨holds.2, inside _ _ holds, ?_⟩
    rw [headerPath, headerOffset, placement, layout, readObjectHeader, segment]
    exact header
  have walk := @recoverEntries_whole base core media session.core.checkpointEntries [] [] 0 same
    nothing empty durable.owned.checkpointEntries_apart confirmed key entry
  rw [walk, nil_append]
  constructor
  · rintro ⟨stored, member, rfl, rfl⟩
    obtain ⟨entry, holds, shape⟩ := mem_checkpointEntries.mp member
    rw [restores stored entry holds shape]
    exact holds
  · intro holds
    refine ⟨⟨key, entry.slot, session.core.config.layout.payloadBytes, entry.generation,
      entry.commitSeq⟩, mem_checkpointEntries.mpr ⟨entry, holds, rfl⟩, rfl, ?_⟩
    rw [restored, ← holds.2]

/-- A new object on media whose checkpoint holds the committed entries of a store
recovers exactly these. -/
theorem Durable.recovers (durable : Durable session)
    (opens : OpensTo closed fresh allocator checked recovered)
    (stored : storedEntries closed = session.core.checkpointEntries)
    (judge : SameJudge session.core closed.core)
    (segment : closed.media.segment = session.media.segment) (key : ObjectKey) (entry : Entry) :
    recovered.core.index.get? key = some entry ↔ session.core.Holds key entry := by
  have same : SameJudge session.core checked.core := judge.trans opens.finds.judge
  rw [opens.index, walked, opens.finds.stored, stored]
  refine durable.recoverEntries_iff same ?_ ?_ rfl rfl
    (fun key entry holds => durable.owned.lt_totalSlots holds.1) ?_ key entry
  · rw [opens.finds.index]
    rfl
  · rw [opens.finds.slotOwner]
    rfl
  · rw [opens.finds.media, segment]

variable {outcome : WriteOutcome} {after : Session}

theorem persistCheckpoint_clean (ok : persistCheckpoint session outcome = (.ok (), after)) :
    after.core.checkpointDirty = false := by
  unfold persistCheckpoint at ok
  dsimp only at ok
  split at ok
  · cases ok
  split at ok
  · cases ok
  · cases ok
    rfl

/-- A new object finds the containers as they were left. -/
theorem ClosedStore.mirrorOf_anew (store : ClosedStore config closed) {again : OpenFaults}
    (anew : openStore ⟨fresh, closed.media⟩ config again = (.ok (), recovered)) :
    mirrorOf recovered = mirrorOf closed := by
  have opened := freshOpen anew
  obtain ⟨allocator, checked, adopted, mapped, stages⟩ := openStore_ok rfl anew
  have finds := store.finds stages.geometry stages.checkpoint
  refine mirrorOf_congr ?_ ?_ ?_
  · rw [opened.config_eq, store.config_eq]
  · obtain ⟨other, geometry, total⟩ := opened.geometry
    rw [opened.containerBytes, store.containerBytes, total, geometry.totalSlots_eq.1,
      store.totalSlots]
  · rw [stages.checkpoint_kept, finds.media]

theorem ShortKeys.congr {other : Session} (short : ShortKeys session)
    (same : mirrorOf other = mirrorOf session) : ShortKeys other := by
  unfold ShortKeys
  rw [same]
  exact short

/-- The object without its bitmaps, as `close` leaves it. -/
def shut (core : ObjectStoreCore) : ObjectStoreCore :=
  { core with ownResidency := none, peerResidency := [], opened := false }

theorem mirrorOf_shut (session : Session) :
    mirrorOf ⟨session.core.shut, session.media⟩ = mirrorOf session :=
  mirrorOf_congr rfl rfl rfl

theorem close_eq (opened : session.core.opened = true) (outcome : WriteOutcome) :
    close session outcome =
      if session.core.checkpointDirty = true then
        ((persistCheckpoint session outcome).1,
          ⟨(persistCheckpoint session outcome).2.core.shut,
            (persistCheckpoint session outcome).2.media⟩)
      else (.ok (), ⟨session.core.shut, session.media⟩) := by
  unfold close
  rw [if_neg (not_eq_false _ ▸ opened)]
  split
  · rfl
  · rfl

/-- A clean store leaves the media with the checkpoint it was opened with, and a
new object takes the same entries from it. -/
theorem Durable.recovers_clean {reached : Session} (durable : Durable reached)
    (same : SameStore session.core reached.core) (unchanged : Unchanged session reached)
    (committed : ∀ key entry, session.core.index.get? key = some entry → entry.committed = true)
    {start : Session} (loaded : LoadedFrom start session)
    (opens : OpensTo ⟨reached.core.shut, reached.media⟩ fresh allocator checked recovered)
    (key : ObjectKey) (entry : Entry) :
    recovered.core.index.get? key = some entry ↔ reached.core.Holds key entry := by
  have stored : storedEntries ⟨reached.core.shut, reached.media⟩ = storedEntries start := by
    rw [loaded.stored]
    refine storedEntries_congr ?_ same.containerBytes unchanged.checkpoint
    rw [shut, same.config]
  have judge : SameJudge start.core reached.core :=
    ⟨same.placement.trans loaded.judge.placement, by rw [same.config]; exact loaded.judge.layout,
      same.totalSlots.trans loaded.judge.totalSlots⟩
  have judge' : SameJudge start.core checked.core := judge.trans { opens.finds.judge with }
  have again : recoverEntries reached.media (storedEntries start) [] 0 start.core =
      recoverEntries start.media (storedEntries start) [] 0 start.core := by
    refine recoverEntries_again (loaded.faded.trans unchanged.faded) _ ⟨rfl, rfl, rfl⟩ ?_
    intro key entry present
    have found : session.core.index.get? key = some entry := by
      rw [loaded.index]
      exact present
    have holds := (unchanged.holds key entry).mpr ⟨found, committed key entry found⟩
    exact .inr (judge.symm.confirmed (durable.confirmed key entry holds))
  have index : recovered.core.index = session.core.index := by
    rw [opens.index, loaded.index, walked, walked, opens.finds.stored, opens.finds.media, stored,
      ← again]
    refine (recoverEntries_congr reached.media (storedEntries start) judge' ?_ ?_).2.1
    · rw [opens.finds.index, loaded.empty]
      rfl
    · rw [opens.finds.slotOwner, loaded.unowned]
      rfl
  rw [index, unchanged.holds]
  exact ⟨fun present => ⟨present, committed key entry present⟩, fun holds => holds.1⟩

section Persisting

variable (durable : Durable session) (mirrored : Mirrored session)
  (writer : session.core.config.readOnly = false)
  (fits : (nextImage session).length ≤ session.core.containerBytes)
  (room : highestSequence session + 1 < uint64Size)
  (ok : persistCheckpoint session outcome = (.ok (), after))
include durable mirrored writer fits room ok

/-- A checkpoint that succeeds is the one a new object selects. -/
theorem Durable.storedEntries_persist :
    mirrorOf after = (mirrorOf session).overwrite
        (some (highestSequence session + 1, session.core.checkpointEntries)) ∧
      storedEntries after = session.core.checkpointEntries := by
  obtain ⟨file, region⟩ := mirrored.region writer
  have next : nextSequence session = highestSequence session + 1 := by
    rw [nextSequence_eq, Nat.mod_eq_of_lt room]
  have done : outcome = .done := by
    rcases persistCheckpoint_cases mirrored.laid region outcome with
      ⟨large, _⟩ | ⟨_, ⟨done, _⟩ | ⟨_, error, failed⟩⟩
    · exact absurd fits (not_le.mpr large)
    · exact done
    · rw [failed] at ok
      cases ok
  obtain ⟨_, mirror, _⟩ := persistCheckpoint_mirror mirrored.laid region outcome
  have complete : writtenBytes session outcome =
      padTo session.core.containerBytes (nextImage session) := by
    rw [done]
    rfl
  rw [ok, if_pos fits, complete, durable.snapshot.decode_image, next] at mirror
  refine ⟨mirror, ?_⟩
  have first : Mirror.number (mirrorOf session).first < highestSequence session + 1 :=
    Nat.lt_succ_of_le (le_trans (le_max_left _ _) (le_max_right _ _))
  have second : Mirror.number (mirrorOf session).second < highestSequence session + 1 :=
    Nat.lt_succ_of_le (le_trans (le_max_right _ _) (le_max_right _ _))
  rw [storedEntries_eq, mirror]
  exact congrArg (fun newest => (newest.map Prod.snd).getD [])
    (Mirror.newest_overwrite_of_lt first second)

/-- A checkpoint of the store holds no key that `reserve` would refuse. -/
theorem Durable.shortKeys_persist (short : ShortKeys session) : ShortKeys after := by
  obtain ⟨mirror, _⟩ := durable.storedEntries_persist mirrored writer fits room ok
  intro cell place sequence entries readable stored member
  have cells : cell = (mirrorOf session).first ∨ cell = (mirrorOf session).second ∨
      cell = some (highestSequence session + 1, session.core.checkpointEntries) := by
    rw [mirror] at place
    unfold Mirror.overwrite at place
    split at place
    · rcases place with first | second
      · exact .inl first
      · exact .inr (.inr second)
    · rcases place with first | second
      · exact .inr (.inr first)
      · exact .inr (.inl second)
  rcases cells with first | second | written
  · exact short cell (.inl first) sequence entries readable stored member
  · exact short cell (.inr second) sequence entries readable stored member
  rw [readable] at written
  obtain ⟨_, rfl⟩ := Prod.mk.inj (Option.some.inj written)
  obtain ⟨entry, holds, _⟩ := mem_checkpointEntries.mp member
  exact (durable.storable _ entry holds.1).short

/-- A store that wrote its checkpoint leaves media from which a new object takes
the committed entries. -/
theorem Durable.recovers_persisted
    (opens : OpensTo ⟨after.core.shut, after.media⟩ fresh allocator checked recovered)
    (key : ObjectKey) (entry : Entry) :
    recovered.core.index.get? key = some entry ↔ session.core.Holds key entry := by
  obtain ⟨sequence, dirty, shape⟩ := core_persistCheckpoint session outcome
  have segment := (media_persistCheckpoint session outcome).1
  rw [ok] at shape segment
  obtain ⟨_, stored⟩ := durable.storedEntries_persist mirrored writer fits room ok
  refine durable.recovers opens ?_ ?_ segment key entry
  · rw [← stored]
    exact storedEntries_congr rfl rfl rfl
  · rw [shut, shape]
    exact ⟨rfl, rfl, rfl⟩

end Persisting

/-- How a run ends: with a checkpoint, or with `close`. -/
inductive Finish where
  | checkpoint
  | close
  deriving DecidableEq, Repr

def finish (session : Session) (outcome : WriteOutcome) : Finish → Except Status Unit × Session
  | .checkpoint => checkpoint session outcome
  | .close => close session outcome

/-- The checkpoint on the media is marked dirty, or still valid. -/
structure Marked (base session : Session) : Prop where
  opened : session.core.opened = true
  sound : session.core.allocator.Sound
  state : (session.core.config.readOnly = false ∧ session.core.checkpointDirty = true) ∨
    session.core.checkpointDirty = base.core.checkpointDirty ∧ Unchanged base session

theorem Marked.step {base : Session} (marked : Marked base session) (operation : StoreOp)
    (succeed : MediaSucceed session operation) :
    Marked base (ObjectStoreCore.step session operation) := by
  have same := sameStore_run marked.sound [operation]
  have sound := run_keep (motive := fun reached => reached.core.allocator.Sound)
    (fun _ holds => holds) (fun _ _ move holds => move.sound holds) marked.sound [operation]
  have config : (ObjectStoreCore.step session operation).core.config = session.core.config :=
    same.config
  refine ⟨same.opened.trans marked.opened, sound, ?_⟩
  rw [config]
  rcases step_dirty marked.opened operation succeed with dirty | ⟨dirty, unchanged⟩
  · exact .inl dirty
  rcases marked.state with ⟨writer, before⟩ | ⟨clean, earlier⟩
  · exact .inl ⟨writer, dirty.trans before⟩
  · exact .inr ⟨dirty.trans clean, earlier.trans unchanged⟩

/-- Durability round trip: with distinct mounts, after every run from open on whose
media operations succeed, the image of the checkpoint fits its container, and once `checkpoint` or
`close` succeeds, a new object on the media recovers exactly the committed keys,
each with its slot, generation and commit sequence. What is assumed of the keys
on the media holds again for the new object. -/
theorem recovers_committed {media : Media} {faults : OpenFaults}
    (ok : openStore ⟨fresh, media⟩ config faults = (.ok (), session))
    (distinct : MountsDistinct config) (short : ShortKeys session) {operations : List StoreOp}
    (succeed : Along step MediaSucceed session operations)
    (room : highestSequence (runFrom step session operations) + 1 < uint64Size) :
    (nextImage (runFrom step session operations)).length ≤
        (runFrom step session operations).core.containerBytes ∧
      ∀ (way : Finish) (outcome : WriteOutcome) (after : Session) (again : OpenFaults)
        (recovered : Session),
        finish (runFrom step session operations) outcome way = (.ok (), after) →
        openStore ⟨fresh, after.media⟩ config again = (.ok (), recovered) →
        ShortKeys recovered ∧ ∀ key entry, recovered.core.index.get? key = some entry ↔
          (runFrom step session operations).core.Holds key entry := by
  have opened := freshOpen ok
  have durable := (durable_of_open ok distinct short).run operations
  have mirrored := (mirrored_of_open ok).run operations
  have same := sameStore_run opened.sound operations
  have fits := durable.fits (by
    rw [same.containerBytes, same.totalSlots]
    exact opened.containerBytes)
  refine ⟨fits, ?_⟩
  intro way outcome after again recovered ends anew
  have start : Marked session session := ⟨opened.opened, opened.sound, .inr ⟨rfl, .refl _⟩⟩
  have marked : Marked session (runFrom step session operations) :=
    (succeed.always (fun _ operation marked => marked.step operation) start).last
  have unwritten := (succeed.always
    (fun reached operation (same : reached.media.checkpoint = session.media.checkpoint) guard =>
      (step_checkpoint_kept reached operation guard).trans same)
    (Eq.refl session.media.checkpoint)).last
  have before : ShortKeys (runFrom step session operations) :=
    short.congr (mirrorOf_congr (by rw [same.config]) same.containerBytes unwritten)
  cases way with
  | close =>
    have store := closedStore ok operations outcome
    have shape := close_eq marked.opened outcome
    dsimp only [finish] at ends
    rw [ends] at store shape
    obtain ⟨allocator, checked, opens⟩ := store.opensTo rfl inverse_fresh anew
    have mirror := store.mirrorOf_anew anew
    split at shape
    · rename_i dirty
      obtain ⟨written, rfl⟩ := Prod.mk.inj shape
      rcases marked.state with ⟨writer, _⟩ | ⟨clean, _⟩
      · have done : persistCheckpoint (runFrom step session operations) outcome =
            (.ok (), (persistCheckpoint (runFrom step session operations) outcome).2) :=
          Prod.ext written.symm rfl
        have kept := durable.shortKeys_persist mirrored writer fits room done before
        exact ⟨kept.congr (mirror.trans (mirrorOf_shut _)), fun key entry =>
          durable.recovers_persisted mirrored writer fits room done opens key entry⟩
      · rw [clean, opened.clean] at dirty
        cases dirty
    · rename_i clean
      obtain ⟨_, rfl⟩ := Prod.mk.inj shape
      rcases marked.state with ⟨_, dirty⟩ | ⟨_, unchanged⟩
      · exact absurd dirty clean
      obtain ⟨checked', loaded⟩ := loadedFrom_of_open ok
      exact ⟨before.congr (mirror.trans (mirrorOf_shut _)), fun key entry =>
        durable.recovers_clean same unchanged
          (fun key entry present => (opened.confirmed key entry present).committed) loaded
          opens key entry⟩
  | checkpoint =>
    dsimp only [finish, checkpoint] at ends
    split at ends
    · cases ends
    rename_i reader
    have writer := eq_false_iff.mpr reader
    split at ends
    · cases ends
    rename_i closed
    -- The object is not closed; closing it now would change nothing on the media.
    have store := closedStore ok (operations ++ [.checkpoint outcome]) .done
    have reached : runFrom step session (operations ++ [.checkpoint outcome]) = after := by
      rw [runFrom_append, runFrom_cons, runFrom_nil]
      dsimp only [step, checkpoint]
      rw [if_neg reader, if_neg closed, ends]
    have clean := persistCheckpoint_clean ends
    have open_ : after.core.opened = true := by
      rw [← reached, (sameStore_run opened.sound _).opened, opened.opened]
    rw [reached, close_eq open_, if_neg (eq_false_iff.mp clean)] at store
    obtain ⟨allocator, checked, opens⟩ := store.opensTo rfl inverse_fresh anew
    have mirror := store.mirrorOf_anew anew
    have kept := durable.shortKeys_persist mirrored writer fits room ends before
    exact ⟨kept.congr (mirror.trans (mirrorOf_shut _)), fun key entry =>
      durable.recovers_persisted mirrored writer fits room ends opens key entry⟩

theorem mirrorOf_pair : mirrorOf pairSession = ⟨none, none⟩ := by
  rw [mirrorOf, readContainer_pair 0, readContainer_pair 1]

theorem shortKeys_pair : ShortKeys pairSession := by
  unfold ShortKeys
  rw [mirrorOf_pair]
  intro cell place sequence entries readable
  rcases place with first | second
  · cases first.symm.trans readable
  · cases second.symm.trans readable

theorem exists_of_ok {State : Type} {result : Except Status Unit × State}
    (ok : result.1 = .ok ()) : ∃ state, result = (.ok (), state) := ⟨result.2, Prod.ext ok rfl⟩

/-- Two keys are committed, one is released and its slot zeroed and handed out
again; the third key is still reserved when the store closes. -/
def turnover : List StoreOp :=
  [.reserve [[1], [2]], .commit [([1], .done), ([2], .done)], .release [[2]],
    .drainReclaim 2 fun _ => .done, .reserve [[3]]]

/-- A new store on what that run leaves behind has the one committed key. -/
theorem recovers_committed_pair :
    ∃ after recovered, finish (runFrom step pairSession turnover) .done .close = (.ok (), after) ∧
      openStore ⟨fresh, after.media⟩ pairConfig {} = (.ok (), recovered) ∧
      (runFrom step pairSession turnover).core.index.entries =
        [([1], ⟨0, 0, 1, true⟩), ([3], ⟨1, 1, 0, false⟩)] ∧
      ∀ key entry, recovered.core.index.get? key = some entry ↔
        key = [1] ∧ entry = ⟨0, 0, 1, true⟩ := by
  have succeed : Along step MediaSucceed pairSession turnover :=
    ⟨trivial, fun _ => rfl, trivial, fun _ => rfl, trivial, trivial⟩
  have mirror : mirrorOf (runFrom step pairSession turnover) = mirrorOf pairSession :=
    mirrorOf_congr rfl rfl rfl
  have room : highestSequence (runFrom step pairSession turnover) + 1 < uint64Size := by
    rw [highestSequence, mirror, mirrorOf_pair]
    decide +kernel
  have ends : (finish (runFrom step pairSession turnover) .done .close).1 = .ok () := by
    decide +kernel
  have anew : (openStore ⟨fresh, (finish (runFrom step pairSession turnover) .done .close).2.media⟩
      pairConfig {}).1 = .ok () := by decide +kernel
  have entries : (runFrom step pairSession turnover).core.index.entries =
      [([1], ⟨0, 0, 1, true⟩), ([3], ⟨1, 1, 0, false⟩)] := by decide +kernel
  have both := recovers_committed openStore_pair (by decide) shortKeys_pair succeed room
  generalize runFrom step pairSession turnover = reached at ends anew entries both ⊢
  obtain ⟨after, closed⟩ := exists_of_ok ends
  rw [closed] at anew
  obtain ⟨recovered, opened⟩ := exists_of_ok anew
  refine ⟨after, recovered, closed, opened, entries, fun key entry => ?_⟩
  rw [(both.2 .close .done after {} recovered closed opened).2, Holds, get?_eq_some_iff, entries]
  constructor
  · rintro ⟨member, committed⟩
    rcases mem_pair.mp member with first | second
    · exact Prod.mk.inj first
    · rw [(Prod.mk.inj second).2] at committed
      cases committed
  · rintro ⟨rfl, rfl⟩
    exact ⟨mem_cons_self, rfl⟩

end RoundTrip

end ObjectStoreCore

end Tutti
