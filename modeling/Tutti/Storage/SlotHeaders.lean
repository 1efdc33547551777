import Tutti.Storage.CheckpointMirror

/-!
# The headers of the committed keys

`commit` writes the header of a key before the index follows, and no write of the
store reaches the header of a slot that another key has: header writes go to the
reserved slots, zeroing to the reclaiming ones, and materialisation appends. At
every moment of a session, whatever fails, the header in the slot of a committed
key therefore confirms its entry.
-/

namespace Tutti

open Foundation

/-! ## Reading a header after a write -/

section Media

variable {media : Media} {path query : SegmentPath} {file : SegmentFile} {offset place : Nat}
  {header : Bytes}

theorem readObjectHeader_setSegment (media : Media) (path query : SegmentPath)
    (file : SegmentFile) (place : Nat) :
    readObjectHeader (media.setSegment path file) query place =
      if query = path then (if file.size ≤ place then none else some (file.block place))
      else readObjectHeader media query place := by
  unfold readObjectHeader Media.setSegment
  by_cases here : query = path
  · subst here
    simp
  · simp [here]

/-- A rewritten file that is no shorter keeps the blocks that are not written. -/
theorem readObjectHeader_setSegment_of_kept {next : SegmentFile}
    (found : media.segment path = some file) (larger : file.size ≤ next.size)
    (kept : query = path → next.block place = file.padded place)
    (read : readObjectHeader media query place = some header) :
    readObjectHeader (media.setSegment path next) query place = some header := by
  rw [readObjectHeader_setSegment]
  split
  · rename_i here
    subst here
    unfold readObjectHeader at read
    rw [found] at read
    dsimp only at read
    split at read
    · cases read
    rename_i inside
    rw [if_neg (fun short => inside (le_trans larger short)), kept rfl, SegmentFile.padded,
      if_pos (not_le.mp inside)]
    exact read
  · exact read

theorem readObjectHeader_writeBlock_self (media : Media) (path : SegmentPath) (file : SegmentFile)
    (offset : Nat) (bytes : Bytes) :
    readObjectHeader (media.writeBlock path file offset bytes) path offset = some bytes := by
  have inside : ¬ max file.size (offset + alignment) ≤ offset := by
    have block : alignment = 4096 := rfl
    omega
  rw [Media.writeBlock, readObjectHeader_setSegment, if_pos rfl, if_neg inside]
  exact congrArg some (Function.update_self offset bytes file.padded)

theorem readObjectHeader_zeroFileRange_of_outside {bytes : Nat} {outcome : ZeroOutcome}
    (outside : query = path → place < offset ∨ offset + bytes ≤ place)
    (read : readObjectHeader media query place = some header) :
    readObjectHeader (zeroFileRange media path offset bytes outcome).2 query place =
      some header := by
  have beyond : query = path → ¬ (offset ≤ place ∧ place < offset + bytes) := by
    intro here within
    have := outside here
    omega
  unfold zeroFileRange
  split
  · exact read
  rename_i file found
  split
  · exact readObjectHeader_setSegment_of_kept found (le_max_left _ _)
      (fun here => if_neg (beyond here)) read
  · exact readObjectHeader_setSegment_of_kept found (le_max_left _ _)
      (fun here => if_neg (beyond here)) read

end Media

namespace ObjectStoreCore

/-! ## Headers under the operations of the store -/

section Frame

variable {core : ObjectStoreCore} {slot other : Nat} {header : Bytes}

/-- The header block that can be read in a slot. -/
def headerAt (core : ObjectStoreCore) (media : Media) (slot : Nat) : Option Bytes :=
  readObjectHeader media (core.headerPath slot) (core.headerOffset slot)

/-- Writing a header leaves the headers of the other slots. -/
theorem SlotsApart.headerAt_headerWritten {session : Session} (apart : session.core.SlotsApart)
    (wide : 0 < session.core.slotBytes) {file : SegmentFile}
    (found : session.media.segment (session.core.headerPath slot) = some file)
    (inside : slot < session.core.allocator.totalSlots)
    (inside' : other < session.core.allocator.totalSlots) (different : other ≠ slot)
    (read : session.core.headerAt session.media other = some header) (bytes : Bytes) :
    session.core.headerAt (headerWritten session slot file bytes) other = some header := by
  refine readObjectHeader_setSegment_of_kept found (le_max_left _ _) (fun path =>
    Function.update_of_ne (fun offset => ?_) _ _) read
  rcases apart other inside' slot inside different with file | below | below
  · exact file path
  · omega
  · omega

theorem WellLaid.slot_lt (laid : core.WellLaid) (below : slot < core.allocator.totalSlots) :
    slot < uint64Size := by
  have small := laid.totalSlots_small
  have block : alignment = 4096 := rfl
  rw [block] at small
  omega

/-- Zeroing slots leaves the headers of the others. -/
theorem SlotsApart.headerAt_zeroSlots (apart : core.SlotsApart) (wide : 0 < core.slotBytes)
    (zeroing : Nat → ZeroOutcome) {slots : List Nat}
    (inside : ∀ slot ∈ slots, slot < core.allocator.totalSlots)
    (inside' : other < core.allocator.totalSlots) (outside : other ∉ slots) {media : Media}
    (read : core.headerAt media other = some header) :
    core.headerAt (zeroSlots core zeroing slots media).2.2 other = some header := by
  refine @zeroSlots_induct core zeroing slots media
    (fun reached => core.headerAt reached other = some header) (fun slot member reached kept => ?_)
    read
  have different : other ≠ slot := fun same => outside (same ▸ member)
  refine readObjectHeader_zeroFileRange_of_outside (fun path => ?_) kept
  rcases apart other inside' slot (inside slot member) different with file | below | below
  · exact absurd path file
  · exact .inl (by omega)
  · exact .inr below

variable {next : ObjectStoreCore}

theorem headerAt_congr (same : SameStore core next) (media : Media) :
    next.headerAt media slot = core.headerAt media slot := by
  rw [headerAt, headerPath, headerOffset, same.placement]
  rfl

/-- An entry stays confirmed as long as its header can be read as it was. -/
theorem Confirmed.kept {media after : Media} {key : ObjectKey} {entry : Entry}
    (confirmed : core.Confirmed media key entry) (same : SameStore core next)
    (read : ∀ header, core.headerAt media entry.slot = some header →
      core.headerAt after entry.slot = some header) : next.Confirmed after key entry := by
  obtain ⟨header, fields, found, decoded, sequence⟩ := confirmed.header
  refine ⟨confirmed.committed, ?_, header, fields, ?_, ?_, sequence⟩
  · rw [same.totalSlots]
    exact confirmed.lt_totalSlots
  · exact (headerAt_congr same after).trans (read header found)
  · rw [same.config]
    exact decoded

end Frame

/-! ## The invariant -/

/-- Every committed key has its header, and the index can be written in a
checkpoint. -/
structure Durable (session : Session) : Prop where
  owned : session.core.Owned
  laid : session.core.WellLaid
  apart : session.core.SlotsApart
  generation_lt : ∀ slot, session.core.allocator.generations slot < uint64Size
  storable : ∀ key entry, session.core.index.get? key = some entry → Storable key entry
  confirmed : ∀ key entry, session.core.Holds key entry →
    session.core.Confirmed session.media key entry

section Durable

variable {session next : Session} {key : ObjectKey} {entry : Entry}

/-- The committed keys have other slots than a reserved one. -/
theorem Durable.ne_reserved (durable : Durable session) (reserves : session.core.Reserves key entry)
    {other : ObjectKey} {second : Entry} (holds : session.core.Holds other second) :
    second.slot ≠ entry.slot := by
  intro same
  have unique := durable.owned.key_unique holds.1 reserves.1 same
  subst unique
  have equal : second = entry := Option.some.inj (holds.1.symm.trans reserves.1)
  subst equal
  have contrary := holds.2.symm.trans reserves.2
  cases contrary

theorem Durable.slotBytes_pos (durable : Durable session) : 0 < session.core.slotBytes :=
  lt_of_lt_of_le (by decide) durable.laid.header_le

/-- The headers after a recorded key are those after its header write. -/
theorem headerAt_recordKey (session : Session) (key : ObjectKey) (entry : Entry)
    (file : SegmentFile) (header : Bytes) (slot : Nat) :
    session.core.headerAt (recordKey session key entry file header).media slot =
      session.core.headerAt (headerWritten session entry.slot file header) slot := by
  rw [headerAt, headerAt, recordKey]
  unfold readObjectHeader
  rw [ResidencyBitmap.set, (sameFiles_write _ _ _ _).segment]

/-- Every move leaves the headers of the committed keys readable. -/
theorem Move.headerAt_kept {slips drains : Bool} (move : Move slips drains session next)
    (durable : Durable session) (holds : session.core.Holds key entry) {block : Bytes}
    (read : session.core.headerAt session.media entry.slot = some block) :
    session.core.headerAt next.media entry.slot = some block := by
  cases move with
  | grant _ _ _ _ _ | refuse _ | abort _ _ | pins _ => exact read
  | commit _ lands | record _ _ lands =>
    refine (headerAt_recordKey session key _ _ _ entry.slot).trans ?_
    exact durable.apart.headerAt_headerWritten durable.slotBytes_pos lands.found
      (durable.owned.lt_totalSlots lands.reserves.1) (durable.owned.lt_totalSlots holds.1)
      (durable.ne_reserved lands.reserves holds) read _
  | spoil left _ reserves found =>
    exact durable.apart.headerAt_headerWritten durable.slotBytes_pos found
      (durable.owned.lt_totalSlots reserves.1) (durable.owned.lt_totalSlots holds.1)
      (durable.ne_reserved reserves holds) read left
  | release _ _ _ => exact (sameFiles_write _ _ _ _).retains _ _ _ read
  | drainReclaim _ max zeroing =>
    refine durable.apart.headerAt_zeroSlots durable.slotBytes_pos zeroing (fun slot taken => ?_)
      (durable.owned.lt_totalSlots holds.1) (fun taken => ?_) read
    · have queued := (durable.owned.sound.reclaiming_iff slot).mp
        (.inl (List.mem_of_mem_take taken))
      exact lt_of_lt_of_le queued.1 durable.owned.sound.highWater_le
    have held := durable.owned.inUse key entry holds.1
    exact (durable.owned.sound.not_mem_of_held held).2.1 (List.mem_of_mem_take taken)
  | precreateStep headroom faults =>
    exact (built_precreateStep session headroom faults).retains _ _ _ read
  | checkpoint outcome =>
    rw [headerAt, readObjectHeader, media_checkpoint session outcome]
    exact read

/-- Every move keeps the headers of the committed keys. -/
theorem Move.durable {slips drains : Bool} (move : Move slips drains session next)
    (durable : Durable session) : Durable next := by
  have same := move.sameStore
  have sequence_lt : session.core.nextCommitSeq < uint64Size := Nat.mod_lt _ (by decide)
  refine ⟨move.owned durable.owned, durable.laid.of_sameStore same,
    durable.apart.of_sameStore same, fun slot => ?_,
    fun key entry present => ?_, fun key entry holds => ?_⟩
  · rcases move.generations with kept | ⟨_, max, zeroing, rfl⟩
    · rw [kept]
      exact durable.generation_lt slot
    rw [(allocator_drainReclaim durable.owned.sound max zeroing slot).2]
    split
    · exact Nat.mod_lt _ (by decide)
    · exact durable.generation_lt slot
  · cases move.origin present with
    | kept before => exact durable.storable key entry before
    | granted nonempty short claims _ =>
      exact ⟨nonempty, short, durable.laid.slot_lt claims.lt_totalSlots,
        durable.generation_lt _, Nat.two_pow_pos 64⟩
    | recorded lands _ =>
      exact { durable.storable key _ lands.reserves.1 with commitSeq_lt := sequence_lt }
  cases move.origin holds.1 with
  | kept before =>
    have held : session.core.Holds key entry := ⟨before, holds.2⟩
    exact (durable.confirmed key entry held).kept same
      fun _ read => move.headerAt_kept durable held read
  | granted _ _ _ _ => cases holds.2
  | @recorded entry file header lands media =>
    -- The header that was written decodes to what the entry says.
    have storable := durable.storable key entry lands.reserves.1
    have decoded := decodeObjectHeader_encodeObjectHeader lands.encoded
      (lt_of_le_of_lt storable.short (by decide)) (Nat.mod_lt _ (by decide))
      storable.generation_lt sequence_lt true
    have below := durable.owned.lt_totalSlots lands.reserves.1
    rw [← same.config] at decoded
    rw [← same.totalSlots] at below
    refine ⟨rfl, below, header, _, ?_, decoded, rfl⟩
    rw [media]
    refine (headerAt_congr same _).trans ((headerAt_recordKey session key entry _ _ _).trans ?_)
    exact readObjectHeader_writeBlock_self _ _ _ _ _

theorem Durable.run (durable : Durable session) (operations : List StoreOp) :
    Durable (runFrom step session operations) :=
  run_keep (motive := Durable) (fun _ holds => holds.owned.sound) (fun _ _ move => move.durable)
    durable operations

end Durable

end ObjectStoreCore

end Tutti
