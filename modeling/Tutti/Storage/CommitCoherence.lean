import Tutti.Storage.SlotExclusivity

/-!
# Index and allocator after failed commits

An entry of the index and its slot in the allocator should tell the same story,
and a slot that no entry has should be free or on its way to be. Every move keeps
this except the recording of a key by a commit batch that fails later on: `commit`
returns at the first failed header write, before the allocator and the dirty flag
have followed the keys it had already committed.
-/

namespace Tutti

open Foundation Function List ObjectStoreCore SpaceAllocator
open OrderedDict hiding keys

namespace ObjectStoreCore

/-- The index and the allocator say the same about every slot handed out. -/
structure Coherent (core : ObjectStoreCore) : Prop where
  committed_iff : ∀ key entry, core.index.get? key = some entry →
    (entry.committed = true ↔ core.allocator.states entry.slot = .committed)
  reserved_iff : ∀ key entry, core.index.get? key = some entry →
    (entry.committed = false ↔ core.allocator.states entry.slot = .reserved)
  accounted : ∀ slot, slot < core.allocator.highWater → ¬ core.Taken slot →
    core.allocator.states slot = .free ∨ core.allocator.states slot = .reclaiming

/-- The state that the slot of an entry should have. -/
def stateFor (entry : Entry) : SlotState := if entry.committed = true then .committed else .reserved

/-- Owned slots whose state matches their entries, and no others in use. -/
structure Settled (core : ObjectStoreCore) : Prop extends core.Owned where
  state : ∀ key entry, core.index.get? key = some entry →
    core.allocator.states entry.slot = stateFor entry
  taken : ∀ slot, InUse core.allocator slot → core.Taken slot

variable {core next : ObjectStoreCore} {key : ObjectKey} {entry : Entry}

theorem settled_iff : core.Settled ↔ core.Owned ∧ core.Coherent := by
  constructor
  · intro settled
    refine ⟨settled.toOwned, ?_, ?_, ?_⟩
    · intro key entry present
      rw [settled.state key entry present, stateFor]
      cases entry.committed <;> simp
    · intro key entry present
      rw [settled.state key entry present, stateFor]
      cases entry.committed <;> simp
    intro slot _ free
    cases state : core.allocator.states slot with
    | free => exact .inl rfl
    | reclaiming => exact .inr rfl
    | reserved => exact (free (settled.taken slot (.inl state))).elim
    | committed => exact (free (settled.taken slot (.inr state))).elim
  · rintro ⟨owned, coherent⟩
    refine ⟨owned, ?_, ?_⟩
    · intro key entry present
      unfold stateFor
      split
      · rename_i committed
        exact (coherent.committed_iff key entry present).mp committed
      · rename_i uncommitted
        exact (coherent.reserved_iff key entry present).mp (Bool.eq_false_iff.mpr uncommitted)
    · intro slot inUse
      by_contra free
      have used : core.allocator.states slot ≠ .free := by
        rcases inUse with state | state <;> rw [state] <;> exact nofun
      rcases coherent.accounted slot (owned.sound.lt_highWater used) free with state | state
      · exact used state
      · rcases inUse with other | other <;> rw [state] at other <;> cases other

/-! ## Moves without slips -/

/-- Nothing changes in the index, nor in the slots in use. -/
theorem Settled.of_states (settled : core.Settled) (owned : next.Owned)
    (index : next.index = core.index)
    (kept : ∀ slot, InUse core.allocator slot ∨ InUse next.allocator slot →
      next.allocator.states slot = core.allocator.states slot) : next.Settled where
  toOwned := owned
  state := by
    intro key entry present
    rw [index] at present
    rw [kept entry.slot (.inl (settled.inUse key entry present))]
    exact settled.state key entry present
  taken := by
    intro slot inUse
    have before : InUse core.allocator slot := by
      unfold InUse
      rw [← kept slot (.inr inUse)]
      exact inUse
    unfold Taken
    rw [index]
    exact settled.taken slot before

theorem Settled.grant (settled : core.Settled) {slot : Nat} {allocator : SpaceAllocator}
    (absent : core.index.get? key = none) (claims : core.allocator.Claims slot allocator) :
    (core.insertReserved key slot (core.allocator.generations slot) allocator).Settled where
  toOwned := settled.toOwned.insertReserved absent claims
  state := by
    intro holder entry present
    simp only [insertReserved, get?_set] at present
    simp only [insertReserved, claims.states]
    split at present
    · cases present
      exact update_self _ _ _
    · rw [update_of_ne (settled.ne_of_free present claims.was_free)]
      exact settled.state holder entry present
  taken := by
    intro query inUse
    unfold InUse at inUse
    simp only [insertReserved, claims.states] at inUse
    by_cases here : query = slot
    · refine ⟨key, ⟨slot, core.allocator.generations slot, 0, false⟩, ?_, here.symm⟩
      simp only [insertReserved, get?_set_self]
    rw [update_of_ne here] at inUse
    obtain ⟨holder, entry, present, located⟩ := settled.taken query inUse
    exact ⟨holder, entry, get?_insertReserved absent present _ _ _, located⟩

/-- A key is committed in the index and in the allocator. -/
theorem Settled.commit (settled : core.Settled) (reserves : core.Reserves key entry)
    (commitSeq : Nat) :
    Settled { core.commitEntry key entry commitSeq with
      allocator := core.allocator.commit [entry.slot] } where
  toOwned := (settled.commitEntry reserves.1 commitSeq).of_states rfl rfl
    (settled.sound.commit _) (fun _ inUse => inUse.commit _)
  state := by
    intro holder other present
    have reserved := settled.state key entry reserves.1
    simp only [commitEntry, get?_set] at present
    rw [states_commit]
    split at present
    · cases present
      have inRange := settled.lt_totalSlots reserves.1
      simp [inRange, reserved, stateFor]
    · rename_i different
      have apart : other.slot ≠ entry.slot := fun same =>
        different (settled.key_unique present reserves.1 same)
      simp only [mem_singleton, apart, false_and]
      exact settled.state holder other present
  taken := by
    intro slot inUse
    have before : InUse core.allocator slot := by
      unfold InUse at inUse
      rw [states_commit] at inUse
      split at inUse
      · rename_i moved
        exact .inl moved.2.2
      · exact inUse
    obtain ⟨holder, other, present, located⟩ := settled.taken slot before
    by_cases same : holder = key
    · subst same
      rw [reserves.1] at present
      cases present
      refine ⟨holder, { entry with committed := true, commitSeq }, ?_, located⟩
      simp only [commitEntry, get?_set_self]
    · refine ⟨holder, other, ?_, located⟩
      simp only [commitEntry, get?_set, same]
      exact present

/-- A key leaves and its slot starts reclaiming. -/
theorem Settled.retire (settled : core.Settled) (present : core.index.get? key = some entry) :
    Settled { core.removeKey key entry.slot with
      allocator := [entry.slot].foldl (retireSlot (stateFor entry)) core.allocator } := by
  have live : stateFor entry = .reserved ∨ stateFor entry = .committed := by
    unfold stateFor
    split
    · exact .inr rfl
    · exact .inl rfl
  have reclaims : stateFor entry ≠ .reclaiming := by
    rcases live with state | state <;> rw [state] <;> exact nofun
  have states := fun slot => states_retire core.allocator [entry.slot] slot reclaims
  refine ⟨settled.toOwned.retire present live, ?_, ?_⟩
  · intro holder other found
    have apart := settled.ne_of_removeKey present found
    rw [states, if_neg (fun moved => apart (mem_singleton.mp moved.1))]
    simp only [removeKey, get?_erase] at found
    split at found
    · cases found
    · exact settled.state holder other found
  intro slot inUse
  have apart : slot ≠ entry.slot := by
    rintro rfl
    unfold InUse at inUse
    rw [states, if_pos ⟨mem_singleton_self _, settled.lt_totalSlots present,
      settled.state key entry present⟩] at inUse
    rcases inUse with state | state <;> cases state
  have before : InUse core.allocator slot := by
    unfold InUse at inUse ⊢
    rw [states, if_neg (fun moved => apart (mem_singleton.mp moved.1))] at inUse
    exact inUse
  obtain ⟨holder, other, found, located⟩ := settled.taken slot before
  refine ⟨holder, other, ?_, located⟩
  have different : holder ≠ key := by
    rintro rfl
    rw [present] at found
    cases found
    exact apart located.symm
  simp only [removeKey, get?_erase, different]
  exact found

/-- Every move but the recording of a key keeps the store settled. -/
theorem Move.settled {session next : Session} (move : Move false true session next)
    (settled : session.core.Settled) : next.core.Settled := by
  have owned := move.owned settled.toOwned
  cases move with
  | grant _ _ _ absent claims => exact settled.grant absent claims
  | commit _ lands =>
    have committed := settled.commit lands.reserves session.core.nextCommitSeq
    exact committed.of_states owned rfl (fun _ _ => rfl)
  | record slipping _ _ => cases slipping
  | refuse _ | spoil _ _ _ _ | pins _ => exact settled.of_states owned rfl (fun _ _ => rfl)
  | abort _ reserves =>
    have retired := settled.retire reserves.1
    simp only [stateFor, reserves.2, Bool.false_eq_true] at retired
    exact retired
  | release _ holds _ =>
    have retired := settled.retire holds.1
    simp only [stateFor, holds.2] at retired
    exact retired.of_states owned rfl (fun _ _ => rfl)
  | drainReclaim _ max zeroing =>
    refine settled.of_states owned rfl fun slot inUse => ?_
    have states := (allocator_drainReclaim settled.sound max zeroing slot).1
    have kept : slot ∉ drained session max zeroing := by
      intro done
      rcases inUse with before | after
      · exact (settled.sound.not_mem_of_held before).2.1 (mem_queue_of_mem_drained done)
      unfold InUse at after
      rw [states, if_pos done] at after
      rcases after with state | state <;> cases state
    rw [states, if_neg kept]
  | precreateStep headroom faults =>
    obtain ⟨_, _, _, _, same⟩ := core_precreateStep session headroom faults
    refine settled.of_states owned ?_ ?_
    · rw [same]
    · rw [same]
      exact fun _ _ => rfl
  | checkpoint outcome =>
    obtain ⟨_, _, same⟩ := core_checkpoint session outcome
    refine settled.of_states owned ?_ ?_
    · rw [same]
    · rw [same]
      exact fun _ _ => rfl

/-! ## Which commits slip -/

/-- The key has an open reservation. -/
def isReserved (core : ObjectStoreCore) (key : ObjectKey) : Bool :=
  ((core.index.get? key).map fun entry => !entry.committed).getD false

theorem isReserved_iff : core.isReserved key = true ↔ ∃ entry, core.Reserves key entry := by
  unfold isReserved Reserves
  cases core.index.get? key with
  | none => simp
  | some entry => simp

/-- The header writes that a commit batch calls for: one for each key with an
open reservation, at its first mention. -/
def headerWrites (core : ObjectStoreCore) :
    List (ObjectKey × WriteOutcome) → List (ObjectKey × WriteOutcome)
  | [] => []
  | (key, outcome) :: keys =>
    if core.isReserved key = true then
      (key, outcome) :: (headerWrites core keys).filter (·.1 ≠ key)
    else headerWrites core keys

/-- A header write of the batch fails. -/
def WriteFails (session : Session) (write : ObjectKey × WriteOutcome) : Prop :=
  ∃ entry, session.core.Reserves write.1 entry ∧ HeaderFails session write.1 entry write.2

/-- If any header write of a commit batch fails, the first one does. -/
def CommitWhole (session : Session) (keys : List (ObjectKey × WriteOutcome)) : Prop :=
  match headerWrites session.core keys with
  | [] => True
  | first :: rest => WriteFails session first ∨ ∀ write ∈ rest, ¬ WriteFails session write

section Recorded

variable {session : Session} {file : SegmentFile} {header : Bytes}

section

variable (reserves : session.core.Reserves key entry)
include reserves

variable (query : ObjectKey)

theorem reserves_recordKey (found : Entry) :
    (recordKey session key entry file header).core.Reserves query found ↔
      query ≠ key ∧ session.core.Reserves query found := by
  unfold Reserves
  simp only [recordKey, commitEntry, spendCommitSeq, get?_set]
  by_cases same : query = key
  · subst same
    simp only [↓reduceIte, Option.some.injEq, ne_eq, not_true_eq_false, false_and, iff_false]
    rintro ⟨rfl, uncommitted⟩
    cases uncommitted
  · simp [same]

theorem isReserved_recordKey :
    (recordKey session key entry file header).core.isReserved query =
      (decide (query ≠ key) && session.core.isReserved query) := by
  rw [Bool.eq_iff_iff, Bool.and_eq_true, isReserved_iff, isReserved_iff]
  simp [reserves_recordKey reserves]

/-- The recorded key drops out of the writes that are still called for. -/
theorem headerWrites_recordKey (keys : List (ObjectKey × WriteOutcome)) :
    headerWrites (recordKey session key entry file header).core keys =
      (headerWrites session.core keys).filter (·.1 ≠ key) := by
  induction keys with
  | nil => rfl
  | cons item keys ih =>
    obtain ⟨query, outcome⟩ := item
    simp only [headerWrites, isReserved_recordKey reserves, ih]
    by_cases same : query = key
    · subst same
      simp only [ne_eq, not_true_eq_false, decide_false, Bool.false_and, Bool.false_eq_true,
        ↓reduceIte]
      split
      · simp
      · rfl
    · simp only [ne_eq, same, not_false_eq_true, decide_true, Bool.true_and]
      split
      · rw [filter_cons, if_pos (by simp [same]), filter_comm]
      · rfl

end

theorem segment_recordKey (found : session.media.segment (session.core.headerPath entry.slot) =
      some file) (path : SegmentPath) :
    (recordKey session key entry file header).media.segment path = none ↔
      session.media.segment path = none := by
  have same := (sameFiles_write (headerWritten session entry.slot file header)
    session.core.ownResidency entry.slot true).segment
  simp only [recordKey, ResidencyBitmap.set]
  rw [same]
  simp only [headerWritten, Media.writeBlock, Media.setSegment]
  by_cases here : path = session.core.headerPath entry.slot
  · subst here
    simp [found]
  · rw [update_of_ne here]

theorem writeFails_recordKey (lands : HeaderLands session key entry file header)
    {write : ObjectKey × WriteOutcome} (other : write.1 ≠ key) :
    WriteFails (recordKey session key entry file header) write ↔ WriteFails session write := by
  refine exists_congr fun found => ?_
  rw [reserves_recordKey lands.reserves]
  simp only [other, ne_eq, not_false_eq_true, true_and]
  refine and_congr_right fun _ => ?_
  unfold HeaderFails
  rw [segment_recordKey lands.found]
  rfl

end Recorded

/-- A commit batch that stopped at a failed write: the keys before it are recorded
and the allocator has not moved. -/
structure Stopped (session : Session) (keys : List (ObjectKey × WriteOutcome))
    (front : List (ObjectKey × WriteOutcome)) (reached : Session) : Prop where
  split : ∃ failed rest, headerWrites session.core keys = front ++ failed :: rest ∧
    WriteFails session failed
  landed : ∀ write ∈ front, ¬ WriteFails session write
  allocator : reached.core.allocator = session.core.allocator
  untouched : front = [] → reached.core = session.core.spendCommitSeq
  kept : ∀ key entry, session.core.Holds key entry → reached.core.Holds key entry
  recorded : ∀ write ∈ front, ∃ entry found, session.core.Reserves write.1 entry ∧
    reached.core.Holds write.1 found ∧ found.slot = entry.slot

variable {outcome : WriteOutcome}

variable {session reached : Session} {key : ObjectKey} {front : List (ObjectKey × WriteOutcome)}

theorem Stopped.skip
    {keys : List (ObjectKey × WriteOutcome)} (idle : session.core.isReserved key = false)
    (stopped : Stopped session keys front reached) :
    Stopped session ((key, outcome) :: keys) front reached := by
  refine { stopped with split := ?_ }
  simpa [headerWrites, idle] using stopped.split

variable {session : Session}

/-- The first write of a batch fails. -/
theorem stopped_at_first {entry : Entry}
    (reserves : session.core.Reserves key entry) (fails : HeaderFails session key entry outcome)
    (keys : List (ObjectKey × WriteOutcome)) (media : Media) :
    Stopped session ((key, outcome) :: keys) [] ⟨session.core.spendCommitSeq, media⟩ where
  split := by
    refine ⟨(key, outcome), (headerWrites session.core keys).filter (·.1 ≠ key), ?_, entry,
      reserves, fails⟩
    simp [headerWrites, isReserved_iff.mpr ⟨entry, reserves⟩]
  landed := nofun
  allocator := rfl
  untouched := fun _ => rfl
  kept := fun _ _ holds => holds
  recorded := nofun

/-- A batch goes on after a write that landed. -/
theorem Stopped.record {entry : Entry}
    {file : SegmentFile} {header : Bytes} {keys : List (ObjectKey × WriteOutcome)}
    (lands : HeaderLands session key entry file header)
    (succeeds : ¬ HeaderFails session key entry outcome)
    (stopped : Stopped (recordKey session key entry file header) keys front reached) :
    Stopped session ((key, outcome) :: keys) ((key, outcome) :: front) reached := by
  obtain ⟨failed, rest, split, fails⟩ := stopped.split
  rw [headerWrites_recordKey lands.reserves] at split
  have others : ∀ write ∈ front ++ failed :: rest, write.1 ≠ key := by
    intro write member
    rw [← split] at member
    exact of_decide_eq_true (mem_filter.mp member).2
  have holds : (recordKey session key entry file header).core.Holds key
      { entry with committed := true, commitSeq := session.core.nextCommitSeq } := by
    refine ⟨?_, rfl⟩
    simp only [recordKey, commitEntry, get?_set_self]
  refine ⟨⟨failed, rest, ?_, ?_⟩, ?_, stopped.allocator, ?_, ?_, ?_⟩
  · simp only [headerWrites, isReserved_iff.mpr ⟨entry, lands.reserves⟩, ↓reduceIte, split,
      cons_append]
  · exact (writeFails_recordKey lands (others failed (by simp))).mp fails
  · intro write member
    rcases mem_cons.mp member with rfl | later
    · rintro ⟨found, reserves, fails⟩
      have same := reserves.1
      rw [lands.reserves.1] at same
      cases same
      exact succeeds fails
    · have other := others write (mem_append_left _ later)
      exact fun fails => stopped.landed write later ((writeFails_recordKey lands other).mpr fails)
  · rintro ⟨⟩
  · intro query found held
    refine stopped.kept query found ⟨?_, held.2⟩
    have other : query ≠ key := by
      rintro rfl
      have same := held.1
      rw [lands.reserves.1] at same
      cases same
      have committed := held.2
      rw [lands.reserves.2] at committed
      cases committed
    simp only [recordKey, commitEntry, get?_set, other]
    exact held.1
  · intro write member
    rcases mem_cons.mp member with rfl | later
    · exact ⟨entry, _, lands.reserves, stopped.kept _ _ holds, rfl⟩
    · obtain ⟨before, found, reserves, held, same⟩ := stopped.recorded write later
      exact ⟨before, found, ((reserves_recordKey lands.reserves _ _).mp reserves).2, held, same⟩

variable (keys : List (ObjectKey × WriteOutcome))

/-- A commit batch goes through when all its writes land, and stops at the first
that fails. -/
theorem commitKeys_outcome (slots : List Nat)
    (writer : session.core.config.readOnly = false) :
    ((∀ write ∈ headerWrites session.core keys, ¬ WriteFails session write) ∧
      ∃ committed reached, commitKeys keys slots session = (.ok (), committed, reached)) ∨
    ∃ front error committed reached, Stopped session keys front reached ∧
      commitKeys keys slots session = (.error error, committed, reached) := by
  induction keys generalizing slots session with
  | nil => exact .inl ⟨nofun, slots, session, rfl⟩
  | cons item keys ih =>
    obtain ⟨key, outcome⟩ := item
    by_cases reserved : session.core.isReserved key = true
    · obtain ⟨entry, reserves⟩ := isReserved_iff.mp reserved
      rcases @commitKeys_reserved _ true true _ _ writer reserves outcome keys slots with
        ⟨file, header, lands, succeeds, continues⟩ | ⟨error, media, fails, _, ends⟩
      · have next : (recordKey session key entry file header).core.config.readOnly = false := writer
        rw [continues]
        rcases ih (slots ++ [entry.slot]) next with
          ⟨all, committed, reached, done⟩ | ⟨front, error, committed, reached, stopped, failed⟩
        · refine .inl ⟨?_, committed, reached, done⟩
          rw [headerWrites_recordKey lands.reserves] at all
          intro write member
          simp only [headerWrites, reserved] at member
          rcases mem_cons.mp member with rfl | later
          · rintro ⟨found, reserves', fails⟩
            have same := reserves'.1
            rw [reserves.1] at same
            cases same
            exact succeeds fails
          · have other : write.1 ≠ key := of_decide_eq_true (mem_filter.mp later).2
            exact fun fails => all write later ((writeFails_recordKey lands other).mpr fails)
        · exact .inr ⟨_, error, committed, reached, stopped.record lands succeeds, failed⟩
      · exact .inr ⟨[], error, slots, _, stopped_at_first reserves fails keys media, ends⟩
    · have idle := Bool.eq_false_iff.mpr reserved
      have none : ∀ entry, ¬ session.core.Reserves key entry := fun entry reserves =>
        reserved (isReserved_iff.mpr ⟨entry, reserves⟩)
      rw [commitKeys_skip none]
      rcases ih slots writer with
        ⟨all, committed, reached, done⟩ | ⟨front, error, committed, reached, stopped, failed⟩
      · refine .inl ⟨?_, committed, reached, done⟩
        simpa [headerWrites, idle] using all
      · exact .inr ⟨front, error, committed, reached, stopped.skip idle, failed⟩

/-! ## Runs -/

/-- The condition on a step: a commit batch goes through or fails at once. -/
def StepWhole (session : Session) : StoreOp → Prop
  | .commit keys => session.core.config.readOnly = false → CommitWhole session keys
  | _ => True

/-- A batch that is whole and stopped has recorded nothing. -/
theorem Stopped.front_eq_nil
    {keys : List (ObjectKey × WriteOutcome)} (stopped : Stopped session keys front reached)
    (whole : CommitWhole session keys) : front = [] := by
  obtain ⟨failed, rest, split, fails⟩ := stopped.split
  cases front with
  | nil => rfl
  | cons write front =>
    rw [CommitWhole, split] at whole
    rcases whole with first | later
    · exact (stopped.landed write (.head _) first).elim
    · exact (later failed (mem_append_right _ (.head _)) fails).elim

/-- What a commit step comes to on an open, writable store. -/
theorem step_commit_cases (writer : session.core.config.readOnly = false)
    (opened : session.core.opened = true) (keys : List (ObjectKey × WriteOutcome)) :
    (CommitWhole session keys ∧ (commit session keys).1 = .ok () ∧
      ∃ slots reached, commitKeys keys [] session = (.ok (), slots, reached) ∧
        step session (.commit keys) = settleCommit slots reached) ∨
    ∃ front, Stopped session keys front (step session (.commit keys)) := by
  rcases commitKeys_outcome keys [] writer with
    ⟨all, slots, reached, done⟩ | ⟨front, error, slots, reached, stopped, failed⟩
  · refine .inl ⟨?_, ?_, slots, reached, done, ?_⟩
    · unfold CommitWhole
      split
      · trivial
      rename_i first rest writes
      rw [writes] at all
      exact .inr fun write member => all write (.tail _ member)
    · rw [commit_eq writer opened, done]
    · rw [step, commit_eq writer opened, done]
  · refine .inr ⟨front, ?_⟩
    rw [step, commit_eq writer opened, failed]
    exact stopped

/-- A step keeps the store settled exactly if it is whole. -/
theorem stepWhole_iff (settled : session.core.Settled) (opened : session.core.opened = true)
    (operation : StoreOp) :
    StepWhole session operation ↔ (step session operation).core.Settled := by
  have steady : (∀ keys, operation = .commit keys → (commit session keys).1 = .ok ()) →
      (step session operation).core.Settled := fun ok =>
    (step_moves settled.sound operation (.inr ok) (.inl rfl)).keep (fun _ _ move => move.settled)
      settled
  cases operation with
  | commit keys =>
    by_cases writer : session.core.config.readOnly = false
    · rcases step_commit_cases writer opened keys with ⟨whole, ok, _⟩ | ⟨front, stopped⟩
      · exact iff_of_true (fun _ => whole) (steady fun _ same => by cases same; exact ok)
      constructor
      · intro whole
        rw [stopped.untouched (stopped.front_eq_nil (whole writer))]
        exact settled.of_states
          (settled.toOwned.of_states rfl rfl settled.sound fun _ inUse => inUse) rfl
          (fun _ _ => rfl)
      intro after _
      cases front with
      | nil =>
        obtain ⟨failed, rest, split, fails⟩ := stopped.split
        rw [CommitWhole, split]
        exact .inl fails
      | cons write front =>
        obtain ⟨entry, found, reserves, holds, same⟩ := stopped.recorded write (.head _)
        have before := settled.state write.1 entry reserves.1
        have now := after.state write.1 found holds.1
        rw [stopped.allocator, same, before] at now
        simp only [stateFor, reserves.2, holds.2, ↓reduceIte, reduceCtorEq] at now
    · refine iff_of_true (fun reader => (writer reader).elim) ?_
      have idle : step session (.commit keys) = session := by
        simp [step, commit, writer]
      rw [idle]
      exact settled
  | _ => exact iff_of_true trivial (steady (by rintro _ ⟨⟩))

/-- The keys that a commit step commits have their slots committed, and the
checkpoint is dirty after it. -/
def CommitFollowed (session : Session) : StoreOp → Prop
  | .commit keys => ∀ key before entry, session.core.Reserves key before →
      (step session (.commit keys)).core.Holds key entry →
      (step session (.commit keys)).core.allocator.states entry.slot = .committed ∧
        (step session (.commit keys)).core.checkpointDirty = true
  | _ => True

/-- A batch that collected no slot changed nothing. -/
theorem commitKeys_idle {slots committed : List Nat}
    (writer : session.core.config.readOnly = false)
    (done : commitKeys keys slots session = (.ok (), committed, reached)) :
    slots.length ≤ committed.length ∧ (committed.length = slots.length → reached = session) := by
  induction keys generalizing slots session with
  | nil =>
    cases done
    exact ⟨le_rfl, fun _ => rfl⟩
  | cons item keys ih =>
    obtain ⟨key, outcome⟩ := item
    by_cases reserved : ∃ entry, session.core.Reserves key entry
    · obtain ⟨entry, reserves⟩ := reserved
      rcases @commitKeys_reserved _ true true _ _ writer reserves outcome keys slots with
        ⟨file, header, _, _, continues⟩ | ⟨_, _, _, _, ends⟩
      · rw [continues] at done
        have next : (recordKey session key entry file header).core.config.readOnly = false := writer
        have grown := (ih next done).1
        rw [length_append, length_singleton] at grown
        exact ⟨by omega, fun same => by omega⟩
      · rw [ends] at done
        cases done
    · push Not at reserved
      rw [commitKeys_skip reserved] at done
      exact ih writer done

theorem commitFollowed_of_whole (settled : session.core.Settled)
    (opened : session.core.opened = true) {operation : StoreOp}
    (whole : StepWhole session operation) : CommitFollowed session operation := by
  have after := (stepWhole_iff settled opened operation).mp whole
  cases operation with
  | commit keys =>
    intro key before entry reserves holds
    -- A key cannot be reserved and held in one index.
    have changed : (step session (.commit keys)).core.index ≠ session.core.index := by
      intro same
      have found := holds.1
      rw [same, reserves.1] at found
      cases found
      have committed := holds.2
      rw [reserves.2] at committed
      cases committed
    refine ⟨?_, ?_⟩
    · rw [after.state key entry holds.1, stateFor, if_pos holds.2]
    by_cases writer : session.core.config.readOnly = false
    · rcases step_commit_cases writer opened keys with
        ⟨_, _, slots, reached, done, result⟩ | ⟨front, stopped⟩
      · rw [result]
        cases slots with
        | nil =>
          have same := (commitKeys_idle keys writer done).2 rfl
          rw [result, same] at changed
          exact (changed rfl).elim
        | cons slot slots => exact Bool.or_true _
      · have none := stopped.front_eq_nil (whole writer)
        rw [stopped.untouched none] at changed
        exact (changed rfl).elim
    · simp only [step, commit, writer, ↓reduceIte, ne_eq, not_true_eq_false] at changed
  | _ => trivial

theorem FreshOpen.settled {media : Media} {config : StoreConfig}
    (opened : FreshOpen media config session) : session.core.Settled := by
  obtain ⟨slots, taken, _, states⟩ := opened.claimed
  refine ⟨opened.owned, fun key entry present => ?_, fun slot inUse => ?_⟩
  · have member := (taken entry.slot).mpr ⟨key, entry, present, rfl⟩
    rw [states, if_pos (lt_claimBound member), if_pos member, stateFor,
      if_pos (opened.confirmed key entry present).committed]
  · rw [← taken]
    by_contra free
    unfold InUse at inUse
    rw [states] at inUse
    split at inUse <;> rcases inUse with state | state <;> cases state

/-- The store is owned and open in every state of a run. -/
theorem owned_opened_step (operation : StoreOp)
    (holds : session.core.Owned ∧ session.core.opened = true) :
    (step session operation).core.Owned ∧ (step session operation).core.opened = true :=
  step_keep (motive := fun reached => reached.core.Owned ∧ reached.core.opened = true)
    (fun _ both => both.1.sound)
    (fun _ _ move both => ⟨move.owned both.1, move.sameStore.opened.trans both.2⟩) holds operation

/-- From a fresh open on, index and allocator stay coherent exactly along the runs
in which every commit batch with a failed header write fails at its first write.
Along those runs every commit is followed by the allocator and the dirty flag. -/
theorem coherent_iff_commits_whole {media : Media} {config : StoreConfig} {faults : OpenFaults}
    {session : Session} (ok : openStore ⟨fresh, media⟩ config faults = (.ok (), session))
    (operations : List StoreOp) :
    (Always step (fun reached => reached.core.Coherent) session operations ∧
      Along step CommitFollowed session operations) ↔
      Along step StepWhole session operations := by
  have opened := freshOpen ok
  have initial : session.core.Settled ∧ session.core.opened = true :=
    ⟨opened.settled, opened.opened⟩
  have exactly : ∀ reached operation, reached.core.Settled ∧ reached.core.opened = true →
      (StepWhole reached operation ↔ (step reached operation).core.Settled ∧
        (step reached operation).core.opened = true) := by
    intro reached operation holds
    rw [stepWhole_iff holds.1 holds.2 operation]
    exact (and_iff_left (owned_opened_step operation ⟨holds.1.toOwned, holds.2⟩).2).symm
  constructor
  · rintro ⟨coherent, _⟩
    refine (along_iff_always exactly initial operations).mpr ?_
    have kept : ∀ (reached : Session) (operation : StoreOp),
        reached.core.Owned ∧ reached.core.opened = true →
          (step reached operation).core.Owned ∧ (step reached operation).core.opened = true :=
      fun _ operation => owned_opened_step operation
    have both := Always.with_invariant kept ⟨opened.owned, opened.opened⟩ coherent
    exact both.imp fun _ holds => ⟨settled_iff.mpr ⟨holds.1.1, holds.2⟩, holds.1.2⟩
  · intro whole
    refine ⟨?_, ?_⟩
    · exact ((along_iff_always exactly initial operations).mp whole).imp
        fun _ holds => (settled_iff.mp holds.1).2
    exact whole.imp_of_invariant _ (fun reached operation holds =>
      (exactly reached operation holds).mp) (fun _ _ holds =>
        commitFollowed_of_whole holds.1 holds.2) initial

theorem coherent_iff_commits_whole_pair :
    openStore ⟨fresh, .blank⟩ pairConfig {} = (.ok (), pairSession) ∧
      ((Always step (fun reached => reached.core.Coherent) pairSession
          [.reserve [[1]], .commit [([1], .done)]] ∧
        Along step CommitFollowed pairSession [.reserve [[1]], .commit [([1], .done)]]) ↔
        Along step StepWhole pairSession [.reserve [[1]], .commit [([1], .done)]]) :=
  ⟨openStore_pair, coherent_iff_commits_whole openStore_pair _⟩

/-- Two keys are committed in one batch and the second header write fails. -/
def halfCommit : List StoreOp :=
  [.reserve [[1], [2]], .commit [([1], .done), ([2], .failed ⟨.deviceError, "write"⟩ [])]]

/-- The first key of the batch is then committed in the index, but its slot is
still reserved and the checkpoint clean; once the key is released nothing ever
frees the slot. -/
theorem halfCommit_leaks :
    ((runFrom step pairSession halfCommit).core.contains [1] = true ∧
      (runFrom step pairSession halfCommit).core.allocator.states 0 = .reserved ∧
      (runFrom step pairSession halfCommit).core.checkpointDirty = false) ∧
    ((runFrom step pairSession (halfCommit ++
        [.release [[1]], .drainReclaim 2 fun _ => .done])).core.slotOwner 0 = none ∧
      (runFrom step pairSession (halfCommit ++
        [.release [[1]], .drainReclaim 2 fun _ => .done])).core.allocator.states 0 = .reserved) ∧
    ¬ (runFrom step pairSession halfCommit).core.Coherent := by
  have entry : (runFrom step pairSession halfCommit).core.index.get? [1] =
      some ⟨0, 0, 1, true⟩ := by decide +kernel
  refine ⟨by decide +kernel, by decide +kernel, fun coherent => ?_⟩
  have committed := (coherent.committed_iff [1] _ entry).mp rfl
  cases committed

end ObjectStoreCore

end Tutti
