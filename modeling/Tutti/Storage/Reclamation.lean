import Tutti.Storage.Provisioning

/-!
# Whether released space comes back

A released or aborted slot becomes free again only through `drain_reclaim`, which
is not part of the store interface. Along runs of interface operations the free
list stays empty, so every reservation takes a slot that was never handed out,
and the store is full for good once the high-water mark has reached the capacity.
Before that, growing the pool makes room.
-/

namespace Tutti

open Foundation Option SpaceAllocator

/-- The operations that the store interface has. -/
def StoreOp.inInterface : StoreOp → Bool
  | .drainReclaim _ _ => false
  | _ => true

/-- The operation releases nothing, and its media operations succeed. -/
def StoreOp.Smooth : StoreOp → Prop
  | .release _ => False
  | .commit keys => ∀ write ∈ keys, write.2 = .done
  | .drainReclaim _ zeroing => ∀ slot, zeroing slot = .done
  | .precreateStep _ faults => ∀ path, faults path = none
  | .checkpoint outcome => outcome = .done
  | _ => True

namespace ObjectStoreCore

/-- `reserve` accepts the key. -/
def Accepts (core : ObjectStoreCore) (key : ObjectKey) : Prop :=
  ∃ outcome next, core.reserve [key] = (.ok outcome, next) ∧ key ∈ outcome.acceptedKeys

/-- Some interface operations that release nothing make room for the key. -/
def Reusable (session : Session) (key : ObjectKey) : Prop :=
  ∃ continuation : List StoreOp,
    (∀ operation ∈ continuation, operation.inInterface = true ∧ operation.Smooth) ∧
      (runFrom step session continuation).core.Accepts key

/-! ## Full for good -/

theorem freeList_foldl {change : SpaceAllocator → Nat → SpaceAllocator}
    (keeps : ∀ allocator slot, (change allocator slot).freeList = allocator.freeList)
    (allocator : SpaceAllocator) (slots : List Nat) :
    (slots.foldl change allocator).freeList = allocator.freeList :=
  invariant_runFrom (fun reached slot same => (keeps reached slot).trans same) rfl slots

theorem freeList_commitSlot (allocator : SpaceAllocator) (slot : Nat) :
    (allocator.commitSlot slot).freeList = allocator.freeList := by
  unfold commitSlot
  split_ifs <;> rfl

theorem freeList_retireSlot (source : SlotState) (allocator : SpaceAllocator) (slot : Nat) :
    (allocator.retireSlot source slot).freeList = allocator.freeList := by
  unfold retireSlot
  split_ifs <;> rfl

/-- Without draining, no slot is ever recycled. -/
structure Unrecycled (core : ObjectStoreCore) : Prop where
  sound : core.allocator.Sound
  freeList : core.allocator.freeList = []

theorem Move.unrecycled {slips : Bool} {session next : Session}
    (move : Move slips false session next) (unrecycled : session.core.Unrecycled) :
    next.core.Unrecycled := by
  refine ⟨move.sound unrecycled.sound, ?_⟩
  cases move with
  | grant _ _ _ _ claims =>
    have freed := claims.freeList
    rw [unrecycled.freeList] at freed
    exact freed
  | commit _ _ => exact (freeList_foldl freeList_commitSlot _ _).trans unrecycled.freeList
  | record _ _ _ | refuse _ | spoil _ _ _ _ | pins _ => exact unrecycled.freeList
  | abort _ _ | release _ _ _ =>
    exact (freeList_foldl (freeList_retireSlot _) _ _).trans unrecycled.freeList
  | drainReclaim draining _ _ => cases draining
  | precreateStep headroom faults =>
    obtain ⟨_, _, _, _, same⟩ := core_precreateStep session headroom faults
    rw [same]
    exact unrecycled.freeList
  | checkpoint outcome =>
    obtain ⟨_, _, same⟩ := core_checkpoint session outcome
    rw [same]
    exact unrecycled.freeList

/-- Every slot was handed out, none is recycled, and the key has none. -/
structure Shut (key : ObjectKey) (core : ObjectStoreCore) : Prop extends core.Unrecycled where
  full : core.allocator.totalSlots ≤ core.allocator.highWater
  absent : core.index.get? key = none

/-- Only a grant brings in a key or raises the high-water mark. -/
theorem Move.grants_or_keeps {slips drains : Bool} {session next : Session}
    (move : Move slips drains session next) :
    (∃ slot allocator, session.core.allocator.Claims slot allocator) ∨
      next.core.allocator.highWater = session.core.allocator.highWater ∧
        ∀ key, session.core.index.get? key = none → next.core.index.get? key = none := by
  have replaced : ∀ {key : ObjectKey} {entry found : Entry},
      session.core.index.get? key = some found → ∀ query, session.core.index.get? query = none →
        (session.core.index.set key entry).get? query = none := by
    intro key entry found present query absent
    have different : query ≠ key := by
      rintro rfl
      rw [absent] at present
      cases present
    rw [OrderedDict.get?_set, if_neg different]
    exact absent
  have erased : ∀ (key query : ObjectKey), session.core.index.get? query = none →
      (session.core.index.erase key).get? query = none := by
    intro key query absent
    rw [OrderedDict.get?_erase, absent, ite_self]
  cases move with
  | grant _ _ _ _ claims => exact .inl ⟨_, _, claims⟩
  | commit _ lands =>
    exact .inr ⟨(commit_sameExtent _ _).highWater, replaced lands.reserves.1⟩
  | record _ _ lands => exact .inr ⟨rfl, replaced lands.reserves.1⟩
  | refuse _ | spoil _ _ _ _ | pins _ => exact .inr ⟨rfl, fun _ absent => absent⟩
  | abort _ _ => exact .inr ⟨(abort_sameExtent _ _).highWater, erased _⟩
  | release _ _ _ => exact .inr ⟨(release_sameExtent _ _).highWater, erased _⟩
  | drainReclaim _ max zeroing =>
    refine .inr ⟨?_, fun _ absent => absent⟩
    exact (finishReclaim_sameExtent _ _).highWater.trans (requeueReclaim_sameExtent _ _).highWater
  | precreateStep headroom faults =>
    obtain ⟨_, _, _, _, same⟩ := core_precreateStep session headroom faults
    rw [same]
    exact .inr ⟨rfl, fun _ absent => absent⟩
  | checkpoint outcome =>
    obtain ⟨_, _, same⟩ := core_checkpoint session outcome
    rw [same]
    exact .inr ⟨rfl, fun _ absent => absent⟩

variable {core : ObjectStoreCore} {key : ObjectKey}

theorem Shut.not_claims (shut : Shut key core) {slot : Nat} {allocator : SpaceAllocator} :
    ¬ core.allocator.Claims slot allocator := by
  intro claims
  have full := shut.full
  rcases claims.highWater with ⟨some, _⟩ | ⟨_, _, room, _⟩
  · exact some shut.freeList
  · omega

theorem Move.shut {slips : Bool} {session next : Session} (move : Move slips false session next)
    (shut : Shut key session.core) :
    Shut key next.core := by
  rcases move.grants_or_keeps with ⟨_, _, claims⟩ | ⟨highWater, absent⟩
  · exact (shut.not_claims claims).elim
  refine ⟨move.unrecycled shut.toUnrecycled, ?_, absent key shut.absent⟩
  rw [highWater, move.sameStore.totalSlots]
  exact shut.full

/-- A store that is shut accepts nothing. -/
theorem Shut.not_accepts (shut : Shut key core) :
    ¬ core.Accepts key := by
  rintro ⟨outcome, next, reserved, accepted⟩
  have walk := reserveKeys_of_ok reserved
  rw [reserveKeys] at walk
  split at walk
  · cases walk
    exact List.not_mem_nil accepted
  rw [shut.absent] at walk
  rcases reserve_one shut.sound with ⟨_, _, exhausted⟩ | ⟨_, _, _, claims⟩
  · rw [exhausted] at walk
    cases walk
    exact List.not_mem_nil accepted
  · exact shut.not_claims claims

variable {session : Session}

/-- What moves without draining keep, interface operations keep. -/
theorem run_keep_interface {motive : Session → Prop}
    (sound : ∀ session, motive session → session.core.allocator.Sound)
    (kept : ∀ session next, Move true false session next → motive session → motive next)
    (initial : motive session) {operations : List StoreOp}
    (offered : ∀ operation ∈ operations, operation.inInterface = true) :
    motive (runFrom step session operations) := by
  induction operations generalizing session with
  | nil => exact initial
  | cons operation operations ih =>
    have never : ∀ max zeroing, operation ≠ .drainReclaim max zeroing := by
      rintro max zeroing rfl
      have listed := offered _ (.head _)
      cases listed
    refine ih ?_ fun later member => offered later (.tail _ member)
    exact (step_moves (sound session initial) operation (.inl rfl) (.inr never)).keep kept initial

/-- Once every slot was handed out, interface operations cannot make room. -/
theorem Shut.not_reusable (shut : Shut key session.core) :
    ¬ Reusable session key := by
  rintro ⟨continuation, offered, accepts⟩
  refine Shut.not_accepts ?_ accepts
  exact run_keep_interface (motive := fun reached => Shut key reached.core)
    (fun _ holds => holds.sound) (fun _ _ move => move.shut) shut
    fun operation member => (offered operation member).1

/-! ## Room to grow -/

/-- Every segment file can be brought to its size. -/
def Growable (media : Media) (fileBytes : Nat) : Prop :=
  ∀ path, (materialiseSegmentFile media path fileBytes none).1 = .ok ()

variable {media : Media} {fileBytes : Nat}

/-- A file can be brought to its size unless it is too large or was built for
another geometry. -/
theorem materialise_ok_iff {path : SegmentPath} :
    (materialiseSegmentFile media path fileBytes none).1 = .ok () ↔
      fileBytes ≠ 0 ∧ fileBytes % alignment = 0 ∧
        ∀ file, media.segment path = some file →
          file.size ≤ fileBytes ∧ ∀ marked ∈ file.ready, marked = fileBytes := by
  unfold materialiseSegmentFile
  by_cases valid : fileBytes = 0 ∨ fileBytes % alignment ≠ 0
  · rw [if_pos valid]
    refine iff_of_false nofun ?_
    rintro ⟨nonzero, aligned, _⟩
    rcases valid with zero | unaligned
    · exact nonzero zero
    · exact unaligned aligned
  push Not at valid
  simp only [valid.1, valid.2, ne_eq, not_false_eq_true, true_and]
  cases media.segment path with
  | none => simp
  | some file =>
    simp only [map_some, getD_some, bind_some, some.injEq, forall_eq']
    by_cases large : fileBytes < file.size
    · rw [if_pos large]
      exact iff_of_false nofun fun fits => absurd fits.1 (not_le.mpr large)
    rw [if_neg large]
    by_cases complete : file.ready = some fileBytes ∧ file.size = fileBytes
    · rw [if_pos complete]
      refine iff_of_true rfl ⟨complete.2.le, fun marked member => ?_⟩
      rw [complete.1] at member
      exact (some.inj member).symm
    rw [if_neg complete]
    by_cases other : ∃ marked ∈ file.ready, ¬ marked = fileBytes
    · rw [if_pos other]
      obtain ⟨marked, member, different⟩ := other
      exact iff_of_false nofun fun fits => different (fits.2 marked member)
    · rw [if_neg other]
      push Not at other
      exact iff_of_true rfl ⟨not_lt.mp large, other⟩

/-- Building one file does not stand in the way of the others. -/
theorem Growable.materialise (growable : Growable media fileBytes) (path : SegmentPath) :
    ∃ next, materialiseSegmentFile media path fileBytes none = (.ok (), next) ∧
      Growable next fileBytes := by
  cases made : materialiseSegmentFile media path fileBytes none with
  | mk status next =>
    have ok := growable path
    rw [made] at ok
    subst ok
    refine ⟨next, rfl, fun query => ?_⟩
    obtain ⟨nonzero, aligned, fits⟩ := materialise_ok_iff.mp (growable query)
    refine materialise_ok_iff.mpr ⟨nonzero, aligned, fun file found => ?_⟩
    by_cases here : query = path
    · subst here
      obtain ⟨other, located, full, marked⟩ := fileReady_of_materialise made
      rw [found] at located
      cases located
      refine ⟨full.le, fun recorded member => ?_⟩
      rw [marked] at member
      exact (some.inj member).symm
    · refine fits file ?_
      have elsewhere : next.segment query = media.segment query := by
        have second : next = (materialiseSegmentFile media path fileBytes none).2 := by rw [made]
        rw [second]
        unfold materialiseSegmentFile
        dsimp only
        split_ifs <;> first | rfl | exact Function.update_of_ne here _ _
      rw [← elsewhere]
      exact found

theorem Growable.materialiseGroup (growable : Growable media fileBytes) (paths : List SegmentPath) :
    ∃ next,
      ObjectStoreCore.materialiseGroup fileBytes (fun _ => none) paths media = (.ok (), next) ∧
      Growable next fileBytes := by
  induction paths generalizing media with
  | nil => exact ⟨media, rfl, growable⟩
  | cons path paths ih =>
    obtain ⟨middle, made, growable⟩ := growable.materialise path
    obtain ⟨next, rest, growable⟩ := ih growable
    refine ⟨next, ?_, growable⟩
    rw [ObjectStoreCore.materialiseGroup, made]
    exact rest

/-- Asking for the whole pool as headroom, the target is the whole pool: the
rounding to groups cannot overflow while groups are missing. -/
theorem targetFor_totalSlots (laid : core.WellLaid)
    (short : core.groupSlots < core.allocator.totalSlots) :
    core.targetFor core.allocator.totalSlots = core.allocator.totalSlots := by
  have positive := laid.groupSlots_pos
  have small := laid.totalSlots_small
  have fits : core.allocator.totalSlots + core.groupSlots - 1 < uint64Size := by
    rw [alignment] at small
    omega
  unfold targetFor
  dsimp only
  rw [if_pos (Nat.sub_le _ _), Nat.mod_eq_of_lt fits]
  refine min_eq_left ?_
  have rounded := Nat.div_add_mod (core.allocator.totalSlots + core.groupSlots - 1) core.groupSlots
  have rest := Nat.mod_lt (core.allocator.totalSlots + core.groupSlots - 1) positive
  rw [mul_comm] at rounded
  omega

/-- A writer whose pool can grow, with slots that were never handed out, and a
key that it does not hold. -/
structure Growing (key : ObjectKey) (session : Session) : Prop where
  opened : session.core.opened = true
  writer : session.core.config.readOnly = false
  running : Running session
  growable : Growable session.media session.core.placement.fileBytes
  room : session.core.allocator.highWater < session.core.allocator.totalSlots
  absent : session.core.index.get? key = none

/-- One step of precreation adds a group. -/
theorem Growing.precreateStep (growing : Growing key session)
    (partly : session.core.precreated < session.core.allocator.totalSlots) :
    Growing key (step session
        (.precreateStep session.core.allocator.totalSlots fun _ => none)) ∧
      session.core.precreated < (step session
        (.precreateStep session.core.allocator.totalSlots fun _ => none)).core.precreated := by
  have provisioned := growing.running.provisioned growing.writer
  have first := provisioned.first_le
  have positive := growing.running.laid.groupSlots_pos
  set total := session.core.allocator.totalSlots
  have short : session.core.groupSlots < total := by omega
  have target := targetFor_totalSlots growing.running.laid short
  have running := @Move.running true true _ _ (.precreateStep total fun _ => none) growing.running
  obtain ⟨media, made, growable⟩ := growing.growable.materialiseGroup
    (groupPaths { session.core with
      precreateTarget := total
      precreateBusy := true } session.core.precreated)
  set built := min total (session.core.precreated + session.core.groupSlots)
  have begun : precreateBegin session.core total =
      (.ok (some (session.core.precreated, built)),
        { session.core with
          precreateTarget := total
          precreateBusy := true }) := by
    unfold precreateBegin
    rw [target, if_neg (Bool.not_eq_false _ ▸ growing.opened), if_neg (Bool.eq_false_iff.mp
      growing.writer), if_neg]
    rintro (busy | enough)
    · rw [provisioned.idle] at busy
      cases busy
    · omega
  have stepped : (ObjectStoreCore.precreateStep session total fun _ => none).2 =
      ⟨{ session.core with
        precreateTarget := total
        precreateBusy := false
        precreated := built
        allocator := session.core.allocator.setReadyLimit built }, media⟩ := by
    rw [ObjectStoreCore.precreateStep, begun]
    dsimp only
    rw [made]
    rfl
  rw [step]
  rw [stepped] at running ⊢
  refine ⟨{ growing with running, growable }, ?_⟩
  dsimp only
  omega

/-- A key for which there is a slot is accepted. -/
theorem Growing.accepts (growing : Growing key session)
    (valid : key ≠ [] ∧ key.length ≤ maxKeyBytes) (ready : session.core.allocator.highWater <
      min session.core.allocator.totalSlots session.core.allocator.readyLimit) :
    session.core.Accepts key := by
  have admissible : ¬ (key = [] ∨ maxKeyBytes < key.length) := by
    rintro (empty | long)
    · exact valid.1 empty
    · exact absurd valid.2 (not_le.mpr long)
  have reserved : session.core.reserve [key] = (.ok (reserveKeys [key] {} session.core).1,
      (reserveKeys [key] {} session.core).2) := by
    rw [reserve, if_neg (Bool.eq_false_iff.mp growing.writer),
      if_neg (Bool.not_eq_false _ ▸ growing.opened)]
  refine ⟨_, _, reserved, ?_⟩
  rw [reserveKeys, if_neg admissible, growing.absent]
  rcases reserve_one growing.running.sound with
    ⟨_, exhausted, _⟩ | ⟨slot, next, granted, _⟩
  · omega
  · rw [granted]
    exact List.mem_append_right _ (List.mem_singleton_self key)

/-- A store that accepts a key is a writer. -/
theorem Reusable.writer (reusable : Reusable session key) (sound : session.core.allocator.Sound) :
    session.core.config.readOnly = false := by
  obtain ⟨continuation, _, _, _, reserved, _⟩ := reusable
  by_contra reader
  have reader := Bool.eq_true_of_not_eq_false reader
  rw [← (sameStore_run sound continuation).config] at reader
  rw [reserve, if_pos reader] at reserved
  cases reserved

/-- A writer with slots that were never handed out can make room. -/
theorem Growing.reusable (growing : Growing key session)
    (valid : key ≠ [] ∧ key.length ≤ maxKeyBytes) : Reusable session key := by
  -- Induction on the number of slots that are still to be precreated.
  induction missing : session.core.allocator.totalSlots - session.core.precreated
      using Nat.strong_induction_on generalizing session with
  | _ missing ih =>
    by_cases partly : session.core.precreated < session.core.allocator.totalSlots
    · obtain ⟨next, further⟩ := growing.precreateStep partly
      have same := (@Move.precreateStep true true session session.core.allocator.totalSlots
        fun _ => none).sameStore.totalSlots
      obtain ⟨continuation, offered, accepts⟩ := ih _ (by
        rw [step] at further ⊢
        omega) next rfl
      refine ⟨_ :: continuation, ?_, accepts⟩
      rw [List.forall_mem_cons]
      exact ⟨⟨rfl, fun _ => rfl⟩, offered⟩
    · refine ⟨[], fun _ member => (List.not_mem_nil member).elim, ?_⟩
      have limit := (growing.running.provisioned growing.writer).limit
      have room := growing.room
      refine growing.accepts valid ?_
      omega

/-! ## When space is reusable -/

/-- From a fresh open on, along interface operations, a store whose media
operations succeed can make room for another key exactly if it is a writer and
has a slot that was never handed out. How many keys it holds does not matter. -/
theorem reusable_iff {media : Media} {config : StoreConfig} {faults : OpenFaults}
    {session : Session} (ok : openStore ⟨fresh, media⟩ config faults = (.ok (), session))
    {operations : List StoreOp} (offered : ∀ operation ∈ operations, operation.inInterface = true)
    {key : ObjectKey} (valid : key ≠ [] ∧ key.length ≤ maxKeyBytes)
    (absent : (runFrom step session operations).core.index.get? key = none)
    (growable : Growable (runFrom step session operations).media
      (runFrom step session operations).core.placement.fileBytes) :
    Reusable (runFrom step session operations) key ↔
      (runFrom step session operations).core.config.readOnly = false ∧
        (runFrom step session operations).core.allocator.highWater <
          (runFrom step session operations).core.allocator.totalSlots := by
  have opened := freshOpen ok
  have running := (running_of_open ok).run operations
  have same := sameStore_run opened.sound operations
  have unrecycled := run_keep_interface (motive := fun reached => reached.core.Unrecycled)
    (fun _ holds => holds.sound) (fun _ _ move => move.unrecycled)
    ⟨opened.sound, opened.freeList⟩ offered
  constructor
  · intro reusable
    refine ⟨reusable.writer running.sound, ?_⟩
    by_contra full
    exact Shut.not_reusable ⟨unrecycled, not_lt.mp full, absent⟩ reusable
  · rintro ⟨writer, room⟩
    have growing : Growing key (runFrom step session operations) :=
      ⟨same.opened.trans opened.opened, writer, running, growable, room, absent⟩
    exact growing.reusable valid

theorem growable_pair : Growable pairSession.media 16384 := by
  intro path
  refine materialise_ok_iff.mpr ⟨by decide, by decide, fun file found => ?_⟩
  unfold pairSession Media.setSegment at found
  dsimp only at found
  by_cases here : path = segmentPath "/mnt" 0 0
  · rw [here] at found
    cases found
    exact ⟨le_rfl, fun marked member => (some.inj member).symm⟩
  · rw [Function.update_of_ne here] at found
    cases found

theorem reusable_iff_pair :
    openStore ⟨fresh, .blank⟩ pairConfig {} = (.ok (), pairSession) ∧
      (Reusable (runFrom step pairSession [.reserve [[1]]]) [2] ↔
        (runFrom step pairSession [.reserve [[1]]]).core.config.readOnly = false ∧
          (runFrom step pairSession [.reserve [[1]]]).core.allocator.highWater <
            (runFrom step pairSession [.reserve [[1]]]).core.allocator.totalSlots) :=
  ⟨openStore_pair, reusable_iff openStore_pair (by decide) (by decide) (by decide +kernel)
    growable_pair⟩

/-- Two keys are stored and released again. -/
def storeAndRelease : List StoreOp :=
  [.reserve [[1], [2]], .commit [([1], .done), ([2], .done)], .release [[1], [2]]]

/-- The store is then empty, nothing is pinned and every slot is ready, and yet
no interface operations can make room for another key. -/
theorem storeAndRelease_full :
    (∀ operation ∈ storeAndRelease, operation.inInterface = true) ∧
      (runFrom step pairSession storeAndRelease).core.index.keys = [] ∧
      (∀ key, (runFrom step pairSession storeAndRelease).core.pins key = 0) ∧
      (runFrom step pairSession storeAndRelease).core.readySlots = 2 ∧
      ¬ Reusable (runFrom step pairSession storeAndRelease) [3] := by
  have offered : ∀ operation ∈ storeAndRelease, operation.inInterface = true := by decide
  have opened := freshOpen openStore_pair
  have unrecycled := run_keep_interface (motive := fun reached => reached.core.Unrecycled)
    (fun _ holds => holds.sound) (fun _ _ move => move.unrecycled)
    ⟨opened.sound, opened.freeList⟩ offered
  refine ⟨offered, by decide +kernel, fun _ => rfl, by decide +kernel, ?_⟩
  exact Shut.not_reusable ⟨unrecycled, by decide +kernel, by decide +kernel⟩

end ObjectStoreCore

end Tutti
