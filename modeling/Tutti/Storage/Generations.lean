import Tutti.Storage.Durability

/-!
# Generations over restarts

Within one life of a store a slot and its generation name one occupancy: the
generation is bumped when the slot is reclaimed. `open` sets every generation
back to zero, so a restart after a slot was reclaimed hands the same pair out
again. The pairs stay unique exactly as long as no slot was reclaimed before a
restart.
-/

namespace Tutti

open Foundation List
open OrderedDict hiding keys

namespace ObjectStoreCore

/-! ## Lives of a store -/

/-- What happens to a slot: a key reserves it with a generation, or its reclaim
completes. -/
inductive SlotEvent where
  | granted (slot generation : Nat)
  | reclaimed (slot : Nat)
  deriving DecidableEq, Repr

/-- A store on its media, and what happened to the slots over all its lives, the
latest event first. -/
structure Life where
  session : Session
  history : List SlotEvent

inductive LifeOp where
  | store (operation : StoreOp)
  | close (outcome : WriteOutcome)
  /-- The object is gone and a new one opens on the media. -/
  | restart (faults : OpenFaults)

/-- The events of one operation: `reserve` grants the slots of the keys that were
not in the index, and `drain_reclaim` completes the reclaim of the slots it
zeroed. -/
def slotEvents (session : Session) : StoreOp → List SlotEvent
  | .reserve keys =>
    ((step session (.reserve keys)).core.index.entries.filter fun pair =>
      pair.1 ∉ session.core.index).map fun pair => .granted pair.2.slot pair.2.generation
  | .drainReclaim max zeroing => (drained session max zeroing).map .reclaimed
  | _ => []

/-- A new object on the media; one that fails to open is dropped. -/
def reborn (config : StoreConfig) (media : Media) (faults : OpenFaults) : Session :=
  match openStore ⟨fresh, media⟩ config faults with
  | (.ok (), session) => session
  | (.error _, failed) => ⟨fresh, failed.media⟩

def Life.step (config : StoreConfig) (life : Life) : LifeOp → Life
  | .store operation =>
    ⟨ObjectStoreCore.step life.session operation,
      slotEvents life.session operation ++ life.history⟩
  | .close outcome => ⟨(ObjectStoreCore.close life.session outcome).2, life.history⟩
  | .restart faults => ⟨reborn config life.session.media faults, life.history⟩

/-- A slot and a generation name one occupancy: no slot is granted twice with one
generation and a completed reclaim in between, and an open store finds a
committed key under the generation that its slot has. -/
structure Life.Identified (life : Life) : Prop where
  once : ∀ slot generation, ¬ [SlotEvent.granted slot generation, .reclaimed slot,
    .granted slot generation].Sublist life.history
  current : life.session.core.opened = true → ∀ key placement,
    life.session.core.lookup key = .ok placement →
      placement.generation = life.session.core.slotGeneration placement.slot

/-- A new object of the configuration, as far as it matters for the containers. -/
def lookingAt (config : StoreConfig) (media : Media) : Session :=
  ⟨{ fresh with
    config
    containerBytes := checkpointContainerBytes
      (capacityOf config (slotSize config) / slotSize config) maxKeyBytes }, media⟩

/-- The entries of the checkpoint that a new object selects on the media. -/
def storedIn (config : StoreConfig) (media : Media) : List CheckpointEntry :=
  storedEntries (lookingAt config media)

/-- No restart follows the reclaim of a slot, in this life or, as far as the
checkpoint tells, in an earlier one; and no generation wraps. -/
def Life.Unrecycled (config : StoreConfig) (life : Life) : LifeOp → Prop
  | .restart _ => (∀ slot, life.session.core.allocator.generations slot = 0) ∧
      ∀ stored ∈ storedIn config life.session.media, stored.generation = 0
  | .store (.drainReclaim _ _) =>
    ∀ slot, life.session.core.allocator.generations slot + 1 < uint64Size
  | _ => True

/-! ## Within one life -/

/-- Every key has the generation of its slot. -/
structure Dated (core : ObjectStoreCore) : Prop where
  owned : core.Owned
  generation : ∀ key entry, core.index.get? key = some entry →
    entry.generation = core.allocator.generations entry.slot

variable {session : Session}

theorem Move.dated {slips drains : Bool} {next : Session} (move : Move slips drains session next)
    (dated : session.core.Dated) : next.core.Dated := by
  -- A slot in use is not reclaimed.
  have kept : ∀ slot, InUse session.core.allocator slot →
      next.core.allocator.generations slot = session.core.allocator.generations slot := by
    intro slot inUse
    rcases move.generations with same | ⟨_, max, zeroing, rfl⟩
    · rw [same]
    have free : slot ∉ drained session max zeroing := fun done =>
      (dated.owned.sound.not_mem_of_held inUse).2.1 (mem_queue_of_mem_drained done)
    rw [(allocator_drainReclaim dated.owned.sound max zeroing slot).2, if_neg free]
  refine ⟨move.owned dated.owned, fun key entry present => ?_⟩
  cases move.origin present with
  | kept before =>
    rw [kept entry.slot (dated.owned.inUse key entry before)]
    exact dated.generation key entry before
  | granted _ _ claims same => rw [same, claims.generations]
  | recorded lands _ =>
    have before := dated.generation key _ lands.reserves.1
    rw [kept _ (dated.owned.inUse key _ lands.reserves.1)]
    exact before

theorem Dated.step (dated : session.core.Dated) (operation : StoreOp) :
    (ObjectStoreCore.step session operation).core.Dated :=
  step_keep (motive := fun session => session.core.Dated) (fun _ dated => dated.owned.sound)
    (fun _ _ move => move.dated) dated operation

/-- An open store finds a key under the generation of its slot. -/
theorem Dated.lookup {core : ObjectStoreCore} (dated : core.Dated) (opened : core.opened = true)
    {key : ObjectKey} {placement : ObjectPlacement} (found : core.lookup key = .ok placement) :
    placement.generation = core.slotGeneration placement.slot := by
  obtain ⟨entry, present, rfl⟩ := placed_of_lookup found
  have inside : ¬ core.allocator.totalSlots ≤ entry.slot :=
    not_le.mpr (dated.owned.lt_totalSlots present)
  have open_ : ¬ (core.opened = false ∨ core.allocator.totalSlots ≤ entry.slot) := by
    rintro (closed | outside)
    · rw [opened] at closed
      cases closed
    · exact inside outside
  dsimp only [placementFor]
  rw [slotGeneration, if_neg open_, SpaceAllocator.generationOf, if_neg inside]
  exact dated.generation key entry present

theorem step_generations (sound : session.core.allocator.Sound) {operation : StoreOp}
    (never : ∀ max zeroing, operation ≠ .drainReclaim max zeroing) :
    (step session operation).core.allocator.generations = session.core.allocator.generations :=
  Moves.keep
    (motive := fun reached => reached.core.allocator.generations =
      session.core.allocator.generations)
    (fun _ _ (move : Move true false _ _) same =>
      (move.generations.resolve_right nofun).trans same)
    (@step_moves true false session sound operation (.inl rfl) (.inr never)) rfl

/-! ## The history -/

/-- A sublist whose first element is not among the newer events lies in the older
ones. -/
theorem sublist_older_of_absent {α : Type*} {first : α} {rest newer older : List α}
    (sublist : (first :: rest).Sublist (newer ++ older)) (absent : first ∉ newer) :
    (first :: rest).Sublist older := by
  obtain ⟨front, back, split, left, right⟩ := sublist_append_iff.mp sublist
  cases front with
  | nil =>
    rw [split]
    exact right
  | cons event front =>
    obtain ⟨same, _⟩ := cons.inj split
    rw [← same] at left
    exact absurd (left.subset (.head _)) absent

/-- A sublist whose second element is not among the newer events lies in the older
ones, but for its first element. -/
theorem sublist_older {α : Type*} {first second : α} {rest newer older : List α}
    (sublist : (first :: second :: rest).Sublist (newer ++ older)) (absent : second ∉ newer) :
    (first :: second :: rest).Sublist older ∨ first ∈ newer ∧ (second :: rest).Sublist older := by
  obtain ⟨front, back, split, left, right⟩ := sublist_append_iff.mp sublist
  match front, split with
  | [], split =>
    rw [split]
    exact .inl right
  | [only], split =>
    obtain ⟨same, tail⟩ := cons.inj split
    rw [tail, same]
    exact .inr ⟨left.subset (.head _), right⟩
  | one :: two :: more, split =>
    obtain ⟨_, tail⟩ := cons.inj split
    obtain ⟨same, _⟩ := cons.inj tail
    refine absurd (left.subset ?_) absent
    rw [same]
    exact mem_cons_of_mem one (.head _)

/-- Every grant is accounted for by the generation of its slot, which passed it at
the first reclaim since. -/
structure Life.Tracked (life : Life) : Prop where
  dated : life.session.core.Dated
  granted_le : ∀ slot generation, .granted slot generation ∈ life.history →
    generation ≤ life.session.core.allocator.generations slot
  reclaimed_lt : ∀ slot generation,
    [SlotEvent.reclaimed slot, .granted slot generation].Sublist life.history →
      generation < life.session.core.allocator.generations slot
  once : ∀ slot generation, ¬ [SlotEvent.granted slot generation, .reclaimed slot,
    .granted slot generation].Sublist life.history

variable {life : Life}

theorem Life.Tracked.identified (tracked : life.Tracked) : life.Identified :=
  ⟨tracked.once, fun opened _ _ found => tracked.dated.lookup opened found⟩

/-- A step without events that keeps the generations. -/
theorem Life.Tracked.of_quiet {life next : Life} (tracked : life.Tracked)
    (dated : next.session.core.Dated) (history : next.history = life.history)
    (generations : next.session.core.allocator.generations =
      life.session.core.allocator.generations) : next.Tracked := by
  refine ⟨dated, ?_, ?_, ?_⟩
  · rw [history, generations]
    exact tracked.granted_le
  · rw [history, generations]
    exact tracked.reclaimed_lt
  · rw [history]
    exact tracked.once

/-- Slots are granted with the generation they have. -/
theorem Life.Tracked.reserve (tracked : life.Tracked) (keys : List ObjectKey) :
    Life.Tracked ⟨ObjectStoreCore.step life.session (.reserve keys),
      slotEvents life.session (.reserve keys) ++ life.history⟩ := by
  have dated := tracked.dated.step (.reserve keys)
  have generations := step_generations tracked.dated.owned.sound
    (show ∀ max zeroing, StoreOp.reserve keys ≠ .drainReclaim max zeroing from nofun)
  have fresh : ∀ event ∈ slotEvents life.session (.reserve keys), ∃ slot,
      event = .granted slot (life.session.core.allocator.generations slot) := by
    intro event member
    obtain ⟨pair, among, rfl⟩ := mem_map.mp member
    have present := get?_eq_some_iff.mpr (mem_filter.mp among).1
    refine ⟨pair.2.slot, ?_⟩
    rw [dated.generation pair.1 pair.2 present, generations]
  have noReclaim : ∀ slot, .reclaimed slot ∉ slotEvents life.session (.reserve keys) := by
    intro slot member
    obtain ⟨other, same⟩ := fresh _ member
    cases same
  refine ⟨dated, ?_, ?_, ?_⟩
  · intro slot generation member
    rw [generations]
    rcases mem_append.mp member with newer | older
    · obtain ⟨other, same⟩ := fresh _ newer
      cases same
      exact le_rfl
    · exact tracked.granted_le slot generation older
  · intro slot generation sublist
    rw [generations]
    exact tracked.reclaimed_lt slot generation (sublist_older_of_absent sublist (noReclaim slot))
  · intro slot generation sublist
    rcases sublist_older sublist (noReclaim slot) with older | ⟨granted, older⟩
    · exact tracked.once slot generation older
    obtain ⟨other, same⟩ := fresh _ granted
    cases same
    exact lt_irrefl _ (tracked.reclaimed_lt slot _ older)

/-- A completed reclaim passes every grant so far. -/
theorem Life.Tracked.drainReclaim (tracked : life.Tracked) (max : Nat) (zeroing : Nat → ZeroOutcome)
    (room : ∀ slot, life.session.core.allocator.generations slot + 1 < uint64Size) :
    Life.Tracked ⟨ObjectStoreCore.step life.session (.drainReclaim max zeroing),
      slotEvents life.session (.drainReclaim max zeroing) ++ life.history⟩ := by
  have dated := tracked.dated.step (.drainReclaim max zeroing)
  have generations : ∀ slot, (ObjectStoreCore.step life.session
      (.drainReclaim max zeroing)).core.allocator.generations slot =
        if slot ∈ drained life.session max zeroing then
          life.session.core.allocator.generations slot + 1
        else life.session.core.allocator.generations slot := by
    intro slot
    refine (allocator_drainReclaim tracked.dated.owned.sound max zeroing slot).2.trans ?_
    rw [Nat.mod_eq_of_lt (room slot)]
  have grows : ∀ slot, life.session.core.allocator.generations slot ≤
      (ObjectStoreCore.step life.session
        (.drainReclaim max zeroing)).core.allocator.generations slot := by
    intro slot
    rw [generations]
    split
    · exact Nat.le_succ _
    · exact le_rfl
  have noGrant : ∀ slot generation,
      .granted slot generation ∉ slotEvents life.session (.drainReclaim max zeroing) := by
    intro slot generation member
    obtain ⟨_, _, same⟩ := mem_map.mp member
    cases same
  refine ⟨dated, ?_, ?_, ?_⟩
  · intro slot generation member
    have older := (mem_append.mp member).resolve_left (noGrant slot generation)
    exact le_trans (tracked.granted_le slot generation older) (grows slot)
  · intro slot generation sublist
    rcases sublist_older sublist (noGrant slot generation) with before | ⟨here, before⟩
    · exact lt_of_lt_of_le (tracked.reclaimed_lt slot generation before) (grows slot)
    obtain ⟨other, done, same⟩ := mem_map.mp here
    cases same
    have member := tracked.granted_le slot generation (before.subset (.head _))
    rw [generations, if_pos done]
    exact Nat.lt_succ_of_le member
  · intro slot generation sublist
    exact tracked.once slot generation (sublist_older_of_absent sublist (noGrant slot generation))

/-! ## Restarts -/

/-- The size of the checkpoint file that `open` asks for. -/
def regionBytes (config : StoreConfig) : Nat :=
  checkpointContainerBytes (slotTotal config) maxKeyBytes * CheckpointLayout.containerCount %
    uint64Size

/-- The entries of the checkpoint that are left when recovery reads it: a writer
starts a file that is too short anew. -/
def retainedIn (config : StoreConfig) (media : Media) : List CheckpointEntry :=
  if config.readOnly = true ∨ regionBytes config ≤ ((media.checkpoint config.root).getD []).length
  then storedIn config media
  else []

variable {config : StoreConfig} {allocator : SpaceAllocator}

/-- What recovery reads is what the media retain. -/
theorem storedEntries_ensured {checked : Session} {faults : OpenFaults}
    (geometry : GeometryOk session.core config allocator)
    (ensured : ensureCheckpoint ⟨session.core.withGeometry config allocator, session.media⟩
      faults = (.ok (), checked)) :
    storedEntries checked = retainedIn config session.media := by
  obtain ⟨core, _⟩ := ensureCheckpoint_ok ensured
  have total : allocator.totalSlots = slotTotal config := geometry.totalSlots_eq.1
  have size : checked.core.containerBytes = checkpointContainerBytes (slotTotal config)
      maxKeyBytes := by
    rw [core, ← total]
    rfl
  have root : checked.core.config.root = config.root := by
    rw [core]
    rfl
  have same : checked.media.checkpoint = session.media.checkpoint →
      storedEntries checked = storedIn config session.media := by
    intro file
    exact @storedEntries_congr (lookingAt config session.media) checked root size file
  have zeros : ∀ length, checked.media.checkpoint checked.core.config.root =
      some (replicate length 0) → storedEntries checked = [] := by
    intro length file
    rw [storedEntries_eq, mirrorOf, readContainer_of_zeros file, readContainer_of_zeros file]
    rfl
  unfold ensureCheckpoint at ensured
  dsimp only at ensured
  unfold retainedIn
  split at ensured
  · rename_i reader
    cases ensured
    rw [if_pos (.inl reader)]
    exact same rfl
  rename_i writer
  have writer : config.readOnly ≠ true := writer
  unfold ensureMetadataFile at ensured
  split at ensured
  · cases ensured
  split at ensured
  · cases ensured
  split at ensured
  · rename_i long
    cases ensured
    have long : regionBytes config ≤
        ((session.media.checkpoint config.root).getD []).length := by
      rw [regionBytes, ← total]
      exact long
    rw [if_pos (.inr long)]
    exact same rfl
  · rename_i short
    cases ensured
    have short : ¬ regionBytes config ≤
        ((session.media.checkpoint config.root).getD []).length := by
      rw [regionBytes, ← total]
      exact short
    rw [if_neg (not_or.mpr ⟨writer, short⟩)]
    exact zeros _ (Function.update_self _ _ _)

theorem dated_fresh : fresh.Dated :=
  ⟨⟨SpaceAllocator.sound_unconfigured, inverse_fresh, nofun⟩, nofun⟩

/-- A new object starts with all generations zero, as do its keys if those of the
checkpoint are. -/
theorem dated_reborn {media : Media} (faults : OpenFaults)
    (unused : ∀ stored ∈ storedIn config media, stored.generation = 0) :
    (reborn config media faults).core.Dated := by
  unfold reborn
  split
  · rename_i session ok
    have opened := freshOpen ok
    obtain ⟨allocator, checked, adopted, mapped, stages⟩ := openStore_ok rfl ok
    obtain ⟨index, _, _, _, _⟩ := stages.result inverse_fresh
    obtain ⟨core, _⟩ := ensureCheckpoint_ok stages.checkpoint
    refine ⟨opened.owned, fun key entry present => ?_⟩
    rw [opened.generations]
    rw [index] at present
    rcases recoverEntries_origin _ present with before | ⟨stored, member, source⟩
    · rw [core] at before
      cases before
    rw [storedEntries_ensured stages.geometry stages.checkpoint, retainedIn] at member
    rw [← source.generation]
    split at member
    · exact unused stored member
    · cases member
  · exact dated_fresh

theorem Life.Tracked.step (tracked : life.Tracked) {operation : LifeOp}
    (unrecycled : life.Unrecycled config operation) :
    (Life.step config life operation).Tracked := by
  cases operation with
  | store operation =>
    have quiet : slotEvents life.session operation = [] →
        (∀ max zeroing, operation ≠ .drainReclaim max zeroing) →
        (Life.step config life (.store operation)).Tracked := by
      intro silent never
      refine tracked.of_quiet (tracked.dated.step operation) ?_
        (step_generations tracked.dated.owned.sound never)
      dsimp only [Life.step]
      rw [silent, nil_append]
    cases operation with
    | reserve keys => exact tracked.reserve keys
    | drainReclaim max zeroing => exact tracked.drainReclaim max zeroing unrecycled
    | commit keys | abort keys | release keys | pin keys | unpin keys
    | precreateStep headroom faults | checkpoint outcome =>
      exact quiet rfl nofun
  | close outcome =>
    by_cases opened : life.session.core.opened = true
    · obtain ⟨_, _, core, _⟩ := close_core opened outcome
      refine tracked.of_quiet ?_ rfl ?_
      · dsimp only [Life.step]
        rw [core]
        exact ⟨{ tracked.dated.owned with }, tracked.dated.generation⟩
      · dsimp only [Life.step]
        rw [core]
    · rw [Life.step, ObjectStoreCore.close, if_pos (Bool.eq_false_iff.mpr opened)]
      exact tracked
  | restart faults =>
    obtain ⟨unused, stored⟩ := unrecycled
    refine ⟨dated_reborn faults stored, ?_, ?_, tracked.once⟩
    · intro slot generation member
      have bound := tracked.granted_le slot generation member
      rw [unused] at bound
      exact le_trans bound (Nat.zero_le _)
    · intro slot generation sublist
      have bound := tracked.reclaimed_lt slot generation sublist
      rw [unused] at bound
      exact absurd bound (Nat.not_lt_zero _)

/-- Over all lives of a store, a slot and a generation name one occupancy as long
as no restart follows the reclaim of a slot and no generation wraps. -/
theorem identified_of_unrecycled (config : StoreConfig) (media : Media) (operations : List LifeOp)
    (unrecycled : Along (Life.step config) (Life.Unrecycled config) ⟨⟨fresh, media⟩, []⟩
      operations) :
    Always (Life.step config) Life.Identified ⟨⟨fresh, media⟩, []⟩ operations := by
  have start : Life.Tracked ⟨⟨fresh, media⟩, []⟩ := by
    refine ⟨dated_fresh, nofun, ?_, ?_⟩
    · intro slot generation sublist
      cases sublist
    · intro slot generation sublist
      cases sublist
  exact (Along.always (fun _ _ tracked guard => tracked.step guard) start unrecycled).imp
    fun _ tracked => tracked.identified

theorem born_pair : Life.step pairConfig ⟨⟨fresh, .blank⟩, []⟩ (.restart {}) =
    ⟨pairSession, []⟩ := by
  rw [Life.step, reborn, openStore_pair]

/-- A slot is granted, given back, reclaimed and granted again, and its key is
committed. -/
def regranted : List LifeOp :=
  [.store (.reserve [[1]]), .store (.abort [[1]]), .store (.drainReclaim 1 fun _ => .done),
    .store (.reserve [[2]]), .store (.commit [([2], .done)])]

/-- The second grant has the next generation, and the key is found under it. -/
theorem identified_of_unrecycled_pair :
    Along (Life.step pairConfig) (Life.Unrecycled pairConfig) ⟨⟨fresh, .blank⟩, []⟩
        (.restart {} :: regranted) ∧
      (runFrom (Life.step pairConfig) ⟨⟨fresh, .blank⟩, []⟩ (.restart {} :: regranted)).history =
        [.granted 0 1, .reclaimed 0, .granted 0 0] ∧
      ((runFrom (Life.step pairConfig) ⟨⟨fresh, .blank⟩, []⟩
        (.restart {} :: regranted)).session.core.lookup [2]).toOption.map
          ObjectPlacement.generation = some 1 ∧
      Always (Life.step pairConfig) Life.Identified ⟨⟨fresh, .blank⟩, []⟩
        (.restart {} :: regranted) := by
  have along : Along (Life.step pairConfig) (Life.Unrecycled pairConfig) ⟨⟨fresh, .blank⟩, []⟩
      (.restart {} :: regranted) := by
    refine ⟨⟨fun _ => rfl, nofun⟩, ?_⟩
    rw [born_pair]
    exact ⟨trivial, trivial, fun _ => (by decide : 0 + 1 < uint64Size), trivial, trivial, trivial⟩
  refine ⟨along, ?_, ?_, identified_of_unrecycled pairConfig .blank _ along⟩
  · rw [runFrom_cons, born_pair]
    decide +kernel
  · rw [runFrom_cons, born_pair]
    decide +kernel

/-- The pair after its first slot was reserved, aborted and reclaimed. -/
def recycledPair : Session :=
  runFrom step pairSession [.reserve [[1]], .abort [[1]], .drainReclaim 1 fun _ => .done]

theorem openStore_recycledPair :
    openStore ⟨fresh, recycledPair.media⟩ pairConfig {} =
      (.ok (), ⟨pairSession.core, recycledPair.media⟩) := by
  have result := @openStore_zeros pairConfig rfl rfl fresh rfl recycledPair.media rfl _ rfl _ _ rfl
    rfl rfl rfl
  exact result

/-- A slot is granted, reclaimed, and after a restart granted again with the same
generation. -/
theorem recycledPair_repeats :
    ¬ Life.Identified (runFrom (Life.step pairConfig) ⟨⟨fresh, .blank⟩, []⟩
      [.restart {}, .store (.reserve [[1]]), .store (.abort [[1]]),
        .store (.drainReclaim 1 fun _ => .done), .restart {}, .store (.reserve [[2]])]) := by
  have second : reborn pairConfig recycledPair.media {} =
      ⟨pairSession.core, recycledPair.media⟩ := by
    rw [reborn, openStore_recycledPair]
  have lived : Life.step pairConfig (Life.step pairConfig (Life.step pairConfig ⟨pairSession, []⟩
      (.store (.reserve [[1]]))) (.store (.abort [[1]])))
      (.store (.drainReclaim 1 fun _ => .done)) =
      ⟨recycledPair, [.reclaimed 0, .granted 0 0]⟩ := rfl
  intro identified
  refine identified.once 0 0 ?_
  rw [runFrom_cons, born_pair, runFrom_cons, runFrom_cons, runFrom_cons, lived, runFrom_cons,
    Life.step, second]
  rfl

end ObjectStoreCore

end Tutti
