import Tutti.Storage.ResidencyOpen

/-!
# Growing the pool while the store is used

`precreate_step` chooses the next group under the lock, builds its files without
the lock, and publishes the group under the lock again. In between the other
operations go on, and other calls of `precreate_step` come and go. A yard is a
session together with the calls that are building. At most one is, and what lies
below `precreated` is ready.

Recovery claims the slots of the keys it verifies before the ready limit is in
place. If one of them lies in a group that is not published, the slots up to it
are handed out all the same once they have been reclaimed.
-/

namespace Tutti

open Foundation List

namespace ObjectStoreCore

/-! ## Calls that are building -/

/-- A call of `precreate_step` between its two locked regions. -/
structure Build where
  start : Nat
  groupEnd : Nat
  waiting : List SegmentPath
  failed : Bool
  deriving DecidableEq

/-- A session and the calls of `precreate_step` that are building. -/
structure Yard where
  session : Session
  builds : List Build

/-- What the threads of a process may do next. -/
inductive YardOp where
  | store (operation : StoreOp)
  /-- The first locked region of a call of `precreate_step`. -/
  | begin (headroom : Nat)
  /-- A call materialises its next file. -/
  | build (index : Nat) (fault : MaterialiseFault)
  /-- The second locked region. -/
  | finish (index : Nat)

namespace Yard

def begin (yard : Yard) (headroom : Nat) : Yard :=
  match precreateBegin yard.session.core headroom with
  | (.ok (some (start, groupEnd)), core) =>
    ⟨⟨core, yard.session.media⟩,
      yard.builds ++ [⟨start, groupEnd, core.groupPaths start, false⟩]⟩
  | (_, core) => ⟨⟨core, yard.session.media⟩, yard.builds⟩

/-- One round of the loop of `materialise_group`. -/
def build (yard : Yard) (index : Nat) (fault : MaterialiseFault) : Yard :=
  match yard.builds[index]? with
  | none => yard
  | some building =>
    match building.failed, building.waiting with
    | true, _ => yard
    | false, [] => yard
    | false, path :: waiting =>
      match materialiseSegmentFile yard.session.media path
        yard.session.core.placement.fileBytes fault with
      | (.error _, left) =>
        ⟨⟨yard.session.core, left⟩,
          yard.builds.set index { building with failed := true }⟩
      | (.ok (), next) =>
        ⟨⟨yard.session.core, next⟩,
          yard.builds.set index { building with waiting }⟩

/-- A call publishes its group when all files are made, and gives up after a
failure. -/
def finish (yard : Yard) (index : Nat) : Yard :=
  match yard.builds[index]? with
  | none => yard
  | some building =>
    if building.failed = false ∧ building.waiting ≠ [] then yard
    else
      ⟨⟨yard.session.core.precreateFinish (!building.failed) building.groupEnd,
        yard.session.media⟩, yard.builds.eraseIdx index⟩

def step (yard : Yard) : YardOp → Yard
  | .store operation => ⟨ObjectStoreCore.step yard.session operation, yard.builds⟩
  | .begin headroom => yard.begin headroom
  | .build index fault => yard.build index fault
  | .finish index => yard.finish index

/-- At most one group is being built, and what is published is ready. -/
structure Published (yard : Yard) : Prop where
  single : yard.builds.length ≤ 1
  ready : ∀ slot < yard.session.core.precreated, FileReady yard.session.media
    yard.session.core.placement.fileBytes (yard.session.core.headerPath slot)

/-- The pool never shrinks, and `reserve` hands out published slots only. -/
structure HandsOutPublished (yard : Yard) (operation : YardOp) : Prop where
  grows : yard.session.core.precreated ≤ (yard.step operation).session.core.precreated
  assigned : ∀ keys, operation = .store (.reserve keys) → ∀ key entry,
    yard.session.core.index.get? key = none →
    (yard.step operation).session.core.index.get? key = some entry →
    entry.slot < yard.session.core.precreated

end Yard

/-! ## What a group covers -/

/-- Groups are made of one file on each mount. -/
structure Rows (core : ObjectStoreCore) : Prop where
  mountCount : core.mountCount = core.placement.mounts.length
  groupSlots : core.groupSlots = core.placement.slotsPerFile * core.placement.mounts.length

variable {core : ObjectStoreCore}

theorem Rows.of_sameStore {next : ObjectStoreCore} (rows : core.Rows) (same : SameStore core next) :
    next.Rows where
  mountCount := by rw [same.mountCount, same.placement]; exact rows.mountCount
  groupSlots := by rw [same.groupSlots, same.placement]; exact rows.groupSlots

variable {session : Session}

theorem FreshOpen.rows {media : Media} {config : StoreConfig}
    (opened : FreshOpen media config session) : session.core.Rows := by
  have positive : 0 < (placementOf config).slotBytes := by
    rw [← opened.placement]
    exact opened.wellLaid.placement.slotBytes_pos
  refine ⟨?_, ?_⟩
  · rw [opened.mountCount, opened.placement]
    rfl
  have whole : (placementOf config).slotsPerFile = config.segmentFileSlots := by
    unfold FixedSegmentFilePlacement.slotsPerFile
    rw [if_neg (pos_iff_ne_zero.mp positive)]
    exact Nat.mul_div_cancel_left _ positive
  rw [opened.groupSlots, opened.placement, whole]
  rfl

/-- The file of a slot is one of the files of its group. -/
theorem Rows.mem_groupPaths (rows : core.Rows) (laid : core.WellLaid) {slot : Nat}
    (inside : slot < core.allocator.totalSlots) :
    core.headerPath slot ∈ core.groupPaths (slot / core.groupSlots * core.groupSlots) := by
  have mounted := length_pos_of_ne_nil laid.placement.mounts_ne_nil
  have filled := laid.placement.slotsPerFile_pos
  unfold groupPaths headerPath FixedSegmentFilePlacement.pathForSlot
    FixedSegmentFilePlacement.mountForSlot FixedSegmentFilePlacement.fileForSlot
  rw [Nat.mul_div_cancel _ laid.groupSlots_pos, rows.groupSlots, rows.mountCount]
  generalize core.placement.mounts.length = mountCount at mounted ⊢
  generalize core.placement.slotsPerFile = slotsPerFile at filled ⊢
  have device := Nat.mod_lt slot mounted
  have before := Nat.div_mul_le_self (slot / mountCount) slotsPerFile
  have low : slot / mountCount / slotsPerFile * slotsPerFile * mountCount + slot % mountCount ≤
      slot := by
    calc _ ≤ slot / mountCount * mountCount + slot % mountCount :=
          Nat.add_le_add_right (Nat.mul_le_mul_right _ before) _
      _ = slot := Nat.div_add_mod' slot _
  rw [mul_comm slotsPerFile, ← Nat.div_div_eq_div_mul, mul_comm mountCount, ← mul_assoc]
  refine mem_map.mpr ⟨slot % mountCount, ?_, ?_⟩
  · rw [mem_filter, mem_range, decide_eq_true_iff]
    exact ⟨device, lt_of_le_of_lt low inside⟩
  rw [Nat.mul_add_mod_self_right, Nat.mod_mod, mul_comm _ mountCount,
    Nat.mul_add_div mounted, Nat.div_eq_of_lt device, Nat.add_zero, Nat.mul_div_cancel _ filled]

/-! ## What every step keeps -/

/-- A second call finds the store busy and only sets the target. -/
theorem precreateBegin_busy (busy : core.precreateBusy = true) (headroom : Nat) :
    ∃ result target, precreateBegin core headroom =
      (result, { core with precreateTarget := target }) ∧ ∀ group, result ≠ .ok (some group) := by
  unfold precreateBegin
  split
  · exact ⟨_, _, rfl, nofun⟩
  split
  · exact ⟨_, _, rfl, nofun⟩
  · rw [if_pos (.inl busy)]
    exact ⟨_, _, rfl, nofun⟩

theorem precreateStep_busy (busy : session.core.precreateBusy = true) (headroom : Nat)
    (faults : SegmentPath → MaterialiseFault) :
    ∃ target, (precreateStep session headroom faults).2 =
      ⟨{ session.core with precreateTarget := target }, session.media⟩ := by
  obtain ⟨result, target, begun, none⟩ := precreateBegin_busy busy headroom
  refine ⟨target, ?_⟩
  rw [precreateStep, begun]
  rcases result with _ | _ | group
  · rfl
  · rfl
  · exact absurd rfl (none group)

/-- The session with no call of `precreate_step` building. -/
def atRest (session : Session) : Session :=
  ⟨{ session.core with precreateBusy := false }, session.media⟩

/-- A new target changes nothing that matters. -/
theorem undisturbed_target (session : Session) (target : Nat) :
    Undisturbed session ⟨{ session.core with precreateTarget := target }, session.media⟩ :=
  .of_extent ⟨rfl, rfl, rfl, rfl, rfl, rfl, rfl, rfl, rfl, rfl⟩ rfl rfl (.refl _) (.refl _ _)

/-- A call builds the first group that is not published. A file of the group is
still waiting or ready, unless the call has failed. -/
structure Build.OnSite (session : Session) (build : Build) : Prop where
  start_eq : build.start = session.core.precreated
  room : session.core.precreated < session.core.allocator.totalSlots
  groupEnd_eq : build.groupEnd = min session.core.allocator.totalSlots
    (session.core.precreated + session.core.groupSlots)
  made : build.failed = false → ∀ path ∈ session.core.groupPaths session.core.precreated,
    path ∈ build.waiting ∨ FileReady session.media session.core.placement.fileBytes path

theorem Build.OnSite.of_undisturbed {next : Session} {build : Build} (onSite : build.OnSite session)
    (calm : Undisturbed session next) : build.OnSite next where
  start_eq := by rw [calm.precreated]; exact onSite.start_eq
  room := by rw [calm.precreated, calm.same.totalSlots]; exact onSite.room
  groupEnd_eq := by
    rw [calm.precreated, calm.same.totalSlots, calm.same.groupSlots]
    exact onSite.groupEnd_eq
  made := by
    intro going path member
    unfold groupPaths at member
    rw [calm.precreated, calm.same.groupSlots, calm.same.mountCount, calm.same.totalSlots,
      calm.same.placement] at member
    rw [calm.same.placement]
    exact (onSite.made going path member).imp_right (calm.kept path)

/-- What is kept while the pool grows. Slots at or above `precreated` are in use
only below the bound that recovery has set. -/
structure Yard.Steady (bound : Nat) (yard : Yard) : Prop where
  laid : yard.session.core.WellLaid
  rows : yard.session.core.Rows
  owned : yard.session.core.Owned
  pool : Provisioned (atRest yard.session)
  frontier : yard.session.core.allocator.highWater ≤ max bound yard.session.core.precreated
  site : yard.builds = [] ∧ yard.session.core.precreateBusy = false ∨
    ∃ build, yard.builds = [build] ∧ yard.session.core.precreateBusy = true ∧
      build.OnSite yard.session

theorem Provisioned.rest (provisioned : Provisioned session) :
    Provisioned (atRest session) :=
  { provisioned with idle := rfl }

section Steps

variable {bound : Nat} {yard : Yard} {session : Session} {builds : List Build}

/-- A step that leaves the pool alone. -/
theorem Yard.Steady.of_undisturbed {next : Session} (steady : Steady bound ⟨session, builds⟩)
    (calm : Undisturbed session next) (owned : next.core.Owned) : Steady bound ⟨next, builds⟩ where
  laid := steady.laid.of_sameStore calm.same
  rows := steady.rows.of_sameStore calm.same
  owned
  pool := steady.pool.of_same { calm.same with } rfl calm.precreated calm.limit calm.kept
  frontier := by
    have limit : session.core.allocator.readyLimit = session.core.precreated := steady.pool.limit
    have below : session.core.allocator.highWater ≤ max bound session.core.precreated :=
      steady.frontier
    rw [calm.precreated]
    exact calm.highWater.trans (max_le below (limit.le.trans (le_max_right _ _)))
  site := by
    rcases steady.site with ⟨none, idle⟩ | ⟨build, one, busy, onSite⟩
    · exact .inl ⟨none, calm.busy.trans idle⟩
    · exact .inr ⟨build, one, calm.busy.trans busy, onSite.of_undisturbed calm⟩

/-- An undisturbed call of `precreate_step`. -/
theorem Yard.Steady.precreateStep (steady : Steady bound ⟨session, builds⟩) (headroom : Nat)
    (faults : SegmentPath → MaterialiseFault)
    (owned : (ObjectStoreCore.precreateStep session headroom faults).2.core.Owned) :
    Steady bound ⟨(ObjectStoreCore.precreateStep session headroom faults).2, builds⟩ ∧
      session.core.precreated ≤
        (ObjectStoreCore.precreateStep session headroom faults).2.core.precreated := by
  rcases steady.site with ⟨none, idle⟩ | ⟨build, one, busy, onSite⟩
  · have pool : Provisioned session := { steady.pool with idle }
    have provisioned := pool.precreateStep headroom faults
    have same := (@Move.precreateStep true true session headroom faults).sameStore
    obtain ⟨target, outcome, _⟩ := precreateStep_cases idle headroom faults
    generalize (ObjectStoreCore.precreateStep session headroom faults).2 = next at *
    have grown : session.core.precreated ≤ next.core.precreated ∧
        next.core.allocator.highWater = session.core.allocator.highWater := by
      rcases outcome with same | ⟨room, _, same⟩
      · rw [same]
        exact ⟨le_rfl, rfl⟩
      · rw [same]
        exact ⟨le_min room.le (Nat.le_add_right _ _), rfl⟩
    refine ⟨⟨steady.laid.of_sameStore same, steady.rows.of_sameStore same, owned, provisioned.rest,
      ?_, .inl ⟨none, provisioned.idle⟩⟩, grown.1⟩
    have frontier : session.core.allocator.highWater ≤ max bound session.core.precreated :=
      steady.frontier
    rw [grown.2]
    exact frontier.trans (max_le_max_left _ grown.1)
  · obtain ⟨target, result⟩ := precreateStep_busy busy headroom faults
    rw [result] at owned ⊢
    exact ⟨steady.of_undisturbed (undisturbed_target session target) owned, le_rfl⟩

/-- Every operation of the store keeps the yard steady. -/
theorem Yard.Steady.store (steady : yard.Steady bound) (operation : StoreOp) :
    (yard.step (.store operation)).Steady bound ∧
      yard.session.core.precreated ≤ (yard.step (.store operation)).session.core.precreated := by
  refine step_keep (motive := fun next => Steady bound ⟨next, yard.builds⟩ ∧
    yard.session.core.precreated ≤ next.core.precreated) (fun _ kept => kept.1.owned.sound) ?_
    ⟨steady, le_rfl⟩ operation
  rintro session next move ⟨steady, grown⟩
  have owned := move.owned steady.owned
  rcases move.undisturbed steady.laid with calm | ⟨headroom, faults, rfl⟩
  · exact ⟨steady.of_undisturbed calm owned, grown.trans calm.precreated.ge⟩
  · obtain ⟨kept, further⟩ := steady.precreateStep headroom faults owned
    exact ⟨kept, grown.trans further⟩

theorem Yard.Steady.begin (steady : yard.Steady bound) (headroom : Nat) :
    (yard.begin headroom).Steady bound ∧
      yard.session.core.precreated ≤ (yard.begin headroom).session.core.precreated := by
  obtain ⟨session, builds⟩ := yard
  have untouched : ∀ target, Steady bound ⟨⟨{ session.core with precreateTarget := target },
      session.media⟩, builds⟩ := fun target =>
    steady.of_undisturbed (undisturbed_target session target)
      (Grown.owned ⟨target, _, _, session.core.allocator.readyLimit, rfl⟩ steady.owned)
  unfold Yard.begin
  rcases steady.site with ⟨none, idle⟩ | ⟨build, one, busy, onSite⟩
  · rcases precreateBegin_cases session.core headroom with
      ⟨error, begun⟩ | ⟨target, begun⟩ | ⟨room, begun⟩
    · rw [begun]
      exact ⟨steady, le_rfl⟩
    · rw [begun]
      exact ⟨untouched target, le_rfl⟩
    rw [begun]
    have grown := grown_precreateBegin session.core headroom
    rw [begun] at grown
    refine ⟨⟨steady.laid.of_sameStore grown.sameStore, steady.rows.of_sameStore grown.sameStore,
      grown.owned steady.owned, (untouched (session.core.targetFor headroom)).pool,
      steady.frontier, .inr ⟨⟨session.core.precreated, _, session.core.groupPaths
        session.core.precreated, false⟩, ?_, rfl, rfl, room, rfl, fun _ _ member =>
        .inl member⟩⟩, le_rfl⟩
    rw [none]
    rfl
  · obtain ⟨result, target, begun, never⟩ := precreateBegin_busy busy headroom
    rw [begun]
    match result with
    | .error _ => exact ⟨untouched target, le_rfl⟩
    | .ok Option.none => exact ⟨untouched target, le_rfl⟩
    | .ok (some group) => exact absurd rfl (never group)

/-- The calls that are building, at most one, have a new state. -/
theorem Yard.Steady.of_onSite {build : Build} (steady : Steady bound ⟨session, builds⟩)
    (busy : session.core.precreateBusy = true) (onSite : build.OnSite session) :
    Steady bound ⟨session, [build]⟩ :=
  { steady with site := .inr ⟨build, rfl, busy, onSite⟩ }

theorem Yard.Steady.build (steady : yard.Steady bound) (index : Nat)
    (fault : MaterialiseFault) : (yard.build index fault).Steady bound ∧
      yard.session.core.precreated ≤ (yard.build index fault).session.core.precreated := by
  obtain ⟨session, builds⟩ := yard
  unfold Yard.build
  rcases steady.site with ⟨none, idle⟩ | ⟨build, one, busy, onSite⟩
  · subst none
    exact ⟨steady, le_rfl⟩
  subst one
  cases index with
  | succ index => exact ⟨steady, le_rfl⟩
  | zero =>
    dsimp only [getElem?_cons_zero]
    split
    · exact ⟨steady, le_rfl⟩
    · exact ⟨steady, le_rfl⟩
    rename_i path waiting going rest
    have calm : Undisturbed session ⟨session.core, (materialiseSegmentFile session.media path
        session.core.placement.fileBytes fault).2⟩ :=
      .of_extent (.refl _) rfl rfl (.refl _) (built_materialiseSegmentFile _ _ _ _).keepsReady
    have kept := steady.of_undisturbed calm steady.owned
    have carried := onSite.of_undisturbed calm
    split
    · rename_i made
      rw [made] at kept carried
      exact ⟨kept.of_onSite busy { carried with made := nofun }, le_rfl⟩
    rename_i next made
    rw [made] at kept carried
    refine ⟨kept.of_onSite busy { carried with made := fun _ query member => ?_ }, le_rfl⟩
    rcases carried.made going query member with waits | ready
    · rw [rest] at waits
      rcases mem_cons.mp waits with rfl | later
      · exact .inr (fileReady_of_materialise made)
      · exact .inl later
    · exact .inr ready

/-- Publishing a group whose files are all ready. -/
theorem Provisioned.publish (pool : Provisioned (atRest session))
    (room : session.core.precreated < session.core.allocator.totalSlots)
    (made : GroupReady session session.core.precreated) :
    Provisioned ⟨session.core.precreateFinish true (min session.core.allocator.totalSlots
      (session.core.precreated + session.core.groupSlots)), session.media⟩ := by
  obtain ⟨groups, positive, built, below⟩ := pool.groups
  have built : session.core.precreated =
      min session.core.allocator.totalSlots (groups * session.core.groupSlots) := built
  have here : session.core.precreated = groups * session.core.groupSlots := by omega
  refine ⟨rfl, rfl, groups + 1, by omega, ?_, fun group inside => ?_⟩
  · rw [here, Nat.succ_mul]
    rfl
  · rcases Nat.lt_succ_iff_lt_or_eq.mp inside with earlier | rfl
    · exact below group earlier
    · rw [here] at made room
      exact ⟨room, made⟩

theorem Yard.Steady.finish (steady : yard.Steady bound) (index : Nat) :
    (yard.finish index).Steady bound ∧
      yard.session.core.precreated ≤ (yard.finish index).session.core.precreated := by
  obtain ⟨session, builds⟩ := yard
  unfold Yard.finish
  rcases steady.site with ⟨none, idle⟩ | ⟨build, one, busy, onSite⟩
  · subst none
    exact ⟨steady, le_rfl⟩
  subst one
  cases index with
  | succ index => exact ⟨steady, le_rfl⟩
  | zero =>
    dsimp only [getElem?_cons_zero]
    split
    · exact ⟨steady, le_rfl⟩
    rename_i ended
    have grown := (Grown.refl session.core).finish (!build.failed) build.groupEnd
    have laid := steady.laid.of_sameStore grown.sameStore
    have rows := steady.rows.of_sameStore grown.sameStore
    have owned := grown.owned steady.owned
    cases failed : build.failed with
    | true =>
      rw [failed] at laid rows owned
      exact ⟨⟨laid, rows, owned, steady.pool, steady.frontier, .inl ⟨rfl, rfl⟩⟩, le_rfl⟩
    | false =>
      have done : build.waiting = [] := by
        by_contra waits
        exact ended ⟨failed, waits⟩
      have made : GroupReady session session.core.precreated := by
        intro path member
        rcases onSite.made failed path member with waits | ready
        · rw [done] at waits
          cases waits
        · exact ready
      have published := steady.pool.publish onSite.room made
      rw [failed, onSite.groupEnd_eq] at laid rows owned
      rw [onSite.groupEnd_eq]
      have further : session.core.precreated ≤ min session.core.allocator.totalSlots
          (session.core.precreated + session.core.groupSlots) :=
        le_min onSite.room.le (Nat.le_add_right _ _)
      exact ⟨⟨laid, rows, owned, published.rest,
        steady.frontier.trans (max_le_max_left _ further), .inl ⟨rfl, rfl⟩⟩, further⟩

theorem Yard.Steady.step (steady : yard.Steady bound) (operation : YardOp) :
    (yard.step operation).Steady bound ∧
      yard.session.core.precreated ≤ (yard.step operation).session.core.precreated := by
  cases operation with
  | store operation => exact steady.store operation
  | begin headroom => exact steady.begin headroom
  | build index fault => exact steady.build index fault
  | finish index => exact steady.finish index

/-- Every slot that a key holds is published, or below the bound. -/
theorem Yard.Steady.slot_lt (steady : yard.Steady bound) {key : ObjectKey} {entry : Entry}
    (present : yard.session.core.index.get? key = some entry) :
    entry.slot < max bound yard.session.core.precreated := by
  have used : yard.session.core.allocator.states entry.slot ≠ .free := by
    intro free
    rcases steady.owned.inUse key entry present with reserved | committed
    · rw [free] at reserved
      cases reserved
    · rw [free] at committed
      cases committed
  exact lt_of_lt_of_le (steady.owned.sound.lt_highWater used) steady.frontier

theorem Yard.Steady.published (steady : yard.Steady bound) : yard.Published := by
  refine ⟨?_, fun slot inside => ?_⟩
  · rcases steady.site with ⟨none, _⟩ | ⟨build, one, _⟩
    · rw [none]
      exact Nat.zero_le 1
    · rw [one]
      exact le_rfl
  · obtain ⟨groups, _, built, below⟩ := steady.pool.groups
    have built : yard.session.core.precreated = min yard.session.core.allocator.totalSlots
        (groups * yard.session.core.groupSlots) := built
    rw [built] at inside
    have group : slot / yard.session.core.groupSlots < groups :=
      Nat.div_lt_of_lt_mul (mul_comm groups _ ▸ lt_of_lt_of_le inside (min_le_right _ _))
    exact (below _ group).2 _ (steady.rows.mem_groupPaths steady.laid
      (lt_of_lt_of_le inside (min_le_left _ _)))

/-- If recovery has set no bound, `reserve` hands out published slots only. -/
theorem Yard.Steady.handsOut (steady : yard.Steady 0) (operation : YardOp) :
    yard.HandsOutPublished operation := by
  obtain ⟨next, grows⟩ := steady.step operation
  refine ⟨grows, ?_⟩
  rintro keys rfl key entry _ present
  have below := next.slot_lt present
  have same : (yard.step (.store (.reserve keys))).session.core.precreated =
      yard.session.core.precreated :=
    @reserve_induct _ keys (fun reached => reached.precreated = yard.session.core.precreated)
      (fun _ _ _ _ _ _ same => same) (fun _ _ same => same) rfl
  rw [same] at below
  exact below

end Steps

/-! ## From open on -/

section Open

variable {media : Media} {config : StoreConfig} {faults : OpenFaults} {session : Session}

/-- Every slot that recovery verifies lies in the first group, or in a group that
`open` will adopt: its files and those of all groups before it are ready. -/
def RecoversPublished (config : StoreConfig) (media : Media) : Prop :=
  ∀ slot ∈ verifiedSlots config media, slot < (surveyor config).groupSlots ∨
    ∀ group ≤ slot / (surveyor config).groupSlots,
      GroupReady ⟨surveyor config, media⟩ (group * (surveyor config).groupSlots)

section

variable (ok : openStore ⟨fresh, media⟩ config faults = (.ok (), session))
include ok

section

variable (writer : config.readOnly = false)
include writer

/-- What a new writer publishes follows from the files on the media. -/
theorem precreated_of_open :
    ∃ adopted, AdoptedGroups ⟨surveyor config, media⟩ adopted ∧
      session.core.precreated =
        min (slotTotal config) (max adopted 1 * (surveyor config).groupSlots) := by
  obtain ⟨allocator, checked, adopted, mapped, stages⟩ := openStore_ok rfl ok
  have same := sameGroups_surveyor stages.geometry stages.checkpoint
  obtain ⟨counted, found, precreated, _⟩ := @Stages.adoptedGroups _ _ _ _ _ _ _ _ stages
    inverse_fresh writer rfl _ same 0 (by rw [Nat.zero_mul, min_zero]; rfl)
    fun _ inside => absurd inside (Nat.not_lt_zero _)
  exact ⟨counted, found, precreated⟩

omit writer in
omit ok in
/-- A group whose predecessors are ready too is adopted. -/
theorem AdoptedGroups.lt_of_ready {found : Session} {adopted group : Nat}
    (counted : AdoptedGroups found adopted)
    (inside : group * found.core.groupSlots < found.core.allocator.totalSlots)
    (ready : ∀ earlier ≤ group, GroupReady found (earlier * found.core.groupSlots)) :
    group < adopted := by
  by_contra beyond
  have beyond := not_lt.mp beyond
  have scaled := Nat.mul_le_mul_right found.core.groupSlots beyond
  rcases counted.stopped with complete | missing
  · omega
  · exact missing (ready adopted beyond)

/-- Right after `open` the slots in use are published if recovery verified
published slots only. -/
theorem highWater_of_open (recovers : RecoversPublished config media) :
    session.core.allocator.highWater ≤ session.core.precreated := by
  have opened := freshOpen ok
  obtain ⟨adopted, counted, precreated⟩ := precreated_of_open ok writer
  obtain ⟨slots, taken, highWater, _⟩ := opened.claimed
  have positive : 0 < (surveyor config).groupSlots := by
    have some := opened.wellLaid.groupSlots_pos
    rw [opened.groupSlots] at some
    exact some
  rw [highWater, precreated]
  refine claimBound_le fun slot member => ?_
  obtain ⟨key, entry, present, located⟩ := (taken slot).mp member
  have verified : slot ∈ verifiedSlots config media :=
    (committedAt_iff_verified ok slot).mp
      ⟨key, entry, ⟨present, (opened.confirmed key entry present).committed⟩, located⟩
  have inside : slot < slotTotal config := by
    obtain ⟨allocator, geometry, total⟩ := opened.geometry
    have low := opened.owned.lt_totalSlots present
    rw [total, geometry.totalSlots_eq.1, located] at low
    exact low
  refine lt_min inside ?_
  rcases recovers slot verified with first | ready
  · exact lt_of_lt_of_le first (Nat.le_mul_of_pos_left _ (lt_of_lt_of_le one_pos
      (le_max_right _ _)))
  · have group := counted.lt_of_ready (lt_of_le_of_lt (Nat.div_mul_le_self _ _) inside) ready
    exact (Nat.div_lt_iff_lt_mul positive).mp (lt_of_lt_of_le group (le_max_left _ _))

/-- A new writer starts out steady. -/
theorem steady_of_open {bound : Nat}
    (frontier : session.core.allocator.highWater ≤ max bound session.core.precreated) :
    Yard.Steady bound ⟨session, []⟩ := by
  have opened := freshOpen ok
  have provisioned : Provisioned session := by
    refine (running_of_open ok).provisioned ?_
    rw [opened.config_eq]
    exact writer
  exact ⟨opened.wellLaid, opened.rows, opened.owned, provisioned.rest, frontier,
    .inl ⟨rfl, provisioned.idle⟩⟩

/-- In every run of a new writer at most one group is being built, and what is
published is ready. -/
theorem alwaysPublished_of_open (operations : List YardOp) :
    Always Yard.step Yard.Published ⟨session, []⟩ operations := by
  have start := steady_of_open ok writer (le_max_left _ session.core.precreated)
  generalize (⟨session, []⟩ : Yard) = yard at start
  induction operations generalizing yard with
  | nil => exact start.published
  | cons operation operations ih => exact ⟨start.published, ih _ (start.step operation).1⟩

end

end

/-- If recovery verifies published slots only, every run of a new writer hands out
published slots only. -/
theorem handsOutPublished_of_recovers
    (ok : openStore ⟨fresh, media⟩ config faults = (.ok (), session))
    (writer : config.readOnly = false) (recovers : RecoversPublished config media)
    (operations : List YardOp) :
    Always Yard.step Yard.Published ⟨session, []⟩ operations ∧
      Along Yard.step Yard.HandsOutPublished ⟨session, []⟩ operations := by
  refine ⟨alwaysPublished_of_open ok writer operations, ?_⟩
  have start := steady_of_open ok writer
    ((highWater_of_open ok writer recovers).trans (le_max_right 0 _))
  generalize (⟨session, []⟩ : Yard) = yard at start
  induction operations generalizing yard with
  | nil => trivial
  | cons operation operations ih =>
    exact ⟨start.handsOut operation, ih _ (start.step operation).1⟩

end Open

/-! ## A group that is not published -/

/-- Two slots, each in a group of its own. -/
def splitConfig : StoreConfig := { pairConfig with segmentFileSlots := 1 }

def splitStore : ObjectStoreCore := fresh.withGeometry splitConfig pairStore.allocator

/-- A committed object. -/
def splitEntry (slot : Nat) : CheckpointEntry := ⟨[1], slot, 4096, 0, 1⟩

/-- The file of that object's group is ready, and that of the other is gone. -/
def splitMedia (slot : Nat) : Media :=
  (Media.blank.setCheckpoint pairConfig.root (savedFile [splitEntry slot])).setSegment
    (segmentPath "/mnt" 0 slot)
    ⟨8192, some 8192, Function.update (fun _ => zeroBlock) 0 oneHeader⟩

/-- What a writer finds after opening on these media: the first group is ready, or
has been made anew. -/
def splitSession (slot : Nat) (media : Media) : Session :=
  ⟨{ recoveredOne splitStore (splitEntry slot) 1 ⟨1, 1, 0, 0, 0, true⟩ with
      precreated := 1
      allocator := (claimRecovered splitStore.allocator [slot]).setReadyLimit 1
      opened := true }, media⟩

theorem adoptCheckpoint_one {placed : ObjectStoreCore} {media : Media} {entry : CheckpointEntry}
    {commitSeq : Nat} (judged : placed.judgeEntry media entry = .accepted commitSeq) :
    adoptCheckpoint { placed with containerBytes := 8192 } media 1 [entry] =
      recoveredOne placed entry commitSeq ⟨1, 1, 0, 0, 0, true⟩ := by
  have judged : judgeEntry { placed with
      containerBytes := 8192
      checkpointSeq := 1
      recovery := { checkpointAvailable := true, checkpointEntries := [entry].length } } media
      entry = .accepted commitSeq := judged
  unfold adoptCheckpoint
  rw [recoverEntries_of_accepted judged]
  rfl

theorem openStore_split_first :
    openStore ⟨fresh, splitMedia 0⟩ splitConfig {} = (.ok (), splitSession 0 (splitMedia 0)) := by
  have judged : splitStore.judgeEntry (splitMedia 0) (splitEntry 0) = .accepted 1 := by
    decide +kernel
  have opened := @openStore_saved [splitEntry 0] (by decide +kernel) (by decide +kernel) splitConfig
    rfl rfl (splitMedia 0) rfl _ rfl _ (adoptCheckpoint_one judged) _ _ rfl rfl rfl rfl
  exact opened

theorem openStore_split_second :
    openStore ⟨fresh, splitMedia 1⟩ splitConfig {} = (.ok (), splitSession 1
      ((splitMedia 1).setSegment (segmentPath "/mnt" 0 0)
        ⟨8192, some 8192, fun _ => zeroBlock⟩)) := by
  have judged : splitStore.judgeEntry (splitMedia 1) (splitEntry 1) = .accepted 1 := by
    decide +kernel
  have opened := @openStore_saved [splitEntry 1] (by decide +kernel) (by decide +kernel) splitConfig
    rfl rfl (splitMedia 1) rfl _ rfl _ (adoptCheckpoint_one judged) _ _ rfl rfl rfl rfl
  exact opened

/-- A key in the first group is recovered; then the second group is built and
published, and its slot is handed out. -/
theorem handsOutPublished_of_recovers_split :
    let operations := [.begin 1, .store (.reserve [[2]]), .build 0 none, .finish 0,
      .store (.reserve [[2]])]
    let start : Yard := ⟨splitSession 0 (splitMedia 0), []⟩
    openStore ⟨fresh, splitMedia 0⟩ splitConfig {} = (.ok (), start.session) ∧
      start.session.core.precreated = 1 ∧
      (runFrom Yard.step start operations).session.core.precreated = 2 ∧
      (runFrom Yard.step start operations).session.core.index.entries =
        [([1], ⟨0, 0, 1, true⟩), ([2], ⟨1, 0, 0, false⟩)] ∧
      RecoversPublished splitConfig (splitMedia 0) ∧
      Always Yard.step Yard.Published start operations ∧
      Along Yard.step Yard.HandsOutPublished start operations := by
  intro operations start
  have recovers : RecoversPublished splitConfig (splitMedia 0) := by
    intro slot verified
    obtain ⟨key, entry, holds, rfl⟩ :=
      (committedAt_iff_verified openStore_split_first slot).mpr verified
    have present := OrderedDict.get?_eq_some_iff.mp holds.1
    have only : (splitSession 0 (splitMedia 0)).core.index.entries =
        [([1], ⟨0, 0, 1, true⟩)] := rfl
    rw [only] at present
    have same := (Prod.mk.inj (mem_singleton.mp present)).2
    rw [same]
    exact .inl (by decide)
  exact ⟨openStore_split_first, rfl, by decide +kernel, by decide +kernel, recovers,
    handsOutPublished_of_recovers openStore_split_first rfl recovers operations⟩

/-- The verified key has its slot above `precreated`. Once it is released and
reclaimed, `reserve` hands that slot out. -/
theorem split_handsOut_unpublished :
    let opened := splitSession 1 ((splitMedia 1).setSegment (segmentPath "/mnt" 0 0)
      ⟨8192, some 8192, fun _ => zeroBlock⟩)
    openStore ⟨fresh, splitMedia 1⟩ splitConfig {} = (.ok (), opened) ∧
      splitConfig.readOnly = false ∧
      ¬ Along Yard.step Yard.HandsOutPublished ⟨opened, []⟩
        [.store (.release [[1]]), .store (.drainReclaim 2 fun _ => .done),
          .store (.reserve [[2], [3]])] := by
  refine ⟨openStore_split_second, rfl, ?_⟩
  rintro ⟨_, _, last, _⟩
  have assigned := last.assigned [[2], [3]] rfl [3] ⟨1, 1, 0, false⟩ (by decide +kernel)
    (by decide +kernel)
  exact absurd assigned (by decide +kernel)

end ObjectStoreCore

end Tutti
