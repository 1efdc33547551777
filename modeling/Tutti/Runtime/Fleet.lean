import Tutti.Runtime.Handles

/-!
# What handles tell

In a fleet of runtimes, the calls that observe an IO should tell what is on record for
the very submit that minted the handle, and NOT_FOUND for all other handles.

`query`, `release_io` and `enqueue_wait` do (`Minting.Tells`). `wait` looks the
retained results up by generation alone, before it looks at the runtime of the handle:
it tells the truth exactly if the handle is one of the runtime's own or no result is
retained under its generation (`handles_told`). In `foreign_result_told` the handle of
another runtime is given the result of an IO of this one.
-/

namespace Tutti

open Foundation IoEntry List Option StorageRuntime

/-! ## What `enqueue_wait` hands over -/

variable {groups : List (DataPathId × List DataPathOp)} {ops : List DataPathOp}

theorem mem_addToWait {operation : DataPathOperation} {path : DataPathId} {op : DataPathOp}
    (listed : (path, ops) ∈ addToWait groups operation) (member : op ∈ ops) :
    (∃ known, (path, known) ∈ groups ∧ op ∈ known) ∨
      (operation.dataPath = path ∧ operation.op = op) := by
  induction groups with
  | nil =>
    cases mem_singleton.mp listed
    exact .inr ⟨rfl, (mem_singleton.mp member).symm⟩
  | cons group groups ih =>
    unfold addToWait at listed
    split at listed
    · rename_i same
      rcases mem_cons.mp listed with here | later
      · cases here
        rcases mem_append.mp member with known | new
        · exact .inl ⟨group.2, .head _, known⟩
        · exact .inr ⟨same.symm, (mem_singleton.mp new).symm⟩
      · exact .inl ⟨ops, .tail _ later, member⟩
    · rcases mem_cons.mp listed with here | later
      · exact .inl ⟨ops, here ▸ .head _, member⟩
      rcases ih later with ⟨known, old, held⟩ | new
      · exact .inl ⟨known, .tail _ old, held⟩
      · exact .inr new

theorem mem_foldl_addToWait {operations : List DataPathOperation} {path : DataPathId}
    {op : DataPathOp} (listed : (path, ops) ∈ operations.foldl addToWait groups)
    (member : op ∈ ops) :
    (∃ known, (path, known) ∈ groups ∧ op ∈ known) ∨
      ∃ operation ∈ operations, operation.dataPath = path ∧ operation.op = op := by
  induction operations generalizing groups with
  | nil => exact .inl ⟨ops, listed, member⟩
  | cons operation operations ih =>
    rcases ih listed with ⟨known, old, held⟩ | ⟨later, inRest, named⟩
    · rcases mem_addToWait old held with before | here
      · exact .inl before
      · exact .inr ⟨operation, .head _, here⟩
    · exact .inr ⟨later, .tail _ inRest, named⟩

theorem mem_enqueueAll {async : DataPathId → Bool} {answer : DataPathId → AnyStatus}
    {call : DataPathCall} (made : call ∈ (enqueueAll async answer groups).2) :
    ∃ group ∈ groups, call = .enqueueWait group.1 group.2 := by
  induction groups with
  | nil => cases made
  | cons group groups ih =>
    unfold enqueueAll at made
    split at made
    · split at made
      · exact ⟨group, .head _, mem_singleton.mp made⟩
      rcases mem_cons.mp made with here | later
      · exact ⟨group, .head _, here⟩
      · obtain ⟨other, member, same⟩ := ih later
        exact ⟨other, .tail _ member, same⟩
    · obtain ⟨other, member, same⟩ := ih made
      exact ⟨other, .tail _ member, same⟩

theorem collectWaits_unknown {runtime : StorageRuntime} {handle : IoHandle}
    (unknown : runtime.validateIo handle = none) {handles : List IoHandle}
    (member : handle ∈ handles) (groups : List (DataPathId × List DataPathOp)) :
    runtime.collectWaits handles groups =
      .error ⟨.notFound, "enqueue_wait: invalid IO handle"⟩ := by
  induction handles generalizing groups with
  | nil => cases member
  | cons head handles ih =>
    unfold collectWaits
    split
    · rfl
    rename_i entry valid
    have later : handle ∈ handles := by
      rcases mem_cons.mp member with rfl | later
      · rw [unknown] at valid
        cases valid
      · exact later
    split
    · exact ih later groups
    · exact ih later _

namespace Minting

/-! ## What the observing calls tell -/

/-- `query`, `release_io` and `enqueue_wait` tell what is on record for the handle, and
NOT_FOUND if it was not minted here. -/
structure Tells (minting : Minting) (handle : IoHandle) : Prop where
  query : ∀ state, minting.runtime.queryEnter handle = some (.ok state) ∨
      minting.runtime.queryLeave handle = .ok state →
    ∃ issue, minting.Issued handle issue ∧ state = issue.result.elim .inFlight IoResult.state
  release : ∀ answer, (minting.runtime.releaseIo handle answer).value = none →
    ∃ issue result, minting.Issued handle issue ∧ issue.result = some result
  enqueue : ∀ answer path ops,
    .enqueueWait path ops ∈ (minting.runtime.enqueueWait [handle] answer).calls →
      minting.Issued handle ⟨handle.generation, none⟩ ∧
        ∃ entry, minting.runtime.validateIo handle = some entry ∧
          ∀ op ∈ ops, ∃ operation ∈ entry.dataPathOperations,
            operation.dataPath = path ∧ operation.op = op
  unknown : ¬ minting.Minted handle →
    minting.runtime.queryEnter handle = some (.error ⟨.notFound, "invalid IO handle"⟩) ∧
    minting.runtime.queryLeave handle = .error ⟨.notFound, "IO released during query"⟩ ∧
    (∀ answer, (minting.runtime.releaseIo handle answer).value =
      some ⟨.notFound, "invalid IO handle"⟩) ∧
    ∀ handles answer, handle ∈ handles →
      (minting.runtime.enqueueWait handles answer).value =
        some ⟨.notFound, "enqueue_wait: invalid IO handle"⟩

/-- So does `wait`, when it enters and after each round of progress; and once the IO has
a result, `wait` tells nothing else. -/
structure WaitTells (minting : Minting) (handle : IoHandle) : Prop where
  result : ∀ missing result, waitLook missing minting.runtime handle = some (.ok result) →
    ∃ issue, minting.Issued handle issue ∧ issue.result = some result
  unknown : ¬ minting.Minted handle → ∀ missing,
    waitLook missing minting.runtime handle = some (.error ⟨.notFound, missing⟩)
  lasting : ∀ missing issue result, minting.Issued handle issue → issue.result = some result →
    waitLook missing minting.runtime handle = some (.ok result) ∨
      waitLook missing minting.runtime handle = some (.error ⟨.notFound, missing⟩)

theorem Faithful.tells {minting : Minting} (faithful : minting.Faithful) (handle : IoHandle) :
    minting.Tells handle := by
  refine ⟨?_, ?_, ?_, ?_⟩
  · intro state told
    cases valid : minting.runtime.validateIo handle with
    | none =>
      unfold queryEnter queryLeave at told
      rw [valid] at told
      rcases told with enter | leave
      · cases enter
      · cases leave
    | some entry =>
      refine ⟨_, faithful.issued valid, ?_⟩
      have running := faithful.flying handle.slot entry (lookup_some valid).2.1
      unfold queryEnter queryLeave at told
      rw [valid] at told
      dsimp only at told
      unfold outcome
      cases terminal : entry.terminal with
      | true =>
        rw [terminal] at told
        rcases told with enter | leave
        · exact (Except.ok.inj (some.inj enter)).symm
        · exact (Except.ok.inj leave).symm
      | false =>
        rw [terminal] at told
        rcases told with enter | leave
        · cases enter
        · exact (Except.ok.inj leave).symm.trans (running terminal)
  · intro answer released
    cases valid : minting.runtime.validateIo handle with
    | none =>
      rw [StorageRuntime.releaseIo, valid] at released
      cases released
    | some entry =>
      refine ⟨_, entry.result, faithful.issued valid, ?_⟩
      rw [StorageRuntime.releaseIo, valid] at released
      dsimp only at released
      split at released
      · cases released
      rename_i ended
      rw [outcome, if_pos (Bool.eq_true_of_not_eq_false ended)]
  · intro answer path ops made
    cases valid : minting.runtime.validateIo handle with
    | none =>
      rw [enqueueWait, collectWaits_unknown valid (mem_singleton_self handle)] at made
      cases made
    | some entry =>
      have issued := faithful.issued valid
      cases terminal : entry.terminal with
      | true =>
        simp only [enqueueWait, collectWaits, valid, terminal, ↓reduceIte] at made
        cases made
      | false =>
        simp only [enqueueWait, collectWaits, valid, terminal, Bool.false_eq_true] at made
        rw [outcome, terminal] at issued
        refine ⟨issued, entry, rfl, fun op member => ?_⟩
        obtain ⟨group, listed, same⟩ := mem_enqueueAll made
        cases same
        rcases mem_foldl_addToWait listed member with ⟨_, none, _⟩ | ⟨operation, held, named⟩
        · cases none
        · exact ⟨operation, mem_of_mem_filter held, named⟩
  · intro unminted
    have invalid := faithful.validateIo_of_unminted unminted
    refine ⟨?_, ?_, fun answer => ?_, fun handles answer member => ?_⟩
    · rw [queryEnter, invalid]
    · rw [queryLeave, invalid]
    · rw [StorageRuntime.releaseIo, invalid]
    · rw [enqueueWait, collectWaits_unknown invalid member]

/-- `wait` tells the truth of the runtime's own handles, and of those whose generation
leads to no retained result. -/
theorem Faithful.waitTells {minting : Minting} (faithful : minting.Faithful) {handle : IoHandle}
    (sure : minting.Minted handle ∨ minting.runtime.releasedResults.get? handle.generation = none) :
    minting.WaitTells handle := by
  have retained : ∀ result, minting.runtime.releasedResults.get? handle.generation = some result →
      minting.Issued handle ⟨handle.generation, some result⟩ := by
    intro result kept
    rcases sure with minted | none
    · obtain ⟨slot, member⟩ := faithful.retained _ _ kept
      have slots := faithful.apart slot handle.slot handle.generation
        (mem_map.mpr ⟨_, member, rfl⟩) minted.2
      exact ⟨minted.1, slots ▸ member, rfl⟩
    · rw [none] at kept
      cases kept
  refine ⟨?_, ?_, ?_⟩
  · intro missing result told
    unfold waitLook at told
    split at told
    · rename_i kept found
      obtain rfl : kept = result := Except.ok.inj (some.inj told)
      exact ⟨_, retained kept found, rfl⟩
    split at told
    · cases told
    rename_i entry valid
    split at told
    · rename_i ended
      cases told
      refine ⟨_, faithful.issued valid, ?_⟩
      rw [outcome, if_pos ended]
    · cases told
  · intro unminted missing
    unfold waitLook
    split
    · rename_i kept found
      exact absurd (retained kept found).minted unminted
    · rw [faithful.validateIo_of_unminted unminted]
  · intro missing issue result issued known
    unfold waitLook
    split
    · rename_i kept found
      have same := faithful.single issued (retained kept found)
      rw [same] at known
      exact .inl (by rw [some.inj known])
    split
    · exact .inr rfl
    rename_i entry valid
    have same := faithful.single issued (faithful.issued valid)
    rw [same] at known
    unfold outcome at known
    split at known
    · rename_i ended
      rw [if_pos ended]
      exact .inl (by rw [some.inj known])
    · cases known

end Minting

/-! ## Fleets -/

/-- All runtimes of a process, with the counter their ids come from. -/
structure Fleet where
  nextRuntimeId : Nat := 1
  members : List Minting := []

inductive FleetOp where
  | create (config : RuntimeConfig) (components : RuntimeComponents) (paths : List DataPathId)
  | act (index : Nat) (op : RuntimeOp)

namespace Fleet

/-- The number of 32-bit runtime ids. -/
def idCount : Nat := 2 ^ 32

def step (fleet : Fleet) : FleetOp → Fleet
  | .create config components paths =>
    { nextRuntimeId := (fleet.nextRuntimeId + 1) % idCount
      members := fleet.members ++
        [{ runtime := created fleet.nextRuntimeId config components paths }] }
  | .act index op => { fleet with members := fleet.members.modify index (Minting.step · op) }

/-- Neither the runtime ids nor the generations run out. -/
def Fits (fleet : Fleet) : FleetOp → Prop
  | .create _ _ _ => fleet.members.length < idCount
  | .act index op => ∀ member ∈ fleet.members[index]?, member.Fits op

/-- Some runtime has minted the handle, or it is the invalid one. -/
def Knows (fleet : Fleet) (handle : IoHandle) : Prop :=
  (∃ member ∈ fleet.members, member.Minted handle) ∨ handle.valid = false

/-- Handles are not confused. No two runtimes mint the same handle, and no two submits of
one; and every runtime tells the truth of every handle, `wait` exactly if the handle is
its own or leads to no retained result. -/
structure Told (fleet : Fleet) : Prop where
  unique : ∀ (index other : Nat) (member another : Minting) (handle : IoHandle),
    fleet.members[index]? = some member → fleet.members[other]? = some another →
      member.Minted handle → another.Minted handle → index = other
  single : ∀ member ∈ fleet.members, ∀ (handle : IoHandle) (issue another : Issue),
    member.Issued handle issue → member.Issued handle another → issue = another
  tells : ∀ member ∈ fleet.members, ∀ handle, fleet.Knows handle → member.Tells handle
  waits : ∀ member ∈ fleet.members, ∀ handle, fleet.Knows handle →
    (member.WaitTells handle ↔ handle.runtimeId = member.runtime.runtimeId ∨
      member.runtime.releasedResults.get? handle.generation = none)

/-- Every member has a faithful record and the id of its place. -/
structure Numbered (fleet : Fleet) : Prop where
  next : fleet.nextRuntimeId = (fleet.members.length + 1) % idCount
  fits : fleet.members.length ≤ idCount
  member : ∀ (index : Nat) (member : Minting), fleet.members[index]? = some member →
    member.Faithful ∧ member.runtime.runtimeId = (index + 1) % idCount

variable {fleet : Fleet}

theorem Numbered.step (numbered : fleet.Numbered) (op : FleetOp) (fits : fleet.Fits op) :
    (fleet.step op).Numbered := by
  cases op with
  | create config components paths =>
    have room : fleet.members.length < idCount := fits
    refine ⟨?_, ?_, ?_⟩
    · show (fleet.nextRuntimeId + 1) % idCount = ((fleet.members ++ [_]).length + 1) % idCount
      rw [numbered.next, length_append, length_singleton, Nat.mod_add_mod]
    · show (fleet.members ++ [_]).length ≤ idCount
      rw [length_append]
      exact room
    intro index member found
    have found : (fleet.members ++
        [{ runtime := created fleet.nextRuntimeId config components paths }])[index]? =
          some member := found
    rcases lt_trichotomy index fleet.members.length with before | rfl | beyond
    · rw [getElem?_append_left before] at found
      exact numbered.member index member found
    · rw [getElem?_concat_length] at found
      cases found
      refine ⟨⟨?_, ?_, ?_, ?_, ?_, ?_, ?_⟩, numbered.next⟩
      · exact fun _ _ member => nomatch member
      · exact fun _ => nodup_nil
      · exact fun _ _ _ member => nomatch member
      · exact fun _ _ found => nomatch found
      · exact fun _ _ member => nomatch member
      · exact fun _ _ found => nomatch found
      · exact fun _ _ kept => nomatch kept
    · rw [getElem?_append_right (le_of_lt beyond)] at found
      obtain ⟨inside, _⟩ := List.getElem?_eq_some_iff.mp found
      rw [length_singleton] at inside
      omega
  | act index op =>
    refine ⟨?_, ?_, ?_⟩
    · show fleet.nextRuntimeId = ((fleet.members.modify index _).length + 1) % idCount
      rw [length_modify]
      exact numbered.next
    · show (fleet.members.modify index _).length ≤ idCount
      rw [length_modify]
      exact numbered.fits
    intro query member found
    have found : (fleet.members.modify index (Minting.step · op))[query]? = some member := found
    rw [getElem?_modify] at found
    obtain ⟨before, at_, stepped⟩ := map_eq_some_iff.mp found
    obtain ⟨faithful, id⟩ := numbered.member query before at_
    by_cases here : index = query
    · rw [if_pos here] at stepped
      subst stepped
      refine ⟨faithful.step op (fits before (here ▸ at_)), ?_⟩
      rw [before.step_runtime]
      exact (congrArg Prod.fst (apply_identity before.runtime op)).trans id
    · rw [if_neg here] at stepped
      subst stepped
      exact ⟨faithful, id⟩

/-- Different members have different ids. -/
theorem Numbered.same (numbered : fleet.Numbered) {index other : Nat} {member another : Minting}
    (found : fleet.members[index]? = some member) (there : fleet.members[other]? = some another)
    (ids : member.runtime.runtimeId = another.runtime.runtimeId) : index = other := by
  have fits := numbered.fits
  have first := (List.getElem?_eq_some_iff.mp found).1
  have second := (List.getElem?_eq_some_iff.mp there).1
  rw [(numbered.member index member found).2, (numbered.member other another there).2] at ids
  have size : idCount = 4294967296 := rfl
  rw [size] at fits ids
  omega

theorem Numbered.told (numbered : fleet.Numbered) : fleet.Told := by
  have faithful : ∀ member ∈ fleet.members, member.Faithful := by
    intro member listed
    obtain ⟨index, found⟩ := mem_iff_getElem?.mp listed
    exact (numbered.member index member found).1
  refine ⟨?_, ?_, ?_, ?_⟩
  · intro index other member another handle found there minted also
    exact numbered.same found there (minted.1.symm.trans also.1)
  · exact fun member listed handle issue another => (faithful member listed).single
  · exact fun member listed handle _ => (faithful member listed).tells handle
  intro member listed handle known
  constructor
  · intro tells
    by_contra foreign
    obtain ⟨elsewhere, retained⟩ := not_or.mp foreign
    obtain ⟨result, kept⟩ := ne_none_iff_exists'.mp retained
    have told := tells.unknown (fun minted => elsewhere minted.1) ""
    rw [waitLook, kept] at told
    cases told
  rintro (own | none)
  · refine (faithful member listed).waitTells ?_
    rcases known with ⟨minter, also, minted⟩ | invalid
    · obtain ⟨index, found⟩ := mem_iff_getElem?.mp listed
      obtain ⟨other, there⟩ := mem_iff_getElem?.mp also
      have same := numbered.same found there (own.symm.trans minted.1)
      rw [same, there] at found
      cases found
      exact .inl minted
    · refine .inr ?_
      -- no IO has generation 0
      have zero : handle.generation = 0 := by
        simpa only [Handle.valid, bne_eq_false_iff_eq] using invalid
      cases kept : member.runtime.releasedResults.get? handle.generation with
      | none => rfl
      | some result =>
        obtain ⟨slot, held⟩ := (faithful member listed).retained _ _ kept
        have positive := ((faithful member listed).bounded slot handle.generation
          (mem_map.mpr ⟨_, held, rfl⟩)).1
        omega
  · exact (faithful member listed).waitTells (.inr none)

end Fleet

/-- In every fleet whose ids and generations have not run out, every handle is told as
far as `wait` does not meet a retained result under the generation of a foreign one. -/
theorem handles_told (ops : List FleetOp) (fits : Along Fleet.step Fleet.Fits {} ops) :
    Always Fleet.step Fleet.Told {} ops := by
  have always : Always Fleet.step Fleet.Numbered {} ops :=
    Along.always (fun fleet op numbered fits => numbered.step op fits)
      ⟨rfl, Nat.zero_le _, fun _ _ found => (nomatch found)⟩ fits
  exact always.imp fun fleet numbered => numbered.told

/-! ### Two runtimes with one IO each -/

/-- Both runtimes read a byte, and the first one's is done and released. -/
def foreignFleet : List FleetOp :=
  [.create {} (plainComponents false) [0], .create {} (plainComponents false) [0]] ++
    plainSetup.map (.act 0) ++
    [.act 0 (submitBytes (some 1) [.accepted]), .act 0 (completing [1]),
      .act 0 (.releaseIo ⟨1, 0, 1⟩ fun _ _ => .plain (.ok ())),
      .act 1 (.registerMemory ⟨4096, 8, .host, -1, ""⟩ none),
      .act 1 (.openTarget (.ok ⟨8, 0⟩)
        ⟨.plain (.ok 0), .plain (.ok "domain"), .plain (.ok ())⟩),
      .act 1 (.submit [{ byteRequest with memory := ⟨2, 0, 1⟩, target := ⟨2, 0, 1⟩ }] hostContext
        { stream := none
          pointer := fun _ => none
          registered := fun _ => .plain (.ok 0)
          group := fun _ =>
            { entered := none
              outcome := ⟨none, some 1, [⟨.accepted, none⟩]⟩
              restored := none
              released := .plain (.ok ()) } })]

theorem handles_told_foreign :
    Along Fleet.step Fleet.Fits {} foreignFleet ∧ Always Fleet.step Fleet.Told {} foreignFleet := by
  have room : 1 < Fleet.idCount := by decide
  have generation : 0 + 1 < uint64Size := by decide
  refine ⟨?fits, handles_told foreignFleet ?fits⟩
  refine ⟨Nat.lt_of_succ_lt room, room, ?_, ?_, ?_, ?_, ?_, ?_, ?_, ?_, trivial⟩
  all_goals
    intro member found
    cases found
    first | exact generation | exact trivial

/-- The second runtime's read is in flight, but the first runtime gives its handle the
result of an IO of its own. -/
theorem foreign_result_told :
    ∃ first second, (runFrom Fleet.step {} foreignFleet).members = [first, second] ∧
      second.Minted ⟨2, 0, 1⟩ ∧ second.runtime.queryLeave ⟨2, 0, 1⟩ = .ok .inFlight ∧
      waitEnter first.runtime ⟨2, 0, 1⟩ = some (.ok ⟨.completed, none, {}⟩) ∧
      ¬ first.WaitTells ⟨2, 0, 1⟩ := by
  refine ⟨_, _, rfl, ⟨rfl, mem_singleton_self _⟩, rfl, rfl, fun tells => ?_⟩
  have told := tells.unknown (fun minted => absurd minted.1 (by decide)) ""
  cases told

end Tutti
