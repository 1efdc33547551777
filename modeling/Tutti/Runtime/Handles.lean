import Tutti.Runtime.RuntimeRuns

/-!
# The record of IO handles

A handle names a runtime, a slot of its IO table and the generation of the entry there.
Slots are recycled, and the result of a released IO is retained in a second table.
Beside a runtime we keep what its submits have minted: the IO of each slot, from the
newest to the oldest, with the result it ended with. As long as generations do not run
out, that record agrees with both tables (`Minting.Faithful`).
-/

namespace Tutti

open Foundation Function IoEntry List StorageRuntime
open OrderedDict hiding keys

/-! ## The record of what was minted -/

/-- The result of a terminal entry. -/
def IoEntry.outcome (entry : IoEntry) : Option IoResult :=
  if entry.terminal then some entry.result else none

/-- An IO that a handle was minted for, with the result it has ended with. -/
structure Issue where
  generation : Nat
  result : Option IoResult := none
  deriving DecidableEq, Repr

/-- The result is the first one that the entry of the IO shows. -/
def Issue.settle (entry : Option IoEntry) : Issue → Issue
  | ⟨generation, some result⟩ => ⟨generation, some result⟩
  | ⟨generation, none⟩ => ⟨generation, entry.bind IoEntry.outcome⟩

/-- The entry of a slot belongs to the newest IO there. -/
def settleNewest (entry : Option IoEntry) : List Issue → List Issue
  | [] => []
  | issue :: older => issue.settle entry :: older

/-- A runtime with the IO that its submits have returned handles for: those of each
slot, from the newest to the oldest. -/
structure Minting where
  runtime : StorageRuntime
  issues : Nat → List Issue := fun _ => []

namespace Minting

/-- A submit that returns a handle starts an IO in its slot. -/
def minted (issues : Nat → List Issue) : Option IoHandle → Nat → List Issue
  | none => issues
  | some handle =>
    update issues handle.slot ({ generation := handle.generation } :: issues handle.slot)

/-- The results that the entries show now are put on record. -/
def settled (minting : Minting) : Minting :=
  { minting with
    issues := fun slot =>
      settleNewest minting.runtime.ioEntries[slot]? (minting.issues slot) }

def step (minting : Minting) : RuntimeOp → Minting
  | .submit requests context answers =>
    let reply := minting.runtime.submit requests context answers
    settled ⟨reply.runtime, minted minting.issues reply.value.io⟩
  | op => settled ⟨(minting.runtime.apply op).1, minting.issues⟩

theorem step_runtime (minting : Minting) (op : RuntimeOp) :
    (minting.step op).runtime = (minting.runtime.apply op).1 := by
  cases op <;> rfl

/-- The generations that were minted for a slot. -/
def generations (minting : Minting) (slot : Nat) : List Nat :=
  (minting.issues slot).map Issue.generation

/-- The handle was minted by this runtime. -/
def Minted (minting : Minting) (handle : IoHandle) : Prop :=
  handle.runtimeId = minting.runtime.runtimeId ∧
    handle.generation ∈ minting.generations handle.slot

/-- This is the IO that the handle was minted for. -/
def Issued (minting : Minting) (handle : IoHandle) (issue : Issue) : Prop :=
  handle.runtimeId = minting.runtime.runtimeId ∧ issue ∈ minting.issues handle.slot ∧
    issue.generation = handle.generation

theorem Issued.minted {minting : Minting} {handle : IoHandle} {issue : Issue}
    (issued : minting.Issued handle issue) : minting.Minted handle :=
  ⟨issued.1, mem_map.mpr ⟨issue, issued.2.1, issued.2.2⟩⟩

end Minting

theorem settleNewest_generations (entry : Option IoEntry) (issues : List Issue) :
    (settleNewest entry issues).map Issue.generation = issues.map Issue.generation := by
  cases issues with
  | nil => rfl
  | cons issue older =>
    rcases issue with ⟨generation, _ | result⟩
    · rfl
    · rfl

/-- A result on record stays there. -/
theorem mem_settleNewest {entry : Option IoEntry} {issues : List Issue} {generation : Nat}
    {result : IoResult} (member : ⟨generation, some result⟩ ∈ issues) :
    ⟨generation, some result⟩ ∈ settleNewest entry issues := by
  cases issues with
  | nil => cases member
  | cons issue older =>
    rcases mem_cons.mp member with rfl | later
    · exact .head _
    · exact .tail _ later

/-! ## Entries as they age -/

/-- What may happen to an entry until its slot is taken again. -/
structure IoEntry.Ages (before after : IoEntry) : Prop where
  active : after.active = true → before.active = true
  generation : after.generation = before.generation
  ended : before.terminal = true → after.terminal = true ∧ after.result = before.result
  waiting : after.terminal = false → after.active = before.active ∧ after.state = before.state

namespace IoEntry.Ages

variable (entry : IoEntry)

theorem refl : entry.Ages entry :=
  ⟨id, rfl, fun ended => ⟨ended, rfl⟩, fun _ => ⟨rfl, rfl⟩⟩

/-- An entry that is still in flight was so before. -/
theorem running {before after : IoEntry} (ages : before.Ages after)
    (going : after.terminal = false) : before.terminal = false := by
  by_contra ended
  have last := (ages.ended (Bool.eq_true_of_not_eq_false ended)).1
  exact nomatch going.symm.trans last

theorem trans {first second third : IoEntry} (earlier : first.Ages second)
    (later : second.Ages third) : first.Ages third where
  active active := earlier.active (later.active active)
  generation := later.generation.trans earlier.generation
  ended ended := by
    obtain ⟨terminal, result⟩ := earlier.ended ended
    obtain ⟨last, same⟩ := later.ended terminal
    exact ⟨last, same.trans result⟩
  waiting going := by
    obtain ⟨laterActive, laterState⟩ := later.waiting going
    obtain ⟨active, state⟩ := earlier.waiting (later.running going)
    exact ⟨laterActive.trans active, laterState.trans state⟩

/-- A revised entry. -/
theorem revised (operations : List DataPathOperation) (error : AnyStatus) :
    entry.Ages (entry.revised operations error) :=
  ⟨id, rfl, fun ended => ⟨ended, rfl⟩, fun _ => ⟨rfl, rfl⟩⟩

/-- The entry that an IO ends with. -/
theorem finished (going : entry.terminal = false) (result : IoResult) :
    entry.Ages (entry.ended result) :=
  ⟨id, rfl, fun ended => (nomatch going.symm.trans ended), nofun⟩

/-- The entry of a released IO. -/
theorem freed {entry : IoEntry} (ended : entry.terminal = true) : entry.Ages entry.freed :=
  ⟨nofun, rfl, fun _ => ⟨ended, rfl⟩, fun running => nomatch running.symm.trans ended⟩

end IoEntry.Ages

/-- The IO tables of two moments between which no slot was taken. -/
structure Aged (before after : List IoEntry) : Prop where
  length : after.length = before.length
  ages : ∀ (slot : Nat) (entry later : IoEntry), before[slot]? = some entry →
    after[slot]? = some later → entry.Ages later

namespace Aged

variable {first second third : List IoEntry}

theorem refl (entries : List IoEntry) : Aged entries entries where
  length := rfl
  ages _ entry later found reached := by
    rw [found] at reached
    cases reached
    exact IoEntry.Ages.refl entry

variable {slot : Nat}

theorem after (aged : Aged first second) {entry : IoEntry} (found : first[slot]? = some entry) :
    ∃ later, second[slot]? = some later ∧ entry.Ages later := by
  have inside : slot < second.length := by
    rw [aged.length]
    exact (List.getElem?_eq_some_iff.mp found).1
  exact ⟨second[slot], getElem?_eq_getElem inside,
    aged.ages slot entry _ found (getElem?_eq_getElem inside)⟩

theorem before (aged : Aged first second) {later : IoEntry} (reached : second[slot]? = some later) :
    ∃ entry, first[slot]? = some entry ∧ entry.Ages later := by
  have inside : slot < first.length := by
    rw [← aged.length]
    exact (List.getElem?_eq_some_iff.mp reached).1
  exact ⟨first[slot], getElem?_eq_getElem inside,
    aged.ages slot _ later (getElem?_eq_getElem inside) reached⟩

theorem trans (earlier : Aged first second) (later : Aged second third) : Aged first third where
  length := later.length.trans earlier.length
  ages slot entry last found reached := by
    obtain ⟨middle, between, ages⟩ := earlier.after found
    exact ages.trans (later.ages slot middle last between reached)

theorem set {old entry : IoEntry} (found : first[slot]? = some old) (ages : old.Ages entry) :
    Aged first (first.set slot entry) where
  length := length_set
  ages query before later here reached := by
    rw [getElem?_set_found found] at reached
    split at reached
    · rename_i same
      rw [same, found] at here
      cases here
      cases reached
      exact ages
    · rw [here] at reached
      cases reached
      exact IoEntry.Ages.refl before

end Aged

/-! ## The record is faithful -/

namespace Minting

/-- The record agrees with the IO table and with the retained results. -/
structure Faithful (minting : Minting) : Prop where
  bounded : ∀ slot, ∀ generation ∈ minting.generations slot,
    0 < generation ∧ generation ≤ minting.runtime.ioGenCounter
  distinct : ∀ slot, (minting.generations slot).Nodup
  apart : ∀ slot other generation, generation ∈ minting.generations slot →
    generation ∈ minting.generations other → slot = other
  current : ∀ (slot : Nat) (entry : IoEntry), minting.runtime.ioEntries[slot]? = some entry →
    entry.active = true → ∃ older, minting.issues slot = ⟨entry.generation, entry.outcome⟩ :: older
  unsettled : ∀ slot, ∀ issue ∈ minting.issues slot, issue.result = none →
    ∃ entry, minting.runtime.ioEntries[slot]? = some entry ∧ entry.active = true ∧
      entry.terminal = false ∧ entry.generation = issue.generation
  flying : ∀ (slot : Nat) (entry : IoEntry), minting.runtime.ioEntries[slot]? = some entry →
    entry.terminal = false → entry.state = .inFlight
  retained : ∀ generation result,
    minting.runtime.releasedResults.get? generation = some result →
      ∃ slot, ⟨generation, some result⟩ ∈ minting.issues slot

/-- What does not take a slot leaves a faithful record, once the results are put on it. -/
theorem Faithful.aged {minting : Minting} (faithful : minting.Faithful) {after : StorageRuntime}
    (aged : Aged minting.runtime.ioEntries after.ioEntries)
    (counter : after.ioGenCounter = minting.runtime.ioGenCounter)
    (retained : ∀ generation result, after.releasedResults.get? generation = some result →
      ∃ slot, ⟨generation, some result⟩ ∈ minting.issues slot) :
    (settled ⟨after, minting.issues⟩).Faithful := by
  have generations : (settled ⟨after, minting.issues⟩).generations = minting.generations :=
    funext fun slot => settleNewest_generations _ _
  refine ⟨?_, ?_, ?_, ?_, ?_, ?_, ?_⟩
  · rw [generations]
    show ∀ slot, ∀ generation ∈ minting.generations slot,
      0 < generation ∧ generation ≤ after.ioGenCounter
    rw [counter]
    exact faithful.bounded
  · rw [generations]
    exact faithful.distinct
  · rw [generations]
    exact faithful.apart
  · intro slot later reached active
    obtain ⟨entry, found, ages⟩ := aged.before reached
    obtain ⟨older, issues⟩ := faithful.current slot entry found (ages.active active)
    refine ⟨older, ?_⟩
    have reached : after.ioEntries[slot]? = some later := reached
    unfold settled
    dsimp only
    rw [reached, issues, ages.generation, settleNewest]
    unfold outcome
    cases terminal : entry.terminal with
    | true =>
      obtain ⟨ended, result⟩ := ages.ended terminal
      simp [Issue.settle, ended, result]
    | false => simp [Issue.settle, outcome]
  · intro slot issue member open_
    cases issues : minting.issues slot with
    | nil =>
      simp only [settled, issues] at member
      cases member
    | cons newest older =>
      simp only [settled, issues] at member
      rcases mem_cons.mp member with same | later
      · rcases newest with ⟨generation, _ | result⟩
        · obtain ⟨entry, found, active, _, generationEq⟩ :=
            faithful.unsettled slot ⟨generation, none⟩ (issues ▸ .head _) rfl
          obtain ⟨next, reached, ages⟩ := aged.after found
          rw [same, reached] at open_
          have going : next.terminal = false := by
            simpa [Issue.settle, outcome] using open_
          rw [same]
          exact ⟨next, reached, (ages.waiting going).1.trans active, going,
            ages.generation.trans generationEq⟩
        · rw [same] at open_
          cases open_
      · -- an older IO of the slot has its result
        obtain ⟨entry, found, active, _, generation⟩ :=
          faithful.unsettled slot issue (issues ▸ .tail _ later) open_
        obtain ⟨_, current⟩ := faithful.current slot entry found active
        have nodup := faithful.distinct slot
        rw [issues] at current
        obtain ⟨rfl, rfl⟩ := cons.inj current
        rw [Minting.generations, issues] at nodup
        refine absurd ?_ (nodup_cons.mp nodup).1
        exact mem_map.mpr ⟨issue, later, generation.symm⟩
  · intro slot later reached going
    obtain ⟨entry, found, ages⟩ := aged.before reached
    exact (ages.waiting going).2.trans (faithful.flying slot entry found (ages.running going))
  · intro generation result kept
    obtain ⟨slot, member⟩ := retained generation result kept
    exact ⟨slot, mem_settleNewest member⟩

/-- The results that are retained after a release: the older ones that are left, and the
one of the released IO. -/
theorem get?_retain {runtime : StorageRuntime} {key generation : Nat} {result kept : IoResult}
    (found : (runtime.retain key result).releasedResults.get? generation = some kept) :
    runtime.releasedResults.get? generation = some kept ∨ (generation = key ∧ kept = result) := by
  have erased : ∀ (keys : List Nat) (dict : OrderedDict Nat IoResult),
      (keys.foldl erase dict).get? generation = some kept → dict.get? generation = some kept := by
    intro keys
    induction keys with
    | nil => exact fun _ found => found
    | cons head keys ih =>
      intro dict found
      have left := ih _ found
      rw [get?_erase] at left
      split at left
      · cases left
      · exact left
  have set := erased _ _ found
  rw [get?_set] at set
  split at set
  · rename_i same
    exact .inr ⟨same, (Option.some.inj set).symm⟩
  · exact .inl set

/-- A submit has a generation left. -/
def Fits (minting : Minting) : RuntimeOp → Prop
  | .submit _ _ _ => minting.runtime.ioGenCounter + 1 < uint64Size
  | _ => True

namespace Faithful

variable {minting : Minting}

theorem turn {runtime after : StorageRuntime} (turn : Turn runtime after) :
    Aged runtime.ioEntries after.ioEntries ∧ after.ioGenCounter = runtime.ioGenCounter ∧
      after.releasedResults = runtime.releasedResults := by
  cases turn with
  | still => exact ⟨Aged.refl _, rfl, rfl⟩
  | @revise slot entry operations error found silent =>
    exact ⟨Aged.set found (IoEntry.Ages.revised entry operations error), rfl, rfl⟩
  | @finish slot entry operations error result found running pending =>
    obtain ⟨_, _, finished⟩ :=
      finishIo_ended runtime slot (entry.revised operations error) running result
    rw [finished]
    refine ⟨Aged.set found ?_, rfl, rfl⟩
    exact (IoEntry.Ages.revised entry operations error).trans
      (IoEntry.Ages.finished (entry.revised operations error) running result)

section

variable (faithful : minting.Faithful)
include faithful

theorem harvest (errors : List (DataPathId × Status)) (answers : HarvestAnswers) :
    (minting.step (.harvest errors answers)).Faithful := by
  obtain ⟨aged, counter, results⟩ := @harvest_keeps
    (fun reached => Aged minting.runtime.ioEntries reached.ioEntries ∧
      reached.ioGenCounter = minting.runtime.ioGenCounter ∧
      reached.releasedResults = minting.runtime.releasedResults)
    (fun before after moved holds => by
      obtain ⟨aged, counter, results⟩ := turn moved
      exact ⟨holds.1.trans aged, counter.trans holds.2.1, results.trans holds.2.2⟩)
    minting.runtime ⟨Aged.refl _, rfl, rfl⟩ errors answers
  refine faithful.aged aged counter fun generation result kept => ?_
  have kept : (minting.runtime.harvest errors answers).1.releasedResults.get? generation =
      some result := kept
  rw [results] at kept
  exact faithful.retained generation result kept

theorem quiet {op : RuntimeOp} (quiet : op.quiet = true) :
    (minting.step op).Faithful := by
  have step : minting.step op = settled ⟨(minting.runtime.apply op).1, minting.issues⟩ := by
    cases op <;> first | rfl | cases quiet
  have quietly := quietly_apply minting.runtime quiet
  rw [step]
  refine faithful.aged ?_ (congrArg (fun frame => frame.2.2) quietly.frame) ?_
  · rw [quiet_ioEntries _ quiet]
    exact Aged.refl _
  intro generation result kept
  rcases quietly.results with same | empty
  · rw [same] at kept
    exact faithful.retained generation result kept
  · rw [empty] at kept
    cases kept

theorem releaseIo (handle : IoHandle) (answer : DataPathId → DataPathOp → Guarded Unit) :
    (minting.step (.releaseIo handle answer)).Faithful := by
  show (settled ⟨(minting.runtime.releaseIo handle answer).runtime, minting.issues⟩).Faithful
  have unchanged : (settled ⟨minting.runtime, minting.issues⟩).Faithful :=
    faithful.aged (Aged.refl _) rfl faithful.retained
  unfold StorageRuntime.releaseIo
  split
  · exact unchanged
  rename_i entry valid
  obtain ⟨_, found, active, generation⟩ := lookup_some valid
  split
  · exact unchanged
  rename_i ended
  have ended : entry.terminal = true := Bool.eq_true_of_not_eq_false ended
  split
  · exact unchanged
  refine faithful.aged (Aged.set found (IoEntry.Ages.freed ended)) rfl ?_
  intro key result kept
  rcases get?_retain kept with before | ⟨rfl, rfl⟩
  · exact faithful.retained key result before
  obtain ⟨older, issues⟩ := faithful.current handle.slot entry found active
  refine ⟨handle.slot, ?_⟩
  rw [issues, outcome, if_pos ended, ← generation]
  exact .head _

/-- A new generation is one that no handle has. -/
theorem fresh (slot : Nat) :
    minting.runtime.ioGenCounter + 1 ∉ minting.generations slot := by
  intro member
  have bound := (faithful.bounded slot _ member).2
  omega

/-- A submit that hands out a handle takes a free slot for it. -/
theorem place {after : StorageRuntime} {entry : IoEntry}
    (entries : after.ioEntries = placeAt minting.runtime.ioEntries
      (findFreeSlot minting.runtime.ioEntries) entry)
    (counter : after.ioGenCounter = minting.runtime.ioGenCounter + 1)
    (results : after.releasedResults = minting.runtime.releasedResults)
    (generation : entry.generation = minting.runtime.ioGenCounter + 1)
    (running : entry.terminal = false) (flying : entry.state = .inFlight) {runtimeId : Nat}
    {io : Option IoHandle} (returned : io = if entry.active then
      some ⟨runtimeId, findFreeSlot minting.runtime.ioEntries, entry.generation⟩ else none) :
    (Minting.mk after (minted minting.issues io)).Faithful := by
  set taken := findFreeSlot minting.runtime.ioEntries
  have at_ : ∀ query, after.ioEntries[query]? =
      if query = taken then some entry else minting.runtime.ioEntries[query]? := by
    intro query
    rw [entries, getElem?_placeAt (findFreeSlot_le _)]
  -- the slot that is taken has no IO in flight
  have vacant : ∀ slot, ∀ issue ∈ minting.issues slot, issue.result = none → slot ≠ taken := by
    rintro _ issue member unsettled rfl
    obtain ⟨old, found, active, _⟩ := faithful.unsettled _ issue member unsettled
    exact nomatch (inactive_of_findFreeSlot found).symm.trans active
  -- a handle is handed out if the entry is in use
  have issues : ∀ slot, minted minting.issues io slot =
      if slot = taken ∧ entry.active = true then
        { generation := entry.generation } :: minting.issues slot
      else minting.issues slot := by
    intro slot
    rw [returned]
    cases entry.active with
    | false => simp [minted]
    | true =>
      show update minting.issues _ _ slot = _
      by_cases here : slot = taken
      · rw [if_pos ⟨here, rfl⟩, here, update_self]
      · rw [if_neg fun both => here both.1, update_of_ne here]
  have known : ∀ slot, ∀ issue ∈ minted minting.issues io slot, issue ∈ minting.issues slot ∨
      (slot = taken ∧ entry.active = true) ∧ issue = { generation := entry.generation } := by
    intro slot issue member
    rw [issues] at member
    split at member
    · rename_i here
      rcases mem_cons.mp member with same | older
      · exact .inr ⟨here, same⟩
      · exact .inl older
    · exact .inl member
  have unused : ∀ slot, ∀ issue ∈ minting.issues slot, issue.generation ≠ entry.generation :=
    fun slot issue member same =>
      faithful.fresh slot (generation ▸ same ▸ mem_map_of_mem member)
  refine ⟨?_, ?_, ?_, ?_, ?_, ?_, ?_⟩
  · intro slot _ member
    obtain ⟨issue, among, rfl⟩ := mem_map.mp member
    show 0 < issue.generation ∧ issue.generation ≤ after.ioGenCounter
    rcases known slot issue among with older | ⟨_, rfl⟩
    · have bound := faithful.bounded slot _ (mem_map_of_mem older)
      omega
    · dsimp only
      omega
  · intro slot
    show ((minted minting.issues io slot).map Issue.generation).Nodup
    rw [issues]
    split
    · exact nodup_cons.mpr ⟨generation ▸ faithful.fresh slot, faithful.distinct slot⟩
    · exact faithful.distinct slot
  · intro slot other _ here there
    obtain ⟨issue, among, rfl⟩ := mem_map.mp here
    obtain ⟨another, among', same⟩ := mem_map.mp there
    rcases known slot issue among with older | ⟨⟨free, _⟩, rfl⟩
    · rcases known other another among' with older' | ⟨_, rfl⟩
      · exact faithful.apart slot other _ (mem_map_of_mem older) (same ▸ mem_map_of_mem older')
      · exact absurd same.symm (unused slot issue older)
    · rcases known other another among' with older | ⟨⟨free', _⟩, _⟩
      · exact absurd same (unused other another older)
      · exact free.trans free'.symm
  · intro slot reached found inUse
    rw [at_] at found
    dsimp only
    rw [issues]
    split at found
    · rename_i here
      cases found
      rw [if_pos ⟨here, inUse⟩]
      exact ⟨minting.issues slot, by rw [outcome, running]; rfl⟩
    · rename_i elsewhere
      rw [if_neg fun both => elsewhere both.1]
      exact faithful.current slot reached found inUse
  · intro slot issue member unsettled
    rcases known slot issue member with older | ⟨⟨here, active⟩, rfl⟩
    · obtain ⟨old, found, rest⟩ := faithful.unsettled slot issue older unsettled
      exact ⟨old, by rw [at_, if_neg (vacant slot issue older unsettled), found], rest⟩
    · exact ⟨entry, by rw [at_, if_pos here], active, running, rfl⟩
  · intro slot reached found going
    rw [at_] at found
    split at found
    · cases found
      exact flying
    · exact faithful.flying slot reached found going
  · intro key result kept
    rw [results] at kept
    obtain ⟨slot, member⟩ := faithful.retained key result kept
    refine ⟨slot, ?_⟩
    dsimp only
    rw [issues]
    split
    · exact .tail _ member
    · exact member

theorem submit (requests : List IoRequest) (context : HostSubmitContext) (answers : SubmitAnswers)
    (fits : minting.runtime.ioGenCounter + 1 < uint64Size) :
    (minting.step (.submit requests context answers)).Faithful := by
  show (settled ⟨(minting.runtime.submit requests context answers).runtime,
    minted minting.issues (minting.runtime.submit requests context answers).value.io⟩).Faithful
  rcases submit_cases minting.runtime requests context answers with
    ⟨refused, ⟨_, runtimeEq, _⟩⟩ | ⟨_, _, _, spec⟩
  · rw [refused, runtimeEq]
    exact faithful.aged (Aged.refl _) rfl faithful.retained
  generalize minting.runtime.submit requests context answers = result at spec ⊢
  obtain ⟨_, _, error, after⟩ := spec.after
  have next : nextGeneration minting.runtime.ioGenCounter =
      minting.runtime.ioGenCounter + 1 := Nat.mod_eq_of_lt fits
  have placed : (Minting.mk result.runtime (minted minting.issues result.value.io)).Faithful := by
    refine @place minting faithful _ _ (by rw [after]) (by rw [after]; exact next)
      (by rw [after]) next rfl rfl minting.runtime.runtimeId _ ?_
    rw [spec.io]
    cases (groupCandidates (minting.runtime.plan requests context answers).candidates).flatMap
        (keptOps minting.runtime.components.asyncCompletion answers.group) with
    | nil => rfl
    | cons head tail => rfl
  exact placed.aged (Aged.refl _) rfl placed.retained

theorem step (op : RuntimeOp) (fits : minting.Fits op) :
    (minting.step op).Faithful := by
  cases quiet : op.quiet with
  | true => exact faithful.quiet quiet
  | false =>
    cases op with
    | submit requests context answers => exact faithful.submit requests context answers fits
    | harvest errors answers => exact faithful.harvest errors answers
    | releaseIo handle answer => exact faithful.releaseIo handle answer
    | _ => cases quiet

variable {handle : IoHandle}

/-- No two IO have the same handle. -/
theorem single {issue another : Issue} (first : minting.Issued handle issue)
    (second : minting.Issued handle another) :
    issue = another :=
  inj_on_of_nodup_map (faithful.distinct handle.slot) first.2.1 second.2.1
    (first.2.2.trans second.2.2.symm)

/-- A handle that passes the validation was minted for the entry it leads to. -/
theorem issued {entry : IoEntry} (valid : minting.runtime.validateIo handle = some entry) :
    minting.Issued handle ⟨handle.generation, entry.outcome⟩ := by
  obtain ⟨own, found, active, generation⟩ := lookup_some valid
  obtain ⟨older, issues⟩ := faithful.current handle.slot entry found active
  refine ⟨own, ?_, rfl⟩
  rw [issues, ← generation]
  exact .head _

theorem validateIo_of_unminted (unminted : ¬ minting.Minted handle) :
    minting.runtime.validateIo handle = none := by
  cases valid : minting.runtime.validateIo handle with
  | none => rfl
  | some entry => exact absurd (faithful.issued valid).minted unminted

end

end Faithful

end Minting

end Tutti
