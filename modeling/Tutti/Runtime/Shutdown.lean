import Tutti.Runtime.RuntimeRuns

/-!
# Shutdown

Threads call a runtime concurrently, and every region under one of its mutexes is
atomic. Two calls are made of several regions. `open_batch` looks at the state once,
and then opens and enters its items one by one. `query`, `wait` and `shutdown` drive
progress: they collect the DataPaths under the lock, call `progress` without it, and
take the lock again for the harvest.

A runtime that has stopped should call no DataPath and have nothing open any more. It
does if no thread is between the regions of an `open_batch` or has DataPaths left to
drive when a shutdown finds nothing in flight (`final_of_cleared`). An `open_batch`
that has passed its check before opens its items afterwards (`late_open_batch`).
-/

namespace Tutti

open Foundation List StorageRuntime

/-! ## Threads -/

/-- An `open_batch` past its check of the state: the items still to open, and the one
that its DataPath has opened but that is not entered yet. -/
structure OpenBatch where
  items : List (Except Status Resolution)
  opened : Option (Resolution × DataPathTarget × String) := none

namespace OpenBatch

/-- Phase 2 for the next item, under `datapath_open_mutex_`. -/
def openNext (answers : OpenAnswers) : OpenBatch → OpenBatch × List DataPathCall
  | ⟨.error _ :: items, none⟩ => (⟨items, none⟩, [])
  | ⟨.ok resolution :: items, none⟩ =>
    match openDataPath resolution.dataPath answers with
    | (.error _, calls) => (⟨items, none⟩, calls)
    | (.ok (target, domain), calls) => (⟨items, some (resolution, target, domain)⟩, calls)
  | batch => (batch, [])

/-- There is an item left to open or to enter. -/
def pending (batch : OpenBatch) : Bool :=
  batch.opened.isSome || batch.items.any Except.isOk

/-- A batch with nothing left to open calls no DataPath. -/
theorem openNext_of_done {batch : OpenBatch} (done : batch.pending = false)
    (answers : OpenAnswers) :
    (batch.openNext answers).1.pending = false ∧ (batch.openNext answers).2 = [] := by
  rcases batch with ⟨items, _ | opened⟩
  · cases items with
    | nil => exact ⟨done, rfl⟩
    | cons item items =>
      cases item with
      | error status => exact ⟨done, rfl⟩
      | ok resolution => cases done
  · cases done

end OpenBatch

/-- A thread that drives progress: the DataPaths still to call, and the errors so far. -/
structure Drive where
  paths : List DataPathId
  errors : List (DataPathId × Status) := []

/-- `DataPath::progress` for the next DataPath, without the registry lock. -/
def Drive.progressNext (answer : Guarded Unit) : Drive → Drive × List DataPathCall
  | ⟨path :: paths, errors⟩ =>
    (⟨paths, errors ++ progressErrors path answer⟩, answer.logged (.progress path))
  | drive => (drive, [])

/-- A runtime with the threads that are between two regions. -/
structure Threads where
  runtime : StorageRuntime
  batches : List OpenBatch := []
  drives : List Drive := []

/-- One region of some thread. -/
inductive Region where
  /-- A call that is one region. -/
  | call (op : RuntimeOp)
  | enqueueWait (handles : List IoHandle) (answer : DataPathId → AnyStatus)
  | batchEnter (items : List (Except Status Resolution))
  | batchOpen (thread : Nat) (answers : OpenAnswers)
  | batchAdd (thread : Nat)
  | driveEnter (answers : HarvestAnswers)
  | driveProgress (thread : Nat) (answer : Guarded Unit)
  | driveLeave (thread : Nat) (answers : HarvestAnswers)

/-- All but the items of `open_batch` run in one region. -/
def RuntimeOp.whole : RuntimeOp → Bool
  | .openBatchItem _ _ => false
  | _ => true

namespace Threads

/-- One region, with the calls it makes. -/
def perform (threads : Threads) : Region → Threads × List DataPathCall
  | .call op =>
    if op.whole then
      let (runtime, calls) := threads.runtime.apply op
      ({ threads with runtime }, calls)
    else (threads, [])
  | .enqueueWait handles answer =>
    let reply := threads.runtime.enqueueWait handles answer
    ({ threads with runtime := reply.runtime }, reply.calls)
  | .batchEnter items =>
    if threads.runtime.state ≠ .running then (threads, [])
    else ({ threads with batches := threads.batches ++ [{ items }] }, [])
  | .batchOpen thread answers =>
    match threads.batches[thread]? with
    | none => (threads, [])
    | some batch =>
      let (next, calls) := batch.openNext answers
      ({ threads with batches := threads.batches.set thread next }, calls)
  | .batchAdd thread =>
    match threads.batches[thread]? with
    | some ⟨items, some (resolution, target, domain)⟩ =>
      ({ threads with
          runtime := (threads.runtime.addTarget (openedBody resolution target domain)).2
          batches := threads.batches.set thread ⟨items, none⟩ }, [])
    | _ => (threads, [])
  | .driveEnter answers =>
    let paths := threads.runtime.pendingPaths
    if paths.isEmpty then
      let (runtime, calls) := threads.runtime.harvest [] answers
      ({ threads with runtime }, calls)
    else ({ threads with drives := threads.drives ++ [{ paths }] }, [])
  | .driveProgress thread answer =>
    match threads.drives[thread]? with
    | none => (threads, [])
    | some drive =>
      let (next, calls) := drive.progressNext answer
      ({ threads with drives := threads.drives.set thread next }, calls)
  | .driveLeave thread answers =>
    match threads.drives[thread]? with
    | some ⟨[], errors⟩ =>
      let (runtime, calls) := threads.runtime.harvest errors answers
      ({ threads with runtime, drives := threads.drives.eraseIdx thread }, calls)
    | _ => (threads, [])

def step (threads : Threads) (region : Region) : Threads := (threads.perform region).1

/-- Once the runtime has stopped, no DataPath is called and it stays stopped. -/
def Silent (threads : Threads) (region : Region) : Prop :=
  threads.runtime.state = .stopped →
    (threads.perform region).2 = [] ∧ (threads.step region).runtime.state = .stopped

/-- A stopped runtime has no active target and no active memory. -/
def Closed (threads : Threads) : Prop :=
  threads.runtime.state = .stopped →
    (∀ entry ∈ threads.runtime.targetEntries, entry.active = false) ∧
      ∀ entry ∈ threads.runtime.memoryEntries, entry.active = false

/-- No thread has an item to open or a DataPath to drive. -/
def Cleared (threads : Threads) : Prop :=
  (∀ batch ∈ threads.batches, batch.pending = false) ∧
    ∀ drive ∈ threads.drives, drive.paths = []

/-- The condition on a run: when a shutdown finds nothing in flight, the threads are
cleared. -/
def Clears (threads : Threads) : Region → Prop
  | .call (.shutdownEnter _) | .call (.shutdownLeave _) =>
    threads.runtime.state ≠ .stopped → threads.runtime.countInflightIo = 0 → threads.Cleared
  | _ => True

end Threads

/-! ## A runtime that has ended -/

/-- A stopped runtime with nothing open, nothing in flight and no DataPath. -/
structure Ended (runtime : StorageRuntime) : Prop where
  stopped : runtime.state = .stopped
  targets : ∀ entry ∈ runtime.targetEntries, entry.active = false
  memories : ∀ entry ∈ runtime.memoryEntries, entry.active = false
  landed : ∀ entry ∈ runtime.ioEntries, entry.live = false
  paths : runtime.initializedDataPaths = []

variable {runtime : StorageRuntime}

/-- Without IO in flight a harvest does nothing. -/
theorem harvest_of_landed (idle : Idle runtime.ioEntries)
    (landed : ∀ entry ∈ runtime.ioEntries, entry.live = false) (errors : List (DataPathId × Status))
    (answers : HarvestAnswers) :
    runtime.harvest errors answers = (runtime, []) := by
  refine emitFrom_still (fun turn => ?_) _
  cases turn with
  | fail error slot =>
    show (failSlot error runtime slot, []) = (runtime, [])
    unfold failSlot
    split
    · rfl
    rename_i entry found
    have still := landed entry (mem_of_getElem? found)
    rw [still, Bool.false_and, if_neg Bool.false_ne_true]
  | refresh slot =>
    show refreshSlot answers runtime slot = (runtime, [])
    unfold refreshSlot
    cases found : runtime.ioEntries[slot]? with
    | none => rfl
    | some entry =>
      have still := landed entry (mem_of_getElem? found)
      have settled : (entry.terminal || entry.dataPathOperations.isEmpty) = true := by
        cases active : entry.active with
        | true =>
          rw [IoEntry.live, active] at still
          cases terminal : entry.terminal with
          | true => rfl
          | false =>
            rw [terminal] at still
            cases still
        | false => rw [idle slot entry found active, isEmpty_nil, Bool.or_true]
      have refreshed : refreshComponentIo runtime.components.asyncCompletion answers entry =
          ⟨entry, none, []⟩ := by
        rw [refreshComponentIo, if_pos settled]
      obtain ⟨inside, rfl⟩ := List.getElem?_eq_some_iff.mp found
      dsimp only
      rw [refreshed, set_getElem_self inside]

/-- Entries that are retired already are passed over. -/
theorem retireAll_of_inactive {Body : Type}
    (retire : Registered Body → AnyStatus × Registered Body × List DataPathCall)
    {entries : List (Registered Body)} (inactive : ∀ entry ∈ entries, entry.active = false) :
    retireAll retire entries = (none, entries, []) := by
  induction entries with
  | nil => rfl
  | cons entry entries ih =>
    unfold retireAll
    rw [if_pos (inactive entry (.head _)), ih fun other member => inactive other (.tail _ member)]

/-- A loop that retires entries and gets through leaves none of them active. -/
theorem inactive_of_retireAll {Body : Type}
    {retire : Registered Body → AnyStatus × Registered Body × List DataPathCall}
    (retires : ∀ entry, (retire entry).1 = none → (retire entry).2.1.active = false)
    {entries : List (Registered Body)} (through : (retireAll retire entries).1 = none) :
    ∀ entry ∈ (retireAll retire entries).2.1, entry.active = false := by
  induction entries with
  | nil => exact nofun
  | cons entry entries ih =>
    unfold retireAll at through ⊢
    split at through
    · rename_i inactive
      rw [if_pos inactive]
      exact forall_mem_cons.mpr ⟨inactive, ih through⟩
    · rename_i active
      rw [if_neg active]
      have retired := retires entry
      split at through
      · cases through
      rename_i outcome
      rw [outcome] at retired
      exact forall_mem_cons.mpr ⟨retired rfl, ih through⟩

theorem closeEntry_retires (answer : Guarded Unit) (entry : TargetEntry)
    (closed : (closeEntry answer entry).1 = none) :
    (closeEntry answer entry).2.1.active = false := by
  unfold closeEntry at closed ⊢
  cases path : entry.body.dataPath with
  | none => rfl
  | some value =>
    rw [path] at closed
    dsimp only at closed ⊢
    split at closed
    · cases closed
    · rfl

theorem retireMemory_retires (answer : DataPathMemoryRegistration → Guarded Unit)
    (entry : MemoryEntry) (retired : (retireMemory answer entry).1 = none) :
    (retireMemory answer entry).2.1.active = false := by
  unfold retireMemory at retired ⊢
  split at retired
  · cases retired
  · rfl

theorem landed_of_count (none : runtime.countInflightIo = 0) :
    ∀ entry ∈ runtime.ioEntries, entry.live = false := by
  intro entry member
  by_contra live
  have listed := mem_filter.mpr ⟨member, Bool.eq_true_of_not_eq_false live⟩
  rw [length_eq_zero_iff.mp none] at listed
  cases listed

variable {answers : ShutdownAnswers}

/-- What stops a runtime ends it. -/
theorem ended_of_finalizeShutdown (running : runtime.state ≠ .stopped)
    (landed : ∀ entry ∈ runtime.ioEntries, entry.live = false)
    (stopped : (runtime.finalizeShutdown answers).runtime.state = .stopped) :
    Ended (runtime.finalizeShutdown answers).runtime := by
  have closing := @inactive_of_retireAll _ _
    (fun entry => closeEntry_retires (answers.closed entry) entry) runtime.targetEntries
  have dropping := @inactive_of_retireAll _ _ (retireMemory_retires answers.unregistered)
    runtime.memoryEntries
  unfold finalizeShutdown at stopped ⊢
  split at stopped
  · exact absurd stopped running
  rename_i targets _ first
  rw [first] at closing
  split at stopped
  · exact absurd stopped running
  rename_i memories _ second
  rw [second] at dropping
  split at stopped
  · exact absurd stopped running
  · exact ⟨rfl, closing rfl, dropping rfl, landed, rfl⟩

/-- To stop an ended runtime again does nothing. -/
theorem finalizeShutdown_of_ended (ended : Ended runtime) (answers : ShutdownAnswers) :
    Ended (runtime.finalizeShutdown answers).runtime ∧
      (runtime.finalizeShutdown answers).calls = [] := by
  unfold finalizeShutdown
  rw [retireAll_of_inactive _ ended.targets, retireAll_of_inactive _ ended.memories, ended.paths]
  exact ⟨{ ended with stopped := rfl, paths := rfl }, rfl⟩

theorem pendingPaths_of_landed (landed : ∀ entry ∈ runtime.ioEntries, entry.live = false) :
    runtime.pendingPaths = [] := by
  have none : runtime.ioEntries.filter IoEntry.live = [] := by
    refine filter_eq_nil_iff.mpr fun entry member live => ?_
    exact nomatch (landed entry member).symm.trans live
  rw [pendingPaths, none]
  rfl

/-- A stopped runtime knows no IO to wait for. -/
theorem enqueueWait_of_stopped (stopped : runtime.state = .stopped) (handles : List IoHandle)
    (answer : DataPathId → AnyStatus) :
    (runtime.enqueueWait handles answer).calls = [] := by
  unfold enqueueWait
  cases handles with
  | nil => rfl
  | cons handle handles =>
    have unknown : runtime.validateIo handle = none := lookup_stopped stopped _ handle
    rw [collectWaits, unknown]

/-- An ended runtime refuses every call. -/
theorem apply_of_ended (ended : Ended runtime) (idle : Idle runtime.ioEntries) {op : RuntimeOp}
    (whole : op.whole = true) :
    Ended (runtime.apply op).1 ∧ (runtime.apply op).2 = [] := by
  have refused : runtime.state ≠ .running := by
    rw [ended.stopped]
    rintro ⟨⟩
  have memory : ∀ handle, runtime.validateMemory handle = none := lookup_stopped ended.stopped _
  have target : ∀ handle, runtime.validateTarget handle = none := lookup_stopped ended.stopped _
  have io : ∀ handle, runtime.validateIo handle = none := lookup_stopped ended.stopped _
  cases op with
  | registerMemory view vendor =>
    rw [apply, registerMemory, if_pos refused]
    exact ⟨ended, rfl⟩
  | allocateMemory size kind accelId allocated =>
    rw [apply, allocateMemory, if_pos refused]
    exact ⟨ended, rfl⟩
  | unregisterMemory handle answer =>
    rw [apply, unregisterMemory, dropMemory, memory]
    exact ⟨ended, rfl⟩
  | freeMemory handle answer =>
    rw [apply, freeMemory, dropMemory, memory]
    exact ⟨ended, rfl⟩
  | openTarget resolved answers =>
    simp only [apply, openTarget, if_pos refused]
    exact ⟨ended, trivial⟩
  | openBatchItem resolution answers => cases whole
  | close handle answer =>
    rw [apply, close, target]
    exact ⟨ended, rfl⟩
  | submit requests context answers =>
    rw [apply, submit, if_pos refused]
    exact ⟨ended, rfl⟩
  | harvest errors answers =>
    rw [apply, harvest_of_landed idle ended.landed]
    exact ⟨ended, rfl⟩
  | releaseIo handle answer =>
    rw [apply, releaseIo, io]
    exact ⟨ended, rfl⟩
  | shutdownEnter answers =>
    rw [apply, shutdownEnter, if_pos ended.stopped]
    exact ⟨ended, rfl⟩
  | shutdownLeave answers =>
    rw [apply, shutdownLeave]
    split
    · exact finalizeShutdown_of_ended ended answers
    · exact ⟨ended, rfl⟩

/-- The last region of `shutdown` stops a runtime only when no IO is in flight. -/
theorem shutdownLeave_stops (running : runtime.state ≠ .stopped)
    (stopped : (runtime.shutdownLeave answers).runtime.state = .stopped) :
    runtime.countInflightIo = 0 ∧ Ended (runtime.shutdownLeave answers).runtime := by
  unfold shutdownLeave at stopped ⊢
  split at stopped
  · rename_i none
    rw [if_pos none]
    exact ⟨none, ended_of_finalizeShutdown running (landed_of_count none) stopped⟩
  · exact absurd stopped running

/-- Only a shutdown that finds nothing in flight stops a runtime, and that ends it. -/
theorem ended_of_stops {op : RuntimeOp} (running : runtime.state ≠ .stopped)
    (stopped : (runtime.apply op).1.state = .stopped) :
    (∃ answers, op = .shutdownEnter answers ∨ op = .shutdownLeave answers) ∧
      runtime.countInflightIo = 0 ∧ Ended (runtime.apply op).1 := by
  have same : (runtime.apply op).1.state ≠ runtime.state := by
    rw [stopped]
    exact Ne.symm running
  cases op with
  | registerMemory _ _ | allocateMemory _ _ _ _ | unregisterMemory _ _ | freeMemory _ _
  | openTarget _ _ | openBatchItem _ _ | close _ _ | releaseIo _ _ =>
    refine absurd ?_ same
    simp only [apply, registerMemory, allocateMemory, unregisterMemory, freeMemory,
      dropMemory, openTarget, openResolved, close, releaseIo]
    repeat' split
    all_goals rfl
  | submit requests context answers =>
    refine absurd ?_ same
    show (runtime.submit requests context answers).runtime.state = runtime.state
    rcases submit_cases runtime requests context answers with
      ⟨_, ⟨_, runtimeEq, _⟩⟩ | ⟨_, _, _, issued⟩
    · rw [runtimeEq]
    obtain ⟨_, _, _, after⟩ := issued.after
    rw [after]
  | harvest errors answers => exact absurd (harvest_state runtime errors answers) same
  | shutdownEnter answers =>
    refine ⟨⟨answers, .inl rfl⟩, ?_⟩
    rw [apply, shutdownEnter, if_neg running] at stopped ⊢
    refine shutdownLeave_stops ?_ stopped
    rintro ⟨⟩
  | shutdownLeave answers =>
    exact ⟨⟨answers, .inr rfl⟩, shutdownLeave_stops running stopped⟩

namespace Threads

/-- A stopped runtime has ended, and the threads are cleared. -/
structure Over (threads : Threads) : Prop where
  idle : Idle threads.runtime.ioEntries
  ended : threads.runtime.state = .stopped → Ended threads.runtime ∧ threads.Cleared

variable {threads : Threads}

theorem mem_set_of {Entry : Type} {entries : List Entry} {slot : Nat} {entry : Entry}
    {property : Entry → Prop} (all : ∀ other ∈ entries, property other) (holds : property entry) :
    ∀ other ∈ entries.set slot entry, property other := by
  intro other member
  rcases mem_or_eq_of_mem_set member with old | rfl
  · exact all other old
  · exact holds

theorem Over.harvest (over_ : threads.Over) (errors : List (DataPathId × Status))
    (answers : HarvestAnswers) {drives : List Drive} (fewer : drives ⊆ threads.drives) :
    Over ⟨(threads.runtime.harvest errors answers).1, threads.batches, drives⟩ ∧
      (threads.runtime.state = .stopped →
        (threads.runtime.harvest errors answers).2 = [] ∧
          (threads.runtime.harvest errors answers).1.state = .stopped) := by
  have same := harvest_state threads.runtime errors answers
  have still : threads.runtime.state = .stopped →
      threads.runtime.harvest errors answers = (threads.runtime, []) :=
    fun stopped => harvest_of_landed over_.idle (over_.ended stopped).1.landed errors answers
  refine ⟨⟨over_.idle.apply (.harvest errors answers), fun stopped => ?_⟩, fun stopped => ?_⟩
  · have stopped := same.symm.trans stopped
    obtain ⟨ended, batches, cleared⟩ := over_.ended stopped
    rw [still stopped]
    exact ⟨ended, batches, fun drive member => cleared drive (fewer member)⟩
  · rw [still stopped]
    exact ⟨rfl, stopped⟩

/-- A call of a stopped runtime calls no DataPath. -/
theorem Over.call (over_ : threads.Over) (op : RuntimeOp) (clears : threads.Clears (.call op)) :
    (threads.step (.call op)).Over ∧ threads.Silent (.call op) := by
  unfold Silent step
  cases whole : op.whole with
  | false =>
    have still : threads.perform (.call op) = (threads, []) := by
      simp [perform, whole]
    rw [still]
    exact ⟨over_, fun stopped => ⟨rfl, stopped⟩⟩
  | true =>
    have performed : threads.perform (.call op) =
        ({ threads with runtime := (threads.runtime.apply op).1 },
          (threads.runtime.apply op).2) := by
      simp [perform, whole]
    rw [performed]
    have idle := over_.idle.apply op
    by_cases before : threads.runtime.state = .stopped
    · obtain ⟨ended, cleared⟩ := over_.ended before
      obtain ⟨after, calls⟩ := apply_of_ended ended over_.idle whole
      exact ⟨⟨idle, fun _ => ⟨after, cleared⟩⟩, fun _ => ⟨calls, after.stopped⟩⟩
    refine ⟨⟨idle, fun stopped => ?_⟩, fun stopped => absurd stopped before⟩
    obtain ⟨⟨answers, shutdown⟩, none, ended⟩ := ended_of_stops before stopped
    refine ⟨ended, ?_⟩
    rcases shutdown with rfl | rfl
    · exact clears before none
    · exact clears before none

/-- One region keeps a stopped runtime over, and calls no DataPath. -/
theorem Over.region (over_ : threads.Over) (region : Region) (clears : threads.Clears region) :
    (threads.step region).Over ∧ threads.Silent region := by
  unfold Silent step
  cases region with
  | call op => exact over_.call op clears
  | enqueueWait handles answer =>
    have same : (threads.runtime.enqueueWait handles answer).runtime = threads.runtime := by
      unfold enqueueWait
      split
      · rfl
      · rfl
    rw [perform, same]
    exact ⟨over_, fun stopped => ⟨enqueueWait_of_stopped stopped handles answer, stopped⟩⟩
  | batchEnter items =>
    unfold perform
    dsimp only
    split
    · exact ⟨over_, fun stopped => ⟨rfl, stopped⟩⟩
    rename_i running
    have alive : threads.runtime.state ≠ .stopped := by
      rw [not_not.mp running]
      exact nofun
    exact ⟨⟨over_.idle, fun stopped => absurd stopped alive⟩, fun stopped => absurd stopped alive⟩
  | batchOpen thread answers =>
    unfold perform
    dsimp only
    split
    · exact ⟨over_, fun stopped => ⟨rfl, stopped⟩⟩
    rename_i batch found
    have done : threads.runtime.state = .stopped →
        (batch.openNext answers).1.pending = false ∧ (batch.openNext answers).2 = [] :=
      fun stopped => OpenBatch.openNext_of_done
        ((over_.ended stopped).2.1 batch (mem_of_getElem? found)) answers
    refine ⟨⟨over_.idle, fun stopped => ?_⟩, fun stopped => ⟨(done stopped).2, stopped⟩⟩
    obtain ⟨ended, batches, drives⟩ := over_.ended stopped
    exact ⟨ended, mem_set_of batches (done stopped).1, drives⟩
  | batchAdd thread =>
    unfold perform
    dsimp only
    split
    · rename_i items resolution target domain found
      -- a stopped runtime has no batch with an item to enter
      have alive : threads.runtime.state ≠ .stopped := by
        intro stopped
        have done := (over_.ended stopped).2.1 _ (mem_of_getElem? found)
        cases done
      exact ⟨⟨over_.idle, fun stopped => absurd stopped alive⟩, fun stopped => absurd stopped alive⟩
    · exact ⟨over_, fun stopped => ⟨rfl, stopped⟩⟩
  | driveEnter answers =>
    unfold perform
    dsimp only
    split
    · exact over_.harvest [] answers fun _ => id
    rename_i some
    have alive : threads.runtime.state ≠ .stopped := by
      intro stopped
      refine some (List.isEmpty_iff.mpr ?_)
      exact pendingPaths_of_landed (over_.ended stopped).1.landed
    exact ⟨⟨over_.idle, fun stopped => absurd stopped alive⟩, fun stopped => absurd stopped alive⟩
  | driveProgress thread answer =>
    unfold perform
    dsimp only
    split
    · exact ⟨over_, fun stopped => ⟨rfl, stopped⟩⟩
    rename_i drive found
    have done : threads.runtime.state = .stopped → drive.progressNext answer = (drive, []) := by
      intro stopped
      have none := (over_.ended stopped).2.2 drive (mem_of_getElem? found)
      rcases drive with ⟨paths, errors⟩
      cases none
      rfl
    refine ⟨⟨over_.idle, fun stopped => ?_⟩, fun stopped => ?_⟩
    · obtain ⟨ended, batches, drives⟩ := over_.ended stopped
      refine ⟨ended, batches, mem_set_of drives ?_⟩
      rw [done stopped]
      exact drives drive (mem_of_getElem? found)
    · rw [done stopped]
      exact ⟨rfl, stopped⟩
  | driveLeave thread answers =>
    unfold perform
    dsimp only
    split
    · rename_i errors found
      exact over_.harvest errors answers fun _ => mem_of_mem_eraseIdx
    · exact ⟨over_, fun stopped => ⟨rfl, stopped⟩⟩

end Threads

/-- In every run of regions in which the threads are cleared whenever a shutdown finds
nothing in flight, a stopped runtime has nothing open, and calls no DataPath any more. -/
theorem final_of_cleared (runtimeId : Nat) (config : RuntimeConfig) (components : RuntimeComponents)
    (paths : List DataPathId) (regions : List Region) (clears : Along Threads.step Threads.Clears
      { runtime := created runtimeId config components paths } regions) :
    Along Threads.step Threads.Silent
        { runtime := created runtimeId config components paths } regions ∧
      Always Threads.step Threads.Closed
        { runtime := created runtimeId config components paths } regions := by
  have initial : Threads.Over { runtime := created runtimeId config components paths } :=
    ⟨fun _ _ found => (nomatch found), fun stopped => (nomatch stopped)⟩
  have kept : ∀ threads region, Threads.Over threads → threads.Clears region →
      (threads.step region).Over := fun _ region over_ clears => (over_.region region clears).1
  constructor
  · exact Along.imp_of_invariant Threads.Over kept
      (fun threads region over_ clears => (over_.region region clears).2) initial clears
  · exact (Along.always kept initial clears).imp fun threads over_ stopped =>
      ⟨(over_.ended stopped).1.targets, (over_.ended stopped).1.memories⟩

/-- A shutdown, and an `open_batch` of one item that it meets. -/
def stopping : RuntimeOp :=
  .shutdownEnter
    { closed := fun _ => .plain (.ok ())
      unregistered := fun _ => .plain (.ok ())
      stopped := fun _ => .plain (.ok ()) }

def oneItem : List Region :=
  [.batchOpen 0 ⟨.plain (.ok 0), .plain (.ok "domain"), .plain (.ok ())⟩, .batchAdd 0]

/-- The batch is done before the shutdown, and another comes after it. -/
theorem final_of_cleared_batch :
    let regions := [.batchEnter [.ok ⟨8, 0⟩]] ++ oneItem ++
      [.call stopping, .batchEnter [.ok ⟨8, 0⟩]] ++ oneItem
    Along Threads.step Threads.Silent { runtime := created 1 {} (plainComponents false) [0] }
        regions ∧
      Always Threads.step Threads.Closed { runtime := created 1 {} (plainComponents false) [0] }
        regions := by
  refine final_of_cleared 1 {} (plainComponents false) [0] _ ?_
  refine ⟨trivial, trivial, trivial, ?_, trivial, trivial, trivial, trivial⟩
  intro _ _
  refine ⟨fun batch member => ?_, nofun⟩
  rw [mem_singleton.mp member]
  rfl

/-- The batch has passed its check before the shutdown: it calls the DataPath that was
shut down, and leaves the stopped runtime with an active target. -/
theorem late_open_batch :
    ¬ Along Threads.step Threads.Silent { runtime := created 1 {} (plainComponents false) [0] }
        ([.batchEnter [.ok ⟨8, 0⟩], .call stopping] ++ oneItem) ∧
      ¬ Always Threads.step Threads.Closed
        { runtime := created 1 {} (plainComponents false) [0] }
        ([.batchEnter [.ok ⟨8, 0⟩], .call stopping] ++ oneItem) := by
  constructor
  · intro silent
    have calls := (silent.2.2.1 rfl).1
    cases calls
  · intro closed
    have open_ := (closed.last rfl).1 _ (.head _)
    cases open_

end Tutti
