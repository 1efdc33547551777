import Tutti.Foundation.Run
import Tutti.Striped.FanOut

/-!
# The task cursor of the worker pool

The workers of a `fused_submit_kernel_pool` launch take the entries of a batch from a cursor in
device memory. Every worker ends with one add that fails, and the one whose add is the last sets
the cursor back, so that the next launch on the arena slot finds zero without a memset.
-/

namespace Tutti.Striped

open Foundation List

structure EntryCompletionStatus where
  result : Nat
  nvmeStatusDword3 : Nat
  deriving DecidableEq

/-- The cursor, the statuses written so far, and the workers, which are alike: how many are before
their `atomicAdd`, the entries that others are at, and how many are before the `atomicExch`. -/
structure WorkerPool where
  nextTask : Nat
  claiming : Nat
  processing : List Nat := []
  resetting : Nat := 0
  written : List (Nat × EntryCompletionStatus) := []

/-- One atomic step of some worker; `submitted` is what the submit on the device reports. -/
inductive PoolStep where
  | atomicAdd
  | process (idx : Nat) (submitted : EntryCompletionStatus)
  | atomicExch

namespace WorkerPool

/-- Some worker can take the step. -/
def Enabled (pool : WorkerPool) : PoolStep → Prop
  | .atomicAdd => 0 < pool.claiming
  | .process idx _ => idx ∈ pool.processing
  | .atomicExch => 0 < pool.resetting

instance (pool : WorkerPool) (step : PoolStep) : Decidable (pool.Enabled step) := by
  cases step <;> unfold Enabled <;> infer_instance

/-- All workers have returned. -/
def Finished (pool : WorkerPool) : Prop :=
  pool.claiming = 0 ∧ pool.processing = [] ∧ pool.resetting = 0
  deriving Decidable

/-- No worker waits for another one. -/
theorem finished_or_enabled (pool : WorkerPool) :
    pool.Finished ∨ ∃ action, pool.Enabled action := by
  by_cases claims : 0 < pool.claiming
  · exact .inr ⟨.atomicAdd, claims⟩
  by_cases resets : 0 < pool.resetting
  · exact .inr ⟨.atomicExch, resets⟩
  rcases at_ : pool.processing with _ | ⟨idx, _⟩
  · exact .inl ⟨by omega, at_, by omega⟩
  · refine .inr ⟨.process idx ⟨0, 0⟩, ?_⟩
    rw [Enabled, at_]
    exact .head _

end WorkerPool

/-- What `launch_fused_submit` is called with when it uses the pool. -/
structure PoolLaunch where
  entries : List SubmitEntry
  numDevs : Nat
  poolWorkers : Nat
  poolWorkers_pos : 0 < poolWorkers

namespace PoolLaunch

variable (launch : PoolLaunch)

def count : Nat := launch.entries.length

def totalWorkers : Nat :=
  if launch.count < launch.poolWorkers then
    if launch.count = 0 then 1 else launch.count
  else launch.poolWorkers

/-- The threads of a block, of which `kSubmitBlockThreads` allows 32. -/
def threadsPerBlock : Nat := min launch.totalWorkers 32

def blocks : Nat := 1 + (launch.totalWorkers - 1) / launch.threadsPerBlock

/-- A thread beyond the workers returns at once. -/
def start (nextTask : Nat) : WorkerPool where
  nextTask
  claiming := min launch.totalWorkers (launch.blocks * launch.threadsPerBlock)

/-- An entry with a device beyond the table is a resolve failure. -/
def status (idx : Nat) (submitted : EntryCompletionStatus) : EntryCompletionStatus :=
  if ∃ entry ∈ launch.entries[idx]?, launch.numDevs ≤ entry.row then ⟨1, 0⟩ else submitted

def step (pool : WorkerPool) : PoolStep → WorkerPool
  | .atomicAdd =>
    let idx := pool.nextTask
    let added := { pool with nextTask := (idx + 1) % 2 ^ 32, claiming := pool.claiming - 1 }
    if launch.count ≤ idx then
      if idx = (launch.count + launch.totalWorkers + (2 ^ 32 - 1)) % 2 ^ 32 then
        { added with resetting := pool.resetting + 1 }
      else added
    else { added with processing := idx :: pool.processing }
  | .process idx submitted =>
    { pool with
      claiming := pool.claiming + 1
      processing := pool.processing.erase idx
      written := (idx, launch.status idx submitted) :: pool.written }
  | .atomicExch => { pool with nextTask := 0, resetting := pool.resetting - 1 }

/-- The adds and the steps of a launch are counted without wrapping. -/
structure Progress (adds steps : Nat) (pool : WorkerPool) : Prop where
  taken : (pool.written.map Prod.fst ++ pool.processing).Perm (range (min adds launch.count))
  workers : pool.claiming + pool.processing.length + (adds - launch.count) = launch.totalWorkers
  /-- Adds are left, the last one was made, or it was and the cursor is reset. -/
  nextTask : adds < launch.count + launch.totalWorkers ∧ pool.resetting = 0 ∧
      pool.nextTask = adds ∧ steps = adds + pool.written.length ∨
    adds = launch.count + launch.totalWorkers ∧ (pool.resetting = 1 ∧
      steps = adds + pool.written.length ∨ pool.resetting = 0 ∧ pool.nextTask = 0 ∧
      steps = adds + pool.written.length + 1)

variable {launch}

theorem totalWorkers_pos : 0 < launch.totalWorkers := by
  have positive := launch.poolWorkers_pos
  unfold totalWorkers
  split_ifs <;> omega

/-- The grid has a thread for every worker. -/
theorem totalWorkers_le : launch.totalWorkers ≤ launch.blocks * launch.threadsPerBlock := by
  have positive : 0 < launch.threadsPerBlock := lt_min totalWorkers_pos (by decide)
  have whole := Nat.lt_div_mul_add (a := launch.totalWorkers - 1) positive
  rw [blocks, Nat.add_mul, one_mul]
  omega

theorem progress_start : launch.Progress 0 0 (launch.start 0) where
  taken := by simp [start]
  workers := by simp [start, totalWorkers_le]
  nextTask := .inl ⟨Nat.add_pos_right _ totalWorkers_pos, rfl, rfl, rfl⟩

variable {adds steps : Nat} {pool : WorkerPool}

/-- A step of some worker keeps the account. -/
theorem Progress.step (fits : launch.count + launch.totalWorkers < 2 ^ 32)
    (progress : launch.Progress adds steps pool) {action : PoolStep}
    (enabled : pool.Enabled action) :
    ∃ adds, launch.Progress adds (steps + 1) (launch.step pool action) := by
  obtain ⟨taken, workers, nextTask⟩ := progress
  cases action with
  | atomicAdd =>
    dsimp only [WorkerPool.Enabled] at enabled
    obtain ⟨left, idle, rfl, rfl⟩ | ⟨full, _⟩ := nextTask
    · have added : (pool.nextTask + 1) % 2 ^ 32 = pool.nextTask + 1 := by omega
      refine ⟨pool.nextTask + 1, ?_⟩
      dsimp only [PoolLaunch.step]
      rw [added]
      split
      · rename_i failed
        rw [min_eq_right failed, ← min_eq_right (Nat.le_succ_of_le failed)] at taken
        split <;> exact ⟨taken, by dsimp only; omega, by dsimp only; omega⟩
      · rename_i entry
        rw [min_eq_left (by omega)] at taken
        refine ⟨?_, by simp; omega, by dsimp only; omega⟩
        rw [min_eq_left (by omega), range_succ]
        exact perm_middle.trans ((taken.cons _).trans (perm_append_singleton _ _).symm)
    · omega
  | process idx submitted =>
    have claimed := perm_cons_erase enabled
    have length := claimed.length_eq
    refine ⟨adds, perm_middle.symm.trans ((claimed.symm.append_left _).trans taken), ?_, ?_⟩
    · simp [PoolLaunch.step] at length ⊢
      omega
    · simp [PoolLaunch.step]
      omega
  | atomicExch =>
    dsimp only [WorkerPool.Enabled] at enabled
    exact ⟨adds, taken, workers, by dsimp only [PoolLaunch.step]; omega⟩

/-- So does a run. -/
theorem Progress.run (fits : launch.count + launch.totalWorkers < 2 ^ 32)
    (progress : launch.Progress adds steps pool) {actions : List PoolStep}
    (enabled : Along launch.step WorkerPool.Enabled pool actions) :
    ∃ adds, launch.Progress adds (steps + actions.length) (runFrom launch.step pool actions) := by
  induction actions generalizing adds steps pool with
  | nil => exact ⟨adds, progress⟩
  | cons action actions ih =>
    obtain ⟨_, next⟩ := progress.step fits enabled.1
    rw [length_cons, Nat.add_comm actions.length, ← Nat.add_assoc]
    exact ih next enabled.2

/-- The last worker to return has reset the cursor. -/
theorem Progress.finish (progress : launch.Progress adds steps pool) (finished : pool.Finished) :
    (pool.written.map Prod.fst).Perm (range launch.count) ∧ pool.nextTask = 0 := by
  obtain ⟨taken, workers, nextTask⟩ := progress
  obtain ⟨claiming, processing, resetting⟩ := finished
  have total := @totalWorkers_pos launch
  rw [processing, length_nil] at workers
  rw [processing, append_nil, min_eq_right (by omega)] at taken
  exact ⟨taken, by omega⟩

/-- In every interleaving of a launch whose cursor does not wrap, no entry is taken twice and the
steps come to an end; then every entry has got its status, and the cursor is zero for the next
launch. -/
theorem written_once (launch : PoolLaunch) (fits : launch.count + launch.totalWorkers < 2 ^ 32)
    (actions : List PoolStep)
    (enabled : Along launch.step WorkerPool.Enabled (launch.start 0) actions) :
    let pool := runFrom launch.step (launch.start 0) actions
    (pool.written.map Prod.fst ++ pool.processing).Nodup ∧
      actions.length ≤ 2 * launch.count + launch.totalWorkers + 1 ∧
      (pool.Finished →
        (pool.written.map Prod.fst).Perm (range launch.count) ∧ pool.nextTask = 0) := by
  obtain ⟨adds, progress⟩ := progress_start.run fits enabled
  have entries := progress.taken.length_eq
  have cursor := progress.nextTask
  rw [length_append, length_map, length_range] at entries
  exact ⟨progress.taken.nodup_iff.mpr nodup_range, by omega, progress.finish⟩

/-- Three entries, of which the second has no device, for two workers. -/
def pairLaunch : PoolLaunch where
  entries := [⟨0, false, 0, none⟩, ⟨7, true, 4096, none⟩, ⟨0, false, 4096, none⟩]
  numDevs := 1
  poolWorkers := 2
  poolWorkers_pos := Nat.two_pos

/-- Both workers take an entry before one is done, and the slower one resets the cursor. -/
def pairSteps : List PoolStep :=
  [.atomicAdd, .atomicAdd, .process 1 ⟨0, 0⟩, .atomicAdd, .process 0 ⟨0, 0⟩, .atomicAdd,
    .process 2 ⟨0, 0⟩, .atomicAdd, .atomicExch]

theorem written_once_pair :
    let pool := runFrom pairLaunch.step (pairLaunch.start 0) pairSteps
    pool.written = [(2, ⟨0, 0⟩), (0, ⟨0, 0⟩), (1, ⟨1, 0⟩)] ∧ pool.nextTask = 0 :=
  ⟨by decide, ((written_once pairLaunch (by decide) pairSteps (by decide)).2.2
    (by decide)).2⟩

/-! ## One launch after the other -/

/-- A launch on an arena slot leaves its cursor to the next one. -/
def relaunch (nextTask : Nat) (run : PoolLaunch × List PoolStep) : Nat :=
  (runFrom run.1.step (run.1.start nextTask) run.2).nextTask

/-- The cursor of the launch does not wrap, and it runs until all its workers have returned. -/
def Completes (nextTask : Nat) (run : PoolLaunch × List PoolStep) : Prop :=
  run.1.count + run.1.totalWorkers < 2 ^ 32 ∧
    Along run.1.step WorkerPool.Enabled (run.1.start nextTask) run.2 ∧
    (runFrom run.1.step (run.1.start nextTask) run.2).Finished
  deriving Decidable

/-- Launches that complete leave the cursor at zero. -/
theorem relaunch_completed {launches : List (PoolLaunch × List PoolStep)}
    (completed : Along relaunch Completes 0 launches) : runFrom relaunch 0 launches = 0 := by
  refine (completed.always (fun nextTask run (zero : nextTask = 0) done => ?_) rfl).last
  subst zero
  obtain ⟨_, reached⟩ := progress_start.run done.1 done.2.1
  exact (reached.finish done.2.2).2

/-- After any launches on an arena slot and in every interleaving of the next one: a worker can go
on until all have returned, within so many steps; no entry is taken twice and nothing else is; and
at the end every entry has got its status and the cursor is zero again. The grid has a thread for
every worker. -/
theorem relaunched_once (launches : List (PoolLaunch × List PoolStep))
    (completed : Along relaunch Completes 0 launches) (launch : PoolLaunch)
    (fits : launch.count + launch.totalWorkers < 2 ^ 32) (actions : List PoolStep)
    (enabled : Along launch.step WorkerPool.Enabled
      (launch.start (runFrom relaunch 0 launches)) actions) :
    let pool := runFrom launch.step (launch.start (runFrom relaunch 0 launches)) actions
    (pool.Finished ∨ ∃ action, pool.Enabled action) ∧
      actions.length ≤ 2 * launch.count + launch.totalWorkers + 1 ∧
      ((pool.written.map Prod.fst ++ pool.processing).Nodup ∧
        ∀ idx ∈ pool.written.map Prod.fst ++ pool.processing, idx < launch.count) ∧
      (pool.Finished →
        (pool.written.map Prod.fst).Perm (range launch.count) ∧ pool.nextTask = 0) ∧
      launch.totalWorkers ≤ launch.blocks * launch.threadsPerBlock := by
  rw [relaunch_completed completed] at enabled ⊢
  obtain ⟨adds, progress⟩ := progress_start.run fits enabled
  have entries := progress.taken.length_eq
  have cursor := progress.nextTask
  rw [length_append, length_map, length_range] at entries
  refine ⟨WorkerPool.finished_or_enabled _, by omega,
    ⟨progress.taken.nodup_iff.mpr nodup_range, fun idx listed => ?_⟩, progress.finish,
    totalWorkers_le⟩
  exact lt_of_lt_of_le (mem_range.mp (progress.taken.mem_iff.mp listed)) (min_le_right _ _)

theorem relaunched_once_pair :
    let pool := runFrom pairLaunch.step
      (pairLaunch.start (relaunch 0 (pairLaunch, pairSteps))) pairSteps
    pool.Finished ∧ (pool.written.map Prod.fst).Perm [0, 1, 2] :=
  ⟨by decide, ((relaunched_once [(pairLaunch, pairSteps)] (by decide) pairLaunch (by decide)
    pairSteps (by decide)).2.2.2.1 (by decide)).1⟩

/-- One of two workers takes the first entries while the other waits. -/
def alone (entries : Nat) : List PoolStep :=
  (range entries).flatMap fun idx => [.atomicAdd, .process idx ⟨0, 0⟩]

theorem run_alone (two : launch.totalWorkers = 2) {entries : Nat} (few : entries ≤ launch.count)
    (fits : launch.count < 2 ^ 32) :
    Along launch.step WorkerPool.Enabled (launch.start 0) (alone entries) ∧
      ∃ written, written.map Prod.fst = (range entries).reverse ∧
        runFrom launch.step (launch.start 0) (alone entries) = ⟨entries, 2, [], 0, written⟩ := by
  induction entries with
  | zero =>
    refine ⟨trivial, [], rfl, ?_⟩
    show launch.start 0 = _
    rw [start, min_eq_left totalWorkers_le, two]
  | succ entries ih =>
    obtain ⟨enabled, written, listed, reached⟩ := ih (by omega)
    have taken : launch.step ⟨entries, 2, [], 0, written⟩ .atomicAdd =
        ⟨entries + 1, 1, [entries], 0, written⟩ := by
      rw [step]
      dsimp only
      rw [if_neg (by omega), Nat.mod_eq_of_lt (by omega)]
    have more : alone (entries + 1) = alone entries ++ [.atomicAdd, .process entries ⟨0, 0⟩] := by
      simp [alone, range_succ]
    rw [more, Along.append, runFrom_append, reached]
    refine ⟨⟨enabled, Nat.two_pos, ?_, trivial⟩,
      (entries, launch.status entries ⟨0, 0⟩) :: written, ?_, ?_⟩
    · rw [taken]
      exact .head _
    · rw [map_cons, listed, range_succ, reverse_append]
      rfl
    · show launch.step (launch.step _ .atomicAdd) (.process entries ⟨0, 0⟩) = _
      rw [taken]
      simp [step]

/-- With two workers and `2 ^ 32 - 1` entries the cursor wraps when the first worker has failed to
get another one, and the second worker takes the first entry again. -/
theorem wrapping_takes_twice : ∃ (launch : PoolLaunch) (actions : List PoolStep),
    Along launch.step WorkerPool.Enabled (launch.start 0) actions ∧
      ¬ ((runFrom launch.step (launch.start 0) actions).written.map Prod.fst ++
        (runFrom launch.step (launch.start 0) actions).processing).Nodup := by
  obtain ⟨launch, count, two⟩ : ∃ launch : PoolLaunch,
      launch.count = 2 ^ 32 - 1 ∧ launch.totalWorkers = 2 := by
    refine ⟨⟨replicate (2 ^ 32 - 1) ⟨0, false, 0, none⟩, 1, 2, Nat.two_pos⟩, ?_, ?_⟩
    · exact length_replicate
    · rw [totalWorkers, if_neg]
      rw [PoolLaunch.count, length_replicate]
      decide
  obtain ⟨enabled, written, listed, reached⟩ := run_alone two le_rfl (by omega)
  have wraps : launch.step ⟨launch.count, 2, [], 0, written⟩ .atomicAdd =
      ⟨0, 1, [], 0, written⟩ := by
    simp [step, count, two]
  have again : launch.step ⟨0, 1, [], 0, written⟩ .atomicAdd = ⟨1, 0, [0], 0, written⟩ := by
    simp [step, count]
  refine ⟨launch, alone launch.count ++ [.atomicAdd, .atomicAdd], ?_, ?_⟩
  · rw [Along.append, reached]
    refine ⟨enabled, Nat.two_pos, ?_, trivial⟩
    rw [wraps]
    exact Nat.one_pos
  · have last : runFrom launch.step (launch.start 0)
        (alone launch.count ++ [.atomicAdd, .atomicAdd]) = ⟨1, 0, [0], 0, written⟩ := by
      rw [runFrom_append, reached, ← again, ← wraps]
      rfl
    rw [last, listed, nodup_append]
    intro distinct
    refine distinct.2.2 0 (mem_reverse.mpr (mem_range.mpr ?_)) 0 (.head _) rfl
    omega

end PoolLaunch

end Tutti.Striped
