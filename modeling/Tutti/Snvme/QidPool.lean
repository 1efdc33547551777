import Mathlib.Data.List.Perm.Basic
import Tutti.Foundation.Run

/-!
# The user queue ids of a controller

`NVM_ADD_USER_QUEUE` takes ids from a pool of the controller and destroying a group gives
them back. The pool is set up by the first call that needs it, from what the binding of that
time left to user queues, and keeps its range over every later unbind and bind. A call reads
the controller before it takes `groups_lock` of its descriptor, holds the lock from its ids
to its last Create command, and copies the ids out without it; a copy-out that faults takes
the last queues of the group back, whosever they are by then.
-/

namespace Tutti.Snvme

open Foundation List

inductive Errno where
  | inval
  | noent
  | busy
  | again
  | nodev
  deriving DecidableEq, Repr

/-- The user queue ids from `first` to `last`; `bits` are the ids whose bit is set. -/
structure QidPool where
  first : Nat
  last : Nat
  bits : List Nat := []

/-- What the driver reads of a controller that is bound and has a live admin queue. -/
structure NvmeDev where
  onlineQueues : Nat
  nrAllocatedQueues : Nat
  ctrlMaxIoQueues : Nat
  deriving DecidableEq

/-- A queue group, with the ids in its live slots. `owed` is no field of the source: the ids of
the calls that added queues to the group and have not failed. -/
structure QGroup where
  descriptor : Nat
  groupId : Nat
  fd : Nat
  qids : List Nat := []
  owed : List Nat := []
  deriving DecidableEq

/-- A call of `NVM_ADD_USER_QUEUE`, with the controller that it found. -/
structure AddCall where
  thread : Nat
  fd : Nat
  groupId : Nat
  nrPairs : Nat
  ndev : NvmeDev
  deriving DecidableEq

/-- A call that has its ids, and `g`. -/
structure Adding where
  call : AddCall
  descriptor : Nat
  qids : List Nat
  deriving DecidableEq

structure Ctrl where
  liveNdev : Option NvmeDev := none
  capKernelIoq : Option Nat := none
  pool : Option QidPool := none
  groups : List QGroup := []
  /-- How many group descriptors were allocated. -/
  descriptors : Nat := 0
  /-- The calls that wait for `groups_lock`. -/
  entered : List AddCall := []
  /-- The calls that hold `groups_lock` and send Create commands. -/
  creating : List Adding := []
  /-- The calls that have dropped it and copy their ids out. -/
  copying : List Adding := []

inductive PoolAction where
  | createQueueGroup (fd id : Nat)
  | enterAdd (thread fd id nrPairs : Nat)
  /-- The call gets the lock; `resolved` if its pairs have mappings in the group. -/
  | allocate (thread : Nat) (resolved : Bool)
  | create (thread : Nat) (created : Bool)
  | copyOut (thread : Nat) (copied : Bool)
  | destroyQueueGroup (fd id : Nat)
  | devRelease (fd : Nat)
  /-- `NVM_SET_KERNEL_IOQ_CAP`, which the next probe reads. -/
  | setKernelIoqCap (cap : Nat)
  /-- `snvm_rebind_driver` and the probe that follows; the queue counts are what it finds. -/
  | bind (ndev : NvmeDev)
  /-- `snvm_unbind_driver`. -/
  | unbind

/-- `NVM_MAX_QUEUES_PER_GROUP`. -/
def maxQueuesPerGroup : Nat := 32

namespace QidPool

def setBit (pool : QidPool) (qid : Nat) : QidPool := { pool with bits := pool.bits ++ [qid] }

def clearBit (pool : QidPool) (qid : Nat) : QidPool :=
  { pool with bits := pool.bits.filter (· ≠ qid) }

/-- `find_first_zero_bit`. -/
def firstZero (pool : QidPool) : Option Nat :=
  (range' pool.first (pool.last + 1 - pool.first)).find? (· ∉ pool.bits)

/-- `snvm_user_qid_alloc_locked`; `qids` are those given so far, which an exhausted pool
takes back. -/
def alloc (pool : QidPool) (qids : List Nat) : Nat → QidPool × Option (List Nat)
  | 0 => (pool, some qids)
  | nr + 1 =>
    match pool.firstZero with
    | none => (qids.reverse.foldl clearBit pool, none)
    | some qid => (pool.setBit qid).alloc (qids ++ [qid]) nr

/-- `snvm_user_qid_free_locked`. -/
def free (pool : QidPool) (qid : Nat) : QidPool :=
  if qid < pool.first ∨ pool.last < qid then pool else pool.clearBit qid

end QidPool

namespace Ctrl

/-- `snvm_user_qid_pool_init_locked`. -/
def poolInit (ctrl : Ctrl) (ndev : NvmeDev) : Except Errno QidPool :=
  match ctrl.pool with
  | some pool => .ok pool
  | none =>
    if ndev.onlineQueues = 0 ∨ ndev.nrAllocatedQueues = 0 ∨ ndev.ctrlMaxIoQueues = 0 then
      .error .nodev
    else if ndev.ctrlMaxIoQueues < ndev.onlineQueues then .error .busy
    else .ok { first := ndev.onlineQueues, last := ndev.ctrlMaxIoQueues }

/-- `groups_lock` of a descriptor is held. -/
def locked (ctrl : Ctrl) (fd : Nat) : Bool := ctrl.creating.any (·.call.fd = fd)

/-- `find_qgroup_locked`. -/
def findQGroup (ctrl : Ctrl) (fd id : Nat) : Option QGroup :=
  ctrl.groups.find? fun group => group.groupId = id ∧ group.fd = fd

/-- The group that a call has a pointer to, if it is not freed. -/
def groupAt (ctrl : Ctrl) (adding : Adding) : Option QGroup :=
  ctrl.groups.find? (·.descriptor = adding.descriptor)

/-- `NVM_CREATE_QUEUE_GROUP`; `id` is one that no group has. -/
def createQueueGroup (ctrl : Ctrl) (fd id : Nat) : Ctrl :=
  if ctrl.locked fd = false ∧ ∀ group ∈ ctrl.groups, group.groupId ≠ id then
    { ctrl with
      groups := { descriptor := ctrl.descriptors, groupId := id, fd } :: ctrl.groups
      descriptors := ctrl.descriptors + 1 }
  else ctrl

/-- `NVM_ADD_USER_QUEUE` up to `snvm_ctrl_get_live_ndev`. -/
def enterAdd (ctrl : Ctrl) (thread fd id nrPairs : Nat) : Ctrl × Option Errno :=
  if nrPairs = 0 ∨ maxQueuesPerGroup < nrPairs then (ctrl, some .inval)
  else
    match ctrl.liveNdev with
    | none => (ctrl, some .nodev)
    | some ndev =>
      ({ ctrl with entered := ctrl.entered ++ [⟨thread, fd, id, nrPairs, ndev⟩] }, none)

/-- The call under `groups_lock`, up to its ids. -/
def allocate (ctrl : Ctrl) (call : AddCall) (resolved : Bool) : Ctrl × Option Errno :=
  match ctrl.findQGroup call.fd call.groupId with
  | none => (ctrl, some .noent)
  | some group =>
    if maxQueuesPerGroup < group.qids.length + call.nrPairs then (ctrl, some .busy)
    else if resolved = false then (ctrl, some .noent)
    else
      match ctrl.poolInit call.ndev with
      | .error errno => (ctrl, some errno)
      | .ok pool =>
        match pool.alloc [] call.nrPairs with
        | (pool, none) => ({ ctrl with pool := some pool }, some .again)
        | (pool, some qids) =>
          ({ ctrl with
            pool := some pool
            creating := ⟨call, group.descriptor, qids⟩ :: ctrl.creating }, none)

/-- The Create commands: the queues are committed to the group, or the ids are freed. -/
def create (ctrl : Ctrl) (adding : Adding) (created : Bool) : Ctrl :=
  if created then
    match ctrl.groupAt adding with
    -- the lock keeps the group
    | none => ctrl
    | some group =>
      { ctrl with
        groups := { group with
          qids := group.qids ++ adding.qids
          owed := group.owed ++ adding.qids } :: ctrl.groups.erase group
        creating := ctrl.creating.erase adding
        copying := adding :: ctrl.copying }
  else
    { ctrl with
      pool := ctrl.pool.map fun pool => adding.qids.foldl QidPool.free pool
      creating := ctrl.creating.erase adding }

/-- `copy_to_user`; if it faults, the last queues of the group are given back. -/
def copyOut (ctrl : Ctrl) (adding : Adding) (copied : Bool) : Ctrl :=
  let left := { ctrl with copying := ctrl.copying.erase adding }
  if copied then left
  else
    match ctrl.groupAt adding with
    -- what is freed is written to
    | none => left
    | some group =>
      let kept := group.qids.length - adding.call.nrPairs
      { left with
        pool := ctrl.pool.map fun pool => (group.qids.drop kept).foldl QidPool.free pool
        groups := { group with
          qids := group.qids.take kept
          owed := group.owed.filter (· ∉ adding.qids) } :: ctrl.groups.erase group }

/-- `destroy_qgroup_locked` for the group of this id, if there is one: its live queues are
given back from the last slot to the first. -/
def destroyQGroup (ctrl : Ctrl) (fd id : Nat) : Ctrl :=
  match ctrl.findQGroup fd id with
  | none => ctrl
  | some group =>
    { ctrl with
      pool := ctrl.pool.map fun pool => group.qids.reverse.foldl QidPool.free pool
      groups := ctrl.groups.erase group }

/-- The groups that `snvm_dev_release` destroys. -/
def groupsOn (ctrl : Ctrl) (fd : Nat) : List Nat :=
  (ctrl.groups.filter (·.fd = fd)).map QGroup.groupId

/-- A call on the descriptor is under way, which keeps it open. -/
def inUse (ctrl : Ctrl) (fd : Nat) : Bool :=
  ctrl.entered.any (·.fd = fd) || ctrl.locked fd || ctrl.copying.any (·.call.fd = fd)

/-- What a step does, which waits while the lock that it needs is held. Of two calls of a
thread the older is meant. -/
def step (ctrl : Ctrl) : PoolAction → Ctrl
  | .createQueueGroup fd id => ctrl.createQueueGroup fd id
  | .enterAdd thread fd id nrPairs => (ctrl.enterAdd thread fd id nrPairs).1
  | .allocate thread resolved =>
    match ctrl.entered.find? (·.thread = thread) with
    | none => ctrl
    | some call =>
      if ctrl.locked call.fd then ctrl
      else ({ ctrl with entered := ctrl.entered.erase call }.allocate call resolved).1
  | .create thread created =>
    match ctrl.creating.find? (·.call.thread = thread) with
    | none => ctrl
    | some adding => ctrl.create adding created
  | .copyOut thread copied =>
    match ctrl.copying.find? (·.call.thread = thread) with
    | none => ctrl
    | some adding =>
      if copied = false ∧ ctrl.locked adding.call.fd then ctrl else ctrl.copyOut adding copied
  | .destroyQueueGroup fd id => if ctrl.locked fd then ctrl else ctrl.destroyQGroup fd id
  | .devRelease fd =>
    if ctrl.inUse fd then ctrl
    else (ctrl.groupsOn fd).foldl (fun ctrl id => ctrl.destroyQGroup fd id) ctrl
  | .setKernelIoqCap cap => { ctrl with capKernelIoq := some cap }
  | .bind ndev => { ctrl with liveNdev := some ndev }
  | .unbind => { ctrl with liveNdev := none }

end Ctrl

/-! ## The pool -/

namespace QidPool

variable {pool next : QidPool}

/-- Every set bit is that of an id of the range. -/
def Ranged (pool : QidPool) : Prop := ∀ qid ∈ pool.bits, pool.first ≤ qid ∧ qid ≤ pool.last

theorem foldl_clearBit (pool : QidPool) (qids : List Nat) :
    qids.foldl clearBit pool = { pool with bits := pool.bits.filter (· ∉ qids) } := by
  induction qids generalizing pool with
  | nil => simp only [foldl_nil, not_mem_nil, not_false_eq_true, decide_true, filter_true]
  | cons qid qids ih =>
    rw [foldl_cons, ih]
    simp only [clearBit, filter_filter, mem_cons, not_or, Bool.decide_and, Bool.and_comm]

/-- Freeing ids within the range clears their bits. -/
theorem foldl_free (ranged : pool.Ranged) (qids : List Nat) :
    qids.foldl free pool = { pool with bits := pool.bits.filter (· ∉ qids) } := by
  rw [← foldl_clearBit]
  induction qids generalizing pool with
  | nil => rfl
  | cons qid qids ih =>
    have same : pool.free qid = pool.clearBit qid := by
      unfold free
      split
      · have unset : ∀ bit ∈ pool.bits, bit ≠ qid := by
          rintro bit member rfl
          have inside := ranged bit member
          omega
        rw [clearBit, filter_eq_self.mpr fun bit member => decide_eq_true (unset bit member)]
      · rfl
    rw [foldl_cons, same]
    exact ih fun bit member => ranged bit (mem_filter.mp member).1

/-- The id that is found is in the range and not in use. -/
theorem firstZero_eq_some {qid : Nat} (found : pool.firstZero = some qid) :
    (pool.first ≤ qid ∧ qid ≤ pool.last) ∧ qid ∉ pool.bits := by
  have inside := mem_range'_1.mp (mem_of_find?_eq_some found)
  have unset := find?_some found
  exact ⟨⟨inside.1, by omega⟩, of_decide_eq_true unset⟩

/-- Ids that were not set are taken back without a trace. -/
theorem filter_append_given {bits qids : List Nat} (unset : ∀ qid ∈ qids, qid ∉ bits) :
    (bits ++ qids).filter (· ∉ qids) = bits := by
  rw [filter_append, filter_eq_self.mpr, filter_eq_nil_iff.mpr, append_nil]
  · exact fun qid member => by simpa using member
  · exact fun qid member => decide_eq_true fun given => unset qid given member

/-- An allocation gives distinct ids of the range whose bits were not set, or leaves the pool
as it was before the first of its ids. -/
theorem alloc_spec (pool : QidPool) (qids : List Nat) (nr : Nat) :
    (∃ new, pool.alloc qids nr = ({ pool with bits := pool.bits ++ new }, some (qids ++ new)) ∧
      new.length = nr ∧ new.Nodup ∧
      ∀ qid ∈ new, (pool.first ≤ qid ∧ qid ≤ pool.last) ∧ qid ∉ pool.bits) ∨
    pool.alloc qids nr = ({ pool with bits := pool.bits.filter (· ∉ qids) }, none) := by
  induction nr generalizing pool qids with
  | zero => exact .inl ⟨[], by simp [alloc]⟩
  | succ nr ih =>
    rw [alloc]
    split
    · exact .inr (by simp only [foldl_clearBit, mem_reverse])
    rename_i qid found
    obtain ⟨inside, unset⟩ := firstZero_eq_some found
    rcases ih (pool.setBit qid) (qids ++ [qid]) with ⟨new, done, length, distinct, free⟩ | failed
    · refine .inl ⟨qid :: new, done.trans (by simp [setBit]), by simp [length], ?_, ?_⟩
      · refine nodup_cons.mpr ⟨fun member => ?_, distinct⟩
        exact (free qid member).2 (mem_append_right _ (mem_singleton_self _))
      rintro given (_ | ⟨_, member⟩)
      · exact ⟨inside, unset⟩
      · exact ⟨(free given member).1, fun set => (free given member).2 (mem_append_left _ set)⟩
    · refine .inr (failed.trans ?_)
      have apart : (pool.bits.filter fun bit => bit ∉ qids ++ [qid]) =
          pool.bits.filter (· ∉ qids) := by
        refine filter_congr fun bit member => ?_
        have other : bit ≠ qid := fun same => unset (same ▸ member)
        simp [other]
      rw [setBit, filter_append, apart]
      simp

/-- The rest of the bits stays set when some of them are freed. -/
theorem foldl_free_perm (ranged : pool.Ranged) (distinct : pool.bits.Nodup)
    {qids rest : List Nat} (split : pool.bits.Perm (qids ++ rest)) :
    ∃ bits, qids.foldl free pool = { pool with bits } ∧ bits.Perm rest ∧ bits <+ pool.bits := by
  have apart := (nodup_append.mp (split.nodup_iff.mp distinct)).2.2
  refine ⟨_, foldl_free ranged qids, (split.filter _).trans (List.Perm.of_eq ?_), filter_sublist⟩
  rw [filter_append, filter_eq_nil_iff.mpr, filter_eq_self.mpr, nil_append]
  · exact fun qid kept => decide_eq_true fun given => apart qid given qid kept rfl
  · exact fun qid given => by simpa using given

end QidPool

/-! ## Exactness -/

namespace Ctrl

variable {ctrl : Ctrl}

def bits (ctrl : Ctrl) : List Nat := ctrl.pool.elim [] QidPool.bits

/-- The ids of the live user queues. -/
def live (ctrl : Ctrl) : List Nat := ctrl.groups.flatMap QGroup.qids

/-- The ids whose queues are being created under the lock. -/
def underCreation (ctrl : Ctrl) : List Nat := ctrl.creating.flatMap Adding.qids

/-- The range of the pool lies in what the binding leaves to user queues. -/
def Fits (ctrl : Ctrl) (ndev : NvmeDev) : Prop := ∀ pool ∈ ctrl.pool,
  ndev.onlineQueues ≤ pool.first ∧ pool.last ≤ ndev.ctrlMaxIoQueues

/-- The set bits are the ids of the live user queues and of those under creation, no id twice,
the pool fits the binding of the controller, and a group has the queues it owes its callers. -/
structure Allotted (ctrl : Ctrl) : Prop where
  taken : ctrl.bits.Perm (ctrl.live ++ ctrl.underCreation)
  nodup : ctrl.bits.Nodup
  ranged : ∀ pool ∈ ctrl.pool, pool.Ranged
  fits : ∀ ndev ∈ ctrl.liveNdev, ctrl.Fits ndev
  owed : ∀ group ∈ ctrl.groups, group.qids = group.owed

/-- The live queues are those of a group and those of the others. -/
theorem live_perm {group : QGroup} (member : group ∈ ctrl.groups) :
    ctrl.live.Perm (group.qids ++ (ctrl.groups.erase group).flatMap QGroup.qids) :=
  (perm_cons_erase member).flatMap_right QGroup.qids

theorem underCreation_perm {adding : Adding} (member : adding ∈ ctrl.creating) :
    ctrl.underCreation.Perm
      (adding.qids ++ (ctrl.creating.erase adding).flatMap Adding.qids) :=
  (perm_cons_erase member).flatMap_right Adding.qids

/-- Ids that are neither live nor under creation any more are given back. -/
theorem Allotted.freed (allotted : ctrl.Allotted) {next : Ctrl} {qids : List Nat}
    (pool : next.pool = ctrl.pool.map fun pool => qids.foldl QidPool.free pool)
    (bound : next.liveNdev = ctrl.liveNdev)
    (split : (ctrl.live ++ ctrl.underCreation).Perm (qids ++ (next.live ++ next.underCreation)))
    (owed : ∀ group ∈ next.groups, group.qids = group.owed) : next.Allotted := by
  have taken := allotted.taken.trans split
  cases located : ctrl.pool with
  | none =>
    rw [located, Option.map_none] at pool
    rw [bits, located] at taken
    have none := append_eq_nil_iff.mp (nil_perm.mp taken)
    refine ⟨?_, ?_, ?_, ?_, owed⟩
    · rw [bits, pool, none.2]
      exact List.Perm.refl _
    · rw [bits, pool]
      exact nodup_nil
    · rw [pool]
      exact nofun
    · intro ndev _ other found
      rw [pool] at found
      cases found
  | some before =>
    have ranged := allotted.ranged before located
    have distinct := allotted.nodup
    rw [bits, located, Option.elim_some] at taken distinct
    obtain ⟨bits, freed, rest, kept⟩ := QidPool.foldl_free_perm ranged distinct taken
    rw [located, Option.map_some, freed] at pool
    refine ⟨?_, ?_, ?_, fun ndev member other found => ?_, owed⟩
    · rw [Ctrl.bits, pool]
      exact rest
    · rw [Ctrl.bits, pool]
      exact kept.nodup distinct
    · rw [pool]
      rintro _ ⟨⟩ qid set
      exact ranged qid (kept.subset set)
    · rw [pool] at found
      cases found
      exact allotted.fits ndev (bound ▸ member) before located

theorem Allotted.destroyQGroup (allotted : ctrl.Allotted) (fd id : Nat) :
    (ctrl.destroyQGroup fd id).Allotted := by
  unfold Ctrl.destroyQGroup
  split
  · exact allotted
  rename_i group found
  have split := live_perm (mem_of_find?_eq_some found)
  refine allotted.freed rfl rfl ?_ fun other member =>
    allotted.owed other (mem_of_mem_erase member)
  refine (split.append_right _).trans ?_
  rw [append_assoc]
  exact (reverse_perm _).symm.append_right _

/-- The pool that a call takes ids from is that of the controller or a new one. -/
theorem poolInit_cases {ndev : NvmeDev} {pool : QidPool} (done : ctrl.poolInit ndev = .ok pool) :
    ctrl.pool = some pool ∨
      ctrl.pool = none ∧ pool = { first := ndev.onlineQueues, last := ndev.ctrlMaxIoQueues } := by
  unfold Ctrl.poolInit at done
  split at done
  · rename_i found
    cases done
    exact .inl found
  rename_i absent
  split at done
  · cases done
  split at done
  · cases done
  cases done
  exact .inr ⟨absent, rfl⟩

/-- A call gets ids that were not set, or fails with the bits as they are. -/
theorem allocate_cases (ctrl : Ctrl) (call : AddCall) (resolved : Bool) :
    ((ctrl.allocate call resolved).2 ≠ none ∧ (ctrl.allocate call resolved).1 = ctrl) ∨
    ∃ pool, ctrl.poolInit call.ndev = .ok pool ∧
      (ctrl.allocate call resolved = ({ ctrl with pool := some pool }, some .again) ∨
        ∃ group new, new.Nodup ∧
          (∀ qid ∈ new, (pool.first ≤ qid ∧ qid ≤ pool.last) ∧ qid ∉ pool.bits) ∧
          ctrl.allocate call resolved = ({ ctrl with
            pool := some { pool with bits := pool.bits ++ new }
            creating := ⟨call, group, new⟩ :: ctrl.creating }, none)) := by
  unfold Ctrl.allocate
  split
  · exact .inl ⟨nofun, rfl⟩
  split
  · exact .inl ⟨nofun, rfl⟩
  split
  · exact .inl ⟨nofun, rfl⟩
  split
  · exact .inl ⟨nofun, rfl⟩
  rename_i pool init
  refine .inr ⟨pool, init, ?_⟩
  rcases pool.alloc_spec [] call.nrPairs with ⟨new, done, _, distinct, free⟩ | failed
  · rw [nil_append] at done
    simp only [done]
    exact .inr ⟨_, new, distinct, free, rfl⟩
  · simp only [not_mem_nil, not_false_eq_true, decide_true, filter_true] at failed
    rw [failed]
    exact .inl rfl

theorem bits_poolInit {ndev : NvmeDev} {pool : QidPool} (done : ctrl.poolInit ndev = .ok pool) :
    pool.bits = ctrl.bits := by
  rcases poolInit_cases done with found | ⟨absent, rfl⟩
  · rw [bits, found, Option.elim_some]
  · rw [bits, absent, Option.elim_none]

/-- A call that fails before its Create commands leaves the bits. -/
theorem bits_allocate_failed {call : AddCall} {resolved : Bool}
    (failed : (ctrl.allocate call resolved).2 ≠ none) :
    (ctrl.allocate call resolved).1.bits = ctrl.bits := by
  rcases ctrl.allocate_cases call resolved with ⟨_, same⟩ | ⟨pool, init, full | ⟨_, _, _, _, done⟩⟩
  · rw [same]
  · rw [full]
    exact bits_poolInit init
  · rw [done] at failed
    exact absurd rfl failed

theorem Allotted.allocate (allotted : ctrl.Allotted) {call : AddCall} (resolved : Bool)
    (still : ctrl.pool = none → ∀ bound ∈ ctrl.liveNdev, bound.onlineQueues ≤
      call.ndev.onlineQueues ∧ call.ndev.ctrlMaxIoQueues ≤ bound.ctrlMaxIoQueues) :
    (ctrl.allocate call resolved).1.Allotted := by
  rcases ctrl.allocate_cases call resolved with ⟨_, same⟩ | ⟨pool, init, rest⟩
  · rwa [same]
  have same := bits_poolInit init
  have again : { ctrl with pool := some pool }.Allotted := by
    refine ⟨(List.Perm.of_eq same).trans allotted.taken,
      (List.Perm.of_eq same).nodup_iff.mpr allotted.nodup, ?_, ?_, allotted.owed⟩
    · rintro _ ⟨⟩
      rcases poolInit_cases init with found | ⟨_, rfl⟩
      · exact allotted.ranged pool found
      · exact nofun
    · rintro ndev bound _ ⟨⟩
      rcases poolInit_cases init with found | ⟨absent, rfl⟩
      · exact allotted.fits ndev bound pool found
      · exact still absent ndev bound
  rcases rest with full | ⟨group, new, distinct, free, done⟩
  · rwa [full]
  rw [done]
  refine ⟨?_, ?_, ?_, ?_, allotted.owed⟩
  · refine (again.taken.append_right new).trans ?_
    rw [append_assoc]
    exact perm_append_comm.append_left _
  · refine nodup_append.mpr ⟨again.nodup, distinct, ?_⟩
    rintro qid old _ given rfl
    exact (free qid given).2 old
  · rintro _ ⟨⟩
    exact forall_mem_append.mpr ⟨again.ranged pool rfl, fun qid given => (free qid given).1⟩
  · rintro ndev bound _ ⟨⟩
    exact again.fits ndev bound pool rfl

theorem Allotted.create (allotted : ctrl.Allotted) {adding : Adding}
    (member : adding ∈ ctrl.creating) (created : Bool) :
    (ctrl.create adding created).Allotted := by
  have split := underCreation_perm member
  unfold Ctrl.create
  split
  · split
    · exact allotted
    rename_i group found
    have kept := mem_of_find?_eq_some found
    refine ⟨allotted.taken.trans ?_, allotted.nodup, allotted.ranged, allotted.fits, ?_⟩
    · refine ((live_perm kept).append split).trans ?_
      simp only [live, underCreation, flatMap_cons, append_assoc]
      exact (perm_append_comm_assoc _ _ _).append_left _
    · rintro other (_ | ⟨_, rest⟩)
      · exact congrArg (· ++ adding.qids) (allotted.owed group kept)
      · exact allotted.owed other (mem_of_mem_erase rest)
  · refine allotted.freed rfl rfl ?_ allotted.owed
    exact (split.append_left _).trans (perm_append_comm_assoc _ _ _)

/-- The last queues of the group are those that the call added. -/
def OwnLast (ctrl : Ctrl) (adding : Adding) : Prop :=
  ∃ group ∈ ctrl.groupAt adding,
    group.qids.drop (group.qids.length - adding.call.nrPairs) = adding.qids

theorem Allotted.copyOut (allotted : ctrl.Allotted) {adding : Adding} {copied : Bool}
    (last : copied = false → ctrl.OwnLast adding) : (ctrl.copyOut adding copied).Allotted := by
  unfold Ctrl.copyOut
  dsimp only
  split
  · exact ⟨allotted.taken, allotted.nodup, allotted.ranged, allotted.fits, allotted.owed⟩
  rename_i faults
  obtain ⟨group, found, own⟩ := last (Bool.not_eq_true _ ▸ faults)
  have kept := mem_of_find?_eq_some found
  have parts := take_append_drop (group.qids.length - adding.call.nrPairs) group.qids
  have split := live_perm kept
  rw [Option.mem_def.mp found]
  refine allotted.freed rfl rfl ?_ ?_
  · refine (split.append_right _).trans ?_
    show (group.qids ++ _ ++ _).Perm (_ ++ (_ ++ _ ++ _))
    nth_rewrite 1 [← parts]
    simp only [append_assoc]
    exact perm_append_comm_assoc _ _ _
  · rintro other (_ | ⟨_, rest⟩)
    · show group.qids.take _ = group.owed.filter (· ∉ adding.qids)
      have all := (allotted.taken.trans (split.append_right _)).nodup_iff.mp allotted.nodup
      have distinct := (nodup_append.mp (nodup_append.mp all).1).1
      rw [← allotted.owed group kept]
      rw [own] at parts
      generalize group.qids.take _ = first at parts ⊢
      rw [← parts] at distinct ⊢
      refine (QidPool.filter_append_given fun qid given early => ?_).symm
      exact (nodup_append.mp distinct).2.2 qid early qid given rfl
    · exact allotted.owed other (mem_of_mem_erase rest)

/-- A binding that comes after the pool was set up leaves its range to user queues, the call
that sets it up has found a binding with no more ids than the current one, and a copy-out
faults while the queues of its call are still the last of the group. -/
def Orderly (ctrl : Ctrl) : PoolAction → Prop
  | .bind ndev => ctrl.Fits ndev
  | .allocate thread _ => ∀ call ∈ ctrl.entered, call.thread = thread → ctrl.pool = none →
      ∀ ndev ∈ ctrl.liveNdev, ndev.onlineQueues ≤ call.ndev.onlineQueues ∧
        call.ndev.ctrlMaxIoQueues ≤ ndev.ctrlMaxIoQueues
  | .copyOut thread copied => ∀ adding ∈ ctrl.copying, adding.call.thread = thread →
      copied = false → ctrl.OwnLast adding
  | _ => True

instance (ctrl : Ctrl) (ndev : NvmeDev) : Decidable (ctrl.Fits ndev) := by
  unfold Fits
  infer_instance

instance (ctrl : Ctrl) (adding : Adding) : Decidable (ctrl.OwnLast adding) := by
  unfold OwnLast
  infer_instance

instance (ctrl : Ctrl) (action : PoolAction) : Decidable (ctrl.Orderly action) := by
  cases action <;> unfold Orderly <;> infer_instance

/-- Every orderly step keeps the account of the ids. -/
theorem Allotted.step (allotted : ctrl.Allotted) {action : PoolAction}
    (orderly : ctrl.Orderly action) : (ctrl.step action).Allotted := by
  obtain ⟨taken, nodup, ranged, fits, owed⟩ := id allotted
  cases action with
  | createQueueGroup fd id =>
    change (ctrl.createQueueGroup fd id).Allotted
    unfold createQueueGroup
    split
    · exact ⟨taken, nodup, ranged, fits, forall_mem_cons.mpr ⟨rfl, owed⟩⟩
    · exact allotted
  | enterAdd thread fd id nrPairs =>
    change (ctrl.enterAdd thread fd id nrPairs).1.Allotted
    unfold enterAdd
    split
    · exact allotted
    split
    · exact allotted
    · exact ⟨taken, nodup, ranged, fits, owed⟩
  | allocate thread resolved =>
    unfold Ctrl.step
    dsimp only
    split
    · exact allotted
    rename_i call found
    split
    · exact allotted
    have entered : { ctrl with entered := ctrl.entered.erase call }.Allotted :=
      ⟨taken, nodup, ranged, fits, owed⟩
    have meant := find?_some found
    exact entered.allocate resolved (orderly call (mem_of_find?_eq_some found)
      (of_decide_eq_true meant))
  | create thread created =>
    unfold Ctrl.step
    dsimp only
    split
    · exact allotted
    rename_i found
    exact allotted.create (mem_of_find?_eq_some found) created
  | copyOut thread copied =>
    unfold Ctrl.step
    dsimp only
    split
    · exact allotted
    rename_i adding found
    split
    · exact allotted
    have meant := find?_some found
    exact allotted.copyOut (orderly adding (mem_of_find?_eq_some found) (of_decide_eq_true meant))
  | destroyQueueGroup fd id =>
    unfold Ctrl.step
    dsimp only
    split
    · exact allotted
    · exact allotted.destroyQGroup fd id
  | devRelease fd =>
    unfold Ctrl.step
    dsimp only
    split
    · exact allotted
    · exact invariant_runFrom (fun (ctrl : Ctrl) id (allotted : ctrl.Allotted) =>
        allotted.destroyQGroup fd id) allotted (ctrl.groupsOn fd)
  | setKernelIoqCap cap => exact ⟨taken, nodup, ranged, fits, owed⟩
  | bind ndev => exact ⟨taken, nodup, ranged, fun _ bound => Option.some.inj bound ▸ orderly, owed⟩
  | unbind => exact ⟨taken, nodup, ranged, nofun, owed⟩

/-- What the pool of a controller promises: its bits are the ids of the live user queues and of
those under creation, each held once and within what the current binding leaves to user
queues; the live queues of a group are those of the calls that did not fail; and a call that
gets no ids leaves the bits as they are. -/
structure Promised (ctrl : Ctrl) : Prop where
  taken : ctrl.bits.Perm (ctrl.live ++ ctrl.underCreation)
  nodup : ctrl.bits.Nodup
  within : ∀ ndev ∈ ctrl.liveNdev, ∀ qid ∈ ctrl.bits,
    ndev.onlineQueues ≤ qid ∧ qid ≤ ndev.ctrlMaxIoQueues
  owed : ∀ group ∈ ctrl.groups, group.qids = group.owed
  failed : ∀ call resolved, (ctrl.allocate call resolved).2 ≠ none →
    (ctrl.allocate call resolved).1.bits = ctrl.bits

/-- In every state of every orderly run the pool keeps its promises. -/
theorem pool_exact_of_orderly (actions : List PoolAction)
    (orderly : Along step Orderly {} actions) : Always step Promised {} actions := by
  refine (orderly.always (fun _ _ allotted => Allotted.step allotted) ?_).imp
    fun ctrl allotted => ?_
  · exact ⟨List.Perm.refl _, nodup_nil, nofun, nofun, nofun⟩
  refine ⟨allotted.taken, allotted.nodup, fun ndev bound qid set => ?_, allotted.owed,
    fun call resolved => bits_allocate_failed⟩
  cases located : ctrl.pool with
  | none =>
    rw [bits, located] at set
    cases set
  | some pool =>
    rw [bits, located] at set
    have inside := allotted.ranged pool located qid set
    have fits := allotted.fits ndev bound pool located
    omega

/-- Two threads add queues to a group at a time and a third call fails in its Create commands;
a copy-out faults before another call is committed; the group is kept over an unbind and gets
a queue in a binding that leaves more ids. -/
def keptRange : List PoolAction :=
  [.bind ⟨3, 16, 8⟩, .createQueueGroup 0 1, .createQueueGroup 1 2, .enterAdd 0 0 1 2,
    .enterAdd 1 1 2 1, .allocate 0 true, .allocate 1 true, .create 1 true, .create 0 true,
    .enterAdd 2 0 1 1, .allocate 2 true, .create 2 false, .copyOut 0 false, .copyOut 1 true,
    .unbind, .bind ⟨2, 16, 9⟩, .enterAdd 0 1 2 1, .allocate 0 true, .create 0 true,
    .copyOut 0 true]

theorem pool_exact_of_orderly_kept : Always step Promised {} keptRange ∧
    (runFrom step {} keptRange).live = [5, 3] := by
  exact ⟨pool_exact_of_orderly keptRange (by decide +kernel), by decide +kernel⟩

/-- In a binding that leaves fewer ids the next user queue gets that of a kernel queue. And
without a new binding: the copy-out of a call faults after another call has been committed, so
that the id of the other call is freed and its own kept. -/
theorem rebind_collides :
    (∃ qid ∈ (runFrom step {} [.bind ⟨3, 16, 8⟩, .createQueueGroup 0 1, .enterAdd 0 0 1 1,
        .allocate 0 true, .create 0 true, .copyOut 0 true, .unbind, .bind ⟨5, 16, 8⟩,
        .enterAdd 0 0 1 1, .allocate 0 true, .create 0 true, .copyOut 0 true]).live, qid < 5) ∧
      ∃ group ∈ (runFrom step {} [.bind ⟨3, 16, 8⟩, .createQueueGroup 0 1, .enterAdd 0 0 1 1,
        .allocate 0 true, .create 0 true, .enterAdd 1 0 1 1, .allocate 1 true, .create 1 true,
        .copyOut 1 true, .copyOut 0 false]).groups, group.qids = [3] ∧ group.owed = [4] := by
  decide

end Ctrl

end Tutti.Snvme
