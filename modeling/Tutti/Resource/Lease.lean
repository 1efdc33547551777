import Mathlib.Data.List.Induction
import Mathlib.Tactic.SplitIfs
import Tutti.Foundation.Run

/-!
# The lease of an NVMe resource

A resource acquires its slices from the daemon when it is initialised and gives them back when it
is shut down or destroyed. The release goes through the client of the resource to the handle of
the allocation, which retries the call; the destructor of a handle that was not released sends
the call once more. A release that fails all the same is reported by the call that made it and
by no later one: the resource is then done with its lease.
-/

namespace Tutti.Resource

open Foundation

/-- What an attempt to call `Release` comes to. -/
inductive Attempt where
  | transportFailure
  | rejected
  | confirmed
  deriving DecidableEq

inductive ResourceState where
  | created
  | initialized
  | shuttingDown
  | stopped
  | failed
  deriving DecidableEq

/-- The states of a lease, `releasing` apart, which no call leaves behind. -/
inductive LeaseState where
  | none
  | acquired
  | released
  deriving DecidableEq

structure NvmeResource where
  state : ResourceState := .created
  leaseState : LeaseState := .none
  /-- The client, with the id of the allocation it has a handle of. -/
  client : Option (Option String) := some none
  /-- The lease as the daemon has it: released once it has confirmed that. -/
  granted : LeaseState := .none

/-- The attempts of `release_allocation`, so many of which are left. -/
def releaseAttempts (answers : Nat → Attempt) : Nat → Bool × List Attempt
  | 0 => (false, [])
  | left + 1 =>
    match answers left with
    | .confirmed => (true, [.confirmed])
    | .rejected => (false, [.rejected])
    | .transportFailure =>
      let (released, attempts) := releaseAttempts answers left
      (released, .transportFailure :: attempts)

/-- `kMaxAttempts`. -/
def maxAttempts : Nat := 3

/-- `Allocation::release`. -/
def releaseHandle (id : String) (answers : Nat → Attempt) : Bool × List Attempt :=
  if id = "" then (true, []) else releaseAttempts answers maxAttempts

/-- `release` of the client: the handle is dropped only if the daemon confirmed. -/
def clientRelease (answers : Nat → Attempt) : Option String → Bool × Option String × List Attempt
  | none => (true, none, [])
  | some id =>
    let (released, attempts) := releaseHandle id answers
    (released, if released then none else some id, attempts)

/-- The destructor of a client, with that of the handle it has. -/
def dropClient (answers : Nat → Attempt) (client : Option (Option String)) : List Attempt :=
  match client.join with
  | none => []
  | some id => (releaseHandle id answers).2

/-- What the daemon answers to a release and to that of a destructor after it. -/
structure Answers where
  first : Nat → Attempt
  second : Nat → Attempt

/-- What `AcquireNvmeSlices` and the calls before it come to. -/
inductive Acquired where
  | refused
  | granted (id : String) (valid : Bool)

/-- One of the attempts of a release is confirmed. -/
def confirms (answers : Nat → Attempt) : Bool := (releaseAttempts answers maxAttempts).1

inductive Action where
  | initializeResource (acquired : Acquired) (answers : Answers)
  | shutdown (answers : Answers)
  | destroy (answers : Answers)

namespace NvmeResource

/-- What the daemon has confirmed is released. -/
def hear (resource : NvmeResource) (attempts : List Attempt) : NvmeResource :=
  { resource with granted := if .confirmed ∈ attempts then .released else resource.granted }

/-- `release_owned_allocation_`: whatever the answer, the lease counts as released and the client
is dropped. -/
def releaseOwnedAllocation (resource : NvmeResource) (answers : Answers) :
    Bool × NvmeResource × List Attempt :=
  if resource.leaseState ≠ .acquired then (true, resource, [])
  else
    let last := { resource with leaseState := .released, client := none }
    match resource.client with
    | none => (false, last, [])
    | some handle =>
      let (released, handle, attempts) := clientRelease answers.first handle
      let sent := attempts ++ dropClient answers.second (some handle)
      (released, last.hear sent, sent)

def initializeResource (resource : NvmeResource) (acquired : Acquired) (answers : Answers) :
    Bool × NvmeResource × List Attempt :=
  if resource.state ≠ .created then (false, resource, [])
  else if resource.client.isNone then (false, { resource with state := .failed }, [])
  else
    match acquired with
    | .refused => (false, { resource with state := .failed }, [])
    | .granted id valid =>
      let leased : NvmeResource := { resource with
        leaseState := .acquired, client := some (some id), granted := .acquired }
      if valid && id ≠ "" then (true, { leased with state := .initialized }, [])
      else
        let (_, last, sent) := leased.releaseOwnedAllocation answers
        (false, { last with state := .failed }, sent)

def shutdown (resource : NvmeResource) (answers : Answers) : Bool × NvmeResource × List Attempt :=
  if resource.state = .stopped then (true, resource, [])
  else if resource.state = .shuttingDown then (false, resource, [])
  else if resource.leaseState ≠ .acquired then
    let sent := dropClient answers.second resource.client
    (true, { resource.hear sent with
      client := none
      state := if resource.state = .created then .stopped else resource.state }, sent)
  else
    let (released, last, sent) := resource.releaseOwnedAllocation answers
    (released, { last with state := if released then .stopped else .failed }, sent)

/-- What a call returns, what it leaves and the attempts it makes. -/
def reply (resource : NvmeResource) : Action → Bool × NvmeResource × List Attempt
  | .initializeResource acquired answers => resource.initializeResource acquired answers
  | .shutdown answers => resource.shutdown answers
  | .destroy answers =>
    let (ok, last, sent) := resource.shutdown answers
    let more := dropClient answers.second last.client
    (ok, { last.hear more with client := none }, sent ++ more)

def step (resource : NvmeResource) (action : Action) : NvmeResource := (resource.reply action).2.1

/-! ## What becomes of a lease -/

/-- A release makes an attempt, and ends with the first that is confirmed. -/
theorem releaseAttempts_eq (answers : Nat → Attempt) (left : Nat) :
    ∃ failures, .confirmed ∉ failures ∧ (releaseAttempts answers left).2 =
      failures ++ if (releaseAttempts answers left).1 then [.confirmed] else [] := by
  induction left with
  | zero => exact ⟨[], by simp, rfl⟩
  | succ left ih =>
    unfold releaseAttempts
    cases answers left with
    | confirmed => exact ⟨[], by simp, rfl⟩
    | rejected => exact ⟨[.rejected], by simp, rfl⟩
    | transportFailure =>
      obtain ⟨failures, failed, same⟩ := ih
      exact ⟨.transportFailure :: failures, by simp [failed], congrArg _ same⟩

theorem releaseAttempts_ne_nil (answers : Nat → Attempt) :
    (releaseAttempts answers maxAttempts).2 ≠ [] := by
  unfold maxAttempts releaseAttempts
  split <;> exact List.cons_ne_nil _ _

/-- A lease that is held is tried to be released, and once more if that fails. -/
theorem releaseOwnedAllocation_held {resource : NvmeResource} {id : String} (named : id ≠ "")
    (acquired : resource.leaseState = .acquired) (granted : resource.granted = .acquired)
    (client : resource.client = some (some id)) (answers : Answers) :
    ∃ failures last, .confirmed ∉ failures ∧ last ≠ .none ∧
      (confirms answers.first = true → last = .released) ∧
      (failures ++ if last = .released then [.confirmed] else []) ≠ [] ∧
      resource.releaseOwnedAllocation answers = (confirms answers.first,
        { resource with leaseState := .released, client := none, granted := last },
        failures ++ if last = .released then [.confirmed] else []) := by
  obtain ⟨failures, failed, same⟩ := releaseAttempts_eq answers.first maxAttempts
  obtain ⟨more, failedMore, sameMore⟩ := releaseAttempts_eq answers.second maxAttempts
  have sent := releaseAttempts_ne_nil answers.first
  unfold confirms
  simp only [releaseOwnedAllocation, acquired, client, clientRelease, releaseHandle, named]
  cases first : (releaseAttempts answers.first maxAttempts).1 with
  | true =>
    refine ⟨failures, .released, failed, nofun, fun _ => rfl, by simp, ?_⟩
    simp [dropClient, hear, same, first]
  | false =>
    rw [first, if_neg Bool.false_ne_true, List.append_nil] at same
    rw [same] at sent
    cases second : (releaseAttempts answers.second maxAttempts).1 with
    | true =>
      refine ⟨failures ++ more, .released, by simp [failed, failedMore], nofun, nofun, by simp, ?_⟩
      simp [dropClient, releaseHandle, named, hear, same, first, sameMore, second]
    | false =>
      refine ⟨failures ++ more, .acquired, by simp [failed, failedMore], nofun, nofun,
        by simp [sent], ?_⟩
      simp [dropClient, releaseHandle, named, hear, same, first, sameMore, second, failed,
        failedMore, granted]

/-- The daemon has granted a lease exactly if the resource has had one; while the resource holds
it, so does the daemon, the resource is initialised and has the handle. -/
structure Agrees (resource : NvmeResource) : Prop where
  unused : resource.leaseState = .none ↔ resource.granted = .none
  held : resource.leaseState = .acquired → resource.granted = .acquired ∧
    resource.state = .initialized ∧ ∃ id, id ≠ "" ∧ resource.client = some (some id)
  free : resource.leaseState ≠ .acquired → resource.client.join = none
  fresh : resource.state = .created → resource.leaseState = .none

/-- What a call comes to: it contacts nobody, it acquires a lease, or it tries to release one,
which it reports to have failed unless the daemon has confirmed. -/
inductive Spoken (resource : NvmeResource) (shuts : Bool) :
    Bool × NvmeResource × List Attempt → Prop
  | silent {ok : Bool} {next : NvmeResource} (agrees : next.Agrees)
      (granted : next.granted = resource.granted) (lease : next.leaseState = resource.leaseState)
      (free : shuts → resource.leaseState ≠ .acquired) : Spoken resource shuts (ok, next, [])
  | acquires {next : NvmeResource} (agrees : next.Agrees) (starts : shuts = false)
      (none : resource.leaseState = .none) (held : next.leaseState = .acquired) :
      Spoken resource shuts (true, next, [])
  | settles {ok : Bool} {next : NvmeResource} {sent : List Attempt} (agrees : next.Agrees)
      (failures : List Attempt) (failed : .confirmed ∉ failures)
      (spoken : sent = failures ++ if next.granted = .released then [.confirmed] else [])
      (some : sent ≠ []) (unreleased : resource.leaseState ≠ .released)
      (done : next.leaseState = .released) (told : ok = true → next.granted = .released) :
      Spoken resource shuts (ok, next, sent)

variable {resource : NvmeResource} (agrees : resource.Agrees) (answers : Answers)
include agrees

theorem spoken_shutdown : Spoken resource true (resource.shutdown answers) := by
  unfold NvmeResource.shutdown
  by_cases lease : resource.leaseState = .acquired
  · obtain ⟨granted, state, id, named, client⟩ := agrees.held lease
    obtain ⟨failures, last, failed, settled, told, some, same⟩ :=
      releaseOwnedAllocation_held named lease granted client answers
    simp only [state, lease, same, ne_eq]
    refine .settles ⟨iff_of_false nofun settled, nofun, fun _ => rfl, ?_⟩ failures failed rfl some
      (by simp [lease]) rfl told
    split <;> nofun
  · have free := agrees.free lease
    simp only [ne_eq, lease, dropClient, free]
    split
    · exact .silent agrees rfl rfl fun _ => lease
    split
    · exact .silent agrees rfl rfl fun _ => lease
    refine .silent ⟨agrees.unused, fun same => absurd same lease, fun _ => rfl, fun reset => ?_⟩
      rfl rfl fun _ => lease
    split at reset
    · cases reset
    · exact agrees.fresh reset

theorem spoken_initializeResource {acquired : Acquired}
    (named : ∀ valid, acquired ≠ .granted "" valid) :
    Spoken resource false (resource.initializeResource acquired answers) := by
  unfold NvmeResource.initializeResource
  split_ifs with created lost
  · exact .silent agrees rfl rfl nofun
  all_goals
    have none := agrees.fresh (not_not.mp created)
    have failed : Agrees { resource with state := .failed } :=
      ⟨agrees.unused, fun held => absurd (held.symm.trans none) nofun, agrees.free, nofun⟩
  · exact .silent failed rfl rfl nofun
  cases acquired with
  | refused => exact .silent failed rfl rfl nofun
  | granted id valid =>
    have given : id ≠ "" := by
      rintro rfl
      exact named valid rfl
    obtain ⟨failures, last, failed, settled, _, some, same⟩ := @releaseOwnedAllocation_held
      { resource with leaseState := .acquired, client := some (some id), granted := .acquired } id
      given rfl rfl rfl answers
    dsimp only
    split
    · exact .acquires ⟨iff_of_false nofun nofun, fun _ => ⟨rfl, rfl, id, given, rfl⟩,
        fun none => absurd rfl none, nofun⟩ rfl none rfl
    · rw [same]
      exact .settles ⟨iff_of_false nofun settled, nofun, fun _ => rfl, nofun⟩ failures failed rfl
        some (by simp [none]) rfl nofun

omit agrees

end NvmeResource

/-- The daemon gives its allocations ids. -/
def Action.Named : Action → Prop
  | .initializeResource acquired _ => ∀ valid, acquired ≠ .granted "" valid
  | .shutdown _ | .destroy _ => True

/-- The call is not an initialisation. -/
def Action.shuts : Action → Bool
  | .initializeResource _ _ => false
  | .shutdown _ | .destroy _ => true

namespace NvmeResource

/-- What a call sends, by what the resource knows. -/
theorem Agrees.spoken {resource : NvmeResource} (agrees : resource.Agrees) {action : Action}
    (named : action.Named) : Spoken resource action.shuts (resource.reply action) := by
  cases action with
  | initializeResource acquired answers => exact spoken_initializeResource agrees answers named
  | shutdown answers => exact spoken_shutdown agrees answers
  | destroy answers =>
    have spoken := spoken_shutdown agrees answers
    dsimp only [reply]
    generalize resource.shutdown answers = reply at spoken
    have dropped : ∀ {next : NvmeResource}, next.Agrees → next.leaseState ≠ .acquired →
        dropClient answers.second next.client = [] ∧
          Agrees { next.hear [] with client := none } := by
      intro next agrees free
      refine ⟨by simp [dropClient, agrees.free free], agrees.unused, fun held => absurd held free,
        fun _ => rfl, agrees.fresh⟩
    cases spoken with
    | silent next granted lease free =>
      obtain ⟨quiet, last⟩ := dropped next (lease ▸ free rfl)
      simp only [quiet]
      exact .silent last granted lease free
    | acquires _ starts => cases starts
    | settles next failures failed spoken some unreleased done told =>
      obtain ⟨quiet, last⟩ := dropped next (by simp [done])
      simp only [quiet, List.append_nil]
      exact .settles last failures failed spoken some unreleased done told

/-- A call of the run has tried to release the lease and reported that it failed. -/
def Reported (actions : List Action) : Prop :=
  ∃ first action rest, actions = first ++ action :: rest ∧
    ((runFrom step {} first).reply action).1 = false ∧
    ((runFrom step {} first).reply action).2.2 ≠ []

/-- A run has reported a failure if its last call does or one before did. -/
theorem reported_concat_iff (actions : List Action) (action : Action) :
    Reported (actions ++ [action]) ↔ Reported actions ∨
      ((runFrom step {} actions).reply action).1 = false ∧
        ((runFrom step {} actions).reply action).2.2 ≠ [] := by
  constructor
  · rintro ⟨first, failing, rest, same, failed, sent⟩
    rcases List.eq_nil_or_concat rest with rfl | ⟨rest, final, rfl⟩
    · obtain ⟨rfl, ⟨⟩⟩ := List.append_inj' same rfl
      exact .inr ⟨failed, sent⟩
    · rw [List.concat_eq_append, ← List.cons_append, ← List.append_assoc] at same
      exact .inl ⟨first, failing, rest, (List.append_inj' same rfl).1, failed, sent⟩
  · rintro (⟨first, failing, rest, rfl, failed, sent⟩ | ⟨failed, sent⟩)
    · exact ⟨first, failing, rest ++ [action], by simp, failed, sent⟩
    · exact ⟨actions, action, [], rfl, failed, sent⟩

/-- A run in which a call has reported that the release failed, or the daemon has confirmed it,
is done with the lease; and no other. -/
structure Settled (actions : List Action) : Prop where
  agrees : (runFrom step {} actions).Agrees
  why : (runFrom step {} actions).leaseState = .released →
    (runFrom step {} actions).granted = .released ∨ Reported actions
  done : (runFrom step {} actions).granted = .released ∨ Reported actions →
    (runFrom step {} actions).leaseState = .released

/-- By induction on the run, from its last call. -/
theorem settled_run {actions : List Action} (named : ∀ action ∈ actions, action.Named) :
    Settled actions := by
  induction actions using List.reverseRecOn with
  | nil =>
    refine ⟨⟨Iff.rfl, nofun, fun _ => rfl, fun _ => rfl⟩, nofun, ?_⟩
    rintro (none | ⟨first, _, _, none, _⟩)
    · cases none
    · cases first <;> cases none
  | append_singleton actions action ih =>
    obtain ⟨agrees, why, done⟩ := ih fun other member => named other (List.mem_append_left _ member)
    have spoken := agrees.spoken
      (named action (List.mem_append_right _ (List.mem_singleton_self _)))
    have last : runFrom step {} (actions ++ [action]) =
        ((runFrom step {} actions).reply action).2.1 := by
      rw [runFrom_append]
      rfl
    have reports := reported_concat_iff actions action
    generalize (runFrom step {} actions).reply action = reply at spoken last reports
    cases spoken with
    | silent next granted lease free =>
      refine ⟨last ▸ next, fun released => ?_, fun settled => ?_⟩ <;> rw [last] at *
      · rw [granted]
        exact (why (lease ▸ released)).imp_right (reports.mpr <| .inl ·)
      · refine lease.trans (done (settled.imp (granted ▸ ·) fun reported => ?_))
        exact (reports.mp reported).resolve_right fun sent => sent.2 rfl
    | acquires next starts none held =>
      refine ⟨last ▸ next, fun released => ?_, fun settled => ?_⟩ <;> rw [last] at *
      · cases held.symm.trans released
      · rcases settled with released | reported
        · cases (next.held held).1.symm.trans released
        · have earlier := (reports.mp reported).resolve_right fun sent => sent.2 rfl
          cases none.symm.trans (done (.inr earlier))
    | @settles ok _ _ next failures failed spoken some unreleased settled told =>
      refine ⟨last ▸ next, fun _ => ?_, fun _ => last ▸ settled⟩
      rw [last]
      cases ok with
      | true => exact .inl (told rfl)
      | false => exact .inr (reports.mpr (.inr ⟨rfl, some⟩))

/-- The first attempt gets no answer, the second is confirmed. -/
def late : Answers :=
  ⟨fun left => if left = 2 then .transportFailure else .confirmed, fun _ => .rejected⟩

def unreachable : Answers := ⟨fun _ => .transportFailure, fun _ => .transportFailure⟩

end NvmeResource

end Tutti.Resource
