import Tutti.Foundation.Run

/-!
# Unmounting at the end of the daemon

`MountManager::unmount_all` tries each owned mount a few times and returns how many it leaves;
the end of `main` calls it until nothing is left and only then stops the md arrays. What the
kernel answers to a umount also says whether the filesystem is still mounted, so every sequence
of answers is possible.
-/

namespace Tutti.Daemon

/-- What `try_umount_` returns. -/
inductive Answer where
  | done
  | inval
  | busy
  /-- Any other `errno`. -/
  | error (errno : Nat)
  deriving DecidableEq

/-- After these answers the filesystem is still mounted. -/
def Answer.mounted : Answer → Bool
  | .done | .inval => false
  | .busy | .error _ => true

/-- What happens around the daemon, moment by moment. -/
structure Surroundings where
  umount : Nat → String → Answer
  /-- When the second signal arrives. -/
  forceExitAt : Option Nat := none

def Surroundings.forceExitRequested (env : Surroundings) (moment : Nat) : Bool :=
  env.forceExitAt.any (· ≤ moment)

structure OwnedMount where
  mountPath : String
  /-- Whether the filesystem is mounted, which the daemon does not record. -/
  mounted : Bool := true
  deriving DecidableEq

variable (env : Surroundings)

/-- The attempts that are left for one mount: what they add to `remaining`, the mount and the
moment after them. -/
def attempts : Nat → Nat → OwnedMount → Nat × OwnedMount × Nat
  | 0, moment, mount => (1, mount, moment)
  | left + 1, moment, mount =>
    if env.forceExitRequested moment then (1, mount, moment)
    else
      let answer := env.umount moment mount.mountPath
      let next := { mount with mounted := answer.mounted }
      match answer with
      | .busy => attempts left (moment + 1) next
      -- An `errno` that retrying does not help against is skipped like a success.
      | .done | .inval | .error _ => (0, next, moment + 1)

/-- `unmount_all`. -/
def unmountAll (max : Nat) : Nat → List OwnedMount → Nat × List OwnedMount × Nat
  | moment, [] => (0, [], moment)
  | moment, mount :: mounts =>
    let (one, mount, moment) := attempts env max moment mount
    let (more, mounts, moment) := unmountAll max moment mounts
    (one + more, mount :: mounts, moment)

/-- How the end of `main` is reached. -/
inductive Ending where
  | mountsLeft
  | arraysStopped
  deriving DecidableEq

/-- The loop around `unmount_all`, for at most so many rounds more. -/
def unmountLoop (max : Nat) (arrays : List String) :
    Nat → Nat × List OwnedMount × Nat → Option (Ending × List OwnedMount × Nat)
  | rounds, (remaining, mounts, moment) =>
    if 0 < remaining ∧ arrays ≠ [] ∧ !env.forceExitRequested moment then
      match rounds with
      | 0 => none
      | rounds + 1 => unmountLoop max arrays rounds (unmountAll env max (moment + 1) mounts)
    else some (if 0 < remaining then .mountsLeft else .arraysStopped, mounts, moment)

/-- The unmounting part of `main`. -/
def shutDown (max : Nat) (arrays : List String) (rounds moment : Nat) (mounts : List OwnedMount) :
    Option (Ending × List OwnedMount × Nat) :=
  if env.forceExitRequested moment then some (.mountsLeft, mounts, moment)
  else unmountLoop env max arrays rounds (unmountAll env max (moment + 1) mounts)

theorem forceExitRequested_mono {env : Surroundings} {moment later : Nat} (order : moment ≤ later)
    (requested : env.forceExitRequested moment = true) : env.forceExitRequested later = true := by
  simp only [Surroundings.forceExitRequested, Option.any_eq_true, decide_eq_true_eq] at *
  obtain ⟨arrival, at_, before⟩ := requested
  exact ⟨arrival, at_, Nat.le_trans before order⟩

/-! ## What is counted -/

/-- What the umounts of a mount answer from this moment on, with so many attempts left. -/
def answers : Nat → Nat → String → List Answer
  | 0, _, _ => []
  | left + 1, moment, path =>
    if env.forceExitRequested moment then []
    else
      match env.umount moment path with
      | .busy => .busy :: answers left (moment + 1) path
      | answer => [answer]

/-- The mounts as `unmount_all` finds them, each with the answers of its umounts. -/
def turns (max : Nat) : Nat → List OwnedMount → List (OwnedMount × List Answer)
  | _, [] => []
  | moment, mount :: mounts =>
    let seen := answers env max moment mount.mountPath
    (mount, seen) :: turns max (moment + seen.length) mounts

/-- The last umount failed with an `errno` other than `EINVAL` and `EBUSY`. -/
def unexpected (turn : OwnedMount × List Answer) : Bool :=
  turn.2.getLast?.any fun answer => answer matches .error _

/-- No umount was tried, and the mount was gone before. -/
def passedOver (turn : OwnedMount × List Answer) : Bool := turn.2.isEmpty && !turn.1.mounted

/-- The mounts that are left mounted. -/
def stillMounted (mounts : List OwnedMount) : Nat := mounts.countP (·.mounted)

variable {env} {max : Nat}

theorem unexpected_cons_busy (mount : OwnedMount) (seen : List Answer) :
    unexpected (mount, .busy :: seen) = unexpected ({ mount with mounted := true }, seen) := by
  unfold unexpected
  cases seen with
  | nil => rfl
  | cons answer seen => rw [List.getLast?_cons_cons]

/-- One mount is counted or was tried in vain, as it is left mounted or was passed over. -/
theorem attempts_balance (left moment : Nat) (mount : OwnedMount) :
    (attempts env left moment mount).2.2 =
        moment + (answers env left moment mount.mountPath).length ∧
      (attempts env left moment mount).1 +
          (if unexpected (mount, answers env left moment mount.mountPath) then 1 else 0) =
        (if (attempts env left moment mount).2.1.mounted then 1 else 0) +
          (if passedOver (mount, answers env left moment mount.mountPath) then 1 else 0) := by
  induction left generalizing moment mount with
  | zero =>
    cases mounted : mount.mounted <;>
      simp [attempts, answers, unexpected, passedOver, mounted]
  | succ left ih =>
    unfold attempts answers
    split
    · cases mounted : mount.mounted <;> simp [unexpected, passedOver, mounted]
    cases answer : env.umount moment mount.mountPath with
    | done | inval | error => simp [Answer.mounted, unexpected, passedOver]
    | busy =>
      obtain ⟨later, balance⟩ := ih (moment + 1) { mount with mounted := true }
      refine ⟨later.trans (Nat.succ_add_eq_add_succ ..), ?_⟩
      have tried : passedOver ({ mount with mounted := true },
          answers env left (moment + 1) mount.mountPath) = false := by simp [passedOver]
      rw [unexpected_cons_busy]
      exact balance.trans (by rw [tried]; rfl)

theorem unmountAll_cons (moment : Nat) (mount : OwnedMount) (mounts : List OwnedMount) :
    unmountAll env max moment (mount :: mounts) =
      ((attempts env max moment mount).1 +
          (unmountAll env max (attempts env max moment mount).2.2 mounts).1,
        (attempts env max moment mount).2.1 ::
          (unmountAll env max (attempts env max moment mount).2.2 mounts).2.1,
        (unmountAll env max (attempts env max moment mount).2.2 mounts).2.2) :=
  rfl

/-- The number returned is too low by the mounts that were tried in vain, and too high by those
that were passed over. -/
theorem unmountAll_balance (moment : Nat) (mounts : List OwnedMount) :
    (unmountAll env max moment mounts).1 + (turns env max moment mounts).countP unexpected =
      stillMounted (unmountAll env max moment mounts).2.1 +
        (turns env max moment mounts).countP passedOver := by
  induction mounts generalizing moment with
  | nil => rfl
  | cons mount mounts ih =>
    obtain ⟨later, balance⟩ := @attempts_balance env max moment mount
    have rest := ih (attempts env max moment mount).2.2
    rw [unmountAll_cons, turns, stillMounted]
    rw [stillMounted] at rest
    simp only [List.countP_cons]
    rw [← later]
    omega

/-! ## The end of the daemon -/

/-- No umount fails with an `errno` other than `EINVAL` and `EBUSY` before a second signal; the
daemon makes the first one after moment 0. -/
def Surroundings.Expected (env : Surroundings) : Prop :=
  ∀ moment path errno, 0 < moment → env.forceExitRequested moment = false →
    env.umount moment path ≠ .error errno

theorem not_unexpected (expected : env.Expected) {left moment : Nat} (started : 0 < moment)
    (mount : OwnedMount) : unexpected (mount, answers env left moment mount.mountPath) = false := by
  induction left generalizing moment mount with
  | zero => rfl
  | succ left ih =>
    unfold answers
    split
    · rfl
    rename_i calm
    cases answer : env.umount moment mount.mountPath with
    | done | inval => rfl
    | error errno => exact absurd answer (expected _ _ errno started (by simpa using calm))
    | busy => exact (unexpected_cons_busy ..).trans (ih (Nat.succ_pos _) _)

/-- Where unmounts answer as expected, no mount that is left goes uncounted. -/
theorem stillMounted_le (expected : max = 0 ∨ env.Expected) {moment : Nat} (started : 0 < moment)
    (mounts : List OwnedMount) :
    stillMounted (unmountAll env max moment mounts).2.1 ≤ (unmountAll env max moment mounts).1 := by
  have balance := @unmountAll_balance env max moment mounts
  have none : (turns env max moment mounts).countP unexpected = 0 := by
    clear balance
    induction mounts generalizing moment with
    | nil => rfl
    | cons mount mounts ih =>
      have first : unexpected (mount, answers env max moment mount.mountPath) = false := by
        rcases expected with rfl | expected
        · rfl
        · exact not_unexpected expected started mount
      dsimp only [turns]
      rw [List.countP_cons_of_neg (by rw [first]; exact Bool.false_ne_true)]
      exact ih (Nat.lt_of_lt_of_le started (Nat.le_add_right _ _))
  omega

theorem unmountLoop_stops (expected : max = 0 ∨ env.Expected) {arrays : List String}
    {rounds remaining moment last : Nat} {mounts left : List OwnedMount}
    (counted : stillMounted mounts ≤ remaining)
    (stops : unmountLoop env max arrays rounds (remaining, mounts, moment) =
      some (.arraysStopped, left, last)) : stillMounted left = 0 := by
  induction rounds generalizing remaining mounts moment with
  | zero | succ rounds ih =>
    unfold unmountLoop at stops
    split at stops
    · first
      | cases stops
      | exact ih (stillMounted_le expected (Nat.succ_pos _) mounts) stops
    split at stops
    · cases stops
    · cases stops
      omega

/-- With an array to stop, only a forced exit leaves mounts behind. -/
theorem unmountLoop_gives_up {arrays : List String} {rounds last : Nat}
    {round : Nat × List OwnedMount × Nat} {left : List OwnedMount} (stacked : arrays ≠ [])
    (ends : unmountLoop env max arrays rounds round = some (.mountsLeft, left, last)) :
    env.forceExitRequested last = true := by
  induction rounds generalizing round with
  | zero | succ rounds ih =>
    unfold unmountLoop at ends
    split at ends
    · first
      | cases ends
      | exact ih ends
    rename_i ended
    split at ends
    · rename_i left
      cases ends
      simpa [left, stacked] using ended
    · cases ends

variable (env max)

/-- Of three mounts one is gone, one is busy to the end and one goes at the second attempt. -/
example : unmountAll { umount := fun moment path =>
      if path = "/mnt/a" then .inval
      else if path = "/mnt/b" ∨ moment < 5 then .busy else .done } 3 0
    [{ mountPath := "/mnt/a" }, { mountPath := "/mnt/b" }, { mountPath := "/mnt/c" }] =
      (1, [⟨"/mnt/a", false⟩, ⟨"/mnt/b", true⟩, ⟨"/mnt/c", false⟩], 6) := by
  decide

end Tutti.Daemon
