import Mathlib.Data.Int.CardIntervalMod
import Mathlib.Tactic.IntervalCases
import Tutti.Foundation.Run

/-!
# The tickets of a submission queue

A caller of `sq_enqueue_or_drain` takes the next 32-bit ticket and waits until the counter
of its ring position is that of its round; the counter advances when the command is enqueued
and when the controller has consumed it. An idle queue admits the next command until the
ticket wraps and then, unless the ring has two positions, no more (`idle_admits_iff`).
-/

namespace Tutti.LocalNvme

open Foundation

def getId (ticket log2 : Nat) : Nat := ticket / 2 ^ log2 * 2

/-- What admission reads of a new `nvm_queue_t`, the tickets of the callers that have not
enqueued yet, and how many commands were enqueued and drained so far. -/
structure SubmissionQueue where
  inTicket : Nat := 0
  tickets : Nat → Nat := fun _ => 0
  head : Nat := 0
  waiting : List Nat := []
  enqueued : Nat := 0
  drained : Nat := 0

/-- A caller takes a ticket; a waiting caller enqueues; the positions up to the head that
the last completion reports are freed. -/
inductive QueueAction where
  | arrive
  | enqueue (ticket : Nat)
  | drain (sqHead : Nat)

namespace SubmissionQueue

variable (log2 : Nat) (queue : SubmissionQueue)

/-- The wait condition of `sq_enqueue_or_drain`. -/
def Admits (ticket : Nat) : Prop := queue.tickets (ticket % 2 ^ log2) = getId ticket log2
  deriving Decidable

/-- `tickets[position].val.fetch_add(1)` -/
def advance (position : Nat) : Nat → Nat :=
  Function.update queue.tickets position ((queue.tickets position + 1) % 2 ^ 32)

/-- The loop of `drain_completions` over the consumed positions, with `head`. -/
def free (sqHead : Nat) : Nat → SubmissionQueue → SubmissionQueue
  | 0, queue => queue
  | left + 1, queue =>
    if queue.head % 2 ^ log2 = sqHead then queue
    else free sqHead left { queue with
      tickets := queue.advance (queue.head % 2 ^ log2)
      head := (queue.head + 1) % 2 ^ 32
      drained := queue.drained + 1 }

def step : QueueAction → SubmissionQueue
  | .arrive => { queue with
      waiting := queue.inTicket :: queue.waiting
      inTicket := (queue.inTicket + 1) % 2 ^ 32 }
  | .enqueue ticket =>
    if ticket ∈ queue.waiting ∧ queue.Admits log2 ticket then
      { queue with
        waiting := queue.waiting.erase ticket
        tickets := queue.advance (ticket % 2 ^ log2)
        enqueued := queue.enqueued + 1 }
    else queue
  | .drain sqHead => free log2 sqHead (2 ^ log2) queue

/-- Every command that was issued is enqueued, fetched and drained. -/
def Idle : Prop := queue.waiting = [] ∧ queue.drained = queue.enqueued

/-- How many of the first `commands` commands have this ring position. -/
def laps (position commands : Nat) : Nat :=
  Nat.count (fun command => command % 2 ^ log2 = position) commands

/-- The counters are what the commands have made of them. -/
structure Counted : Prop where
  inTicket : queue.inTicket = (queue.enqueued + queue.waiting.length) % 2 ^ 32
  head : queue.head = queue.drained % 2 ^ 32
  small : ∀ position, queue.tickets position < 2 ^ 32
  ticket : ∀ position,
    queue.tickets position + queue.waiting.countP (· % 2 ^ log2 = position) ≡
      laps log2 position (queue.enqueued + queue.waiting.length) +
        laps log2 position queue.drained [MOD 2 ^ 32]

variable {log2} {queue}

theorem advance_modEq (small : ∀ position, queue.tickets position < 2 ^ 32) (freed : Nat) :
    (∀ position, queue.advance freed position < 2 ^ 32) ∧
      ∀ position, queue.advance freed position ≡
        queue.tickets position + (if freed = position then 1 else 0) [MOD 2 ^ 32] := by
  refine forall_and.mp fun position => ?_
  unfold advance
  by_cases same : freed = position
  · subst same
    rw [Function.update_self, if_pos rfl]
    exact ⟨Nat.mod_lt _ (by decide), Nat.mod_modEq _ _⟩
  · rw [Function.update_of_ne (Ne.symm same), if_neg same]
    exact ⟨small position, Nat.ModEq.refl _⟩

theorem laps_succ (position commands : Nat) : laps log2 position (commands + 1) =
    laps log2 position commands + if commands % 2 ^ log2 = position then 1 else 0 :=
  Nat.count_succ _ _

variable (bound : log2 ≤ 16) (counted : Counted log2 queue)
include bound

/-- A wrapped number has the ring position of the number itself. -/
theorem mod_ring (number : Nat) : number % 2 ^ 32 % 2 ^ log2 = number % 2 ^ log2 :=
  Nat.mod_mod_of_dvd number (pow_dvd_pow 2 (le_trans bound (by decide)))

include counted

theorem Counted.free (sqHead left : Nat) : Counted log2 (free log2 sqHead left queue) := by
  induction left generalizing queue with
  | zero => exact counted
  | succ left ih =>
    unfold SubmissionQueue.free
    split
    · exact counted
    obtain ⟨small, moved⟩ := advance_modEq counted.small (queue.head % 2 ^ log2)
    refine ih ⟨counted.inTicket, ?_, small, fun position => ?_⟩
    · rw [counted.head, Nat.mod_add_mod]
    · refine ((moved position).add_right _).trans ?_
      rw [laps_succ, ← add_assoc, add_right_comm, counted.head, mod_ring bound]
      exact (counted.ticket position).add_right _

theorem Counted.step (action : QueueAction) : Counted log2 (queue.step log2 action) := by
  cases action with
  | arrive =>
    refine ⟨?_, counted.head, counted.small, fun position => ?_⟩
    · exact (congrArg (fun ticket => (ticket + 1) % 2 ^ 32) counted.inTicket).trans
        (Nat.mod_add_mod _ _ _)
    · simp only [SubmissionQueue.step, List.countP_cons, List.length_cons, ← add_assoc,
        laps_succ, decide_eq_true_eq, counted.inTicket, mod_ring bound]
      rw [add_right_comm (laps _ _ _)]
      exact (counted.ticket position).add_right _
  | enqueue ticket =>
    unfold SubmissionQueue.step
    dsimp only
    split
    · rename_i given
      have order := List.perm_cons_erase given.1
      have taken : queue.enqueued + 1 + (queue.waiting.erase ticket).length =
          queue.enqueued + queue.waiting.length := by
        rw [order.length_eq, List.length_cons, add_right_comm, add_assoc]
      obtain ⟨small, moved⟩ := advance_modEq counted.small (ticket % 2 ^ log2)
      refine ⟨taken ▸ counted.inTicket, counted.head, small, fun position => ?_⟩
      have before := counted.ticket position
      rw [order.countP_eq, List.countP_cons] at before
      simp only [decide_eq_true_eq] at before
      refine ((moved position).add_right _).trans ?_
      rw [add_assoc, add_comm (ite _ _ _)]
      exact taken ▸ before
    · exact counted
  | drain sqHead => exact counted.free bound sqHead (2 ^ log2)

/-- The next ticket of an idle queue. -/
theorem Counted.admits_iff (large : 1 ≤ log2) (idle : queue.Idle) :
    queue.Admits log2 queue.inTicket ↔ 2 ^ (log2 - 1) ∣ queue.enqueued / 2 ^ 32 := by
  obtain ⟨none, all⟩ := idle
  have laps : laps log2 (queue.enqueued % 2 ^ log2) queue.enqueued = queue.enqueued / 2 ^ log2 :=
    (Nat.count_modEq_card _ (Nat.two_pow_pos _) queue.enqueued).trans (by simp)
  have value := counted.ticket (queue.enqueued % 2 ^ log2)
  have next := counted.inTicket
  rw [none, List.length_nil, add_zero] at next value
  rw [all, laps, List.countP_nil, add_zero] at value
  unfold Admits getId
  rw [next, mod_ring bound, ← Nat.mod_eq_of_lt (counted.small _), value]
  generalize queue.enqueued = commands
  interval_cases log2 <;> omega

omit counted

theorem counted_run (actions : List QueueAction) : Counted log2 (runFrom (step log2) {} actions) :=
  invariant_runFrom (fun _ action counted => counted.step bound action)
    ⟨rfl, rfl, fun _ => Nat.two_pow_pos 32, fun _ => Nat.ModEq.refl _⟩ actions

/-- In every run, an idle queue admits the next command exactly if the ticket has wrapped a
multiple of half the ring size times: with two positions always, with more of them until
`2 ^ 32` commands were issued. -/
theorem idle_admits_iff (large : 1 ≤ log2) (actions : List QueueAction)
    (idle : (runFrom (step log2) {} actions).Idle) :
    (runFrom (step log2) {} actions).Admits log2 (runFrom (step log2) {} actions).inTicket ↔
      2 ^ (log2 - 1) ∣ (runFrom (step log2) {} actions).enqueued / 2 ^ 32 :=
  (counted_run bound actions).admits_iff bound large idle

omit bound

theorem idle_admits_iff_one :
    (runFrom (step 1) {} [.arrive, .enqueue 0, .drain 1]).Admits 1 1 :=
  (idle_admits_iff (by decide) (by decide) [.arrive, .enqueue 0, .drain 1] ⟨rfl, rfl⟩).mpr
    (by decide)

/-- One command after the other, each drained before the next. -/
def oneByOne : Nat → List QueueAction
  | 0 => []
  | count + 1 => oneByOne count ++
      [.arrive, .enqueue (count % 2 ^ 32), .drain ((count + 1) % 4)]

theorem idle_oneByOne {count : Nat} (below : count ≤ 2 ^ 32) :
    (runFrom (step 2) {} (oneByOne count)).Idle ∧
      (runFrom (step 2) {} (oneByOne count)).enqueued = count := by
  induction count with
  | zero => exact ⟨⟨rfl, rfl⟩, rfl⟩
  | succ count ih =>
    obtain ⟨idle, issued⟩ := ih (Nat.le_of_succ_le below)
    have counted := @counted_run 2 (by decide) (oneByOne count)
    rw [oneByOne, runFrom_append]
    generalize runFrom (step 2) {} (oneByOne count) = queue at *
    have admits := (counted.admits_iff (by decide) (by decide) idle).mpr (by
      rw [issued, Nat.div_eq_of_lt below]
      exact dvd_zero _)
    have next := counted.inTicket
    rw [idle.1, issued, List.length_nil, add_zero] at next
    have passes : count % 2 ^ 32 ∈ (queue.step 2 .arrive).waiting ∧
        (queue.step 2 .arrive).Admits 2 (count % 2 ^ 32) :=
      ⟨next ▸ .head _, next ▸ admits⟩
    have moves : ¬ count % 4 = (count + 1) % 4 := by omega
    rw [runFrom_cons, runFrom_cons, runFrom_cons, step.eq_def 2 _ (.enqueue _)]
    dsimp only
    rw [if_pos passes]
    simp [step, free, Idle, counted.head, idle.1, idle.2, next, issued, moves]

/-- When the ticket of a ring of four has wrapped, the idle queue admits no command. -/
theorem wrapped_ticket_refused :
    let queue := runFrom (step 2) {} (oneByOne (2 ^ 32))
    queue.Idle ∧ queue.enqueued = 2 ^ 32 ∧ ¬ queue.Admits 2 queue.inTicket := by
  obtain ⟨idle, issued⟩ := idle_oneByOne (le_refl (2 ^ 32))
  refine ⟨idle, issued, fun admitted => ?_⟩
  have wraps := ((@counted_run 2 (by decide) _).admits_iff (by decide) (by decide) idle).mp admitted
  rw [issued] at wraps
  exact absurd wraps (by decide)

end SubmissionQueue

end Tutti.LocalNvme
