import Tutti.Foundation.Run
import Tutti.Runtime.Registry

/-!
# The terminal results that the Python binding retains

`PyRuntime` answers for a released IO out of a table of the last results it has
seen. Its methods run under the interpreter lock and give it up only inside the
runtime's own calls, so that a method is up to two atomic parts, before
(`Event.call`) and after (`Event.back`) the runtime's answer. What the runtime
answers is arbitrary.

The table is exact if the runtime answers the waits for a ticket once and what it
says to a query later agrees, and no `release_io` of a terminal ticket succeeds
(`Binding.window_exact`). It is not in general: `release_io` retains what its own
`wait_result` has retained already, and a queue that lists a ticket twice forgets
it too early (`Binding.releases_forget`).
-/

namespace Tutti

open Foundation List

/-- What `wait_result` returns. An observation of `none` is `"OK"`. -/
structure WaitResult where
  observation : Option StatusCode := none
  state : Option IoState := none
  confirmedBytes : Nat := 0
  timeoutSeen : Bool := false
  failedRequestIndices : List Nat := []
  failureScope : IoFailureScope := .none
  failureKind : Option IoFailureKind := none
  firstFailedEntry : Option Nat := none
  rawCqStatus : Option Nat := none
  message : String := ""
  deriving DecidableEq, Repr

/-- `wait_result` on what the runtime's `wait_result` returned. -/
def WaitResult.ofOutcome : Except Status (Option IoResult) → WaitResult
  | .error status => { observation := some status.code, message := status.message }
  | .ok none => { observation := some .internal, message := "terminal wait returned no result" }
  | .ok (some ⟨state, status, detail⟩) =>
    { state := some state
      confirmedBytes := detail.confirmedBytes
      timeoutSeen := detail.timeoutSeen
      failedRequestIndices := detail.failedRequestIndices
      failureScope := detail.failureScope
      failureKind := if detail.failureKind ≠ .none then some detail.failureKind else none
      rawCqStatus := if detail.failureKind ≠ .none then some detail.rawCqStatus else none
      firstFailedEntry :=
        if detail.firstFailedEntry ≠ uint32Max then some detail.firstFailedEntry else none
      message := (status.map Status.message).getD "" }

/-- The state is `"COMPLETED"` or `"FAILED"`. -/
def WaitResult.terminal (result : WaitResult) : Bool :=
  result.state = some .completed ∨ result.state = some .failed

def kRetainedTerminalResults : Nat := 64

structure PyRuntime where
  nextTicket : Nat := 1
  ios : OrderedDict Nat IoHandle := ∅
  terminalResults : OrderedDict Nat WaitResult := ∅
  terminalOrder : List Nat := []

namespace PyRuntime

/-- `retain_terminal_`. -/
def retainTerminal (python : PyRuntime) (ticket : Nat) (result : WaitResult) : PyRuntime :=
  let order := python.terminalOrder ++ [ticket]
  let excess := order.length - kRetainedTerminalResults
  { python with
    terminalResults :=
      (order.take excess).foldl OrderedDict.erase (python.terminalResults.set ticket result)
    terminalOrder := order.drop excess }

/-- `mint_io_`. -/
def mintIo (python : PyRuntime) (io : IoHandle) : PyRuntime :=
  { python with
    nextTicket := (python.nextTicket + 1) % uint64Size
    ios :=
      if python.nextTicket ∈ python.ios then python.ios else python.ios.set python.nextTicket io }

end PyRuntime

/-- The methods that look a ticket up. -/
inductive TicketCall where
  | wait
  | query
  | release
  deriving DecidableEq, Repr

/-- The binding with the calls that have given the interpreter lock up, and a
record of what the runtime has answered to waits, of what `wait_result` has
returned, and of the states that `query_io` has returned for tickets that had been
observed by then. -/
structure Binding where
  python : PyRuntime := {}
  inside : Nat → Option (TicketCall × Nat) := fun _ => none
  observed : List (Nat × WaitResult) := []
  answers : List (Nat × WaitResult) := []
  states : List (Nat × Option IoState) := []

/-- An atomic part of a method call: its beginning, the rest of a `wait_result` or
`release_io` or the rest of a `query_io` after the runtime's answer. `released`
says that the runtime's `release_io` returns OK. -/
inductive Event where
  | submit (io : Option IoHandle)
  | call (thread : Nat) (method : TicketCall) (ticket : Nat) (released : Bool)
  | back (thread : Nat) (outcome : Except Status (Option IoResult)) (released : Bool)
  | queried (thread : Nat) (snapshot : Except Status IoState)

namespace Binding

def answer (binding : Binding) (ticket : Nat) (result : WaitResult) : Binding :=
  { binding with answers := binding.answers ++ [(ticket, result)] }

def tell (binding : Binding) (ticket : Nat) (state : Option IoState) : Binding :=
  if ticket ∈ binding.observed.map Prod.fst then
    { binding with states := binding.states ++ [(ticket, state)] }
  else binding

/-- `wait_result` from the runtime's answer on. -/
def waitBack (binding : Binding) (ticket : Nat) (result : WaitResult) : Binding :=
  if result.observation = none then
    answer { binding with
      python := binding.python.retainTerminal ticket result
      observed := binding.observed ++ [(ticket, result)] } ticket result
  else binding

/-- `release_io` from the end of its `wait_result` on. -/
def releaseBack (binding : Binding) (ticket : Nat) (observed : WaitResult) (released : Bool) :
    Binding :=
  if released = false then binding
  else
    let kept :=
      if observed.observation = none ∧ observed.terminal then
        binding.python.retainTerminal ticket observed
      else binding.python
    { binding with python := { kept with ios := kept.ios.erase ticket } }

/-- The thread goes into the runtime with a call, or is back from it. -/
def enter (binding : Binding) (thread : Nat) (call : Option (TicketCall × Nat)) : Binding :=
  { binding with inside := Function.update binding.inside thread call }

def step (binding : Binding) : Event → Binding
  | .submit none => binding
  | .submit (some io) => { binding with python := binding.python.mintIo io }
  | .call thread method ticket released =>
    -- `release_io` looks the ticket up before its `wait_result` does
    if binding.inside thread ≠ none ∨ method = .release ∧ ticket ∉ binding.python.ios then binding
    else
      match binding.python.terminalResults.get? ticket with
      | some result =>
        match method with
        | .wait => binding.answer ticket result
        | .query => binding.tell ticket result.state
        | .release => (binding.answer ticket result).releaseBack ticket result released
      | none =>
        if ticket ∈ binding.python.ios then binding.enter thread (some (method, ticket))
        else binding
  | .back thread outcome released =>
    let result := .ofOutcome outcome
    match binding.inside thread with
    | some (.wait, ticket) => (binding.enter thread none).waitBack ticket result
    | some (.release, ticket) =>
      ((binding.enter thread none).waitBack ticket result).releaseBack ticket result released
    | some (.query, _) | none => binding
  | .queried thread snapshot =>
    match binding.inside thread with
    | some (.query, ticket) =>
      match snapshot with
      | .error _ => binding.enter thread none
      | .ok state => (binding.enter thread none).tell ticket (some state)
    | some (.wait, _) | some (.release, _) | none => binding

/-! ## The window -/

/-- The last results that were observed. -/
def latest (binding : Binding) : List (Nat × WaitResult) :=
  binding.observed.drop (binding.observed.length - kRetainedTerminalResults)

/-- The result that was observed first for a ticket. -/
def firstObserved (binding : Binding) (ticket : Nat) : Option WaitResult :=
  (binding.observed.find? fun seen => seen.1 = ticket).map Prod.snd

/-- The runtime answers the waits for a ticket once, and a query after that with the state it
has answered; and `release_io` does not succeed with a terminal result. -/
def Orderly (binding : Binding) : Event → Prop
  | .submit _ => True
  | .call _ method ticket released => method = .release → released = true →
      ∀ result ∈ binding.python.terminalResults.get? ticket, result.terminal = false
  | .back thread outcome released => ∀ call ∈ binding.inside thread, call.1 ≠ .query →
      (WaitResult.ofOutcome outcome).observation = none →
        binding.firstObserved call.2 = none ∧
          (call.1 = .release → released = true → (WaitResult.ofOutcome outcome).terminal = false)
  | .queried thread snapshot => ∀ call ∈ binding.inside thread, ∀ state ∈ snapshot.toOption,
      ∀ result ∈ binding.firstObserved call.2, result.state = some state

instance (binding : Binding) (event : Event) : Decidable (binding.Orderly event) := by
  cases event <;> unfold Orderly <;> infer_instance

structure Window (binding : Binding) : Prop where
  once : (binding.observed.map Prod.fst).Nodup
  table : binding.python.terminalResults.entries = binding.latest
  order : binding.python.terminalOrder = binding.latest.map Prod.fst
  answered : ∀ told ∈ binding.answers, told ∈ binding.observed
  queried : ∀ told ∈ binding.states, ∃ result, (told.1, result) ∈ binding.observed ∧
    result.state = told.2

variable {binding : Binding} {ticket : Nat} {result : WaitResult}

theorem firstObserved_eq_none : binding.firstObserved ticket = none ↔
    ticket ∉ binding.observed.map Prod.fst := by
  rw [firstObserved, Option.map_eq_none_iff, find?_eq_none]
  constructor
  · intro never member
    obtain ⟨seen, listed, rfl⟩ := mem_map.mp member
    exact never seen listed (decide_eq_true rfl)
  · exact fun absent seen listed same =>
      absent (mem_map.mpr ⟨seen, listed, of_decide_eq_true same⟩)

theorem Window.firstObserved_eq_some (window : binding.Window) :
    binding.firstObserved ticket = some result ↔ (ticket, result) ∈ binding.observed :=
  @OrderedDict.get?_eq_some_iff _ _ ⟨binding.observed, window.once⟩ ticket _ result

/-- What is observed for a new ticket is the last entry of the table and of the queue. -/
theorem Window.waitBack (window : binding.Window)
    (new : result.observation = none → binding.firstObserved ticket = none) :
    (binding.waitBack ticket result).Window := by
  unfold Binding.waitBack
  split
  · rename_i terminal
    obtain ⟨once, table, order, answered, queried⟩ := window
    have unseen := firstObserved_eq_none.mp (new terminal)
    have fresh : ticket ∉ binding.python.terminalResults := by
      intro held
      rw [OrderedDict.mem_def, OrderedDict.keys, table] at held
      exact unseen (((drop_sublist _ _).map _).subset held)
    -- what is listed before the eviction is an end of what was observed
    have entries : (binding.python.terminalResults.set ticket result).entries =
        (binding.observed ++ [(ticket, result)]).drop
          (binding.observed.length - kRetainedTerminalResults) := by
      rw [OrderedDict.set, dif_neg fresh, drop_append_of_le_length (Nat.sub_le _ _), ← latest,
        ← table]
    have queue : binding.python.terminalOrder ++ [ticket] =
        (binding.python.terminalResults.set ticket result).keys := by
      rw [OrderedDict.keys, entries, order, drop_append_of_le_length (Nat.sub_le _ _), map_append]
      rfl
    have evicted : (binding.python.terminalResults.set ticket result).entries.drop
        ((binding.python.terminalOrder ++ [ticket]).length - kRetainedTerminalResults) =
          (binding.observed ++ [(ticket, result)]).drop
            ((binding.observed ++ [(ticket, result)]).length - kRetainedTerminalResults) := by
      rw [queue, OrderedDict.keys, length_map, entries, drop_drop, length_drop, length_append,
        length_singleton]
      rw [show ∀ count bound : Nat, count - bound + (count + 1 - (count - bound) - bound) =
        count + 1 - bound by omega]
    refine ⟨?_, ?_, ?_, fun told member => ?_, fun told member => ?_⟩
    · rw [answer, map_append, nodup_append]
      refine ⟨once, nodup_singleton _, fun seen member other last same => unseen ?_⟩
      have here : seen = ticket := same.trans (mem_singleton.mp last)
      rwa [← here]
    · rw [latest, answer, ← evicted, queue, ← OrderedDict.entries_foldl_erase, ← queue]
      rfl
    · rw [latest, answer, ← evicted, map_drop]
      simp only [PyRuntime.retainTerminal, queue, OrderedDict.keys]
    · rcases mem_append.mp member with before | here
      · exact mem_append_left _ (answered told before)
      · exact mem_append_right _ here
    · obtain ⟨result, seen, same⟩ := queried told member
      exact ⟨result, mem_append_left _ seen, same⟩
  · exact window

theorem Window.answer (window : binding.Window) (seen : (ticket, result) ∈ binding.observed) :
    (binding.answer ticket result).Window := by
  refine { window with answered := fun told member => ?_ }
  rcases mem_append.mp member with before | here
  · exact window.answered told before
  · rw [mem_singleton.mp here]
    exact seen

/-- A query that answers as observed. -/
theorem Window.tell (window : binding.Window) {state : Option IoState}
    (agrees : ∀ result, (ticket, result) ∈ binding.observed → result.state = state) :
    (binding.tell ticket state).Window := by
  unfold Binding.tell
  split
  · rename_i seen
    obtain ⟨⟨_, result⟩, listed, rfl⟩ := mem_map.mp seen
    refine { window with queried := fun told member => ?_ }
    rcases mem_append.mp member with before | here
    · exact window.queried told before
    · rw [mem_singleton.mp here]
      exact ⟨result, listed, agrees result listed⟩
  · exact window

/-- A release that fails, or has no terminal result, retains nothing. -/
theorem Window.releaseBack (window : binding.Window) {released : Bool}
    (quiet : released = true → result.observation = none → result.terminal = false) :
    (binding.releaseBack ticket result released).Window := by
  unfold Binding.releaseBack
  split
  · exact window
  rename_i succeeds
  rw [if_neg]
  · exact { window with }
  · rintro ⟨known, terminal⟩
    rw [quiet (Bool.not_eq_false _ ▸ succeeds) known] at terminal
    cases terminal

theorem Window.enter (window : binding.Window) (thread : Nat) (call : Option (TicketCall × Nat)) :
    (binding.enter thread call).Window :=
  { window with }

/-- Every orderly event keeps the table, the queue and the answers in step. -/
theorem Window.step (window : binding.Window) {event : Event} (orderly : binding.Orderly event) :
    (binding.step event).Window := by
  cases event with
  | submit io =>
    cases io with
    | none => exact window
    | some io => exact { window with }
  | call thread method ticket released =>
    unfold Binding.step
    dsimp only
    split
    · exact window
    split
    · rename_i result found
      have held := OrderedDict.get?_eq_some_iff.mp found
      rw [window.table] at held
      have seen := mem_of_mem_drop held
      cases method with
      | wait => exact window.answer seen
      | query =>
        refine window.tell fun other listed => ?_
        cases (window.firstObserved_eq_some.mpr seen).symm.trans
          (window.firstObserved_eq_some.mpr listed)
        rfl
      | release =>
        exact (window.answer seen).releaseBack fun succeeds _ => orderly rfl succeeds result found
    · split
      · exact window.enter thread _
      · exact window
  | back thread outcome released =>
    have waits : TicketCall.wait ≠ .query := by decide
    have releases : TicketCall.release ≠ .query := by decide
    unfold Binding.step
    dsimp only
    split
    · rename_i ticket inside
      exact (window.enter thread none).waitBack fun terminal =>
        (orderly _ inside waits terminal).1
    · rename_i ticket inside
      refine ((window.enter thread none).waitBack fun terminal =>
        (orderly _ inside releases terminal).1).releaseBack fun succeeds known => ?_
      exact (orderly _ inside releases known).2 rfl succeeds
    · exact window
    · exact window
  | queried thread snapshot =>
    unfold Binding.step
    dsimp only
    split
    · rename_i ticket inside
      split
      · exact window.enter thread none
      · rename_i state
        refine (window.enter thread none).tell fun result seen => ?_
        exact orderly _ inside state rfl result (window.firstObserved_eq_some.mpr seen)
    all_goals exact window

/-- In every orderly history the table holds the last results that were observed, the queue
lists each of them once in order of observation, and what `wait_result` returns, and what
`query_io` returns after an observation, is the result that was observed first. -/
theorem window_exact (events : List Event) (orderly : Along step Orderly {} events) :
    let reached := runFrom step {} events
    reached.python.terminalResults.size ≤ kRetainedTerminalResults ∧
      reached.python.terminalOrder.Nodup ∧
      reached.python.terminalOrder = reached.latest.map Prod.fst ∧
      (∀ ticket result, reached.python.terminalResults.get? ticket = some result ↔
        (ticket, result) ∈ reached.latest) ∧
      (∀ told ∈ reached.answers, reached.firstObserved told.1 = some told.2) ∧
      ∀ told ∈ reached.states,
        (reached.firstObserved told.1).map WaitResult.state = some told.2 := by
  have initial : ({} : Binding).Window :=
    ⟨nodup_nil, rfl, rfl, fun _ => (absurd · not_mem_nil), fun _ => (absurd · not_mem_nil)⟩
  have always : Always step Window {} events :=
    orderly.always (fun _ _ window => Window.step window) initial
  have window := always.last
  intro reached
  refine ⟨?_, ?_, window.order, fun ticket result => ?_, fun told member => ?_,
    fun told member => ?_⟩
  · rw [OrderedDict.size, OrderedDict.keys, length_map, window.table, latest, length_drop]
    omega
  · rw [window.order]
    exact window.once.sublist ((drop_sublist _ _).map _)
  · rw [OrderedDict.get?_eq_some_iff, window.table]
  · exact window.firstObserved_eq_some.mpr (window.answered told member)
  · obtain ⟨result, seen, same⟩ := window.queried told member
    rw [window.firstObserved_eq_some.mpr seen, Option.map_some, same]

/-- An IO that is submitted and waited for. -/
def finished (ticket : Nat) : List Event :=
  [.submit (some ⟨0, ticket, ticket⟩), .call 0 .wait ticket false,
    .back 0 (.ok (some ⟨.completed, none, {}⟩)) false]

/-- Sixty-six IOs are waited for; the first is then queried at the runtime while the last is
answered out of the table, and is not released. -/
def crowded : List Event :=
  (range' 1 66).flatMap finished ++ [.call 1 .query 1 false, .call 2 .query 66 false,
    .queried 1 (.ok .completed), .call 2 .release 66 false]

theorem window_exact_crowded :
    (runFrom step {} crowded).states = [(66, some .completed), (1, some .completed)] ∧
      (runFrom step {} crowded).python.terminalOrder =
        (runFrom step {} crowded).latest.map Prod.fst ∧
      (runFrom step {} crowded).python.terminalOrder.Nodup := by
  have exact := window_exact crowded (by decide +kernel)
  exact ⟨by decide +kernel, exact.2.2.1, exact.2.1⟩

/-- Thirty-three IOs are waited for and released. The queue lists tickets twice, and the first
ticket is no longer answered although only thirty-three were observed. -/
theorem releases_forget :
    let reached := runFrom step {} ((range' 1 33).flatMap fun ticket =>
      finished ticket ++ [.call 0 .release ticket true])
    reached.observed.map Prod.fst = range' 1 33 ∧
      ¬ reached.python.terminalOrder.Nodup ∧ 1 ∉ reached.python.terminalResults := by
  decide +kernel

end Binding

end Tutti
