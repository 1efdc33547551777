import Mathlib.Data.List.Basic

/-!
# Finite runs of a total transition function

A component is given by a total step function over a type of actions; an action
that is not enabled leaves the state as it is. Runs are action lists. The file
fixes the two ways a run is inspected, through the steps it takes (`Along`) and
through the states it visits (`Always`), and the induction rules between them. A
run that works through a list of indices is summed up by `view_runFrom`, one whose
steps emit events by `emitFrom`.
-/

namespace Foundation

variable {State Action : Type*} {step : State → Action → State}

/-- The state reached after a list of actions. -/
def runFrom (step : State → Action → State) (state : State) (actions : List Action) : State :=
  actions.foldl step state

variable (state : State)

@[simp] theorem runFrom_nil : runFrom step state [] = state := rfl

@[simp] theorem runFrom_cons (action : Action) (actions : List Action) :
    runFrom step state (action :: actions) = runFrom step (step state action) actions := rfl

theorem runFrom_append (first second : List Action) :
    runFrom step state (first ++ second) = runFrom step (runFrom step state first) second := by
  exact List.foldl_append

/-- Every action of the run satisfies `guard` in the state it is taken in. -/
def Along (step : State → Action → State) (guard : State → Action → Prop) :
    State → List Action → Prop
  | _, [] => True
  | state, action :: actions => guard state action ∧ Along step guard (step state action) actions

/-- Every state visited by the run, the first and the last included, satisfies
`predicate`. -/
def Always (step : State → Action → State) (predicate : State → Prop) :
    State → List Action → Prop
  | state, [] => predicate state
  | state, action :: actions =>
    predicate state ∧ Always step predicate (step state action) actions

instance instDecidableAlong (guard : State → Action → Prop)
    [∀ state action, Decidable (guard state action)] :
    ∀ (state : State) (actions : List Action), Decidable (Along step guard state actions)
  | _, [] => inferInstanceAs (Decidable True)
  | state, action :: actions =>
    haveI := instDecidableAlong guard (step state action) actions
    inferInstanceAs (Decidable (guard state action ∧ Along step guard (step state action) actions))

variable {guard : State → Action → Prop} {state : State}

theorem Along.append {first second : List Action} :
    Along step guard state (first ++ second) ↔
      Along step guard state first ∧ Along step guard (runFrom step state first) second := by
  induction first generalizing state with
  | nil => simp [Along]
  | cons action actions ih => simp only [List.cons_append, Along, ih, runFrom_cons, and_assoc]

variable {predicate : State → Prop} {actions : List Action}

theorem Always.head (always : Always step predicate state actions) : predicate state := by
  cases actions with
  | nil => exact always
  | cons action actions => exact always.1

theorem Always.last (always : Always step predicate state actions) :
    predicate (runFrom step state actions) := by
  induction actions generalizing state with
  | nil => exact always
  | cons action actions ih => exact ih always.2

theorem Always.imp {predicate conclusion : State → Prop}
    (derived : ∀ state, predicate state → conclusion state)
    (always : Always step predicate state actions) :
    Always step conclusion state actions := by
  induction actions generalizing state with
  | nil => exact derived state always
  | cons action actions ih => exact ⟨derived state always.1, ih always.2⟩

/-- An invariant that no step breaks may be added to what holds in every state
visited. -/
theorem Always.with_invariant {invariant predicate : State → Prop}
    (preserved : ∀ state action, invariant state → invariant (step state action))
    (initial : invariant state) (always : Always step predicate state actions) :
    Always step (fun reached => invariant reached ∧ predicate reached) state actions := by
  induction actions generalizing state with
  | nil => exact ⟨initial, always⟩
  | cons action actions ih =>
    exact ⟨⟨initial, always.1⟩, ih (preserved state action initial) always.2⟩

/-- An invariant of the guarded steps holds in every state visited by a run
that respects the guard. -/
theorem Along.always (preserved : ∀ state action, predicate state → guard state action →
      predicate (step state action)) (initial : predicate state)
    (along : Along step guard state actions) : Always step predicate state actions := by
  induction actions generalizing state with
  | nil => exact initial
  | cons action actions ih =>
    exact ⟨initial, ih (preserved state action initial along.1) along.2⟩

/-- Along a guarded run an invariant of the guarded steps may be used to derive
what each of the steps does. -/
theorem Along.imp_of_invariant {guard conclusion : State → Action → Prop} (predicate : State → Prop)
    (preserved : ∀ state action, predicate state → guard state action →
      predicate (step state action))
    (derived : ∀ state action, predicate state → guard state action → conclusion state action)
    (initial : predicate state) (along : Along step guard state actions) :
    Along step conclusion state actions := by
  induction actions generalizing state with
  | nil => trivial
  | cons action actions ih =>
    exact ⟨derived state action initial along.1,
      ih (preserved state action initial along.1) along.2⟩

/-- If the guard is exactly what keeps an invariant, the runs that respect the
guard are the runs whose visited states all satisfy the invariant. -/
theorem along_iff_always (exactly : ∀ state action, predicate state →
      (guard state action ↔ predicate (step state action))) (initial : predicate state)
    (actions : List Action) :
    Along step guard state actions ↔ Always step predicate state actions := by
  refine ⟨Along.always (fun state action holds => (exactly state action holds).mp) initial, ?_⟩
  induction actions generalizing state with
  | nil => exact fun _ => trivial
  | cons action actions ih =>
    intro always
    have next := always.2.head
    exact ⟨(exactly state action initial).mpr next, ih next always.2⟩

/-- An invariant that no step breaks holds at the end of every run. -/
theorem invariant_runFrom
    (preserved : ∀ state action, predicate state → predicate (step state action))
    (initial : predicate state) (actions : List Action) :
    predicate (runFrom step state actions) := by
  induction actions generalizing state with
  | nil => exact initial
  | cons action actions ih => exact ih (preserved state action initial)

/-- A run over indices whose every step changes what is seen at its own index
only, in a way that is not repeated, changes what is seen at the named indices
and nowhere else. -/
theorem view_runFrom {Index View : Type*} [DecidableEq Index] {step : State → Index → State}
    (view : State → Index → View) (act : View → View) (settled : ∀ seen, act (act seen) = act seen)
    (here : ∀ state index, view (step state index) index = act (view state index))
    (elsewhere : ∀ state index query, query ≠ index →
      view (step state index) query = view state query)
    (state : State) (indices : List Index) (query : Index) :
    view (runFrom step state indices) query =
      if query ∈ indices then act (view state query) else view state query := by
  induction indices generalizing state with
  | nil => simp [runFrom_nil]
  | cons index indices ih =>
    rw [runFrom_cons, ih]
    by_cases same : query = index
    · subst same
      simp [here, settled]
    · simp [elsewhere state index query same, same]

/-! ## Steps that emit -/

section Emitting

variable {Event : Type*} {emit : State → Action → State × List Event}

/-- A run of steps that also emit events, with everything emitted, in order. -/
def emitFrom (emit : State → Action → State × List Event) :
    State → List Action → State × List Event
  | state, [] => (state, [])
  | state, action :: actions =>
    let (next, made) := emit state action
    let (last, events) := emitFrom emit next actions
    (last, made ++ events)

theorem emitFrom_fst (state : State) (actions : List Action) :
    (emitFrom emit state actions).1 =
      runFrom (fun state action => (emit state action).1) state actions := by
  induction actions generalizing state with
  | nil => rfl
  | cons action actions ih => exact ih (emit state action).1

/-- Where every step does nothing, a run does nothing. -/
theorem emitFrom_still {state : State} (still : ∀ action, emit state action = (state, []))
    (actions : List Action) : emitFrom emit state actions = (state, []) := by
  induction actions with
  | nil => rfl
  | cons action actions ih => simp [emitFrom, still, ih]

end Emitting

end Foundation
