import Tutti.Foundation.Run

/-!
# The asynchronous read plan

`_AsyncReadPlan` submits one read per layer from a feeder thread, while the
forward thread polls for a verdict or aborts. The model interleaves the atomic
steps of the two threads with the settlement of the submitted reads. A verdict
means that the feeder has stopped and nothing is in flight, and it never changes.
A positive verdict means that all layers were read, unless the plan was aborted
while the feeder still had layers to submit: an abort records no failure.
-/

namespace Tutti

open Foundation List

/-- How a submitted read ends: the handle then reports success or failure, or
raises when it is polled. -/
inductive ReadOutcome where
  | ok
  | failed
  | raised
deriving DecidableEq, Repr

/-- The feeder thread `_run`: before the stop check with the layers left, about to
submit a layer, holding the handle of a submitted layer, leaving the loop, ended. -/
inductive Feeder (Layer : Type) where
  | check (rest : List Layer)
  | submit (layer : Layer) (rest : List Layer)
  | append (rest : List Layer)
  | closing
  | finished
deriving DecidableEq, Repr

/-- The forward thread inside `poll` and `abort`. -/
inductive PlanCaller where
  | idle
  | pollNext
  | pollHandle (place : Nat)
  | pollFeeder
  | pollRecheck
  | pollEnd
  | abortJoin
  | abortWait (pending : List Nat)
deriving DecidableEq, Repr

/-- The state of a plan. The handles are listed in the order of submission with
the outcome of their read; the first `listed` of them are in `_completions`.
`failure` says that a failure is recorded, and `verdicts` are the results that
`poll` has returned so far, except for `None`. -/
structure AsyncReadPlan (Layer : Type) where
  physicalLayers : List Layer
  handles : List (Layer × Option ReadOutcome)
  listed : Nat
  polled : Nat
  failure : Bool
  stop : Bool
  ended : Bool
  feeder : Feeder Layer
  caller : PlanCaller
  verdicts : List Bool
deriving DecidableEq, Repr

/-- The atomic steps: the feeder (whether a submission succeeds), the settlement
of a read, a call of `poll` or `abort`, and the next step of the call. -/
inductive PlanAction where
  | feeder (accepted : Bool)
  | settle (place : Nat) (outcome : ReadOutcome)
  | poll
  | abort
  | advance
deriving DecidableEq, Repr

namespace Feeder

variable {Layer : Type}

/-- The layers whose stop check is still ahead. -/
def unchecked : Feeder Layer → List Layer
  | .check rest | .submit _ rest | .append rest => rest
  | .closing | .finished => []

/-- The layers not submitted yet. -/
def unsubmitted : Feeder Layer → List Layer
  | .check rest | .append rest => rest
  | .submit layer rest => layer :: rest
  | .closing | .finished => []

/-- The number of handles the feeder holds and has not listed. -/
def held : Feeder Layer → Nat
  | .append _ => 1
  | .check _ | .submit _ _ | .closing | .finished => 0

end Feeder

namespace AsyncReadPlan

variable {Layer : Type}

/-- A plan whose feeder has just started. -/
def start (physicalLayers : List Layer) : AsyncReadPlan Layer where
  physicalLayers
  handles := []
  listed := 0
  polled := 0
  failure := false
  stop := false
  ended := false
  feeder := .check physicalLayers
  caller := .idle
  verdicts := []

/-- One step of the feeder. A failed submission records a failure and leaves the
loop, and so does a failing timing event behind the loop. -/
def feederStep (plan : AsyncReadPlan Layer) (accepted : Bool) : AsyncReadPlan Layer :=
  match plan.feeder with
  | .check [] => { plan with feeder := .closing }
  | .check (layer :: rest) =>
    if plan.stop then { plan with feeder := .closing }
    else { plan with feeder := .submit layer rest }
  | .submit layer rest =>
    if accepted then
      { plan with handles := plan.handles ++ [(layer, none)], feeder := .append rest }
    else { plan with failure := true, feeder := .closing }
  | .append rest => { plan with listed := plan.listed + 1, feeder := .check rest }
  | .closing => { plan with failure := plan.failure || !accepted, feeder := .finished }
  | .finished => plan

/-- A read in flight reaches its terminal state. -/
def settle (plan : AsyncReadPlan Layer) (place : Nat) (outcome : ReadOutcome) :
    AsyncReadPlan Layer :=
  { plan with
    handles := plan.handles.modify place fun handle => (handle.1, handle.2.or (some outcome)) }

/-- `poll` looks at one handle. -/
def pollHandle (plan : AsyncReadPlan Layer) (place : Nat) : AsyncReadPlan Layer :=
  match (plan.handles[place]?).bind Prod.snd with
  | none => { plan with caller := .idle }
  | some .ok => { plan with polled := plan.polled + 1, caller := .pollNext }
  | some .failed =>
    { plan with
      failure := true
      stop := plan.stop || !plan.failure
      polled := plan.polled + 1
      caller := .pollNext }
  | some .raised => { plan with failure := true, polled := plan.polled + 1, caller := .pollNext }

/-- `abort` waits for one handle; it blocks while the read is in flight. -/
def abortWait (plan : AsyncReadPlan Layer) (place : Nat) (pending : List Nat) :
    AsyncReadPlan Layer :=
  match (plan.handles[place]?).bind Prod.snd with
  | none => plan
  | some .ok => { plan with caller := .abortWait pending }
  | some .failed | some .raised => { plan with failure := true, caller := .abortWait pending }

/-- The next step of the running call. -/
def advance (plan : AsyncReadPlan Layer) : AsyncReadPlan Layer :=
  match plan.caller with
  | .idle => plan
  | .pollNext =>
    if plan.listed ≤ plan.polled then { plan with caller := .pollFeeder }
    else { plan with caller := .pollHandle plan.polled }
  | .pollHandle place => plan.pollHandle place
  | .pollFeeder =>
    match plan.feeder with
    | .finished => { plan with caller := .pollRecheck }
    | _ => { plan with caller := .idle }
  | .pollRecheck =>
    if plan.polled < plan.listed then { plan with caller := .idle }
    else { plan with caller := .pollEnd }
  | .pollEnd =>
    { plan with ended := true, caller := .idle, verdicts := plan.verdicts ++ [!plan.failure] }
  | .abortJoin =>
    match plan.feeder with
    | .finished =>
      { plan with caller := .abortWait (range' plan.polled (plan.listed - plan.polled)) }
    | _ => plan
  | .abortWait [] => { plan with polled := plan.listed, ended := true, caller := .idle }
  | .abortWait (place :: pending) => plan.abortWait place pending

/-- One atomic step; a call is made only while no other call is running. -/
def step (plan : AsyncReadPlan Layer) : PlanAction → AsyncReadPlan Layer
  | .feeder accepted => plan.feederStep accepted
  | .settle place outcome => plan.settle place outcome
  | .poll =>
    match plan.caller with
    | .idle =>
      if plan.ended then { plan with verdicts := plan.verdicts ++ [!plan.failure] }
      else { plan with caller := .pollNext }
    | _ => plan
  | .abort =>
    match plan.caller with
    | .idle => { plan with stop := true, caller := .abortJoin }
    | _ => plan
  | .advance => plan.advance

/-- What the verdicts promise: the feeder has stopped and no read is in flight; a
positive verdict means that every layer was submitted and read; no two verdicts
differ. -/
structure VerdictSound (plan : AsyncReadPlan Layer) : Prop where
  settled : plan.verdicts ≠ [] →
    plan.feeder = .finished ∧ ∀ handle ∈ plan.handles, handle.2.isSome = true
  complete : true ∈ plan.verdicts →
    plan.handles.map Prod.fst = plan.physicalLayers ∧
      ∀ handle ∈ plan.handles, handle.2 = some .ok
  stable : ∀ first ∈ plan.verdicts, ∀ second ∈ plan.verdicts, first = second

/-- A plan is aborted only when the stop check of every layer has passed or a
failure is recorded. -/
def AbortsLate (plan : AsyncReadPlan Layer) : PlanAction → Prop
  | .abort => plan.caller = .idle → plan.failure = true ∨ plan.feeder.unchecked = []
  | _ => True

instance (plan : AsyncReadPlan Layer) [DecidableEq Layer] (action : PlanAction) :
    Decidable (plan.AbortsLate action) := by
  cases action <;> unfold AbortsLate <;> infer_instance

/-! ## What holds in every interleaving -/

/-- The read of a handle is over and, unless it succeeded, recorded as a failure. -/
def Settled (plan : AsyncReadPlan Layer) (place : Nat) : Prop :=
  ∃ layer outcome, plan.handles[place]? = some (layer, some outcome) ∧
    (outcome = .ok ∨ plan.failure = true)

/-- What the place of the forward thread says about the plan. -/
def CallerAt (plan : AsyncReadPlan Layer) : PlanCaller → Prop
  | .idle | .abortJoin => True
  | .pollNext | .pollFeeder => plan.ended = false
  | .pollHandle place => plan.ended = false ∧ place = plan.polled ∧ plan.polled < plan.listed
  | .pollRecheck => plan.ended = false ∧ plan.feeder = .finished
  | .pollEnd => plan.ended = false ∧ plan.feeder = .finished ∧ plan.listed ≤ plan.polled
  | .abortWait pending => plan.feeder = .finished ∧
      (∀ place ∈ pending, place < plan.listed) ∧
      ∀ place, plan.polled ≤ place → place < plan.listed → place ∈ pending ∨ plan.Settled place

/-- The invariant of all interleavings. -/
structure Consistent (plan : AsyncReadPlan Layer) : Prop where
  listed : plan.handles.length = plan.listed + plan.feeder.held
  polled : plan.polled ≤ plan.listed
  settled : ∀ place < plan.polled, plan.Settled place
  caller : plan.CallerAt plan.caller
  ended : plan.ended = true → plan.feeder = .finished ∧ plan.polled = plan.listed
  verdict : ∀ verdict ∈ plan.verdicts, plan.ended = true ∧ verdict = !plan.failure

/-- Reads that are over stay so, and a recorded failure is never withdrawn. -/
def Extends (before after : AsyncReadPlan Layer) : Prop :=
  (∀ (place : Nat) layer outcome, before.handles[place]? = some (layer, some outcome) →
    after.handles[place]? = some (layer, some outcome)) ∧
  (before.failure = true → after.failure = true)

variable {place : Nat}

theorem Settled.mono {before after : AsyncReadPlan Layer} (settled : before.Settled place)
    (grows : before.Extends after) : after.Settled place := by
  obtain ⟨layer, outcome, found, recorded⟩ := settled
  exact ⟨layer, outcome, grows.1 place layer outcome found, recorded.imp_right grows.2⟩

theorem CallerAt.mono {before after : AsyncReadPlan Layer} {caller : PlanCaller}
    (located : before.CallerAt caller) (grows : before.Extends after)
    (ended : after.ended = before.ended) (polled : after.polled = before.polled)
    (listed : before.listed ≤ after.listed) (finished : before.feeder = .finished →
      after.feeder = .finished ∧ after.listed = before.listed) : after.CallerAt caller := by
  cases caller with
  | idle => trivial
  | abortJoin => trivial
  | pollNext | pollFeeder => exact ended.trans located
  | pollHandle place =>
    obtain ⟨active, here, inside⟩ := located
    exact ⟨ended.trans active, here.trans polled.symm, polled ▸ Nat.lt_of_lt_of_le inside listed⟩
  | pollRecheck => exact ⟨ended.trans located.1, (finished located.2).1⟩
  | pollEnd =>
    obtain ⟨active, done, all⟩ := located
    obtain ⟨stillDone, same⟩ := finished done
    exact ⟨ended.trans active, stillDone, by rw [same, polled]; exact all⟩
  | abortWait pending =>
    obtain ⟨done, inside, rest⟩ := located
    obtain ⟨stillDone, same⟩ := finished done
    refine ⟨stillDone, fun place member => same ▸ inside place member, ?_⟩
    intro place lower upper
    rw [polled] at lower
    rw [same] at upper
    exact (rest place lower upper).imp_right fun settled => settled.mono grows

/-- A step that leaves the forward thread where it is keeps the invariant if it
only adds handles and failures and, after the end, changes no failure. -/
theorem Consistent.mono {before after : AsyncReadPlan Layer} (consistent : before.Consistent)
    (grows : before.Extends after) (caller : after.caller = before.caller)
    (ended : after.ended = before.ended) (polled : after.polled = before.polled)
    (verdicts : after.verdicts = before.verdicts)
    (held : after.handles.length = after.listed + after.feeder.held)
    (listed : before.listed ≤ after.listed)
    (finished : before.feeder = .finished → after.feeder = .finished ∧
      after.listed = before.listed ∧ after.failure = before.failure) : after.Consistent where
  listed := held
  polled := by
    rw [polled]
    exact Nat.le_trans consistent.polled listed
  settled := by
    intro place inside
    rw [polled] at inside
    exact (consistent.settled place inside).mono grows
  caller := by
    rw [caller]
    exact consistent.caller.mono grows ended polled listed
      fun done => ⟨(finished done).1, (finished done).2.1⟩
  ended := by
    intro terminal
    rw [ended] at terminal
    obtain ⟨done, all⟩ := consistent.ended terminal
    exact ⟨(finished done).1, by rw [polled, (finished done).2.1]; exact all⟩
  verdict := by
    intro verdict member
    rw [verdicts] at member
    obtain ⟨terminal, value⟩ := consistent.verdict verdict member
    rw [ended, (finished (consistent.ended terminal).1).2.2]
    exact ⟨terminal, value⟩

variable {plan : AsyncReadPlan Layer}

section

variable (consistent : plan.Consistent)
include consistent

theorem Consistent.feederStep (accepted : Bool) :
    (plan.feederStep accepted).Consistent := by
  have held := consistent.listed
  unfold AsyncReadPlan.feederStep
  cases thread : plan.feeder with
  | check rest =>
    rw [thread] at held
    cases rest with
    | nil =>
      exact consistent.mono ⟨fun _ _ _ => id, id⟩ rfl rfl rfl rfl held (Nat.le_refl _)
        fun done => nomatch thread.symm.trans done
    | cons layer rest =>
      dsimp only
      split
      all_goals
        exact consistent.mono ⟨fun _ _ _ => id, id⟩ rfl rfl rfl rfl held (Nat.le_refl _)
          fun done => nomatch thread.symm.trans done
  | submit layer rest =>
    rw [thread] at held
    dsimp only
    split
    · refine consistent.mono ⟨fun place name outcome found => ?_, id⟩ rfl rfl rfl rfl ?_
        (Nat.le_refl _)
        fun done => nomatch thread.symm.trans done
      · exact getElem?_append_left (List.getElem?_eq_some_iff.mp found).1 ▸ found
      · simp only [length_append, length_singleton, Feeder.held] at held ⊢
        omega
    · exact consistent.mono ⟨fun _ _ _ => id, fun _ => rfl⟩ rfl rfl rfl rfl held (Nat.le_refl _)
        fun done => nomatch thread.symm.trans done
  | append rest =>
    rw [thread] at held
    exact consistent.mono ⟨fun _ _ _ => id, id⟩ rfl rfl rfl rfl held (Nat.le_succ _)
      fun done => nomatch thread.symm.trans done
  | closing =>
    rw [thread] at held
    refine consistent.mono ⟨fun _ _ _ => id, fun recorded => ?_⟩ rfl rfl rfl rfl held
      (Nat.le_refl _)
      fun done => nomatch thread.symm.trans done
    simp [recorded]
  | finished => exact consistent

theorem Consistent.settle (place : Nat) (outcome : ReadOutcome) :
    (plan.settle place outcome).Consistent := by
  refine consistent.mono ⟨?_, id⟩ rfl rfl rfl rfl ?_ (Nat.le_refl _) fun done => ⟨done, rfl, rfl⟩
  · intro other layer result found
    rw [AsyncReadPlan.settle, getElem?_modify, found]
    split <;> rfl
  · rw [AsyncReadPlan.settle, length_modify]
    exact consistent.listed

theorem Consistent.goto {caller : PlanCaller} (located : plan.CallerAt caller) :
    { plan with caller }.Consistent :=
  { consistent with caller := located }

theorem Consistent.poll :
    (plan.step .poll).Consistent := by
  unfold AsyncReadPlan.step
  dsimp only
  split
  · split
    · rename_i terminal
      refine { consistent with verdict := fun verdict member => ?_ }
      rcases mem_append.mp member with old | new
      · exact consistent.verdict verdict old
      · exact ⟨terminal, mem_singleton.mp new⟩
    · rename_i active
      exact consistent.goto (Bool.eq_false_iff.mpr active)
  · exact consistent

theorem Consistent.abort :
    (plan.step .abort).Consistent := by
  unfold AsyncReadPlan.step
  dsimp only
  split
  · exact { consistent with caller := trivial }
  · exact consistent

variable {outcome : ReadOutcome}

omit consistent in
/-- The outcome of a handle that has one. -/
theorem exists_handle (found : (plan.handles[place]?).bind Prod.snd = some outcome) :
    ∃ layer, plan.handles[place]? = some (layer, some outcome) := by
  obtain ⟨⟨layer, result⟩, listed, same⟩ := Option.bind_eq_some_iff.mp found
  exact ⟨layer, same ▸ listed⟩

/-- A polled handle that is over: the cursor moves on, and whatever is not a success
is a recorded failure. -/
theorem Consistent.passHandle (active : plan.ended = false) (inside : plan.polled < plan.listed)
    (found : (plan.handles[plan.polled]?).bind Prod.snd = some outcome) (failure stop : Bool)
    (kept : plan.failure = true → failure = true) (recorded : outcome = .ok ∨ failure = true) :
    { plan with
      failure, stop, polled := plan.polled + 1,
      caller := .pollNext }.Consistent := by
  refine ⟨consistent.listed, inside, fun place before => ?_, active,
    fun terminal => absurd (active.symm.trans terminal) nofun, fun verdict member =>
      nomatch active.symm.trans (consistent.verdict verdict member).1⟩
  by_cases last : place = plan.polled
  · subst last
    obtain ⟨layer, listed⟩ := exists_handle found
    exact ⟨layer, outcome, listed, recorded⟩
  · have earlier : place < plan.polled := Nat.lt_of_le_of_ne (Nat.le_of_lt_succ before) last
    exact (consistent.settled place earlier).mono ⟨fun _ _ _ => id, kept⟩

theorem Consistent.pollHandle (active : plan.ended = false) (inside : plan.polled < plan.listed) :
    (plan.pollHandle plan.polled).Consistent := by
  unfold AsyncReadPlan.pollHandle
  split
  · exact consistent.goto trivial
  · rename_i found
    exact consistent.passHandle active inside found plan.failure plan.stop id (.inl rfl)
  · rename_i found
    exact consistent.passHandle active inside found true _ (fun _ => rfl) (.inr rfl)
  · rename_i found
    exact consistent.passHandle active inside found true plan.stop (fun _ => rfl) (.inr rfl)

/-- A handle that the abort has waited for: whatever is not a success is a recorded
failure, and it was one already if a verdict was returned. -/
theorem Consistent.passWait {pending : List Nat}
    (located : plan.CallerAt (.abortWait (place :: pending)))
    (found : (plan.handles[place]?).bind Prod.snd = some outcome) (failure : Bool)
    (kept : plan.failure = true → failure = true) (recorded : outcome = .ok ∨ failure = true)
    (same : outcome = .ok → failure = plan.failure) :
    { plan with failure, caller := .abortWait pending }.Consistent := by
  obtain ⟨done, inside, rest⟩ := located
  obtain ⟨layer, listed⟩ := exists_handle found
  refine ⟨consistent.listed, consistent.polled, fun other before => ?_, ⟨done, ?_, ?_⟩,
    consistent.ended, fun verdict member => ?_⟩
  · exact (consistent.settled other before).mono ⟨fun _ _ _ => id, kept⟩
  · exact fun other member => inside other (.tail _ member)
  · intro other lower upper
    rcases rest other lower upper with member | settled
    · rcases mem_cons.mp member with here | later
      · exact .inr ⟨layer, outcome, here ▸ listed, recorded⟩
      · exact .inl later
    · exact .inr (settled.mono ⟨fun _ _ _ => id, kept⟩)
  obtain ⟨terminal, value⟩ := consistent.verdict verdict member
  have early : place < plan.polled := by
    rw [(consistent.ended terminal).2]
    exact inside place (.head _)
  obtain ⟨name, result, found', known⟩ := consistent.settled place early
  have agree : result = outcome := by
    have equal := listed.symm.trans found'
    simp only [Option.some.injEq, Prod.mk.injEq] at equal
    exact equal.2.symm
  refine ⟨terminal, value.trans ?_⟩
  rcases known with success | before
  · rw [same (agree ▸ success)]
  · rw [before, kept before]

theorem Consistent.abortWait {pending : List Nat}
    (located : plan.CallerAt (.abortWait (place :: pending))) :
    (plan.abortWait place pending).Consistent := by
  unfold AsyncReadPlan.abortWait
  split
  · exact consistent
  · rename_i found
    exact consistent.passWait located found plan.failure id (.inl rfl) fun _ => rfl
  all_goals
    rename_i found
    exact consistent.passWait located found true (fun _ => rfl) (.inr rfl) nofun

theorem Consistent.advance :
    plan.advance.Consistent := by
  have located := consistent.caller
  unfold AsyncReadPlan.advance
  cases position : plan.caller with
  | idle => exact consistent
  | pollNext =>
    rw [position] at located
    dsimp only
    split
    · exact consistent.goto located
    rename_i more
    exact consistent.goto ⟨located, rfl, Nat.lt_of_not_le more⟩
  | pollHandle place =>
    rw [position] at located
    obtain ⟨active, rfl, inside⟩ := located
    exact consistent.pollHandle active inside
  | pollFeeder =>
    rw [position] at located
    dsimp only
    split
    · rename_i done
      exact consistent.goto ⟨located, done⟩
    · exact consistent.goto trivial
  | pollRecheck =>
    rw [position] at located
    dsimp only
    split
    · exact consistent.goto trivial
    rename_i all
    exact consistent.goto ⟨located.1, located.2, Nat.le_of_not_lt all⟩
  | pollEnd =>
    rw [position] at located
    obtain ⟨active, done, all⟩ := located
    refine { consistent with
      caller := trivial
      ended := fun _ => ⟨done, Nat.le_antisymm consistent.polled all⟩
      verdict := fun verdict member => ?_ }
    rcases mem_append.mp member with old | new
    · exact nomatch active.symm.trans (consistent.verdict verdict old).1
    · exact ⟨rfl, mem_singleton.mp new⟩
  | abortJoin =>
    dsimp only
    split
    · rename_i done
      refine consistent.goto ⟨done, fun place member => ?_, fun place lower upper => .inl ?_⟩
      · rw [mem_range'_1] at member
        omega
      · rw [mem_range'_1]
        omega
    · exact consistent
  | abortWait pending =>
    rw [position] at located
    cases pending with
    | nil =>
      obtain ⟨done, -, rest⟩ := located
      refine ⟨consistent.listed, Nat.le_refl _, fun place before => ?_, trivial,
        fun _ => ⟨done, rfl⟩, fun verdict member =>
          ⟨rfl, (consistent.verdict verdict member).2⟩⟩
      by_cases early : place < plan.polled
      · exact consistent.settled place early
      · exact (rest place (Nat.le_of_not_lt early) before).resolve_left not_mem_nil
    | cons place pending => exact consistent.abortWait located

theorem Consistent.step (action : PlanAction) :
    (plan.step action).Consistent := by
  cases action with
  | feeder accepted => exact consistent.feederStep accepted
  | settle place outcome => exact consistent.settle place outcome
  | poll => exact consistent.poll
  | abort => exact consistent.abort
  | advance => exact consistent.advance

omit consistent in
theorem consistent_start (physicalLayers : List Layer) : (start physicalLayers).Consistent where
  listed := rfl
  polled := Nat.le_refl 0
  settled := fun _ before => absurd before (Nat.not_lt_zero _)
  caller := trivial
  ended := nofun
  verdict := nofun

/-- No read is in flight once the plan has ended, and a plan that ended without a
recorded failure read all it submitted. -/
theorem Consistent.settled_handles (terminal : plan.ended = true)
    {handle : Layer × Option ReadOutcome} (member : handle ∈ plan.handles) :
    handle.2.isSome = true ∧ (plan.failure = false → handle.2 = some .ok) := by
  obtain ⟨done, all⟩ := consistent.ended terminal
  have length := consistent.listed
  rw [done, Feeder.held, Nat.add_zero] at length
  obtain ⟨place, inside, found⟩ := getElem_of_mem member
  have early : place < plan.polled := by
    rw [all, ← length]
    exact inside
  obtain ⟨layer, outcome, listed, recorded⟩ := consistent.settled place early
  rw [getElem?_eq_getElem inside, found] at listed
  cases listed
  exact ⟨rfl, fun clean => congrArg some (recorded.resolve_right (by simp [clean]))⟩

end

/-! ## Runs that are not cut short -/

/-- Without a failure every layer is submitted or about to be, and the feeder is
stopped only behind the last check. -/
structure Accounted (plan : AsyncReadPlan Layer) : Prop where
  submitted : plan.failure = true ∨
    plan.handles.map Prod.fst ++ plan.feeder.unsubmitted = plan.physicalLayers
  stopped : plan.stop = true → plan.failure = true ∨ plan.feeder.unchecked = []

/-- The steps other than the feeder's keep the layers and the feeder, and set the
stop flag only together with a failure. -/
structure Frame (before after : AsyncReadPlan Layer) : Prop where
  layers : after.physicalLayers = before.physicalLayers
  handles : after.handles.map Prod.fst = before.handles.map Prod.fst
  feeder : after.feeder = before.feeder
  failure : before.failure = true → after.failure = true
  stop : after.stop = true → before.stop = true ∨ after.failure = true

section

variable (plan)

theorem Frame.refl : plan.Frame plan :=
  ⟨rfl, rfl, rfl, id, .inl⟩

theorem Accounted.frame {before after : AsyncReadPlan Layer} (accounted : before.Accounted)
    (frame : before.Frame after) : after.Accounted where
  submitted := by
    rw [frame.handles, frame.feeder, frame.layers]
    exact accounted.submitted.imp_left frame.failure
  stopped := by
    intro stopped
    rw [frame.feeder]
    rcases frame.stop stopped with before | failed
    · exact (accounted.stopped before).imp_left frame.failure
    · exact .inl failed

theorem frame_settle (place : Nat) (outcome : ReadOutcome) :
    plan.Frame (plan.settle place outcome) where
  layers := rfl
  handles := by
    refine ext_getElem? fun index => ?_
    simp only [AsyncReadPlan.settle, getElem?_map, getElem?_modify]
    split <;> simp [Function.comp_def]
  feeder := rfl
  failure := id
  stop := .inl

theorem frame_pollHandle (place : Nat) :
    plan.Frame (plan.pollHandle place) := by
  unfold AsyncReadPlan.pollHandle
  split
  · exact ⟨rfl, rfl, rfl, id, .inl⟩
  · exact ⟨rfl, rfl, rfl, id, .inl⟩
  all_goals exact ⟨rfl, rfl, rfl, fun _ => rfl, fun _ => .inr rfl⟩

theorem frame_abortWait (place : Nat) (pending : List Nat) :
    plan.Frame (plan.abortWait place pending) := by
  unfold AsyncReadPlan.abortWait
  split
  · exact Frame.refl plan
  · exact ⟨rfl, rfl, rfl, id, .inl⟩
  all_goals exact ⟨rfl, rfl, rfl, fun _ => rfl, fun _ => .inr rfl⟩

theorem frame_advance : plan.Frame plan.advance := by
  unfold AsyncReadPlan.advance
  split
  case h_3 => exact plan.frame_pollHandle _
  case h_9 => exact plan.frame_abortWait _ _
  all_goals
    first
    | exact ⟨rfl, rfl, rfl, id, .inl⟩
    | split <;> exact ⟨rfl, rfl, rfl, id, .inl⟩

theorem frame_poll : plan.Frame (plan.step .poll) := by
  unfold AsyncReadPlan.step
  dsimp only
  split
  · split <;> exact ⟨rfl, rfl, rfl, id, .inl⟩
  · exact Frame.refl plan

end

theorem Accounted.abort (accounted : plan.Accounted) (late : plan.AbortsLate .abort) :
    (plan.step .abort).Accounted := by
  unfold AsyncReadPlan.step
  dsimp only
  split
  · rename_i idle
    exact ⟨accounted.submitted, fun _ => late idle⟩
  · exact accounted

theorem Accounted.feederStep (accounted : plan.Accounted) (accepted : Bool) :
    (plan.feederStep accepted).Accounted := by
  obtain ⟨submitted, stopped⟩ := accounted
  unfold AsyncReadPlan.feederStep
  cases thread : plan.feeder with
  | check rest =>
    rw [thread] at submitted stopped
    cases rest with
    | nil => exact ⟨submitted, fun _ => .inr rfl⟩
    | cons layer rest =>
      dsimp only
      split
      · -- the feeder leaves the loop with layers left, so a failure is recorded
        rename_i halted
        have failed := (stopped halted).resolve_right (cons_ne_nil _ _)
        exact ⟨.inl failed, fun _ => .inl failed⟩
      · rename_i running
        exact ⟨submitted, fun halted => absurd halted running⟩
  | submit layer rest =>
    rw [thread] at submitted stopped
    dsimp only
    split
    · refine ⟨submitted.imp_right fun all => ?_, stopped⟩
      rw [map_append, append_assoc]
      exact all
    · exact ⟨.inl rfl, fun _ => .inl rfl⟩
  | append rest =>
    rw [thread] at submitted stopped
    exact ⟨submitted, stopped⟩
  | closing =>
    rw [thread] at submitted
    have kept : plan.failure = true → (plan.failure || !accepted) = true :=
      fun failed => by rw [failed, Bool.true_or]
    exact ⟨submitted.imp_left kept, fun _ => .inr rfl⟩
  | finished => exact ⟨submitted, stopped⟩

theorem Accounted.step (accounted : plan.Accounted) {action : PlanAction}
    (late : plan.AbortsLate action) : (plan.step action).Accounted := by
  cases action with
  | feeder accepted => exact accounted.feederStep accepted
  | settle place outcome => exact accounted.frame (plan.frame_settle place outcome)
  | poll => exact accounted.frame plan.frame_poll
  | abort => exact accounted.abort late
  | advance => exact accounted.frame plan.frame_advance

/-! ## Verdicts -/

/-- In every interleaving, aborts at any time included, a verdict is final: the
feeder has stopped, no read is in flight, and no later verdict differs. -/
theorem Consistent.verdict_final (consistent : plan.Consistent) :
    (plan.verdicts ≠ [] →
      plan.feeder = .finished ∧ ∀ handle ∈ plan.handles, handle.2.isSome = true) ∧
    ∀ first ∈ plan.verdicts, ∀ second ∈ plan.verdicts, first = second := by
  refine ⟨fun given => ?_, fun first here second there => ?_⟩
  · obtain ⟨verdict, member⟩ := exists_mem_of_ne_nil _ given
    have terminal := (consistent.verdict verdict member).1
    exact ⟨(consistent.ended terminal).1,
      fun _ listed => (consistent.settled_handles terminal listed).1⟩
  · exact (consistent.verdict first here).2.trans (consistent.verdict second there).2.symm

theorem verdictSound_of_accounted (consistent : plan.Consistent) (accounted : plan.Accounted) :
    plan.VerdictSound where
  settled := consistent.verdict_final.1
  complete := by
    intro positive
    obtain ⟨terminal, value⟩ := consistent.verdict true positive
    have clean : plan.failure = false := by simpa using value
    have all := accounted.submitted.resolve_left (by simp [clean])
    rw [(consistent.ended terminal).1, Feeder.unsubmitted, append_nil] at all
    exact ⟨all, fun _ member => (consistent.settled_handles terminal member).2 clean⟩
  stable := consistent.verdict_final.2

/-- The verdicts keep their promise in every interleaving of feeder, reads, `poll`
and `abort` in which the plan is aborted only behind its last stop check or with a
failure recorded. -/
theorem run_verdictSound (physicalLayers : List Layer) (actions : List PlanAction)
    (late : Along AsyncReadPlan.step AbortsLate (start physicalLayers) actions) :
    Always AsyncReadPlan.step VerdictSound (start physicalLayers) actions := by
  have invariant : Always AsyncReadPlan.step (fun plan => plan.Consistent ∧ plan.Accounted)
      (start physicalLayers) actions :=
    late.always (fun _ action kept late => ⟨kept.1.step action, kept.2.step late⟩)
      ⟨consistent_start physicalLayers, .inr rfl, nofun⟩
  exact invariant.imp fun _ kept => verdictSound_of_accounted kept.1 kept.2

/-- Two layers are read and polled to the end; an abort behind the verdict keeps it. -/
def completedRun : List PlanAction :=
  [.feeder true, .feeder true, .feeder true, .poll, .advance, .advance,
    .feeder true, .feeder true, .feeder true, .settle 0 .ok, .feeder true, .feeder true,
    .settle 1 .ok, .poll, .advance, .advance, .advance, .advance, .advance, .advance,
    .advance, .advance, .abort, .advance, .advance, .poll]

theorem run_verdictSound_completedRun :
    (runFrom AsyncReadPlan.step (start [0, 1]) completedRun).verdicts = [true, true] ∧
      Always AsyncReadPlan.step VerdictSound (start [0, 1]) completedRun :=
  ⟨by decide, run_verdictSound [0, 1] completedRun (by decide)⟩

/-- The plan is aborted when one of its two layers is submitted; that layer is read,
and the next `poll` reports success. -/
def abortedRun : List PlanAction :=
  [.feeder true, .feeder true, .feeder true, .abort, .feeder true, .feeder true,
    .settle 0 .ok, .advance, .advance, .advance, .poll]

theorem abortedRun_claims_success :
    (runFrom AsyncReadPlan.step (start [0, 1]) abortedRun).verdicts = [true] ∧
      (runFrom AsyncReadPlan.step (start [0, 1]) abortedRun).handles = [(0, some .ok)] ∧
      ¬ Always AsyncReadPlan.step VerdictSound (start [0, 1]) abortedRun := by
  refine ⟨by decide, by decide, fun always => ?_⟩
  have partialRead := always.last.complete (by decide)
  exact absurd partialRead.1 (by decide)

end AsyncReadPlan

end Tutti
