import Tutti.Vllm.AsyncHistory
import Tutti.Vllm.RankAgreement

/-!
# Every asynchronous load is settled once

Each delivered load is in one place: queued, in the active plan, noted as finished, or
reported. The protections of the engine are those of the loads that are queued or
active, next to those of the synchronous batch, and what was not read is owed to vLLM
until the blocks are fetched. The file follows this account through every call.
-/

namespace Tutti

open Foundation List Worker

variable {entry : Delivery} {more : Finset Nat}

namespace Delivery

/-- Nothing is owed for the load beyond the given blocks: it was read completely, its
request had ended, or its blocks have been fetched or are still to be fetched. -/
def Accounted (entry : Delivery) (waiting : Finset Nat) : Prop :=
  entry.read = true ∧ entry.whole = true ∨ entry.dropped = true ∨
    entry.blocks ⊆ entry.fetched ∪ waiting

/-- A load that has been reported. -/
structure Done (waiting : Finset Nat) (entry : Delivery) : Prop where
  reports : entry.reports = 1
  accounted : entry.Accounted waiting
  fetched : entry.fetchedAfter = true → entry.Accounted ∅

/-- A load that has not been reported. -/
structure Open (entry : Delivery) : Prop where
  reports : entry.reports = 0
  whole : entry.whole = true
  fetchedAfter : entry.fetchedAfter = false

theorem Accounted.mono {waiting : Finset Nat} (subset : waiting ⊆ more)
    (accounted : entry.Accounted waiting) : entry.Accounted more :=
  accounted.imp_right (Or.imp_right fun covered =>
    Finset.Subset.trans covered (Finset.union_subset_union_right subset))

theorem Done.mono {waiting : Finset Nat} (subset : waiting ⊆ more) (done : entry.Done waiting) :
    entry.Done more :=
  ⟨done.reports, done.accounted.mono subset, done.fetched⟩

end Delivery

/-- The account of one request: the loads that are queued or active, whether the request
is noted as finished, and its ledger. -/
inductive Account {Key Req : Type} (waiting : Finset Nat) :
    List (AsyncLoad Key Req) → Bool → List Delivery → Prop
  | settled {entries : List Delivery} (done : ∀ entry ∈ entries, entry.Done waiting) :
      Account waiting [] false entries
  | unsettled {load : AsyncLoad Key Req} {entry : Delivery} {older : List Delivery}
      (opened : entry.Open) (blocks : entry.blocks ⊆ load.blockTables.flatten.toFinset)
      (done : ∀ entry ∈ older, entry.Done waiting) :
      Account waiting [load] false (entry :: older)
  | finished {entry : Delivery} {older : List Delivery} (opened : entry.Open)
      (accounted : entry.Accounted waiting) (done : ∀ entry ∈ older, entry.Done waiting) :
      Account waiting [] true (entry :: older)

namespace Account

variable {Key Req : Type} {waiting : Finset Nat} {loads : List (AsyncLoad Key Req)}
  {finished : Bool} {entries : List Delivery}

section

variable (account : Account waiting loads finished entries)
include account

/-- A change of the deliveries that keeps what the account says about each. -/
theorem map {change : Delivery → Delivery} (blocks : ∀ entry, (change entry).blocks = entry.blocks)
    (opens : ∀ entry : Delivery, entry.Open → (change entry).Open)
    (owes : ∀ entry : Delivery, entry.Accounted waiting → (change entry).Accounted more)
    (ends : ∀ entry : Delivery, entry.Done waiting → (change entry).Done more) :
    Account more loads finished (entries.map change) := by
  have older : ∀ {rest : List Delivery}, (∀ entry ∈ rest, entry.Done waiting) →
      ∀ entry ∈ rest.map change, entry.Done more := fun done =>
    forall_mem_map.mpr fun entry member => ends entry (done entry member)
  cases account with
  | settled done => exact .settled (older done)
  | unsettled opened covered done =>
    exact .unsettled (opens _ opened) ((blocks _).trans_subset covered) (older done)
  | finished opened accounted done =>
    exact .finished (opens _ opened) (owes _ accounted) (older done)

theorem mono (subset : waiting ⊆ more) : Account more loads finished entries := by
  have same := @map more _ _ _ _ _ _ account id (fun _ => rfl) (fun _ opened => opened)
    (fun _ accounted => accounted.mono subset) fun _ done => done.mono subset
  rwa [map_id] at same

theorem perm {other : List (AsyncLoad Key Req)} (same : loads.Perm other) :
    Account waiting other finished entries := by
  cases account with
  | settled done =>
    rw [← same.nil_eq]
    exact .settled done
  | unsettled opened blocks done =>
    rw [← singleton_perm.mp same]
    exact .unsettled opened blocks done
  | finished opened accounted done =>
    rw [← same.nil_eq]
    exact .finished opened accounted done

/-- A request whose deliveries have all been reported is settled. -/
theorem settled_of_reported (reported : ∀ entry ∈ entries, entry.reports ≠ 0) :
    loads = [] ∧ finished = false ∧ ∀ entry ∈ entries, entry.Done waiting := by
  cases account with
  | settled done => exact ⟨rfl, rfl, done⟩
  | unsettled opened blocks done | finished opened accounted done =>
    exact absurd opened.reports (reported _ (.head _))

theorem reports_le :
    ∀ entry ∈ entries, entry.reports ≤ 1 := by
  have older : ∀ {rest : List Delivery}, (∀ entry ∈ rest, entry.Done waiting) →
      ∀ entry ∈ rest, entry.reports ≤ 1 :=
    fun done entry member => (done entry member).reports.le
  cases account with
  | settled done => exact older done
  | unsettled opened blocks done | finished opened accounted done =>
    exact forall_mem_cons.mpr ⟨opened.reports ▸ Nat.zero_le 1, older done⟩

/-- What was fetched after the report covers what is owed. -/
theorem accounted_of_fetchedAfter :
    ∀ entry ∈ entries, entry.fetchedAfter = true → entry.Accounted ∅ := by
  cases account with
  | settled done => exact fun entry member => (done entry member).fetched
  | unsettled opened blocks done | finished opened accounted done =>
    refine forall_mem_cons.mpr ⟨fun after => ?_, fun entry member => (done entry member).fetched⟩
    exact nomatch opened.fetchedAfter.symm.trans after

/-- A load that is finished was read, or its blocks are noted. -/
theorem finish {mine others : List (AsyncLoad Key Req)} {ok : Bool} (split : loads = mine ++ others)
    (some : mine ≠ []) (grows : waiting ⊆ more)
    (covers : ok = false → ∀ load ∈ mine, load.blockTables.flatten.toFinset ⊆ more) :
    Account more others true
      (if ok then entries.modifyHead fun entry => { entry with read := true } else entries) := by
  cases account with
  | settled done | finished opened accounted done =>
    exact absurd (append_eq_nil_iff.mp split.symm).1 some
  | unsettled opened blocks done =>
    rename_i load entry older
    have later : ∀ entry ∈ older, entry.Done more := fun entry member =>
      (done entry member).mono grows
    rcases append_eq_singleton_iff.mp split.symm with ⟨none, _⟩ | ⟨here, rest⟩
    · exact absurd none some
    rw [rest]
    cases ok with
    | true =>
      exact .finished { opened with } (.inl ⟨rfl, opened.whole⟩) later
    | false =>
      refine .finished opened (.inr (.inr ?_)) later
      refine Finset.Subset.trans blocks (Finset.Subset.trans (covers rfl load ?_)
        Finset.subset_union_right)
      rw [here]
      exact mem_singleton_self load

end

end Account

/-! ## The account of a history -/

namespace AsyncHistory

variable {Key Req : Type} [DecidableEq Key] [DecidableEq Req]

omit [DecidableEq Key] in
theorem filter_eq_nil_of_absent {loads : List (AsyncLoad Key Req)} {reqId : Req}
    (absent : reqId ∉ loads.map AsyncLoad.reqId) :
    loads.filter (fun load => load.reqId = reqId) = [] := by
  refine filter_eq_nil_iff.mpr fun load listed here => absent ?_
  exact mem_map.mpr ⟨load, listed, of_decide_eq_true here⟩

/-- The given loads are queued or active. They hold their protections next to those of
the synchronous batch, and the account of every request is in order. -/
structure Tracked (loads : List (AsyncLoad Key Req)) (history : AsyncHistory Key Req) : Prop where
  pins : ∀ key, history.worker.engine.index.pins key =
    history.worker.load.keys.count key + (loads.flatMap AsyncLoad.keys).count key
  account : ∀ reqId, Account history.worker.async.errorBlocks
    (loads.filter fun load => load.reqId = reqId)
    (decide (reqId ∈ history.worker.async.finished)) (history.ledger reqId)

theorem Tracked.perm {loads other : List (AsyncLoad Key Req)} {history : AsyncHistory Key Req}
    (tracked : Tracked loads history) (same : loads.Perm other) : Tracked other history where
  pins := by
    intro key
    rw [tracked.pins, (same.flatMap_right AsyncLoad.keys).count_eq key]
  account := by
    intro reqId
    exact (tracked.account reqId).perm (same.filter _)

end AsyncHistory

/-! ## Finishing loads -/

namespace Worker

variable {Key Req : Type} [DecidableEq Key]

variable {worker : Worker Key Req} {base : Key → Nat}

/-- Protections that are held are released. -/
theorem pins_releaseAsyncLoad {load : AsyncLoad Key Req}
    (held : ∀ key, worker.engine.index.pins key = base key + load.keys.count key) :
    (worker.releaseAsyncLoad load).engine.index.pins = base := by
  have enough : ∀ key, load.keys.count key ≤ worker.engine.index.pins key := by
    intro key
    rw [held]
    exact Nat.le_add_left _ _
  unfold releaseAsyncLoad KVEngine.unpin
  rw [ChunkIndex.unpin_of_held enough]
  funext key
  exact (congrArg (· - load.keys.count key) (held key)).trans (Nat.add_sub_cancel _ _)

/-- Loads that are released one after the other give back what they hold. -/
theorem pins_foldl {release : Worker Key Req → AsyncLoad Key Req → Worker Key Req}
    (releases : ∀ worker load, (release worker load).engine.index.pins =
      (worker.releaseAsyncLoad load).engine.index.pins) {loads : List (AsyncLoad Key Req)}
    (held : ∀ key, worker.engine.index.pins key =
      base key + (loads.flatMap AsyncLoad.keys).count key) :
    (loads.foldl release worker).engine.index.pins = base := by
  induction loads generalizing worker with
  | nil =>
    funext key
    exact held key
  | cons load loads ih =>
    have released : (worker.releaseAsyncLoad load).engine.index.pins =
        fun key => base key + (loads.flatMap AsyncLoad.keys).count key := by
      refine pins_releaseAsyncLoad fun key => ?_
      rw [held, flatMap_cons, count_append]
      omega
    exact ih fun key => congrFun ((releases worker load).trans released) key

variable [DecidableEq Req]

theorem finished_finishAsyncLoads (worker : Worker Key Req) (loads : List (AsyncLoad Key Req))
    (ok : Bool) (reqId : Req) :
    reqId ∈ (worker.finishAsyncLoads loads ok).async.finished ↔
      reqId ∈ worker.async.finished ∨ reqId ∈ loads.map AsyncLoad.reqId := by
  unfold finishAsyncLoads
  induction loads generalizing worker with
  | nil => simp
  | cons load loads ih =>
    refine (ih (finishAsyncLoad ok worker load)).trans ?_
    change reqId ∈ insert load.reqId worker.async.finished ∨ _ ↔ _
    rw [Finset.mem_insert, map_cons, mem_cons]
    tauto

theorem errorBlocks_finishAsyncLoads (worker : Worker Key Req) (loads : List (AsyncLoad Key Req))
    (ok : Bool) :
    worker.async.errorBlocks ⊆ (worker.finishAsyncLoads loads ok).async.errorBlocks ∧
      (ok = false → ∀ load ∈ loads,
        load.blockTables.flatten.toFinset ⊆
          (worker.finishAsyncLoads loads ok).async.errorBlocks) := by
  induction loads generalizing worker with
  | nil => exact ⟨Finset.Subset.refl _, nofun⟩
  | cons load loads ih =>
    obtain ⟨grows, covers⟩ := ih (finishAsyncLoad ok worker load)
    have first : worker.async.errorBlocks ⊆ (finishAsyncLoad ok worker load).async.errorBlocks := by
      cases ok with
      | true => exact Finset.Subset.refl _
      | false => exact Finset.subset_union_left
    refine ⟨Finset.Subset.trans first grows, fun failed other member => ?_⟩
    rcases mem_cons.mp member with rfl | later
    · subst failed
      exact Finset.Subset.trans Finset.subset_union_right grows
    · exact covers failed other later

end Worker

namespace AsyncHistory

variable {Key Req : Type} [DecidableEq Key] [DecidableEq Req]

/-- Finishing a batch moves its loads to the finished ones and releases them. -/
theorem Tracked.finish {batch rest : List (AsyncLoad Key Req)} {history : AsyncHistory Key Req}
    (tracked : Tracked (batch ++ rest) history) (ok : Bool) (running : Nat) :
    Tracked rest ⟨history.worker.finishAsyncLoads batch ok,
      if ok then history.ledger.markRead (batch.map AsyncLoad.reqId) else history.ledger,
      running⟩ where
  pins := by
    have load := (asyncOnly_finishAsyncLoads history.worker batch ok).load
    have released : (history.worker.finishAsyncLoads batch ok).engine.index.pins = fun key =>
        history.worker.load.keys.count key + (rest.flatMap AsyncLoad.keys).count key := by
      refine pins_foldl (fun _ _ => ?_) fun key => ?_
      · rfl
      · rw [tracked.pins, flatMap_append, count_append]
        omega
    intro key
    rw [released, load]
  account := by
    intro reqId
    obtain ⟨grows, covers⟩ := errorBlocks_finishAsyncLoads history.worker batch ok
    have account := tracked.account reqId
    rw [filter_append] at account
    by_cases member : reqId ∈ batch.map AsyncLoad.reqId
    · have named := decide_eq_true
        ((finished_finishAsyncLoads history.worker batch ok reqId).mpr (.inr member))
      have some : batch.filter (fun load => decide (load.reqId = reqId)) ≠ [] := by
        obtain ⟨load, listed, here⟩ := mem_map.mp member
        exact ne_nil_of_mem (mem_filter.mpr ⟨listed, decide_eq_true here⟩)
      have moved := account.finish rfl some grows fun failed load inside =>
        covers failed load (mem_filter.mp inside).1
      rw [named]
      cases ok with
      | false => exact moved
      | true =>
        simp only [↓reduceIte, LoadLedger.markRead, member] at moved ⊢
        exact moved
    · have same : decide (reqId ∈ (history.worker.finishAsyncLoads batch ok).async.finished) =
          decide (reqId ∈ history.worker.async.finished) := by
        rw [decide_eq_decide, finished_finishAsyncLoads]
        exact or_iff_left member
      rw [filter_eq_nil_of_absent member] at account
      rw [same]
      cases ok with
      | false => exact account.mono grows
      | true =>
        simp only [↓reduceIte, LoadLedger.markRead, member]
        exact account.mono grows

end AsyncHistory

/-! ## How far a load is from its report -/

namespace AsyncState

variable {Key Req : Type} [DecidableEq Req]

/-- The loads that are queued or in the active plan. -/
def unsettled (async : AsyncState Key Req) : List (AsyncLoad Key Req) :=
  async.queue ++ async.active.elim [] AsyncBatch.loads

omit [DecidableEq Req] in
theorem unsettled_of_idle {async : AsyncState Key Req} (idle : async.active = none) :
    async.unsettled = async.queue := by
  rw [unsettled, idle, Option.elim_none, append_nil]

/-- The request has a load that is queued, active or noted as finished. -/
def Holds (async : AsyncState Key Req) (reqId : Req) : Prop :=
  reqId ∈ async.finished ∨ reqId ∈ async.unsettled.map AsyncLoad.reqId

/-- How many more polls it takes at most until the load of a request is noted as
finished, if every plan ends after `bound` polls. -/
def remaining (bound : Nat) (async : AsyncState Key Req) (reqId : Req) : Nat :=
  if reqId ∈ async.finished then 0
  else
    match async.active with
    | none => bound
    | some batch =>
      if reqId ∈ batch.loads.map AsyncLoad.reqId then batch.plan.polls
      else batch.plan.polls + 1 + bound

/-- No load gets lost or farther from its report. -/
structure Moves (bound : Nat) (before after : AsyncState Key Req) : Prop where
  holds : ∀ reqId, before.Holds reqId → after.Holds reqId
  closer : ∀ reqId, before.Holds reqId → after.remaining bound reqId ≤ before.remaining bound reqId

/-- Every load is noted as finished or has come closer to it. -/
structure Nears (bound : Nat) (before after : AsyncState Key Req) : Prop
    extends Moves bound before after where
  nearer : ∀ reqId, before.Holds reqId →
    reqId ∈ after.finished ∨ after.remaining bound reqId < before.remaining bound reqId

variable {bound : Nat} {first second third : AsyncState Key Req}

theorem Moves.refl (async : AsyncState Key Req) : Moves bound async async :=
  ⟨fun _ holds => holds, fun _ _ => le_refl _⟩

theorem Moves.trans (left : Moves bound first second) (right : Moves bound second third) :
    Moves bound first third :=
  ⟨fun reqId holds => right.holds reqId (left.holds reqId holds), fun reqId holds =>
    (right.closer reqId (left.holds reqId holds)).trans (left.closer reqId holds)⟩

theorem Moves.nears (left : Moves bound first second) (right : Nears bound second third) :
    Nears bound first third :=
  { left.trans right.toMoves with
    nearer := fun reqId holds => (right.nearer reqId (left.holds reqId holds)).imp_right fun less =>
      lt_of_lt_of_le less (left.closer reqId holds) }

/-- A load that is noted as finished stays so. -/
theorem Nears.moves (left : Nears bound first second) (right : Moves bound second third)
    (kept : second.finished ⊆ third.finished) : Nears bound first third :=
  { left.toMoves.trans right with
    nearer := fun reqId holds => (left.nearer reqId holds).imp (fun member => kept member)
      fun less => lt_of_le_of_lt (right.closer reqId (left.holds reqId holds)) less }

/-- A change after which every load is noted as finished or is nearer by some count. -/
theorem nears_of {before after : AsyncState Key Req}
    (holds : ∀ reqId, before.Holds reqId → after.Holds reqId)
    (nearer : ∀ reqId, before.Holds reqId →
      reqId ∈ after.finished ∨ after.remaining bound reqId < before.remaining bound reqId) :
    Nears bound before after where
  holds
  nearer
  closer := by
    intro reqId held
    rcases nearer reqId held with finished | less
    · exact (if_pos finished).trans_le (Nat.zero_le _)
    · exact less.le

variable {batch : AsyncBatch Key Req}

/-- A plan that still runs has one poll less to go. -/
theorem nears_running {async : AsyncState Key Req} (active : async.active = some batch)
    (running : 0 < batch.plan.polls) (bound : Nat) :
    async.Nears bound { async with
      active := some { batch with
        plan := { batch.plan with polls := batch.plan.polls - 1 } } } := by
  refine nears_of (fun reqId holds => ?_) fun reqId _ => ?_
  · unfold Holds unsettled at holds ⊢
    rw [active] at holds
    exact holds
  unfold remaining
  rw [active]
  dsimp only
  by_cases finished : reqId ∈ async.finished
  · exact .inl finished
  rw [if_neg finished]
  right
  split <;> omega

end AsyncState

namespace AsyncHistory

variable {Key Req : Type} [DecidableEq Key] [DecidableEq Req]

/-- The invariant of a history between two calls of the scheduling of its loads. -/
structure Kept (bound : Nat) (history : AsyncHistory Key Req) : Prop where
  tracked : Tracked history.worker.async.unsettled history
  running : history.running = if history.worker.async.active.isSome then 1 else 0
  polls : ∀ batch, history.worker.async.active = some batch → batch.plan.polls ≤ bound
  due : ∀ reqId entry older, history.ledger reqId = entry :: older → entry.reports = 0 →
    entry.calls + history.worker.async.remaining bound reqId ≤ 2 * bound + 1

variable {history : AsyncHistory Key Req} {reqId : Req} {older : List Delivery}

/-- A load that has not been reported is somewhere. -/
theorem Tracked.holds (tracked : Tracked history.worker.async.unsettled history)
    (listed : history.ledger reqId = entry :: older) (unreported : entry.reports = 0) :
    history.worker.async.Holds reqId := by
  have account := tracked.account reqId
  rw [listed] at account
  by_contra lost
  obtain ⟨unfinished, absent⟩ := not_or.mp lost
  rw [filter_eq_nil_of_absent absent, decide_eq_false unfinished] at account
  cases account with
  | settled done =>
    exact nomatch (done entry mem_cons_self).reports.symm.trans unreported

/-- The entries have the same counts. -/
def SameCounts (before after : LoadLedger Req) : Prop :=
  ∀ reqId, (after reqId).map (fun entry => (entry.reports, entry.calls)) =
    (before reqId).map fun entry => (entry.reports, entry.calls)

section

omit [DecidableEq Req]

theorem SameCounts.refl (ledger : LoadLedger Req) : SameCounts ledger ledger := fun _ => rfl

theorem SameCounts.head {before after : LoadLedger Req} (same : SameCounts before after)
    (listed : after reqId = entry :: older) :
    ∃ previous rest, before reqId = previous :: rest ∧ entry.reports = previous.reports ∧
      entry.calls = previous.calls := by
  have counts := same reqId
  rw [listed] at counts
  cases earlier : before reqId with
  | nil =>
    rw [earlier] at counts
    cases counts
  | cons previous rest =>
    rw [earlier, map_cons, map_cons, cons.injEq, Prod.mk.injEq] at counts
    exact ⟨previous, rest, rfl, counts.1⟩

/-- Deliveries that have been reported stay so. -/
theorem SameCounts.reported {before after : LoadLedger Req} (same : SameCounts before after)
    (reported : ∀ entry ∈ before reqId, entry.reports ≠ 0) :
    ∀ entry ∈ after reqId, entry.reports ≠ 0 := by
  intro entry member
  have listed : (entry.reports, entry.calls) ∈
      (after reqId).map fun entry => (entry.reports, entry.calls) :=
    mem_map_of_mem member
  rw [same reqId] at listed
  obtain ⟨previous, found, counts⟩ := mem_map.mp listed
  rw [← (Prod.mk.inj counts).1]
  exact reported previous found

end

theorem sameCounts_markRead (ledger : LoadLedger Req) (reqIds : List Req) (ok : Bool) :
    SameCounts ledger (if ok then ledger.markRead reqIds else ledger) := by
  intro reqId
  cases ok with
  | false => rfl
  | true =>
    rw [if_pos rfl, LoadLedger.markRead]
    split
    · cases ledger reqId <;> rfl
    · rfl

theorem sameCounts_settleBatch (history : AsyncHistory Key Req) (batch : AsyncBatch Key Req) :
    SameCounts history.ledger (history.settleBatch batch).ledger := by
  unfold AsyncHistory.settleBatch
  split
  · exact SameCounts.refl _
  · exact sameCounts_markRead _ _ _

theorem sameCounts_kickAsyncLoads (history : AsyncHistory Key Req) (plan : Option RunningPlan) :
    SameCounts history.ledger (history.kickAsyncLoads plan).ledger := by
  unfold AsyncHistory.kickAsyncLoads
  split
  · exact SameCounts.refl _
  split
  · exact SameCounts.refl _
  exact sameCounts_settleBatch { history with
    worker := { history.worker with async := { history.worker.async with queue := [] } }
    running := history.running + 1 } _

theorem sameCounts_pollAsyncLoads (history : AsyncHistory Key Req) (plan : Option RunningPlan) :
    SameCounts history.ledger (history.pollAsyncLoads plan).ledger := by
  unfold AsyncHistory.pollAsyncLoads
  split
  · exact sameCounts_kickAsyncLoads history plan
  split
  · exact sameCounts_settleBatch history _
  · exact fun reqId => (sameCounts_kickAsyncLoads _ plan reqId).trans
      (sameCounts_settleBatch history _ reqId)

variable {bound : Nat}

/-- Counts that are the same stay within the limit when no load gets farther. -/
theorem due_of_moves {history next : AsyncHistory Key Req} (kept : Kept bound history)
    (moves : history.worker.async.Moves bound next.worker.async)
    (counts : SameCounts history.ledger next.ledger) :
    ∀ reqId entry older, next.ledger reqId = entry :: older → entry.reports = 0 →
      entry.calls + next.worker.async.remaining bound reqId ≤ 2 * bound + 1 := by
  intro reqId entry older listed unreported
  obtain ⟨previous, rest, before, reports, calls⟩ := counts.head listed
  have unsent := reports.symm.trans unreported
  have limit := kept.due reqId previous rest before unsent
  have closer := moves.closer reqId (kept.tracked.holds before unsent)
  omega

/-! ## Polling and starting plans -/

section

variable (kept : Kept bound history)
include kept

/-- A plan has its verdict or does not start: its loads are noted as finished, and the
rest stays in the queue. -/
theorem Kept.finish {batch rest : List (AsyncLoad Key Req)} {active : Option (AsyncBatch Key Req)}
    {running : Nat} (all : history.worker.async.unsettled.Perm (batch ++ rest))
    (left : rest = [] ∨ ∃ plan, history.worker.async.active = some ⟨batch, plan⟩)
    (idle : active = none) (stopped : running = 0) (ok : Bool) :
    let after : AsyncHistory Key Req :=
      ⟨{ history.worker with
          async := { history.worker.async with queue := rest, active } }.finishAsyncLoads
            batch ok,
        if ok then history.ledger.markRead (batch.map AsyncLoad.reqId) else history.ledger, running⟩
    Kept bound after ∧ history.worker.async.Nears bound after.worker.async ∧
      history.worker.async.finished ⊆ after.worker.async.finished := by
  subst idle stopped
  let taken : Worker Key Req :=
    { history.worker with async := { history.worker.async with queue := rest, active := none } }
  intro after
  obtain ⟨noneActive, queue⟩ : after.worker.async.active = none ∧ after.worker.async.queue = rest :=
    active_finishAsyncLoads taken batch ok
  have finished := finished_finishAsyncLoads taken batch ok
  have unsettled : after.worker.async.unsettled = rest :=
    (AsyncState.unsettled_of_idle noneActive).trans queue
  have split : ∀ reqId, history.worker.async.Holds reqId →
      reqId ∈ after.worker.async.finished ∨ reqId ∈ rest.map AsyncLoad.reqId := by
    intro reqId holds
    rw [AsyncState.Holds, (all.map AsyncLoad.reqId).mem_iff, map_append, mem_append,
      ← or_assoc] at holds
    exact holds.imp_left (finished reqId).mpr
  have nears : history.worker.async.Nears bound after.worker.async := by
    refine AsyncState.nears_of (fun reqId holds => ?_) fun reqId holds => ?_
    · rw [AsyncState.Holds, unsettled]
      exact split reqId holds
    by_cases done : reqId ∈ after.worker.async.finished
    · exact .inl done
    rcases left with rfl | ⟨plan, active⟩
    · exact .inl ((split reqId holds).resolve_right not_mem_nil)
    obtain ⟨unfinished, outside⟩ := not_or.mp (mt (finished reqId).mpr done)
    right
    unfold AsyncState.remaining
    rw [noneActive, active, if_neg done, if_neg unfinished]
    dsimp only
    rw [if_neg outside]
    omega
  have before : Tracked (batch ++ rest) { history with worker := taken } :=
    { kept.tracked.perm all with }
  refine ⟨⟨?_, ?_, ?_, ?_⟩, nears, fun reqId member => (finished reqId).mpr (.inl member)⟩
  · rw [unsettled]
    exact before.finish ok 0
  · rw [noneActive]
    rfl
  · intro other same
    exact nomatch noneActive.symm.trans same
  · exact due_of_moves kept nears.toMoves (sameCounts_markRead _ _ ok)

/-- One poll of the active plan. -/
theorem Kept.settleBatch {batch : AsyncBatch Key Req}
    (active : history.worker.async.active = some batch) :
    Kept bound (history.settleBatch batch) ∧
      history.worker.async.Nears bound (history.settleBatch batch).worker.async ∧
      history.worker.async.finished ⊆ (history.settleBatch batch).worker.async.finished := by
  rcases poll_eq batch.plan with ⟨running, positive⟩ | ⟨verdict, zero⟩
  · -- The plan still runs.
    have tracked := kept.tracked
    unfold AsyncState.unsettled at tracked
    rw [active] at tracked
    have next : history.settleBatch batch = { history with
        worker := { history.worker with
          async := { history.worker.async with
            active := some { batch with
              plan := { batch.plan with polls := batch.plan.polls - 1 } } } } } := by
      unfold AsyncHistory.settleBatch Worker.settleBatch
      rw [running]
    have nears := AsyncState.nears_running active positive bound
    rw [next]
    refine ⟨⟨{ tracked with }, ?_, ?_, ?_⟩, nears, Finset.Subset.refl _⟩
    · rw [kept.running, active]
      rfl
    · intro other same
      cases same
      exact (Nat.sub_le _ _).trans (kept.polls batch active)
    · exact due_of_moves kept nears.toMoves (SameCounts.refl history.ledger)
  · -- The verdict is there.
    have loads :
        history.worker.async.unsettled.Perm (batch.loads ++ history.worker.async.queue) := by
      rw [AsyncState.unsettled, active]
      exact perm_append_comm
    have stopped : history.running - 1 = 0 := by
      rw [kept.running, active]
      rfl
    unfold AsyncHistory.settleBatch Worker.settleBatch
    rw [verdict]
    exact kept.finish loads (.inr ⟨batch.plan, active⟩) rfl stopped batch.plan.ok

/-- A plan is started for the queue: its loads are active. -/
theorem Kept.startPlan (idle : history.worker.async.active = none) {plan : RunningPlan}
    (polls : plan.polls ≤ bound) :
    let started : AsyncHistory Key Req :=
      { history with
        worker := { history.worker with
          async := { history.worker.async with
            queue := []
            active := some ⟨history.worker.async.queue, plan⟩ } }
        running := history.running + 1 }
    Kept bound started ∧ history.worker.async.Moves bound started.worker.async := by
  have moves : history.worker.async.Moves bound { history.worker.async with
      queue := [], active := some ⟨history.worker.async.queue, plan⟩ } := by
    have inQueue : ∀ reqId, history.worker.async.Holds reqId →
        reqId ∈ history.worker.async.finished ∨
          reqId ∈ history.worker.async.queue.map AsyncLoad.reqId := by
      intro reqId holds
      rwa [AsyncState.Holds, AsyncState.unsettled_of_idle idle] at holds
    refine ⟨fun reqId holds => ?_, fun reqId holds => ?_⟩
    · exact inQueue reqId holds
    unfold AsyncState.remaining
    rw [idle]
    dsimp only
    rcases inQueue reqId holds with finished | queued
    · rw [if_pos finished]
      exact Nat.zero_le _
    split
    · exact le_refl _
    · exact polls
  refine ⟨⟨?_, ?_, ?_, ?_⟩, moves⟩
  · have tracked := kept.tracked
    rw [AsyncState.unsettled_of_idle idle] at tracked
    exact { tracked with }
  · rw [kept.running, idle]
    rfl
  · intro batch same
    cases same
    exact polls
  · exact due_of_moves kept moves (SameCounts.refl history.ledger)

variable {plan : Option RunningPlan}

/-- Starting a plan keeps the account; without an active plan every load comes nearer. -/
theorem Kept.kickAsyncLoads (polls : ∀ running, plan = some running → running.polls ≤ bound) :
    Kept bound (history.kickAsyncLoads plan) ∧
      history.worker.async.Moves bound (history.kickAsyncLoads plan).worker.async ∧
      history.worker.async.finished ⊆ (history.kickAsyncLoads plan).worker.async.finished ∧
      (history.worker.async.active = none →
        history.worker.async.Nears bound (history.kickAsyncLoads plan).worker.async) := by
  unfold AsyncHistory.kickAsyncLoads
  split
  · rename_i waits
    refine ⟨kept, AsyncState.Moves.refl _, Finset.Subset.refl _, fun idle => ?_⟩
    have empty : history.worker.async.queue = [] := by
      rw [idle] at waits
      exact waits.resolve_left nofun
    refine AsyncState.nears_of (fun _ holds => holds) fun reqId holds => ?_
    rw [AsyncState.Holds, AsyncState.unsettled_of_idle idle, empty] at holds
    exact .inl (holds.resolve_right not_mem_nil)
  rename_i waiting
  have idle : history.worker.async.active = none := by
    rw [← Option.not_isSome_iff_eq_none]
    exact fun active => waiting (.inl active)
  cases plan with
  | none =>
    have loads : history.worker.async.unsettled.Perm (history.worker.async.queue ++ []) := by
      rw [AsyncState.unsettled_of_idle idle, append_nil]
    have stopped : history.running = 0 := by
      rw [kept.running, idle]
      rfl
    obtain ⟨after, nears, finished⟩ := kept.finish loads (.inl rfl) idle stopped false
    unfold Worker.kickAsyncLoads
    rw [if_neg waiting]
    exact ⟨after, nears.toMoves, finished, fun _ => nears⟩
  | some plan =>
    obtain ⟨started, moves⟩ := kept.startPlan idle (polls plan rfl)
    obtain ⟨after, nears, finished⟩ := started.settleBatch rfl
    exact ⟨after, moves.trans nears.toMoves, finished, fun _ => moves.nears nears⟩

/-- Polling keeps the account and brings every load nearer to its report. -/
theorem Kept.pollAsyncLoads (polls : ∀ running, plan = some running → running.polls ≤ bound) :
    Kept bound (history.pollAsyncLoads plan) ∧
      history.worker.async.Nears bound (history.pollAsyncLoads plan).worker.async := by
  unfold AsyncHistory.pollAsyncLoads
  cases active : history.worker.async.active with
  | none =>
    obtain ⟨after, _, _, nears⟩ := kept.kickAsyncLoads polls
    exact ⟨after, nears active⟩
  | some batch =>
    obtain ⟨settled, nears, _⟩ := kept.settleBatch active
    dsimp only
    rcases poll_eq batch.plan with ⟨running, _⟩ | ⟨verdict, _⟩
    · rw [running]
      exact ⟨settled, nears⟩
    rw [verdict]
    obtain ⟨after, moves, finished, _⟩ := settled.kickAsyncLoads polls
    exact ⟨after, nears.moves moves finished⟩

end

end AsyncHistory

end Tutti
