import Tutti.Foundation.Run
import Tutti.Vllm.AsyncRuns

/-!
# The outcome of asynchronous loads

A report of `get_finished` ends the account of a load, and a fetch of the error blocks
pays what is owed for it. Together with the calls of a step this settles every delivered
load exactly once. A load with a partial chunk breaks the account: one without any
complete chunk is reported without a read and without its blocks.
-/

namespace Tutti

open Finset Foundation List Worker

/-! ## Reporting loads and fetching blocks -/

namespace Account

variable {Key Req : Type} {waiting : Finset Nat} {loads : List (AsyncLoad Key Req)}
  {finished : Bool} {entries : List Delivery}

section

variable (account : Account waiting loads finished entries)
include account

/-- A call of `get_finished` that does not name the request. -/
theorem called :
    Account waiting loads finished
      (entries.map fun entry => { entry with calls := entry.calls + 1 }) :=
  account.map (fun _ => rfl) (fun _ opened => { opened with })
    (fun _ accounted => accounted) fun _ done => { done with }

/-- A call of `get_finished` that names the request: it was noted as finished, or its
queued load is dropped. -/
theorem named {mine others : List (AsyncLoad Key Req)} {dropped : Bool}
    (split : loads = mine ++ others) (names : finished = true ∨ mine ≠ [])
    (drops : mine ≠ [] → dropped = true) :
    Account waiting others false (entries.modifyHead fun entry =>
      { entry with reports := entry.reports + 1, dropped := entry.dropped || dropped }) := by
  cases account with
  | settled done =>
    have none := (append_eq_nil_iff.mp split.symm).1
    exact absurd none (names.resolve_left nofun)
  | finished opened accounted done =>
    rw [(append_eq_nil_iff.mp split.symm).2]
    refine .settled (forall_mem_cons.mpr ⟨⟨?_, ?_, fun after => ?_⟩, done⟩)
    · exact congrArg (· + 1) opened.reports
    · refine accounted.imp_right (Or.imp_left fun before => ?_)
      exact Bool.or_eq_true_iff.mpr (.inl before)
    · exact nomatch opened.fetchedAfter.symm.trans after
  | unsettled opened blocks done =>
    have some := names.resolve_left nofun
    rcases append_eq_singleton_iff.mp split.symm with ⟨none, _⟩ | ⟨_, rest⟩
    · exact absurd none some
    rw [rest]
    refine .settled (forall_mem_cons.mpr ⟨⟨?_, .inr (.inl ?_), fun after => ?_⟩, done⟩)
    · exact congrArg (· + 1) opened.reports
    · exact Bool.or_eq_true_iff.mpr (.inr (drops some))
    · exact nomatch opened.fetchedAfter.symm.trans after

/-- The blocks that wait are fetched. -/
theorem fetch {blocks : Finset Nat} (covers : waiting ⊆ blocks) :
    Account ∅ loads finished (entries.map fun entry =>
      { entry with
        fetched := entry.fetched ∪ blocks
        fetchedAfter := entry.fetchedAfter || decide (0 < entry.reports) }) := by
  have accounted : ∀ {entry : Delivery} {after : Bool}, entry.Accounted waiting →
      Delivery.Accounted { entry with
        fetched := entry.fetched ∪ blocks, fetchedAfter := after } ∅ := by
    intro entry after before
    refine before.imp_right (Or.imp_right fun owed => ?_)
    rw [union_empty]
    exact Finset.Subset.trans owed (union_subset_union_right covers)
  refine account.map (fun _ => rfl) (fun entry opened => ⟨opened.reports, opened.whole, ?_⟩)
    (fun _ => accounted) fun _ done =>
      ⟨done.reports, accounted done.accounted, fun _ => accounted done.accounted⟩
  rw [opened.fetchedAfter, opened.reports]
  rfl

/-- Only the latest delivery can be unreported. -/
theorem head_of_unreported {entry : Delivery} (member : entry ∈ entries)
    (unreported : entry.reports = 0) :
    ∃ older, entries = entry :: older := by
  have absurdly : ∀ {rest : List Delivery}, (∀ entry ∈ rest, entry.Done waiting) →
      entry ∉ rest := fun done listed =>
    nomatch (done entry listed).reports.symm.trans unreported
  cases account with
  | settled done => exact absurd member (absurdly done)
  | unsettled opened blocks done | finished opened accounted done =>
    rcases mem_cons.mp member with rfl | listed
    · exact ⟨_, rfl⟩
    · exact absurd listed (absurdly done)

/-- A load that is queued or active is that of the latest delivery, which is open. -/
theorem open_of_mem {load : AsyncLoad Key Req} (member : load ∈ loads) :
    ∃ entry older, entries = entry :: older ∧ entry.reports = 0 := by
  cases account with
  | settled done | finished opened accounted done => cases member
  | unsettled opened blocks done => exact ⟨_, _, rfl, opened.reports⟩

end

end Account

namespace Worker

variable {Key Req : Type} [DecidableEq Key]

/-- Releasing loads changes nothing but the engine. -/
theorem foldl_releaseAsyncLoad_eq (worker : Worker Key Req) (loads : List (AsyncLoad Key Req)) :
    loads.foldl releaseAsyncLoad worker =
      { worker with engine := (loads.foldl releaseAsyncLoad worker).engine } := by
  induction loads generalizing worker with
  | nil => rfl
  | cons load loads ih => exact ih (worker.releaseAsyncLoad load)

end Worker

namespace AsyncHistory

variable {Key Req : Type} [DecidableEq Key] [DecidableEq Req]

/-- `get_finished` behind its poll, when some of the queued loads are dropped and the
others are kept. -/
def reportLoads (history : AsyncHistory Key Req) (dropped kept : List (AsyncLoad Key Req)) :
    AsyncHistory Key Req :=
  let released := dropped.foldl Worker.releaseAsyncLoad history.worker
  { history with
    worker := { released with async := { released.async with queue := kept, finished := ∅ } }
    ledger := history.ledger.report
      (history.worker.async.finished ∪ (dropped.map AsyncLoad.reqId).toFinset)
      (dropped.map AsyncLoad.reqId) }

theorem getFinished_eq (history : AsyncHistory Key Req) (finishedReqIds : List Req)
    (plan : Option RunningPlan) :
    history.getFinished finishedReqIds plan =
      (history.pollAsyncLoads plan).reportLoads
        ((history.pollAsyncLoads plan).worker.async.queue.filter fun load =>
          load.reqId ∈ finishedReqIds)
        ((history.pollAsyncLoads plan).worker.async.queue.filter fun load =>
          ¬ load.reqId ∈ finishedReqIds) := by
  unfold getFinished Worker.getFinished reportLoads
  simp [Function.comp_def]

variable {history : AsyncHistory Key Req}

/-- A report ends the account of the loads that it names. -/
theorem Tracked.report {dropped kept active : List (AsyncLoad Key Req)}
    (tracked : Tracked (dropped ++ (kept ++ active)) history) :
    Tracked (kept ++ active) (history.reportLoads dropped kept) := by
  unfold reportLoads
  have frame := history.worker.foldl_releaseAsyncLoad_eq dropped
  have released : (dropped.foldl releaseAsyncLoad history.worker).engine.index.pins =
      fun key => history.worker.load.keys.count key +
        ((kept ++ active).flatMap AsyncLoad.keys).count key := by
    refine pins_foldl (fun _ _ => rfl) fun key => ?_
    rw [tracked.pins, flatMap_append, count_append]
    omega
  generalize (dropped.foldl releaseAsyncLoad history.worker).engine = engine at frame released
  rw [frame]
  refine ⟨fun key => ?_, fun reqId => ?_⟩
  · rw [released]
  have account := (tracked.account reqId).called
  rw [filter_append] at account
  dsimp only [LoadLedger.report]
  have mine : dropped.filter (fun load => decide (load.reqId = reqId)) ≠ [] ↔
      reqId ∈ dropped.map AsyncLoad.reqId := by
    simp
  by_cases named : reqId ∈ history.worker.async.finished ∪ (dropped.map AsyncLoad.reqId).toFinset
  · rw [if_pos named]
    refine account.named rfl ?_ fun some => decide_eq_true (mine.mp some)
    rw [decide_eq_true_eq, mine, ← mem_toFinset]
    exact mem_union.mp named
  · rw [if_neg named]
    rw [mem_union, mem_toFinset, not_or] at named
    rw [decide_eq_false named.1, not_not.mp (mt mine.mp named.2)] at account
    exact account

variable {ledger : LoadLedger Req}

omit [DecidableEq Key] in
/-- A delivery that is open behind a report was open before, with a call less. -/
theorem head_report {named : Finset Req} {dropped : List Req} {reqId : Req} {entry : Delivery}
    {older : List Delivery} (listed : ledger.report named dropped reqId = entry :: older)
    (unreported : entry.reports = 0) :
    reqId ∉ named ∧ ∃ previous rest, ledger reqId = previous :: rest ∧
      previous.reports = 0 ∧ entry.calls = previous.calls + 1 := by
  unfold LoadLedger.report at listed
  cases earlier : ledger reqId with
  | nil =>
    rw [earlier] at listed
    split at listed <;> cases listed
  | cons previous rest =>
    rw [earlier] at listed
    split at listed
    · cases listed
      exact absurd unreported (Nat.succ_ne_zero _)
    rename_i unnamed
    cases listed
    exact ⟨unnamed, previous, rest, rfl, unreported, rfl⟩

variable {bound : Nat}

/-- `get_finished` keeps the account. A load that it does not name is nearer to its
report by the poll. -/
theorem Kept.getFinished (kept : Kept bound history) {plan : Option RunningPlan}
    (polls : ∀ running, plan = some running → running.polls ≤ bound) (finishedReqIds : List Req) :
    Kept bound (history.getFinished finishedReqIds plan) := by
  obtain ⟨polled, nears⟩ := kept.pollAsyncLoads polls
  have counts := sameCounts_pollAsyncLoads history plan
  rw [getFinished_eq]
  generalize history.pollAsyncLoads plan = next at polled nears counts
  have parts : (next.worker.async.queue.filter (fun load => decide (load.reqId ∈ finishedReqIds)) ++
      next.worker.async.queue.filter fun load => decide (¬ load.reqId ∈ finishedReqIds)).Perm
        next.worker.async.queue := by
    simp only [decide_not]
    exact filter_append_perm _ _
  generalize next.worker.async.queue.filter
    (fun load => decide (load.reqId ∈ finishedReqIds)) = dropped at parts
  generalize next.worker.async.queue.filter
    (fun load => decide (¬ load.reqId ∈ finishedReqIds)) = left at parts
  have async : (next.reportLoads dropped left).worker.async =
      { next.worker.async with queue := left, finished := ∅ } := by
    unfold reportLoads
    rw [next.worker.foldl_releaseAsyncLoad_eq dropped]
  refine ⟨?_, ?_, ?_, ?_⟩
  · rw [async]
    refine Tracked.report (polled.tracked.perm ?_)
    rw [← append_assoc]
    exact (parts.symm.append_right _)
  · rw [async]
    exact polled.running
  · rw [async]
    exact polled.polls
  intro reqId entry older listed unreported
  obtain ⟨unnamed, before, rest, earlier, unsent, calls⟩ := head_report listed unreported
  obtain ⟨first, others, start, reports, sameCalls⟩ := counts.head earlier
  have quiet := reports.symm.trans unsent
  have limit := kept.due reqId first others start quiet
  have unfinished : reqId ∉ next.worker.async.finished :=
    fun finished => unnamed (mem_union_left _ finished)
  have nearer := (nears.nearer reqId (kept.tracked.holds start quiet)).resolve_left unfinished
  have same : AsyncState.remaining bound
      { next.worker.async with queue := left, finished := ∅ } reqId =
        next.worker.async.remaining bound reqId := by
    unfold AsyncState.remaining
    rw [if_neg unfinished, if_neg (notMem_empty reqId)]
  rw [async]
  omega

/-- Fetching the blocks keeps the account. -/
theorem Kept.getBlockIdsWithLoadErrors (kept : Kept bound history) :
    Kept bound history.getBlockIdsWithLoadErrors := by
  refine ⟨⟨kept.tracked.pins, fun reqId => ?_⟩, kept.running, kept.polls, ?_⟩
  · exact (kept.tracked.account reqId).fetch subset_union_right
  intro reqId entry older listed unreported
  obtain ⟨previous, rest, before, first, _⟩ := map_eq_cons_iff.mp listed
  rw [← first] at unreported ⊢
  exact kept.due reqId previous rest before unreported

/-! ## Whole runs -/

/-- Every delivered load is settled exactly once: it is named by at most one report, and
by one when `get_finished` was called often enough; while it is queued or its plan has no
verdict, it is not reported and holds its protections, and nothing else does but the
synchronous batch; there is one plan at a time; and the blocks of a load that was neither
read nor dropped are among those fetched since, once they are fetched after the report. -/
structure Settles (bound : Nat) (history : AsyncHistory Key Req) : Prop where
  once : ∀ reqId, ∀ entry ∈ history.ledger reqId, entry.reports ≤ 1
  reported : ∀ reqId, ∀ entry ∈ history.ledger reqId, 2 * bound + 2 ≤ entry.calls →
    entry.reports = 1
  distinct : (history.worker.async.unsettled.map AsyncLoad.reqId).Nodup
  unreported : ∀ load ∈ history.worker.async.unsettled, ∃ entry older,
    history.ledger load.reqId = entry :: older ∧ entry.reports = 0
  pins : ∀ key, history.worker.engine.index.pins key = history.worker.load.keys.count key +
    (history.worker.async.unsettled.flatMap AsyncLoad.keys).count key
  onePlan : history.running = if history.worker.async.active.isSome then 1 else 0
  blocks : ∀ reqId, ∀ entry ∈ history.ledger reqId, entry.fetchedAfter = true →
    ¬ (entry.read = true ∧ entry.whole = true) → entry.dropped = false →
    entry.blocks ⊆ entry.fetched

omit [DecidableEq Key] in
/-- Loads of one request would be two in its account. -/
theorem nodup_of_account {waiting : Finset Nat} {loads : List (AsyncLoad Key Req)}
    {finished : Req → Bool}
    (account : ∀ reqId, Account waiting (loads.filter fun load => load.reqId = reqId)
      (finished reqId) (ledger reqId)) : (loads.map AsyncLoad.reqId).Nodup := by
  have short : ∀ {mine : List (AsyncLoad Key Req)} {noted : Bool} {entries : List Delivery},
      Account waiting mine noted entries → mine.length ≤ 1 := by
    intro mine noted entries account
    cases account <;> simp
  refine nodup_iff_count_le_one.mpr fun reqId => ?_
  refine le_trans (le_of_eq ?_) (short (account reqId))
  rw [count_eq_countP, countP_map, countP_eq_length_filter]
  rfl

/-- An account that is in order is settled exactly once. -/
theorem Kept.settles (kept : Kept bound history) :
    Settles bound history where
  once := fun reqId => (kept.tracked.account reqId).reports_le
  reported := by
    intro reqId entry member calls
    by_contra unsent
    have none : entry.reports = 0 := by
      have most := (kept.tracked.account reqId).reports_le entry member
      omega
    obtain ⟨older, listed⟩ := (kept.tracked.account reqId).head_of_unreported member none
    have limit := kept.due reqId entry older listed none
    omega
  distinct := nodup_of_account kept.tracked.account
  unreported := by
    intro load member
    refine (kept.tracked.account load.reqId).open_of_mem (mem_filter.mpr ⟨member, ?_⟩)
    exact decide_eq_true rfl
  pins := kept.tracked.pins
  onePlan := kept.running
  blocks := by
    intro reqId entry member after unread undropped
    have accounted := (kept.tracked.account reqId).accounted_of_fetchedAfter entry member after
    rcases accounted with read | dropped | covered
    · exact absurd read unread
    · exact nomatch undropped.symm.trans dropped
    · rwa [union_empty] at covered

variable (digest : Key → List Nat → Key)

/-- What a call has to meet: the loads of a step are orderly, and a plan ends within the
given number of polls. -/
def Admits (bound : Nat) : Option (AsyncHistory Key Req) → WorkerCall Key Req → Prop
  | some history, .startLoadKv metadata answers =>
    Orderly digest history metadata.requests ∧
      (∀ plan ∈ answers.polledPlan, plan.polls ≤ bound) ∧
      ∀ plan ∈ answers.kickedPlan, plan.polls ≤ bound
  | some _, .getFinished _ plan => ∀ running ∈ plan, running.polls ≤ bound
  | _, _ => True

instance (history : AsyncHistory Key Req) (requests : List (ReqMeta Req)) :
    Decidable (Orderly digest history requests) :=
  decidable_of_iff _ (orderly_iff digest history requests).symm

instance (bound : Nat) (state : Option (AsyncHistory Key Req)) (action : WorkerCall Key Req) :
    Decidable (Admits digest bound state action) := by
  cases state <;> cases action <;> unfold Admits <;> infer_instance

variable {digest}

/-- Every call keeps the account. -/
theorem Kept.call {next : AsyncHistory Key Req} (kept : Kept bound history)
    (resting : history.worker.Resting) {action : WorkerCall Key Req}
    (admits : Admits digest bound (some history) action)
    (ran : history.call digest action = some next) : Kept bound next ∧ next.worker.Resting := by
  cases action with
  | startLoadKv metadata answers =>
    obtain ⟨orderly, polled, kicked⟩ := admits
    have set : Kept bound { history with worker := history.worker.setMetadata metadata } :=
      kept.shift rfl fun _ => rfl
    refine set.startLoadKv resting ?_ polled kicked ran
    exact orderly.congr (SameCounts.refl _) fun _ whole => whole
  | event event =>
    obtain ⟨worker, happened, rfl⟩ := Option.map_eq_some_iff.mp ran
    exact kept.event resting happened
  | waitForSave answers =>
    unfold AsyncHistory.call at ran
    dsimp only at ran
    split at ran
    · rename_i returned
      cases ran
      exact kept.waitForSave resting returned
    · cases ran
  | getFinished finishedReqIds plan =>
    cases ran
    refine ⟨kept.getFinished admits finishedReqIds, ?_⟩
    have same : (history.getFinished finishedReqIds plan).worker.load = history.worker.load := by
      rw [getFinished_eq]
      unfold reportLoads
      rw [foldl_releaseAsyncLoad_eq, worker_pollAsyncLoads]
      exact (asyncOnly_pollAsyncLoads history.worker plan).load
    unfold Worker.Resting
    rw [same]
    exact resting
  | getBlockIdsWithLoadErrors =>
    cases ran
    exact ⟨kept.getBlockIdsWithLoadErrors, resting⟩
  | getRequestIdsWithLoadErrors | buildConnectorWorkerMeta =>
    cases ran
    exact ⟨kept.shift rfl fun _ => rfl, resting⟩

/-- In every run of a worker in which the delivered loads are orderly, every load is
settled exactly once, whatever the reads, the ranks and the finishing requests do. -/
theorem run_settles (digest : Key → List Nat → Key) (bound : Nat) (geometry : ChunkGeometry)
    (numBlocks tpSize : Nat) {engine : KVEngine Key} (unpinned : ∀ key, engine.index.pins key = 0)
    {actions : List (WorkerCall Key Req)} (admitted : Along (step digest) (Admits digest bound)
      (some (fresh (Worker.fresh geometry numBlocks tpSize engine))) actions) :
    Always (step digest) (fun state => ∀ history ∈ state, Settles bound history)
      (some (fresh (Worker.fresh geometry numBlocks tpSize engine))) actions := by
  have kept : Always (step digest)
      (fun state => ∀ history ∈ state, Kept bound history ∧ history.worker.Resting)
      (some (fresh (Worker.fresh geometry numBlocks tpSize engine))) actions := by
    refine Along.always ?_ ?_ admitted
    · intro state action holds admits next ran
      cases state with
      | none => cases ran
      | some history =>
        obtain ⟨kept, resting⟩ := holds history rfl
        exact kept.call resting admits ran
    · rintro history ⟨⟩
      have tracked : Tracked [] (fresh (Worker.fresh geometry numBlocks tpSize engine) :
          AsyncHistory Key Req) :=
        ⟨unpinned, fun _ => .settled nofun⟩
      exact ⟨⟨tracked, rfl, fun _ active => absurd active nofun, nofun⟩, .inr rfl⟩
  exact kept.imp fun state holds history member => (holds history member).1.settles

/-- A worker whose index holds the first two chunks of four tokens. -/
def twoChunkWorker : Worker Nat Nat :=
  Worker.fresh .small 4 1
    (KVEngine.fresh (ChunkIndex.small.restore [1, 2]))

/-- A step that delivers a part of a request asynchronously, and two rounds of reports. -/
def deliverLoad (loadStartToken loadTokens : Nat) (plan : RunningPlan) :
    List (WorkerCall Nat Nat) :=
  [.startLoadKv ⟨[⟨7, range 9, [0, 1, 2, 3], loadTokens, loadStartToken, 0, 0, [], true⟩], []⟩
      ⟨none, some plan, true, true, true, fun _ => true⟩,
    .getFinished [] none, .getBlockIdsWithLoadErrors, .getFinished [] none,
    .getBlockIdsWithLoadErrors]

/-- A load of the first chunk whose plan fails at its second poll. -/
theorem run_settles_failedPlan :
    Always (step Worker.countKey) (fun state => ∀ history ∈ state, Settles 1 history)
      (some (fresh twoChunkWorker)) (deliverLoad 0 4 ⟨1, false⟩) :=
  run_settles countKey 1 _ 4 1 (fun _ => rfl) (by decide +kernel)

/-- vLLM has the first two tokens, and four more are loaded. No chunk lies within them:
the load is reported without a read, and its blocks are never fetched. -/
theorem partialChunk_unsettled :
    ¬ ∃ bound, Always (step Worker.countKey)
      (fun state => ∀ history ∈ state, Settles bound history)
      (some (fresh twoChunkWorker)) (deliverLoad 2 4 ⟨0, true⟩) := by
  rintro ⟨bound, always⟩
  have ended : (runFrom (step countKey) (some (fresh twoChunkWorker))
      (deliverLoad 2 4 ⟨0, true⟩)).map (fun history => (history.ledger 7).map fun entry =>
        (entry.blocks, entry.read, entry.dropped, entry.fetchedAfter, entry.fetched)) =
      some [({1, 2}, false, false, true, ∅)] := by decide +kernel
  obtain ⟨history, reached, listed⟩ := Option.map_eq_some_iff.mp ended
  have settles := always.last history reached
  obtain ⟨entry, _, entries, same, _⟩ := map_eq_cons_iff.mp listed
  have member : entry ∈ history.ledger 7 := entries ▸ .head _
  simp only [Prod.mk.injEq] at same
  obtain ⟨blocks, unread, undropped, after, nothing⟩ := same
  have covered := settles.blocks 7 entry member after
    (fun read => nomatch unread.symm.trans read.1) undropped
  rw [blocks, nothing] at covered
  exact absurd covered (by decide)

end AsyncHistory

end Tutti
