import Tutti.Vllm.AsyncSettlement

/-!
# The account of asynchronous loads during a step

The calls that make up a step keep the account of the asynchronous loads, as long as the
loads that are delivered consist of whole chunks and belong to requests without an open
load. Between two calls the synchronous batch holds its own protections, so that releasing
it never takes one of theirs.
-/

namespace Tutti

open Foundation Function List Option Worker

/-! ## Delivering loads -/

namespace Worker

variable {Key Req : Type} {digest : Key → List Nat → Key}

variable {request : ReqMeta Req} {worker : Worker Key Req}

theorem WholeLoad.chunks (whole : worker.WholeLoad digest request)
    (tokens : 0 < request.loadTokens) :
    0 < (worker.spanOf request).2 := by
  have first := whole.1 request.loadStartToken (Nat.le_refl _) (Nat.lt_add_of_pos_right tokens)
  unfold spanOf
  omega

/-- The blocks of a load made of whole chunks are the blocks of its chunks. -/
theorem WholeLoad.blocks (whole : worker.WholeLoad digest request) :
    worker.loadBlocks request ⊆ (worker.spanTables request).flatten.toFinset := by
  intro block member
  obtain ⟨offset, inside, found⟩ := mem_filterMap.mp (mem_toFinset.mp member)
  have bound := mem_range.mp inside
  obtain ⟨lower, upper⟩ := whole.1 (request.loadStartToken + offset) (Nat.le_add_right _ _)
    (Nat.add_lt_add_left bound _)
  have table : block ∈ worker.chunkTable request
      ((request.loadStartToken + offset) / worker.geometry.chunkTokens) :=
    worker.geometry.mem_chunkTable_iff.mpr ⟨_, rfl, found⟩
  exact mem_toFinset.mpr (mem_flatten.mpr
    ⟨_, worker.chunkTable_mem_spanTables request lower upper, table⟩)

theorem SameRank.wholeLoad {before after : Worker Key Req} (same : SameRank digest before after) :
    after.WholeLoad digest request ↔ before.WholeLoad digest request := by
  unfold WholeLoad
  rw [same.geometry, same.spanKeys, same.spanOf]

end Worker

namespace AsyncHistory

variable {Key Req : Type} [DecidableEq Key] [DecidableEq Req] {next : AsyncHistory Key Req}

variable {loads : List (AsyncLoad Key Req)} {history : AsyncHistory Key Req} {blocks : Finset Nat}

/-- A load is queued, with its protections, for a request without an open load. -/
theorem Tracked.enqueue (tracked : Tracked loads history) {load : AsyncLoad Key Req}
    (quiet : ∀ entry ∈ history.ledger load.reqId, entry.reports ≠ 0)
    (covered : blocks ⊆ load.blockTables.flatten.toFinset)
    (pins : ∀ key, next.worker.engine.index.pins key =
      history.worker.engine.index.pins key + load.keys.count key)
    (keys : next.worker.load.keys = history.worker.load.keys)
    (errorBlocks : next.worker.async.errorBlocks = history.worker.async.errorBlocks)
    (finished : next.worker.async.finished = history.worker.async.finished)
    (ledger : next.ledger = history.ledger.deliver load.reqId blocks true) :
    Tracked (load :: loads) next where
  pins := by
    intro key
    rw [pins, keys, tracked.pins, flatMap_cons, count_append]
    omega
  account := by
    intro reqId
    have account := tracked.account reqId
    rw [errorBlocks, finished, ledger]
    by_cases same : load.reqId = reqId
    · subst same
      obtain ⟨none, unfinished, done⟩ := account.settled_of_reported quiet
      rw [filter_cons, if_pos (decide_eq_true rfl), none, unfinished, LoadLedger.deliver,
        update_self]
      exact .unsettled ⟨rfl, rfl, rfl⟩ covered done
    · rw [filter_cons, if_neg (by rwa [decide_eq_true_eq]), LoadLedger.deliver,
        update_of_ne (Ne.symm same)]
      exact account

/-- A load is refused and its blocks are noted. -/
theorem Tracked.refuse (tracked : Tracked loads history) {reqId : Req} {covered : Finset Nat}
    (quiet : ∀ entry ∈ history.ledger reqId, entry.reports ≠ 0) (noted : blocks ⊆ covered)
    (pins : next.worker.engine.index.pins = history.worker.engine.index.pins)
    (keys : next.worker.load.keys = history.worker.load.keys)
    (errorBlocks : next.worker.async.errorBlocks = history.worker.async.errorBlocks ∪ covered)
    (finished : next.worker.async.finished = insert reqId history.worker.async.finished)
    (ledger : next.ledger = history.ledger.deliver reqId blocks true) : Tracked loads next where
  pins := by
    rw [pins, keys]
    exact tracked.pins
  account := by
    intro other
    have account := (tracked.account other).mono
      (Finset.subset_union_left : _ ⊆ history.worker.async.errorBlocks ∪ covered)
    rw [errorBlocks, finished, ledger]
    by_cases same : other = reqId
    · subst same
      obtain ⟨none, _, done⟩ := account.settled_of_reported quiet
      rw [none, decide_eq_true (Finset.mem_insert_self _ _), LoadLedger.deliver, update_self]
      refine .finished ⟨rfl, rfl, rfl⟩ (.inr (.inr ?_)) done
      exact Finset.Subset.trans noted (Finset.Subset.trans Finset.subset_union_right
        Finset.subset_union_right)
    · have member : decide (other ∈ insert reqId history.worker.async.finished) =
          decide (other ∈ history.worker.async.finished) := by
        rw [decide_eq_decide, Finset.mem_insert]
        exact or_iff_right same
      rw [member, LoadLedger.deliver, update_of_ne same]
      exact account

section

variable {bound : Nat} {history : AsyncHistory Key Req} (kept : Kept bound history)
include kept

/-- A new load is within the limit, and the others stay where they are. -/
theorem due_deliver {async : AsyncState Key Req} {reqId : Req} {whole : Bool}
    (active : async.active = history.worker.async.active) (finished : ∀ other, other ≠ reqId →
      (other ∈ async.finished ↔ other ∈ history.worker.async.finished)) :
    ∀ other entry older, history.ledger.deliver reqId blocks whole other = entry :: older →
      entry.reports = 0 → entry.calls + async.remaining bound other ≤ 2 * bound + 1 := by
  intro other entry older listed unreported
  unfold LoadLedger.deliver at listed
  by_cases same : other = reqId
  · subst same
    rw [update_self] at listed
    cases listed
    change 0 + async.remaining bound other ≤ 2 * bound + 1
    unfold AsyncState.remaining
    rw [active]
    split
    · omega
    split
    · omega
    rename_i batch running
    have polls := kept.polls batch running
    split <;> omega
  · rw [update_of_ne same] at listed
    have limit := kept.due other entry older listed unreported
    have far : async.remaining bound other = history.worker.async.remaining bound other := by
      unfold AsyncState.remaining
      rw [active, if_congr (finished other same) rfl rfl]
    rw [far]
    exact limit

variable (digest : Key → List Nat → Key)

/-- The asynchronous loads of a step: at most one for a request, for a request without an
open load, and of whole chunks. -/
@[mk_iff]
structure Orderly (history : AsyncHistory Key Req) (requests : List (ReqMeta Req)) : Prop where
  distinct : ((requests.filter fun request =>
    0 < request.loadTokens ∧ request.loadAsync = true).map ReqMeta.reqId).Nodup
  quiet : ∀ request ∈ requests, Worker.IsAsyncLoad request →
    ∀ entry ∈ history.ledger request.reqId, entry.reports ≠ 0
  whole : ∀ request ∈ requests, Worker.IsAsyncLoad request →
    history.worker.WholeLoad digest request

variable {digest}

variable {requests : List (ReqMeta Req)} {request : ReqMeta Req}

omit kept in
omit [DecidableEq Key] in
theorem Orderly.rest {history : AsyncHistory Key Req}
    (orderly : Orderly digest history (request :: requests))
    (same : Worker.SameRank digest history.worker next.worker)
    (ledger : next.ledger = history.ledger ∨ Worker.IsAsyncLoad request ∧
      ∃ blocks whole, next.ledger = history.ledger.deliver request.reqId blocks whole) :
    Orderly digest next requests where
  distinct := by
    have distinct := orderly.distinct
    rw [filter_cons] at distinct
    split at distinct
    · exact (nodup_cons.mp distinct).2
    · exact distinct
  quiet := by
    intro other member asked
    have quiet := orderly.quiet other (.tail _ member) asked
    rcases ledger with kept | ⟨first, blocks, whole, delivered⟩
    · rw [kept]
      exact quiet
    have different : other.reqId ≠ request.reqId := by
      have distinct := orderly.distinct
      rw [filter_cons, if_pos (decide_eq_true ⟨first.tokens, first.async⟩), map_cons,
        nodup_cons] at distinct
      intro equal
      refine distinct.1 (mem_map.mpr ⟨other, mem_filter.mpr ⟨member, ?_⟩, equal⟩)
      exact decide_eq_true ⟨asked.tokens, asked.async⟩
    rw [delivered, LoadLedger.deliver, update_of_ne different]
    exact quiet
  whole := fun other member asked =>
    same.wholeLoad.mpr (orderly.whole other (.tail _ member) asked)

/-- The synchronous batch may change together with its protections. -/
theorem Kept.shift {worker : Worker Key Req} (async : worker.async = history.worker.async)
    (pins : ∀ key, worker.engine.index.pins key + history.worker.load.keys.count key =
      history.worker.engine.index.pins key + worker.load.keys.count key) :
    Kept bound { history with worker } := by
  cases worker
  subst async
  refine { kept with tracked := ⟨fun key => ?_, kept.tracked.account⟩ }
  have before := kept.tracked.pins key
  have moved := pins key
  dsimp only at moved ⊢
  omega

/-- One request of the loop keeps the account. -/
theorem Kept.loadRequest {requestOrdinal : Nat}
    (orderly : Orderly digest history (request :: requests))
    (ran : history.loadRequest digest requestOrdinal request = some next) :
    Kept bound next ∧ Orderly digest next requests := by
  obtain ⟨worker, loads, made⟩ := map_eq_some_iff.mp ran
  have loaded := loaded_loadRequest loads
  have same := loaded.sameRank
  have quiet := orderly.quiet request (.head _)
  have whole := orderly.whole request (.head _)
  -- A request that does not load asynchronously leaves the ledger alone.
  have skips : ¬ Worker.IsAsyncLoad request → Kept bound { history with worker } →
      Kept bound next ∧ Orderly digest next requests := by
    intro sync after
    rw [if_neg fun asked => sync ⟨asked.1, asked.2⟩] at made
    subst made
    exact ⟨after, orderly.rest same (.inl rfl)⟩
  cases loaded with
  | idle sync nothing => exact skips sync (kept.shift rfl fun _ => rfl)
  | reported asked refused missing =>
    exact skips (fun async => async.not_syncLoad asked) (kept.shift rfl fun _ => rfl)
  | collected asked complete =>
    refine skips (fun async => async.not_syncLoad asked) (kept.shift rfl fun key => ?_)
    dsimp only [pinned]
    rw [count_append]
    omega
  | asyncEmpty asked nothing => exact absurd nothing ((whole asked).chunks asked.tokens).ne'
  | asyncReported asked chunks valid refused missing =>
    rw [if_pos ⟨asked.tokens, asked.async⟩] at made
    subst made
    refine ⟨⟨?_, kept.running, kept.polls, ?_⟩, orderly.rest same (.inr ⟨asked, _, _, rfl⟩)⟩
    · refine kept.tracked.refuse (quiet asked) (whole asked).blocks rfl rfl rfl rfl ?_
      rw [decide_eq_true (whole asked)]
    refine due_deliver kept rfl fun other different => ?_
    rw [Finset.mem_insert]
    exact or_iff_right different
  | asyncQueued asked chunks valid complete =>
    rw [if_pos ⟨asked.tokens, asked.async⟩] at made
    subst made
    refine ⟨⟨?_, kept.running, kept.polls, due_deliver kept rfl fun _ _ => Iff.rfl⟩,
      orderly.rest same (.inr ⟨asked, _, _, rfl⟩)⟩
    let load : AsyncLoad Key Req := ⟨request.reqId, history.worker.spanKeys digest request,
      history.worker.spanTables request⟩
    have last : (load :: history.worker.async.unsettled).Perm
        ({ history.worker.async with
          queue := history.worker.async.queue ++ [load] } : AsyncState Key Req).unsettled := by
      unfold AsyncState.unsettled
      rw [append_assoc]
      exact perm_middle.symm
    refine Tracked.perm ?_ last
    refine kept.tracked.enqueue (quiet asked) (whole asked).blocks (fun _ => rfl) rfl rfl rfl ?_
    rw [decide_eq_true (whole asked)]

theorem Kept.loadRequests {requestOrdinal : Nat} (orderly : Orderly digest history requests)
    (ran : loadRequests digest requests requestOrdinal history = some next) : Kept bound next := by
  induction requests generalizing history requestOrdinal with
  | nil =>
    cases ran
    exact kept
  | cons request requests ih =>
    unfold AsyncHistory.loadRequests at ran
    split at ran
    · cases ran
    rename_i middle stepped
    obtain ⟨after, rest⟩ := kept.loadRequest orderly stepped
    exact ih after rest ran

end

/-! ## The calls of a step -/

end AsyncHistory

namespace Worker

variable {Key Req : Type} [DecidableEq Key]

/-- Between two calls the synchronous batch is protected or empty. -/
def Resting (worker : Worker Key Req) : Prop := worker.load.pinned = true ∨ worker.load.keys = []

/-- Protections that are held are released without an error. -/
theorem finalizeLoadState_of_held {worker : Worker Key Req} (resting : worker.Resting)
    (held : ∀ key, worker.load.keys.count key ≤ worker.engine.index.pins key) :
    worker.finalizeLoadState.1 = true ∧
      worker.finalizeLoadState.2.async = worker.async ∧
      worker.finalizeLoadState.2.load.keys = [] ∧
      ∀ key, worker.finalizeLoadState.2.engine.index.pins key + worker.load.keys.count key =
        worker.engine.index.pins key := by
  unfold finalizeLoadState
  by_cases pinned : worker.load.pinned = true
  · rw [if_pos pinned]
    unfold KVEngine.unpin
    rw [ChunkIndex.unpin_of_held held]
    exact ⟨rfl, rfl, rfl, fun key => Nat.sub_add_cancel (held key)⟩
  · rw [if_neg pinned]
    refine ⟨rfl, rfl, rfl, fun key => ?_⟩
    rw [resting.resolve_left pinned]
    rfl

end Worker

namespace AsyncHistory

variable {Key Req : Type} [DecidableEq Key] [DecidableEq Req] {digest : Key → List Nat → Key}

variable {bound : Nat} {history : AsyncHistory Key Req}

omit [DecidableEq Key] [DecidableEq Req] in
/-- What makes the loads of a step orderly is not changed by a poll. -/
theorem Orderly.congr {history next : AsyncHistory Key Req} {requests : List (ReqMeta Req)}
    (orderly : Orderly digest history requests) (counts : SameCounts history.ledger next.ledger)
    (whole : ∀ request, history.worker.WholeLoad digest request →
      next.worker.WholeLoad digest request) : Orderly digest next requests where
  distinct := orderly.distinct
  quiet := fun request member asked => counts.reported (orderly.quiet request member asked)
  whole := fun request member asked => whole request (orderly.whole request member asked)

variable (kept : Kept bound history)
include kept

variable {worker : Worker Key Req}

/-- The write batch does not touch the account. -/
theorem Kept.writes (writes : Worker.WritesOnly history.worker worker) :
    Kept bound { history with worker } := by
  obtain ⟨engine, save, report, pins, rfl⟩ := writes
  refine kept.shift rfl fun key => ?_
  rw [pins]

variable (resting : history.worker.Resting)
include resting

/-- Releasing the synchronous batch keeps the account. -/
theorem Kept.finalize :
    history.worker.finalizeLoadState.1 = true ∧
      Kept bound { history with worker := history.worker.finalizeLoadState.2 } ∧
      history.worker.finalizeLoadState.2.load.keys = [] := by
  obtain ⟨released, async, keys, pins⟩ := finalizeLoadState_of_held resting
    fun key => (kept.tracked.pins key).symm ▸ Nat.le_add_right _ _
  refine ⟨released, kept.shift async fun key => ?_, keys⟩
  rw [pins]
  rfl

variable {answers : StartAnswers Key}

/-- The beginning of `start_load_kv`. -/
theorem Kept.beginLoads {begun : AsyncHistory Key Req}
    (polls : ∀ running, answers.polledPlan = some running → running.polls ≤ bound)
    (ran : history.beginLoads answers = some begun) :
    Kept bound begun ∧ SameCounts history.ledger begun.ledger ∧
      Worker.SameRank digest history.worker begun.worker := by
  have erased := congrArg (Option.map AsyncHistory.worker) ran
  rw [worker_beginLoads] at erased
  obtain ⟨released, finalized, empty⟩ := kept.finalize resting
  unfold AsyncHistory.beginLoads at ran
  rcases outcome : history.worker.finalizeLoadState with ⟨_, worker⟩
  rw [outcome] at ran released finalized empty
  cases released
  cases ran
  have reset : Kept bound { history with worker := worker.resetStep } := by
    refine finalized.shift rfl fun key => ?_
    change worker.engine.index.pins key + worker.load.keys.count key =
      worker.engine.index.pins key + count key []
    rw [empty]
  exact ⟨(reset.pollAsyncLoads polls).1.shift rfl fun _ => rfl,
    sameCounts_pollAsyncLoads { history with worker := worker.resetStep } answers.polledPlan,
    (opened_beginLoads erased).same⟩

/-- `start_load_kv` keeps the account, and its batch is protected. -/
theorem Kept.startLoadKv {next : AsyncHistory Key Req}
    (orderly : Orderly digest history history.worker.metadata.requests)
    (polled : ∀ running, answers.polledPlan = some running → running.polls ≤ bound)
    (kicked : ∀ running, answers.kickedPlan = some running → running.polls ≤ bound)
    (ran : history.startLoadKv digest answers = some next) :
    Kept bound next ∧ next.worker.Resting := by
  obtain ⟨begun, began, rest⟩ := bind_eq_some_iff.mp ran
  obtain ⟨loaded, looped, rest⟩ := bind_eq_some_iff.mp rest
  obtain ⟨reading, planned, rest⟩ := bind_eq_some_iff.mp rest
  obtain ⟨opened, counts, same⟩ := kept.beginLoads resting polled began
  have asked : Orderly digest begun begun.worker.metadata.requests := by
    rw [same.metadata]
    exact orderly.congr counts fun _ => same.wholeLoad.mpr
  have collected := opened.loadRequests asked looped
  have started : Kept bound { loaded with worker := reading } ∧ reading.Resting := by
    obtain ⟨_, _, rfl, way⟩ := startReadPlan_some planned
    refine ⟨collected.shift rfl fun _ => rfl, ?_⟩
    rcases way with ⟨empty, _⟩ | ⟨_, _, _, pinned⟩
    · exact .inr empty
    · exact .inl pinned
  have after := (started.1.kickAsyncLoads kicked).1
  have loads : (reading.kickAsyncLoads answers.kickedPlan).Resting := by
    unfold Worker.Resting
    rw [(asyncOnly_kickAsyncLoads reading answers.kickedPlan).load]
    exact started.2
  have worker := worker_kickAsyncLoads { loaded with worker := reading } answers.kickedPlan
  rw [← worker] at loads
  unfold prepareWrites at rest
  split at rest
  · cases rest
    exact ⟨after, loads⟩
  obtain ⟨written, prepared, rfl⟩ := map_eq_some_iff.mp rest
  have writes := writesOnly_prepareWriteBatch prepared
  refine ⟨after.writes writes, ?_⟩
  obtain ⟨_, _, _, _, rfl⟩ := writes
  exact loads

/-- An error during the layers changes the failures only. -/
theorem Kept.event {event : StepEvent}
    (ran : history.worker.onEvent event = some worker) :
    Kept bound { history with worker } ∧ worker.Resting := by
  cases event with
  | saveFailure =>
    cases ran
    exact ⟨kept.shift rfl fun _ => rfl, resting⟩
  | readFailure error =>
    change history.worker.onReadFailure error = some worker at ran
    unfold onReadFailure at ran
    split at ran
    · cases ran
      exact ⟨kept, resting⟩
    obtain ⟨load, marked, rfl⟩ := map_eq_some_iff.mp ran
    have noted : history.worker.load.noteError (some error) = some load := marked
    have same := LoadState.sameBatch_noteError noted
    refine ⟨kept.shift rfl fun key => ?_, ?_⟩
    · rw [same.keys]
    unfold Worker.Resting
    rw [same.keys, same.pinned]
    exact resting

/-- `wait_for_save` releases the synchronous batch. -/
theorem Kept.waitForSave {answers : WaitAnswers}
    (returned : (history.worker.waitForSave answers).returned = true) :
    Kept bound { history with worker := (history.worker.waitForSave answers).worker } ∧
      (history.worker.waitForSave answers).worker.Resting := by
  -- A worker that differs in the failures only is settled.
  have settles : ∀ load ok, LoadState.SameBatch history.worker.load load →
      let drained : Worker Key Req := { history.worker with load }
      let final := (drained.finalizeLoadState.2.settleSaves ok).clearSaves
      Kept bound { history with worker := final } ∧ final.Resting := by
    intro load ok same drained final
    have shifted : Kept bound { history with worker := drained } := by
      refine kept.shift rfl fun key => ?_
      rw [same.keys]
    have rests : drained.Resting := by
      unfold Worker.Resting
      rw [same.keys, same.pinned]
      exact resting
    obtain ⟨_, released, empty⟩ := shifted.finalize rests
    have writes := writesOnly_settleSaves drained.finalizeLoadState.2 ok
    refine ⟨released.writes writes, .inr ?_⟩
    obtain ⟨_, _, _, _, settled⟩ := writes
    dsimp only [final]
    rw [settled]
    exact empty
  obtain ⟨drained, drains, outcome⟩ := waitForSave_returned returned
  obtain ⟨load, rfl, same⟩ := drainReads_eq drains
  rcases outcome with ⟨_, _, installed, installs, final⟩ | ⟨_, final⟩
  · obtain ⟨last, rfl, again⟩ := installConsensus_eq installs
    rw [final]
    exact settles last false (same.trans again)
  · rw [final]
    exact settles load true same

end AsyncHistory

end Tutti
