import Tutti.Vllm.WorkerStep

/-!
# From failed loads to the error sets

A failed load is recorded as a range of chunks of its request, ranges of one request
are joined, and each time the error sets are rebuilt from the spans of the read batch.
What is recorded is never lost, and a recorded chunk of the batch is in the rebuilt
sets. Nothing else is: a request that did not join the batch leaves them at the first
rebuild.
-/

namespace Tutti

open Foundation Function List Option

/-- The error concerns a chunk of the read batch, which is given by the order of its
chunks. An error that names no chunk of the batch concerns all of them. -/
def ReadError.Concerns (error : ReadError) (order : List (Nat × Nat)) (chunk : Nat × Nat) : Prop :=
  match error with
  | .other | .gate true _ => True
  | .gate false indices =>
    (∃ place : Nat, (place : Int) ∈ indices ∧ order[place]? = some chunk) ∨
      ∀ index ∈ indices, ¬ (0 ≤ index ∧ index < (order.length : Int))

/-- The error concerns the chunk at a place of the read batch. -/
def ReadError.Hits (error : ReadError) (total place : Nat) : Prop :=
  match error with
  | .other | .gate true _ => True
  | .gate false indices =>
    (place : Int) ∈ indices ∨ ∀ index ∈ indices, ¬ (0 ≤ index ∧ index < (total : Int))

variable {error : ReadError}

/-- An error that concerns a chunk hits its place in the order. -/
theorem ReadError.Concerns.hits {order : List (Nat × Nat)} {chunk : Nat × Nat}
    (concerns : error.Concerns order chunk) (unique : order.Nodup) {place : Nat}
    (here : order[place]? = some chunk) : error.Hits order.length place := by
  unfold ReadError.Concerns at concerns
  split at concerns
  · trivial
  · trivial
  refine concerns.imp_left ?_
  rintro ⟨other, listed, found⟩
  obtain ⟨bound, there⟩ := List.getElem?_eq_some_iff.mp here
  obtain ⟨otherBound, otherThere⟩ := List.getElem?_eq_some_iff.mp found
  have same := (unique.getElem_inj_iff).mp (otherThere.trans there.symm)
  rwa [same] at listed

variable {ordinal : Nat} {raised : Option ReadError}

namespace LoadState

variable {Key Req : Type}

/-! ## Recorded ranges -/

/-- A chunk of a request is in the recorded range of the request. -/
def Failing (table : Nat → Option LogicalFailure) (ordinal : Nat) (chunk : Int) : Prop :=
  ∃ failure, table ordinal = some failure ∧ failure.range.1 ≤ chunk ∧ chunk < failure.range.2

variable {table : Nat → Option LogicalFailure} {chunk : Int}

/-- A failing chunk stays failing when another failure is merged. -/
theorem Failing.mergeFailure (failing : Failing table ordinal chunk) (failure : LogicalFailure) :
    Failing (mergeFailure table failure) ordinal chunk := by
  obtain ⟨existing, found, lower, upper⟩ := failing
  by_cases same : ordinal = failure.requestOrdinal
  · subst same
    refine ⟨_, update_self _ _ _, ?_⟩
    rw [found]
    simp only [LogicalFailure.range] at lower upper ⊢
    omega
  · exact ⟨existing, (update_of_ne same _ _).trans found, lower, upper⟩

variable {failure : LogicalFailure}

/-- The chunks of a failure fail once it is merged. -/
theorem failing_mergeFailure (table : Nat → Option LogicalFailure) (lower : failure.range.1 ≤ chunk)
    (upper : chunk < failure.range.2) :
    Failing (mergeFailure table failure) failure.requestOrdinal chunk := by
  refine ⟨_, update_self _ _ _, ?_⟩
  cases table failure.requestOrdinal with
  | none => exact ⟨lower, upper⟩
  | some existing =>
    simp only [LogicalFailure.range] at lower upper ⊢
    omega

/-- A failing chunk stays failing when more failures are merged. -/
theorem Failing.foldl (failing : Failing table ordinal chunk) (failures : List LogicalFailure) :
    Failing (failures.foldl LoadState.mergeFailure table) ordinal chunk := by
  induction failures generalizing table with
  | nil => exact failing
  | cons head tail ih => exact ih (failing.mergeFailure head)

variable {failures : List LogicalFailure}

/-- The chunks of every merged failure fail. -/
theorem failing_foldl (table : Nat → Option LogicalFailure) (member : failure ∈ failures)
    (lower : failure.range.1 ≤ chunk) (upper : chunk < failure.range.2) :
    Failing (failures.foldl mergeFailure table) failure.requestOrdinal chunk := by
  induction failures generalizing table with
  | nil => cases member
  | cons head tail ih =>
    rcases mem_cons.mp member with rfl | later
    · exact (failing_mergeFailure table lower upper).foldl tail
    · exact ih (mergeFailure table head) later

/-- Every recorded range keeps to the limits that the predicate sets for its request. -/
def Within (limits : Nat → Int × Int → Prop) (table : Nat → Option LogicalFailure) : Prop :=
  ∀ ordinal failure, table ordinal = some failure → limits ordinal failure.range

/-- Limits that joins respect are kept by merging failures within them. -/
theorem Within.foldl {limits : Nat → Int × Int → Prop} (within : Within limits table)
    (joins : ∀ ordinal first second, limits ordinal first → limits ordinal second →
      limits ordinal (min first.1 second.1, max first.2 second.2))
    (new : ∀ failure ∈ failures, limits failure.requestOrdinal failure.range) :
    Within limits (failures.foldl LoadState.mergeFailure table) := by
  induction failures generalizing table with
  | nil => exact within
  | cons head tail ih =>
    refine ih ?_ fun failure member => new failure (.tail _ member)
    have headLimits := new head (.head _)
    intro ordinal failure found
    unfold LoadState.mergeFailure at found
    by_cases same : ordinal = head.requestOrdinal
    · subst same
      rw [update_self] at found
      cases found
      cases old : table head.requestOrdinal with
      | none => exact headLimits
      | some existing =>
        have joined := joins _ _ _ (within _ existing old) headLimits
        simp only [LogicalFailure.range] at joined ⊢
        rwa [show ∀ low high : Int, low + (high - low) = high by omega]
    · rw [update_of_ne same] at found
      exact within ordinal failure found

/-! ## Rebuilding the error sets -/

/-- The read batch is the same. -/
structure SameBatch (before after : LoadState Key Req) : Prop where
  keys : after.keys = before.keys
  blockTables : after.blockTables = before.blockTables
  requestSpans : after.requestSpans = before.requestSpans
  generation : after.generation = before.generation
  external : after.externalLoadStep = before.externalLoadStep
  pinned : after.pinned = before.pinned

theorem SameBatch.refl (load : LoadState Key Req) : SameBatch load load :=
  ⟨rfl, rfl, rfl, rfl, rfl, rfl⟩

theorem SameBatch.trans {first second third : LoadState Key Req} (left : SameBatch first second)
    (right : SameBatch second third) : SameBatch first third :=
  ⟨right.keys.trans left.keys, right.blockTables.trans left.blockTables,
    right.requestSpans.trans left.requestSpans, right.generation.trans left.generation,
    right.external.trans left.external, right.pinned.trans left.pinned⟩

/-- The failed chunks of a span are in the error sets. -/
def SpanReported (load : LoadState Key Req) (span : LoadRequestSpan Req) : Prop :=
  ∀ offset < span.chunkCount,
    Failing load.logicalFailures span.requestOrdinal (span.firstChunkOrdinal + offset : Nat) →
      span.reqId ∈ load.errorRequestIds ∧
        ∃ table, load.blockTables[span.flatChunkStart + offset]? = some table ∧
          ∀ block ∈ table, block ∈ load.errorBlocks

/-- What is reported stays so, and nothing but the given spans is added. -/
structure Reporting (spans : List (LoadRequestSpan Req)) (before after : LoadState Key Req) :
    Prop where
  same : SameBatch before after
  failures : after.logicalFailures = before.logicalFailures
  failed : after.failed = before.failed
  blocks : before.errorBlocks ⊆ after.errorBlocks
  ids : before.errorRequestIds ⊆ after.errorRequestIds
  origin : ∀ reqId ∈ after.errorRequestIds, reqId ∈ before.errorRequestIds ∨
    before.blockTables ≠ [] ∧ ∃ span ∈ spans, span.reqId = reqId
  reported : ∀ span ∈ spans, after.SpanReported span

variable {span : LoadRequestSpan Req}

/-- A reported span stays reported while blocks and ids are added. -/
theorem SpanReported.mono {before after : LoadState Key Req} (reported : before.SpanReported span)
    (same : SameBatch before after) (failures : after.logicalFailures = before.logicalFailures)
    (blocks : before.errorBlocks ⊆ after.errorBlocks)
    (ids : before.errorRequestIds ⊆ after.errorRequestIds) : after.SpanReported span := by
  intro offset inside failing
  rw [failures] at failing
  obtain ⟨member, table, found, covered⟩ := reported offset inside failing
  rw [same.blockTables]
  exact ⟨ids member, table, found, fun block listed => blocks (covered block listed)⟩

variable [DecidableEq Req] {load next : LoadState Key Req}

/-- Reporting one span adds its blocks and its request. -/
theorem reporting_reportSpan (ran : load.reportSpan span = some next) :
    Reporting [span] load next := by
  have unchanged : load.SpanReported span → Reporting [span] load load := fun reported =>
    ⟨SameBatch.refl _, rfl, rfl, Finset.Subset.refl _, Finset.Subset.refl _,
      fun _ member => .inl member, forall_mem_singleton.mpr reported⟩
  unfold reportSpan at ran
  split at ran
  · rename_i clean
    cases ran
    refine unchanged ?_
    rintro offset inside ⟨failure, found, _⟩
    cases clean.symm.trans found
  rename_i failure recorded
  dsimp only at ran
  split at ran
  · cases ran
    refine unchanged ?_
    rintro offset inside ⟨found, same, lower, upper⟩
    rw [recorded] at same
    cases same
    simp only [LogicalFailure.range] at lower upper
    omega
  split at ran
  · cases ran
  rename_i bounded
  cases ran
  refine ⟨⟨rfl, rfl, rfl, rfl, rfl, rfl⟩, rfl, rfl, Finset.subset_union_left,
    Finset.subset_insert _ _, fun reqId member => ?_, fun other member => ?_⟩
  · rcases Finset.mem_insert.mp member with rfl | old
    · refine .inr ⟨fun empty => ?_, span, mem_singleton_self span, rfl⟩
      rw [empty, length_nil] at bounded
      omega
    · exact .inl old
  obtain rfl := mem_singleton.mp member
  rintro offset inside ⟨found, same, lower, upper⟩
  rw [recorded] at same
  cases same
  simp only [LogicalFailure.range] at lower upper
  have place : other.flatChunkStart + offset < load.blockTables.length := by omega
  refine ⟨Finset.mem_insert_self _ _, _, getElem?_eq_getElem place,
    fun block listed => Finset.mem_union_right _ (mem_toFinset.mpr ?_)⟩
  refine mem_flatten.mpr ⟨_, mem_iff_getElem?.mpr
    ⟨offset - (max 0 (failure.firstChunkOrdinal - other.firstChunkOrdinal)).toNat, ?_⟩,
    listed⟩
  rw [getElem?_take, if_pos (by omega), getElem?_drop, ← getElem?_eq_getElem place]
  congr 1
  omega

/-- Reporting spans one by one reports them all. -/
theorem reporting_foldlM {spans : List (LoadRequestSpan Req)}
    (ran : spans.foldlM reportSpan load = some next) : Reporting spans load next := by
  induction spans generalizing load with
  | nil =>
    cases ran
    exact ⟨SameBatch.refl _, rfl, rfl, Finset.Subset.refl _, Finset.Subset.refl _,
      fun _ member => .inl member, nofun⟩
  | cons span spans ih =>
    obtain ⟨middle, stepped, rest⟩ := bind_eq_some_iff.mp ran
    have first := reporting_reportSpan stepped
    have later := ih rest
    refine ⟨first.same.trans later.same, later.failures.trans first.failures,
      later.failed.trans first.failed, Finset.Subset.trans first.blocks later.blocks,
      Finset.Subset.trans first.ids later.ids, fun reqId member => ?_, fun other member => ?_⟩
    · rcases later.origin reqId member with old | ⟨tables, owner, listed, named⟩
      · rcases first.origin reqId old with older | ⟨tables, owner, listed, named⟩
        · exact .inl older
        · exact .inr ⟨tables, owner, mem_cons.mpr (.inl (mem_singleton.mp listed)), named⟩
      · exact .inr ⟨first.same.blockTables ▸ tables, owner, .tail _ listed, named⟩
    · rcases mem_cons.mp member with rfl | tail
      · exact (first.reported other (mem_singleton_self other)).mono later.same later.failures
          later.blocks later.ids
      · exact later.reported other tail

/-- The error sets are those of the recorded failures of the read batch. -/
structure Rebuilt (load : LoadState Key Req) : Prop where
  reported : ∀ span ∈ load.requestSpans, load.SpanReported span
  origin : ∀ reqId ∈ load.errorRequestIds,
    load.blockTables ≠ [] ∧ ∃ span ∈ load.requestSpans, span.reqId = reqId

/-- The failures are merged and the reports are rebuilt from them. -/
theorem installLogicalFailures_spec (ran : load.installLogicalFailures failures = some next) :
    SameBatch load next ∧
      next.logicalFailures = failures.foldl mergeFailure load.logicalFailures ∧ Rebuilt next := by
  have account := reporting_foldlM ran
  have same : SameBatch load next := { account.same with }
  refine ⟨same, account.failures, ?_, fun reqId member => ?_⟩
  · rw [same.requestSpans]
    exact account.reported
  · rw [same.requestSpans, same.blockTables]
    exact (account.origin reqId member).resolve_left (Finset.notMem_empty reqId)

omit [DecidableEq Req] in
/-- A failure of a span reaches from a chunk that the error concerns to its end. -/
theorem spanFailure_of_hits {offset : Nat} (inside : offset < span.chunkCount)
    (place : span.flatChunkStart + offset < load.blockTables.length)
    (hits : error.Hits load.blockTables.length (span.flatChunkStart + offset)) :
    ∃ failure, spanFailure (load.failedFlatChunks error) span = some failure ∧
      failure.requestOrdinal = span.requestOrdinal ∧
      failure.range.1 ≤ (span.firstChunkOrdinal + offset : Nat) ∧
      ((span.firstChunkOrdinal + offset : Nat) : Int) < failure.range.2 := by
  unfold spanFailure
  by_cases named : load.failedFlatChunks error = []
  · rw [named]
    refine ⟨_, rfl, rfl, ?_⟩
    simp only [LogicalFailure.range, filter_nil, min?_nil]
    omega
  -- An error that names chunks of the batch and concerns this one names it.
  have member : span.flatChunkStart + offset ∈ load.failedFlatChunks error := by
    unfold failedFlatChunks at named ⊢
    split at named
    · exact absurd rfl named
    · exact absurd rfl named
    refine mem_map.mpr ⟨(span.flatChunkStart + offset : Nat), ?_, rfl⟩
    rw [mem_filter, decide_eq_true_eq]
    refine ⟨hits.resolve_right fun none => named ?_, by omega⟩
    rw [map_eq_nil_iff, filter_eq_nil_iff]
    intro index listed
    rw [decide_eq_true_eq]
    exact none index listed
  generalize load.failedFlatChunks error = chunks at named member ⊢
  have candidate : span.flatChunkStart + offset ∈ chunks.filter fun index =>
      span.flatChunkStart ≤ index ∧ index < span.flatChunkStart + span.chunkCount := by
    rw [mem_filter, decide_eq_true_eq]
    exact ⟨member, by omega⟩
  rw [if_neg fun both => ne_nil_of_mem candidate both.2]
  refine ⟨_, rfl, rfl, ?_⟩
  split
  · rename_i first least
    have bound := (min?_eq_some_iff.mp least).2 _ candidate
    simp only [LogicalFailure.range]
    omega
  · rename_i least
    exact absurd (min?_eq_none_iff.mp least) (ne_nil_of_mem candidate)

omit [DecidableEq Req] in
/-- The failure of a span lies inside it and ends where it ends. -/
theorem spanFailure_inside {failedChunks : List Nat}
    (found : spanFailure failedChunks span = some failure) :
    failure.requestOrdinal = span.requestOrdinal ∧ span.firstChunkOrdinal ≤ failure.range.1 ∧
      failure.range.2 = (span.firstChunkOrdinal + span.chunkCount : Nat) := by
  unfold spanFailure at found
  dsimp only at found
  split at found
  · cases found
  cases found
  refine ⟨rfl, ?_⟩
  simp only [LogicalFailure.range]
  split
  · rename_i first least
    have candidate := (min?_eq_some_iff.mp least).1
    rw [mem_filter, decide_eq_true_eq] at candidate
    omega
  · omega

/-- `_mark_load_failure` records the chunks that the error concerns. -/
theorem markLoadFailure_spec (spans : load.requestSpans ≠ [])
    (ran : load.markLoadFailure error = some next) :
    SameBatch load next ∧
      (∃ failures : List LogicalFailure,
        next.logicalFailures = failures.foldl mergeFailure load.logicalFailures ∧
          ∀ failure ∈ failures, ∃ span ∈ load.requestSpans,
            failure.requestOrdinal = span.requestOrdinal ∧
              span.firstChunkOrdinal ≤ failure.range.1 ∧
                failure.range.2 = (span.firstChunkOrdinal + span.chunkCount : Nat)) ∧
      ∀ span ∈ load.requestSpans, ∀ offset < span.chunkCount,
        span.flatChunkStart + offset < load.blockTables.length →
        error.Hits load.blockTables.length (span.flatChunkStart + offset) →
          Failing next.logicalFailures span.requestOrdinal
            (span.firstChunkOrdinal + offset : Nat) := by
  unfold markLoadFailure at ran
  rw [if_neg spans] at ran
  obtain ⟨same, recorded, _⟩ := installLogicalFailures_spec ran
  refine ⟨{ same with }, ⟨_, recorded, fun failure listed => ?_⟩,
    fun span member offset inside place hits => ?_⟩
  · split at listed
    · obtain ⟨span, member, rfl⟩ := mem_map.mp listed
      refine ⟨span, member, rfl, ?_⟩
      simp only [LogicalFailure.range]
      omega
    · obtain ⟨span, member, found⟩ := mem_filterMap.mp listed
      exact ⟨span, member, spanFailure_inside found⟩
  · obtain ⟨failure, found, ordinal, lower, upper⟩ := spanFailure_of_hits inside place hits
    have listed : failure ∈
        load.requestSpans.filterMap (spanFailure (load.failedFlatChunks error)) :=
      mem_filterMap.mpr ⟨span, member, found⟩
    rw [recorded, if_neg (ne_nil_of_mem listed), ← ordinal]
    exact failing_foldl _ listed lower upper

/-- An error changes what is reported, not the batch. -/
theorem sameBatch_noteError (ran : load.noteError raised = some next) :
    SameBatch load next := by
  cases raised with
  | none =>
    cases ran
    exact SameBatch.refl load
  | some error =>
    by_cases spans : load.requestSpans = []
    · change load.markLoadFailure error = some next at ran
      unfold markLoadFailure at ran
      rw [if_pos spans] at ran
      cases ran
      exact ⟨rfl, rfl, rfl, rfl, rfl, rfl⟩
    · exact (markLoadFailure_spec spans ran).1

end LoadState

/-! ## The read batch during a step -/

namespace Worker

open LoadState

variable {Key Req : Type} [DecidableEq Key] (digest : Key → List Nat → Key)

/-- What the state of the loads says about the requests of the step. Without keys
there is no read plan, and the block tables are gone. -/
structure Reading (worker : Worker Key Req) (load : LoadState Key Req) : Prop where
  owner : ∀ span ∈ load.requestSpans, ∃ request,
    worker.metadata.requests[span.requestOrdinal]? = some request ∧ span.reqId = request.reqId ∧
      worker.SyncLoad request ∧ worker.Pinnable digest request
  listed : ∀ (ordinal : Nat) (request : ReqMeta Req),
    worker.metadata.requests[ordinal]? = some request → worker.SyncLoad request →
      worker.Pinnable digest request →
        ∃ span ∈ load.requestSpans, span.requestOrdinal = ordinal ∧
          worker.spanKeys digest request ⊆ load.keys
  empty : load.keys = [] → load.blockTables = []
  spanned : load.keys ≠ [] → load.requestSpans ≠ []
  filled : load.keys ≠ [] →
    Aligned load ∧
      (worker.readOrder digest worker.metadata.requests).length = load.blockTables.length ∧
      ∀ span ∈ load.requestSpans, ∃ request,
        SpanFor digest worker worker.metadata.requests load span request

/-- The range is a part of the chunks that the step asks this rank to load. -/
def AskedRange (worker : Worker Key Req) (ordinal : Nat) (range : Int × Int) : Prop :=
  ∃ request, worker.metadata.requests[ordinal]? = some request ∧ worker.SyncLoad request ∧
    (worker.spanOf request).1 ≤ range.1 ∧
      range.2 ≤ ((worker.spanOf request).1 + (worker.spanOf request).2 : Nat)

variable {worker : Worker Key Req}

omit [DecidableEq Key] in
/-- The hull of two ranges that were asked for was asked for. -/
theorem AskedRange.join {first second : Int × Int} (left : worker.AskedRange ordinal first)
    (right : worker.AskedRange ordinal second) :
    worker.AskedRange ordinal (min first.1 second.1, max first.2 second.2) := by
  obtain ⟨request, listed, asked, lower, upper⟩ := left
  obtain ⟨other, same, _, otherLower, otherUpper⟩ := right
  cases listed.symm.trans same
  exact ⟨request, listed, asked, le_min lower otherLower, max_le upper otherUpper⟩

/-- A rank in the middle of a step, after the given errors of the read plan. -/
structure InStep (worker : Worker Key Req) (errors : List ReadError) (current : Worker Key Req) :
    Prop where
  reading : Reading digest worker current.load
  metadata : current.metadata = worker.metadata
  tpSize : current.tpSize = worker.tpSize
  external : current.load.externalLoadStep = externalLoadStep worker.metadata.requests
  recorded : ∀ (ordinal : Nat) (request : ReqMeta Req),
    worker.metadata.requests[ordinal]? = some request → worker.Unpinnable digest request →
      ∀ chunk : Nat, (worker.spanOf request).1 ≤ chunk →
        chunk < (worker.spanOf request).1 + (worker.spanOf request).2 →
          Failing current.load.logicalFailures ordinal chunk
  within : Within worker.AskedRange current.load.logicalFailures
  idle : current.load.keys = [] → ∀ reqId ∈ current.load.errorRequestIds,
    ∃ request ∈ worker.metadata.requests, worker.Unpinnable digest request
  hit : current.load.keys ≠ [] → ∀ error ∈ errors, ∀ span ∈ current.load.requestSpans,
    ∀ offset < span.chunkCount,
      error.Concerns (worker.readOrder digest worker.metadata.requests)
          (span.requestOrdinal, span.firstChunkOrdinal + offset) →
        Failing current.load.logicalFailures span.requestOrdinal
          (span.firstChunkOrdinal + offset : Nat)

variable {digest} {next load : LoadState Key Req}

/-- The span of a request is read off the batch alone. -/
theorem SpanFor.sameBatch {start : Worker Key Req} {requests : List (ReqMeta Req)}
    {span : LoadRequestSpan Req} {request : ReqMeta Req}
    (account : SpanFor digest start requests load span request) (same : SameBatch load next) :
    SpanFor digest start requests next span request := by
  have aligned : Aligned next → Aligned load := by
    unfold Aligned
    rw [same.keys, same.blockTables]
    exact id
  refine { account with keys := ?_, full := ?_, tables := ?_, places := ?_ }
  · rw [same.keys]
    exact account.keys
  · exact fun next => account.full (aligned next)
  · rw [same.blockTables]
    exact fun next => account.tables (aligned next)
  · exact fun next => account.places (aligned next)

/-- So is what is being read. -/
theorem Reading.sameBatch (reading : Reading digest worker load) (same : SameBatch load next) :
    Reading digest worker next := by
  refine ⟨?_, ?_, ?_, ?_, ?_⟩
  · rw [same.requestSpans]
    exact reading.owner
  · rw [same.requestSpans, same.keys]
    exact reading.listed
  · rw [same.keys, same.blockTables]
    exact reading.empty
  · rw [same.requestSpans, same.keys]
    exact reading.spanned
  rw [same.keys, same.requestSpans, same.blockTables]
  intro filled
  obtain ⟨aligned, order, spans⟩ := reading.filled filled
  refine ⟨?_, order, fun span member => ?_⟩
  · unfold Aligned
    rw [same.keys, same.blockTables]
    exact aligned
  · obtain ⟨request, account⟩ := spans span member
    exact ⟨request, account.sameBatch same⟩

/-- The read plan has started, or there is nothing to read. -/
theorem ReadBatch.reading {loaded reading : Worker Key Req} {starts : Bool}
    (batch : ReadBatch digest worker worker.metadata.requests loaded)
    (planned : loaded.startReadPlan starts = some reading) :
    Reading digest worker reading.load := by
  obtain ⟨tables, pinned, rfl, way⟩ := startReadPlan_some planned
  refine ⟨fun span member => ?_, fun ordinal request found asked complete => ?_, fun empty => ?_,
    fun filled none => filled (batch.spanned none), fun filled => ?_⟩
  · obtain ⟨request, account⟩ := batch.span span member
    exact ⟨request, account.listed, account.reqId, account.asked, account.complete⟩
  · obtain ⟨span, member, here⟩ := batch.listed ordinal request found asked complete
    obtain ⟨same, account⟩ := batch.span span member
    rw [← here] at found
    cases account.listed.symm.trans found
    exact ⟨span, member, here, account.keys⟩
  · exact (way.resolve_right fun planned => planned.1 empty).2
  · obtain ⟨_, aligned, rfl, _⟩ := way.resolve_left fun nothing => filled nothing.1
    refine ⟨aligned, batch.order, fun span member => ?_⟩
    obtain ⟨request, account⟩ := batch.span span member
    exact ⟨request, { account with }⟩

/-- A batch that has just been opened has met no error. -/
theorem readBatch_opened {begun : Worker Key Req} (opened : Opened digest worker begun) :
    ReadBatch digest worker [] begun := by
  obtain ⟨same, load⟩ := opened
  cases begun
  subst load
  refine ⟨same, rfl, le_refl _, fun _ => rfl, nofun, nofun, fun ordinal failure => ?_,
    fun reqId => ?_⟩
  · constructor
    · exact nofun
    · rintro ⟨_, listed, _⟩
      cases listed
  · constructor
    · exact fun member => absurd member (Finset.notMem_empty reqId)
    · rintro ⟨_, listed, _⟩
      cases listed

variable {current : Worker Key Req} {errors : List ReadError}

/-- A change that keeps the batch and what is recorded keeps the account of the step. -/
theorem InStep.mono (step : InStep digest worker errors current)
    (same : SameBatch current.load next)
    (grows : ∀ ordinal chunk, Failing current.load.logicalFailures ordinal chunk →
      Failing next.logicalFailures ordinal chunk)
    (within : Within worker.AskedRange next.logicalFailures)
    (ids : current.load.keys = [] → next.errorRequestIds = current.load.errorRequestIds) :
    InStep digest worker errors { current with load := next } := by
  refine { step with
    within
    reading := step.reading.sameBatch same
    external := same.external.trans step.external
    recorded := fun ordinal request listed unpinnable chunk lower upper =>
      grows _ _ (step.recorded ordinal request listed unpinnable chunk lower upper)
    idle := fun empty reqId member => ?_
    hit := ?_ }
  · rw [same.keys] at empty
    rw [ids empty] at member
    exact step.idle empty reqId member
  · rw [same.keys, same.requestSpans]
    intro filled error listed span member offset inside concerns
    exact grows _ _ (step.hit filled error listed span member offset inside concerns)

/-- Without a read plan no error concerns a chunk. -/
theorem InStep.ignore (step : InStep digest worker errors current) (empty : current.load.keys = [])
    (more : List ReadError) :
    InStep digest worker (errors ++ more) current :=
  { step with hit := fun filled => absurd empty filled }

section Run

variable [DecidableEq Req]

/-- A step that has started its loads has met no error. -/
theorem inStep_started {worker started : Worker Key Req} {answers : StartAnswers Key}
    (ran : worker.startLoadKv digest answers = some started) : InStep digest worker [] started := by
  obtain ⟨begun, loaded, reading, began, looped, planned, rest⟩ := startLoadKv_some ran
  have opened : Opened digest worker begun := opened_beginLoads began
  rw [opened.same.metadata] at looped
  have batch := (readBatch_opened opened).run looped
  have external := loadRequests_fixed looped
  rw [opened.load] at external
  have same := sameLoads_started rest
  have reads := batch.reading planned
  obtain ⟨_, _, rfl, _⟩ := startReadPlan_some planned
  refine ⟨same.load ▸ reads, same.metadata.trans batch.same.metadata,
    same.tpSize.trans batch.same.tpSize, ?_, ?_, ?_, ?_, nofun⟩
  · rw [same.load]
    exact external
  · intro ordinal request listed unpinnable chunk lower upper
    rw [same.load]
    have recorded := (batch.failures ordinal _).mpr ⟨request, listed, unpinnable, rfl⟩
    refine ⟨_, recorded, ?_⟩
    simp only [LogicalFailure.range]
    omega
  · intro ordinal failure recorded
    rw [same.load] at recorded
    replace recorded := (batch.failures ordinal _).mp recorded
    obtain ⟨request, listed, unpinnable, rfl⟩ := recorded
    refine ⟨request, listed, unpinnable.asked, ?_⟩
    simp only [LogicalFailure.range]
    omega
  · intro _ reqId member
    rw [same.load] at member
    obtain ⟨request, listed, unpinnable, _⟩ := (batch.requestIds reqId).mp member
    exact ⟨request, listed, unpinnable⟩

variable {errors : List ReadError}

section

variable {current worker : Worker Key Req} (step : InStep digest worker errors current)
include step

/-- A load failure adds one error to the step. -/
theorem InStep.mark (filled : current.load.keys ≠ [])
    (marked : current.load.markLoadFailure error = some next) :
    InStep digest worker (errors ++ [error]) { current with load := next } := by
  obtain ⟨same, ⟨failures, recorded, parts⟩, hits⟩ :=
    markLoadFailure_spec (step.reading.spanned filled) marked
  obtain ⟨aligned, order, spans⟩ := step.reading.filled filled
  have within : Within worker.AskedRange next.logicalFailures := by
    rw [recorded]
    refine step.within.foldl (fun _ _ _ => AskedRange.join) fun failure listed => ?_
    obtain ⟨span, member, ordinal, lower, upper⟩ := parts failure listed
    obtain ⟨request, account⟩ := spans span member
    rw [ordinal]
    refine ⟨request, account.listed, account.asked, ?_, ?_⟩
    · rw [← account.first]
      exact lower
    · rw [← account.first, ← account.count]
      exact upper.le
  have before := step.mono same (fun _ _ failing => recorded ▸ failing.foldl failures) within
    fun empty => absurd empty filled
  refine { before with hit := fun still raised listed span member offset inside concerns => ?_ }
  rcases mem_append.mp listed with old | new
  · exact before.hit still raised old span member offset inside concerns
  obtain rfl := mem_singleton.mp new
  rw [same.requestSpans] at member
  obtain ⟨request, account⟩ := spans span member
  have place := account.places aligned offset inside
  have hit := concerns.hits (nodup_readOrder _) place
  rw [order] at hit
  have bound := (List.getElem?_eq_some_iff.mp place).1
  rw [order] at bound
  exact hits span member offset inside bound hit

/-- An event adds the error that it reports. -/
theorem InStep.event {next : Worker Key Req} {event : StepEvent}
    (ran : current.onEvent event = some next) :
    InStep digest worker (errors ++ match event with
      | .readFailure error => [error]
      | .saveFailure => []) next := by
  cases event with
  | saveFailure =>
    cases ran
    rw [append_nil]
    have kept : InStep digest worker errors
        { current with load := { current.load with failed := true } } :=
      step.mono ⟨rfl, rfl, rfl, rfl, rfl, rfl⟩ (fun _ _ failing => failing) step.within fun _ => rfl
    exact { kept with }
  | readFailure error =>
    change current.onReadFailure error = some next at ran
    unfold onReadFailure at ran
    split at ran
    · rename_i empty
      cases ran
      exact step.ignore empty [error]
    · rename_i filled
      obtain ⟨load, marked, rfl⟩ := map_eq_some_iff.mp ran
      exact step.mark filled marked

variable {answers : WaitAnswers}

omit step in
omit [DecidableEq Key] in
/-- Draining the reads changes the failures only. -/
theorem drainReads_eq {worker drained : Worker Key Req}
    (ran : worker.drainReads answers = some drained) :
    ∃ load, drained = { worker with load } ∧ SameBatch worker.load load := by
  unfold drainReads at ran
  split at ran
  · cases ran
    exact ⟨worker.load, rfl, SameBatch.refl _⟩
  obtain ⟨checked, first, rest⟩ := bind_eq_some_iff.mp ran
  obtain ⟨last, second, rest⟩ := bind_eq_some_iff.mp rest
  cases rest
  exact ⟨last, rfl, (sameBatch_noteError first).trans (sameBatch_noteError second)⟩

omit step in
omit [DecidableEq Key] in
/-- So does installing the verdict. -/
theorem installConsensus_eq {worker installed : Worker Key Req} {consensus : FailureConsensus}
    (ran : worker.installConsensus consensus = some installed) :
    ∃ load, installed = { worker with load } ∧ SameBatch worker.load load := by
  obtain ⟨first, once, rest⟩ := bind_eq_some_iff.mp ran
  obtain ⟨last, twice, rest⟩ := bind_eq_some_iff.mp rest
  cases rest
  have before : SameBatch worker.load first := by
    split at once
    · exact (installLogicalFailures_spec once).1
    · cases once
      exact SameBatch.refl _
  have after := (installLogicalFailures_spec twice).1
  exact ⟨last, rfl, before.trans { after with }⟩

/-- What was raised, if anything, is added to the errors. -/
theorem InStep.note (filled : current.load.keys ≠ [])
    (noted : current.load.noteError raised = some next) :
    InStep digest worker (errors ++ raised.toList) { current with load := next } ∧
      next.keys ≠ [] := by
  cases raised with
  | none =>
    cases noted
    rw [toList_none, append_nil]
    exact ⟨step, filled⟩
  | some error =>
    have same := (markLoadFailure_spec (step.reading.spanned filled) noted).1
    refine ⟨step.mark filled noted, ?_⟩
    rw [same.keys]
    exact filled

/-- A drain adds what its two waits raise. -/
theorem InStep.drain {next : Worker Key Req} (ran : current.drainReads answers = some next) :
    InStep digest worker
      (errors ++ answers.requireComplete.toList ++ answers.waitIdle.toList) next := by
  unfold drainReads at ran
  split at ran
  · rename_i empty
    cases ran
    exact (step.ignore empty _).ignore empty _
  rename_i filled
  obtain ⟨checked, first, rest⟩ := bind_eq_some_iff.mp ran
  obtain ⟨drained, second, rest⟩ := bind_eq_some_iff.mp rest
  cases rest
  obtain ⟨middle, still⟩ := step.note filled first
  exact (middle.note still second).1

end

/-- The account of a step at the collective. -/
theorem inStep_drained {worker drained : Worker Key Req} {answers : StepAnswers Key}
    (ran : worker.drainStep digest answers = some drained) :
    InStep digest worker answers.readErrors drained := by
  obtain ⟨waiting, layers, drains⟩ := bind_eq_some_iff.mp ran
  obtain ⟨started, starts, events⟩ := bind_eq_some_iff.mp layers
  have run : ∀ {read : StepEvent → Option ReadError},
      (∀ error, read (.readFailure error) = some error) → read .saveFailure = none →
        ∀ (list : List StepEvent) {errors : List ReadError} {current next : Worker Key Req},
      InStep digest worker errors current → list.foldlM onEvent current = some next →
        InStep digest worker (errors ++ list.filterMap read) next := by
    intro read reads quiet list
    induction list with
    | nil =>
      intro errors current next step ran
      cases ran
      rw [filterMap_nil, append_nil]
      exact step
    | cons event list ih =>
      intro errors current next step ran
      obtain ⟨middle, happened, rest⟩ := bind_eq_some_iff.mp ran
      have after := ih (step.event happened) rest
      cases event with
      | saveFailure =>
        rw [append_nil] at after
        rw [filterMap_cons_none quiet]
        exact after
      | readFailure error =>
        rw [append_assoc] at after
        rw [filterMap_cons_some (reads error)]
        exact after
  exact (run (fun _ => rfl) rfl answers.events (inStep_started starts) events).drain drains

end Run

end Worker

end Tutti
