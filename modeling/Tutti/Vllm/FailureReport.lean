import Tutti.Vllm.LoadFailure

/-!
# The report of failed loads

After the ranks have compared their failures, a rank installs the verdict and vLLM
fetches the error sets. A chunk of the read batch that was not read, or that any rank
reports, is among them. A request that was reported in the loop of `start_load_kv`,
because its chunks are not all resident, is not: it has no span, so that its id is
gone when the sets are rebuilt from the spans.
-/

namespace Tutti

open Foundation List Option

variable {rows : List (List Int)} {row : List Int} {chunk : Int} {ordinal : Nat}

namespace FailureConsensus

/-- A row reports a chunk of a request as failed, in whatever slot. -/
def RowReports (row : List Int) (requestCount ordinal : Nat) (chunk : Int) : Prop :=
  ∃ slot < requestCount, rowField row slot 0 = ordinal ∧ 0 < rowField row slot 2 ∧
    rowField row slot 1 ≤ chunk ∧ chunk < rowField row slot 1 + rowField row slot 2

/-- The row of a rank reports what the rank has recorded. -/
theorem rowReports_failureRow {generation : Int} {requestCount : Nat}
    {failures : Nat → Option LogicalFailure} :
    RowReports (failureRow generation requestCount failures) requestCount ordinal chunk ↔
      ordinal < requestCount ∧ LoadState.Failing failures ordinal chunk := by
  constructor
  · rintro ⟨slot, inside, same, width, lower, upper⟩
    simp (disch := omega) only [rowField_failureRow generation failures inside]
      at same width lower upper
    cases found : failures slot with
    | none =>
      rw [found] at width
      exact absurd width (Int.lt_irrefl 0)
    | some failure =>
      rw [found] at same width lower upper
      obtain rfl : slot = ordinal := Int.ofNat_inj.mp same
      exact ⟨inside, failure, found, lower, upper⟩
  · rintro ⟨inside, failure, found, lower, upper⟩
    refine ⟨ordinal, inside, ?_⟩
    simp (disch := omega) only [rowField_failureRow generation failures inside, found]
    simp only [LogicalFailure.range] at lower upper
    refine ⟨rfl, ?_, lower, upper⟩
    change 0 < failure.affectedChunkCount
    omega

/-- What a row reports is in the failures of the verdict, or the verdict is
inconsistent. -/
theorem mergeRows_of_rowReports (generation : Int) {requestCount : Nat} (member : row ∈ rows)
    (reports : RowReports row requestCount ordinal chunk) :
    (mergeRows generation requestCount rows).failed = true ∧
      ((mergeRows generation requestCount rows).generationConsistent = false ∨
        ∃ failure ∈ (mergeRows generation requestCount rows).logicalFailures,
          failure.requestOrdinal = ordinal ∧ failure.range.1 ≤ chunk ∧
            chunk < failure.range.2) := by
  obtain ⟨slot, inside, same, width, lower, upper⟩ := reports
  by_cases placed : slot = ordinal
  · subst placed
    have report : rowReport row slot =
        some (rowField row slot 1, rowField row slot 1 + rowField row slot 2) :=
      if_pos ⟨same, width⟩
    have listed : (rowField row slot 1, rowField row slot 1 + rowField row slot 2) ∈
        rows.filterMap fun row => rowReport row slot :=
      mem_filterMap.mpr ⟨row, member, report⟩
    obtain ⟨covered, computed⟩ := ne_none_iff_exists'.mp (mt hull_eq_none.mp (ne_nil_of_mem listed))
    obtain ⟨left, right⟩ := (isHull_hull computed).covers _ listed
    have ends : covered.1 + (covered.2 - covered.1) = covered.2 := by omega
    refine ⟨failed_of_report generation member inside report, .inr
      ⟨⟨slot, covered.1, covered.2 - covered.1⟩, ?_, rfl, left.trans lower, ?_⟩⟩
    · refine (mem_logicalFailures generation requestCount rows).mpr ⟨inside, computed.trans ?_⟩
      exact congrArg some (Prod.ext rfl ends.symm)
    · exact lt_of_lt_of_le upper (right.trans_eq ends.symm)
  · have inconsistent :
        (mergeRows generation requestCount rows).generationConsistent = false := by
      refine Bool.eq_false_iff.mpr fun consistent => ?_
      have none := ((generationConsistent_iff generation requestCount rows).mp consistent).2
      refine none row member slot inside ⟨?_, width, ?_⟩
      · rw [same]
        exact Int.natCast_nonneg ordinal
      · rw [same]
        exact fun equal => placed (Int.ofNat_inj.mp equal).symm
    exact ⟨(failed_iff generation requestCount rows).mpr (.inr inconsistent), .inl inconsistent⟩

end FailureConsensus

namespace Worker

open LoadState FailureConsensus

variable {Key Req : Type} [DecidableEq Key] [DecidableEq Req] {digest : Key → List Nat → Key}

/-! ## Installing the verdict -/

variable {drained installed : Worker Key Req}

omit [DecidableEq Key] in
theorem installConsensus_spec {consensus : FailureConsensus}
    (external : drained.load.externalLoadStep = true)
    (ran : drained.installConsensus consensus = some installed) :
    SameBatch drained.load installed.load ∧ Rebuilt installed.load ∧
      (∀ ordinal chunk, Failing drained.load.logicalFailures ordinal chunk →
        Failing installed.load.logicalFailures ordinal chunk) ∧
      (∀ failure ∈ consensus.logicalFailures, ∀ chunk, failure.range.1 ≤ chunk →
        chunk < failure.range.2 →
          Failing installed.load.logicalFailures failure.requestOrdinal chunk) ∧
      (consensus.generationConsistent = false →
        ∀ span ∈ drained.load.requestSpans, ∀ offset < span.chunkCount,
          Failing installed.load.logicalFailures span.requestOrdinal
            (span.firstChunkOrdinal + offset : Nat)) := by
  obtain ⟨first, once, rest⟩ := bind_eq_some_iff.mp ran
  obtain ⟨last, twice, rest⟩ := bind_eq_some_iff.mp rest
  cases rest
  rw [if_pos external] at once
  obtain ⟨firstSame, firstRecorded, _⟩ := installLogicalFailures_spec once
  obtain ⟨lastSame, lastRecorded, rebuilt⟩ := installLogicalFailures_spec twice
  refine ⟨firstSame.trans { lastSame with }, rebuilt, ?_, ?_, ?_⟩
  · intro ordinal chunk failing
    rw [lastRecorded, firstRecorded]
    exact (failing.foldl _).foldl _
  · intro failure member chunk lower upper
    rw [lastRecorded, firstRecorded]
    exact (failing_foldl _ member lower upper).foldl _
  intro inconsistent span member offset inside
  rw [lastRecorded, if_pos (.inl inconsistent)]
  have listed : (⟨span.requestOrdinal, span.firstChunkOrdinal, span.chunkCount⟩ :
      LogicalFailure) ∈ drained.load.allLoadedRequestFailures :=
    mem_map.mpr ⟨span, member, rfl⟩
  refine failing_foldl _ listed ?_ ?_
  · simp only [LogicalFailure.range]
    omega
  · simp only [LogicalFailure.range]
    omega

omit [DecidableEq Key] [DecidableEq Req] in
/-- A rank that reports a chunk brings about a failed verdict. On a single rank the
only row is its own. -/
theorem failed_of_rowReports (external : drained.load.externalLoadStep = true)
    (alone : drained.tpSize ≤ 1 → rows = [drained.contributedRow]) (member : row ∈ rows)
    (reports : RowReports row drained.metadata.requests.length ordinal chunk) :
    (drained.loadConsensus (some rows)).1.failed = true ∧
      ((drained.loadConsensus (some rows)).1.generationConsistent = false ∨
        Failing drained.load.logicalFailures ordinal chunk ∨
        ∃ failure ∈ (drained.loadConsensus (some rows)).1.logicalFailures,
          failure.requestOrdinal = ordinal ∧ failure.range.1 ≤ chunk ∧
            chunk < failure.range.2) := by
  unfold loadConsensus
  rw [if_pos external]
  dsimp only
  unfold coordinate
  by_cases single : drained.tpSize ≤ 1
  · rw [alone single, mem_singleton] at member
    subst member
    obtain ⟨inside, failing⟩ := rowReports_failureRow.mp reports
    rw [if_pos single]
    refine ⟨?_, .inr (.inl failing)⟩
    obtain ⟨failure, found, _⟩ := failing
    refine decide_eq_true (ne_nil_of_mem (a := failure) ?_)
    exact mem_filterMap.mpr ⟨ordinal, mem_range.mpr inside, found⟩
  · rw [if_neg single]
    obtain ⟨failed, rest⟩ := mergeRows_of_rowReports drained.load.generation member reports
    exact ⟨failed, rest.imp_right .inr⟩

/-! ## What is to be reported -/

section Statement

variable (digest)

/-- A chunk of a request has a key that is resident on this rank. -/
def ChunkResident (worker : Worker Key Req) (request : ReqMeta Req) (chunk : Nat) : Prop :=
  ∃ key, (worker.engine.hashKeys digest request.tokenIds)[chunk]? = some key ∧
    key ∈ worker.engine.index.resident

/-- A chunk that the step asks this rank to load. -/
structure AskedChunk (worker : Worker Key Req) (ordinal : Nat) (request : ReqMeta Req)
    (chunk : Nat) : Prop where
  listed : worker.metadata.requests[ordinal]? = some request
  asked : worker.SyncLoad request
  lower : (worker.spanOf request).1 ≤ chunk
  upper : chunk < (worker.spanOf request).1 + (worker.spanOf request).2

/-- This rank has every chunk that the step asks it to load. -/
def HoldsLoads (worker : Worker Key Req) : Prop :=
  ∀ ordinal request chunk, worker.AskedChunk ordinal request chunk →
    worker.ChunkResident digest request chunk

/-- A chunk that was not read: its request could not be pinned, it has no key that is
resident, or an error of the read plan concerns it. -/
def Unread (worker : Worker Key Req) (answers : StepAnswers Key) (ordinal : Nat)
    (request : ReqMeta Req) (chunk : Nat) : Prop :=
  ¬ worker.Pinnable digest request ∨ ¬ worker.ChunkResident digest request chunk ∨
    ∃ error ∈ answers.readErrors,
      error.Concerns (worker.readOrder digest worker.metadata.requests) (ordinal, chunk)

/-- Some rank reports the chunk. -/
def RankReports (worker : Worker Key Req) (answers : StepAnswers Key) (ordinal chunk : Nat) :
    Prop :=
  ∃ rows, answers.wait.gathered = some rows ∧ ∃ row ∈ rows,
    RowReports row worker.metadata.requests.length ordinal chunk

/-- The gathered rows contain the row of this rank, and no other if it is alone. -/
def Gathers (worker : Worker Key Req) (answers : StepAnswers Key) : Prop :=
  ∀ drained rows, worker.drainStep digest answers = some drained →
    answers.wait.gathered = some rows →
      drained.contributedRow ∈ rows ∧ (drained.tpSize ≤ 1 → rows = [drained.contributedRow])

/-- After the step the error sets contain the blocks and the request of every chunk that
was not read or that a rank reports. -/
def ReportsFailures (worker : Worker Key Req) (answers : StepAnswers Key)
    (final : Worker Key Req) : Prop :=
  ∀ ordinal request chunk, worker.AskedChunk ordinal request chunk →
    worker.Unread digest answers ordinal request chunk ∨
        worker.RankReports answers ordinal chunk →
      (∀ block ∈ worker.chunkTable request chunk, block ∈ final.getBlockIdsWithLoadErrors.1) ∧
        request.reqId ∈ final.getRequestIdsWithLoadErrors.1

end Statement

variable {worker : Worker Key Req} {request : ReqMeta Req}

section Chunks

omit [DecidableEq Key] [DecidableEq Req]

theorem getElem?_spanKeys (worker : Worker Key Req) (request : ReqMeta Req) {chunk : Nat}
    (lower : (worker.spanOf request).1 ≤ chunk)
    (upper : chunk < (worker.spanOf request).1 + (worker.spanOf request).2) :
    (worker.spanKeys digest request)[chunk - (worker.spanOf request).1]? =
      (worker.engine.hashKeys digest request.tokenIds)[chunk]? := by
  unfold spanKeys
  rw [getElem?_take, if_pos (by omega), getElem?_drop, Nat.add_sub_cancel' lower]

/-- A request whose chunks are all resident can be pinned and has all its keys. -/
theorem pinnable_of_chunkResident (resident : ∀ chunk, (worker.spanOf request).1 ≤ chunk →
      chunk < (worker.spanOf request).1 + (worker.spanOf request).2 →
        worker.ChunkResident digest request chunk) :
    worker.Pinnable digest request ∧
      (worker.spanKeys digest request).length = (worker.spanOf request).2 := by
  have bound := worker.length_spanKeys_le digest request
  constructor
  · intro key member
    obtain ⟨offset, found⟩ := mem_iff_getElem?.mp member
    have inside := (List.getElem?_eq_some_iff.mp found).1
    obtain ⟨other, same, held⟩ := resident ((worker.spanOf request).1 + offset)
      (Nat.le_add_right _ _) (by omega)
    rw [← worker.getElem?_spanKeys request (Nat.le_add_right _ _) (by omega),
      Nat.add_sub_cancel_left, found] at same
    cases same
    exact held
  · refine le_antisymm bound (Nat.le_of_not_lt fun short => ?_)
    obtain ⟨key, found, _⟩ := resident
      ((worker.spanOf request).1 + (worker.spanKeys digest request).length)
      (Nat.le_add_right _ _) (Nat.add_lt_add_left short _)
    rw [← worker.getElem?_spanKeys request (Nat.le_add_right _ _) (Nat.add_lt_add_left short _),
      Nat.add_sub_cancel_left, getElem?_eq_none (Nat.le_refl _)] at found
    cases found

theorem chunkResident_of_pinnable (complete : worker.Pinnable digest request)
    (full : (worker.spanKeys digest request).length = (worker.spanOf request).2) {chunk : Nat}
    (lower : (worker.spanOf request).1 ≤ chunk)
    (upper : chunk < (worker.spanOf request).1 + (worker.spanOf request).2) :
    worker.ChunkResident digest request chunk := by
  have inside : chunk - (worker.spanOf request).1 < (worker.spanKeys digest request).length := by
    omega
  refine ⟨_, ?_, complete _ (getElem_mem inside)⟩
  rw [← worker.getElem?_spanKeys request lower upper]
  exact getElem?_eq_getElem inside

end Chunks

/-! ## The end of a step -/

variable {answers : StepAnswers Key}

theorem loadStep_some {final : Worker Key Req} (ran : worker.loadStep digest answers = some final) :
    ∃ drained, worker.drainStep digest answers = some drained ∧
      ((drained.loadConsensus answers.wait.gathered).2 = false ∧
          (drained.loadConsensus answers.wait.gathered).1.failed = true ∧
          (∃ installed,
            drained.installConsensus (drained.loadConsensus answers.wait.gathered).1 =
                some installed ∧ SameErrors installed final) ∨
        (drained.loadConsensus answers.wait.gathered).1.failed = false ∧
          SameErrors drained final) := by
  obtain ⟨waiting, layers, rest⟩ := bind_eq_some_iff.mp ran
  dsimp only at rest
  split at rest
  · rename_i returned
    cases rest
    obtain ⟨drained, drains, outcome⟩ := waitForSave_returned returned
    refine ⟨drained, bind_eq_some_iff.mpr ⟨waiting, layers, drains⟩, ?_⟩
    refine outcome.imp ?_ ?_
    · rintro ⟨poisoned, failed, installed, installs, final⟩
      exact ⟨poisoned, failed, installed, installs, final ▸ sameErrors_settle installed false⟩
    · rintro ⟨passed, final⟩
      exact ⟨passed, final ▸ sameErrors_settle drained true⟩
  · cases rest

omit [DecidableEq Key] [DecidableEq Req] in
theorem externalLoadStep_of_asked (listed : request ∈ worker.metadata.requests)
    (asked : worker.SyncLoad request) :
    externalLoadStep worker.metadata.requests = true := by
  refine any_eq_true.mpr ⟨request, listed, ?_⟩
  rw [asked.sync, Bool.not_false, Bool.and_true, decide_eq_true_eq]
  exact asked.tokens

omit [DecidableEq Key] [DecidableEq Req] in
/-- A step with synchronous loads that ends normally has gathered the rows. -/
theorem gathered_of_settled {gathered : Option (List (List Int))}
    (external : drained.load.externalLoadStep = true)
    (outcome : (drained.loadConsensus gathered).2 = false ∨
      (drained.loadConsensus gathered).1.failed = false) : ∃ rows, gathered = some rows := by
  cases gathered with
  | some rows => exact ⟨rows, rfl⟩
  | none =>
    unfold loadConsensus at outcome
    rw [if_pos external] at outcome
    rcases outcome with poisoned | failed
    · cases poisoned
    · cases failed

section

variable {drained worker : Worker Key Req} {errors : List ReadError}
  (step : InStep digest worker errors drained)
include step

variable {request : ReqMeta Req}

/-- A chunk of the read batch that some row reports is in the rebuilt error sets. -/
theorem reported_of_installed (filled : drained.load.keys ≠ [])
    (external : drained.load.externalLoadStep = true)
    (alone : drained.tpSize ≤ 1 → rows = [drained.contributedRow])
    (ran : drained.installConsensus (drained.loadConsensus (some rows)).1 = some installed)
    {span : LoadRequestSpan Req} (member : span ∈ drained.load.requestSpans) {offset : Nat}
    (inside : offset < span.chunkCount) (gathered : row ∈ rows)
    (reports : RowReports row drained.metadata.requests.length span.requestOrdinal
      (span.firstChunkOrdinal + offset : Nat))
    (listed : worker.metadata.requests[span.requestOrdinal]? = some request) :
    request.reqId ∈ installed.load.errorRequestIds ∧
      ∀ block ∈ worker.chunkTable request (span.firstChunkOrdinal + offset),
        block ∈ installed.load.errorBlocks := by
  obtain ⟨same, rebuilt, grows, verdict, all⟩ := installConsensus_spec external ran
  have failing : Failing installed.load.logicalFailures span.requestOrdinal
      (span.firstChunkOrdinal + offset : Nat) := by
    rcases (failed_of_rowReports external alone gathered reports).2 with
      inconsistent | own | ⟨failure, found, ordinal, lower, upper⟩
    · exact all inconsistent span member offset inside
    · exact grows _ _ own
    · rw [← ordinal]
      exact verdict failure found _ lower upper
  obtain ⟨aligned, _, spans⟩ := step.reading.filled filled
  obtain ⟨owner, account⟩ := spans span member
  cases account.listed.symm.trans listed
  obtain ⟨ids, table, found, blocks⟩ :=
    rebuilt.reported span (same.requestSpans.symm ▸ member) offset inside failing
  rw [same.blockTables, account.tables aligned offset inside] at found
  cases found
  exact ⟨account.reqId ▸ ids, blocks⟩

omit [DecidableEq Req] in
/-- The rebuilt error sets name a request only if this rank has all its chunks. -/
theorem InStep.full_of_mem {load : LoadState Key Req} (same : SameBatch drained.load load)
    (rebuilt : Rebuilt load) (listed : request ∈ worker.metadata.requests)
    (unique : (worker.metadata.requests.map ReqMeta.reqId).Nodup)
    (member : request.reqId ∈ load.errorRequestIds) :
    worker.Pinnable digest request ∧
      (worker.spanKeys digest request).length = (worker.spanOf request).2 := by
  obtain ⟨tables, span, found, named⟩ := rebuilt.origin _ member
  rw [same.requestSpans] at found
  rw [same.blockTables] at tables
  obtain ⟨aligned, _, spans⟩ := step.reading.filled fun empty => tables (step.reading.empty empty)
  obtain ⟨owner, account⟩ := spans span found
  have identity : owner = request :=
    inj_on_of_nodup_map unique (mem_of_getElem? account.listed) listed
      (account.reqId.symm.trans named)
  subst identity
  exact ⟨account.complete, (account.full aligned).trans account.count⟩

omit [DecidableEq Req] in
/-- A request that was reported in the loop brings about a failed verdict. -/
theorem InStep.failed_of_unpinnable (own : drained.contributedRow ∈ rows)
    (alone : drained.tpSize ≤ 1 → rows = [drained.contributedRow])
    (listed : request ∈ worker.metadata.requests) (unpinnable : worker.Unpinnable digest request) :
    (drained.loadConsensus (some rows)).1.failed = true := by
  obtain ⟨ordinal, found⟩ := mem_iff_getElem?.mp listed
  have failing := step.recorded ordinal request found unpinnable _ (le_refl _)
    (Nat.lt_add_of_pos_right unpinnable.asked.chunks)
  have inside := (List.getElem?_eq_some_iff.mp found).1
  rw [← step.metadata] at inside
  have external := step.external.trans (externalLoadStep_of_asked listed unpinnable.asked)
  exact (failed_of_rowReports external alone own
    (rowReports_failureRow.mpr ⟨inside, failing⟩)).1

end

/-! ## When all failures are reported -/

section Settled

variable {worker final : Worker Key Req} {answers : StepAnswers Key}

section

variable (gathers : worker.Gathers digest answers)
  (settled : worker.loadStep digest answers = some final)
include gathers settled

/-- A step that reads anything for this rank gathers the rows, and its own among them. -/
theorem rows_of_asked {chunk : Nat}
    (asked : worker.AskedChunk ordinal request chunk) :
    ∃ drained rows, InStep digest worker answers.readErrors drained ∧
      answers.wait.gathered = some rows ∧ drained.load.externalLoadStep = true ∧
      drained.contributedRow ∈ rows ∧ (drained.tpSize ≤ 1 → rows = [drained.contributedRow]) ∧
      ((∃ installed,
          drained.installConsensus (drained.loadConsensus (some rows)).1 = some installed ∧
            SameErrors installed final) ∨
        (drained.loadConsensus (some rows)).1.failed = false ∧ SameErrors drained final) := by
  obtain ⟨drained, drains, outcome⟩ := loadStep_some settled
  have step := inStep_drained drains
  have external := step.external.trans
    (externalLoadStep_of_asked (mem_of_getElem? asked.listed) asked.asked)
  obtain ⟨rows, rowsEq⟩ := gathered_of_settled external (outcome.imp And.left And.left)
  obtain ⟨own, alone⟩ := gathers drained rows drains rowsEq
  rw [rowsEq] at outcome
  exact ⟨drained, rows, step, rowsEq, external, own, alone,
    outcome.imp_left fun ⟨_, _, rest⟩ => rest⟩

/-- Where all failures are reported, every chunk asked for is resident: a request that is
named in the end was in the read batch. -/
theorem holdsLoads_of_reports (unique : (worker.metadata.requests.map ReqMeta.reqId).Nodup)
    (reports : worker.ReportsFailures digest answers final) : worker.HoldsLoads digest := by
  intro ordinal request chunk asked
  have listed := mem_of_getElem? asked.listed
  obtain ⟨drained, rows, step, _, external, own, alone, outcome⟩ :=
    rows_of_asked gathers settled asked
  by_contra absent
  have named : request.reqId ∈ final.load.errorRequestIds :=
    (reports ordinal request chunk asked (.inl (.inr (.inl absent)))).2
  rcases outcome with ⟨installed, installs, same⟩ | ⟨passed, same⟩
  · obtain ⟨batch, rebuilt, _⟩ := installConsensus_spec external installs
    rw [same.ids] at named
    obtain ⟨complete, full⟩ := step.full_of_mem batch rebuilt listed unique named
    exact absent (chunkResident_of_pinnable complete full asked.lower asked.upper)
  -- Nothing was reported in the loop, so the request is in the read batch.
  have none : ∀ other ∈ worker.metadata.requests, ¬ worker.Unpinnable digest other := by
    intro other member unpinnable
    exact nomatch (step.failed_of_unpinnable own alone member unpinnable).symm.trans passed
  by_cases empty : drained.load.keys = []
  · rw [same.ids] at named
    obtain ⟨other, member, unpinnable⟩ := step.idle empty _ named
    exact none other member unpinnable
  have complete : worker.Pinnable digest request := by
    by_contra refused
    exact none request listed ⟨asked.asked, refused⟩
  obtain ⟨span, member, here, _⟩ :=
    step.reading.listed ordinal request asked.listed asked.asked complete
  obtain ⟨aligned, _, spans⟩ := step.reading.filled empty
  obtain ⟨owner, account⟩ := spans span member
  rw [← here] at asked
  cases account.listed.symm.trans asked.listed
  exact absent (chunkResident_of_pinnable complete
    ((account.full aligned).trans account.count) asked.lower asked.upper)

/-- A rank that has all chunks asked for reports every failure. -/
theorem reports_of_holdsLoads (holds : worker.HoldsLoads digest) :
    worker.ReportsFailures digest answers final := by
  intro ordinal request chunk asked failed
  obtain ⟨drained, rows, step, rowsEq, external, own, alone, outcome⟩ :=
    rows_of_asked gathers settled asked
  obtain ⟨complete, full⟩ := pinnable_of_chunkResident fun other lower upper =>
    holds ordinal request other ⟨asked.listed, asked.asked, lower, upper⟩
  -- The request is in the read batch, where the chunk has its place.
  obtain ⟨span, member, rfl, keys⟩ :=
    step.reading.listed ordinal request asked.listed asked.asked complete
  have filled : drained.load.keys ≠ [] := by
    intro empty
    rw [empty] at keys
    rw [subset_nil.mp keys] at full
    exact absurd full asked.asked.chunks.ne
  obtain ⟨_, _, spans⟩ := step.reading.filled filled
  obtain ⟨owner, account⟩ := spans span member
  cases account.listed.symm.trans asked.listed
  obtain ⟨offset, rfl⟩ := Nat.exists_eq_add_of_le asked.lower
  have inside : offset < span.chunkCount := by
    rw [account.count]
    exact Nat.lt_of_add_lt_add_left asked.upper
  rw [← account.first] at failed asked ⊢
  have reports : ∃ row ∈ rows, RowReports row drained.metadata.requests.length
      span.requestOrdinal (span.firstChunkOrdinal + offset : Nat) := by
    rcases failed with (refused | absent | ⟨error, raised, concerns⟩) | ⟨others, same, reported⟩
    · exact absurd complete refused
    · exact absurd (holds _ _ _ asked) absent
    · have failing := step.hit filled error raised span member offset inside concerns
      have bound := (List.getElem?_eq_some_iff.mp asked.listed).1
      rw [← step.metadata] at bound
      exact ⟨_, own, rowReports_failureRow.mpr ⟨bound, failing⟩⟩
    · cases rowsEq.symm.trans same
      rw [step.metadata]
      exact reported
  obtain ⟨row, listed, reported⟩ := reports
  rcases outcome with ⟨installed, installs, same⟩ | ⟨passed, _⟩
  · obtain ⟨ids, blocks⟩ := reported_of_installed step filled external alone installs member
      inside listed reported asked.listed
    refine ⟨fun block inTable => Finset.mem_union_left _ ?_, ?_⟩
    · rw [same.blocks]
      exact blocks block inTable
    change _ ∈ final.load.errorRequestIds
    rw [same.ids]
    exact ids
  · exact nomatch (failed_of_rowReports external alone listed reported).1.symm.trans passed

end

/-- Every failed load of a step is reported exactly when the rank has all chunks that the
step asks it to load. -/
theorem reportsFailures_iff (digest : Key → List Nat → Key)
    (unique : (worker.metadata.requests.map ReqMeta.reqId).Nodup)
    (gathers : worker.Gathers digest answers)
    (settled : worker.loadStep digest answers = some final) :
    worker.ReportsFailures digest answers final ↔ worker.HoldsLoads digest :=
  ⟨holdsLoads_of_reports gathers settled unique, reports_of_holdsLoads gathers settled⟩

end Settled

/-- A rank that is asked to load two chunks of one request, with the given keys resident. -/
def twoChunkRank (resident : List Nat) : Worker Nat Nat :=
  (fresh .small 4 1
    (KVEngine.fresh (ChunkIndex.small.restore resident))).setMetadata
    ⟨[⟨7, range 9, [0, 1, 2, 3], 8, 0, 0, 0, [], false⟩], []⟩

/-- A step on a single rank whose read plan may raise at the end. -/
def soloStep (raised : Option ReadError) (row : List Int) : StepAnswers Nat :=
  ⟨⟨none, none, true, true, true, fun _ => true⟩, [],
    ⟨raised, none, false, false, some [row], false, true⟩⟩

theorem gathers_of_row (rows : answers.wait.gathered = some [row])
    (own : (worker.drainStep digest answers).map contributedRow = some row) :
    worker.Gathers digest answers := by
  intro drained gathered drains same
  rw [drains] at own
  cases own
  cases rows.symm.trans same
  exact ⟨mem_singleton_self _, fun _ => rfl⟩

theorem reportsFailures_iff_secondChunk :
    ∃ final, (twoChunkRank [1, 2]).loadStep countKey
        (soloStep (some (.gate false [1])) [1, 0, 1, 1]) = some final ∧
      (twoChunkRank [1, 2]).ReportsFailures countKey
        (soloStep (some (.gate false [1])) [1, 0, 1, 1]) final := by
  obtain ⟨final, settled⟩ := isSome_iff_exists.mp (by decide +kernel :
    ((twoChunkRank [1, 2]).loadStep countKey
      (soloStep (some (.gate false [1])) [1, 0, 1, 1])).isSome = true)
  refine ⟨final, settled, (reportsFailures_iff countKey (by decide)
    (gathers_of_row rfl (by decide +kernel)) settled).mpr ?_⟩
  rintro ordinal request chunk ⟨listed, _, _, upper⟩
  match ordinal, listed with
  | 0, listed =>
    cases listed
    have bound : chunk < 2 := upper
    match chunk, bound with
    | 0, _ => exact ⟨1, by decide, by decide⟩
    | 1, _ => exact ⟨2, by decide, by decide⟩

/-- With the second chunk missing the step ends normally, and the request is not named. -/
theorem missingChunk_unreported :
    (twoChunkRank [1]).Gathers countKey (soloStep none [1, 0, 0, 2]) ∧
      ∃ final, (twoChunkRank [1]).loadStep countKey (soloStep none [1, 0, 0, 2]) = some final ∧
        final.getRequestIdsWithLoadErrors.1 = ∅ ∧
        ¬ (twoChunkRank [1]).ReportsFailures countKey (soloStep none [1, 0, 0, 2]) final := by
  refine ⟨gathers_of_row rfl (by decide +kernel), ?_⟩
  have ended : ((twoChunkRank [1]).loadStep countKey (soloStep none [1, 0, 0, 2])).map
      (fun final => final.getRequestIdsWithLoadErrors.1) = some ∅ := by decide +kernel
  obtain ⟨final, settled, empty⟩ := map_eq_some_iff.mp ended
  refine ⟨final, settled, empty, fun reports => ?_⟩
  have asked : (twoChunkRank [1]).AskedChunk 0
      ⟨7, range 9, [0, 1, 2, 3], 8, 0, 0, 0, [], false⟩ 0 :=
    ⟨rfl, by decide, by decide, by decide⟩
  have named := (reports 0 _ 0 asked (.inl (.inl (by decide)))).2
  rw [empty] at named
  exact absurd named (Finset.notMem_empty _)

end Worker

end Tutti
