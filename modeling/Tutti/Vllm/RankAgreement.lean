import Tutti.Vllm.FailureReport
import Mathlib.Data.List.Forall2

/-!
# The ranks agree on failed loads

Every rank merges the same rows, each against its own generation. Either all ranks
find a failure or none does; with one generation they find the same failures, the
smallest ranges that cover what was reported; and after a report or with two
generations no rank confirms its saves.
-/

namespace Tutti

open Foundation List Worker

namespace FailureConsensus

/-- The rows of ranks with the given generations and lists of failures. -/
def gatheredRows (requestCount : Nat) (ranks : List (Int × List LogicalFailure)) :
    List (List Int) :=
  ranks.map fun rank => failureRow rank.1 requestCount (failureTable rank.2)

/-- The ranges that the ranks report for a request. -/
def reportedRanges (ranks : List (Int × List LogicalFailure)) (ordinal : Nat) :
    List (Int × Int) :=
  ranks.filterMap fun rank =>
    ((failureTable rank.2 ordinal).filter fun failure => 0 < failure.affectedChunkCount).map
      LogicalFailure.range

variable {requestCount : Nat}

theorem filterMap_rowReport {ordinal : Nat} (inside : ordinal < requestCount)
    (ranks : List (Int × List LogicalFailure)) :
    (gatheredRows requestCount ranks).filterMap (fun row => rowReport row ordinal) =
      reportedRanges ranks ordinal := by
  unfold gatheredRows
  rw [filterMap_map]
  refine filterMap_congr fun rank _ => ?_
  exact rowReport_failureRow rank.1 (failureTable rank.2) inside

variable {ranks : List (Int × List LogicalFailure)}

/-- The failures of the verdict: for each request with a report the smallest range that
covers the reports. -/
theorem mem_logicalFailures_gathered {generation : Int} {failure : LogicalFailure} :
    failure ∈
        (mergeRows generation requestCount (gatheredRows requestCount ranks)).logicalFailures ↔
      failure.requestOrdinal < requestCount ∧
        reportedRanges ranks failure.requestOrdinal ≠ [] ∧
          IsHull (reportedRanges ranks failure.requestOrdinal) failure.range := by
  rw [mem_logicalFailures]
  refine and_congr_right fun inside => ?_
  rw [filterMap_rowReport inside, hull_eq_some_iff]

/-- On every rank the verdict is a failure exactly if somebody reports one or the
generations of the rows differ. -/
theorem failed_gatheredRows {rank : Int × List LogicalFailure} (member : rank ∈ ranks) :
    (mergeRows rank.1 requestCount (gatheredRows requestCount ranks)).failed = true ↔
      (∃ ordinal < requestCount, reportedRanges ranks ordinal ≠ []) ∨
        ∃ first ∈ ranks, ∃ second ∈ ranks, first.1 ≠ second.1 := by
  constructor
  · intro failed
    rcases (failed_iff _ _ _).mp failed with ⟨failure, listed⟩ | inconsistent
    · obtain ⟨inside, reported, _⟩ := mem_logicalFailures_gathered.mp listed
      exact .inl ⟨failure.requestOrdinal, inside, reported⟩
    refine .inr ⟨rank, member, ?_⟩
    by_contra same
    refine absurd ((generationConsistent_iff _ _ _).mpr ⟨sameGeneration_iff.mpr ⟨?_, ?_⟩, ?_⟩)
      (Bool.eq_false_iff.mp inconsistent)
    · exact ne_nil_of_mem (mem_map_of_mem member)
    · intro row listed
      obtain ⟨other, otherMember, rfl⟩ := mem_map.mp listed
      by_contra different
      exact same ⟨other, otherMember, fun equal => different equal.symm⟩
    · intro row listed slot inside
      obtain ⟨other, _, rfl⟩ := mem_map.mp listed
      exact not_misplaced_failureRow other.1 (failureTable other.2) inside
  · rintro (⟨ordinal, inside, reported⟩ | ⟨first, firstMember, second, secondMember, different⟩)
    · obtain ⟨covered, computed⟩ := Option.ne_none_iff_exists'.mp (mt hull_eq_none.mp reported)
      have ends : covered.1 + (covered.2 - covered.1) = covered.2 := by omega
      refine (failed_iff _ _ _).mpr (.inl ⟨⟨ordinal, covered.1, covered.2 - covered.1⟩, ?_⟩)
      refine mem_logicalFailures_gathered.mpr ⟨inside, reported, ?_⟩
      have range : LogicalFailure.range ⟨ordinal, covered.1, covered.2 - covered.1⟩ = covered :=
        Prod.ext rfl ends
      rw [range]
      exact isHull_hull computed
    · by_cases same : first.1 = rank.1
      · refine failed_of_generation requestCount (mem_map_of_mem secondMember) ?_
        exact fun equal => different (same.trans equal.symm)
      · exact failed_of_generation requestCount (mem_map_of_mem firstMember) same

end FailureConsensus

/-! ## The ranks of a group settle a step -/

open FailureConsensus

/-- The row that a rank contributes after it has drained its reads. -/
def Worker.Contributes {Key Req : Type} [DecidableEq Req]
    (rank : Worker Key Req × WaitAnswers) (row : List Int) : Prop :=
  ∃ drained, rank.1.drainReads rank.2 = some drained ∧ row = drained.contributedRow

/-- The ranks of a group at `wait_for_save` in a step with synchronous loads. A
collective that succeeds has gathered the rows of all ranks in order. -/
structure RankGroup (Key Req : Type) [DecidableEq Req] where
  ranks : List (Worker Key Req × WaitAnswers)
  requestCount : Nat
  external : ∀ rank ∈ ranks, rank.1.load.externalLoadStep = true
  requests : ∀ rank ∈ ranks, rank.1.metadata.requests.length = requestCount
  tpSize : ∀ rank ∈ ranks, rank.1.tpSize = ranks.length
  gathered : ∀ rank ∈ ranks, ∀ rows, rank.2.gathered = some rows →
    List.Forall₂ Worker.Contributes ranks rows

namespace RankGroup

variable {Key Req : Type} [DecidableEq Req]

/-- A rank of the group reports a chunk as failed, or two ranks are in different
generations. -/
def Disturbed (group : RankGroup Key Req) : Prop :=
  (∃ rank ∈ group.ranks, ∃ row, Worker.Contributes rank row ∧
    ∃ ordinal chunk, RowReports row group.requestCount ordinal chunk) ∨
  ∃ first ∈ group.ranks, ∃ second ∈ group.ranks,
    first.1.load.generation ≠ second.1.load.generation

theorem drainReads_same {worker drained : Worker Key Req} {answers : WaitAnswers}
    (ran : worker.drainReads answers = some drained) :
    drained.metadata = worker.metadata ∧ drained.tpSize = worker.tpSize ∧
      LoadState.SameBatch worker.load drained.load := by
  obtain ⟨load, rfl, same⟩ := drainReads_eq ran
  exact ⟨rfl, rfl, same⟩

variable {rank : Worker Key Req × WaitAnswers}

theorem getD_contributedRow {row : List Int} (contributes : Worker.Contributes rank row) :
    row.getD 0 0 = rank.1.load.generation := by
  obtain ⟨drained, ran, rfl⟩ := contributes
  exact congrArg Int.ofNat (drainReads_same ran).2.2.generation

variable {rows : List (List Int)}

/-- The row of a rank is among the gathered ones. -/
theorem mem_of_contributes {ranks : List (Worker Key Req × WaitAnswers)}
    (all : List.Forall₂ Worker.Contributes ranks rows) (member : rank ∈ ranks) {row : List Int}
    (contributes : Worker.Contributes rank row) :
    row ∈ rows := by
  induction all with
  | nil => cases member
  | cons head _ ih =>
    rcases mem_cons.mp member with rfl | rest
    · obtain ⟨drained, ran, rfl⟩ := contributes
      obtain ⟨other, same, rfl⟩ := head
      cases ran.symm.trans same
      exact .head _
    · exact .tail _ (ih rest)

variable {group : RankGroup Key Req}

/-- A rank with the row of a generation of its own finds a failure. -/
theorem failed_of_two_generations (member : rank ∈ group.ranks) {drained : Worker Key Req}
    (drains : rank.1.drainReads rank.2 = some drained) (gathered : rank.2.gathered = some rows)
    {first second : Worker Key Req × WaitAnswers} (left : first ∈ group.ranks)
    (right : second ∈ group.ranks)
    (different : first.1.load.generation ≠ second.1.load.generation) :
    (drained.loadConsensus (some rows)).1.failed = true := by
  have all := group.gathered rank member rows gathered
  obtain ⟨_, tpSize, same⟩ := drainReads_same drains
  have several : ¬ drained.tpSize ≤ 1 := by
    rw [tpSize, group.tpSize rank member]
    intro single
    obtain ⟨only, listed⟩ := length_eq_one_iff.mp (le_antisymm single (length_pos_of_mem member))
    rw [listed, mem_singleton] at left right
    exact different (by rw [left, right])
  -- One of the two generations is not that of this rank.
  have outsider : ∃ other ∈ group.ranks,
      (other.1.load.generation : Int) ≠ drained.load.generation := by
    by_cases equal : (first.1.load.generation : Int) = drained.load.generation
    · exact ⟨second, right, fun also => different (Int.ofNat_inj.mp (equal.trans also.symm))⟩
    · exact ⟨first, left, equal⟩
  obtain ⟨other, listed, foreign⟩ := outsider
  have contributed : ∃ row ∈ rows, Worker.Contributes other row := by
    obtain ⟨place, bound, rfl⟩ := mem_iff_getElem.mp listed
    have inside : place < rows.length := all.length_eq ▸ bound
    exact ⟨rows[place], getElem_mem inside, all.get bound inside⟩
  obtain ⟨row, here, contributes⟩ := contributed
  unfold loadConsensus
  rw [if_pos (same.external.trans (group.external rank member))]
  dsimp only
  unfold coordinate
  rw [if_neg several]
  refine failed_of_generation _ here ?_
  rw [getD_contributedRow contributes]
  exact foreign

variable [DecidableEq Key]

/-- In a group with a report or with two generations no rank confirms its saves. -/
theorem Disturbed.confirmed (disturbed : group.Disturbed) (member : rank ∈ group.ranks) :
    ∀ call ∈ (rank.1.waitForSave rank.2).confirmed, call.2 = false := by
  cases drains : rank.1.drainReads rank.2 with
  | none =>
    unfold waitForSave
    rw [drains]
    exact nofun
  | some drained =>
    obtain ⟨metadata, tpSize, same⟩ := drainReads_same drains
    have external := same.external.trans (group.external rank member)
    refine confirmed_of_failed drains ?_
    cases gathered : rank.2.gathered with
    | none =>
      unfold loadConsensus
      rw [if_pos external]
    | some rows =>
      have all := group.gathered rank member rows gathered
      have own := mem_of_contributes all member ⟨drained, drains, rfl⟩
      rcases disturbed with ⟨reporter, listed, row, contributes, ordinal, chunk, reports⟩ |
        ⟨first, left, second, right, different⟩
      · rw [← group.requests rank member, ← metadata] at reports
        refine (failed_of_rowReports external (fun single => ?_)
          (mem_of_contributes all listed contributes) reports).1
        rw [tpSize, group.tpSize rank member, all.length_eq] at single
        obtain ⟨only, rfl⟩ := length_eq_one_iff.mp (le_antisymm single (length_pos_of_mem own))
        rw [mem_singleton.mp own]
      · exact failed_of_two_generations member drains gathered left right different

/-- The verdict is unanimous, it does not depend on the order of the rows and covers the
reports as tightly as a range can, and it is conservative. -/
theorem consensus_unanimous_conservative :
    (∀ (requestCount : Nat) (ranks : List (Int × List LogicalFailure)),
      ∀ first ∈ ranks, ∀ second ∈ ranks,
        (mergeRows first.1 requestCount (gatheredRows requestCount ranks)).failed =
          (mergeRows second.1 requestCount (gatheredRows requestCount ranks)).failed) ∧
    (∀ (requestCount : Nat) (ranks : List (Int × List LogicalFailure)),
      (∀ first ∈ ranks, ∀ second ∈ ranks, first.1 = second.1) →
        ∀ first ∈ ranks, ∀ second ∈ ranks,
          (mergeRows first.1 requestCount (gatheredRows requestCount ranks)).logicalFailures =
            (mergeRows second.1 requestCount (gatheredRows requestCount ranks)).logicalFailures ∧
          (∀ rows, rows.Perm (gatheredRows requestCount ranks) →
            mergeRows first.1 requestCount rows =
              mergeRows first.1 requestCount (gatheredRows requestCount ranks)) ∧
          ∀ failure : LogicalFailure,
            failure ∈ (mergeRows first.1 requestCount
                (gatheredRows requestCount ranks)).logicalFailures ↔
              failure.requestOrdinal < requestCount ∧
                reportedRanges ranks failure.requestOrdinal ≠ [] ∧
                  IsHull (reportedRanges ranks failure.requestOrdinal) failure.range) ∧
    ∀ group : RankGroup Key Req, group.Disturbed →
      ∀ rank ∈ group.ranks, ∀ call ∈ (rank.1.waitForSave rank.2).confirmed, call.2 = false := by
  refine ⟨fun requestCount ranks first left second right => ?_,
    fun requestCount ranks _ first _ second _ => ⟨?_, ?_, ?_⟩,
    fun group disturbed rank member => disturbed.confirmed member⟩
  · rw [Bool.eq_iff_iff, failed_gatheredRows left, failed_gatheredRows right]
  · exact logicalFailures_perm _ _ _ (.refl _)
  · exact fun rows same => mergeRows_perm _ _ same
  · exact fun failure => mem_logicalFailures_gathered

/-- A rank that has written a chunk and waits in the given generation. -/
def waitingRank (generation : Nat) : Worker Nat Nat × WaitAnswers :=
  ({ Worker.fresh .small 4 2
      (KVEngine.fresh .small) with
      load := ⟨false, [], [], fun _ => none, [], ∅, ∅, generation, true, false⟩
      save := ⟨true, [5], [[0, 1]], false⟩ },
    ⟨none, none, false, false, some [[1], [2]], false, true⟩)

/-- Two ranks whose generations differ. -/
def twoGenerations : RankGroup Nat Nat where
  ranks := [waitingRank 1, waitingRank 2]
  requestCount := 0
  external := by simp [waitingRank]
  requests := by simp [waitingRank, Worker.fresh]
  tpSize := by simp [waitingRank, Worker.fresh]
  gathered := by
    intro rank member rows gathered
    have all : List.Forall₂ Worker.Contributes [waitingRank 1, waitingRank 2] [[1], [2]] :=
      .cons ⟨_, rfl, rfl⟩ (.cons ⟨_, rfl, rfl⟩ .nil)
    simp only [mem_cons, not_mem_nil, or_false] at member
    rcases member with rfl | rfl <;> cases gathered <;> exact all

theorem consensus_twoGenerations :
    ∀ rank ∈ twoGenerations.ranks, (rank.1.waitForSave rank.2).confirmed ≠ [] ∧
      ∀ call ∈ (rank.1.waitForSave rank.2).confirmed, call.2 = false := by
  have disturbed : twoGenerations.Disturbed :=
    .inr ⟨waitingRank 1, .head _, waitingRank 2, .tail _ (.head _), by decide⟩
  intro rank member
  refine ⟨?_, (@consensus_unanimous_conservative Nat Nat _ _).2.2 twoGenerations disturbed rank
    member⟩
  simp only [twoGenerations, mem_cons, not_mem_nil, or_false] at member
  rcases member with rfl | rfl <;> decide +kernel

end RankGroup

end Tutti
