import Tutti.Foundation.Hull
import Mathlib.Logic.Function.Basic

/-!
# The load-failure consensus of the ranks

The ranks of a tensor-parallel group exchange one row each: the generation of the
step and, for every request, the range of chunks that could not be loaded.
`merge_rows` turns the gathered rows into a common verdict. The row is a flat list
of integers, as in the collective, and rows that are not well formed are tolerated.
-/

namespace Tutti

open Foundation List Option

/-- `_LogicalFailure`: a range of chunks of a request that was not loaded. -/
structure LogicalFailure where
  requestOrdinal : Nat
  firstChunkOrdinal : Int
  affectedChunkCount : Int
deriving DecidableEq, Repr

/-- `_FailureConsensus`, without the latency of the collective. -/
structure FailureConsensus where
  failed : Bool
  generation : Int
  generationConsistent : Bool
  logicalFailures : List LogicalFailure
deriving DecidableEq, Repr

/-- The two ends of the range of a failure. -/
def LogicalFailure.range (failure : LogicalFailure) : Int × Int :=
  (failure.firstChunkOrdinal, failure.firstChunkOrdinal + failure.affectedChunkCount)

/-- The failures of a rank by request ordinal; a later one replaces an earlier one. -/
def failureTable (failures : List LogicalFailure) : Nat → Option LogicalFailure :=
  failures.foldl (fun table failure => Function.update table failure.requestOrdinal (some failure))
    fun _ => none

namespace FailureConsensus

/-- The three fields of a request in a row. -/
def slotValues (ordinal : Nat) : Option LogicalFailure → List Int
  | some failure => [ordinal, failure.firstChunkOrdinal, failure.affectedChunkCount]
  | none => [-1, -1, 0]

/-- The row that a rank contributes to the collective. -/
def failureRow (generation : Int) (requestCount : Nat) (failures : Nat → Option LogicalFailure) :
    List Int :=
  generation ::
    (range requestCount).flatMap fun ordinal => slotValues ordinal (failures ordinal)

/-- A field of a request in a gathered row. -/
def rowField (row : List Int) (slot field : Nat) : Int := row.getD (1 + slot * 3 + field) 0

/-- The merged ranges so far, and whether all rows were consistent. -/
structure Merge where
  merged : Nat → Option (Int × Int)
  consistent : Bool

/-- One slot of a gathered row. -/
def mergeSlot (requestCount : Nat) (row : List Int) (state : Merge) (slot : Nat) : Merge :=
  let ordinal := rowField row slot 0
  let first := rowField row slot 1
  let count := rowField row slot 2
  if ordinal < 0 ∨ count ≤ 0 then state
  else if requestCount ≤ ordinal ∨ ordinal ≠ slot then { state with consistent := false }
  else
    { state with
      merged := Function.update state.merged ordinal.toNat
        (extendHull (state.merged ordinal.toNat) (first, first + count)) }

/-- One gathered row. -/
def mergeRow (requestCount : Nat) (state : Merge) (row : List Int) : Merge :=
  (range requestCount).foldl (mergeSlot requestCount row) state

/-- Every row carries the given generation, and there is one. -/
def sameGeneration (generation : Int) (rows : List (List Int)) : Bool :=
  rows ≠ [] && rows.all fun row => row.getD 0 0 = generation

/-- `merge_rows`. The merged ordinals are below the request count, so that listing
them in order is the sorting of the source. -/
def mergeRows (generation : Int) (requestCount : Nat) (rows : List (List Int)) :
    FailureConsensus :=
  let state := rows.foldl (mergeRow requestCount) ⟨fun _ => none, sameGeneration generation rows⟩
  let logical := (range requestCount).filterMap fun ordinal =>
    (state.merged ordinal).map fun range => ⟨ordinal, range.1, range.2 - range.1⟩
  { failed := logical ≠ [] || !state.consistent
    generation
    generationConsistent := state.consistent
    logicalFailures := logical }

/-- `coordinate`: a single rank decides alone, otherwise the gathered rows decide.
The ordinals of a rank's failures are positions in the list of requests. -/
def coordinate (worldSize : Nat) (generation : Int) (requestCount : Nat)
    (failures : Nat → Option LogicalFailure) (rows : List (List Int)) : FailureConsensus :=
  if worldSize ≤ 1 then
    let logical := (range requestCount).filterMap failures
    { failed := logical ≠ []
      generation
      generationConsistent := true
      logicalFailures := logical }
  else mergeRows generation requestCount rows

/-! ## Reading a row -/

/-- The range that a row reports for a request. -/
def rowReport (row : List Int) (slot : Nat) : Option (Int × Int) :=
  if rowField row slot 0 = slot ∧ 0 < rowField row slot 2 then
    some (rowField row slot 1, rowField row slot 1 + rowField row slot 2)
  else none

/-- A slot that reports a failure of another request. -/
def Misplaced (row : List Int) (slot : Nat) : Prop :=
  0 ≤ rowField row slot 0 ∧ 0 < rowField row slot 2 ∧ rowField row slot 0 ≠ slot

/-- Fields of equal width are found by multiplication. -/
theorem getElem?_flatMap_three {Item : Type*} (items : List Item) (fields : Item → List Int)
    (width : ∀ item, (fields item).length = 3) (place field : Nat) (inside : field < 3) :
    (items.flatMap fields)[place * 3 + field]? =
      (items[place]?).bind fun item => (fields item)[field]? := by
  induction items generalizing place with
  | nil => rfl
  | cons head tail ih =>
    rw [flatMap_cons]
    cases place with
    | zero =>
      rw [Nat.zero_add, getElem?_append_left (by rw [width]; exact inside)]
      rfl
    | succ place =>
      rw [getElem?_append_right (by rw [width]; omega), width,
        show (place + 1) * 3 + field - 3 = place * 3 + field by omega, ih,
        getElem?_cons_succ]

variable (generation : Int)

section

variable (failures : Nat → Option LogicalFailure)

section

variable {requestCount slot : Nat} (inside : slot < requestCount)
include inside

theorem rowField_failureRow {field : Nat} (narrow : field < 3) :
    rowField (failureRow generation requestCount failures) slot field =
      (slotValues slot (failures slot)).getD field 0 := by
  rw [rowField, failureRow, getD_eq_getElem?_getD,
    show 1 + slot * 3 + field = slot * 3 + field + 1 by omega, getElem?_cons_succ,
    getElem?_flatMap_three _ _ (fun ordinal => by cases failures ordinal <;> rfl) _ _ narrow,
    getElem?_range inside, bind_some, getD_eq_getElem?_getD]

/-- A rank's own row reports exactly its nonempty failures. -/
theorem rowReport_failureRow :
    rowReport (failureRow generation requestCount failures) slot =
      ((failures slot).filter fun failure => 0 < failure.affectedChunkCount).map
        LogicalFailure.range := by
  unfold rowReport
  rw [rowField_failureRow generation failures inside (by omega), rowField_failureRow generation
    failures inside (by omega), rowField_failureRow generation failures inside (by omega)]
  cases failures slot with
  | none => simp [slotValues]
  | some failure =>
    by_cases positive : 0 < failure.affectedChunkCount
    · simp [slotValues, filter_some, LogicalFailure.range]
    · simp [slotValues, positive, filter_some]

theorem not_misplaced_failureRow :
    ¬ Misplaced (failureRow generation requestCount failures) slot := by
  unfold Misplaced
  rw [rowField_failureRow generation failures inside (by omega)]
  cases failures slot with
  | none => simp [slotValues]
  | some failure => simp [slotValues]

end

end

/-! ## The merge -/

/-- A slot extends the range of its own request or finds the row inconsistent. -/
theorem mergeSlot_spec {requestCount slot : Nat} (row : List Int) (state : Merge)
    (inside : slot < requestCount) (query : Nat) :
    (mergeSlot requestCount row state slot).merged query =
        (if query = slot then
          match rowReport row slot with
          | some range => extendHull (state.merged slot) range
          | none => state.merged slot
        else state.merged query) ∧
      ((mergeSlot requestCount row state slot).consistent = true ↔
        state.consistent = true ∧ ¬ Misplaced row slot) := by
  unfold mergeSlot rowReport Misplaced
  by_cases silent : rowField row slot 0 < 0 ∨ rowField row slot 2 ≤ 0
  · have quiet : ¬ (rowField row slot 0 = slot ∧ 0 < rowField row slot 2) := by omega
    rw [if_pos silent]
    refine ⟨?_, ⟨fun kept => ⟨kept, by omega⟩, And.left⟩⟩
    split
    · rename_i same
      rw [same]
    · rfl
  rw [if_neg silent]
  by_cases elsewhere : (requestCount : Int) ≤ rowField row slot 0 ∨ rowField row slot 0 ≠ slot
  · have quiet : ¬ (rowField row slot 0 = slot ∧ 0 < rowField row slot 2) := by omega
    rw [if_pos elsewhere]
    refine ⟨?_, ⟨nofun, fun kept => absurd ⟨by omega, by omega, by omega⟩ kept.2⟩⟩
    split
    · rename_i same
      rw [same]
    · rfl
  · have here : rowField row slot 0 = slot := by omega
    have reported : (slot : Int) = slot ∧ 0 < rowField row slot 2 := ⟨rfl, by omega⟩
    rw [if_neg elsewhere, here, if_pos reported]
    refine ⟨?_, ⟨fun kept => ⟨kept, by omega⟩, And.left⟩⟩
    by_cases same : query = slot
    · rw [if_pos same, same]
      exact Function.update_self _ _ _
    · rw [if_neg same]
      exact Function.update_of_ne same _ _

variable (requestCount : Nat)

/-- After the first slots of a row, their requests are extended by what the row
reports for them. -/
theorem foldl_mergeSlot_spec (row : List Int) (state : Merge) (count : Nat)
    (bounded : count ≤ requestCount) (query : Nat) :
    let after := (range count).foldl (mergeSlot requestCount row) state
    after.merged query =
        (if query < count then
          match rowReport row query with
          | some range => extendHull (state.merged query) range
          | none => state.merged query
        else state.merged query) ∧
      (after.consistent = true ↔
        state.consistent = true ∧ ∀ slot < count, ¬ Misplaced row slot) := by
  induction count with
  | zero =>
    simp
  | succ count ih =>
    obtain ⟨merged, consistent⟩ := ih (Nat.le_of_succ_le bounded)
    obtain ⟨mergedLast, consistentLast⟩ := mergeSlot_spec row
      ((range count).foldl (mergeSlot requestCount row) state) bounded query
    rw [range_succ, foldl_append, foldl_cons, foldl_nil]
    constructor
    · rw [mergedLast]
      by_cases last : query = count
      · subst last
        rw [if_pos rfl, if_pos (Nat.lt_succ_self query), merged, if_neg (lt_irrefl query)]
      rw [if_neg last, merged]
      by_cases before : query < count
      · rw [if_pos before, if_pos (Nat.lt_succ_of_lt before)]
      · rw [if_neg before, if_neg (by omega)]
    · rw [consistentLast, consistent, and_assoc]
      refine and_congr_right fun _ => ?_
      constructor
      · rintro ⟨early, last⟩ slot inside
        rcases Nat.lt_succ_iff_lt_or_eq.mp inside with before | rfl
        · exact early slot before
        · exact last
      · exact fun all => ⟨fun slot inside => all slot (Nat.lt_succ_of_lt inside),
          all count (Nat.lt_succ_self count)⟩

/-- After all rows each request has the hull of the reported ranges. -/
theorem foldl_mergeRow_merged (rows : List (List Int)) (initial : Bool) {query : Nat}
    (inside : query < requestCount) :
    (rows.foldl (mergeRow requestCount) ⟨fun _ => none, initial⟩).merged query =
      hull (rows.filterMap fun row => rowReport row query) := by
  induction rows using reverseRecOn with
  | nil => rfl
  | append_singleton rows row ih =>
    have last := (foldl_mergeSlot_spec requestCount row
      (rows.foldl (mergeRow requestCount) ⟨fun _ => none, initial⟩) requestCount
      (le_refl _) query).1
    rw [foldl_append, foldl_cons, foldl_nil, mergeRow, last, if_pos inside, ih, filterMap_append]
    cases report : rowReport row query with
    | none => simp [report]
    | some range =>
      simp only [filterMap_cons, report, filterMap_nil]
      rw [hull_append_singleton]

/-- The rows are consistent when the generations are and no slot is misplaced. -/
theorem foldl_mergeRow_consistent (rows : List (List Int)) (initial : Bool) :
    (rows.foldl (mergeRow requestCount) ⟨fun _ => none, initial⟩).consistent = true ↔
      initial = true ∧ ∀ row ∈ rows, ∀ slot < requestCount, ¬ Misplaced row slot := by
  induction rows using reverseRecOn with
  | nil => simp
  | append_singleton rows row ih =>
    have last := (foldl_mergeSlot_spec requestCount row
      (rows.foldl (mergeRow requestCount) ⟨fun _ => none, initial⟩) requestCount
      (le_refl _) 0).2
    rw [foldl_append, foldl_cons, foldl_nil, mergeRow, last, ih, and_assoc]
    refine and_congr_right fun _ => ?_
    simp [or_imp, forall_and]

/-! ## The verdict -/

section Verdict

variable (generation : Int) (requestCount : Nat) (rows : List (List Int))

/-- The failures of the verdict are the hulls of what the rows report. -/
theorem mem_logicalFailures {failure : LogicalFailure} :
    failure ∈ (mergeRows generation requestCount rows).logicalFailures ↔
      failure.requestOrdinal < requestCount ∧
        hull (rows.filterMap fun row => rowReport row failure.requestOrdinal) =
          some failure.range := by
  simp only [mergeRows, mem_filterMap, mem_range]
  constructor
  · rintro ⟨ordinal, inside, found⟩
    rw [foldl_mergeRow_merged requestCount rows _ inside] at found
    obtain ⟨range, computed, rfl⟩ := map_eq_some_iff.mp found
    refine ⟨inside, computed.trans (congrArg some (Prod.ext rfl ?_))⟩
    simp only [LogicalFailure.range]
    omega
  · rintro ⟨inside, computed⟩
    refine ⟨failure.requestOrdinal, inside, ?_⟩
    rw [foldl_mergeRow_merged requestCount rows _ inside, computed, map_some]
    have width : failure.firstChunkOrdinal + failure.affectedChunkCount -
        failure.firstChunkOrdinal = failure.affectedChunkCount := by omega
    simp only [LogicalFailure.range, width]

/-- The verdict is consistent when all generations agree and no slot is misplaced. -/
theorem generationConsistent_iff :
    (mergeRows generation requestCount rows).generationConsistent = true ↔
      sameGeneration generation rows = true ∧
        ∀ row ∈ rows, ∀ slot < requestCount, ¬ Misplaced row slot :=
  foldl_mergeRow_consistent requestCount rows _

theorem failed_iff : (mergeRows generation requestCount rows).failed = true ↔
    (∃ failure, failure ∈ (mergeRows generation requestCount rows).logicalFailures) ∨
      (mergeRows generation requestCount rows).generationConsistent = false := by
  have listed : (∃ failure, failure ∈ (mergeRows generation requestCount rows).logicalFailures) ↔
      (mergeRows generation requestCount rows).logicalFailures ≠ [] :=
    ⟨fun ⟨_, member⟩ => ne_nil_of_mem member, exists_mem_of_ne_nil _⟩
  rw [listed]
  simp [mergeRows]

end Verdict

variable {rows : List (List Int)}

theorem sameGeneration_iff {generation : Int} :
    sameGeneration generation rows = true ↔
      rows ≠ [] ∧ ∀ row ∈ rows, row.getD 0 0 = generation := by
  simp [sameGeneration]

/-- The failures of the verdict depend neither on the order nor on the generation. -/
theorem logicalFailures_perm (generation other : Int) (requestCount : Nat)
    {first second : List (List Int)} (same : first.Perm second) :
    (mergeRows generation requestCount first).logicalFailures =
      (mergeRows other requestCount second).logicalFailures := by
  refine filterMap_congr fun ordinal member => ?_
  have inside := mem_range.mp member
  rw [foldl_mergeRow_merged requestCount first _ inside,
    foldl_mergeRow_merged requestCount second _ inside, hull_perm (same.filterMap _)]

/-- The order of the rows does not matter. -/
theorem mergeRows_perm (requestCount : Nat) {first second : List (List Int)}
    (same : first.Perm second) :
    mergeRows generation requestCount first = mergeRows generation requestCount second := by
  have generations : sameGeneration generation first = sameGeneration generation second := by
    rw [Bool.eq_iff_iff, sameGeneration_iff, sameGeneration_iff]
    exact and_congr (not_congr ⟨fun empty => by subst empty; exact same.nil_eq.symm,
      fun empty => by subst empty; exact same.eq_nil⟩) (by simp only [same.mem_iff])
  have consistent :
      (first.foldl (mergeRow requestCount)
        ⟨fun _ => none, sameGeneration generation first⟩).consistent =
      (second.foldl (mergeRow requestCount)
        ⟨fun _ => none, sameGeneration generation second⟩).consistent := by
    rw [Bool.eq_iff_iff, foldl_mergeRow_consistent, foldl_mergeRow_consistent, generations]
    simp only [same.mem_iff]
  have logical := logicalFailures_perm generation generation requestCount same
  simp only [mergeRows, FailureConsensus.mk.injEq] at consistent logical ⊢
  rw [consistent, logical]
  exact ⟨rfl, trivial, rfl, rfl⟩

/-- A reported range fails the step. -/
theorem failed_of_report {requestCount slot : Nat} {row : List Int} (member : row ∈ rows)
    (inside : slot < requestCount) {range : Int × Int} (report : rowReport row slot = some range) :
    (mergeRows generation requestCount rows).failed = true := by
  have reported : rows.filterMap (fun row => rowReport row slot) ≠ [] :=
    ne_nil_of_mem (mem_filterMap.mpr ⟨row, member, report⟩)
  obtain ⟨covered, computed⟩ := ne_none_iff_exists'.mp (mt hull_eq_none.mp reported)
  refine (failed_iff generation requestCount rows).mpr
    (.inl ⟨⟨slot, covered.1, covered.2 - covered.1⟩, ?_⟩)
  refine (mem_logicalFailures generation requestCount rows).mpr ⟨inside, computed.trans ?_⟩
  refine congrArg some (Prod.ext rfl ?_)
  simp only [LogicalFailure.range]
  omega

/-- A row of another generation fails the step. -/
theorem failed_of_generation {generation : Int} {row : List Int} (member : row ∈ rows)
    (other : row.getD 0 0 ≠ generation) :
    (mergeRows generation requestCount rows).failed = true := by
  refine (failed_iff generation requestCount rows).mpr (.inr (Bool.eq_false_iff.mpr ?_))
  intro consistent
  have agree := ((generationConsistent_iff generation requestCount rows).mp consistent).1
  exact other ((sameGeneration_iff.mp agree).2 row member)

end FailureConsensus

end Tutti
