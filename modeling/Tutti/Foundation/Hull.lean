import Mathlib.Data.List.Induction
import Mathlib.Data.List.Perm.Basic
import Mathlib.Order.MinMax

/-!
# Hulls of intervals

The hull of a list of intervals is the smallest single interval that covers them
all. It is computed by extending it with one interval after the other, and it does
not depend on their order.
-/

namespace Foundation

open List

variable {Bound : Type*} [LinearOrder Bound]

/-- Extend a hull, which is absent at first, by an interval given by its two ends. -/
def extendHull (hull : Option (Bound × Bound)) (interval : Bound × Bound) :
    Option (Bound × Bound) :=
  match hull with
  | none => some interval
  | some covered => some (min covered.1 interval.1, max covered.2 interval.2)

/-- The hull of a list of intervals. -/
def hull (intervals : List (Bound × Bound)) : Option (Bound × Bound) :=
  intervals.foldl extendHull none

/-- The interval covers all of the list, and every interval that does so contains it. -/
structure IsHull (intervals : List (Bound × Bound)) (covered : Bound × Bound) : Prop where
  covers : ∀ interval ∈ intervals, covered.1 ≤ interval.1 ∧ interval.2 ≤ covered.2
  least : ∀ other : Bound × Bound,
    (∀ interval ∈ intervals, other.1 ≤ interval.1 ∧ interval.2 ≤ other.2) →
      other.1 ≤ covered.1 ∧ covered.2 ≤ other.2

theorem hull_append_singleton (intervals : List (Bound × Bound)) (interval : Bound × Bound) :
    hull (intervals ++ [interval]) = extendHull (hull intervals) interval := by
  rw [hull, foldl_append]
  rfl

theorem extendHull_comm (covered : Option (Bound × Bound)) (first second : Bound × Bound) :
    extendHull (extendHull covered first) second =
      extendHull (extendHull covered second) first := by
  cases covered with
  | none => simp only [extendHull, min_comm, max_comm]
  | some covered =>
    simp only [extendHull, min_right_comm covered.1, max_right_comm covered.2]

/-- The order of the intervals does not matter. -/
theorem hull_perm {first second : List (Bound × Bound)} (same : first.Perm second) :
    hull first = hull second :=
  same.foldl_eq' (fun left _ right _ covered => extendHull_comm covered left right) none

variable {intervals : List (Bound × Bound)}

theorem hull_eq_none : hull intervals = none ↔ intervals = [] := by
  constructor
  · intro absent
    rcases eq_nil_or_concat intervals with empty | ⟨front, last, rfl⟩
    · exact empty
    · rw [concat_eq_append, hull_append_singleton] at absent
      cases before : hull front <;> simp only [before, extendHull, reduceCtorEq] at absent
  · rintro rfl
    rfl

variable {covered : Bound × Bound}

/-- What is computed is the smallest interval that covers the list. -/
theorem isHull_hull (computed : hull intervals = some covered) :
    IsHull intervals covered := by
  induction intervals using reverseRecOn generalizing covered with
  | nil => cases computed
  | append_singleton front last ih =>
    rw [hull_append_singleton] at computed
    cases before : hull front with
    | none =>
      rw [before] at computed
      cases computed
      rw [hull_eq_none.mp before]
      refine ⟨fun interval member => ?_, fun other covers => covers last (.head _)⟩
      rw [nil_append, mem_singleton] at member
      subst member
      exact ⟨le_rfl, le_rfl⟩
    | some inner =>
      rw [before] at computed
      cases computed
      obtain ⟨covers, least⟩ := ih before
      refine ⟨fun interval member => ?_, fun other bound => ?_⟩
      · rcases mem_append.mp member with inside | new
        · obtain ⟨lower, upper⟩ := covers interval inside
          exact ⟨(min_le_left _ _).trans lower, upper.trans (le_max_left _ _)⟩
        · rw [mem_singleton.mp new]
          exact ⟨min_le_right _ _, le_max_right _ _⟩
      · obtain ⟨lower, upper⟩ := least other fun interval inside =>
          bound interval (mem_append_left _ inside)
        obtain ⟨lastLower, lastUpper⟩ := bound last (mem_append_right _ (.head _))
        exact ⟨le_min lower lastLower, max_le upper lastUpper⟩

theorem IsHull.unique {first second : Bound × Bound} (left : IsHull intervals first)
    (right : IsHull intervals second) : first = second := by
  obtain ⟨lower, upper⟩ := left.least second right.covers
  obtain ⟨lower', upper'⟩ := right.least first left.covers
  exact Prod.ext (le_antisymm lower' lower) (le_antisymm upper upper')

/-- The computed hull is the only one. -/
theorem hull_eq_some_iff :
    hull intervals = some covered ↔ intervals ≠ [] ∧ IsHull intervals covered := by
  constructor
  · intro computed
    refine ⟨fun empty => ?_, isHull_hull computed⟩
    rw [hull_eq_none.mpr empty] at computed
    cases computed
  · rintro ⟨filled, covers⟩
    obtain ⟨other, computed⟩ := Option.ne_none_iff_exists'.mp (mt hull_eq_none.mp filled)
    rw [computed, (isHull_hull computed).unique covers]

end Foundation
