import Mathlib.Algebra.Ring.Nat
import Mathlib.Data.List.Basic

/-!
# Tables whose slots are recycled

A table is a list that only grows. A new entry takes the first slot that is not
in use, or a new slot at the end (`firstFree`, `placeAt`). What the entries weigh
together changes by what one entry weighs whenever one slot changes.
-/

namespace Foundation

open List

variable {Entry : Type*}

/-- The first slot that is not in use; the length of the table if there is none. -/
def firstFree (used : Entry → Bool) (table : List Entry) : Nat :=
  table.findIdx (fun entry => !used entry)

/-- Write a slot of the table, or the slot that follows its last one. -/
def placeAt (table : List Entry) (slot : Nat) (entry : Entry) : List Entry :=
  if slot < table.length then table.set slot entry else table ++ [entry]

variable {table : List Entry}

theorem used_firstFree {used : Entry → Bool} {entry : Entry}
    (found : table[firstFree used table]? = some entry) : used entry = false := by
  obtain ⟨inside, rfl⟩ := List.getElem?_eq_some_iff.mp found
  have free : (!used table[firstFree used table]) = true := findIdx_getElem (w := inside)
  simpa using free

variable {slot : Nat}

theorem getElem?_placeAt (inside : slot ≤ table.length) (entry : Entry) (query : Nat) :
    (placeAt table slot entry)[query]? = if query = slot then some entry else table[query]? := by
  unfold placeAt
  split
  · rename_i below
    by_cases same : slot = query
    · subst same
      simp [below]
    · simp [same, Ne.symm same]
  have last : slot = table.length := by omega
  subst last
  by_cases same : query = table.length
  · subst same
    simp
  rw [if_neg same]
  rcases Nat.lt_or_gt_of_ne same with below | above
  · exact getElem?_append_left below
  · rw [getElem?_eq_none (by simp only [length_append, length_singleton]; omega),
      getElem?_eq_none (by omega)]

theorem getElem?_set_found {old : Entry} (found : table[slot]? = some old) (entry : Entry)
    (query : Nat) :
    (table.set slot entry)[query]? = if query = slot then some entry else table[query]? := by
  have inside := (List.getElem?_eq_some_iff.mp found).1
  by_cases same : slot = query
  · subst same
    simp [inside]
  · simp [same, Ne.symm same]

/-- A slot that is found after one was rewritten holds the new entry or what it held. -/
theorem getElem?_set_cases {old entry next reached : Entry} (located : table[slot]? = some old)
    {query : Nat} (found : table[query]? = some entry)
    (after : (table.set slot next)[query]? = some reached) :
    (query = slot ∧ entry = old ∧ reached = next) ∨ reached = entry := by
  rw [getElem?_set_found located] at after
  split at after
  · rename_i here
    rw [here, located] at found
    exact .inl ⟨here, (Option.some.inj found).symm, (Option.some.inj after).symm⟩
  · exact .inr (Option.some.inj (after.symm.trans found))

/-- Rewriting one slot changes the total weight by what the entry weighs. -/
theorem sum_map_set (weight : Entry → Nat) {old : Entry} (found : table[slot]? = some old)
    (entry : Entry) :
    ((table.set slot entry).map weight).sum + weight old =
      (table.map weight).sum + weight entry := by
  induction table generalizing slot with
  | nil => simp [reduceCtorEq] at found
  | cons head tail ih =>
    cases slot with
    | zero =>
      obtain rfl : head = old := by simpa using found
      simp only [set_cons_zero, map_cons, sum_cons]
      omega
    | succ slot =>
      have below := ih (by simpa using found)
      simp only [set_cons_succ, map_cons, sum_cons]
      omega

/-- A placed entry adds its weight if what it replaces weighed nothing. -/
theorem sum_map_placeAt (weight : Entry → Nat) (table : List Entry) (slot : Nat) (entry : Entry)
    (light : ∀ old, table[slot]? = some old → weight old = 0) :
    ((placeAt table slot entry).map weight).sum = (table.map weight).sum + weight entry := by
  unfold placeAt
  split
  · rename_i below
    have found : table[slot]? = some table[slot] := getElem?_eq_getElem below
    have moved := sum_map_set weight found entry
    rw [light _ found] at moved
    exact moved
  · simp

end Foundation
