import Mathlib.Data.Finset.Card
import Mathlib.Data.List.Dedup

/-!
# Insertion-ordered dictionaries

A dictionary whose iteration order is the order in which its keys were first
inserted. Assigning to a present key keeps the position of the key, and
`moveToEnd` makes a key the most recent one, so a dictionary with trivial values
is the recency list of a least-recently-used cache. The distinctness of the keys
is part of the type. Sizes are computed through `keySet`, the finite set of keys.
-/

namespace Foundation

open List

variable {K V : Type*}

/-- The first occurrence of every element of a list, in order. -/
def firstOccurrences [DecidableEq K] : List K → List K
  | [] => []
  | key :: keys => key :: (firstOccurrences keys).filter (· ≠ key)

@[simp] theorem mem_firstOccurrences [DecidableEq K] {key : K} {keys : List K} :
    key ∈ firstOccurrences keys ↔ key ∈ keys := by
  induction keys with
  | nil => rfl
  | cons head tail ih =>
    by_cases same : key = head
    · simp [firstOccurrences, same]
    · simp [firstOccurrences, same, ih]

theorem nodup_firstOccurrences [DecidableEq K] (keys : List K) :
    (firstOccurrences keys).Nodup := by
  induction keys with
  | nil => exact nodup_nil
  | cons head tail ih =>
    refine nodup_cons.mpr ⟨fun member => ?_, ih.filter _⟩
    simp [mem_filter, ne_eq, Bool.false_eq_true, and_false] at member

/-- Touching a key again moves it behind the others. -/
theorem dedup_concat [DecidableEq K] (history : List K) (key : K) :
    (history ++ [key]).dedup = history.dedup.filter (· ≠ key) ++ [key] := by
  induction history with
  | nil => rfl
  | cons head history ih =>
    by_cases later : head ∈ history
    · simpa [later] using ih
    by_cases here : head = key
    · subst here
      simpa [later] using ih
    · simpa [later, here] using ih

/-- A dictionary in insertion order with distinct keys. -/
structure OrderedDict (K V : Type*) where
  entries : List (K × V)
  nodup : (entries.map Prod.fst).Nodup

namespace OrderedDict

/-- The keys in iteration order, the oldest first. -/
def keys (dict : OrderedDict K V) : List K := dict.entries.map Prod.fst

instance : Membership K (OrderedDict K V) where
  mem dict key := key ∈ dict.keys

variable {dict : OrderedDict K V} {key : K}

theorem mem_def : key ∈ dict ↔ key ∈ dict.keys := Iff.rfl

theorem nodup_keys (dict : OrderedDict K V) : dict.keys.Nodup := dict.nodup

instance [DecidableEq K] (key : K) (dict : OrderedDict K V) : Decidable (key ∈ dict) :=
  inferInstanceAs (Decidable (key ∈ dict.keys))

instance : EmptyCollection (OrderedDict K V) where
  emptyCollection := ⟨[], nodup_nil⟩

@[simp] theorem entries_empty : (∅ : OrderedDict K V).entries = [] := rfl

@[simp] theorem keys_empty : (∅ : OrderedDict K V).keys = [] := rfl

@[simp] theorem not_mem_empty (key : K) : key ∉ (∅ : OrderedDict K V) := not_mem_nil

/-- The number of keys. -/
def size (dict : OrderedDict K V) : Nat := dict.keys.length

theorem mem_iff_exists :
    key ∈ dict ↔ ∃ value, (key, value) ∈ dict.entries := by
  simp [mem_def, keys]

variable [DecidableEq K]

/-- Look a key up. -/
def get? (dict : OrderedDict K V) (key : K) : Option V :=
  (dict.entries.find? fun entry => entry.1 = key).map Prod.snd

variable {value : V}

theorem get?_eq_some_iff :
    dict.get? key = some value ↔ (key, value) ∈ dict.entries := by
  unfold get?
  constructor
  · intro found
    obtain ⟨⟨stored, result⟩, located, rfl⟩ := Option.map_eq_some_iff.mp found
    have named := find?_some located
    simp only [decide_eq_true_eq] at named
    subst named
    exact mem_of_find?_eq_some located
  · intro member
    cases located : dict.entries.find? fun entry => entry.1 = key with
    | none =>
      have absent := find?_eq_none.mp located (key, value) member
      simp only [decide_true, not_true_eq_false] at absent
    | some entry =>
      have named := find?_some located
      simp only [decide_eq_true_eq] at named
      have present := mem_of_find?_eq_some located
      subst named
      exact congrArg (some ∘ Prod.snd) (inj_on_of_nodup_map dict.nodup present member rfl)

theorem get?_eq_none_iff :
    dict.get? key = none ↔ key ∉ dict := by
  rw [mem_iff_exists, Option.eq_none_iff_forall_ne_some]
  simp [get?_eq_some_iff]

theorem mem_iff_get? :
    key ∈ dict ↔ ∃ value, dict.get? key = some value := by
  simp only [mem_iff_exists, get?_eq_some_iff]

/-- The entries of an absent key. -/
theorem filter_entries_of_get?_none (dict : OrderedDict K V) (absent : dict.get? key = none) :
    dict.entries.filter (·.1 = key) = [] := by
  rw [filter_eq_nil_iff]
  intro entry member same
  refine get?_eq_none_iff.mp absent (mem_iff_exists.mpr ⟨entry.2, ?_⟩)
  rwa [← of_decide_eq_true same]

/-- The entries of a present key. -/
theorem filter_entries_of_get?_some (dict : OrderedDict K V) (found : dict.get? key = some value) :
    dict.entries.filter (·.1 = key) = [(key, value)] := by
  have member := get?_eq_some_iff.mp found
  have nodup := dict.nodup
  generalize dict.entries = entries at member nodup
  induction entries with
  | nil => cases member
  | cons head tail ih =>
    rw [map_cons, nodup_cons] at nodup
    rcases mem_cons.mp member with rfl | later
    · rw [filter_cons, if_pos (decide_eq_true rfl), cons.injEq]
      refine ⟨rfl, filter_eq_nil_iff.mpr fun entry present same => nodup.1 ?_⟩
      have named : entry.1 = key := of_decide_eq_true same
      exact mem_map.mpr ⟨entry, present, named⟩
    · rw [filter_cons, if_neg, ih later nodup.2]
      intro same
      have named : head.1 = key := of_decide_eq_true same
      exact nodup.1 (mem_map.mpr ⟨(key, value), later, named.symm⟩)

@[simp] theorem get?_empty (key : K) : (∅ : OrderedDict K V).get? key = none := rfl

/-- A dictionary without keys is empty. -/
theorem eq_empty_of_get? (absent : ∀ key, dict.get? key = none) :
    dict = ∅ := by
  obtain ⟨entries, nodup⟩ := dict
  cases entries with
  | nil => rfl
  | cons entry entries =>
    have missing := get?_eq_none_iff.mp (absent entry.1)
    exact (missing (.head _)).elim

/-- Look a key up with a default. -/
def getD (dict : OrderedDict K V) (key : K) (default : V) : V := (dict.get? key).getD default

/-- The finite set of keys. -/
def keySet (dict : OrderedDict K V) : Finset K := dict.keys.toFinset

@[simp] theorem mem_keySet : key ∈ dict.keySet ↔ key ∈ dict := mem_toFinset

@[simp] theorem keySet_empty : (∅ : OrderedDict K V).keySet = ∅ := rfl

theorem card_keySet (dict : OrderedDict K V) : dict.keySet.card = dict.size :=
  toFinset_card_of_nodup dict.nodup_keys

/-- Remove a key; nothing happens when it is absent. -/
def erase (dict : OrderedDict K V) (key : K) : OrderedDict K V where
  entries := dict.entries.filter fun entry => entry.1 ≠ key
  nodup := dict.nodup.sublist (filter_sublist.map _)

theorem mem_entries_erase {entry : K × V} :
    entry ∈ (dict.erase key).entries ↔ entry.1 ≠ key ∧ entry ∈ dict.entries := by
  simp [erase, and_comm]

variable {query : K}

@[simp] theorem mem_erase {key : K} :
    query ∈ dict.erase key ↔ query ≠ key ∧ query ∈ dict := by
  simp [mem_iff_exists, mem_entries_erase]

theorem get?_erase (dict : OrderedDict K V) (key query : K) :
    (dict.erase key).get? query = if query = key then none else dict.get? query := by
  ext value
  simp [get?_eq_some_iff, mem_entries_erase]

/-- Removing the oldest keys. -/
theorem entries_foldl_erase (dict : OrderedDict K V) (count : Nat) :
    ((dict.keys.take count).foldl erase dict).entries = dict.entries.drop count := by
  induction count generalizing dict with
  | zero => rfl
  | succ count ih =>
    obtain ⟨entries, nodup⟩ := dict
    cases entries with
    | nil => rfl
    | cons entry entries =>
      have distinct := nodup_cons.mp nodup
      have rest : (erase ⟨entry :: entries, nodup⟩ entry.1).entries = entries := by
        have others : ∀ other ∈ entries, other.1 ≠ entry.1 := fun other member same =>
          distinct.1 (mem_map.mpr ⟨other, member, same⟩)
        simpa [erase] using others
      have after := ih (erase ⟨entry :: entries, nodup⟩ entry.1)
      rw [keys, rest] at after
      exact after

/-- Remove every key satisfying a test. -/
def eraseIf (dict : OrderedDict K V) (test : K → Bool) : OrderedDict K V where
  entries := dict.entries.filter fun entry => !test entry.1
  nodup := dict.nodup.sublist (filter_sublist.map _)

omit [DecidableEq K] in
theorem keys_eraseIf (dict : OrderedDict K V) (test : K → Bool) :
    (dict.eraseIf test).keys = dict.keys.filter fun key => !test key := by
  rw [keys, keys, eraseIf, filter_map]
  rfl

omit [DecidableEq K] in
@[simp] theorem mem_eraseIf {test : K → Bool} :
    query ∈ dict.eraseIf test ↔ test query = false ∧ query ∈ dict := by
  simp [mem_iff_exists, eraseIf, and_comm (a := test query = false)]

/-- Insert a key as the most recent one, or overwrite its value in place. -/
def set (dict : OrderedDict K V) (key : K) (value : V) : OrderedDict K V :=
  if present : key ∈ dict then
    { entries := dict.entries.map fun entry => if entry.1 = key then (key, value) else entry
      nodup := by
        have same :
            (dict.entries.map fun entry => if entry.1 = key then (key, value) else entry).map
              Prod.fst = dict.entries.map Prod.fst := by
          rw [map_map]
          apply map_congr_left
          intro entry _
          by_cases named : entry.1 = key
          · simp only [Function.comp_apply, named, ↓reduceIte]
          · simp only [Function.comp_apply, named, ↓reduceIte]
        rw [same]
        exact dict.nodup }
  else
    { entries := dict.entries ++ [(key, value)]
      nodup := by
        rw [map_append, map_cons, map_nil]
        refine nodup_append.mpr ⟨dict.nodup, nodup_singleton _, ?_⟩
        intro stored member other located same
        rw [mem_singleton] at located
        subst located
        subst same
        exact present member }

theorem mem_entries_set {entry : K × V} :
    entry ∈ (dict.set key value).entries ↔
      entry = (key, value) ∨ entry.1 ≠ key ∧ entry ∈ dict.entries := by
  obtain ⟨query, result⟩ := entry
  unfold set
  by_cases present : key ∈ dict
  · simp only [present, ↓reduceDIte, mem_map, Prod.mk.injEq]
    constructor
    · rintro ⟨⟨stored, old⟩, member, image⟩
      by_cases named : stored = key
      · simp only [named, ↓reduceIte, Prod.mk.injEq] at image
        exact .inl ⟨image.1.symm, image.2.symm⟩
      simp only [named, ↓reduceIte] at image
      obtain ⟨rfl, rfl⟩ := image
      exact .inr ⟨named, member⟩
    · rintro (⟨rfl, rfl⟩ | ⟨named, member⟩)
      · obtain ⟨old, member⟩ := mem_iff_exists.mp present
        exact ⟨(query, old), member, by simp⟩
      · exact ⟨(query, result), member, by simp [named]⟩
  · simp only [present, ↓reduceDIte, mem_append, mem_singleton]
    constructor
    · rintro (member | image)
      · refine .inr ⟨fun same => present ?_, member⟩
        subst same
        exact mem_iff_exists.mpr ⟨result, member⟩
      · exact .inl image
    · rintro (image | ⟨_, member⟩)
      · exact .inr image
      · exact .inl member

@[simp] theorem mem_set {key : K} :
    query ∈ dict.set key value ↔ query = key ∨ query ∈ dict := by
  simp only [mem_iff_exists, mem_entries_set]
  by_cases same : query = key
  · simp [same]
  · simp [same]

theorem get?_set (dict : OrderedDict K V) (key query : K) (value : V) :
    (dict.set key value).get? query = if query = key then some value else dict.get? query := by
  ext result
  rw [get?_eq_some_iff, mem_entries_set]
  by_cases same : query = key
  · simp [same, eq_comm]
  · simp [same, get?_eq_some_iff]

@[simp] theorem get?_set_self (dict : OrderedDict K V) (key : K) (value : V) :
    (dict.set key value).get? key = some value := by
  rw [get?_set, if_pos rfl]

/-- Assign one value to a list of keys, in order. -/
def setAll (dict : OrderedDict K V) (keys : List K) (value : V) : OrderedDict K V :=
  keys.foldl (fun current key => current.set key value) dict

@[simp] theorem mem_setAll {keys : List K} :
    query ∈ dict.setAll keys value ↔ query ∈ keys ∨ query ∈ dict := by
  unfold setAll
  induction keys generalizing dict with
  | nil => simp
  | cons key keys ih =>
    rw [foldl_cons, ih, mem_set, mem_cons, or_left_comm, or_assoc]

theorem get?_setAll (dict : OrderedDict K V) (keys : List K) (value : V) (query : K) :
    (dict.setAll keys value).get? query = if query ∈ keys then some value else dict.get? query := by
  unfold setAll
  induction keys generalizing dict with
  | nil => simp
  | cons key keys ih =>
    rw [foldl_cons, ih, get?_set]
    by_cases later : query ∈ keys
    · simp [later]
    · simp [later]

/-- Make a key the most recent one, keeping its value. -/
def moveToEnd (dict : OrderedDict K V) (key : K) : OrderedDict K V :=
  match dict.get? key with
  | some value => (dict.erase key).set key value
  | none => dict

@[simp] theorem mem_moveToEnd {key : K} :
    query ∈ dict.moveToEnd key ↔ query ∈ dict := by
  unfold moveToEnd
  cases found : dict.get? key with
  | none => rfl
  | some value =>
    have present : key ∈ dict := mem_iff_get?.mpr ⟨value, found⟩
    by_cases same : query = key
    · simp [same, present]
    · simp [same]

theorem keys_set_of_not_mem (absent : key ∉ dict) (value : V) :
    (dict.set key value).keys = dict.keys ++ [key] := by
  simp [set, absent, keys]

theorem keys_moveToEnd (present : key ∈ dict) :
    (dict.moveToEnd key).keys = dict.keys.filter (· ≠ key) ++ [key] := by
  obtain ⟨value, found⟩ := mem_iff_get?.mp present
  have removed : key ∉ dict.erase key := fun member => (mem_erase.mp member).1 rfl
  rw [moveToEnd, found]
  rw [keys_set_of_not_mem removed, keys, keys, erase, filter_map]
  rfl

end OrderedDict

end Foundation
