import Mathlib.Data.List.TakeWhile
import Tutti.Index.Capacity

/-!
# The key chain and the recency order of the chunk index

A chunk key stands for all tokens up to the end of its chunk, so a prefix of the
tokens has a prefix of the keys, and the lookup finds the longest resident one.
The resident keys stand in the order of their last touch, so the keys that
`plan_store` evicts are the least recently used ones.
-/

namespace Tutti

open Foundation List
open OrderedDict hiding keys

namespace ChunkIndex

variable {Key : Type} {digest : Key → List Nat → Key} {width : Nat} {tokenIds : List Nat}

/-! ## The key chain -/

/-- A chain goes on from its last parent. -/
theorem hashLoop_add (count more first : Nat) (parent : Key) :
    hashLoop digest width tokenIds (count + more) first parent =
      let head := hashLoop digest width tokenIds count first parent
      let tail := hashLoop digest width tokenIds more (first + count * width) head.2
      (head.1 ++ tail.1, tail.2) := by
  induction count generalizing first parent with
  | zero => simp [hashLoop]
  | succ count ih =>
    rw [Nat.succ_add, hashLoop, ih]
    simp only [hashLoop, cons_append, Nat.succ_mul, Nat.add_assoc, Nat.add_comm width]

/-- A chain depends on the tokens that it covers. -/
theorem hashLoop_congr {others : List Nat} {bound : Nat}
    (same : tokenIds.take bound = others.take bound) (count first : Nat) (parent : Key)
    (inside : first + count * width ≤ bound) :
    hashLoop digest width tokenIds count first parent =
      hashLoop digest width others count first parent := by
  induction count generalizing first parent with
  | zero => rfl
  | succ count ih =>
    rw [Nat.succ_mul] at inside
    have slice : tokenSlice tokenIds first width = tokenSlice others first width := by
      have cut : ∀ tokens : List Nat, tokenSlice tokens first width =
          ((tokens.take bound).drop first).take width := by
        intro tokens
        rw [tokenSlice, drop_take, take_take, Nat.min_eq_left (by omega)]
      rw [cut, cut, same]
    rw [hashLoop, hashLoop, slice, ih _ _ (by omega)]

theorem parent_of_getElem? {count first place : Nat} {parent key : Key}
    (found : (hashLoop digest width tokenIds count first parent).1[place]? = some key) :
    (hashLoop digest width tokenIds (place + 1) first parent).2 = key := by
  induction count generalizing place first parent with
  | zero => cases found
  | succ count ih =>
    cases place with
    | zero =>
      cases found
      rfl
    | succ place => exact @ih (first + width) place _ found

/-- Without collisions a parent stands for all tokens before it. -/
theorem take_of_parent (injective : Function.Injective2 digest) {others : List Nat} {parent : Key}
    {count : Nat} (same : (hashLoop digest width tokenIds count 0 parent).2 =
      (hashLoop digest width others count 0 parent).2) :
    tokenIds.take (count * width) = others.take (count * width) := by
  induction count with
  | zero => rw [Nat.zero_mul, take_zero, take_zero]
  | succ count ih =>
    rw [hashLoop_add, hashLoop_add] at same
    obtain ⟨before, slice⟩ := injective same
    rw [Nat.zero_add] at slice
    rw [Nat.succ_mul, take_add, take_add, ih before]
    exact congrArg _ slice

variable [DecidableEq Key] {index : ChunkIndex Key} {keys : List Key}

/-- Only the keys of the batch change their place. -/
theorem keys_markRecent (index : ChunkIndex Key) (keys : List Key) :
    (index.markRecent keys).resident.keys.Perm index.resident.keys ∧
      (index.markRecent keys).resident.keys.filter (· ∉ keys) =
        index.resident.keys.filter (· ∉ keys) := by
  refine ⟨(perm_ext_iff_of_nodup (nodup_keys _) (nodup_keys _)).mpr fun _ =>
    mem_resident_markRecent, ?_⟩
  unfold markRecent
  generalize index.resident = resident
  induction keys generalizing resident with
  | nil => rfl
  | cons key keys ih =>
    have narrower : ∀ list : List Key,
        list.filter (· ∉ key :: keys) = (list.filter (· ∉ keys)).filter (· ≠ key) := by
      simp [filter_filter]
    have moved : (resident.moveToEnd key).keys.filter (· ≠ key) =
        resident.keys.filter (· ≠ key) := by
      by_cases present : key ∈ resident
      · simp [keys_moveToEnd present, filter_filter]
      · rw [moveToEnd, get?_eq_none_iff.mpr present]
    rw [foldl_cons, narrower, ih, narrower, filter_comm, moved, filter_comm]

/-- The chain of the keys goes on from any chunk boundary, a prefix of the tokens has a
prefix of the keys, a lookup finds the longest prefix of the keys that is resident and
changes the recency of these keys alone, and without collisions of the digest a key stands
for all tokens before it. -/
theorem prefix_chain (digest : Key → List Nat → Key) (index : ChunkIndex Key)
    (tokenIds : List Nat) :
    (∀ chunks,
      let head := index.hashKeys digest (tokenIds.take (chunks * index.chunkTokens)) 0 none
      let tail := index.hashKeys digest tokenIds (chunks * index.chunkTokens) (some head.2)
      index.hashKeys digest tokenIds 0 none = (head.1 ++ tail.1, tail.2)) ∧
    (∀ longer, tokenIds <+: longer →
      (index.hashKeys digest tokenIds 0 none).1 <+: (index.hashKeys digest longer 0 none).1) ∧
    (let hits := index.prefixHits digest tokenIds
     index.lookupPrefix digest tokenIds =
        (index.chunkTokens * hits.length, index.markRecent hits) ∧
      (index.markRecent hits).resident.keys.Perm index.resident.keys ∧
      (index.markRecent hits).resident.keys.filter (· ∉ hits) =
        index.resident.keys.filter (· ∉ hits)) ∧
    (Function.Injective2 digest → ∀ (others : List Nat) (place : Nat) (key : Key),
      (index.hashKeys digest tokenIds 0 none).1[place]? = some key →
      (index.hashKeys digest others 0 none).1[place]? = some key →
        tokenIds.take ((place + 1) * index.chunkTokens) =
          others.take ((place + 1) * index.chunkTokens)) := by
  have positive := index.chunkTokens_pos
  refine ⟨fun chunks => ?_, ?_,
    ⟨lookupPrefix_eq digest index tokenIds, index.keys_markRecent _⟩, ?_⟩
  · simp only [hashKeys, Nat.sub_zero, Option.getD_none, Option.getD_some, length_take]
    rcases Nat.le_total (chunks * index.chunkTokens) tokenIds.length with inside | beyond
    · have part : chunks ≤ tokenIds.length / index.chunkTokens :=
        (Nat.le_div_iff_mul_le positive).mpr inside
      have count : tokenIds.length / index.chunkTokens =
          chunks + (tokenIds.length - chunks * index.chunkTokens) / index.chunkTokens := by
        rw [Nat.mul_comm, Nat.sub_mul_div]
        omega
      rw [Nat.min_eq_left inside, Nat.mul_div_cancel _ positive, count, hashLoop_add,
        @hashLoop_congr _ digest _ _ _ _ (take_take.trans (by rw [Nat.min_self])) chunks 0
          index.keyNamespace (by omega), Nat.zero_add]
    · rw [Nat.min_eq_right beyond, take_of_length_le beyond, Nat.sub_eq_zero_of_le beyond,
        Nat.zero_div]
      simp [hashLoop]
  · rintro _ ⟨rest, rfl⟩
    simp only [hashKeys, Nat.sub_zero, Option.getD_none]
    have fewer : tokenIds.length / index.chunkTokens ≤
        (tokenIds ++ rest).length / index.chunkTokens := by
      refine Nat.div_le_div_right ?_
      rw [length_append]
      exact Nat.le_add_right _ _
    have bound := Nat.div_mul_le_self tokenIds.length index.chunkTokens
    rw [← Nat.add_sub_cancel' fewer, hashLoop_add, hashLoop_congr
      (take_append_of_le_length (Nat.le_refl tokenIds.length)) _ 0 _ (by omega)]
    exact prefix_append _ _
  · intro injective others place key found also
    exact take_of_parent injective ((parent_of_getElem? found).trans (parent_of_getElem? also).symm)

/-! ## Recency -/

/-- The keys that an operation touches, in order. -/
def touches (digest : Key → List Nat → Key) (index : ChunkIndex Key) : IndexAction Key → List Key
  | .confirmStore keys true => keys
  | .markRecent keys => keys.filter (· ∈ index.resident)
  | .lookupPrefix tokenIds => index.prefixHits digest tokenIds
  | _ => []

/-- One operation of an index together with the touches so far. -/
def touchStep (digest : Key → List Nat → Key) (state : ChunkIndex Key × List Key)
    (action : IndexAction Key) : ChunkIndex Key × List Key :=
  (state.1.step digest action, state.2 ++ state.1.touches digest action)

section

variable {history : List Key} (recent : index.resident.keys.Sublist history.dedup)
include recent

theorem sublist_markRecent (keys : List Key) :
    (index.markRecent keys).resident.keys.Sublist
      (history ++ keys.filter (· ∈ index.resident)).dedup := by
  unfold markRecent
  generalize index.resident = resident at recent
  induction keys generalizing resident history with
  | nil => simpa using recent
  | cons key keys ih =>
    by_cases present : key ∈ resident
    · have next := @ih (history ++ [key]) (resident.moveToEnd key) (by
        rw [keys_moveToEnd present, dedup_concat]
        exact (recent.filter _).append_right _)
      simpa [present] using next
    · have same : resident.moveToEnd key = resident := by
        rw [moveToEnd, get?_eq_none_iff.mpr present]
      simpa [present, same] using ih resident recent

theorem sublist_confirmStore (keys : List Key) :
    (index.confirmStore keys true).resident.keys.Sublist (history ++ keys).dedup := by
  induction keys generalizing index history with
  | nil => simpa using recent
  | cons key keys ih =>
    have order : (index.confirmKey true key).resident.keys =
        index.resident.keys.filter (· ≠ key) ++ [key] := by
      unfold confirmKey
      by_cases present : key ∈ index.resident
      · simp [present, keys_moveToEnd]
      · simp only [present, ↓reduceIte, keys_set_of_not_mem, not_false_eq_true]
        rw [filter_eq_self.mpr]
        exact fun other member => decide_eq_true fun same => present (same ▸ member)
    have next := @ih (index.confirmKey true key) (history ++ [key]) (by
      rw [order, dedup_concat]
      exact (recent.filter _).append_right _)
    rwa [append_assoc] at next

theorem sublist_step (action : IndexAction Key) :
    (index.step digest action).resident.keys.Sublist
      (history ++ index.touches digest action).dedup := by
  -- most operations touch no key
  have quiet : index.resident.keys.Sublist (history ++ []).dedup := by
    rwa [append_nil]
  cases action with
  | planStore keys =>
    refine step_planStore digest
      (motive := fun next => next.resident.keys.Sublist (history ++ []).dedup) quiet ?_
    intro plan next planned
    rw [planned.next_eq, keys_eraseIf]
    exact filter_sublist.trans quiet
  | confirmStore keys ok =>
    cases ok with
    | true => exact sublist_confirmStore recent keys
    | false =>
      have same : (index.confirmStore keys false).resident = index.resident := by
        clear recent quiet
        induction keys generalizing index with
        | nil => rfl
        | cons key keys ih => exact ih
      rw [step, same]
      exact quiet
  | advanceEpoch | reclaimStalePending => exact quiet
  | forget keys =>
    rw [step, forget, keys_eraseIf]
    exact filter_sublist.trans quiet
  | pin keys =>
    simp only [step, ChunkIndex.pin]
    split <;> exact quiet
  | unpin keys =>
    obtain ⟨pins, same, _⟩ := index.unpin_eq keys
    rw [step, same]
    exact quiet
  | markRecent keys => exact sublist_markRecent recent keys
  | lookupPrefix tokenIds =>
    have next := sublist_markRecent recent (index.prefixHits digest tokenIds)
    have hits : ∀ key ∈ index.prefixHits digest tokenIds, decide (key ∈ index.resident) = true :=
      fun _ hit => @mem_takeWhile_imp _ (fun key => decide (key ∈ index.resident)) _ _ hit
    rw [filter_eq_self.mpr hits] at next
    rw [step_lookupPrefix]
    exact next

end

/-! ## Store plans -/

/-- What `plan_store` decides, and what it evicts. -/
structure PlansExactly (digest : Key → List Nat → Key) (index : ChunkIndex Key) (keys : List Key) :
    Prop where
  refused : index.planStore keys = none ↔ (∃ key ∈ keys, key ∈ index.pending) ∨
    ((index.evictable keys).length : Int) <
      index.deficit ((firstOccurrences keys).filter (· ∉ index.resident))
  unchanged : index.planStore keys = none → index.step digest (.planStore keys) = index
  admitted : ∀ plan next, index.planStore keys = some (plan, next) →
    plan.newKeys = (firstOccurrences keys).filter (· ∉ index.resident) ∧
    plan.evictedKeys = (index.evictable keys).take (index.deficit plan.newKeys).toNat ∧
    next.resident.keys = index.resident.keys.filter (· ∉ plan.evictedKeys) ∧
    (∀ key ∈ plan.newKeys, key ∈ next.pending) ∧ next.pins = index.pins

theorem plansExactly (digest : Key → List Nat → Key) (index : ChunkIndex Key) (keys : List Key) :
    index.PlansExactly digest keys := by
  refine ⟨?_, fun refused => by simp [step, refused], ?_⟩
  · rw [planStore_eq]
    simp only [ite_eq_left_iff, reduceCtorEq, imp_false, not_not]
  intro plan next admitted
  rw [planStore_eq] at admitted
  dsimp only at admitted
  split at admitted
  · cases admitted
  obtain ⟨rfl, rfl⟩ := Prod.mk.inj (Option.some.inj admitted)
  refine ⟨rfl, rfl, ?_, fun key new => mem_setAll.mpr (.inl new), rfl⟩
  rw [keys_eraseIf]
  simp only [decide_not]

/-- In every state of a run from any index, `plan_store` decides and evicts exactly, and
the resident keys stand in the order of their last touch: a hit of a lookup, a settlement
or `mark_recent`. The order at the start, as `restore` leaves it, counts as the oldest
touches. -/
theorem plans_by_recency (digest : Key → List Nat → Key) (start : ChunkIndex Key)
    (actions : List (IndexAction Key)) :
    let reached := runFrom (touchStep digest) (start, start.resident.keys) actions
    reached.1 = runFrom (step digest) start actions ∧
      (∀ keys, reached.1.PlansExactly digest keys) ∧
      reached.1.resident.keys.Sublist reached.2.dedup := by
  refine ⟨?_, fun keys => plansExactly digest _ keys, ?_⟩
  · exact (foldl_hom Prod.fst fun _ _ => rfl).symm
  · exact @invariant_runFrom _ _ (touchStep digest) (start, start.resident.keys)
      (fun state => state.1.resident.keys.Sublist state.2.dedup)
      (fun _ action recent => sublist_step recent action)
      (by rw [start.resident.nodup_keys.dedup]) actions

end ChunkIndex

end Tutti
