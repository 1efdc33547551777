import Tutti.Foundation.OrderedDict

/-!
# The semantic chunk index

`ChunkIndex` keeps, for every chunk key, whether the chunk is resident, in
flight (`pending`) or read-protected (`pins`). Token sequences are cut into
chunks and folded into a key chain by the chunk digest, which stays a parameter.
Resident keys are ordered by recency, the oldest first, and only `planStore`
evicts. The index is used by one thread, so every operation is a function of the
state.
-/

namespace Tutti

open Foundation Function List
open OrderedDict hiding keys

/-- The outcome of an accepted store plan: the keys to write and the keys
evicted to make room, the oldest first. -/
structure StorePlan (Key : Type) where
  newKeys : List Key
  evictedKeys : List Key
deriving DecidableEq, Repr

/-- The state of the index. `pending` maps a key in flight to the epoch of its
plan, and `pins` counts the read protections of a key. The constructor of the
source rejects an empty capacity and an empty chunk. -/
structure ChunkIndex (Key : Type) where
  capacity : Nat
  chunkTokens : Nat
  keyNamespace : Key
  resident : OrderedDict Key Unit
  pending : OrderedDict Key Nat
  pins : Key → Nat
  epoch : Nat
  capacity_pos : 0 < capacity
  chunkTokens_pos : 0 < chunkTokens

namespace ChunkIndex

variable {Key : Type}

/-- An index without any key. -/
def fresh (capacity chunkTokens : Nat) (keyNamespace : Key) (capacity_pos : 0 < capacity)
    (chunkTokens_pos : 0 < chunkTokens) : ChunkIndex Key where
  capacity
  chunkTokens
  keyNamespace
  resident := ∅
  pending := ∅
  pins := fun _ => 0
  epoch := 0
  capacity_pos := capacity_pos
  chunkTokens_pos := chunkTokens_pos

/-- `ChunkIndex.__init__` with its argument checks. -/
def init (capacity chunkTokens : Int) (keyNamespace : Key) : Except String (ChunkIndex Key) :=
  if capacity_pos : capacity ≤ 0 then
    .error s!"capacity must be positive, got {capacity}"
  else if chunkTokens_pos : chunkTokens ≤ 0 then
    .error s!"chunk_tokens must be positive, got {chunkTokens}"
  else
    .ok (fresh capacity.toNat chunkTokens.toNat keyNamespace (by omega) (by omega))

/-- The number of chunks that count against the capacity. -/
def occupancy (index : ChunkIndex Key) : Nat := index.resident.size + index.pending.size

/-! ## Key chain and prefix lookup -/

section Chain

variable (digest : Key → List Nat → Key)

/-- The tokens of one chunk, `token_ids[i:i + step]`. -/
def tokenSlice (tokenIds : List Nat) (first step : Nat) : List Nat :=
  (tokenIds.drop first).take step

/-- The chain of chunk keys over `count` further chunks, with the last parent. -/
def hashLoop (step : Nat) (tokenIds : List Nat) : Nat → Nat → Key → List Key × Key
  | 0, _, parent => ([], parent)
  | count + 1, first, parent =>
    let key := digest parent (tokenSlice tokenIds first step)
    let rest := hashLoop step tokenIds count (first + step) key
    (key :: rest.1, rest.2)

/-- `hash_keys`: the keys of the complete chunks from `start` on, and the parent
of a continuation. The range of the source has `(len - start) / step` elements. -/
def hashKeys (index : ChunkIndex Key) (tokenIds : List Nat) (start : Nat)
    (parent : Option Key) : List Key × Key :=
  hashLoop digest index.chunkTokens tokenIds ((tokenIds.length - start) / index.chunkTokens) start
    (parent.getD index.keyNamespace)

/-- What the keys of an index depend on. -/
def chain (index : ChunkIndex Key) : Nat × Key := (index.chunkTokens, index.keyNamespace)

theorem hashKeys_of_chain {first second : ChunkIndex Key} (same : first.chain = second.chain) :
    first.hashKeys digest = second.hashKeys digest := by
  obtain ⟨tokens, name⟩ := Prod.mk.inj same
  unfold hashKeys
  rw [tokens, name]

variable [DecidableEq Key]

/-- The loop of `lookup_prefix`: advance while the next chunk is resident, and
make every hit the most recent key. -/
def lookupLoop (step : Nat) (tokenIds : List Nat) : Nat → Nat → Key → Nat →
    OrderedDict Key Unit → Nat × OrderedDict Key Unit
  | 0, _, _, hits, resident => (hits, resident)
  | count + 1, first, parent, hits, resident =>
    let key := digest parent (tokenSlice tokenIds first step)
    if key ∈ resident then
      lookupLoop step tokenIds count (first + step) key (hits + step) (resident.moveToEnd key)
    else (hits, resident)

/-- `lookup_prefix`: the number of tokens in the longest resident chunk prefix. -/
def lookupPrefix (index : ChunkIndex Key) (tokenIds : List Nat) : Nat × ChunkIndex Key :=
  let found := lookupLoop digest index.chunkTokens tokenIds (tokenIds.length / index.chunkTokens)
    0 index.keyNamespace 0 index.resident
  (found.1, { index with resident := found.2 })

end Chain

/-! ## Store plans and settlement -/

variable [DecidableEq Key]

/-- The unprotected resident keys outside the batch, the oldest first. -/
def evictable (index : ChunkIndex Key) (batch : List Key) : List Key :=
  index.resident.keys.filter fun key => key ∉ batch ∧ index.pins key = 0

/-- How many resident keys a batch of new keys would have to displace. -/
def deficit (index : ChunkIndex Key) (newKeys : List Key) : Int :=
  newKeys.length - ((index.capacity : Int) - index.resident.size - index.pending.size)

/-- `plan_store`: admit a batch and reserve its capacity. The result is `none`,
with no change of state, when a key of the batch is already in flight or when
too few keys can be evicted. -/
def planStore (index : ChunkIndex Key) (keys : List Key) :
    Option (StorePlan Key × ChunkIndex Key) :=
  let batch := firstOccurrences keys
  if batch.any (· ∈ index.pending) then none
  else
    let newKeys := batch.filter (· ∉ index.resident)
    let deficit := index.deficit newKeys
    -- Without a deficit nothing is taken, which is the skipped block of the source.
    let evicted := (index.evictable batch).take deficit.toNat
    if (evicted.length : Int) < deficit then none
    else
      some (⟨newKeys, evicted⟩,
        { index with
          resident := index.resident.eraseIf (· ∈ evicted)
          pending := index.pending.setAll newKeys index.epoch })

/-- Settle one key: it leaves the keys in flight and, on success, becomes the
most recent resident key whether or not it was in flight. -/
def confirmKey (ok : Bool) (index : ChunkIndex Key) (key : Key) : ChunkIndex Key :=
  { index with
    pending := index.pending.erase key
    resident :=
      if ok then
        if key ∈ index.resident then index.resident.moveToEnd key
        else index.resident.set key ()
      else index.resident }

/-- `confirm_store`: settle a batch. -/
def confirmStore (index : ChunkIndex Key) (keys : List Key) (ok : Bool) : ChunkIndex Key :=
  keys.foldl (confirmKey ok) index

/-- `advance_epoch`. -/
def advanceEpoch (index : ChunkIndex Key) : ChunkIndex Key :=
  { index with epoch := index.epoch + 1 }

/-- The reservations older than `maxAge` epochs. -/
def staleKeys (index : ChunkIndex Key) (maxAge : Nat) : List Key :=
  if maxAge = 0 then []
  else (index.pending.entries.filter fun entry => entry.2 + maxAge ≤ index.epoch).map Prod.fst

/-- `reclaim_stale_pending`: give back the reservations that were never settled. -/
def reclaimStalePending (index : ChunkIndex Key) (maxAge : Nat) : List Key × ChunkIndex Key :=
  let stale := index.staleKeys maxAge
  (stale, { index with pending := index.pending.eraseIf (· ∈ stale) })

/-! ## Read protection and recency -/

/-- `is_resident`. -/
def isResident (index : ChunkIndex Key) (key : Key) : Bool := key ∈ index.resident

/-- `is_pinned`. -/
def isPinned (index : ChunkIndex Key) (key : Key) : Bool := 0 < index.pins key

/-- `pin`: protect a batch, or raise the missing keys with no effect. -/
def pin (index : ChunkIndex Key) (keys : List Key) : Except (List Key) (ChunkIndex Key) :=
  let missing := keys.filter (· ∉ index.resident)
  if missing ≠ [] then .error missing
  else .ok { index with pins := fun key => index.pins key + keys.count key }

/-- `unpin`: release one protection of each key in order. The first unprotected
key raises, and the keys before it stay released. -/
def unpin (index : ChunkIndex Key) : List Key → Except Key Unit × ChunkIndex Key
  | [] => (.ok (), index)
  | key :: keys =>
    if index.pins key = 0 then (.error key, index)
    else
      unpin { index with pins := update index.pins key (index.pins key - 1) } keys

/-- `mark_recent`: make the resident keys of a batch the most recent ones. -/
def markRecent (index : ChunkIndex Key) (keys : List Key) : ChunkIndex Key :=
  { index with resident := keys.foldl (fun resident key => resident.moveToEnd key) index.resident }

/-- `restore`: make surviving keys resident, keeping the order of present ones. -/
def restore (index : ChunkIndex Key) (keys : List Key) : ChunkIndex Key :=
  keys.foldl (fun current key =>
    { current with
      pending := current.pending.erase key
      resident :=
        if key ∈ current.resident then current.resident else current.resident.set key () })
    index

/-- `forget`: drop the unprotected keys of a batch and return the protected ones. -/
def forget (index : ChunkIndex Key) (keys : List Key) : List Key × ChunkIndex Key :=
  (keys.filter fun key => 0 < index.pins key,
    { index with
      resident := index.resident.eraseIf fun key => key ∈ keys ∧ index.pins key = 0 })

/-! ## What the operations do to the sets of keys -/

variable (index : ChunkIndex Key)

theorem occupancy_eq_card :
    index.occupancy = index.resident.keySet.card + index.pending.keySet.card := by
  rw [occupancy, card_keySet, card_keySet]

/-- A plan is refused for a key in flight or for want of keys to evict. -/
theorem planStore_eq (keys : List Key) :
    index.planStore keys =
      let newKeys := (firstOccurrences keys).filter (· ∉ index.resident)
      let evicted := (index.evictable keys).take (index.deficit newKeys).toNat
      if (∃ key ∈ keys, key ∈ index.pending) ∨
          ((index.evictable keys).length : Int) < index.deficit newKeys then none
      else some (⟨newKeys, evicted⟩, { index with
        resident := index.resident.eraseIf (· ∈ evicted)
        pending := index.pending.setAll newKeys index.epoch }) := by
  have batch : index.evictable (firstOccurrences keys) = index.evictable keys := by
    simp only [evictable, mem_firstOccurrences]
  simp only [planStore, batch, any_eq_true, decide_eq_true_eq, mem_firstOccurrences,
    length_take, ← ite_or]
  refine if_congr (or_congr_right ?_) rfl rfl
  omega

/-- Everything an admitted plan does. The occupancy bound holds even when the
index was over its capacity before. -/
structure Planned (index : ChunkIndex Key) (keys : List Key) (plan : StorePlan Key)
    (next : ChunkIndex Key) : Prop where
  not_pending : ∀ key ∈ keys, key ∉ index.pending
  newKeys_eq : plan.newKeys = (firstOccurrences keys).filter (· ∉ index.resident)
  evicted : ∀ key ∈ plan.evictedKeys, key ∈ index.resident ∧ key ∉ keys ∧ index.pins key = 0
  evicted_nodup : plan.evictedKeys.Nodup
  fits : index.occupancy + plan.newKeys.length ≤ index.capacity + plan.evictedKeys.length
  next_eq : next =
    { index with
      resident := index.resident.eraseIf (· ∈ plan.evictedKeys)
      pending := index.pending.setAll plan.newKeys index.epoch }

variable {keys : List Key} {plan : StorePlan Key}

theorem planStore_planned {index next : ChunkIndex Key}
    (admitted : index.planStore keys = some (plan, next)) : index.Planned keys plan next := by
  rw [planStore_eq] at admitted
  dsimp only at admitted
  split at admitted
  · cases admitted
  rename_i accepted
  push Not at accepted
  obtain ⟨rfl, rfl⟩ := Prod.mk.inj (Option.some.inj admitted)
  refine ⟨accepted.1, rfl, ?_, ?_, ?_, rfl⟩
  · intro key member
    have listed := mem_of_mem_take member
    simpa [evictable, mem_def] using listed
  · exact (index.resident.nodup_keys.filter _).sublist (take_sublist _ _)
  · dsimp only
    rw [length_take]
    unfold deficit occupancy at *
    omega

variable {key : Key}

section Planned

variable {index next : ChunkIndex Key} (planned : index.Planned keys plan next)
include planned

theorem Planned.mem_newKeys :
    key ∈ plan.newKeys ↔ key ∈ keys ∧ key ∉ index.resident := by
  rw [planned.newKeys_eq, mem_filter, mem_firstOccurrences, decide_eq_true_eq]

theorem Planned.mem_resident :
    key ∈ next.resident ↔ key ∉ plan.evictedKeys ∧ key ∈ index.resident := by
  rw [planned.next_eq]
  simp [mem_eraseIf]

theorem Planned.mem_pending :
    key ∈ next.pending ↔ key ∈ plan.newKeys ∨ key ∈ index.pending := by
  rw [planned.next_eq]
  simp only [mem_setAll]

theorem Planned.pins_eq : next.pins = index.pins := by
  rw [planned.next_eq]

/-- After an admitted plan the index is within its capacity. -/
theorem Planned.occupancy_le : next.occupancy ≤ index.capacity := by
  have resident : next.resident.keySet = index.resident.keySet \ plan.evictedKeys.toFinset := by
    ext key
    simp only [mem_keySet, planned.mem_resident, Finset.mem_sdiff, mem_toFinset, and_comm]
  have pending : next.pending.keySet = plan.newKeys.toFinset ∪ index.pending.keySet := by
    ext key
    simp [planned.mem_pending]
  have subset : plan.evictedKeys.toFinset ⊆ index.resident.keySet := by
    intro key member
    exact mem_keySet.mpr (planned.evicted key (mem_toFinset.mp member)).1
  have removed := Finset.card_sdiff_add_card_eq_card subset
  have added := Finset.card_union_le plan.newKeys.toFinset index.pending.keySet
  have fresh := toFinset_card_le plan.newKeys
  have distinct := toFinset_card_of_nodup planned.evicted_nodup
  have fits := planned.fits
  rw [occupancy_eq_card] at fits ⊢
  rw [resident, pending]
  omega

end Planned

@[simp] theorem confirmStore_nil (ok : Bool) : index.confirmStore [] ok = index := rfl

theorem confirmStore_cons (key : Key) (keys : List Key) (ok : Bool) :
    index.confirmStore (key :: keys) ok = (index.confirmKey ok key).confirmStore keys ok := rfl

variable {ok : Bool}

theorem mem_resident_confirmKey {index : ChunkIndex Key} {query : Key} :
    query ∈ (index.confirmKey ok key).resident ↔
      (ok = true ∧ query = key) ∨ query ∈ index.resident := by
  unfold confirmKey
  cases ok with
  | false => simp
  | true =>
    by_cases present : key ∈ index.resident
    · simp only [↓reduceIte, present, mem_moveToEnd, true_and]
      exact ⟨.inr, fun either => either.elim (fun same => same ▸ present) id⟩
    · simp [present]

variable {query : Key}

@[simp] theorem mem_resident_confirmStore {index : ChunkIndex Key} :
    query ∈ (index.confirmStore keys ok).resident ↔
      (ok = true ∧ query ∈ keys) ∨ query ∈ index.resident := by
  induction keys generalizing index with
  | nil => simp [confirmStore_nil]
  | cons key keys ih =>
    rw [confirmStore_cons, ih, mem_resident_confirmKey, mem_cons]
    tauto

@[simp] theorem mem_pending_confirmStore {index : ChunkIndex Key} :
    query ∈ (index.confirmStore keys ok).pending ↔ query ∉ keys ∧ query ∈ index.pending := by
  induction keys generalizing index with
  | nil => simp [confirmStore_nil]
  | cons key keys ih =>
    rw [confirmStore_cons, ih, mem_cons]
    simp only [confirmKey, mem_erase]
    tauto

theorem confirmStore_frame (keys : List Key) (ok : Bool) :
    (index.confirmStore keys ok).pins = index.pins ∧
      (index.confirmStore keys ok).chain = index.chain ∧
      (index.confirmStore keys ok).capacity = index.capacity := by
  induction keys generalizing index with
  | nil => exact ⟨rfl, rfl, rfl⟩
  | cons key keys ih => exact ih (index.confirmKey ok key)

/-- The keys of a settlement that are neither in flight nor resident any more. -/
def lateKeys (index : ChunkIndex Key) (keys : List Key) : Finset Key :=
  keys.toFinset \ (index.resident.keySet ∪ index.pending.keySet)

/-- A successful settlement adds exactly its late keys to the occupancy. -/
theorem occupancy_confirmStore (keys : List Key)
    (disjoint : Disjoint index.resident.keySet index.pending.keySet) :
    (index.confirmStore keys true).occupancy = index.occupancy + (index.lateKeys keys).card := by
  have resident : (index.confirmStore keys true).resident.keySet =
      index.resident.keySet ∪ keys.toFinset := by
    ext key
    simp only [mem_keySet, mem_resident_confirmStore, true_and, Finset.mem_union,
      mem_toFinset, or_comm]
  have pending : (index.confirmStore keys true).pending.keySet =
      index.pending.keySet \ keys.toFinset := by
    ext key
    simp only [mem_keySet, mem_pending_confirmStore, Finset.mem_sdiff, mem_toFinset, and_comm]
  have joint : (index.resident.keySet ∪ keys.toFinset) ∪ (index.pending.keySet \ keys.toFinset) =
      (index.resident.keySet ∪ index.pending.keySet) ∪ index.lateKeys keys := by
    ext key
    simp only [lateKeys, Finset.mem_union, Finset.mem_sdiff]
    tauto
  have apart : Disjoint (index.resident.keySet ∪ keys.toFinset)
      (index.pending.keySet \ keys.toFinset) :=
    Finset.disjoint_union_left.mpr ⟨disjoint.mono_right Finset.sdiff_subset, Finset.disjoint_sdiff⟩
  have late : Disjoint (index.resident.keySet ∪ index.pending.keySet) (index.lateKeys keys) :=
    Finset.disjoint_sdiff
  rw [occupancy_eq_card, occupancy_eq_card, resident, pending, ← Finset.card_union_of_disjoint
    apart, joint, Finset.card_union_of_disjoint late, Finset.card_union_of_disjoint disjoint]

theorem mem_resident_markRecent {index : ChunkIndex Key} :
    query ∈ (index.markRecent keys).resident ↔ query ∈ index.resident := by
  unfold markRecent
  generalize index.resident = resident
  induction keys generalizing resident with
  | nil => rfl
  | cons key keys ih => rw [foldl_cons, ih, mem_moveToEnd]

variable {digest : Key → List Nat → Key}

/-- The keys of the longest prefix that is resident. -/
def prefixHits (digest : Key → List Nat → Key) (index : ChunkIndex Key) (tokenIds : List Nat) :
    List Key :=
  (index.hashKeys digest tokenIds 0 none).1.takeWhile (· ∈ index.resident)

theorem lookupLoop_eq {width : Nat} {tokenIds : List Nat} (count first : Nat) (parent : Key)
    (hits : Nat) (resident : OrderedDict Key Unit) :
    lookupLoop digest width tokenIds count first parent hits resident =
      let found := (hashLoop digest width tokenIds count first parent).1.takeWhile (· ∈ resident)
      (hits + width * found.length,
        found.foldl (fun resident key => resident.moveToEnd key) resident) := by
  induction count generalizing first parent hits resident with
  | zero => rfl
  | succ count ih =>
    rw [lookupLoop, hashLoop]
    split
    · rename_i present
      simp [ih, mem_moveToEnd, present, decide_true, length_cons, foldl_cons, Nat.mul_succ,
        Nat.add_assoc, Nat.add_comm width]
    · rename_i absent
      simp [absent]

/-- A lookup makes the keys of the longest resident prefix the most recent ones. -/
theorem lookupPrefix_eq (digest : Key → List Nat → Key) (index : ChunkIndex Key)
    (tokenIds : List Nat) :
    index.lookupPrefix digest tokenIds =
      (index.chunkTokens * (index.prefixHits digest tokenIds).length,
        index.markRecent (index.prefixHits digest tokenIds)) := by
  rw [lookupPrefix, lookupLoop_eq]
  dsimp only
  rw [Nat.zero_add]
  rfl

/-- Releasing protections lowers their counts and changes nothing else. -/
theorem unpin_eq (keys : List Key) :
    ∃ pins, (index.unpin keys).2 = { index with pins } ∧
      ∀ key, pins key ≤ index.pins key := by
  induction keys generalizing index with
  | nil => exact ⟨index.pins, rfl, fun _ => Nat.le_refl _⟩
  | cons head tail ih =>
    unfold unpin
    by_cases unprotected : index.pins head = 0
    · rw [if_pos unprotected]
      exact ⟨index.pins, rfl, fun _ => Nat.le_refl _⟩
    rw [if_neg unprotected]
    obtain ⟨pins, same, smaller⟩ :=
      ih { index with pins := update index.pins head (index.pins head - 1) }
    refine ⟨pins, same, fun key => (smaller key).trans ?_⟩
    by_cases here : key = head
    · subst here
      simp
    · simp [update_of_ne here]

/-- Protections that are held are all released. -/
theorem unpin_of_held {index : ChunkIndex Key} (held : ∀ key, keys.count key ≤ index.pins key) :
    index.unpin keys =
      (.ok (), { index with pins := fun key => index.pins key - keys.count key }) := by
  induction keys generalizing index with
  | nil => rfl
  | cons head tail ih =>
    have guarded : index.pins head ≠ 0 := by
      have count := held head
      rw [count_cons_self] at count
      omega
    unfold unpin
    rw [if_neg guarded, ih]
    · refine congrArg (fun pins => ((.ok () : Except Key Unit), { index with pins })) ?_
      funext key
      rw [count_cons]
      by_cases same : key = head
      · subst same
        simp only [update_self, beq_self_eq_true, ↓reduceIte]
        omega
      · simp [update_of_ne same, Ne.symm same]
    · intro key
      have count := held key
      rw [count_cons] at count
      by_cases same : key = head
      · subst same
        simp only [update_self, beq_self_eq_true, ↓reduceIte] at count ⊢
        omega
      · simp only [update_of_ne same, beq_iff_eq, Ne.symm same, ↓reduceIte] at count ⊢
        exact count

end ChunkIndex

end Tutti
