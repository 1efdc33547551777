import Tutti.Foundation.Run
import Tutti.Index.ChunkIndex

/-!
# The capacity contract of the chunk index

Over arbitrary interleavings of its operations the index keeps resident and
in-flight keys apart, keeps protected keys resident and never evicts or forgets
one. It stays within its capacity exactly as long as every successful settlement
finds free room for those of its keys whose reservation is gone: a plan checks
the free room, a settlement does not.
-/

namespace Tutti

open Foundation OrderedDict

/-- The operations on an index after its construction. -/
inductive IndexAction (Key : Type) where
  | planStore (keys : List Key)
  | confirmStore (keys : List Key) (ok : Bool)
  | advanceEpoch
  | reclaimStalePending (maxAge : Nat)
  | forget (keys : List Key)
  | pin (keys : List Key)
  | unpin (keys : List Key)
  | markRecent (keys : List Key)
  | lookupPrefix (tokenIds : List Nat)
deriving DecidableEq, Repr

namespace ChunkIndex

variable {Key : Type} [DecidableEq Key]

/-- One operation. A rejected plan and a failing `pin` leave the index as it
was, and a failing `unpin` keeps what it had released. -/
def step (digest : Key → List Nat → Key) (index : ChunkIndex Key) :
    IndexAction Key → ChunkIndex Key
  | .planStore keys => ((index.planStore keys).map Prod.snd).getD index
  | .confirmStore keys ok => index.confirmStore keys ok
  | .advanceEpoch => index.advanceEpoch
  | .reclaimStalePending maxAge => (index.reclaimStalePending maxAge).2
  | .forget keys => (index.forget keys).2
  | .pin keys => (index.pin keys).toOption.getD index
  | .unpin keys => (index.unpin keys).2
  | .markRecent keys => index.markRecent keys
  | .lookupPrefix tokenIds => (index.lookupPrefix digest tokenIds).2

variable {index : ChunkIndex Key} {keys : List Key} (digest : Key → List Nat → Key)

/-- A plan is refused and changes nothing, or admitted. -/
theorem step_planStore {motive : ChunkIndex Key → Prop} (refused : motive index)
    (admitted : ∀ plan next, index.Planned keys plan next → motive next) :
    motive (index.step digest (.planStore keys)) := by
  rw [step]
  cases result : index.planStore keys with
  | none => exact refused
  | some planned => exact admitted planned.1 planned.2 (planStore_planned result)

theorem step_lookupPrefix (tokenIds : List Nat) :
    index.step digest (.lookupPrefix tokenIds) =
      index.markRecent (index.prefixHits digest tokenIds) := by
  rw [step, lookupPrefix_eq]

/-- The keys that an operation lists as new in a store plan. -/
def plannedKeys (index : ChunkIndex Key) : IndexAction Key → List Key
  | .planStore keys => ((index.planStore keys).map fun admitted => admitted.1.newKeys).getD []
  | _ => []

/-- Every settlement of the run names only keys that an earlier plan listed as
new; `planned` collects them. -/
def SettlesPlanned (digest : Key → List Nat → Key) :
    ChunkIndex Key → List Key → List (IndexAction Key) → Prop
  | _, _, [] => True
  | index, planned, action :: actions =>
    (match action with
      | .confirmStore keys _ => ∀ key ∈ keys, key ∈ planned
      | _ => True) ∧
    SettlesPlanned digest (index.step digest action) (index.plannedKeys action ++ planned) actions

/-- What the index promises in every state. -/
structure Contract (index : ChunkIndex Key) : Prop where
  disjoint : ∀ key ∈ index.resident, key ∉ index.pending
  bounded : index.occupancy ≤ index.capacity
  pinned_resident : ∀ key, 0 < index.pins key → key ∈ index.resident

/-- The operation removes no protected key. -/
def KeepsPinned (digest : Key → List Nat → Key) (index : ChunkIndex Key)
    (action : IndexAction Key) : Prop :=
  ∀ key ∈ index.resident, 0 < index.pins key → key ∈ (index.step digest action).resident

/-- A successful settlement finds free room for its late keys. -/
def SettlementFits (index : ChunkIndex Key) : IndexAction Key → Prop
  | .confirmStore keys true => index.occupancy + (index.lateKeys keys).card ≤ index.capacity
  | _ => True

instance (index : ChunkIndex Key) (action : IndexAction Key) :
    Decidable (index.SettlementFits action) := by
  unfold SettlementFits
  split <;> infer_instance

/-- An operation that adds no key keeps the contract as long as the protected
keys stay. -/
theorem Contract.of_subset {index next : ChunkIndex Key} (contract : index.Contract)
    (capacity : next.capacity = index.capacity)
    (resident : ∀ key, key ∈ next.resident → key ∈ index.resident)
    (pending : ∀ key, key ∈ next.pending → key ∈ index.pending)
    (pinned : ∀ key, 0 < next.pins key → key ∈ next.resident) : next.Contract where
  disjoint := fun key member inFlight =>
    contract.disjoint key (resident key member) (pending key inFlight)
  bounded := by
    have residentCard : next.resident.keySet.card ≤ index.resident.keySet.card :=
      Finset.card_le_card fun key member =>
        mem_keySet.mpr (resident key (mem_keySet.mp member))
    have pendingCard : next.pending.keySet.card ≤ index.pending.keySet.card :=
      Finset.card_le_card fun key member =>
        mem_keySet.mpr (pending key (mem_keySet.mp member))
    have bounded := contract.bounded
    rw [occupancy_eq_card] at bounded ⊢
    omega
  pinned_resident := pinned

theorem Contract.planned {index next : ChunkIndex Key} {plan : StorePlan Key}
    (contract : index.Contract) (planned : index.Planned keys plan next) : next.Contract where
  disjoint := by
    intro key member inFlight
    obtain ⟨_, resident⟩ := planned.mem_resident.mp member
    rcases planned.mem_pending.mp inFlight with new | old
    · exact (planned.mem_newKeys.mp new).2 resident
    · exact contract.disjoint key resident old
  bounded := by
    have capacity : next.capacity = index.capacity := by rw [planned.next_eq]
    rw [capacity]
    exact planned.occupancy_le
  pinned_resident := by
    intro key pinned
    rw [planned.pins_eq] at pinned
    refine planned.mem_resident.mpr ⟨fun evicted => ?_, contract.pinned_resident key pinned⟩
    exact ne_of_gt pinned (planned.evicted key evicted).2.2

section

variable (contract : index.Contract)
include contract

/-- A successful settlement keeps the contract exactly when its late keys fit. -/
theorem Contract.confirmStore_iff (keys : List Key) :
    index.occupancy + (index.lateKeys keys).card ≤ index.capacity ↔
      (index.confirmStore keys true).Contract := by
  have apart : Disjoint index.resident.keySet index.pending.keySet := by
    rw [Finset.disjoint_left]
    intro key resident pending
    exact contract.disjoint key (mem_keySet.mp resident) (mem_keySet.mp pending)
  obtain ⟨pins, _, capacity⟩ := index.confirmStore_frame keys true
  constructor
  · intro fits
    refine ⟨?_, ?_, ?_⟩
    · intro key member inFlight
      obtain ⟨outside, pending⟩ := mem_pending_confirmStore.mp inFlight
      rcases mem_resident_confirmStore.mp member with ⟨_, inside⟩ | resident
      · exact outside inside
      · exact contract.disjoint key resident pending
    · rw [occupancy_confirmStore index keys apart, capacity]
      exact fits
    · intro key pinned
      rw [pins] at pinned
      exact mem_resident_confirmStore.mpr (.inr (contract.pinned_resident key pinned))
  · intro next
    have bounded := next.bounded
    rwa [occupancy_confirmStore index keys apart, capacity] at bounded

theorem Contract.markRecent (keys : List Key) :
    (index.markRecent keys).Contract :=
  contract.of_subset rfl (fun _ => mem_resident_markRecent.mp) (fun _ => id)
    fun key pinned => mem_resident_markRecent.mpr (contract.pinned_resident key pinned)

theorem Contract.forget (keys : List Key) :
    (index.forget keys).2.Contract := by
  refine contract.of_subset rfl (fun key member => (mem_eraseIf.mp member).2)
    (fun _ => id) fun key pinned => ?_
  refine mem_eraseIf.mpr ⟨?_, contract.pinned_resident key pinned⟩
  exact decide_eq_false fun removed => ne_of_gt pinned removed.2

theorem Contract.pin {next : ChunkIndex Key} (pinned : index.pin keys = .ok next) :
    next.Contract := by
  unfold ChunkIndex.pin at pinned
  dsimp only at pinned
  split at pinned
  · cases pinned
  rename_i present
  obtain rfl := Except.ok.inj pinned
  refine contract.of_subset rfl (fun _ => id) (fun _ => id) fun key positive => ?_
  by_cases member : key ∈ keys
  · rw [not_not, List.filter_eq_nil_iff] at present
    have resident := present key member
    rwa [decide_eq_true_eq, not_not] at resident
  · apply contract.pinned_resident
    simpa [List.count_eq_zero_of_not_mem member] using positive

/-- The exact condition under which one operation keeps the contract. -/
theorem Contract.step_iff (action : IndexAction Key) :
    index.SettlementFits action ↔ (index.step digest action).Contract := by
  cases action with
  | planStore keys =>
    exact iff_of_true trivial (step_planStore digest (motive := Contract) contract
      fun _ _ planned => contract.planned planned)
  | confirmStore keys ok =>
    cases ok with
    | true => exact contract.confirmStore_iff keys
    | false =>
      obtain ⟨pins, _, capacity⟩ := index.confirmStore_frame keys false
      refine iff_of_true trivial (contract.of_subset capacity ?_ ?_ ?_)
      · intro key member
        exact (mem_resident_confirmStore.mp member).resolve_left fun wrong => nomatch wrong.1
      · intro key member
        exact (mem_pending_confirmStore.mp member).2
      intro key pinned
      rw [step, pins] at pinned
      exact mem_resident_confirmStore.mpr (.inr (contract.pinned_resident key pinned))
  | advanceEpoch =>
    exact iff_of_true trivial
      (contract.of_subset rfl (fun _ => id) (fun _ => id) contract.pinned_resident)
  | reclaimStalePending maxAge =>
    exact iff_of_true trivial (contract.of_subset rfl (fun _ => id)
      (fun key member => (mem_eraseIf.mp member).2) contract.pinned_resident)
  | forget keys => exact iff_of_true trivial (contract.forget keys)
  | pin keys =>
    refine iff_of_true trivial ?_
    cases pinned : index.pin keys with
    | error missing =>
      simp only [step, pinned]
      exact contract
    | ok next =>
      simp only [step, pinned]
      exact contract.pin pinned
  | unpin keys =>
    obtain ⟨pins, same, smaller⟩ := index.unpin_eq keys
    rw [step, same]
    exact iff_of_true trivial (contract.of_subset rfl (fun _ => id) (fun _ => id)
      fun key pinned => contract.pinned_resident key (pinned.trans_le (smaller key)))
  | markRecent keys => exact iff_of_true trivial (contract.markRecent keys)
  | lookupPrefix tokenIds =>
    rw [step_lookupPrefix]
    exact iff_of_true trivial (contract.markRecent _)

end

/-- No operation removes a protected key, whatever the state. -/
theorem keepsPinned (index : ChunkIndex Key) (action : IndexAction Key) :
    index.KeepsPinned digest action := by
  intro key resident protectedKey
  cases action with
  | planStore keys =>
    refine step_planStore digest (motive := fun next => key ∈ next.resident) resident
      fun plan next planned => planned.mem_resident.mpr ⟨fun evicted => ?_, resident⟩
    exact ne_of_gt protectedKey (planned.evicted key evicted).2.2
  | confirmStore keys ok => exact mem_resident_confirmStore.mpr (.inr resident)
  | advanceEpoch => exact resident
  | reclaimStalePending maxAge => exact resident
  | forget keys =>
    refine mem_eraseIf.mpr ⟨?_, resident⟩
    exact decide_eq_false fun removed => ne_of_gt protectedKey removed.2
  | pin keys =>
    simp only [step, ChunkIndex.pin]
    split <;> exact resident
  | unpin keys =>
    obtain ⟨pins, same, _⟩ := index.unpin_eq keys
    rw [step, same]
    exact resident
  | markRecent keys => exact mem_resident_markRecent.mpr resident
  | lookupPrefix tokenIds =>
    rw [step_lookupPrefix]
    exact mem_resident_markRecent.mpr resident

/-- A run of a fresh index keeps its contract and its protected keys in every
state exactly when every successful settlement finds room for its late keys. -/
theorem run_contract_iff (digest : Key → List Nat → Key) (capacity chunkTokens : Nat)
    (keyNamespace : Key) (capacity_pos : 0 < capacity) (chunkTokens_pos : 0 < chunkTokens)
    (actions : List (IndexAction Key)) :
    let start := fresh capacity chunkTokens keyNamespace capacity_pos chunkTokens_pos
    (Always (step digest) Contract start actions ∧
        Along (step digest) (KeepsPinned digest) start actions) ↔
      Along (step digest) SettlementFits start actions := by
  intro start
  have initial : start.Contract := ⟨fun key member => absurd member (not_mem_empty key),
    Nat.zero_le capacity, fun _ pinned => absurd pinned (Nat.lt_irrefl 0)⟩
  have exactly := along_iff_always
    (fun index action (contract : index.Contract) => contract.step_iff digest action) initial
    actions
  refine ⟨fun sound => exactly.mpr sound.1, fun fits => ⟨exactly.mp fits, ?_⟩⟩
  exact Along.imp_of_invariant (fun _ => True) (fun _ _ _ _ => trivial)
    (fun index action _ _ => keepsPinned digest index action) trivial fits

/-- An index of one chunk writes, protects and releases key `0` and then displaces
it by key `1`, all within the contract. -/
theorem run_contract_displacing :
    let start : ChunkIndex Nat := fresh 1 16 7 (by decide) (by decide)
    let actions : List (IndexAction Nat) :=
      [.planStore [0], .confirmStore [0] true, .pin [0], .planStore [1], .unpin [0],
        .planStore [1], .confirmStore [1] true]
    Always (step fun parent _ => parent) Contract start actions ∧
      Along (step fun parent _ => parent) (KeepsPinned fun parent _ => parent) start actions :=
  (run_contract_iff _ 1 16 7 (by decide) (by decide) _).mpr (by decide)

/-- The reservation of key `0` is reclaimed, its only chunk of capacity goes to
key `1`, and the late settlement of key `0` then overfills the index. -/
def overfillingRun : List (IndexAction Nat) :=
  [.planStore [0], .advanceEpoch, .reclaimStalePending 1, .planStore [1], .confirmStore [0] true]

/-- Settling only planned keys does not keep the index within its capacity. -/
theorem overfillingRun_exceeds :
    let start : ChunkIndex Nat := fresh 1 16 0 (by decide) (by decide)
    let last := runFrom (step fun parent _ => parent) start overfillingRun
    SettlesPlanned (fun parent _ => parent) start [] overfillingRun ∧
      last.occupancy = 2 ∧ last.capacity = 1 ∧ ¬ last.Contract := by
  intro start last
  have occupancy : last.occupancy = 2 := by decide
  have capacity : last.capacity = 1 := by decide
  refine ⟨⟨trivial, trivial, trivial, trivial, by decide, trivial⟩, occupancy, capacity, ?_⟩
  intro contract
  have bounded := contract.bounded
  omega

end ChunkIndex

end Tutti
