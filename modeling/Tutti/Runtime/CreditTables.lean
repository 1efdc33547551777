import Tutti.Runtime.Batches

/-!
# Tables of in-flight credits

The memory and the target table count, per slot, the requests in flight. Granting and
returning credits for a list of slots adds and subtracts how often each slot is listed
(`inflightAt_grantCredits`, `inflightAt_returnCredits`). `Covered entries demand` says
that the counts of a table are what is demanded of them, and that a slot in demand is
active; the lemmas below are the ways in which the runtime changes a table.
-/

namespace Tutti

open Foundation StorageRuntime

section Tables

variable {Body : Type} {entries : List (Registered Body)} {demand : Nat → Nat}

/-- A change of one entry shows in the count of its slot only. -/
theorem inflightAt_modify (entries : List (Registered Body)) (slot query : Nat)
    (change : Registered Body → Registered Body) :
    inflightAt (entries.modify slot change) query =
      if slot = query then entries[query]?.elim 0 (fun entry => (change entry).inflightCount)
      else inflightAt entries query := by
  unfold inflightAt
  rw [List.getElem?_modify]
  cases entries[query]? with
  | none => simp
  | some entry =>
    by_cases same : slot = query
    · simp [same]
    · simp [same]

/-- A change that keeps the entry active or inactive does not show in `activeAt`. -/
theorem activeAt_modify (entries : List (Registered Body)) (slot query : Nat)
    (change : Registered Body → Registered Body)
    (kept : ∀ entry, (change entry).active = entry.active) :
    activeAt (entries.modify slot change) query = activeAt entries query := by
  unfold activeAt
  rw [List.getElem?_modify]
  cases entries[query]? with
  | none => rfl
  | some entry =>
    by_cases same : slot = query
    · simp [same, kept]
    · simp [same]

/-- Nor do many such changes. -/
theorem activeAt_foldl (change : Registered Body → Registered Body)
    (kept : ∀ entry, (change entry).active = entry.active) (slots : List Nat)
    (entries : List (Registered Body)) (query : Nat) :
    activeAt (slots.foldl (fun entries slot => entries.modify slot change) entries) query =
      activeAt entries query := by
  induction slots generalizing entries with
  | nil => rfl
  | cons slot slots ih =>
    rw [List.foldl_cons, ih]
    exact activeAt_modify entries slot query change kept

variable {slot : Nat}

/-- An active slot has an entry. -/
theorem getElem?_of_activeAt (active : activeAt entries slot = true) :
    ∃ entry, entries[slot]? = some entry := by
  unfold activeAt at active
  cases found : entries[slot]? with
  | none =>
    rw [found] at active
    cases active
  | some entry => exact ⟨entry, rfl⟩

variable {slots : List Nat}

/-- Granting adds how often a slot is listed. -/
theorem inflightAt_grantCredits {entries : List (Registered Body)}
    (held : ∀ slot ∈ slots, activeAt entries slot = true) (query : Nat) :
    inflightAt (grantCredits slots entries) query =
      inflightAt entries query + slots.count query := by
  induction slots generalizing entries with
  | nil => rfl
  | cons slot slots ih =>
    obtain ⟨entry, found⟩ := getElem?_of_activeAt (held slot (.head _))
    have rest : ∀ other ∈ slots,
        activeAt (entries.modify slot Registered.grantCredit) other = true := by
      intro other member
      rw [activeAt_modify entries slot other Registered.grantCredit fun _ => rfl]
      exact held other (.tail _ member)
    have next := ih rest
    unfold grantCredits at next ⊢
    rw [List.foldl_cons, next, inflightAt_modify, List.count_cons]
    by_cases same : slot = query
    · subst same
      simp only [↓reduceIte, found, Option.elim_some, Registered.grantCredit, inflightAt,
        beq_self_eq_true]
      omega
    · simp [same]

/-- Returning subtracts how often a slot is listed. -/
theorem inflightAt_returnCredits (slots : List Nat) (entries : List (Registered Body))
    (query : Nat) :
    inflightAt (returnCredits slots entries) query =
      inflightAt entries query - slots.count query := by
  induction slots generalizing entries with
  | nil => rfl
  | cons slot slots ih =>
    have next := ih (entries.modify slot Registered.returnCredit)
    unfold returnCredits at next ⊢
    rw [List.foldl_cons, next, inflightAt_modify, List.count_cons]
    by_cases same : slot = query
    · subst same
      unfold inflightAt
      cases entries[slot]? with
      | none => simp
      | some entry =>
        simp only [↓reduceIte, Option.elim_some, Registered.returnCredit, beq_self_eq_true]
        omega
    · simp [same]

structure Covered (entries : List (Registered Body)) (demand : Nat → Nat) : Prop where
  counts : ∀ slot, inflightAt entries slot = demand slot
  active : ∀ slot, 0 < demand slot → activeAt entries slot = true

namespace Covered

section

variable (covered : Covered entries demand)
include covered

/-- A table with the same counts and active slots covers the same demand. -/
theorem sameSlots {after : List (Registered Body)} (same : SameSlots entries after) :
    Covered after demand where
  counts slot := (same slot).1.trans (covered.counts slot)
  active slot wanted := (same slot).2.trans (covered.active slot wanted)

/-- The count of an entry is what is demanded of its slot. -/
theorem inflightCount {entry : Registered Body} (found : entries[slot]? = some entry) :
    entry.inflightCount = demand slot := by
  have counts := covered.counts slot
  rw [inflightAt, found] at counts
  exact counts

/-- A new entry takes a slot that is not in demand. -/
theorem place (generation : Nat) (body : Body) :
    Covered (placeAt entries (findFreeSlot entries) ⟨true, generation, 0, body⟩) demand := by
  have inside := findFreeSlot_le entries
  have unused : activeAt entries (findFreeSlot entries) = false := by
    unfold activeAt
    cases found : entries[findFreeSlot entries]? with
    | none => rfl
    | some entry => exact inactive_of_findFreeSlot found
  have free : demand (findFreeSlot entries) = 0 := by
    by_contra wanted
    have active := covered.active _ (pos_of_ne_zero wanted)
    exact nomatch unused.symm.trans active
  refine ⟨fun slot => ?_, fun slot wanted => ?_⟩
  · unfold inflightAt
    rw [getElem?_placeAt inside]
    split
    · rename_i same
      rw [same, free]
      rfl
    · exact covered.counts slot
  · unfold activeAt
    rw [getElem?_placeAt inside]
    split
    · rfl
    · exact covered.active slot wanted

/-- An entry without credits can be rewritten without credits. -/
theorem retire {old entry : Registered Body} (found : entries[slot]? = some old)
    (idle : old.inflightCount = 0) (still : entry.inflightCount = 0) :
    Covered (entries.set slot entry) demand := by
  have free : demand slot = 0 := by
    rw [← covered.counts slot, inflightAt, found, Option.elim_some, idle]
  refine ⟨fun query => ?_, fun query wanted => ?_⟩
  · rw [inflightAt_set found]
    split
    · rename_i same
      rw [still, same, free]
    · exact covered.counts query
  · rw [activeAt_set found]
    split
    · rename_i same
      rw [same, free] at wanted
      exact absurd wanted (lt_irrefl 0)
    · exact covered.active query wanted

/-- Credits that are granted are demanded afterwards. -/
theorem grant (held : ∀ slot ∈ slots, activeAt entries slot = true) :
    Covered (grantCredits slots entries) (fun slot => demand slot + slots.count slot) where
  counts slot := by
    rw [inflightAt_grantCredits held, covered.counts]
  active slot wanted := by
    rw [grantCredits, activeAt_foldl Registered.grantCredit fun _ => rfl]
    by_cases listed : slot ∈ slots
    · exact held slot listed
    · rw [List.count_eq_zero.mpr listed] at wanted
      exact covered.active slot wanted

/-- Credits that are returned are no longer demanded. -/
theorem giveBack {left : Nat → Nat} (split : ∀ slot, left slot + slots.count slot = demand slot) :
    Covered (returnCredits slots entries) left where
  counts slot := by
    rw [inflightAt_returnCredits, covered.counts, ← split slot, Nat.add_sub_cancel]
  active slot wanted := by
    rw [returnCredits, activeAt_foldl Registered.returnCredit fun _ => rfl]
    exact covered.active slot (by rw [← split slot]; omega)

/-- A table covers every demand that is the same slot by slot. -/
theorem congr {other : Nat → Nat} (same : ∀ slot, other slot = demand slot) :
    Covered entries other where
  counts slot := (covered.counts slot).trans (same slot).symm
  active slot wanted := covered.active slot ((same slot) ▸ wanted)

end

end Covered

end Tables

end Tutti
