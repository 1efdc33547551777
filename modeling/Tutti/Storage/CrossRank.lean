import Mathlib.Data.List.TakeWhile
import Tutti.Storage.ResidencyOpen

/-!
# What all ranks hold

The ranks of a group each run a store of their own over one residency directory.
A rank that is asked for the prefix committed everywhere reads the other ranks'
bits at the slots where it has the keys itself. The answer is right as long as
the bits are truthful and the ranks have the same key in the same slot; nothing
in the stores sees to the latter.
-/

namespace Tutti

open Bool Foundation Function

namespace ObjectStoreCore

/-! ## What an operation of a rank brings in -/

/-- The keys and slots that an operation may commit, read off the state before. -/
def Gains (config : StoreConfig) (session : Session) :
    RankOp → ObjectKey → Nat → Prop
  | .store (.commit keys), key, slot =>
    key ∈ keys.map Prod.fst ∧ ∃ entry, session.core.Reserves key entry ∧ entry.slot = slot
  | .reopen _, key, slot => session.core.opened = false ∧
      ∃ stored ∈ retainedIn config session.media, stored.key = key ∧ stored.slot = slot ∧
        (surveyor config).confirms session.media stored = true
  | _, _, _ => False

/-- What an operation of a rank does to the committed keys and to the bits. -/
structure RankEffect (config : StoreConfig) (before after : Session)
    (gains : ObjectKey → Nat → Prop) : Prop where
  origin : ∀ key entry, after.core.Holds key entry →
    before.core.Holds key entry ∨ gains key entry.slot
  bits : ∀ root rank slot, residencyBit after.media root rank slot = true →
    residencyBit before.media root rank slot = true ∨ after.core.CommittedAt slot
  others : OthersKept config before.media after.media

variable {config : StoreConfig}

theorem Quiet.effect {before after : Session} {gains : ObjectKey → Nat → Prop}
    (quiet : Quiet before after) :
    RankEffect config before after gains where
  origin := fun key entry holds => .inl ((quiet.holds key entry).mp holds)
  bits := by
    intro root rank slot set
    rw [residencyBit, quiet.residency] at set
    exact .inl set
  others := by
    intro root rank _
    rw [quiet.residency]

variable {core : ObjectStoreCore}

theorem RankLaid.notOwn (laid : RankLaid config core) {root : NormalPath} {rank : Nat}
    (apart : ¬ (root = config.root ∧ rank = config.rankId)) : core.NotOwn root rank := by
  intro mapping own
  rw [(laid.own mapping own).2]
  exact apart

theorem rankEffect_rankStep {session : Session} (laid : RankLaid config session.core)
    (operation : RankOp) :
    RankEffect config session (rankStep config session operation)
      (Gains config session operation) := by
  cases operation with
  | store operation =>
    by_cases commits : ∃ keys, operation = .commit keys
    · obtain ⟨keys, rfl⟩ := commits
      have committing := committing_commit session keys
      exact ⟨committing.origin, committing.bits,
        fun root rank apart => committing.others root rank (laid.notOwn apart)⟩
    by_cases releases : ∃ keys, operation = .release keys
    · obtain ⟨keys, rfl⟩ := releases
      have releasing := releasing_release session keys
      exact ⟨fun key entry holds => .inl (releasing.origin key entry holds),
        fun root rank slot set => .inl (releasing.bits root rank slot set),
        fun root rank apart => releasing.others root rank (laid.notOwn apart)⟩
    · push Not at commits releases
      exact (step_quiet session commits releases).effect
  | close outcome => exact (quiet_close session outcome).effect
  | reopen faults =>
    by_cases opened : session.core.opened = true
    · have same : (openStore session config faults).2 = session := by
        unfold openStore
        split
        · rfl
        · rw [if_pos opened]
          split <;> rfl
      rw [rankStep, same]
      exact (Quiet.refl session).effect
    · have opening := opening_openStore laid faults
      refine ⟨fun key entry holds => ?_,
        fun root rank slot set => .inl (opening.bits root rank slot set), opening.others⟩
      rcases opening.origin key entry holds.1 with before | ⟨stored, member, source⟩
      · exact .inl ⟨before, holds.2⟩
      · exact .inr ⟨eq_false_iff.mpr opened, stored, member, source.key, source.slot,
          source.confirms⟩

/-- Whatever a rank does to its store, with any faults, the bitmaps of the other ranks stay as they
are. -/
theorem other_bitmaps_kept (config : StoreConfig) (media : Media) (operations : List RankOp) :
    OthersKept config media (runFrom (rankStep config) ⟨fresh, media⟩ operations).media := by
  suffices run : ∀ session : Session, RankLaid config session.core →
      OthersKept config session.media (runFrom (rankStep config) session operations).media from
    run ⟨fresh, media⟩ (rankLaid_fresh config)
  induction operations with
  | nil => exact fun _ _ _ _ _ => rfl
  | cons operation operations ih =>
    intro session laid root rank apart
    apply (ih _ (laid.rankStep operation) root rank apart).trans
    exact (rankEffect_rankStep laid operation).others root rank apart

/-! ## The group -/

/-- The ranks of a group, over the same media. -/
structure Cluster (count : Nat) where
  media : Media
  cores : Fin count → ObjectStoreCore

variable {count : Nat} {configs : Fin count → StoreConfig}

def Cluster.session (cluster : Cluster count) (rank : Fin count) : Session :=
  ⟨cluster.cores rank, cluster.media⟩

/-- One rank does something. -/
def Cluster.step (configs : Fin count → StoreConfig) (cluster : Cluster count)
    (action : Fin count × RankOp) : Cluster count :=
  let reached := rankStep (configs action.1) (cluster.session action.1) action.2
  ⟨reached.media, update cluster.cores action.1 reached.core⟩

/-- The configurations of a group: every rank under its number, over one
namespace root. -/
structure Grouped (configs : Fin count → StoreConfig) : Prop where
  rankId : ∀ rank, (configs rank).rankId = rank.val
  rankCount : ∀ rank, (configs rank).rankCount = count
  root : ∀ rank other, (configs rank).root = (configs other).root

/-- No other rank has another key committed in this slot. -/
def Cluster.Unclaimed (cluster : Cluster count) (rank : Fin count) (key : ObjectKey)
    (slot : Nat) : Prop :=
  ∀ other, other ≠ rank → ∀ holder entry, (cluster.cores other).Holds holder entry →
    entry.slot = slot → holder = key

/-- A rank commits or recovers a key only in a slot where no other rank has
another key, and releases keys only while its bitmap is mapped. -/
structure Cluster.Agreeing (configs : Fin count → StoreConfig) (cluster : Cluster count)
    (action : Fin count × RankOp) : Prop where
  releases : ReleasesMapped (cluster.session action.1) action.2
  gains : ∀ key slot, Gains (configs action.1) (cluster.session action.1) action.2 key slot →
    cluster.Unclaimed action.1 key slot

/-- The answer of a rank is right: the keys it counts are committed on every
rank. -/
def Cluster.AnswersRight (cluster : Cluster count) (rank : Fin count) : Prop :=
  ∀ keys : List ObjectKey, ∀ key ∈ keys.take
    ((cluster.cores rank).containsPrefixAllRanks cluster.media keys), ∀ other,
      (cluster.cores other).contains key = true

/-- What holds of a group between two operations. -/
structure Cluster.Consistent (configs : Fin count → StoreConfig) (cluster : Cluster count) :
    Prop where
  faithful : ∀ rank, Faithful (configs rank) (cluster.session rank)
  beyond : ∀ rank slot, slotTotal (configs rank) ≤ slot →
    residencyBit cluster.media (configs rank).root (configs rank).rankId slot = false
  agree : ∀ rank other, other ≠ rank → ∀ key entry holder held,
    (cluster.cores rank).Holds key entry → (cluster.cores other).Holds holder held →
    held.slot = entry.slot → holder = key

variable {cluster : Cluster count}

theorem Cluster.Consistent.step (consistent : cluster.Consistent configs)
    (grouped : Grouped configs) {action : Fin count × RankOp}
    (agreeing : cluster.Agreeing configs action) :
    (cluster.step configs action).Consistent configs := by
  obtain ⟨rank, operation⟩ := action
  have laid := (consistent.faithful rank).laid
  have stepped := (consistent.faithful rank).rankStep agreeing.releases
  have effect := rankEffect_rankStep laid operation
  -- The rank itself, and the files of the other ranks, which stay as they are.
  have own : (cluster.step configs (rank, operation)).session rank =
      rankStep (configs rank) (cluster.session rank) operation :=
    congrArg₂ Session.mk (update_self _ _ _) rfl
  have core : ∀ other, other ≠ rank →
      (cluster.step configs (rank, operation)).cores other = cluster.cores other :=
    fun other different => update_of_ne different _ _
  have bit : ∀ other, other ≠ rank → ∀ slot,
      residencyBit (cluster.step configs (rank, operation)).media (configs other).root
        (configs other).rankId slot =
      residencyBit cluster.media (configs other).root (configs other).rankId slot := by
    intro other different slot
    have distinct : (configs other).rankId ≠ (configs rank).rankId := by
      rw [grouped.rankId, grouped.rankId]
      exact fun same => different (Fin.ext same)
    have file : (cluster.step configs (rank, operation)).media.residency _ _ = _ :=
      effect.others (configs other).root (configs other).rankId fun same => distinct same.2
    rw [residencyBit, file]
    rfl
  -- A key that the rank has now it had before, or no other rank objects to it.
  have fits : ∀ other, other ≠ rank → ∀ key entry holder held,
      ((cluster.step configs (rank, operation)).cores rank).Holds key entry →
      (cluster.cores other).Holds holder held → held.slot = entry.slot → holder = key := by
    intro other different key entry holder held holds theirs same
    have holds :
        (rankStep (configs rank) (cluster.session rank) operation).core.Holds key entry := by
      rw [← own]
      exact holds
    rcases effect.origin key entry holds with before | gained
    · exact consistent.agree rank other different key entry holder held before theirs same
    · exact agreeing.gains key entry.slot gained other different holder held theirs same
  refine ⟨fun other => ?_, fun other slot outside => ?_, fun first second different => ?_⟩
  · by_cases here : other = rank
    · subst here
      rw [own]
      exact stepped
    refine ⟨?_, fun slot exists_ set => ?_⟩
    · rw [Cluster.session, core other here]
      exact (consistent.faithful other).laid
    rw [Cluster.session] at set ⊢
    rw [bit other here] at set
    rw [core other here]
    exact (consistent.faithful other).truthful slot exists_ set
  · by_cases here : other = rank
    · subst here
      by_contra set
      have set := eq_true_of_not_eq_false set
      rcases effect.bits _ _ _ set with before | ⟨key, entry, holds, rfl⟩
      · exact false_ne_true ((consistent.beyond other slot outside).symm.trans before)
      · exact absurd (stepped.laid.slots key entry holds.1) (not_lt.mpr outside)
    · rw [bit other here]
      exact consistent.beyond other slot outside
  · intro key entry holder held holds theirs same
    by_cases here : first = rank
    · subst here
      rw [core second different] at theirs
      exact fits second different key entry holder held holds theirs same
    rw [core first here] at holds
    by_cases there : second = rank
    · subst there
      exact (fits first here holder held key entry theirs holds same.symm).symm
    · rw [core second there] at theirs
      exact consistent.agree first second different key entry holder held holds theirs same

variable {rank : Fin count}

/-- A set bit of any rank stands for a key committed there. -/
theorem Cluster.Consistent.committedAt (consistent : cluster.Consistent configs) {slot : Nat}
    (set : residencyBit cluster.media (configs rank).root (configs rank).rankId slot = true) :
    (cluster.cores rank).CommittedAt slot := by
  by_cases inside : slot < slotTotal (configs rank)
  · exact (consistent.faithful rank).truthful slot inside set
  · rw [consistent.beyond rank slot (not_lt.mp inside)] at set
    cases set

theorem contains_iff {key : ObjectKey} :
    core.contains key = true ↔ ∃ entry, core.Holds key entry := by
  unfold contains Holds
  cases core.index.get? key with
  | none => exact iff_of_false nofun fun ⟨_, present, _⟩ => nomatch present
  | some entry =>
    simp

theorem mem_take_takeWhile {α : Type*} {predicate : α → Bool} {values : List α} {value : α}
    (member : value ∈ values.take (values.takeWhile predicate).length) :
    predicate value = true := by
  rw [← List.prefix_iff_eq_take.mp (List.takeWhile_prefix predicate)] at member
  exact List.mem_takeWhile_imp member

/-- What the conjunction of all bitmaps says about another rank's file. -/
theorem RankLaid.bit_of_allRanks {media : Media} {other : Fin count}
    (laid : RankLaid (configs rank) core) (grouped : Grouped configs)
    (config : core.config = configs rank) (mapped : core.ownResidency.usable = true)
    (different : other ≠ rank) {slot : Nat}
    (everywhere : allRanksCommitted media core.rankBitmaps slot = true) :
    residencyBit media (configs other).root (configs other).rankId slot = true := by
  have apart : other.val ≠ (configs rank).rankId := by
    rw [grouped.rankId]
    exact fun same => different (Fin.ext same)
  have listed : core.peerResidency.getD other.val none ∈ core.rankBitmaps := by
    refine List.mem_map.mpr ⟨other.val, List.mem_range.mpr ?_, ?_⟩
    · rw [config, grouped.rankCount]
      exact other.isLt
    · rw [config, if_neg apart]
  unfold allRanksCommitted at everywhere
  split at everywhere
  · cases everywhere
  obtain ⟨usable, set⟩ := and_eq_true_iff.mp (List.all_eq_true.mp everywhere _ listed)
  obtain ⟨mapping, peer⟩ := Option.isSome_iff_exists.mp usable
  rw [peer, test_some, laid.peers mapped other.val mapping apart peer] at set
  rw [grouped.root other rank, grouped.rankId]
  exact set.2

/-- A rank whose bitmap is mapped answers right. -/
theorem Cluster.Consistent.answersRight (consistent : cluster.Consistent configs)
    (grouped : Grouped configs) (mapped : (cluster.cores rank).ownResidency.usable = true) :
    cluster.AnswersRight rank := by
  have laid := (consistent.faithful rank).laid
  obtain ⟨mapping, own⟩ := Option.isSome_iff_exists.mp mapped
  have config : (cluster.cores rank).config = configs rank := (laid.own mapping own).1
  intro keys key counted other
  unfold containsPrefixAllRanks at counted
  rw [mapped, config, grouped.rankCount] at counted
  split at counted
  · rename_i alone
    have single : count ≤ 1 := alone.resolve_right (by decide)
    have same : other = rank := Fin.ext (by omega)
    rw [same]
    exact mem_take_takeWhile counted
  have found := mem_take_takeWhile counted
  cases present : (cluster.cores rank).index.get? key with
  | none =>
    rw [present] at found
    cases found
  | some entry =>
    rw [present] at found
    obtain ⟨committed, everywhere⟩ := and_eq_true_iff.mp found
    have holds : (cluster.cores rank).Holds key entry := ⟨present, committed⟩
    by_cases here : other = rank
    · rw [here]
      exact contains_iff.mpr ⟨entry, holds⟩
    obtain ⟨holder, held, theirs, located⟩ := consistent.committedAt
      (laid.bit_of_allRanks grouped config mapped here everywhere)
    rw [← consistent.agree rank other here key entry holder held holds theirs located]
    exact contains_iff.mpr ⟨held, theirs⟩

/-- New stores over some media. -/
def Cluster.cold (count : Nat) (media : Media) : Cluster count := ⟨media, fun _ => fresh⟩

theorem Cluster.consistent_cold {media : Media} (clear : ∀ rank slot,
      residencyBit media (configs rank).root (configs rank).rankId slot = false) :
    (Cluster.cold count media).Consistent configs where
  faithful := by
    refine fun rank => ⟨rankLaid_fresh _, fun slot _ set => ?_⟩
    exact (false_ne_true ((clear rank slot).symm.trans set)).elim
  beyond := fun rank slot _ => clear rank slot
  agree := by
    intro rank other _ key entry holder held holds
    cases holds.1

/-- In every run of the ranks from a directory without set bits, in which a rank
commits or recovers a key only in a slot where no other rank has another one and
releases keys only while its bitmap is mapped, every rank whose bitmap is mapped
answers right. -/
theorem answersRight_of_agreeing (grouped : Grouped configs) {media : Media} (clear : ∀ rank slot,
      residencyBit media (configs rank).root (configs rank).rankId slot = false)
    (actions : List (Fin count × RankOp))
    (along : Along (Cluster.step configs) (Cluster.Agreeing configs) (Cluster.cold count media)
      actions) :
    Always (Cluster.step configs) (fun cluster => ∀ rank,
      (cluster.cores rank).ownResidency.usable = true → cluster.AnswersRight rank)
      (Cluster.cold count media) actions := by
  have kept : ∀ cluster action, Cluster.Consistent configs cluster →
      Cluster.Agreeing configs cluster action →
      Cluster.Consistent configs (Cluster.step configs cluster action) :=
    fun cluster action consistent agreeing => consistent.step grouped agreeing
  refine (along.always kept (Cluster.consistent_cold clear)).imp ?_
  intro cluster consistent rank mapped
  exact consistent.answersRight grouped mapped

/-! ## The same slot for different keys -/

/-- Two ranks of two slots each. -/
def twoRanks (rank : Fin 2) : StoreConfig := ranksConfig rank.val

theorem grouped_twoRanks : Grouped twoRanks := ⟨fun _ => rfl, fun _ => rfl, fun _ _ => rfl⟩

/-- An operation agrees with the other ranks if it gains none but the keys that they
have. -/
theorem Cluster.agreeing_of_entries {operation : RankOp}
    (releases : ReleasesMapped (cluster.session rank) operation)
    (theirs : ∀ other, other ≠ rank → ∀ pair ∈ (cluster.cores other).index.entries, ∀ key slot,
      Gains (configs rank) (cluster.session rank) operation key slot → pair.1 = key) :
    cluster.Agreeing configs (rank, operation) :=
  ⟨releases, fun key slot gains other different holder entry holds _ =>
    theirs other different (holder, entry) (OrderedDict.get?_eq_some_iff.mp holds.1) key slot gains⟩

/-- Both ranks open their stores and commit the same key in slot 0. -/
def together : List (Fin 2 × RankOp) :=
  [(0, .reopen {}), (1, .reopen {}), (0, .store (.reserve [[1]])), (1, .store (.reserve [[1]])),
    (0, .store (.commit [([1], .done)])), (1, .store (.commit [([1], .done)]))]

/-- The second rank says of the key that it is committed everywhere, and it is. -/
theorem answersRight_of_agreeing_together :
    let start := Cluster.cold 2 coldMedia
    let reached := runFrom (Cluster.step twoRanks) start together
    Along (Cluster.step twoRanks) (Cluster.Agreeing twoRanks) start together ∧
      (reached.cores 1).containsPrefixAllRanks reached.media [[1]] = 1 ∧
      (reached.cores 0).contains [1] = true ∧
      Always (Cluster.step twoRanks) (fun cluster => ∀ rank,
        (cluster.cores rank).ownResidency.usable = true → cluster.AnswersRight rank)
        start together := by
  intro start reached
  have named : ∀ {config : StoreConfig} {session : Session} {key : ObjectKey} {slot : Nat},
      Gains config session (.store (.commit [([1], .done)])) key slot → [1] = key :=
    fun gains => (List.mem_singleton.mp gains.1).symm
  refine ⟨?along, by decide +kernel, by decide +kernel,
    answersRight_of_agreeing grouped_twoRanks (fun _ _ => rfl) _ ?along⟩
  refine ⟨Cluster.agreeing_of_entries trivial ?_, Cluster.agreeing_of_entries trivial ?_,
    ⟨trivial, fun _ _ => False.elim⟩, ⟨trivial, fun _ _ => False.elim⟩,
    Cluster.agreeing_of_entries trivial ?_, Cluster.agreeing_of_entries trivial ?_, trivial⟩
  · rintro other _ pair ⟨⟩
  · have none : ∀ other, other ≠ 1 → ((start.step twoRanks (0, .reopen {})).cores
        other).index.entries = [] := by decide +kernel
    intro other different pair member
    rw [none other different] at member
    cases member
  · have only : ∀ other, ∀ pair ∈ ((runFrom (Cluster.step twoRanks) start
        (together.take 4)).cores other).index.entries, pair.1 = [1] := by decide +kernel
    intro other _ pair member key slot gains
    exact (only other pair member).trans (named gains)
  · have only : ∀ other, ∀ pair ∈ ((runFrom (Cluster.step twoRanks) start
        (together.take 5)).cores other).index.entries, pair.1 = [1] := by decide +kernel
    intro other _ pair member key slot gains
    exact (only other pair member).trans (named gains)

/-- Each rank opens its store and commits a key of its own. -/
def crossing : List (Fin 2 × RankOp) :=
  [(0, .reopen {}), (0, .store (.reserve [[1]])), (0, .store (.commit [([1], .done)])),
    (1, .reopen {}), (1, .store (.reserve [[2]])), (1, .store (.commit [([2], .done)]))]

/-- Both ranks have slot 0 committed, for different keys: the second rank says of
its key that it is committed everywhere, and the first rank has never seen it. -/
theorem crossing_overReports :
    ((runFrom (Cluster.step twoRanks) (Cluster.cold 2 coldMedia) crossing).cores
        1).containsPrefixAllRanks
          (runFrom (Cluster.step twoRanks) (Cluster.cold 2 coldMedia) crossing).media [[2]] = 1 ∧
      ((runFrom (Cluster.step twoRanks) (Cluster.cold 2 coldMedia) crossing).cores 0).contains
        [2] = false := by
  decide +kernel

end ObjectStoreCore

end Tutti
