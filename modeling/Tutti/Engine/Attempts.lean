import Mathlib.Data.Fintype.Card
import Tutti.Engine.Metadata
import Tutti.Foundation.Run

/-!
# Which attempt publishes a chunk

The scheduler counts success reports per key and keeps neither the ranks nor the
planning a report belongs to. The run below carries that history beside the
scheduler's state: how often a key was planned, whether the last planning has
ended, and which ranks reported success for it. As long as every success report
is for a planning that is still open, a key is published only once all ranks have
stored it in the same attempt. A late report breaks this, since the counter it
leaves behind survives the next planning.
-/

namespace Tutti

open Foundation List
open OrderedDict hiding keys

variable {Key : Type} [DecidableEq Key] {tpSize : Nat}

/-- The report of one rank in one step. Every stored key carries the number of
the planning it was stored for, which the message itself does not contain. -/
structure RankReport (Key : Type) (tpSize : Nat) where
  rank : Fin tpSize
  stored : List (Key × Nat)
  failed : List Key
  forgotten : List Key
  evicted : List Key

/-- The message of a rank: each stored key counts once. -/
def RankReport.toMetadata (report : RankReport Key tpSize) : TuttiWorkerMetadata Key where
  committed := (∅ : OrderedDict Key Nat).setAll (report.stored.map Prod.fst) 1
  failed := report.failed
  forgotten := report.forgotten
  evicted := report.evicted

/-- The aggregated message of a step. -/
def aggregateReports (reports : List (RankReport Key tpSize)) : TuttiWorkerMetadata Key :=
  TuttiWorkerMetadata.aggregateAll (reports.map RankReport.toMetadata)

/-- What the scheduler does not record: the number of plannings of a key, whether
a failure, a forget or a reclaim has ended the last one, and the ranks that
reported success for it. -/
structure Ledger (Key : Type) (tpSize : Nat) where
  plannings : Key → Nat
  ended : Key → Bool
  reporters : Key → Finset (Fin tpSize)

namespace Ledger

/-- Nothing has been planned. -/
def empty : Ledger Key tpSize := ⟨fun _ => 0, fun _ => false, fun _ => ∅⟩

/-- A new planning of each of the keys. -/
def plan (ledger : Ledger Key tpSize) (keys : List Key) : Ledger Key tpSize where
  plannings := fun key => if key ∈ keys then ledger.plannings key + 1 else ledger.plannings key
  ended := fun key => if key ∈ keys then false else ledger.ended key
  reporters := fun key => if key ∈ keys then ∅ else ledger.reporters key

/-- The last planning of each of the keys has ended. -/
def close (ledger : Ledger Key tpSize) (keys : List Key) : Ledger Key tpSize :=
  { ledger with ended := fun key => key ∈ keys || ledger.ended key }

/-- The ranks of a step that report success for the last planning of a key. -/
def newReporters (ledger : Ledger Key tpSize) (reports : List (RankReport Key tpSize)) (key : Key) :
    Finset (Fin tpSize) :=
  ((reports.filter fun report => report.stored.contains (key, ledger.plannings key)).map
    RankReport.rank).toFinset

/-- Remember the ranks that reported success. -/
def record (ledger : Ledger Key tpSize) (reports : List (RankReport Key tpSize)) :
    Ledger Key tpSize :=
  { ledger with reporters := fun key => ledger.reporters key ∪ ledger.newReporters reports key }

end Ledger

/-- The scheduler with the history of its plannings. -/
structure Attempts (Key : Type) (tpSize : Nat) where
  scheduler : SchedulerMetadataIndex Key
  ledger : Ledger Key tpSize

/-- The operations that plan, reclaim and settle. -/
inductive AttemptAction (Key : Type) (tpSize : Nat) where
  | planStore (keys : List Key)
  | beginStep (maxPendingAge : Nat)
  | applyWorkerCommits (reports : List (RankReport Key tpSize))

namespace Attempts

/-- One operation of the scheduler, and its trace in the ledger. -/
def step (state : Attempts Key tpSize) : AttemptAction Key tpSize → Attempts Key tpSize
  | .planStore keys =>
    match state.scheduler.planStore keys with
    | none => state
    | some (plan, scheduler) => ⟨scheduler, state.ledger.plan plan.newKeys⟩
  | .beginStep maxPendingAge =>
    ⟨(state.scheduler.beginStep maxPendingAge).2,
      state.ledger.close (state.scheduler.index.advanceEpoch.staleKeys maxPendingAge)⟩
  | .applyWorkerCommits reports =>
    let message := aggregateReports reports
    ⟨state.scheduler.applyWorkerCommits message tpSize,
      (state.ledger.close (message.failed ++ message.forgotten)).record reports⟩

/-- A key that the operation makes resident was stored by all ranks for its last
planning, and nothing has ended that planning. Residency is compared with the
state after the report's own withdrawals. -/
def PublishesWhole (state : Attempts Key tpSize) : AttemptAction Key tpSize → Prop
  | .applyWorkerCommits reports =>
    let next := state.step (.applyWorkerCommits reports)
    ∀ key, key ∉ (state.scheduler.withdraw (aggregateReports reports)).index.resident →
      key ∈ next.scheduler.index.resident →
        0 < next.ledger.plannings key ∧ next.ledger.reporters key = Finset.univ ∧
          next.ledger.ended key = false
  | _ => True

/-- Every rank sends one report, and every success report that counts belongs to
the last planning of its key, while that planning is open and for the first time. -/
def ReportsCurrent (state : Attempts Key tpSize) : AttemptAction Key tpSize → Prop
  | .applyWorkerCommits reports =>
    (reports.map RankReport.rank).Nodup ∧
      ∀ report ∈ reports, ∀ entry ∈ report.stored,
        entry.1 ∉ (aggregateReports reports).failed →
          entry.2 = state.ledger.plannings entry.1 ∧ 0 < state.ledger.plannings entry.1 ∧
            state.ledger.ended entry.1 = false ∧
            entry.1 ∉ (aggregateReports reports).forgotten ∧
            report.rank ∉ state.ledger.reporters entry.1
  | _ => True

instance (state : Attempts Key tpSize) (action : AttemptAction Key tpSize) :
    Decidable (state.ReportsCurrent action) := by
  cases action <;> unfold ReportsCurrent <;> infer_instance

/-- The counter of a key is the number of ranks that stored it in an open,
unpublished attempt and zero otherwise; such an attempt still has its
reservation. -/
structure Tallied (state : Attempts Key tpSize) : Prop where
  count : ∀ key, state.scheduler.rankCommitCounts key =
    if 0 < state.ledger.plannings key ∧ state.ledger.ended key = false ∧
        (state.ledger.reporters key).card < tpSize
    then (state.ledger.reporters key).card else 0
  reserved : ∀ key, 0 < state.ledger.plannings key → state.ledger.ended key = false →
    (state.ledger.reporters key).card < tpSize → key ∈ state.scheduler.index.pending

/-! ## Counting reports -/

theorem getD_toMetadata_committed (report : RankReport Key tpSize) (key : Key) :
    report.toMetadata.committed.getD key 0 = if key ∈ report.stored.map Prod.fst then 1 else 0 := by
  simp only [RankReport.toMetadata, OrderedDict.getD, get?_setAll]
  split <;> rfl

variable {reports : List (RankReport Key tpSize)} {key : Key}

theorem mem_aggregateReports_committed :
    key ∈ (aggregateReports reports).committed ↔
      ∃ report ∈ reports, ∃ planning, (key, planning) ∈ report.stored := by
  simp [aggregateReports, TuttiWorkerMetadata.mem_committed_aggregateAll,
    RankReport.toMetadata, mem_setAll]

/-- The aggregated count of a key is the number of reports that store it. -/
theorem getD_aggregateReports_committed (reports : List (RankReport Key tpSize)) (key : Key) :
    (aggregateReports reports).committed.getD key 0 =
      (reports.filter fun report => key ∈ report.stored.map Prod.fst).length := by
  rw [aggregateReports, TuttiWorkerMetadata.getD_committed_aggregateAll, map_map]
  induction reports with
  | nil => rfl
  | cons report reports ih =>
    rw [map_cons, sum_cons, ih, Function.comp_apply, getD_toMetadata_committed, filter_cons]
    by_cases stores : key ∈ report.stored.map Prod.fst
    · simp only [stores, ↓reduceIte, decide_true, length_cons]
      omega
    · simp [stores]

variable {state : Attempts Key tpSize}

/-- Current reports of distinct ranks add one new reporter each. -/
theorem ReportsCurrent.card_newReporters
    (current : state.ReportsCurrent (.applyWorkerCommits reports))
    (alive : key ∉ (aggregateReports reports).failed) :
    (state.ledger.reporters key ∪ state.ledger.newReporters reports key).card =
      (state.ledger.reporters key).card + (aggregateReports reports).committed.getD key 0 := by
  obtain ⟨distinct, fresh⟩ := current
  have tagged : (reports.filter fun report => key ∈ report.stored.map Prod.fst) =
      reports.filter fun report => report.stored.contains (key, state.ledger.plannings key) := by
    refine filter_congr fun report member => Bool.eq_iff_iff.mpr ?_
    rw [decide_eq_true_iff, contains_iff_mem]
    constructor
    · intro stores
      obtain ⟨⟨name, planning⟩, stored, rfl⟩ := mem_map.mp stores
      exact (fresh report member (name, planning) stored alive).1 ▸ stored
    · exact fun stored => mem_map.mpr ⟨_, stored, rfl⟩
  have apart : Disjoint (state.ledger.reporters key) (state.ledger.newReporters reports key) := by
    rw [Finset.disjoint_right]
    intro rank new old
    obtain ⟨report, chosen, rfl⟩ := mem_map.mp (mem_toFinset.mp new)
    obtain ⟨member, stored⟩ := mem_filter.mp chosen
    exact (fresh report member _ (contains_iff_mem.mp stored) alive).2.2.2.2 old
  rw [Finset.card_union_of_disjoint apart, getD_aggregateReports_committed, tagged,
    Ledger.newReporters, toFinset_card_of_nodup, length_map]
  exact distinct.sublist (filter_sublist.map _)

/-- Without a report of the key its reporters stay the same. -/
theorem newReporters_eq_empty (ledger : Ledger Key tpSize)
    (silent : key ∉ (aggregateReports reports).committed) :
    ledger.newReporters reports key = ∅ := by
  rw [Ledger.newReporters, toFinset_eq_empty_iff, map_eq_nil_iff, filter_eq_nil_iff]
  intro report member stored
  exact silent (mem_aggregateReports_committed.mpr ⟨report, member, _, contains_iff_mem.mp stored⟩)

/-! ## The counter over a run -/

section

variable {state : Attempts Key tpSize} (tallied : state.Tallied)
include tallied

theorem Tallied.planStore (keys : List Key) : (state.step (.planStore keys)).Tallied := by
  cases admitted : state.scheduler.planStore keys with
  | none =>
    simp only [step, admitted]
    exact tallied
  | some result =>
    obtain ⟨planned, next⟩ := SchedulerMetadataIndex.planStore_planned admitted
    simp only [step, admitted]
    refine ⟨fun key => ?_, fun key existing stillOpen missing => ?_⟩
    · rw [next]
      by_cases new : key ∈ result.1.newKeys
      · -- Only an attempt that is over leaves its key free to be planned again.
        have terminal : state.scheduler.rankCommitCounts key = 0 := by
          rw [tallied.count key, if_neg]
          intro waiting
          exact planned.not_pending key (planned.mem_newKeys.mp new).1
            (tallied.reserved key waiting.1 waiting.2.1 waiting.2.2)
        simp [terminal, Ledger.plan, new]
      · simp only [Ledger.plan, new]
        exact tallied.count key
    · apply planned.mem_pending.mpr
      by_cases new : key ∈ result.1.newKeys
      · exact .inl new
      · simp only [Ledger.plan, new] at existing stillOpen missing
        exact .inr (tallied.reserved key existing stillOpen missing)

theorem Tallied.beginStep (maxPendingAge : Nat) :
    (state.step (.beginStep maxPendingAge)).Tallied := by
  refine ⟨fun key => ?_, fun key existing stillOpen missing => ?_⟩
  · simp only [step, SchedulerMetadataIndex.beginStep, ChunkIndex.reclaimStalePending,
      SchedulerMetadataIndex.popCounts, Ledger.close]
    by_cases stale : key ∈ state.scheduler.index.advanceEpoch.staleKeys maxPendingAge
    · simp [stale]
    · simp only [stale, decide_false]
      exact tallied.count key
  · simp only [step, Ledger.close, Bool.or_eq_false_iff, decide_eq_false_iff_not] at stillOpen
    refine mem_eraseIf.mpr ⟨decide_eq_false stillOpen.1, ?_⟩
    exact tallied.reserved key existing stillOpen.2 missing

variable {reports : List (RankReport Key tpSize)}
  (current : state.ReportsCurrent (.applyWorkerCommits reports))
include current

/-- What a report does to a key whose success it carries. -/
theorem Tallied.counted (alive : key ∉ (aggregateReports reports).failed)
    (member : key ∈ (aggregateReports reports).committed) :
    0 < state.ledger.plannings key ∧ state.ledger.ended key = false ∧
      key ∉ (aggregateReports reports).forgotten ∧
      state.scheduler.countBefore (aggregateReports reports) key +
          (aggregateReports reports).committed.getD key 0 =
        (state.ledger.reporters key ∪ state.ledger.newReporters reports key).card := by
  obtain ⟨report, sent, planning, stored⟩ := mem_aggregateReports_committed.mp member
  obtain ⟨-, existing, stillOpen, kept, first⟩ := current.2 report sent (key, planning) stored alive
  have incomplete : (state.ledger.reporters key).card < tpSize := by
    have bound := Finset.card_lt_univ_of_notMem first
    rwa [Fintype.card_fin] at bound
  refine ⟨existing, stillOpen, kept, ?_⟩
  rw [current.card_newReporters alive, SchedulerMetadataIndex.countBefore,
    SchedulerMetadataIndex.popCounts, if_neg kept, tallied.count key,
    if_pos ⟨existing, stillOpen, incomplete⟩]

/-- A success report that counts publishes exactly when all ranks have reported. -/
theorem Tallied.publishes_iff (alive : key ∉ (aggregateReports reports).failed)
    (member : key ∈ (aggregateReports reports).committed) :
    state.scheduler.Publishes (aggregateReports reports) tpSize key ↔
      tpSize ≤ (state.ledger.reporters key ∪ state.ledger.newReporters reports key).card := by
  obtain ⟨-, -, -, total⟩ := tallied.counted current alive member
  rw [SchedulerMetadataIndex.Publishes, total]
  exact ⟨fun published => published.2.2, fun enough => ⟨alive, member, enough⟩⟩

theorem Tallied.applyWorkerCommits :
    (state.step (.applyWorkerCommits reports)).Tallied := by
  refine ⟨fun key => ?_, fun key existing stillOpen missing => ?_⟩
  · obtain ⟨-, -, count⟩ := state.scheduler.applyWorkerCommits_spec (aggregateReports reports)
      tpSize key
    simp only [step, Ledger.record, Ledger.close, mem_append]
    rw [count]
    by_cases failed : key ∈ (aggregateReports reports).failed
    · simp [failed]
    by_cases member : key ∈ (aggregateReports reports).committed
    · obtain ⟨existing, stillOpen, kept, total⟩ := tallied.counted current failed member
      have publishes := tallied.publishes_iff current failed member
      simp only [failed, kept, false_or, decide_false, Bool.false_or, stillOpen, existing,
        true_and, publishes, total, ← not_lt, ite_not, Ledger.newReporters]
    have silent := newReporters_eq_empty state.ledger member
    have quiet : ¬ state.scheduler.Publishes (aggregateReports reports) tpSize key :=
      fun published => member published.2.1
    have nothing : (aggregateReports reports).committed.getD key 0 = 0 := by
      rw [OrderedDict.getD, get?_eq_none_iff.mpr member, Option.getD_none]
    simp only [Ledger.newReporters] at silent
    simp only [failed, quiet, nothing, false_or, SchedulerMetadataIndex.countBefore,
      SchedulerMetadataIndex.popCounts, silent, Ledger.newReporters, Finset.union_empty]
    by_cases forgotten : key ∈ (aggregateReports reports).forgotten
    · simp [forgotten]
    · simp only [forgotten, decide_false]
      exact tallied.count key
  · obtain ⟨-, pending, -⟩ := state.scheduler.applyWorkerCommits_spec (aggregateReports reports)
      tpSize key
    simp only [step, Ledger.record, Ledger.close, mem_append, Bool.or_eq_false_iff,
      decide_eq_false_iff_not, not_or] at existing stillOpen missing
    obtain ⟨⟨failed, forgotten⟩, stillOpen⟩ := stillOpen
    have before : (state.ledger.reporters key).card < tpSize :=
      (Finset.card_le_card Finset.subset_union_left).trans_lt missing
    refine pending.mpr ⟨fun published => ?_, tallied.reserved key existing stillOpen before,
      fun inside => absurd inside failed⟩
    exact not_lt.mpr ((tallied.publishes_iff current failed published.2.1).mp published) missing

end

variable (action : AttemptAction Key tpSize)

theorem Tallied.step (tallied : state.Tallied) (current : state.ReportsCurrent action) :
    (state.step action).Tallied := by
  cases action with
  | planStore keys => exact tallied.planStore keys
  | beginStep maxPendingAge => exact tallied.beginStep maxPendingAge
  | applyWorkerCommits reports => exact tallied.applyWorkerCommits current

theorem Tallied.publishesWhole (tallied : state.Tallied) (current : state.ReportsCurrent action) :
    state.PublishesWhole action := by
  cases action with
  | planStore keys => trivial
  | beginStep maxPendingAge => trivial
  | applyWorkerCommits reports =>
    intro key absent resident
    obtain ⟨_, withdrawn, _⟩ := state.scheduler.withdraw_spec (aggregateReports reports) key
    obtain ⟨after, _, _⟩ := state.scheduler.applyWorkerCommits_spec (aggregateReports reports)
      tpSize key
    have published := (after.mp resident).resolve_right fun old => absent (withdrawn.mpr old)
    have alive := published.1
    have member := published.2.1
    obtain ⟨existing, stillOpen, kept, -⟩ := tallied.counted current alive member
    have full := (tallied.publishes_iff current alive member).mp published
    refine ⟨existing, ?_, ?_⟩
    · apply Finset.eq_univ_of_card
      rw [Fintype.card_fin]
      exact le_antisymm (card_finset_fin_le _) full
    · simp [Attempts.step, Ledger.record, Ledger.close, alive, kept, stillOpen]

/-- A scheduler whose counters are empty, for instance after its cold start. -/
def start (scheduler : SchedulerMetadataIndex Key) : Attempts Key tpSize :=
  ⟨scheduler, Ledger.empty⟩

/-- In every run of an initialised scheduler whose success reports are current, a
key becomes resident only when every rank stored it in the same attempt. -/
theorem run_publishesWhole (index : ChunkIndex Key) (numLayers : Nat) (records : List (Key × Nat))
    (actions : List (AttemptAction Key tpSize)) (current : Along step ReportsCurrent
      (start (SchedulerMetadataIndex.init index numLayers records)) actions) :
    Along step PublishesWhole (start (SchedulerMetadataIndex.init index numLayers records))
      actions :=
  Along.imp_of_invariant Tallied (fun _ action => Tallied.step action)
    (fun _ action => Tallied.publishesWhole action) ⟨fun _ => (if_neg fun planned =>
      lt_irrefl 0 planned.1).symm, fun _ planned => absurd planned (lt_irrefl 0)⟩ current

/-- An empty scheduler index over numbered chunks. -/
def emptyScheduler : SchedulerMetadataIndex Nat :=
  SchedulerMetadataIndex.init (ChunkIndex.fresh 4 16 0 (Nat.succ_pos 3) (by decide)) 1 []

/-- Two ranks settle one attempt in different steps. -/
theorem run_publishesWhole_twoRanks :
    let actions : List (AttemptAction Nat 2) :=
      [.planStore [7], .applyWorkerCommits [⟨0, [(7, 1)], [], [], []⟩],
        .applyWorkerCommits [⟨1, [(7, 1)], [], [], []⟩]]
    Along step PublishesWhole (start emptyScheduler) actions ∧
      7 ∈ (runFrom step (start emptyScheduler) actions).scheduler.index.resident :=
  ⟨run_publishesWhole _ _ _ _ (by decide), by decide⟩

/-- The state after the first planning of chunk `7` was reclaimed, rank `1` reported
it late and the chunk was planned again. -/
def replanned : Attempts Nat 2 :=
  runFrom step (start emptyScheduler)
    [.planStore [7], .beginStep 1, .applyWorkerCommits [⟨Fin.last 1, [(7, 1)], [], [], []⟩],
      .planStore [7]]

/-- The late report of the first attempt completes the second one: the chunk
becomes resident although only rank `0` has stored it since it was planned. -/
theorem replanned_publishes_partially :
    let last := replanned.step (.applyWorkerCommits [⟨0, [(7, 2)], [], [], []⟩])
    7 ∉ replanned.scheduler.index.resident ∧ 7 ∈ last.scheduler.index.resident ∧
      last.ledger.plannings 7 = 2 ∧ last.ledger.reporters 7 = {0} ∧
      ¬ replanned.PublishesWhole (.applyWorkerCommits [⟨0, [(7, 2)], [], [], []⟩]) := by
  intro last
  refine ⟨by decide, by decide, by decide, by decide, fun whole => ?_⟩
  have all := (whole 7 (by decide) (by decide)).2.1
  exact absurd all (by decide)

end Attempts

end Tutti
