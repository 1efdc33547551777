import Tutti.Vllm.SaveBoundary
import Tutti.Vllm.StoreStep

/-!
# When a stored chunk becomes visible

A group is the scheduler's connector with the ranks that carry out its plans. In a step
the scheduler plans saves, every rank runs the step and reports, and the scheduler applies
the aggregated reports. A key that is planned and that all ranks hold at the end of a step
without errors is visible afterwards exactly if no rank held it before: a rank that holds
it already does not write it again and reports it as failed, so that a key which some
ranks have stored and others have not stays invisible for good.
-/

namespace Tutti

open ChunkIndex Connector Foundation List SchedulerMetadataIndex Worker

/-! ## The scheduler's plan of a step -/

namespace Connector

variable {Key Req : Type} [DecidableEq Key] [DecidableEq Req]

/-- The store plan of the step has the key among its new keys. -/
def PlansNew (digest : Key → List Nat → Key) (connector : Connector Key Req)
    (vllm : VllmStep Key Req) (key : Key) : Prop :=
  let planned := connector.plannedStep digest vllm.output vllm.allTokenIds
  ∃ admitted ∈ planned.2.index.planStore (planned.1.flatMap Prod.snd), key ∈ admitted.1.newKeys

instance (digest : Key → List Nat → Key) (connector : Connector Key Req)
    (vllm : VllmStep Key Req) (key : Key) : Decidable (connector.PlansNew digest vllm key) :=
  inferInstanceAs (Decidable (∃ admitted ∈ _, _))

variable {digest : Key → List Nat → Key}

omit [DecidableEq Key] [DecidableEq Req] in
theorem saveKeys_of_chain {first second : Connector Key Req}
    (same : first.index.index.chain = second.index.index.chain) (request : ReqMeta Req) :
    first.saveKeys digest request = second.saveKeys digest request := by
  unfold saveKeys
  rw [hashKeys_of_chain digest same]

variable {connector : Connector Key Req}

omit [DecidableEq Key] in
/-- The keys of a planned request are those of its chunks. -/
theorem keys_of_planned {scheduled : List Req} {entry : ReqMeta Req × List Key}
    (member : entry ∈ (planRequests digest scheduled connector).1) :
    entry.2 = connector.saveKeys digest entry.1 :=
  planRequests_induct digest (fun _ _ _ _ => rfl) (fun connector head _ later => later.trans
    (saveKeys_of_chain (sameFrame_planRequest digest connector head).chain _)) member

/-- A new key of the plan: some request of the step saves it under a label, the step does
not evict it, and it is not resident. -/
theorem buildConnectorMeta_plansNew {vllm : VllmStep Key Req} {key : Key}
    (plans : connector.PlansNew digest vllm key) :
    let built := connector.buildConnectorMeta digest vllm.output vllm.allTokenIds vllm.generation
    (∃ request ∈ built.1.requests, 0 < request.saveChunkCount ∧ request.saveGenerations ≠ [] ∧
        key ∈ connector.saveKeys digest request) ∧
      key ∉ built.1.evictedKeys ∧ key ∉ built.2.index.index.resident := by
  obtain ⟨⟨plan, next⟩, admitted, new⟩ := plans
  have inner := (planStore_planned admitted).1
  obtain ⟨asked, absent⟩ := inner.mem_newKeys.mp new
  obtain ⟨entry, listed, inside⟩ := mem_flatMap.mp asked
  have frame := (sameFrame_trackScheduled connector.beginStep vllm.output vllm.allTokenIds)
  have keys := (keys_of_planned listed).trans (saveKeys_of_chain frame.chain entry.1)
  have some : 0 < entry.1.saveChunkCount := by
    by_contra none
    rw [keys, saveKeys, if_neg none] at inside
    cases inside
  unfold buildConnectorMeta
  generalize connector.plannedStep digest vllm.output vllm.allTokenIds = planned
    at admitted inner asked absent listed ⊢
  have any : planned.1.any (fun entry => decide (0 < entry.1.saveChunkCount)) = true :=
    any_eq_true.mpr ⟨entry, listed, decide_eq_true some⟩
  have admits : admitSaves planned.2 vllm.generation planned.1 =
      (planned.1.map fun entry => { entry.1 with saveGenerations := entry.2.map vllm.generation },
        plan.evictedKeys, { planned.2 with index := next }) := by
    unfold admitSaves
    rw [if_pos any, admitted]
    dsimp only
    rw [if_neg (ne_nil_of_mem new)]
  dsimp only
  rw [admits]
  refine ⟨⟨{ entry.1 with saveGenerations := entry.2.map vllm.generation },
    mem_append_left _ (mem_map.mpr ⟨entry, listed, rfl⟩), some, ?_, ?_⟩, ?_, ?_⟩
  · exact fun none => ne_nil_of_mem inside (map_eq_nil_iff.mp none)
  · rw [keys] at inside
    exact inside
  · exact fun gone => (inner.evicted key gone).2.1 asked
  · exact fun held => absent (inner.mem_resident.mp held).2

/-- How many ranks there are and how keys are computed. -/
def setup (connector : Connector Key Req) : Nat × Nat × Key :=
  (connector.tpSize, connector.index.index.chain)

end Connector

namespace SchedulerMetadataIndex

variable {Key : Type} [DecidableEq Key]

theorem chain_applyWorkerCommits (scheduler : SchedulerMetadataIndex Key)
    (report : TuttiWorkerMetadata Key) (tpSize : Nat) :
    (scheduler.applyWorkerCommits report tpSize).index.chain = scheduler.index.chain := by
  have failing : ∀ (failed : List Key) (start : SchedulerMetadataIndex Key),
      (failed.foldl applyFailed start).index.chain = start.index.chain := by
    intro failed
    induction failed with
    | nil => exact fun _ => rfl
    | cons head tail ih =>
      intro start
      refine (ih _).trans ?_
      unfold applyFailed
      dsimp only
      split
      · exact (confirmStore_frame _ _ _).2.1
      · rfl
  refine (confirmStore_frame _ _ _).2.1.trans ((failing _ _).trans ?_)
  change (scheduler.observeWorkerEvictions report.evicted).2.index.chain = _
  obtain ⟨_, _, frame⟩ := scheduler.observeWorkerEvictions_frame report.evicted
  rw [frame]

end SchedulerMetadataIndex

/-- No callback of vLLM changes the number of ranks, the keys or the sizes, and the trackers
are set by a step only. -/
theorem Serving.step_frame {Key Req : Type} [DecidableEq Key] [DecidableEq Req]
    (digest : Key → List Nat → Key) (serving : Serving Key Req) (action : ServingAction Key Req) :
    let next := (serving.step digest action).connector
    next.setup = serving.connector.setup ∧ next.geometry = serving.connector.geometry ∧
      ((∃ vllm, action = .buildConnectorMeta vllm) ∨ ∀ reqId tracker,
        next.trackers reqId = some tracker → serving.connector.trackers reqId = some tracker) := by
  cases action with
  | getNumNewMatchedTokens reqId tokens numComputedTokens decision =>
    unfold Serving.step getNumNewMatchedTokens
    dsimp only
    split <;> exact ⟨rfl, rfl, .inr fun _ _ => id⟩
  | updateStateAfterAlloc reqId tokens numComputedTokens blocks numExternalTokens =>
    unfold Serving.step updateStateAfterAlloc
    dsimp only
    split
    · exact ⟨rfl, rfl, .inr fun _ _ => id⟩
    · split <;> exact ⟨rfl, rfl, .inr fun _ _ => id⟩
  | buildConnectorMeta vllm =>
    have tracked := sameFrame_trackScheduled serving.connector.beginStep vllm.output
      vllm.allTokenIds
    have admitted := (sameFrame_admitSaves
      (serving.connector.plannedStep digest vllm.output vllm.allTokenIds).2 vllm.generation
      (serving.connector.plannedStep digest vllm.output vllm.allTokenIds).1).1
    have frame := (tracked.trans (sameFrame_planRequests digest _ _)).trans admitted
    exact ⟨Prod.ext frame.tpSize frame.chain, frame.geometry, .inl ⟨vllm, rfl⟩⟩
  | updateConnectorOutput finishedRecving report =>
    cases report with
    | none => exact ⟨rfl, rfl, .inr fun _ _ => id⟩
    | some delta =>
      exact ⟨Prod.ext rfl (chain_applyWorkerCommits _ delta _), rfl, .inr fun _ _ => id⟩
  | requestFinished reqId =>
    refine ⟨rfl, rfl, .inr fun other tracker tracked => ?_⟩
    rcases eq_or_ne other reqId with rfl | different
    · exact nomatch (Function.update_self ..).symm.trans tracked
    · exact (Function.update_of_ne different ..).symm.trans tracked

/-! ## The group -/

/-- The scheduler's connector and the ranks. -/
structure StoreGroup (Key Req : Type) where
  connector : Connector Key Req
  ranks : List (Worker Key Req)

/-- A callback of vLLM to the connector alone, or a whole step of the group. -/
inductive GroupAction (Key Req : Type) where
  | callback (action : ServingAction Key Req)
  | step (vllm : VllmStep Key Req) (finishedRecving : List Req)
      (conducts : List (RankConduct Key Req))

namespace StoreGroup

variable {Key Req : Type} [DecidableEq Key] [DecidableEq Req] (digest : Key → List Nat → Key)

/-- The ranks run a step, each in its own way. -/
def rankSteps (metadata : ConnectorMetadata Key Req) : List (Worker Key Req) →
    List (RankConduct Key Req) → Option (List (TuttiWorkerMetadata Key × Worker Key Req))
  | [], [] => some []
  | rank :: ranks, conduct :: conducts => do
      let outcome ← rank.reportStep digest metadata conduct
      let outcomes ← rankSteps metadata ranks conducts
      return outcome :: outcomes
  | _, _ => none

/-- The metadata of a step and the connector behind it. -/
def built (group : StoreGroup Key Req) (vllm : VllmStep Key Req) :
    ConnectorMetadata Key Req × Connector Key Req :=
  group.connector.buildConnectorMeta digest vllm.output vllm.allTokenIds vllm.generation

/-- One action. In a step the metadata reaches all ranks, and the scheduler applies the
aggregated reports. -/
def act (group : StoreGroup Key Req) : GroupAction Key Req → Option (StoreGroup Key Req)
  | .callback action =>
    some { group with
      connector := (Serving.step digest ⟨group.connector, fun _ => none⟩ action).connector }
  | .step vllm finishedRecving conducts =>
    (rankSteps digest (group.built digest vllm).1 group.ranks conducts).map fun outcomes =>
      ⟨(group.built digest vllm).2.updateConnectorOutput finishedRecving
          (some (TuttiWorkerMetadata.aggregateAll (outcomes.map Prod.fst))),
        outcomes.map Prod.snd⟩

/-- A run of the group, which is over when a rank has ended. -/
def run (group : StoreGroup Key Req) (actions : List (GroupAction Key Req)) :
    Option (StoreGroup Key Req) :=
  runFrom (fun state action => state.bind fun group => group.act digest action) (some group) actions

/-- A group before its first step: as many ranks as the scheduler counts, which compute
keys as the scheduler does. -/
structure Starts (group : StoreGroup Key Req) : Prop where
  some : group.ranks ≠ []
  tpSize : group.connector.tpSize = group.ranks.length
  fresh : ∀ rank ∈ group.ranks, ∃ geometry numBlocks tpSize index,
    rank = Worker.fresh geometry numBlocks tpSize (KVEngine.fresh index) ∧
      index.chain = group.connector.index.index.chain

/-- No rank has an error of its loads in the step. -/
def CleanStep (group : StoreGroup Key Req) (vllm : VllmStep Key Req)
    (conducts : List (RankConduct Key Req)) : Prop :=
  ∀ pair ∈ group.ranks.zip conducts,
    (pair.1.setMetadata (group.built digest vllm).1).Clean digest pair.2.answers
  deriving Decidable

variable {digest}

/-- Every rank has an outcome of its own, and every outcome is that of a rank. -/
theorem rankSteps_some {metadata : ConnectorMetadata Key Req} {ranks : List (Worker Key Req)}
    {conducts : List (RankConduct Key Req)}
    {outcomes : List (TuttiWorkerMetadata Key × Worker Key Req)}
    (ran : rankSteps digest metadata ranks conducts = some outcomes) :
    outcomes.length = ranks.length ∧
      (∀ rank ∈ ranks, ∃ outcome ∈ outcomes, ∃ conduct, (rank, conduct) ∈ ranks.zip conducts ∧
        rank.reportStep digest metadata conduct = some outcome) ∧
      ∀ outcome ∈ outcomes, ∃ rank conduct, (rank, conduct) ∈ ranks.zip conducts ∧
        rank.reportStep digest metadata conduct = some outcome := by
  induction ranks generalizing conducts outcomes with
  | nil =>
    cases conducts with
    | nil =>
      cases ran
      exact ⟨rfl, fun _ member => absurd member not_mem_nil, nofun⟩
    | cons conduct conducts => cases ran
  | cons rank ranks ih =>
    cases conducts with
    | nil => cases ran
    | cons conduct conducts =>
      obtain ⟨outcome, first, rest⟩ := Option.bind_eq_some_iff.mp ran
      obtain ⟨others, later, rest⟩ := Option.bind_eq_some_iff.mp rest
      cases rest
      obtain ⟨length, forward, backward⟩ := ih later
      refine ⟨congrArg (· + 1) length, ?_, ?_⟩
      · refine forall_mem_cons.mpr ⟨⟨outcome, .head _, conduct, .head _, first⟩, ?_⟩
        intro other member
        obtain ⟨result, listed, own, paired, ran⟩ := forward other member
        exact ⟨result, .tail _ listed, own, .tail _ paired, ran⟩
      · refine forall_mem_cons.mpr ⟨⟨rank, conduct, .head _, first⟩, ?_⟩
        intro result member
        obtain ⟨other, own, paired, ran⟩ := backward result member
        exact ⟨other, own, .tail _ paired, ran⟩

/-! ## What holds between two actions -/

/-- The ranks are as many as the scheduler counts and compute keys as it does, no open
plan of a rank is resident there, and nothing is left to be reported. -/
structure Coherent (group : StoreGroup Key Req) : Prop where
  some : group.ranks ≠ []
  tpSize : group.connector.tpSize = group.ranks.length
  chain : ∀ rank ∈ group.ranks, rank.engine.index.chain = group.connector.index.index.chain
  apart : ∀ rank ∈ group.ranks, rank.engine.Apart
  unreported : ∀ rank ∈ group.ranks, rank.report = Worker.nothingReported

omit [DecidableEq Key] [DecidableEq Req] in
theorem Starts.coherent {group : StoreGroup Key Req} (starts : group.Starts) : group.Coherent where
  some := starts.some
  tpSize := starts.tpSize
  chain := by
    intro rank member
    obtain ⟨_, _, _, index, rfl, same⟩ := starts.fresh rank member
    exact same
  apart := by
    intro rank member
    obtain ⟨_, _, _, index, rfl, _⟩ := starts.fresh rank member
    exact fun key member => absurd member (Finset.notMem_empty key)
  unreported := by
    intro rank member
    obtain ⟨_, _, _, index, rfl, _⟩ := starts.fresh rank member
    rfl

theorem Coherent.act {group next : StoreGroup Key Req} (coherent : group.Coherent)
    {action : GroupAction Key Req} (ran : group.act digest action = Option.some next) :
    next.Coherent := by
  cases action with
  | callback action =>
    cases ran
    have same := (Serving.step_frame digest ⟨group.connector, fun _ => none⟩ action).1
    obtain ⟨tpSize, chain⟩ := Prod.mk.inj same
    refine { coherent with tpSize := tpSize.trans coherent.tpSize, chain := fun rank member => ?_ }
    exact (coherent.chain rank member).trans chain.symm
  | step vllm finishedRecving conducts =>
    obtain ⟨outcomes, stepped, rfl⟩ := Option.map_eq_some_iff.mp ran
    obtain ⟨length, _, backward⟩ := rankSteps_some stepped
    have plans := (Serving.step_frame digest ⟨group.connector, fun _ => none⟩
      (.buildConnectorMeta vllm)).1
    have settles := (Serving.step_frame digest ⟨(group.built digest vllm).2, fun _ => none⟩
      (.updateConnectorOutput finishedRecving
        (Option.some (TuttiWorkerMetadata.aggregateAll (outcomes.map Prod.fst))))).1
    obtain ⟨tpSize, chain⟩ := Prod.mk.inj (settles.trans plans)
    -- Each outcome is that of a rank of the group.
    have each : ∀ rank ∈ outcomes.map Prod.snd, ∃ before ∈ group.ranks,
        before.engine.Evolves rank.engine ∧ rank.report = nothingReported := by
      intro rank member
      obtain ⟨outcome, listed, rfl⟩ := mem_map.mp member
      obtain ⟨before, conduct, paired, ran⟩ := backward outcome listed
      exact ⟨before, (of_mem_zip paired).1, reportStep_frame ran⟩
    have same : (outcomes.map Prod.snd).length = group.ranks.length := by
      rw [length_map, length]
    refine ⟨?_, ?_, ?_, ?_, ?_⟩
    · rw [← length_pos_iff, same]
      exact length_pos_iff.mpr coherent.some
    · exact (tpSize.trans coherent.tpSize).trans same.symm
    · intro rank member
      obtain ⟨before, present, evolves, _⟩ := each rank member
      exact (evolves.chain.trans (coherent.chain before present)).trans chain.symm
    · intro rank member
      obtain ⟨before, present, evolves, _⟩ := each rank member
      exact evolves.apart (coherent.apart before present)
    · intro rank member
      obtain ⟨_, _, _, unreported⟩ := each rank member
      exact unreported

theorem Coherent.run {group next : StoreGroup Key Req} (coherent : group.Coherent)
    {actions : List (GroupAction Key Req)} (ran : group.run digest actions = Option.some next) :
    next.Coherent := by
  have preserved : ∀ (state : Option (StoreGroup Key Req)) (action : GroupAction Key Req),
      (∀ last ∈ state, last.Coherent) →
        ∀ last ∈ state.bind fun group => group.act digest action, last.Coherent := by
    intro state action holds last reached
    obtain ⟨before, member, ran⟩ := Option.bind_eq_some_iff.mp reached
    exact (holds before member).act ran
  have initial : ∀ last ∈ Option.some group, last.Coherent := by
    rintro last ⟨⟩
    exact coherent
  exact invariant_runFrom preserved initial actions next ran

/-! ## Visibility -/

/-- A key that the scheduler plans, in a step without errors at the end of which all ranks
hold it: it becomes visible exactly if no rank held it before. -/
theorem visible_iff {start group next : StoreGroup Key Req} {past : List (GroupAction Key Req)}
    (starts : start.Starts) (reached : start.run digest past = some group)
    {vllm : VllmStep Key Req} {finishedRecving : List Req} {conducts : List (RankConduct Key Req)}
    (ran : group.act digest (.step vllm finishedRecving conducts) = some next) {key : Key}
    (plans : group.connector.PlansNew digest vllm key)
    (clean : group.CleanStep digest vllm conducts)
    (held : ∀ rank ∈ next.ranks, key ∈ rank.engine.index.resident) :
    key ∈ next.connector.index.index.resident ↔
      ∀ rank ∈ group.ranks, key ∉ rank.engine.index.resident := by
  have coherent := starts.coherent.run reached
  obtain ⟨outcomes, stepped, rfl⟩ := Option.map_eq_some_iff.mp ran
  obtain ⟨length, forward, backward⟩ := rankSteps_some stepped
  obtain ⟨⟨request, listed, some, labelled, inside⟩, spared, absent⟩ :=
    buildConnectorMeta_plansNew plans
  -- What a rank reports about the key.
  have reports : ∀ rank conduct, (rank, conduct) ∈ group.ranks.zip conducts →
      ∀ outcome ∈ outcomes,
        rank.reportStep digest (group.built digest vllm).1 conduct = Option.some outcome →
        (key ∉ rank.engine.index.resident →
            outcome.1.committed.get? key = Option.some 1 ∧ key ∉ outcome.1.failed) ∧
          (key ∈ rank.engine.index.resident → key ∈ outcome.1.failed) := by
    intro rank conduct paired outcome member reported
    have present := (of_mem_zip paired).1
    have asks : (rank.setMetadata (group.built digest vllm).1).AsksFor digest key := by
      refine ⟨request, listed, some, labelled, ?_⟩
      unfold saveKeys at inside
      rw [if_pos some] at inside
      change key ∈ ((rank.engine.index.hashKeys digest request.tokenIds 0 none).1.drop _).take _
      rw [hashKeys_of_chain digest (coherent.chain rank present)]
      exact inside
    exact reportStep_clean reported (clean _ paired) (coherent.apart rank present)
      (coherent.unreported rank present) asks spared
      (held outcome.2 (mem_map_of_mem member))
  have final := (applyWorkerCommits_spec (group.built digest vllm).2.index
    (TuttiWorkerMetadata.aggregateAll (outcomes.map Prod.fst))
    (group.built digest vllm).2.tpSize key).1
  have sameSize : (group.built digest vllm).2.tpSize = group.connector.tpSize :=
    congrArg Prod.fst (Serving.step_frame digest ⟨group.connector, fun _ => none⟩
      (.buildConnectorMeta vllm)).1
  refine final.trans ⟨fun visible => ?_, fun missing => ?_⟩
  · rcases visible with published | resident
    · intro rank member present
      obtain ⟨outcome, outcomeMember, conduct, paired, reported⟩ := forward rank member
      have failed := (reports rank conduct paired outcome outcomeMember reported).2 present
      exact published.1 (TuttiWorkerMetadata.mem_failed_aggregateAll.mpr
        ⟨outcome.1, mem_map_of_mem outcomeMember, failed⟩)
    · exact absurd resident.1 absent
  have stored : ∀ outcome ∈ outcomes,
      outcome.1.committed.get? key = Option.some 1 ∧ key ∉ outcome.1.failed := by
    intro outcome outcomeMember
    obtain ⟨rank, conduct, paired, reported⟩ := backward outcome outcomeMember
    exact (reports rank conduct paired outcome outcomeMember reported).1
      (missing rank (of_mem_zip paired).1)
  refine .inl ⟨?_, ?_, ?_⟩
  · intro failed
    obtain ⟨_, reportMember, named⟩ := TuttiWorkerMetadata.mem_failed_aggregateAll.mp failed
    obtain ⟨outcome, outcomeMember, rfl⟩ := mem_map.mp reportMember
    exact (stored outcome outcomeMember).2 named
  · obtain ⟨outcome, outcomeMember⟩ := exists_mem_of_length_pos
      (length.symm ▸ length_pos_iff.mpr coherent.some)
    exact TuttiWorkerMetadata.mem_committed_aggregateAll.mpr ⟨outcome.1,
      mem_map_of_mem outcomeMember,
      OrderedDict.mem_iff_get?.mpr ⟨1, (stored outcome outcomeMember).1⟩⟩
  have ones : (outcomes.map Prod.fst).map (fun report => report.committed.getD key 0) =
      replicate outcomes.length 1 := by
    rw [map_map, ← map_const']
    refine map_congr_left fun outcome outcomeMember => ?_
    change (outcome.1.committed.get? key).getD 0 = 1
    rw [(stored outcome outcomeMember).1]
    rfl
  rw [TuttiWorkerMetadata.getD_committed_aggregateAll, ones, sum_replicate_nat, Nat.mul_one,
    length, sameSize, coherent.tpSize]
  exact Nat.le_add_left _ _

/-- Two ranks and a scheduler without any key. -/
def emptyGroup : StoreGroup Nat Nat where
  connector := Connector.fresh .small 0 0 2
    (SchedulerMetadataIndex.init .small 1 [])
  ranks := replicate 2 (Worker.fresh .small 4 2
    (KVEngine.fresh .small))

/-- A request with a prompt of one chunk is scheduled. -/
def onePrompt (reqId : Nat) : VllmStep Nat Nat where
  output :=
    { finishedReqIds := []
      scheduledNewReqs := [⟨reqId, range 5, .flat [0, 1]⟩]
      scheduledCachedReqs := ⟨[], [], []⟩
      numScheduledTokens := fun _ => 4 }
  allTokenIds := fun _ => range 5
  generation := id
  startComputed := fun _ => 0

/-- A rank without any error, whose object pool has room for new chunks or not. -/
def storing (hasRoom : Bool) : RankConduct Nat Nat :=
  ⟨⟨⟨none, none, true, true, true, fun _ => hasRoom⟩, [],
    ⟨none, none, false, false, none, false, true⟩⟩, [], none⟩

theorem starts_emptyGroup : emptyGroup.Starts := by
  refine ⟨cons_ne_nil _ _, rfl, fun rank member => ?_⟩
  rw [eq_of_mem_replicate member]
  exact ⟨_, _, _, _, rfl, rfl⟩

/-- Both ranks write the chunk. -/
theorem visible_iff_firstStore :
    ∃ next ∈ emptyGroup.act Worker.countKey (.step (onePrompt 7) [] [storing true, storing true]),
      1 ∈ next.connector.index.index.resident := by
  have facts : ∃ next ∈ emptyGroup.act countKey
      (.step (onePrompt 7) [] [storing true, storing true]),
        emptyGroup.connector.PlansNew countKey (onePrompt 7) 1 ∧
          emptyGroup.CleanStep countKey (onePrompt 7) [storing true, storing true] ∧
          ∀ rank ∈ next.ranks, 1 ∈ rank.engine.index.resident := by decide +kernel
  obtain ⟨next, ran, plans, clean, held⟩ := facts
  have nothing : ∀ rank ∈ emptyGroup.ranks, 1 ∉ rank.engine.index.resident := by decide
  have reached : emptyGroup.run countKey [] = some emptyGroup := rfl
  exact ⟨next, ran, (visible_iff starts_emptyGroup reached ran plans clean held).mpr nothing⟩

/-- First one rank writes the chunk and the other has no room for it. When it is planned
again, the other rank writes it. Both hold it then, and the scheduler does not. -/
theorem heldChunk_invisible :
    ∃ group ∈ emptyGroup.run Worker.countKey
        [.step (onePrompt 7) [] [storing true, storing false]],
      ∃ next ∈ group.act Worker.countKey (.step (onePrompt 8) [] [storing true, storing true]),
        group.connector.PlansNew Worker.countKey (onePrompt 8) 1 ∧
          group.CleanStep Worker.countKey (onePrompt 8) [storing true, storing true] ∧
          (∀ rank ∈ next.ranks, 1 ∈ rank.engine.index.resident) ∧
          1 ∉ next.connector.index.index.resident := by
  decide +kernel

end StoreGroup

end Tutti
