import Tutti.Engine.Metadata
import Tutti.Vllm.Geometry

/-!
# The scheduler side of the connector

`TuttiConnectorV1` answers prefix queries, remembers which loads vLLM has
allocated blocks for, and folds each scheduler output into the transfer plan of
the step. The chunk digest, the load-mode policy and the generation labels of a
step are parameters.
-/

namespace Tutti

open Foundation Function List

/-- An empty index for eight chunks of four tokens. -/
def ChunkIndex.small : ChunkIndex Nat :=
  fresh 8 4 0 (by decide) ChunkGeometry.small.chunkTokens_pos

/-- `_RequestTracker`: the tokens, blocks and saved boundary of a request. -/
structure RequestTracker where
  tokenIds : List Nat
  blockIds : List Nat
  savedTokens : Nat
deriving DecidableEq, Repr

namespace RequestTracker

/-- `update`: append newly scheduled tokens, and append or replace blocks. -/
def update (tracker : RequestTracker) (newTokenIds : List Nat) (newBlockIds : BlockIds)
    (replaceBlocks : Bool) : RequestTracker :=
  { tracker with
    tokenIds := tracker.tokenIds ++ newTokenIds
    blockIds :=
      if replaceBlocks then flattenBlocks newBlockIds
      else tracker.blockIds ++ flattenBlocks newBlockIds }

/-- `advance_save`: the first chunk to save and the number of chunks, with the
saved boundary moved behind them. -/
def advanceSave (tracker : RequestTracker) (chunkTokens : Nat) : (Nat × Nat) × RequestTracker :=
  let tokenLen := tracker.tokenIds.length
  let boundary := cdiv (tracker.savedTokens + 1) chunkTokens * chunkTokens
  if tokenLen < boundary then ((tracker.savedTokens / chunkTokens, 0), tracker)
  else
    let target := tokenLen / chunkTokens * chunkTokens
    let start := tracker.savedTokens / chunkTokens
    ((start, target / chunkTokens - start), { tracker with savedTokens := target })

variable (tracker : RequestTracker) (chunkTokens : Nat)

@[simp] theorem advanceSave_tokenIds :
    (tracker.advanceSave chunkTokens).2.tokenIds = tracker.tokenIds := by
  unfold advanceSave
  dsimp only
  split <;> rfl

@[simp] theorem advanceSave_blockIds :
    (tracker.advanceSave chunkTokens).2.blockIds = tracker.blockIds := by
  unfold advanceSave
  dsimp only
  split <;> rfl

/-- Only chunks covered by the tracked tokens are saved. -/
theorem advanceSave_covered (some : 0 < (tracker.advanceSave chunkTokens).1.2) :
    ((tracker.advanceSave chunkTokens).1.1 + (tracker.advanceSave chunkTokens).1.2) * chunkTokens ≤
      tracker.tokenIds.length := by
  unfold advanceSave at some ⊢
  dsimp only at some ⊢
  split at some
  · exact absurd some (lt_irrefl 0)
  rename_i behind
  rw [if_neg behind]
  dsimp only at some ⊢
  rw [Nat.add_sub_of_le (by omega)]
  exact (Nat.div_mul_le_self _ _).trans (Nat.div_mul_le_self _ _)

end RequestTracker

/-- `_ReqMeta`: the transfer plan of one request. -/
structure ReqMeta (Req : Type) where
  reqId : Req
  tokenIds : List Nat
  blockIds : List Nat
  loadTokens : Nat
  loadStartToken : Nat
  saveChunkStart : Nat
  saveChunkCount : Nat
  saveGenerations : List Nat
  loadAsync : Bool
deriving DecidableEq, Repr

/-- `TuttiConnectorMetadata`: the transfer plan of a step. -/
structure ConnectorMetadata (Key Req : Type) where
  requests : List (ReqMeta Req)
  evictedKeys : List Key

/-- A request scheduled for the first time. -/
structure NewRequestData (Req : Type) where
  reqId : Req
  promptTokenIds : List Nat
  blockIds : BlockIds

/-- The running and resumed requests of a step. -/
structure CachedRequestData (Req : Type) where
  reqIds : List Req
  newBlockIds : List (Option BlockIds)
  resumedReqIds : List Req

/-- vLLM's scheduling decision for a step. -/
structure SchedulerOutput (Req : Type) where
  finishedReqIds : List Req
  scheduledNewReqs : List (NewRequestData Req)
  scheduledCachedReqs : CachedRequestData Req
  numScheduledTokens : Req → Nat

/-- The scheduler role of `TuttiConnectorV1`. Tables that are never iterated are
functions, with `none` for an absent entry. -/
structure Connector (Key Req : Type) where
  geometry : ChunkGeometry
  minRetrieveTokens : Nat
  maxTokensPerLoad : Nat
  tpSize : Nat
  index : SchedulerMetadataIndex Key
  trackers : Req → Option RequestTracker
  pendingLoads : Req → Option Nat
  liveRequests : Req → Bool
  matchStarts : Req → Option Nat
  loadStarts : Req → Option Nat
  loadAsync : Req → Option Bool
  asyncPending : OrderedDict Req (ReqMeta Req)
  asyncOutstanding : Req → Option Nat

namespace Connector

variable {Key Req : Type} [DecidableEq Key] [DecidableEq Req] (digest : Key → List Nat → Key)

/-- A connector that has not seen any request. -/
def fresh (geometry : ChunkGeometry) (minRetrieveTokens maxTokensPerLoad tpSize : Nat)
    (index : SchedulerMetadataIndex Key) : Connector Key Req where
  geometry
  minRetrieveTokens
  maxTokensPerLoad
  tpSize
  index
  trackers := fun _ => none
  pendingLoads := fun _ => none
  liveRequests := fun _ => false
  matchStarts := fun _ => none
  loadStarts := fun _ => none
  loadAsync := fun _ => none
  asyncPending := ∅
  asyncOutstanding := fun _ => none

/-! ## Prefix queries and allocation -/

/-- The number of tokens offered for a hit: behind the computed tokens, short of
the last token, rounded down to chunks, and subject to the two limits. -/
def offeredTokens (connector : Connector Key Req) (hit tokenCount numComputedTokens : Nat) : Nat :=
  let beyond := min (hit - numComputedTokens) (tokenCount - 1 - numComputedTokens)
  let aligned := beyond / connector.geometry.chunkTokens * connector.geometry.chunkTokens
  let retrieved := if aligned < connector.minRetrieveTokens then 0 else aligned
  if connector.maxTokensPerLoad = 0 then retrieved else min retrieved connector.maxTokensPerLoad

/-- `get_num_new_matched_tokens`: the tokens offered for a request and whether
they are loaded asynchronously, which is the decision of the policy. -/
def getNumNewMatchedTokens (connector : Connector Key Req) (reqId : Req) (tokens : List Nat)
    (numComputedTokens : Nat) (decision : Bool) : (Nat × Bool) × Connector Key Req :=
  let (hit, index) := connector.index.lookupPrefix digest tokens
  let offered := connector.offeredTokens hit tokens.length numComputedTokens
  if offered = 0 then
    ((0, false),
      { connector with
        index
        loadAsync := update connector.loadAsync reqId none })
  else
    ((offered, decision),
      { connector with
        index
        matchStarts := update connector.matchStarts reqId (some numComputedTokens)
        loadAsync := update connector.loadAsync reqId (some decision) })

/-- `update_state_after_alloc`: remember the load of a request whose blocks are
allocated. `numComputedTokens` is the request's own count, used without a query. -/
def updateStateAfterAlloc (connector : Connector Key Req) (reqId : Req) (tokens : List Nat)
    (numComputedTokens : Nat) (blocks : BlockIds) (numExternalTokens : Nat) :
    Connector Key Req :=
  let start := connector.matchStarts reqId
  let isAsync := (connector.loadAsync reqId).getD false
  let taken :=
    { connector with
      liveRequests := update connector.liveRequests reqId true
      matchStarts := update connector.matchStarts reqId none
      loadAsync := update connector.loadAsync reqId none }
  if numExternalTokens = 0 then taken
  else if isAsync then
    { taken with
      asyncPending := taken.asyncPending.set reqId
        { reqId
          tokenIds := tokens
          blockIds := flattenBlocks blocks
          loadTokens := numExternalTokens
          loadStartToken := start.getD numComputedTokens
          saveChunkStart := 0
          saveChunkCount := 0
          saveGenerations := []
          loadAsync := true } }
  else
    { taken with
      pendingLoads := update taken.pendingLoads reqId (some numExternalTokens)
      loadStarts := update taken.loadStarts reqId (some (start.getD numComputedTokens)) }

/-! ## The transfer plan of a step -/

/-- Forget a finished request. -/
def finish (connector : Connector Key Req) (reqId : Req) : Connector Key Req :=
  { connector with
    trackers := update connector.trackers reqId none
    liveRequests := update connector.liveRequests reqId false
    pendingLoads := update connector.pendingLoads reqId none
    loadStarts := update connector.loadStarts reqId none }

/-- Start tracking a new request: as many prompt tokens as its blocks can hold. -/
def trackNew (connector : Connector Key Req) (request : NewRequestData Req) : Connector Key Req :=
  let blockIds := flattenBlocks request.blockIds
  let cap := blockIds.length * connector.geometry.blockSize
  { connector with
    trackers := update connector.trackers request.reqId
      (some ⟨request.promptTokenIds.take cap, blockIds, 0⟩) }

/-- Extend a running or resumed request by the scheduled slice of its live tokens.
The result is the request if it is tracked. -/
def trackCached (output : SchedulerOutput Req) (allTokenIds : Req → List Nat)
    (connector : Connector Key Req) (reqId : Req) (newBlockIds : Option BlockIds) :
    Option Req × Connector Key Req :=
  match connector.trackers reqId with
  | none => (none, connector)
  | some tracker =>
    if connector.liveRequests reqId then
      let numNew := output.numScheduledTokens reqId
      let newTokens := ((allTokenIds reqId).drop tracker.tokenIds.length).take numNew
      let updated := tracker.update newTokens (newBlockIds.getD (.flat []))
        (reqId ∈ output.scheduledCachedReqs.resumedReqIds)
      (some reqId,
        { connector with trackers := update connector.trackers reqId (some updated) })
    else (none, connector)

/-- The loop over the cached requests, which may have fewer block entries than
requests. -/
def trackAllCached (output : SchedulerOutput Req) (allTokenIds : Req → List Nat) :
    List Req → List (Option BlockIds) → Connector Key Req → List Req × Connector Key Req
  | [], _, connector => ([], connector)
  | reqId :: reqIds, newBlockIds, connector =>
    let (scheduled, tracked) :=
      trackCached output allTokenIds connector reqId (newBlockIds.headD none)
    let rest := trackAllCached output allTokenIds reqIds newBlockIds.tail tracked
    (scheduled.toList ++ rest.1, rest.2)

/-- The plan of one scheduled request: its remembered load and the chunks its
tracker allows to save. -/
def requestMeta (connector : Connector Key Req) (reqId : Req) (tracker : RequestTracker) :
    ReqMeta Req :=
  let span := (tracker.advanceSave connector.geometry.chunkTokens).1
  { reqId
    tokenIds := tracker.tokenIds
    blockIds := tracker.blockIds
    loadTokens := (connector.pendingLoads reqId).getD 0
    loadStartToken := (connector.loadStarts reqId).getD 0
    saveChunkStart := span.1
    saveChunkCount := span.2
    saveGenerations := []
    loadAsync := false }

/-- The keys of the chunks that a planned request saves. -/
def saveKeys (connector : Connector Key Req) (request : ReqMeta Req) : List Key :=
  if 0 < request.saveChunkCount then
    ((connector.index.index.hashKeys digest request.tokenIds 0 none).1.drop
      request.saveChunkStart).take request.saveChunkCount
  else []

/-- Plan one scheduled request and take its remembered load. -/
def planRequest (connector : Connector Key Req) (reqId : Req) :
    List (ReqMeta Req × List Key) × Connector Key Req :=
  match connector.trackers reqId with
  | none => ([], connector)
  | some tracker =>
    let request := connector.requestMeta reqId tracker
    ([(request, connector.saveKeys digest request)],
      { connector with
        trackers := update connector.trackers reqId
          (some (tracker.advanceSave connector.geometry.chunkTokens).2)
        pendingLoads := update connector.pendingLoads reqId none
        loadStarts := update connector.loadStarts reqId none })

/-- The loop over the scheduled requests. -/
def planRequests : List Req → Connector Key Req →
    List (ReqMeta Req × List Key) × Connector Key Req
  | [], connector => ([], connector)
  | reqId :: reqIds, connector =>
    let (planned, next) := planRequest digest connector reqId
    let rest := planRequests reqIds next
    (planned ++ rest.1, rest.2)

/-- Withdraw the save part of a request's plan. -/
def withdrawSave (request : ReqMeta Req) : ReqMeta Req :=
  if 0 < request.saveChunkCount then
    { request with saveChunkStart := 0, saveChunkCount := 0, saveGenerations := [] }
  else request

/-- Admit the saves of a step. A rejected plan and a plan without new keys withdraw
every save; otherwise each saved key carries the generation label of the step. -/
def admitSaves (connector : Connector Key Req) (generation : Key → Nat)
    (planned : List (ReqMeta Req × List Key)) :
    List (ReqMeta Req) × List Key × Connector Key Req :=
  if planned.any (fun entry => 0 < entry.1.saveChunkCount) then
    match connector.index.planStore (planned.flatMap Prod.snd) with
    | none => (planned.map fun entry => withdrawSave entry.1, [], connector)
    | some (plan, index) =>
      let requests :=
        if plan.newKeys = [] then planned.map fun entry => withdrawSave entry.1
        else planned.map fun entry =>
          { entry.1 with saveGenerations := entry.2.map generation }
      (requests, plan.evictedKeys, { connector with index })
  else (planned.map Prod.fst, [], connector)

/-- `_PENDING_MAX_AGE_STEPS`. -/
def pendingMaxAgeSteps : Nat := 3

/-- Advance the epoch of the index and reclaim its stale reservations. -/
def beginStep (connector : Connector Key Req) : Connector Key Req :=
  { connector with index := (connector.index.beginStep pendingMaxAgeSteps).2 }

/-- The first loops of `build_connector_meta`: drop finished requests and bring the
trackers of the scheduled ones up to date. -/
def trackScheduled (connector : Connector Key Req) (output : SchedulerOutput Req)
    (allTokenIds : Req → List Nat) : List Req × Connector Key Req :=
  let pruned := output.finishedReqIds.foldl finish connector
  let extended := output.scheduledNewReqs.foldl trackNew pruned
  let (cached, tracked) := trackAllCached output allTokenIds output.scheduledCachedReqs.reqIds
    output.scheduledCachedReqs.newBlockIds extended
  (output.scheduledNewReqs.map NewRequestData.reqId ++ cached, tracked)

/-- The pending asynchronous loads leave with the plan of the step. -/
def deliverAsync (connector : Connector Key Req) : List (ReqMeta Req) × Connector Key Req :=
  (connector.asyncPending.entries.map Prod.snd,
    { connector with
      asyncOutstanding := connector.asyncPending.entries.foldl
        (fun outstanding entry =>
          update outstanding entry.1 (some entry.2.blockIds.length))
        connector.asyncOutstanding
      asyncPending := ∅ })

/-- The planned requests of a step before admission, and the connector after them.
`allTokenIds` are the current tokens of the live requests. -/
def plannedStep (connector : Connector Key Req) (output : SchedulerOutput Req)
    (allTokenIds : Req → List Nat) : List (ReqMeta Req × List Key) × Connector Key Req :=
  let tracked := connector.beginStep.trackScheduled output allTokenIds
  planRequests digest tracked.1 tracked.2

/-- `build_connector_meta`. -/
def buildConnectorMeta (connector : Connector Key Req) (output : SchedulerOutput Req)
    (allTokenIds : Req → List Nat) (generation : Key → Nat) :
    ConnectorMetadata Key Req × Connector Key Req :=
  let planned := connector.plannedStep digest output allTokenIds
  let admitted := admitSaves planned.2 generation planned.1
  let delivered := admitted.2.2.deliverAsync
  (⟨admitted.1 ++ delivered.1, admitted.2.1⟩, delivered.2)

/-! ## What a step leaves alone -/

/-- Two states of the connector that differ only in the keys of the index, the trackers
and the synchronous loads. -/
structure SameFrame (before after : Connector Key Req) : Prop where
  geometry : after.geometry = before.geometry
  asyncPending : after.asyncPending = before.asyncPending
  tpSize : after.tpSize = before.tpSize
  chain : after.index.index.chain = before.index.index.chain

variable (scheduled : List Req)

section

variable (connector : Connector Key Req)

section

omit [DecidableEq Key] [DecidableEq Req]

theorem SameFrame.refl : SameFrame connector connector :=
  ⟨rfl, rfl, rfl, rfl⟩

theorem SameFrame.trans {first second third : Connector Key Req} (left : SameFrame first second)
    (right : SameFrame second third) : SameFrame first third :=
  ⟨right.geometry.trans left.geometry, right.asyncPending.trans left.asyncPending,
    right.tpSize.trans left.tpSize, right.chain.trans left.chain⟩

end

section

omit [DecidableEq Key]

/-- What the first loops of a step preserve: they drop, add and update trackers. -/
@[elab_as_elim]
theorem trackScheduled_induct {motive : Connector Key Req → Prop} {connector : Connector Key Req}
    (start : motive connector)
    (drop : ∀ connector reqId, motive connector → motive (connector.finish reqId))
    (add : ∀ connector request, motive connector → motive (connector.trackNew request))
    (change : ∀ connector reqId tracker tokens blocks replace,
      connector.trackers reqId = some tracker → motive connector → motive { connector with
        trackers := update connector.trackers reqId (some (tracker.update tokens blocks replace)) })
    (output : SchedulerOutput Req) (allTokenIds : Req → List Nat) :
    motive (connector.trackScheduled output allTokenIds).2 := by
  have cached : ∀ reqIds newBlockIds connector, motive connector →
      motive (trackAllCached output allTokenIds reqIds newBlockIds connector).2 := by
    intro reqIds
    induction reqIds with
    | nil => exact fun _ _ => id
    | cons head tail ih =>
      intro newBlockIds connector holds
      refine ih newBlockIds.tail _ ?_
      split
      · exact holds
      rename_i tracked
      split
      · exact change connector head _ _ _ _ tracked holds
      · exact holds
  exact cached _ _ _ (foldlRecOn _ trackNew (foldlRecOn _ finish start
    fun connector holds reqId _ => drop connector reqId holds)
    fun connector holds request _ => add connector request holds)

variable (output : SchedulerOutput Req) (allTokenIds : Req → List Nat)

theorem sameFrame_trackScheduled :
    SameFrame connector (connector.trackScheduled output allTokenIds).2 :=
  trackScheduled_induct (SameFrame.refl connector) (fun _ _ same => { same with })
    (fun _ _ same => { same with }) (fun _ _ _ _ _ _ _ same => { same with }) output allTokenIds

theorem sameFrame_planRequest (reqId : Req) :
    SameFrame connector (planRequest digest connector reqId).2 := by
  unfold planRequest
  split <;> exact ⟨rfl, rfl, rfl, rfl⟩

theorem sameFrame_planRequests (connector : Connector Key Req) :
    SameFrame connector (planRequests digest scheduled connector).2 := by
  induction scheduled generalizing connector with
  | nil => exact SameFrame.refl connector
  | cons head tail ih => exact (sameFrame_planRequest digest connector head).trans (ih _)

end

omit [DecidableEq Req] in
theorem sameFrame_admitSaves (generation : Key → Nat) (planned : List (ReqMeta Req × List Key)) :
    SameFrame connector (admitSaves connector generation planned).2.2 ∧
      (admitSaves connector generation planned).2.2.trackers = connector.trackers ∧
      (admitSaves connector generation planned).2.2.liveRequests = connector.liveRequests := by
  unfold admitSaves
  split
  · split
    · exact ⟨SameFrame.refl connector, rfl, rfl⟩
    rename_i plan index admitted
    have chain : index.index.chain = connector.index.index.chain := by
      rw [(SchedulerMetadataIndex.planStore_planned admitted).1.next_eq]
      rfl
    exact ⟨⟨rfl, rfl, rfl, chain⟩, rfl, rfl⟩
  · exact ⟨SameFrame.refl connector, rfl, rfl⟩

end

variable {planned : ReqMeta Req × List Key}

section

omit [DecidableEq Key]

theorem trackers_foldl_finish (finished : List Req) (connector : Connector Key Req) (reqId : Req) :
    (finished.foldl finish connector).trackers reqId =
        (if reqId ∈ finished then none else connector.trackers reqId) ∧
      (reqId ∉ finished →
        (finished.foldl finish connector).liveRequests reqId = connector.liveRequests reqId) := by
  induction finished generalizing connector with
  | nil => simp
  | cons head tail ih =>
    obtain ⟨trackers, live⟩ := ih (connector.finish head)
    rw [foldl_cons, trackers]
    by_cases same : reqId = head
    · subst same
      simp [finish]
    simp only [finish, update_of_ne same, mem_cons, same, false_or, true_and]
    intro absent
    simpa only [finish, update_of_ne same] using live absent

/-- A planned request is that of a tracker, at some point of the loop. -/
@[elab_as_elim]
theorem planRequests_induct {motive : Connector Key Req → ReqMeta Req × List Key → Prop}
    (here : ∀ connector reqId tracker, connector.trackers reqId = some tracker → motive connector
      (connector.requestMeta reqId tracker,
        connector.saveKeys digest (connector.requestMeta reqId tracker)))
    (later : ∀ connector head planned, motive (planRequest digest connector head).2 planned →
      motive connector planned) {scheduled : List Req} {connector : Connector Key Req}
    (member : planned ∈ (planRequests digest scheduled connector).1) :
    motive connector planned := by
  induction scheduled generalizing connector with
  | nil => cases member
  | cons head tail ih =>
    rcases mem_append.mp member with first | rest
    · split at first
      · cases first
      rename_i tracked
      exact mem_singleton.mp first ▸ here connector head _ tracked
    · exact later connector head planned (ih rest)

variable (connector : Connector Key Req)

/-- Planning the requests of a step changes neither the tokens nor the blocks of a
tracker. -/
theorem trackers_planRequests (reqId : Req) :
    ((planRequests digest scheduled connector).2.trackers reqId).map
        (fun tracker => (tracker.tokenIds, tracker.blockIds)) =
      (connector.trackers reqId).map fun tracker => (tracker.tokenIds, tracker.blockIds) := by
  induction scheduled generalizing connector with
  | nil => rfl
  | cons head tail ih =>
    refine (ih (planRequest digest connector head).2).trans ?_
    unfold planRequest
    cases tracked : connector.trackers head with
    | none => rfl
    | some tracker =>
      by_cases same : reqId = head
      · subst same
        simp [tracked, RequestTracker.advanceSave_tokenIds]
      · simp only [update_of_ne same]

theorem liveRequests_planRequests :
    (planRequests digest scheduled connector).2.liveRequests = connector.liveRequests := by
  induction scheduled generalizing connector with
  | nil => rfl
  | cons head tail ih =>
    refine (ih (planRequest digest connector head).2).trans ?_
    unfold planRequest
    split <;> rfl

end

variable {connector : Connector Key Req}

omit [DecidableEq Key] in
/-- A planned request has the tokens and blocks of its tracker, which cover its save part. -/
theorem mem_planRequests {scheduled : List Req}
    (member : planned ∈ (planRequests digest scheduled connector).1) :
    ∃ tracker, connector.trackers planned.1.reqId = some tracker ∧
      planned.1.tokenIds = tracker.tokenIds ∧ planned.1.blockIds = tracker.blockIds ∧
      (0 < planned.1.saveChunkCount →
        (planned.1.saveChunkStart + planned.1.saveChunkCount) * connector.geometry.chunkTokens ≤
          tracker.tokenIds.length) := by
  refine planRequests_induct digest (fun connector reqId tracker tracked => ?_)
    (fun connector head planned ⟨after, tracked, tokens, blocks, covered⟩ => ?_) member
  · exact ⟨tracker, tracked, rfl, rfl, tracker.advanceSave_covered connector.geometry.chunkTokens⟩
  have kept := trackers_planRequests digest [head] connector planned.1.reqId
  simp only [planRequests] at kept
  rw [tracked] at kept
  obtain ⟨before, found, same⟩ := Option.map_eq_some_iff.mp kept.symm
  obtain ⟨sameTokens, sameBlocks⟩ := Prod.mk.inj same
  rw [(sameFrame_planRequest digest connector head).geometry, ← sameTokens] at covered
  exact ⟨before, found, tokens.trans sameTokens.symm, blocks.trans sameBlocks.symm, covered⟩

/-- Two plans of a request that differ at most in what is saved. -/
structure SameLoad (request plan : ReqMeta Req) : Prop where
  reqId : request.reqId = plan.reqId
  tokenIds : request.tokenIds = plan.tokenIds
  blockIds : request.blockIds = plan.blockIds
  loadTokens : request.loadTokens = plan.loadTokens
  loadStartToken : request.loadStartToken = plan.loadStartToken
  loadAsync : request.loadAsync = plan.loadAsync

/-- The plan saves nothing, or what the other plan saves. -/
def SavesNoMore (request plan : ReqMeta Req) : Prop :=
  request.saveChunkCount = 0 ∨ request.saveChunkStart = plan.saveChunkStart ∧
    request.saveChunkCount = plan.saveChunkCount

variable {generation : Key → Nat} {request : ReqMeta Req}

omit [DecidableEq Req] in
/-- Admission keeps the plan of a request or withdraws its save. -/
theorem mem_admitSaves {planned : List (ReqMeta Req × List Key)}
    (member : request ∈ (admitSaves connector generation planned).1) :
    ∃ entry ∈ planned, SameLoad request entry.1 ∧ SavesNoMore request entry.1 := by
  have withdrawn : request ∈ planned.map (fun entry => withdrawSave entry.1) →
      ∃ entry ∈ planned, SameLoad request entry.1 ∧ SavesNoMore request entry.1 := by
    intro inside
    obtain ⟨entry, present, rfl⟩ := mem_map.mp inside
    refine ⟨entry, present, ?_⟩
    unfold withdrawSave
    split
    · exact ⟨⟨rfl, rfl, rfl, rfl, rfl, rfl⟩, .inl rfl⟩
    · exact ⟨⟨rfl, rfl, rfl, rfl, rfl, rfl⟩, .inr ⟨rfl, rfl⟩⟩
  unfold admitSaves at member
  split at member
  · split at member
    · exact withdrawn member
    split at member
    · exact withdrawn member
    · obtain ⟨entry, present, rfl⟩ := mem_map.mp member
      exact ⟨entry, present, ⟨rfl, rfl, rfl, rfl, rfl, rfl⟩, .inr ⟨rfl, rfl⟩⟩
  · obtain ⟨entry, present, rfl⟩ := mem_map.mp member
    exact ⟨entry, present, ⟨rfl, rfl, rfl, rfl, rfl, rfl⟩, .inr ⟨rfl, rfl⟩⟩

/-- The connector after a step: the trackers are those of the planned step, and no
asynchronous load is pending. -/
theorem buildConnectorMeta_connector (connector : Connector Key Req) (output : SchedulerOutput Req)
    (allTokenIds : Req → List Nat) (generation : Key → Nat) :
    let next := (buildConnectorMeta digest connector output allTokenIds generation).2
    next.trackers = (plannedStep digest connector output allTokenIds).2.trackers ∧
      next.liveRequests = (plannedStep digest connector output allTokenIds).2.liveRequests ∧
      next.geometry = connector.geometry ∧ next.asyncPending = ∅ := by
  obtain ⟨frame, trackers, live⟩ := sameFrame_admitSaves
    (plannedStep digest connector output allTokenIds).2 generation
    (plannedStep digest connector output allTokenIds).1
  refine ⟨trackers, live, frame.geometry.trans ?_, rfl⟩
  exact (sameFrame_planRequests digest _ _).geometry.trans
    (sameFrame_trackScheduled connector.beginStep output allTokenIds).geometry

/-- The requests of a step are the planned ones, possibly without their save, and
the pending asynchronous loads. -/
theorem mem_buildConnectorMeta {output : SchedulerOutput Req} {allTokenIds : Req → List Nat}
    (member : request ∈
      (buildConnectorMeta digest connector output allTokenIds generation).1.requests) :
    (∃ entry ∈ (plannedStep digest connector output allTokenIds).1,
        SameLoad request entry.1 ∧ SavesNoMore request entry.1) ∨
      ∃ entry ∈ connector.asyncPending.entries, request = entry.2 := by
  rcases mem_append.mp member with planned | delivered
  · exact .inl (mem_admitSaves planned)
  right
  obtain ⟨entry, pending, rfl⟩ := mem_map.mp delivered
  refine ⟨entry, ?_, rfl⟩
  have frame := (sameFrame_trackScheduled connector.beginStep output allTokenIds).trans
    ((sameFrame_planRequests digest _ _).trans (sameFrame_admitSaves
      (plannedStep digest connector output allTokenIds).2 generation
      (plannedStep digest connector output allTokenIds).1).1)
  exact frame.asyncPending ▸ pending

/-- `update_connector_output`: settle finished asynchronous loads and apply the
ranks' aggregated report. -/
def updateConnectorOutput (connector : Connector Key Req) (finishedRecving : List Req)
    (report : Option (TuttiWorkerMetadata Key)) : Connector Key Req :=
  let settled :=
    { connector with
      asyncOutstanding := fun reqId =>
        if reqId ∈ finishedRecving then none else connector.asyncOutstanding reqId }
  match report with
  | none => settled
  | some delta =>
    { settled with index := settled.index.applyWorkerCommits delta connector.tpSize }

/-- `request_finished`. A pending asynchronous load is still delivered. -/
def requestFinished (connector : Connector Key Req) (reqId : Req) : Connector Key Req :=
  { connector.finish reqId with
    matchStarts := update connector.matchStarts reqId none
    loadAsync := update connector.loadAsync reqId none }

end Connector

end Tutti
