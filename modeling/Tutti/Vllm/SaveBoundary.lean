import Tutti.Foundation.Run
import Tutti.Vllm.Connector

/-!
# Saved chunks and computed tokens

The connector never sees how many tokens of a request are computed. It tracks a
new request by the capacity of its blocks and a running one by its scheduled
tokens, and it saves every chunk that the tracked tokens complete. The run below
carries vLLM's own view of each request. As long as no admission puts a tracker
ahead of the computed tokens, only computed chunks are saved, from the blocks
that hold them. A block table with spare room, or a resumed request whose tracker
kept its old length, breaks this.
-/

namespace Tutti

open Connector Foundation Function List Option

/-- vLLM's view of a request: the computed tokens after the step, its block table
and the number of its tokens. -/
structure VllmRequest where
  computed : Nat
  blockTable : List Nat
  tokenCount : Nat
deriving DecidableEq, Repr

/-- A scheduling step: the output handed to the connector, the current tokens of
the requests, the generation labels, and the computed tokens that a new or
resumed request starts from. -/
structure VllmStep (Key Req : Type) where
  output : SchedulerOutput Req
  allTokenIds : Req → List Nat
  generation : Key → Nat
  startComputed : Req → Nat

/-- The connector beside vLLM's requests. -/
structure Serving (Key Req : Type) where
  connector : Connector Key Req
  requests : Req → Option VllmRequest

/-- The scheduler callbacks of vLLM. -/
inductive ServingAction (Key Req : Type) where
  | getNumNewMatchedTokens (reqId : Req) (tokens : List Nat) (numComputedTokens : Nat)
      (decision : Bool)
  | updateStateAfterAlloc (reqId : Req) (tokens : List Nat) (numComputedTokens : Nat)
      (blocks : BlockIds) (numExternalTokens : Nat)
  | buildConnectorMeta (step : VllmStep Key Req)
  | updateConnectorOutput (finishedRecving : List Req)
      (report : Option (TuttiWorkerMetadata Key))
  | requestFinished (reqId : Req)

namespace VllmStep

variable {Key Req : Type} [DecidableEq Req] (step : VllmStep Key Req)

/-- A new request computes its scheduled tokens behind the ones it starts from. -/
def admitNew (requests : Req → Option VllmRequest) (request : NewRequestData Req) :
    Req → Option VllmRequest :=
  update requests request.reqId
    (some ⟨step.startComputed request.reqId + step.output.numScheduledTokens request.reqId,
      flattenBlocks request.blockIds, (step.allTokenIds request.reqId).length⟩)

/-- A running request grows by its scheduled tokens and new blocks; a resumed one
starts over from its computed tokens with a new block table. -/
def advanceCached (requests : Req → Option VllmRequest) (reqId : Req)
    (newBlockIds : Option BlockIds) : Req → Option VllmRequest :=
  match requests reqId with
  | none => requests
  | some request =>
    let resumed := reqId ∈ step.output.scheduledCachedReqs.resumedReqIds
    let blocks := flattenBlocks (newBlockIds.getD (.flat []))
    update requests reqId
      (some
        ⟨(if resumed then step.startComputed reqId else request.computed) +
            step.output.numScheduledTokens reqId,
          if resumed then blocks else request.blockTable ++ blocks,
          (step.allTokenIds reqId).length⟩)

/-- The cached requests in order. -/
def advanceAllCached : List Req → List (Option BlockIds) → (Req → Option VllmRequest) →
    Req → Option VllmRequest
  | [], _, requests => requests
  | reqId :: reqIds, newBlockIds, requests =>
    advanceAllCached reqIds newBlockIds.tail
      (step.advanceCached requests reqId (newBlockIds.headD none))

/-- vLLM's requests at the end of the step. -/
def apply (requests : Req → Option VllmRequest) : Req → Option VllmRequest :=
  let running := fun reqId =>
    if reqId ∈ step.output.finishedReqIds then none else requests reqId
  let admitted := step.output.scheduledNewReqs.foldl step.admitNew running
  step.advanceAllCached step.output.scheduledCachedReqs.reqIds
    step.output.scheduledCachedReqs.newBlockIds admitted

end VllmStep

namespace Serving

variable {Key Req : Type} [DecidableEq Req]

/-- What vLLM guarantees about a step: no request is scheduled twice, blocks were
allocated for every new request, no request loses tokens, and every request has
enough blocks for its computed tokens at the end of the step. -/
structure Scheduled (serving : Serving Key Req) (step : VllmStep Key Req) : Prop where
  nodup : (step.output.scheduledNewReqs.map NewRequestData.reqId ++
    step.output.scheduledCachedReqs.reqIds).Nodup
  allocated : ∀ request ∈ step.output.scheduledNewReqs,
    request.reqId ∉ step.output.finishedReqIds ∧
      serving.connector.liveRequests request.reqId = true
  prompt_le : ∀ request ∈ step.output.scheduledNewReqs,
    request.promptTokenIds.length ≤ (step.allTokenIds request.reqId).length
  tokens_le : ∀ reqId ∈ step.output.scheduledCachedReqs.reqIds, ∀ request,
    serving.requests reqId = some request → request.tokenCount ≤ (step.allTokenIds reqId).length
  covered : ∀ reqId request, step.apply serving.requests reqId = some request →
    request.computed ≤ request.blockTable.length * serving.connector.geometry.blockSize

/-- No admission puts a tracker ahead of the computed tokens: the blocks or the
prompt of a new request, and the tokens or the old tracker of a resumed one, do
not reach beyond them. -/
def KeepsPace (serving : Serving Key Req) : ServingAction Key Req → Prop
  | .buildConnectorMeta step =>
    (∀ request ∈ step.output.scheduledNewReqs,
      let reached := step.startComputed request.reqId +
        step.output.numScheduledTokens request.reqId
      (flattenBlocks request.blockIds).length * serving.connector.geometry.blockSize ≤ reached ∨
        request.promptTokenIds.length ≤ reached) ∧
    ∀ reqId ∈ step.output.scheduledCachedReqs.reqIds,
      reqId ∈ step.output.scheduledCachedReqs.resumedReqIds →
        ∀ tracker, serving.connector.trackers reqId = some tracker →
          tracker.tokenIds.length ≤ step.startComputed reqId ∨
            (step.allTokenIds reqId).length ≤
              step.startComputed reqId + step.output.numScheduledTokens reqId
  | _ => True

/-! ## Trackers never run ahead -/

/-- Every tracked request is live and known to vLLM; its tracker has its block
table and is not ahead of its computed tokens. -/
def Tracks (connector : Connector Key Req) (requests : Req → Option VllmRequest) : Prop :=
  ∀ reqId tracker, connector.trackers reqId = some tracker →
    connector.liveRequests reqId = true ∧ ∃ request, requests reqId = some request ∧
      tracker.tokenIds.length ≤ request.computed ∧
      tracker.tokenIds.length ≤ request.tokenCount ∧ tracker.blockIds = request.blockTable

theorem Tracks.finish {connector : Connector Key Req} {requests : Req → Option VllmRequest}
    (tracks : Tracks connector requests) (finished : List Req) :
    Tracks (finished.foldl Connector.finish connector)
      (fun reqId => if reqId ∈ finished then none else requests reqId) := by
  intro reqId tracker tracked
  obtain ⟨trackers, live⟩ := trackers_foldl_finish finished connector reqId
  rw [trackers] at tracked
  by_cases gone : reqId ∈ finished
  · rw [if_pos gone] at tracked
    cases tracked
  rw [if_neg gone] at tracked
  dsimp only
  rw [live gone, if_neg gone]
  exact tracks reqId tracker tracked

variable {connector : Connector Key Req} {requests : Req → Option VllmRequest}

theorem Tracks.trackNew {step : VllmStep Key Req} (tracks : Tracks connector requests)
    (request : NewRequestData Req) (live : connector.liveRequests request.reqId = true)
    (prompt : request.promptTokenIds.length ≤ (step.allTokenIds request.reqId).length)
    (pace : (flattenBlocks request.blockIds).length * connector.geometry.blockSize ≤
        step.startComputed request.reqId + step.output.numScheduledTokens request.reqId ∨
      request.promptTokenIds.length ≤
        step.startComputed request.reqId + step.output.numScheduledTokens request.reqId) :
    Tracks (connector.trackNew request) (step.admitNew requests request) := by
  intro reqId tracker tracked
  by_cases same : reqId = request.reqId
  · subst same
    simp only [Connector.trackNew, update_self, some.injEq] at tracked
    subst tracked
    refine ⟨live, _, update_self _ _ _, ?_, ?_, rfl⟩
    · simp only [length_take]
      omega
    · simp only [length_take]
      omega
  · simp only [Connector.trackNew, update_of_ne same] at tracked
    simp only [VllmStep.admitNew, update_of_ne same]
    exact tracks reqId tracker tracked

theorem Tracks.foldl_trackNew (step : VllmStep Key Req) (added : List (NewRequestData Req))
    (tracks : Tracks connector requests)
    (ready : ∀ request ∈ added, connector.liveRequests request.reqId = true ∧
      request.promptTokenIds.length ≤ (step.allTokenIds request.reqId).length ∧
      ((flattenBlocks request.blockIds).length * connector.geometry.blockSize ≤
          step.startComputed request.reqId + step.output.numScheduledTokens request.reqId ∨
        request.promptTokenIds.length ≤
          step.startComputed request.reqId + step.output.numScheduledTokens request.reqId)) :
    Tracks (added.foldl Connector.trackNew connector) (added.foldl step.admitNew requests) := by
  induction added generalizing connector requests with
  | nil => exact tracks
  | cons head tail ih =>
    obtain ⟨live, prompt, pace⟩ := ready head (.head _)
    refine ih (tracks.trackNew head live prompt pace) fun request member => ?_
    exact ready request (.tail _ member)

/-- New requests leave the other ones alone. -/
theorem foldl_trackNew_other (step : VllmStep Key Req) (added : List (NewRequestData Req))
    (connector : Connector Key Req) (requests : Req → Option VllmRequest) {reqId : Req}
    (other : reqId ∉ added.map NewRequestData.reqId) :
    (added.foldl Connector.trackNew connector).trackers reqId = connector.trackers reqId ∧
      added.foldl step.admitNew requests reqId = requests reqId := by
  induction added generalizing connector requests with
  | nil => exact ⟨rfl, rfl⟩
  | cons head tail ih =>
    rw [map_cons, mem_cons, not_or] at other
    obtain ⟨trackers, known⟩ := ih (connector.trackNew head) (step.admitNew requests head) other.2
    rw [foldl_cons, foldl_cons, trackers, known]
    simp [trackNew, VllmStep.admitNew, update_of_ne other.1]

/-- A cached request leaves the other ones alone. -/
theorem trackCached_other (step : VllmStep Key Req) (connector : Connector Key Req)
    (requests : Req → Option VllmRequest) (newBlockIds : Option BlockIds) {reqId other : Req}
    (different : other ≠ reqId) :
    (Connector.trackCached step.output step.allTokenIds connector reqId newBlockIds).2.trackers
        other = connector.trackers other ∧
      (Connector.trackCached step.output step.allTokenIds connector reqId
        newBlockIds).2.liveRequests other = connector.liveRequests other ∧
      step.advanceCached requests reqId newBlockIds other = requests other := by
  refine ⟨?_, ?_, ?_⟩
  · unfold trackCached
    split
    · rfl
    split
    · exact update_of_ne different _ _
    · rfl
  · unfold trackCached
    split
    · rfl
    · split <;> rfl
  · cases known : requests reqId with
    | none => simp only [VllmStep.advanceCached, known]
    | some request => simp only [VllmStep.advanceCached, known, update_of_ne different]

/-- The step has all tokens of a cached request, and a resumed tracker is not ahead. -/
def Paces (step : VllmStep Key Req) (connector : Connector Key Req)
    (requests : Req → Option VllmRequest) (reqId : Req) : Prop :=
  (∀ request, requests reqId = some request →
    request.tokenCount ≤ (step.allTokenIds reqId).length) ∧
  (reqId ∈ step.output.scheduledCachedReqs.resumedReqIds →
    ∀ tracker, connector.trackers reqId = some tracker →
      tracker.tokenIds.length ≤ step.startComputed reqId ∨
        (step.allTokenIds reqId).length ≤
          step.startComputed reqId + step.output.numScheduledTokens reqId)

/-- One cached request: the scheduled slice keeps the tracker within the computed
tokens, unless a resumed tracker was already ahead. -/
theorem Tracks.trackCached {step : VllmStep Key Req} (tracks : Tracks connector requests)
    {reqId : Req} (newBlockIds : Option BlockIds) (paces : Paces step connector requests reqId) :
    Tracks (Connector.trackCached step.output step.allTokenIds connector reqId newBlockIds).2
      (step.advanceCached requests reqId newBlockIds) := by
  intro other tracker tracked
  by_cases same : other = reqId
  · subst same
    unfold Connector.trackCached at tracked ⊢
    cases before : connector.trackers other with
    | none =>
      simp only [before] at tracked
      cases tracked
    | some old =>
      obtain ⟨live, request, known, computed, counted, blocks⟩ := tracks other old before
      simp only [before, live, ↓reduceIte, update_self, some.injEq] at tracked ⊢
      subst tracked
      refine ⟨trivial, ?_⟩
      simp only [VllmStep.advanceCached, known, update_self, some.injEq, exists_eq_left']
      have fewer := paces.1 request known
      simp only [RequestTracker.update, length_append, length_take, length_drop]
      refine ⟨?_, by omega, ?_⟩
      · by_cases resumed : other ∈ step.output.scheduledCachedReqs.resumedReqIds
        · rw [if_pos resumed]
          rcases paces.2 resumed old before with behind | short <;> omega
        · rw [if_neg resumed]
          omega
      · by_cases resumed : other ∈ step.output.scheduledCachedReqs.resumedReqIds
        · simp [resumed]
        · simp [blocks]
  · obtain ⟨trackers, live, known⟩ := trackCached_other step connector requests newBlockIds same
    rw [trackers] at tracked
    rw [live, known]
    exact tracks other tracker tracked

theorem Tracks.trackAllCached {step : VllmStep Key Req} (reqIds : List Req)
    (newBlockIds : List (Option BlockIds)) (tracks : Tracks connector requests)
    (nodup : reqIds.Nodup) (paces : ∀ reqId ∈ reqIds, Paces step connector requests reqId) :
    Tracks (Connector.trackAllCached step.output step.allTokenIds reqIds newBlockIds connector).2
      (step.advanceAllCached reqIds newBlockIds requests) := by
  induction reqIds generalizing newBlockIds connector requests with
  | nil => exact tracks
  | cons head tail ih =>
    rw [nodup_cons] at nodup
    refine ih newBlockIds.tail
      (tracks.trackCached (newBlockIds.headD none) (paces head (.head _))) nodup.2 ?_
    intro reqId member
    have other : reqId ≠ head := fun same => nodup.1 (same ▸ member)
    obtain ⟨sameTracker, -, sameRequest⟩ := trackCached_other step connector requests
      (newBlockIds.headD none) other
    obtain ⟨tokens, pace⟩ := paces reqId (.tail _ member)
    exact ⟨fun request known => tokens request (sameRequest.symm.trans known),
      fun resumed tracker tracked => pace resumed tracker (sameTracker.symm.trans tracked)⟩

variable {serving : Serving Key Req}

/-- A scheduled step that keeps pace brings every tracker up to date with vLLM. -/
theorem Tracks.trackScheduled [DecidableEq Key] {step : VllmStep Key Req}
    (tracks : Tracks serving.connector serving.requests) (scheduled : serving.Scheduled step)
    (pace : serving.KeepsPace (.buildConnectorMeta step)) :
    Tracks (serving.connector.beginStep.trackScheduled step.output step.allTokenIds).2
      (step.apply serving.requests) := by
  obtain ⟨newPace, resumedPace⟩ := pace
  obtain ⟨-, cachedNodup, apart⟩ := nodup_append.mp scheduled.nodup
  let begun := serving.connector.beginStep
  have started : Tracks begun serving.requests := tracks
  have pruned := started.finish step.output.finishedReqIds
  have prunedGeometry : (step.output.finishedReqIds.foldl Connector.finish begun).geometry =
      serving.connector.geometry :=
    (foldlRecOn _ Connector.finish (Connector.SameFrame.refl begun)
      fun _ same _ _ => { same with }).geometry
  have extended := pruned.foldl_trackNew step step.output.scheduledNewReqs
    (by
      intro request member
      obtain ⟨running, live⟩ := scheduled.allocated request member
      refine ⟨?_, scheduled.prompt_le request member, ?_⟩
      · rw [(Connector.trackers_foldl_finish _ begun request.reqId).2 running]
        exact live
      · rw [prunedGeometry]
        exact newPace request member)
  refine extended.trackAllCached _ _ cachedNodup fun reqId member => ?_
  have other : reqId ∉ step.output.scheduledNewReqs.map NewRequestData.reqId := fun inside =>
    apart reqId inside reqId member rfl
  obtain ⟨sameTracker, sameRequest⟩ := foldl_trackNew_other step
    step.output.scheduledNewReqs (step.output.finishedReqIds.foldl Connector.finish begun)
    (fun reqId => if reqId ∈ step.output.finishedReqIds then none else serving.requests reqId) other
  refine ⟨fun request known => ?_, fun resumed tracker tracked => ?_⟩
  · rw [sameRequest] at known
    split at known
    · cases known
    · exact scheduled.tokens_le reqId member request known
  · rw [sameTracker, (Connector.trackers_foldl_finish _ begun reqId).1] at tracked
    split at tracked
    · cases tracked
    · exact resumedPace reqId member resumed tracker tracked

/-- The trackers, with their tokens and blocks, are those a step left before it
planned its saves. -/
theorem Tracks.planRequests (digest : Key → List Nat → Key) (tracks : Tracks connector requests)
    (scheduled : List Req) :
    Tracks (Connector.planRequests digest scheduled connector).2 requests := by
  intro reqId tracker tracked
  have kept := trackers_planRequests digest scheduled connector reqId
  rw [tracked] at kept
  obtain ⟨before, found, same⟩ := map_eq_some_iff.mp kept.symm
  obtain ⟨sameTokens, sameBlocks⟩ := Prod.mk.inj same
  rw [liveRequests_planRequests, ← sameTokens, ← sameBlocks]
  exact tracks reqId before found

/-! ## Runs of the scheduler side -/

variable [DecidableEq Key] (digest : Key → List Nat → Key)

/-- One callback. -/
def step (serving : Serving Key Req) : ServingAction Key Req → Serving Key Req
  | .getNumNewMatchedTokens reqId tokens numComputedTokens decision =>
    ⟨(serving.connector.getNumNewMatchedTokens digest reqId tokens numComputedTokens decision).2,
      serving.requests⟩
  | .updateStateAfterAlloc reqId tokens numComputedTokens blocks numExternalTokens =>
    ⟨serving.connector.updateStateAfterAlloc reqId tokens numComputedTokens blocks
        numExternalTokens,
      serving.requests⟩
  | .buildConnectorMeta step =>
    ⟨(serving.connector.buildConnectorMeta digest step.output step.allTokenIds
        step.generation).2,
      step.apply serving.requests⟩
  | .updateConnectorOutput finishedRecving report =>
    ⟨serving.connector.updateConnectorOutput finishedRecving report, serving.requests⟩
  | .requestFinished reqId => ⟨serving.connector.requestFinished reqId, serving.requests⟩

/-- vLLM's guarantees about a callback. -/
def Contract (serving : Serving Key Req) : ServingAction Key Req → Prop
  | .buildConnectorMeta step => serving.Scheduled step
  | _ => True

/-- Every chunk that the step saves holds only computed positions, and the block
table that the worker takes for the chunk holds exactly the blocks of those
positions. -/
def SavesComputed (serving : Serving Key Req) : ServingAction Key Req → Prop
  | .buildConnectorMeta step =>
    let geometry := serving.connector.geometry
    let metadata := (serving.connector.buildConnectorMeta digest step.output step.allTokenIds
      step.generation).1
    ∀ request ∈ metadata.requests, ∀ chunk, request.saveChunkStart ≤ chunk →
      chunk < request.saveChunkStart + request.saveChunkCount →
        ∃ target table, step.apply serving.requests request.reqId = some target ∧
          (geometry.chunkBlockTables request.blockIds
            (request.saveChunkStart + request.saveChunkCount))[chunk]? = some table ∧
          table.length = geometry.blocksPerChunk ∧
          ∀ position, position / geometry.chunkTokens = chunk →
            position < target.computed ∧
              ∃ block, target.blockTable[position / geometry.blockSize]? = some block ∧
                table[position / geometry.blockSize % geometry.blocksPerChunk]? = some block
  | _ => True

/-- The invariant of the run: the trackers follow vLLM, and a pending asynchronous
load saves nothing. -/
structure InPace (serving : Serving Key Req) : Prop where
  tracks : Tracks serving.connector serving.requests
  asyncUnsaved : ∀ entry ∈ serving.connector.asyncPending.entries, entry.2.saveChunkCount = 0

theorem InPace.buildConnectorMeta (inPace : serving.InPace) (step : VllmStep Key Req)
    (scheduled : serving.Scheduled step) (pace : serving.KeepsPace (.buildConnectorMeta step)) :
    (serving.step digest (.buildConnectorMeta step)).InPace := by
  obtain ⟨trackers, live, -, pending⟩ := serving.connector.buildConnectorMeta_connector digest
    step.output step.allTokenIds step.generation
  refine ⟨?_, fun entry member => ?_⟩
  · have tracked := (inPace.tracks.trackScheduled scheduled pace).planRequests digest
      (serving.connector.beginStep.trackScheduled step.output step.allTokenIds).1
    unfold Tracks
    rw [Serving.step, trackers, live]
    exact tracked
  · cases member

theorem InPace.savesComputed (inPace : serving.InPace) (step : VllmStep Key Req)
    (scheduled : serving.Scheduled step) (pace : serving.KeepsPace (.buildConnectorMeta step)) :
    serving.SavesComputed digest (.buildConnectorMeta step) := by
  intro request member chunk first last
  rcases mem_buildConnectorMeta digest member with
    ⟨entry, planned, load, unsaved | ⟨sameStart, sameCount⟩⟩ | ⟨entry, pending, rfl⟩
  · omega
  · obtain ⟨tracker, tracked, -, blocks, covered⟩ := mem_planRequests digest planned
    have frame := sameFrame_trackScheduled serving.connector.beginStep step.output step.allTokenIds
    rw [frame.geometry, ← sameStart, ← sameCount] at covered
    obtain ⟨-, target, known, computed, -, table⟩ :=
      inPace.tracks.trackScheduled scheduled pace entry.1.reqId tracker tracked
    have reached : (chunk + 1) * serving.connector.geometry.chunkTokens ≤ target.computed :=
      (Nat.mul_le_mul_right _ last).trans ((covered (by omega)).trans computed)
    obtain ⟨slice, taken, full, exact⟩ := serving.connector.geometry.chunkBlockTables_exact last
      (reached.trans (scheduled.covered _ target known))
    rw [load.reqId, load.blockIds, blocks, table]
    refine ⟨target, slice, known, taken, full, fun position inside => ⟨?_, exact position inside⟩⟩
    have below := Nat.lt_div_mul_add (a := position) serving.connector.geometry.chunkTokens_pos
    rw [inside] at below
    rw [Nat.add_mul] at reached
    omega
  · have none := inPace.asyncUnsaved entry pending
    omega

theorem InPace.updateStateAfterAlloc (inPace : serving.InPace) (reqId : Req) (tokens : List Nat)
    (numComputedTokens : Nat) (blocks : BlockIds) (numExternalTokens : Nat) :
    (serving.step digest (.updateStateAfterAlloc reqId tokens numComputedTokens blocks
      numExternalTokens)).InPace := by
  have live : ∀ other, serving.connector.liveRequests other = true →
      update serving.connector.liveRequests reqId true other = true := by
    intro other alive
    by_cases same : other = reqId
    · rw [same, update_self]
    · rwa [update_of_ne same]
  refine ⟨fun other tracker tracked => ?_, fun entry member => ?_⟩
  · unfold Serving.step Connector.updateStateAfterAlloc at tracked ⊢
    dsimp only at tracked ⊢
    split at tracked
    · rename_i nothing
      rw [if_pos nothing]
      obtain ⟨alive, known⟩ := inPace.tracks other tracker tracked
      exact ⟨live other alive, known⟩
    · rename_i some
      rw [if_neg some]
      split at tracked <;> rename_i mode
      all_goals
        obtain ⟨alive, known⟩ := inPace.tracks other tracker tracked
        simp only [mode, Bool.false_eq_true]
        exact ⟨live other alive, known⟩
  · unfold Serving.step Connector.updateStateAfterAlloc at member
    dsimp only at member
    split at member
    · exact inPace.asyncUnsaved entry member
    split at member
    · rcases OrderedDict.mem_entries_set.mp member with rfl | ⟨-, old⟩
      · rfl
      · exact inPace.asyncUnsaved entry old
    · exact inPace.asyncUnsaved entry member

theorem InPace.step (action : ServingAction Key Req) (inPace : serving.InPace)
    (allowed : serving.Contract action ∧ serving.KeepsPace action) :
    (serving.step digest action).InPace := by
  cases action with
  | getNumNewMatchedTokens reqId tokens numComputedTokens decision =>
    unfold Serving.step getNumNewMatchedTokens
    dsimp only
    split <;> exact ⟨inPace.tracks, inPace.asyncUnsaved⟩
  | updateStateAfterAlloc reqId tokens numComputedTokens blocks numExternalTokens =>
    exact inPace.updateStateAfterAlloc digest reqId tokens numComputedTokens blocks
      numExternalTokens
  | buildConnectorMeta step => exact inPace.buildConnectorMeta digest step allowed.1 allowed.2
  | updateConnectorOutput finishedRecving report =>
    cases report with
    | none | some delta => exact ⟨inPace.tracks, inPace.asyncUnsaved⟩
  | requestFinished reqId =>
    refine ⟨fun other tracker tracked => ?_, inPace.asyncUnsaved⟩
    by_cases same : other = reqId
    · subst same
      simp only [Serving.step, requestFinished, finish, update_self, reduceCtorEq] at tracked
    · simp only [Serving.step, requestFinished, finish, update_of_ne same] at tracked ⊢
      exact inPace.tracks other tracker tracked

/-- A connector and a vLLM without requests. -/
def start (geometry : ChunkGeometry) (minRetrieveTokens maxTokensPerLoad tpSize : Nat)
    (index : SchedulerMetadataIndex Key) : Serving Key Req :=
  ⟨Connector.fresh geometry minRetrieveTokens maxTokensPerLoad tpSize index, fun _ => none⟩

/-- In every run of vLLM's scheduler whose admissions put no tracker ahead of the
computed tokens, only computed chunks are saved, from the blocks that hold them. -/
theorem run_savesComputed (geometry : ChunkGeometry)
    (minRetrieveTokens maxTokensPerLoad tpSize : Nat) (index : SchedulerMetadataIndex Key)
    (actions : List (ServingAction Key Req)) (allowed : Along (step digest)
      (fun serving action => serving.Contract action ∧ serving.KeepsPace action)
      (start geometry minRetrieveTokens maxTokensPerLoad tpSize index) actions) :
    Along (step digest) (SavesComputed digest)
      (start geometry minRetrieveTokens maxTokensPerLoad tpSize index) actions := by
  refine Along.imp_of_invariant InPace (fun _ action => InPace.step digest action) ?_
    ⟨fun _ _ tracked => absurd tracked nofun, nofun⟩ allowed
  intro serving action inPace permitted
  cases action with
  | buildConnectorMeta step => exact inPace.savesComputed digest step permitted.1 permitted.2
  | _ => trivial

section Example

/-- Blocks of 16 tokens and chunks of 32. -/
def exampleGeometry : ChunkGeometry := ⟨16, 32, Nat.succ_pos 15, by decide, by decide⟩

/-- The step that admits request `0` with a prompt of 40 tokens, the blocks `5` and
`6` and a given number of scheduled tokens. -/
def admission (scheduled : Nat) : VllmStep Nat Nat where
  output :=
    { finishedReqIds := []
      scheduledNewReqs := [⟨0, replicate 40 7, .grouped [[5, 6]]⟩]
      scheduledCachedReqs := ⟨[], [], []⟩
      numScheduledTokens := fun _ => scheduled }
  allTokenIds := fun _ => replicate 40 7
  generation := id
  startComputed := fun _ => 0

/-- An empty connector after request `0` got its blocks. -/
def allocated : Serving Nat Nat :=
  runFrom (step fun parent _ => parent + 1)
    (start exampleGeometry 0 0 1
      (SchedulerMetadataIndex.init (ChunkIndex.fresh 8 32 0 (Nat.succ_pos 7) (by decide)) 1 []))
    [.updateStateAfterAlloc 0 (replicate 40 7) 0 (.grouped [[5, 6]]) 0]

theorem scheduled_admission (scheduled : Nat) (enough : scheduled ≤ 32) :
    allocated.Scheduled (admission scheduled) where
  nodup := nodup_singleton 0
  allocated := by
    intro request member
    obtain rfl := mem_singleton.mp member
    exact ⟨not_mem_nil, rfl⟩
  prompt_le := by
    intro request member
    obtain rfl := mem_singleton.mp member
    exact le_refl _
  tokens_le := nofun
  covered := by
    intro reqId request known
    by_cases same : reqId = 0
    · subst same
      obtain rfl := some.inj known
      have filled : 0 + scheduled ≤ 2 * 16 := by omega
      exact filled
    · have absent : (admission scheduled).apply allocated.requests reqId = none := by
        simp only [VllmStep.apply, admission, foldl_cons, foldl_nil, VllmStep.advanceAllCached,
          VllmStep.admitNew, update_of_ne same, not_mem_nil]
        rfl
      exact nomatch absent.symm.trans known

/-- With 32 scheduled tokens the two blocks are filled and their chunk is saved. -/
theorem run_savesComputed_filled :
    Along (step fun parent _ => parent + 1) (SavesComputed fun parent _ => parent + 1)
      (start exampleGeometry 0 0 1
        (SchedulerMetadataIndex.init (ChunkIndex.fresh 8 32 0 (by decide) (by decide)) 1 []))
      [.updateStateAfterAlloc 0 (replicate 40 7) 0 (.grouped [[5, 6]]) 0,
        .buildConnectorMeta (admission 32)] := by
  refine run_savesComputed _ exampleGeometry 0 0 1 _ _
    ⟨⟨trivial, trivial⟩, ⟨scheduled_admission 32 (by decide), ?_, ?_⟩, trivial⟩
  · intro request member
    obtain rfl := mem_singleton.mp member
    exact .inl (by decide)
  · exact nofun

/-- With 20 scheduled tokens the same two blocks have room for 32, and the whole
chunk is saved although only 20 of its positions are computed. -/
theorem partialPrefill_saved :
    let metadata := (allocated.connector.buildConnectorMeta (fun parent _ => parent + 1)
      (admission 20).output (admission 20).allTokenIds (admission 20).generation).1
    allocated.Scheduled (admission 20) ∧
      metadata.requests.map (fun request =>
        (request.reqId, request.saveChunkStart, request.saveChunkCount)) = [(0, 0, 1)] ∧
      (admission 20).apply allocated.requests 0 = some ⟨20, [5, 6], 40⟩ ∧
      ¬ allocated.SavesComputed (fun parent _ => parent + 1)
        (.buildConnectorMeta (admission 20)) := by
  intro metadata
  have listed : metadata.requests.map (fun request =>
      (request.reqId, request.saveChunkStart, request.saveChunkCount)) = [(0, 0, 1)] := by decide
  have known : (admission 20).apply allocated.requests 0 = some ⟨20, [5, 6], 40⟩ := by decide
  refine ⟨scheduled_admission 20 (by decide), listed, known, fun saves => ?_⟩
  obtain ⟨request, member, shape⟩ := mem_map.mp (listed ▸ mem_singleton_self (0, 0, 1))
  simp only [Prod.mk.injEq] at shape
  obtain ⟨target, table, found, -, -, computed⟩ := saves request member 0 (by omega) (by omega)
  rw [shape.1] at found
  obtain rfl := some.inj found
  exact absurd (computed 31 (by decide)).1 (by decide)

end Example

end Serving

end Tutti
