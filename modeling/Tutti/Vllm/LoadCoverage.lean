import Tutti.Foundation.Run
import Tutti.Vllm.LoadLoop

/-!
# Which tokens of an offered load are read

The scheduler side offers vLLM a number of tokens behind those already computed, and
vLLM then treats them as computed. The worker reads the complete chunks of the same
interval. The two sides round independently: nothing is left unread in silence exactly
when the interval begins at a chunk boundary and the load limit does not cut a chunk.
-/

namespace Tutti

open Foundation Function List
open OrderedDict hiding keys

variable {numComputedTokens : Nat} {tokens : List Nat}

namespace Connector

variable {Key Req : Type} [DecidableEq Key] [DecidableEq Req] (digest : Key → List Nat → Key)

/-! ## The way of a load into the plan of a step -/

/-- The calls that vLLM makes for other requests before it builds the plan. -/
inductive SchedulerCall (Req : Type) where
  | query (reqId : Req) (tokens : List Nat) (numComputedTokens : Nat) (decision : Bool)
  | alloc (reqId : Req) (tokens : List Nat) (numComputedTokens : Nat) (blocks : BlockIds)
      (numExternalTokens : Nat)
  | finished (reqId : Req)

/-- The request that a call is about. -/
def SchedulerCall.subject : SchedulerCall Req → Req
  | .query reqId _ _ _ | .alloc reqId _ _ _ _ | .finished reqId => reqId

/-- The effect of a call. -/
def call (connector : Connector Key Req) : SchedulerCall Req → Connector Key Req
  | .query reqId tokens numComputedTokens decision =>
    (connector.getNumNewMatchedTokens digest reqId tokens numComputedTokens decision).2
  | .alloc reqId tokens numComputedTokens blocks numExternalTokens =>
    connector.updateStateAfterAlloc reqId tokens numComputedTokens blocks numExternalTokens
  | .finished reqId => connector.requestFinished reqId

/-- Pending asynchronous loads are filed under their own request. -/
def Filed (connector : Connector Key Req) : Prop :=
  ∀ entry ∈ connector.asyncPending.entries, entry.2.reqId = entry.1 ∧ entry.2.loadAsync = true

/-- The synchronous load of a request is the given one, or has been taken. -/
def SyncKnown (connector : Connector Key Req) (reqId : Req) (start count : Nat) : Prop :=
  connector.pendingLoads reqId = none ∨
    connector.pendingLoads reqId = some count ∧ connector.loadStarts reqId = some start

/-- The pending asynchronous load of a request is the given one. -/
def AsyncKnown (connector : Connector Key Req) (reqId : Req) (start count : Nat) : Prop :=
  ∀ entry ∈ connector.asyncPending.entries, entry.1 = reqId →
    entry.2.loadStartToken = start ∧ entry.2.loadTokens = count

/-- The load of a request as the connector remembers it. -/
def Known (connector : Connector Key Req) (reqId : Req) (start count : Nat) (isAsync : Bool) :
    Prop :=
  connector.Filed ∧
    if isAsync then connector.AsyncKnown reqId start count
    else connector.SyncKnown reqId start count

section Known

variable {reqId : Req} {start count : Nat}

omit [DecidableEq Key] [DecidableEq Req] in
theorem SyncKnown.congr {before after : Connector Key Req}
    (known : before.SyncKnown reqId start count)
    (pending : after.pendingLoads reqId = before.pendingLoads reqId)
    (starts : after.loadStarts reqId = before.loadStarts reqId) :
    after.SyncKnown reqId start count := by
  unfold SyncKnown
  rw [pending, starts]
  exact known

variable {planned : ReqMeta Req × List Key}

section

variable {connector : Connector Key Req} (known : connector.SyncKnown reqId start count)
include known

omit [DecidableEq Key]

theorem SyncKnown.finish (other : Req) :
    (connector.finish other).SyncKnown reqId start count := by
  by_cases same : reqId = other
  · subst same
    exact .inl (update_self _ _ _)
  · exact known.congr (update_of_ne same _ _) (update_of_ne same _ _)

variable (output : SchedulerOutput Req) (allTokenIds : Req → List Nat)

theorem SyncKnown.trackScheduled :
    (connector.trackScheduled output allTokenIds).2.SyncKnown reqId start count :=
  trackScheduled_induct known (fun _ other known => known.finish other) (fun _ _ => id)
    (fun _ _ _ _ _ _ _ => id) output allTokenIds

theorem SyncKnown.planRequest (other : Req) :
    (planRequest digest connector other).2.SyncKnown reqId start count := by
  unfold Connector.planRequest
  split
  · exact known
  by_cases same : reqId = other
  · subst same
    exact .inl (update_self _ _ _)
  · exact known.congr (update_of_ne same _ _) (update_of_ne same _ _)

/-- Every plan of the request carries its load or none. -/
theorem SyncKnown.mem_planRequests {scheduled : List Req}
    (member : planned ∈ (planRequests digest scheduled connector).1)
    (here : planned.1.reqId = reqId) :
    planned.1.loadTokens = 0 ∨ planned.1.loadStartToken = start ∧ planned.1.loadTokens = count := by
  revert known here
  refine planRequests_induct digest (fun connector head tracker _ known here => ?_)
    (fun connector head planned later known => later (known.planRequest digest head)) member
  change head = reqId at here
  subst here
  simp only [requestMeta]
  rcases known with taken | ⟨pending, starts⟩
  · rw [taken]
    exact .inl rfl
  · rw [pending, starts]
    exact .inr ⟨rfl, rfl⟩

end

variable {connector : Connector Key Req}

omit [DecidableEq Key] in
theorem mem_planRequests_sync {scheduled : List Req}
    (member : planned ∈ (planRequests digest scheduled connector).1) :
    planned.1.loadAsync = false :=
  planRequests_induct digest (fun _ _ _ _ => rfl) (fun _ _ _ later => later) member

variable {isAsync : Bool}

/-- Another request's call changes nothing about the load. -/
theorem Known.call (known : connector.Known reqId start count isAsync) (next : SchedulerCall Req)
    (other : next.subject ≠ reqId) :
    (connector.call digest next).Known reqId start count isAsync := by
  obtain ⟨filed, load⟩ := known
  cases next with
  | query subject tokens numComputedTokens decision =>
    unfold Connector.call getNumNewMatchedTokens
    dsimp only
    split <;> exact ⟨filed, load⟩
  | finished subject =>
    refine ⟨filed, ?_⟩
    cases isAsync with
    | true => exact load
    | false => exact SyncKnown.finish load subject
  | alloc subject tokens numComputedTokens blocks numExternalTokens =>
    have apart : reqId ≠ subject := Ne.symm other
    unfold Connector.call updateStateAfterAlloc
    dsimp only
    split
    · exact ⟨filed, load⟩
    split
    · refine ⟨fun entry member => ?_, ?_⟩
      · rcases mem_entries_set.mp member with new | ⟨_, old⟩
        · rw [new]
          exact ⟨rfl, rfl⟩
        · exact filed entry old
      cases isAsync with
      | true =>
        intro entry member here
        rcases mem_entries_set.mp member with new | ⟨_, old⟩
        · rw [new] at here
          exact absurd here other
        · exact load entry old here
      | false => exact load
    · refine ⟨filed, ?_⟩
      cases isAsync with
      | true => exact load
      | false =>
        exact SyncKnown.congr load (update_of_ne apart _ _) (update_of_ne apart _ _)

theorem Known.foldl (calls : List (SchedulerCall Req))
    (others : ∀ next ∈ calls, next.subject ≠ reqId)
    (known : connector.Known reqId start count isAsync) :
    (calls.foldl (Connector.call digest) connector).Known reqId start count isAsync := by
  induction calls generalizing connector with
  | nil => exact known
  | cons next calls ih =>
    exact ih (fun later member => others later (.tail _ member))
      (known.call digest next (others next (.head _)))

/-- The number of tokens that a query offers. -/
def offer (connector : Connector Key Req) (tokens : List Nat) (numComputedTokens : Nat) : Nat :=
  connector.offeredTokens (connector.index.lookupPrefix digest tokens).1 tokens.length
    numComputedTokens

theorem getNumNewMatchedTokens_of_pos
    (offered : 0 < connector.offer digest tokens numComputedTokens) (reqId : Req)
    (decision : Bool) :
    connector.getNumNewMatchedTokens digest reqId tokens numComputedTokens decision =
      ((connector.offer digest tokens numComputedTokens, decision),
        { connector with
          index := (connector.index.lookupPrefix digest tokens).2
          matchStarts := update connector.matchStarts reqId (some numComputedTokens)
          loadAsync := update connector.loadAsync reqId (some decision) }) :=
  if_neg offered.ne'

theorem getNumNewMatchedTokens_count (connector : Connector Key Req) (reqId : Req)
    (tokens : List Nat) (numComputedTokens : Nat) (decision : Bool) :
    (connector.getNumNewMatchedTokens digest reqId tokens numComputedTokens decision).1.1 =
      connector.offer digest tokens numComputedTokens := by
  rcases Nat.eq_zero_or_pos (connector.offer digest tokens numComputedTokens) with none | some
  · have nothing := none
    unfold offer at nothing
    unfold getNumNewMatchedTokens
    dsimp only
    rw [if_pos nothing, none]
  · rw [getNumNewMatchedTokens_of_pos digest some]

/-- A query and the allocation for it make the load known. -/
theorem known_alloc (filed : connector.Filed)
    (offered : 0 < connector.offer digest tokens numComputedTokens) (reqId : Req) (decision : Bool)
    (blocks : BlockIds) (ownCount : Nat) :
    let query := connector.getNumNewMatchedTokens digest reqId tokens numComputedTokens decision
    (query.2.updateStateAfterAlloc reqId tokens ownCount blocks query.1.1).Known reqId
      numComputedTokens (connector.offer digest tokens numComputedTokens) decision := by
  rw [getNumNewMatchedTokens_of_pos digest offered]
  unfold updateStateAfterAlloc
  simp only [update_self, offered.ne']
  cases decision with
  | true =>
    refine ⟨fun entry member => ?_, fun entry member here => ?_⟩
    · rcases mem_entries_set.mp member with new | ⟨_, old⟩
      · rw [new]
        exact ⟨rfl, rfl⟩
      · exact filed entry old
    · rcases mem_entries_set.mp member with new | ⟨apart, _⟩
      · rw [new]
        exact ⟨rfl, rfl⟩
      · exact absurd here apart
  | false =>
    exact ⟨filed, .inr ⟨update_self _ _ _, update_self _ _ _⟩⟩

/-- The plan of a step carries the load of a request as it is known. -/
theorem Known.mem_buildConnectorMeta (known : connector.Known reqId start count isAsync)
    {output : SchedulerOutput Req} {allTokenIds : Req → List Nat} {generation : Key → Nat}
    {request : ReqMeta Req} (member : request ∈
      (buildConnectorMeta digest connector output allTokenIds generation).1.requests)
    (here : request.reqId = reqId) (mode : request.loadAsync = isAsync)
    (tokens : 0 < request.loadTokens) :
    request.loadStartToken = start ∧ request.loadTokens = count := by
  obtain ⟨filed, load⟩ := known
  rcases Connector.mem_buildConnectorMeta digest member with
    ⟨entry, planned, same, _⟩ | ⟨entry, pending, rfl⟩
  · have sync := mem_planRequests_sync digest planned
    rw [same.loadAsync, sync] at mode
    subst mode
    have begun : connector.beginStep.SyncKnown reqId start count := load
    have tracked := begun.trackScheduled output allTokenIds
    rw [same.loadTokens] at tokens
    rw [same.loadTokens, same.loadStartToken]
    rcases tracked.mem_planRequests digest planned (same.reqId.symm.trans here) with none | loaded
    · omega
    · exact loaded
  · obtain ⟨own, async⟩ := filed entry pending
    rw [async] at mode
    subst mode
    exact load entry pending (own.symm.trans here)

end Known

/-! ## Silent gaps -/

/-- After the load loop a position of a request is in a chunk that the worker reads or
has reported, or its block is in a set of load errors. -/
def Accounted (worker : Worker Key Req) (request : ReqMeta Req) (position : Nat) : Prop :=
  ((worker.spanOf request).1 ≤ position / worker.geometry.chunkTokens ∧
    position / worker.geometry.chunkTokens <
      (worker.spanOf request).1 + (worker.spanOf request).2 ∧
    worker.Handled request (position / worker.geometry.chunkTokens)) ∨
  ∃ block, request.blockIds[position / worker.geometry.blockSize]? = some block ∧
    block ∈ worker.load.errorBlocks ∪ worker.async.errorBlocks

/-- Two connectors that give the same offers. -/
structure SameOffers (base connector : Connector Key Req) : Prop where
  geometry : connector.geometry = base.geometry
  minRetrieveTokens : connector.minRetrieveTokens = base.minRetrieveTokens
  maxTokensPerLoad : connector.maxTokensPerLoad = base.maxTokensPerLoad
  index : connector.index = base.index

/-- Whatever else the connector holds, whatever vLLM does for other requests in the same
step, however the step is scheduled and whatever the state of the worker: the plan of
the step makes the worker account for each position of the offered load. -/
def NoSilentGap (base : Connector Key Req) (reqId : Req) (tokens : List Nat)
    (numComputedTokens : Nat) (decision : Bool) : Prop :=
  ∀ connector : Connector Key Req, SameOffers base connector → connector.Filed →
  ∀ (blocks : BlockIds) (ownCount : Nat) (calls : List (SchedulerCall Req)),
    (∀ next ∈ calls, next.subject ≠ reqId) →
  ∀ (output : SchedulerOutput Req) (allTokenIds : Req → List Nat) (generation : Key → Nat)
    (worker loaded : Worker Key Req),
    worker.geometry = base.geometry →
    let query := connector.getNumNewMatchedTokens digest reqId tokens numComputedTokens decision
    let allocated := query.2.updateStateAfterAlloc reqId tokens ownCount blocks query.1.1
    let requests := ((calls.foldl (call digest) allocated).buildConnectorMeta digest output
      allTokenIds generation).1.requests
    Worker.loadRequests digest requests 0 worker = some loaded →
      ∀ request ∈ requests, request.reqId = reqId → request.loadAsync = decision →
        0 < request.loadTokens →
          ∀ position, numComputedTokens ≤ position → position < numComputedTokens + query.1.1 →
            Accounted loaded request position

/-- The offered interval begins at a chunk boundary, and the load limit is off, or a
multiple of the chunk, or not reached. -/
def WholeChunks (base : Connector Key Req) (tokens : List Nat) (numComputedTokens : Nat) : Prop :=
  base.geometry.chunkTokens ∣ numComputedTokens ∧
    (base.maxTokensPerLoad = 0 ∨ base.geometry.chunkTokens ∣ base.maxTokensPerLoad ∨
      min ((base.index.lookupPrefix digest tokens).1 - numComputedTokens)
          (tokens.length - 1 - numComputedTokens) /
        base.geometry.chunkTokens * base.geometry.chunkTokens ≤ base.maxTokensPerLoad)

variable {base : Connector Key Req}

omit [DecidableEq Req] in
/-- An offered interval consists of whole chunks exactly when the condition holds. -/
theorem wholeChunks_iff (offered : 0 < base.offer digest tokens numComputedTokens) :
    base.WholeChunks digest tokens numComputedTokens ↔
      base.geometry.chunkTokens ∣ numComputedTokens ∧
        base.geometry.chunkTokens ∣ base.offer digest tokens numComputedTokens := by
  refine and_congr_right fun _ => ?_
  unfold offer offeredTokens at offered ⊢
  dsimp only at offered ⊢
  generalize min ((base.index.lookupPrefix digest tokens).1 - numComputedTokens)
    (tokens.length - 1 - numComputedTokens) = beyond at offered ⊢
  have whole : base.geometry.chunkTokens ∣
      beyond / base.geometry.chunkTokens * base.geometry.chunkTokens := Nat.dvd_mul_left _ _
  generalize beyond / base.geometry.chunkTokens * base.geometry.chunkTokens = aligned
    at offered whole ⊢
  by_cases unlimited : base.maxTokensPerLoad = 0
  · simp only [unlimited, ↓reduceIte, true_or, true_iff]
    split
    · exact Nat.dvd_zero _
    · exact whole
  rw [if_neg unlimited] at offered ⊢
  split at offered
  · omega
  rename_i enough
  rw [if_neg enough]
  simp only [unlimited, false_or]
  rcases Nat.le_total aligned base.maxTokensPerLoad with small | large
  · rw [Nat.min_eq_left small]
    exact ⟨fun _ => whole, fun _ => .inr small⟩
  rw [Nat.min_eq_right large]
  refine ⟨fun either => ?_, .inl⟩
  rcases either with divides | small
  · exact divides
  · rwa [Nat.le_antisymm large small]

/-- A load of whole chunks has no silent gap. -/
theorem noSilentGap_of_wholeChunks {reqId : Req} {decision : Bool}
    (offered : 0 < base.offer digest tokens numComputedTokens)
    (whole : base.WholeChunks digest tokens numComputedTokens) :
    base.NoSilentGap digest reqId tokens numComputedTokens decision := by
  intro connector same filed blocks ownCount calls others output allTokenIds generation worker
    loaded geometry query allocated requests ran request member here mode positive position lower
    upper
  have offer : connector.offer digest tokens numComputedTokens =
      base.offer digest tokens numComputedTokens := by
    unfold Connector.offer offeredTokens
    rw [same.geometry, same.minRetrieveTokens, same.maxTokensPerLoad, same.index]
  have queried : query.1.1 = base.offer digest tokens numComputedTokens := by
    rw [← offer]
    exact congrArg (fun result => result.1.1)
      (getNumNewMatchedTokens_of_pos digest (offer ▸ offered) reqId decision)
  have known : (calls.foldl (call digest) allocated).Known reqId numComputedTokens
      (base.offer digest tokens numComputedTokens) decision := by
    have first := known_alloc digest filed (offer ▸ offered) reqId decision blocks ownCount
    rw [offer] at first
    exact Known.foldl digest calls others first
  obtain ⟨startToken, loadTokens⟩ := known.mem_buildConnectorMeta digest member here mode positive
  obtain ⟨grows, handled⟩ := Worker.handled_loadRequests ran
  obtain ⟨begins, ends⟩ := (wholeChunks_iff digest offered).mp whole
  have covers := base.geometry.covers_of_aligned offered begins ends position lower
    (queried ▸ upper)
  have span : worker.spanOf request = base.geometry.loadChunkSpan numComputedTokens
      (base.offer digest tokens numComputedTokens) := by
    rw [Worker.spanOf, geometry, startToken, loadTokens]
  have spanAfter : loaded.spanOf request = worker.spanOf request := by
    rw [Worker.spanOf, Worker.spanOf, grows.geometry]
  rw [← span] at covers
  refine .inl ?_
  rw [spanAfter, grows.geometry, geometry]
  exact ⟨covers.1, covers.2, handled request member positive _ covers.1 covers.2⟩

/-! ## A step with a single load -/

section Sole

variable (base : Connector Key Req) (reqId : Req) (tokens : List Nat) (numComputedTokens : Nat)
  (decision : Bool) (blocks : List Nat)

/-- A connector with the same offers that knows no request. -/
def bare : Connector Key Req :=
  fresh base.geometry base.minRetrieveTokens base.maxTokensPerLoad base.tpSize base.index

/-- The bare connector after the query and the allocation. -/
def soleAllocated : Connector Key Req :=
  let query := base.bare.getNumNewMatchedTokens digest reqId tokens numComputedTokens decision
  query.2.updateStateAfterAlloc reqId tokens numComputedTokens (.flat blocks) query.1.1

/-- A step that schedules the request alone, if it loads synchronously. -/
def soleOutput : SchedulerOutput Req where
  finishedReqIds := []
  scheduledNewReqs := if decision then [] else [⟨reqId, tokens, .flat blocks⟩]
  scheduledCachedReqs := ⟨[], [], []⟩
  numScheduledTokens := fun _ => 0

/-- The plan of that step. -/
def soleRequests : List (ReqMeta Req) :=
  ((base.soleAllocated digest reqId tokens numComputedTokens decision blocks).buildConnectorMeta
    digest (soleOutput reqId tokens decision blocks) (fun _ => []) fun _ => 0).1.requests

section

variable (offered : 0 < base.offer digest tokens numComputedTokens)
include offered

/-- The asynchronous load is the only pending one. -/
theorem asyncPending_soleAllocated :
    ((base.soleAllocated digest reqId tokens numComputedTokens true blocks).asyncPending).entries =
      [(reqId, ⟨reqId, tokens, blocks, base.offer digest tokens numComputedTokens,
        numComputedTokens, 0, 0, [], true⟩)] := by
  change 0 < base.bare.offer digest tokens numComputedTokens at offered
  unfold soleAllocated updateStateAfterAlloc
  rw [getNumNewMatchedTokens_of_pos digest offered]
  simp only [update_self, offered.ne']
  rfl

theorem pendingLoads_soleAllocated :
    let allocated := base.soleAllocated digest reqId tokens numComputedTokens false blocks
    allocated.pendingLoads reqId = some (base.offer digest tokens numComputedTokens) ∧
      allocated.loadStarts reqId = some numComputedTokens ∧ allocated.asyncPending = ∅ := by
  change 0 < base.bare.offer digest tokens numComputedTokens at offered
  unfold soleAllocated updateStateAfterAlloc
  rw [getNumNewMatchedTokens_of_pos digest offered]
  simp only [update_self, Option.getD_some, offered.ne', ↓reduceIte, Bool.false_eq_true]
  exact ⟨rfl, trivial, rfl⟩

omit offered in
omit [DecidableEq Req] in
/-- A single planned request stays the only one. -/
theorem admitSaves_singleton (connector : Connector Key Req) (generation : Key → Nat)
    (entry : ReqMeta Req × List Key) :
    ∃ request, (admitSaves connector generation [entry]).1 = [request] ∧
      SameLoad request entry.1 := by
  have length : (admitSaves connector generation [entry]).1.length = 1 := by
    unfold admitSaves
    split
    · split
      · rfl
      · split <;> rfl
    · rfl
  obtain ⟨request, only⟩ := length_eq_one_iff.mp length
  obtain ⟨plan, listed, same, _⟩ := mem_admitSaves (only ▸ mem_singleton_self request)
  rw [mem_singleton.mp listed] at same
  exact ⟨request, only, same⟩

omit offered in
/-- The scheduled request is planned with its load. -/
theorem plannedStep_sole (allocated : Connector Key Req) :
    ∃ entry, (plannedStep digest allocated (soleOutput reqId tokens false blocks)
        (fun _ => [])).1 = [entry] ∧
      entry.1.reqId = reqId ∧ entry.1.blockIds = blocks ∧ entry.1.loadAsync = false ∧
      entry.1.loadTokens = (allocated.pendingLoads reqId).getD 0 ∧
      entry.1.loadStartToken = (allocated.loadStarts reqId).getD 0 := by
  let tracked := allocated.beginStep.trackNew ⟨reqId, tokens, .flat blocks⟩
  have found : tracked.trackers reqId = some
      ⟨tokens.take (blocks.length * allocated.geometry.blockSize), blocks, 0⟩ :=
    update_self _ _ _
  have planned : (plannedStep digest allocated (soleOutput reqId tokens false blocks)
      (fun _ => [])).1 = (planRequest digest tracked reqId).1 ++ [] := rfl
  rw [planned, planRequest, found]
  exact ⟨_, rfl, rfl, rfl, rfl, rfl, rfl⟩

/-- The plan of the step has one request, and it carries the load. -/
theorem exists_soleRequest :
    ∃ request, base.soleRequests digest reqId tokens numComputedTokens decision blocks = [request] ∧
      request.reqId = reqId ∧ request.loadAsync = decision ∧ request.blockIds = blocks ∧
      request.loadStartToken = numComputedTokens ∧
      request.loadTokens = base.offer digest tokens numComputedTokens := by
  unfold soleRequests
  cases decision with
  | true =>
    have pending := asyncPending_soleAllocated digest base reqId tokens numComputedTokens blocks
      offered
    refine ⟨⟨reqId, tokens, blocks, base.offer digest tokens numComputedTokens,
      numComputedTokens, 0, 0, [], true⟩, ?_, rfl, rfl, rfl, rfl, rfl⟩
    exact congrArg (map Prod.snd) pending
  | false =>
    obtain ⟨load, start, none⟩ := pendingLoads_soleAllocated digest base reqId tokens
      numComputedTokens blocks offered
    generalize base.soleAllocated digest reqId tokens numComputedTokens false blocks = allocated
      at load start none
    obtain ⟨entry, planned, own, table, sync, count, first⟩ :=
      plannedStep_sole digest reqId tokens blocks allocated
    obtain ⟨request, admitted, same⟩ := admitSaves_singleton
      (plannedStep digest allocated (soleOutput reqId tokens false blocks) fun _ => []).2
      (fun _ => 0) entry
    refine ⟨request, ?_, same.reqId.trans own, same.loadAsync.trans sync,
      same.blockIds.trans table, ?_, ?_⟩
    · have frame := (sameFrame_trackScheduled allocated.beginStep
        (soleOutput reqId tokens false blocks) fun _ => []).trans
        ((sameFrame_planRequests digest _ _).trans (sameFrame_admitSaves
          (plannedStep digest allocated (soleOutput reqId tokens false blocks) fun _ => []).2
          (fun _ => 0) [entry]).1)
      unfold buildConnectorMeta deliverAsync
      dsimp only
      rw [planned, admitted, frame.asyncPending]
      change [request] ++ allocated.asyncPending.entries.map Prod.snd = [request]
      rw [none]
      rfl
    · rw [same.loadStartToken, first, start, Option.getD_some]
    · rw [same.loadTokens, count, load, Option.getD_some]

end

end Sole

end Connector

namespace Worker

variable {Key Req : Type} [DecidableEq Key] [DecidableEq Req] {digest : Key → List Nat → Key}

variable (digest) in
/-- Only the block tables of an asynchronous load can make the loop raise. -/
theorem exists_loadRequest {worker : Worker Key Req} {request : ReqMeta Req}
    (valid : request.loadAsync = true → worker.validateDirect (worker.spanTables request) = true)
    (requestOrdinal : Nat) :
    ∃ next, worker.loadRequest digest requestOrdinal request = some next := by
  unfold loadRequest
  split
  · exact ⟨_, rfl⟩
  split
  · rename_i async
    have full := valid async
    unfold spanTables spanOf at full
    unfold enqueueAsyncLoad
    dsimp only
    split
    · exact ⟨_, rfl⟩
    · split <;> exact ⟨_, rfl⟩
  · dsimp only
    split
    · exact ⟨_, rfl⟩
    · split <;> exact ⟨_, rfl⟩

omit [DecidableEq Key] [DecidableEq Req] in
/-- The blocks of a chunk of a request that owns the first blocks, in order. -/
theorem chunkTable_range {worker : Worker Key Req} {request : ReqMeta Req} {count : Nat}
    (owned : request.blockIds = range count) {chunk : Nat}
    (enough : (chunk + 1) * worker.geometry.blocksPerChunk ≤ count) :
    worker.chunkTable request chunk =
      range' (chunk * worker.geometry.blocksPerChunk) worker.geometry.blocksPerChunk := by
  rw [Nat.add_mul] at enough
  rw [chunkTable, owned, range_eq_range', drop_range', Nat.mul_one, Nat.zero_add,
    take_range'_of_length_ge (by omega)]

end Worker

namespace Connector

variable {Key Req : Type} [DecidableEq Key] [DecidableEq Req] (digest : Key → List Nat → Key)

/-- A load without silent gaps consists of whole chunks: a worker that has no error to
report reads nothing else. -/
theorem covers_of_noSilentGap {base : Connector Key Req} {reqId : Req} {decision : Bool}
    (offered : 0 < base.offer digest tokens numComputedTokens)
    (gapless : base.NoSilentGap digest reqId tokens numComputedTokens decision) :
    base.geometry.Covers numComputedTokens (base.offer digest tokens numComputedTokens) := by
  set offer := base.offer digest tokens numComputedTokens
  let count := numComputedTokens + offer
  let worker : Worker Key Req :=
    Worker.fresh base.geometry count base.tpSize (KVEngine.fresh base.index.index)
  obtain ⟨request, only, own, mode, owned, start, load⟩ := exists_soleRequest digest base reqId
    tokens numComputedTokens decision (range count) offered
  have span : worker.spanOf request = base.geometry.loadChunkSpan numComputedTokens offer := by
    rw [Worker.spanOf, start, load]
    rfl
  have enough : ∀ chunk, (worker.spanOf request).1 ≤ chunk →
      chunk < (worker.spanOf request).1 + (worker.spanOf request).2 →
        (chunk + 1) * base.geometry.blocksPerChunk ≤ count := by
    intro chunk lower upper
    rw [span] at lower upper
    have inside := base.geometry.loadChunkSpan_end_le lower upper
    rw [← base.geometry.blocksPerChunk_mul, ← Nat.mul_assoc] at inside
    exact (Nat.le_mul_of_pos_right _ base.geometry.blockSize_pos).trans inside
  have valid : worker.validateDirect (worker.spanTables request) = true := by
    refine all_eq_true.mpr fun table member => ?_
    obtain ⟨offset, found⟩ := mem_iff_getElem?.mp member
    have inside := (List.getElem?_eq_some_iff.mp found).1
    rw [worker.length_spanTables] at inside
    rw [worker.getElem?_spanTables request inside] at found
    have room := enough _ (Nat.le_add_right _ offset) (Nat.add_lt_add_left inside _)
    rw [Worker.chunkTable_range owned room] at found
    obtain rfl := Option.some.inj found
    simp only [length_range', Bool.and_eq_true, decide_eq_true_eq, all_eq_true, mem_range'_1]
    refine ⟨trivial, fun block bounds => bounds.2.trans_le ?_⟩
    rw [Nat.add_mul, Nat.one_mul] at room
    exact room
  obtain ⟨loaded, stepped⟩ := Worker.exists_loadRequest digest (fun _ => valid) 0
  have step := Worker.loaded_loadRequest stepped
  have spanAfter : loaded.spanOf request = worker.spanOf request := step.sameRank.spanOf request
  have geometryAfter : loaded.geometry = base.geometry := step.grows.geometry
  intro position lower upper
  rw [← span]
  have ran : Worker.loadRequests digest (base.soleRequests digest reqId tokens numComputedTokens
      decision (range count)) 0 worker = some loaded := by
    rw [only, Worker.loadRequests, stepped]
    rfl
  have queried : (base.bare.getNumNewMatchedTokens digest reqId tokens numComputedTokens
      decision).1.1 = offer :=
    congrArg (fun result => result.1.1)
      (getNumNewMatchedTokens_of_pos digest (show 0 < base.bare.offer _ _ _ from offered) reqId
        decision)
  have listed : request ∈ base.soleRequests digest reqId tokens numComputedTokens decision
      (range count) := only ▸ mem_singleton_self request
  have accounted := gapless base.bare ⟨rfl, rfl, rfl, rfl⟩ nofun
    (.flat (range count)) numComputedTokens [] nofun
    (soleOutput reqId tokens decision (range count)) (fun _ => []) (fun _ => 0) worker loaded
    rfl ran request listed own mode (load ▸ offered) position lower (queried ▸ upper)
  rw [Accounted, spanAfter, geometryAfter] at accounted
  rcases accounted with ⟨first, last, _⟩ | ⟨block, found, reported⟩
  · exact ⟨first, last⟩
  -- The reported block is the block of the position, so its chunk is in the span.
  rcases step.errors_inSpan reported with before | ⟨chunk, first, last, member⟩
  · exact absurd before (Finset.notMem_empty _)
  rw [Worker.chunkTable_range owned (enough chunk first last), mem_range'_1] at member
  rw [owned] at found
  obtain ⟨_, same⟩ := List.getElem?_eq_some_iff.mp found
  rw [getElem_range] at same
  have bounds : chunk * base.geometry.blocksPerChunk ≤ block ∧
      block < chunk * base.geometry.blocksPerChunk + base.geometry.blocksPerChunk := member
  have quotient : position / base.geometry.chunkTokens = chunk := by
    rw [← base.geometry.div_blockSize_div, same, Nat.div_eq_iff base.geometry.blocksPerChunk_pos]
    exact ⟨bounds.1, by omega⟩
  rw [quotient]
  exact ⟨first, last⟩

/-- The offered load has no silent gap exactly when it consists of whole chunks. -/
theorem noSilentGap_iff (base : Connector Key Req) (reqId : Req) (tokens : List Nat)
    (numComputedTokens : Nat) (decision : Bool)
    (matched : 0 < (base.getNumNewMatchedTokens digest reqId tokens numComputedTokens
      decision).1.1) :
    base.NoSilentGap digest reqId tokens numComputedTokens decision ↔
      base.WholeChunks digest tokens numComputedTokens := by
  rw [getNumNewMatchedTokens_count] at matched
  refine ⟨fun gapless => ?_, noSilentGap_of_wholeChunks digest matched⟩
  rw [wholeChunks_iff digest matched, ← base.geometry.covers_iff matched]
  exact covers_of_noSilentGap digest matched gapless

/-- Chunks of two blocks, three of which are resident, and no limits. -/
def threeChunks : Connector Nat Nat :=
  fresh .small 0 0 1
    (SchedulerMetadataIndex.init
      (ChunkIndex.small.restore [1, 2, 3]) 1 [(1, 0), (2, 0), (3, 0)])

/-- Chained keys for prompts whose chunks follow the numbering. -/
def nextKey (parent : Nat) (_ : List Nat) : Nat := parent + 1

theorem noSilentGap_iff_wholeChunks :
    0 < (threeChunks.getNumNewMatchedTokens nextKey 0 (range 13) 4 true).1.1 ∧
      threeChunks.NoSilentGap nextKey 0 (range 13) 4 true :=
  ⟨by decide, (noSilentGap_iff nextKey threeChunks 0 (range 13) 4 true (by decide)).mpr
    ⟨by decide, .inl rfl⟩⟩

/-- With one block computed the offer of eight tokens ends and begins inside a chunk, and
only the chunk in its middle is read. -/
theorem oneBlockComputed_silentGap :
    (threeChunks.getNumNewMatchedTokens nextKey 0 (range 13) 2 false).1 = (8, false) ∧
      ¬ threeChunks.NoSilentGap nextKey 0 (range 13) 2 false := by
  refine ⟨by decide, fun gapless => ?_⟩
  have covers := covers_of_noSilentGap nextKey (by decide) gapless
  exact absurd (threeChunks.geometry.dvd_start_of_covers (by decide) covers) (by decide)

end Connector

end Tutti
