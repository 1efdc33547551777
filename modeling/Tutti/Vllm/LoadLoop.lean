import Tutti.Vllm.Worker

/-!
# What the load loop of a step does

`start_load_kv` goes once through the requests of the step. A synchronous load whose
chunks are all resident joins the read batch, otherwise its blocks are reported at
once; an asynchronous load is queued, reported, or finished without reading. The file
lists these cases and follows the read batch through the loop.
-/

namespace Tutti

open Foundation List

namespace Worker

variable {Key Req : Type} (digest : Key → List Nat → Key)

/-! ## One request -/

/-- The first chunk and the number of chunks that the worker reads for a request. -/
def spanOf (worker : Worker Key Req) (request : ReqMeta Req) : Nat × Nat :=
  worker.geometry.loadChunkSpan request.loadStartToken request.loadTokens

/-- The keys of these chunks. -/
def spanKeys (worker : Worker Key Req) (request : ReqMeta Req) : List Key :=
  ((worker.engine.hashKeys digest request.tokenIds).drop (worker.spanOf request).1).take
    (worker.spanOf request).2

/-- The block tables of these chunks. -/
def spanTables (worker : Worker Key Req) (request : ReqMeta Req) : List (List Nat) :=
  worker.geometry.spanBlockTables request.blockIds (worker.spanOf request).1
    (worker.spanOf request).2

/-- All chunks that are to be read for a request are resident on this rank. -/
def Pinnable (worker : Worker Key Req) (request : ReqMeta Req) : Prop :=
  ∀ key ∈ worker.spanKeys digest request, key ∈ worker.engine.index.resident

/-- A synchronous load with at least one complete chunk. -/
@[mk_iff]
structure SyncLoad (worker : Worker Key Req) (request : ReqMeta Req) : Prop where
  tokens : 0 < request.loadTokens
  sync : request.loadAsync = false
  chunks : 0 < (worker.spanOf request).2

/-- An asynchronous load. -/
@[mk_iff]
structure IsAsyncLoad (request : ReqMeta Req) : Prop where
  tokens : 0 < request.loadTokens
  async : request.loadAsync = true

variable {worker next : Worker Key Req} {request : ReqMeta Req}

theorem IsAsyncLoad.not_syncLoad (asked : IsAsyncLoad request) : ¬ worker.SyncLoad request :=
  fun sync => nomatch asked.async.symm.trans sync.sync

section Request

variable [DecidableEq Key] [DecidableEq Req]

/-- The worker with the pins of a batch added. -/
def pinned (worker : Worker Key Req) (keys : List Key) : Worker Key Req :=
  { worker with
    engine := { worker.engine with
      index := { worker.engine.index with
        pins := fun key => worker.engine.index.pins key + keys.count key } } }

/-- The outcomes of one request of the loop. -/
inductive Loaded (worker : Worker Key Req) (requestOrdinal : Nat) (request : ReqMeta Req) :
    Worker Key Req → Prop
  | idle (sync : ¬ IsAsyncLoad request) (nothing : ¬ worker.SyncLoad request) :
      Loaded worker requestOrdinal request worker
  | reported (asked : worker.SyncLoad request) (refused : ¬ worker.Pinnable digest request)
      (missing : List Key) :
      Loaded worker requestOrdinal request
        { worker with
          load := worker.load.reportLoadErrors worker.geometry requestOrdinal request
            (worker.spanOf request).1 (worker.spanOf request).2
          report := { worker.report with
            indexForgotten := worker.report.indexForgotten ∪ missing } }
  | collected (asked : worker.SyncLoad request) (complete : worker.Pinnable digest request) :
      Loaded worker requestOrdinal request
        { worker.pinned (worker.spanKeys digest request) with
          load := { worker.load with
            keys := worker.load.keys ++ worker.spanKeys digest request
            blockTables := worker.load.blockTables ++ worker.spanTables request
            requestSpans := worker.load.requestSpans ++
              [⟨requestOrdinal, request.reqId, (worker.spanOf request).1,
                worker.load.keys.length, (worker.spanOf request).2⟩] } }
  | asyncEmpty (asked : IsAsyncLoad request) (nothing : (worker.spanOf request).2 = 0) :
      Loaded worker requestOrdinal request
        { worker with
          async := { worker.async with
            finished := insert request.reqId worker.async.finished } }
  | asyncReported (asked : IsAsyncLoad request) (chunks : 0 < (worker.spanOf request).2)
      (valid : worker.validateDirect (worker.spanTables request) = true)
      (refused : ¬ worker.Pinnable digest request) (missing : List Key) :
      Loaded worker requestOrdinal request
        { worker with
          report := { worker.report with
            indexForgotten := worker.report.indexForgotten ∪ missing }
          async := { worker.async with
            errorBlocks :=
              worker.async.errorBlocks ∪ (worker.spanTables request).flatten.toFinset
            finished := insert request.reqId worker.async.finished } }
  | asyncQueued (asked : IsAsyncLoad request) (chunks : 0 < (worker.spanOf request).2)
      (valid : worker.validateDirect (worker.spanTables request) = true)
      (complete : worker.Pinnable digest request) :
      Loaded worker requestOrdinal request
        { worker.pinned (worker.spanKeys digest request) with
          async := { worker.async with
            queue := worker.async.queue ++
              [⟨request.reqId, worker.spanKeys digest request, worker.spanTables request⟩] } }

variable {digest}

omit [DecidableEq Req] in
theorem pin_spanKeys_ok {engine : KVEngine Key}
    (pinned : worker.engine.pin (worker.spanKeys digest request) = .ok engine) :
    worker.Pinnable digest request ∧
      engine = (worker.pinned (worker.spanKeys digest request)).engine := by
  obtain ⟨complete, rfl⟩ := KVEngine.pin_ok pinned
  exact ⟨complete, rfl⟩

omit [DecidableEq Req] in
theorem pin_spanKeys_error {missing : List Key}
    (refused : worker.engine.pin (worker.spanKeys digest request) = .error missing) :
    ¬ worker.Pinnable digest request := by
  obtain ⟨key, member, absent⟩ := KVEngine.pin_error refused
  exact fun complete => absent (complete key member)

theorem loaded_enqueueAsyncLoad (requestOrdinal : Nat) (asked : IsAsyncLoad request)
    (queued : worker.enqueueAsyncLoad digest request = some next) :
    worker.Loaded digest requestOrdinal request next := by
  unfold enqueueAsyncLoad at queued
  dsimp only at queued
  split at queued
  · rename_i nothing
    cases queued
    exact .asyncEmpty asked nothing
  rename_i chunks
  split at queued
  · rename_i valid
    split at queued
    · rename_i missing refused
      cases queued
      exact .asyncReported asked (Nat.pos_of_ne_zero chunks) valid (pin_spanKeys_error refused)
        missing
    · rename_i engine pinned
      cases queued
      obtain ⟨complete, rfl⟩ := pin_spanKeys_ok pinned
      exact .asyncQueued asked (Nat.pos_of_ne_zero chunks) valid complete
  · cases queued

/-- Every request of the loop has one of the listed outcomes. -/
theorem loaded_loadRequest {requestOrdinal : Nat}
    (ran : worker.loadRequest digest requestOrdinal request = some next) :
    worker.Loaded digest requestOrdinal request next := by
  unfold loadRequest at ran
  dsimp only at ran
  split at ran
  · rename_i nothing
    cases ran
    exact .idle (fun asked => absurd nothing asked.tokens.ne') fun asked =>
      absurd nothing asked.tokens.ne'
  rename_i tokens
  have positive := Nat.pos_of_ne_zero tokens
  split at ran
  · rename_i async
    exact loaded_enqueueAsyncLoad requestOrdinal ⟨positive, async⟩ ran
  rename_i sync
  split at ran
  · rename_i nothing
    cases ran
    exact .idle (fun asked => sync asked.async) fun asked => absurd nothing asked.chunks.ne'
  rename_i chunks
  have asked : worker.SyncLoad request :=
    ⟨positive, Bool.eq_false_iff.mpr sync, Nat.pos_of_ne_zero chunks⟩
  split at ran
  · rename_i missing refused
    cases ran
    exact .reported asked (pin_spanKeys_error refused) missing
  · rename_i engine pinned
    cases ran
    obtain ⟨complete, rfl⟩ := pin_spanKeys_ok pinned
    exact .collected asked complete

end Request

/-! ## The read batch through the loop -/

/-- The rank has the same plan to carry out, and the same chunks to do it. -/
structure SameRank (before after : Worker Key Req) : Prop where
  geometry : after.geometry = before.geometry
  numBlocks : after.numBlocks = before.numBlocks
  tpSize : after.tpSize = before.tpSize
  metadata : after.metadata = before.metadata
  resident : after.engine.index.resident = before.engine.index.resident
  hashKeys : after.engine.hashKeys digest = before.engine.hashKeys digest

/-- A request that the loop has reported, since not all its chunks are resident. -/
structure Unpinnable (worker : Worker Key Req) (request : ReqMeta Req) : Prop where
  asked : worker.SyncLoad request
  refused : ¬ worker.Pinnable digest request

/-- The blocks of a chunk of a request. -/
def chunkTable (worker : Worker Key Req) (request : ReqMeta Req) (chunk : Nat) : List Nat :=
  (request.blockIds.drop (chunk * worker.geometry.blocksPerChunk)).take
    worker.geometry.blocksPerChunk

instance (worker : Worker Key Req) (request : ReqMeta Req) : Decidable (worker.SyncLoad request) :=
  decidable_of_iff _ (syncLoad_iff worker request).symm

instance (request : ReqMeta Req) : Decidable (IsAsyncLoad request) :=
  decidable_of_iff _ (isAsyncLoad_iff request).symm

instance [DecidableEq Key] (worker : Worker Key Req) (request : ReqMeta Req) :
    Decidable (worker.Pinnable digest request) :=
  inferInstanceAs (Decidable (∀ key ∈ worker.spanKeys digest request, key ∈ _))

/-- The chunks that a request adds to the read batch, each with the ordinal of the
request. -/
def readChunks [DecidableEq Key] (worker : Worker Key Req) (request : ReqMeta Req)
    (requestOrdinal : Nat) : List (Nat × Nat) :=
  if worker.SyncLoad request ∧ worker.Pinnable digest request then
    (range (worker.spanOf request).2).map fun offset =>
      (requestOrdinal, (worker.spanOf request).1 + offset)
  else []

/-- The chunks of the read batch in their order. -/
def readOrder [DecidableEq Key] (worker : Worker Key Req) (requests : List (ReqMeta Req)) :
    List (Nat × Nat) :=
  requests.zipIdx.flatMap fun entry => worker.readChunks digest entry.1 entry.2

/-- The read batch has one key for each block table. -/
def Aligned (load : LoadState Key Req) : Prop := load.keys.length = load.blockTables.length

/-- A span stands for the request at its ordinal. In an aligned batch it finds the
request's blocks, and the request has a key for each chunk. -/
structure SpanFor [DecidableEq Key] (start : Worker Key Req) (requests : List (ReqMeta Req))
    (load : LoadState Key Req) (span : LoadRequestSpan Req) (request : ReqMeta Req) : Prop where
  listed : requests[span.requestOrdinal]? = some request
  reqId : span.reqId = request.reqId
  asked : start.SyncLoad request
  complete : start.Pinnable digest request
  first : span.firstChunkOrdinal = (start.spanOf request).1
  count : span.chunkCount = (start.spanOf request).2
  keys : start.spanKeys digest request ⊆ load.keys
  full : Aligned load → (start.spanKeys digest request).length = span.chunkCount
  tables : Aligned load → ∀ offset < span.chunkCount,
    load.blockTables[span.flatChunkStart + offset]? =
      some (start.chunkTable request (span.firstChunkOrdinal + offset))
  places : Aligned load → ∀ offset < span.chunkCount,
    (start.readOrder digest requests)[span.flatChunkStart + offset]? =
      some (span.requestOrdinal, span.firstChunkOrdinal + offset)

/-- The read batch after the given requests. -/
structure ReadBatch [DecidableEq Key] (start : Worker Key Req) (requests : List (ReqMeta Req))
    (worker : Worker Key Req) : Prop where
  same : SameRank digest start worker
  order : (start.readOrder digest requests).length = worker.load.blockTables.length
  short : worker.load.keys.length ≤ worker.load.blockTables.length
  spanned : worker.load.requestSpans = [] → worker.load.keys = []
  span : ∀ span ∈ worker.load.requestSpans, ∃ request,
    SpanFor digest start requests worker.load span request
  listed : ∀ (ordinal : Nat) (request : ReqMeta Req), requests[ordinal]? = some request →
    start.SyncLoad request → start.Pinnable digest request →
      ∃ span ∈ worker.load.requestSpans, span.requestOrdinal = ordinal
  failures : ∀ (ordinal : Nat) (failure : LogicalFailure),
    worker.load.logicalFailures ordinal = some failure ↔
      ∃ request, requests[ordinal]? = some request ∧ start.Unpinnable digest request ∧
        failure = ⟨ordinal, (start.spanOf request).1, (start.spanOf request).2⟩
  requestIds : ∀ reqId, reqId ∈ worker.load.errorRequestIds ↔
    ∃ request ∈ requests, start.Unpinnable digest request ∧ request.reqId = reqId

variable {digest}

variable {requestOrdinal : Nat}

theorem Loaded.sameRank [DecidableEq Key] [DecidableEq Req]
    (loaded : worker.Loaded digest requestOrdinal request next) : SameRank digest worker next := by
  cases loaded <;> exact ⟨rfl, rfl, rfl, rfl, rfl, rfl⟩

namespace SameRank

variable {before after : Worker Key Req} (same : SameRank digest before after)
include same

theorem trans {last : Worker Key Req} (next : SameRank digest after last) :
    SameRank digest before last :=
  ⟨next.geometry.trans same.geometry, next.numBlocks.trans same.numBlocks,
    next.tpSize.trans same.tpSize, next.metadata.trans same.metadata,
    next.resident.trans same.resident, next.hashKeys.trans same.hashKeys⟩

variable (request : ReqMeta Req)

theorem spanOf : after.spanOf request = before.spanOf request := by
  unfold Worker.spanOf
  rw [same.geometry]

theorem spanKeys :
    after.spanKeys digest request = before.spanKeys digest request := by
  unfold Worker.spanKeys
  rw [same.hashKeys, same.spanOf]

theorem spanTables :
    after.spanTables request = before.spanTables request := by
  unfold Worker.spanTables
  rw [same.geometry, same.spanOf]

theorem syncLoad {request : ReqMeta Req} : after.SyncLoad request ↔ before.SyncLoad request := by
  constructor
  · exact fun asked => ⟨asked.tokens, asked.sync, same.spanOf request ▸ asked.chunks⟩
  · exact fun asked => ⟨asked.tokens, asked.sync, (same.spanOf request).symm ▸ asked.chunks⟩

theorem pinnable {request : ReqMeta Req} :
    after.Pinnable digest request ↔ before.Pinnable digest request := by
  unfold Worker.Pinnable
  rw [same.spanKeys, same.resident]

end SameRank

/-- The entries of a list with one more at the end. -/
theorem getElem?_snoc_iff {Item : Type*} {items : List Item} {last item : Item} {place : Nat} :
    (items ++ [last])[place]? = some item ↔
      items[place]? = some item ∨ place = items.length ∧ item = last := by
  rcases Nat.lt_trichotomy place items.length with inside | rfl | outside
  · rw [getElem?_append_left inside]
    exact ⟨.inl, fun found => found.resolve_right fun here => absurd here.1 inside.ne⟩
  · simp [eq_comm]
  rw [getElem?_eq_none (by simp only [length_append, length_singleton]; omega),
    getElem?_eq_none outside.le]
  simp [outside.ne']

variable {chunk : Nat} {start : Worker Key Req}

section Batch

variable [DecidableEq Key] (requests : List (ReqMeta Req))

theorem readOrder_snoc (request : ReqMeta Req) :
    worker.readOrder digest (requests ++ [request]) =
      worker.readOrder digest requests ++ worker.readChunks digest request requests.length := by
  simp [readOrder, zipIdx_append, flatMap_append]

/-- A request that joins no batch leaves the order alone. -/
theorem readOrder_skip
    (nothing : ¬ (worker.SyncLoad request ∧ worker.Pinnable digest request)) :
    worker.readOrder digest (requests ++ [request]) = worker.readOrder digest requests := by
  rw [readOrder_snoc, readChunks, if_neg nothing, append_nil]

variable {requests : List (ReqMeta Req)}

/-- A request that joins no batch leaves the spans of the others alone. -/
theorem SpanFor.snoc {load : LoadState Key Req} {span : LoadRequestSpan Req}
    {owner : ReqMeta Req} (account : SpanFor digest start requests load span owner)
    (order : start.readOrder digest (requests ++ [request]) = start.readOrder digest requests) :
    SpanFor digest start (requests ++ [request]) load span owner :=
  { account with
    listed := getElem?_snoc_iff.mpr (.inl account.listed)
    places := order ▸ account.places }

section

variable (worker)
omit [DecidableEq Key]

theorem length_spanKeys_le (digest : Key → List Nat → Key) (request : ReqMeta Req) :
    (worker.spanKeys digest request).length ≤ (worker.spanOf request).2 :=
  length_take_le _ _

theorem length_spanTables (request : ReqMeta Req) :
    (worker.spanTables request).length = (worker.spanOf request).2 := by
  simp only [spanTables, ChunkGeometry.spanBlockTables, ChunkGeometry.chunkBlockTables,
    length_drop, length_map, length_range]
  omega

theorem getElem?_spanTables (request : ReqMeta Req) {offset : Nat}
    (inside : offset < (worker.spanOf request).2) :
    (worker.spanTables request)[offset]? =
      some (worker.chunkTable request ((worker.spanOf request).1 + offset)) := by
  rw [spanTables, ChunkGeometry.spanBlockTables, ChunkGeometry.chunkBlockTables,
    getElem?_drop, getElem?_map, getElem?_range (by omega)]
  rfl

theorem chunkTable_mem_spanTables (request : ReqMeta Req)
    (lower : (worker.spanOf request).1 ≤ chunk)
    (upper : chunk < (worker.spanOf request).1 + (worker.spanOf request).2) :
    worker.chunkTable request chunk ∈ worker.spanTables request := by
  refine mem_iff_getElem?.mpr ⟨chunk - (worker.spanOf request).1, ?_⟩
  rw [worker.getElem?_spanTables request (by omega), Nat.add_sub_cancel' lower]

end

section

variable (batch : ReadBatch digest start requests worker) (same : SameRank digest worker next)
include batch same

/-- A step that leaves the batch alone, at a request that does not load, keeps the
account of the batch. -/
theorem ReadBatch.skip (load : next.load = worker.load) (nothing : ¬ start.SyncLoad request) :
    ReadBatch digest start (requests ++ [request]) next := by
  have pinnable : ¬ start.Unpinnable digest request := fun lost => nothing lost.asked
  cases next
  subst load
  refine { batch with
    same := batch.same.trans same
    order := ?_
    span := fun span member => ?_
    listed := fun ordinal owner listed asked complete => ?_
    failures := fun ordinal failure => (batch.failures ordinal failure).trans ?_
    requestIds := fun reqId => (batch.requestIds reqId).trans ?_ }
  · rw [readOrder_skip requests fun joins => nothing joins.1]
    exact batch.order
  · obtain ⟨owner, account⟩ := batch.span span member
    exact ⟨owner, account.snoc (readOrder_skip requests fun joins => nothing joins.1)⟩
  · rcases getElem?_snoc_iff.mp listed with before | ⟨_, rfl⟩
    · exact batch.listed ordinal owner before asked complete
    · exact absurd asked nothing
  · simp [getElem?_snoc_iff, or_and_right, exists_or, pinnable]
  · simp [or_and_right, exists_or, pinnable]

/-- A reported request adds its failure and its id, and no span. -/
theorem ReadBatch.report [DecidableEq Req] (unpinnable : start.Unpinnable digest request)
    (load : next.load = worker.load.reportLoadErrors worker.geometry requests.length request
      (start.spanOf request).1 (start.spanOf request).2) :
    ReadBatch digest start (requests ++ [request]) next := by
  cases next
  subst load
  refine { batch with
    same := batch.same.trans same
    order := ?_
    span := fun span member => ?_
    listed := fun ordinal owner listed asked complete => ?_
    failures := fun ordinal failure => ?_
    requestIds := fun reqId => ?_ }
  · rw [readOrder_skip requests fun joins => unpinnable.refused joins.2]
    exact batch.order
  · obtain ⟨owner, account⟩ := batch.span span member
    have kept := account.snoc (readOrder_skip requests fun joins => unpinnable.refused joins.2)
    exact ⟨owner, { kept with }⟩
  · rcases getElem?_snoc_iff.mp listed with before | ⟨_, rfl⟩
    · exact batch.listed ordinal owner before asked complete
    · exact absurd complete unpinnable.refused
  · dsimp only [LoadState.reportLoadErrors]
    by_cases last : ordinal = requests.length
    · subst last
      rw [Function.update_self]
      constructor
      · rintro recorded
        cases recorded
        exact ⟨request, getElem?_snoc_iff.mpr (.inr ⟨rfl, rfl⟩), unpinnable, rfl⟩
      · rintro ⟨owner, listed, _, rfl⟩
        rcases getElem?_snoc_iff.mp listed with before | ⟨_, rfl⟩
        · rw [getElem?_eq_none (Nat.le_refl _)] at before
          cases before
        · rfl
    · rw [Function.update_of_ne last, batch.failures]
      refine exists_congr fun owner => and_congr_left fun _ => ?_
      rw [getElem?_snoc_iff]
      exact ⟨.inl, fun listed => listed.resolve_right fun here => last here.1⟩
  · rw [LoadState.reportLoadErrors, Finset.mem_insert, batch.requestIds]
    constructor
    · rintro (rfl | ⟨owner, member, rest⟩)
      · exact ⟨request, mem_append_right _ (.head _), unpinnable, rfl⟩
      · exact ⟨owner, mem_append_left _ member, rest⟩
    rintro ⟨owner, member, rest⟩
    rcases mem_append.mp member with before | here
    · exact .inr ⟨owner, before, rest⟩
    rw [mem_singleton] at here
    subst here
    exact .inl rest.2.symm

/-- A collected request adds its span behind the batch. Keys and tables stay equal in
number only if the request has one key for each of its chunks. -/
theorem ReadBatch.collect (asked : start.SyncLoad request)
    (complete : start.Pinnable digest request) (load : next.load = { worker.load with
      keys := worker.load.keys ++ start.spanKeys digest request
      blockTables := worker.load.blockTables ++ start.spanTables request
      requestSpans := worker.load.requestSpans ++
        [⟨requests.length, request.reqId, (start.spanOf request).1,
          worker.load.keys.length, (start.spanOf request).2⟩] }) :
    ReadBatch digest start (requests ++ [request]) next := by
  cases next
  subst load
  have keysBound := start.length_spanKeys_le digest request
  have tablesLength := start.length_spanTables request
  have short := batch.short
  have last : (requests ++ [request])[requests.length]? = some request :=
    getElem?_snoc_iff.mpr (.inr ⟨rfl, rfl⟩)
  -- An aligned batch was aligned before.
  have earlier : (worker.load.keys ++ start.spanKeys digest request).length =
        (worker.load.blockTables ++ start.spanTables request).length →
      worker.load.keys.length = worker.load.blockTables.length ∧
        (start.spanKeys digest request).length = (start.spanOf request).2 := by
    rw [length_append, length_append]
    omega
  have pinnable : ¬ start.Unpinnable digest request := fun lost => lost.refused complete
  have order := @readOrder_snoc _ _ digest start _ requests request
  rw [readChunks, if_pos ⟨asked, complete⟩] at order
  refine ⟨batch.same.trans same, ?_, ?_, ?_, ?_, ?_, ?_, ?_⟩
  · rw [order, length_append, length_append, batch.order, length_map, length_range, tablesLength]
  · simp only [length_append]
    omega
  · exact fun empty => absurd (append_eq_nil_iff.mp empty).2 nofun
  · intro span member
    rcases mem_append.mp member with before | here
    · obtain ⟨owner, account⟩ := batch.span span before
      refine ⟨owner, { account with
        listed := getElem?_snoc_iff.mpr (.inl account.listed)
        keys := subset_append_of_subset_left _ account.keys
        full := fun aligned => account.full (earlier aligned).1
        tables := fun aligned offset inside => ?_
        places := fun aligned offset inside => ?_ }⟩
      · have found := account.tables (earlier aligned).1 offset inside
        have bound := (List.getElem?_eq_some_iff.mp found).1
        rw [getElem?_append_left bound]
        exact found
      · have found := account.places (earlier aligned).1 offset inside
        have bound := (List.getElem?_eq_some_iff.mp found).1
        rw [order, getElem?_append_left bound]
        exact found
    · cases mem_singleton.mp here
      refine ⟨request, last, rfl, asked, complete, rfl, rfl, subset_append_right _ _,
        fun aligned => (earlier aligned).2, fun aligned offset inside => ?_,
        fun aligned offset inside => ?_⟩
      · rw [(earlier aligned).1, getElem?_append_right (Nat.le_add_right _ _),
          Nat.add_sub_cancel_left]
        exact start.getElem?_spanTables request inside
      · rw [order, (earlier aligned).1, ← batch.order, getElem?_append_right (Nat.le_add_right _ _),
          Nat.add_sub_cancel_left, getElem?_map, getElem?_range inside]
        rfl
  · intro ordinal owner listed asked' complete'
    rcases getElem?_snoc_iff.mp listed with before | ⟨rfl, rfl⟩
    · obtain ⟨span, member, here⟩ := batch.listed ordinal owner before asked' complete'
      exact ⟨span, mem_append_left _ member, here⟩
    · exact ⟨_, mem_append_right _ (.head _), rfl⟩
  · intro ordinal failure
    rw [batch.failures]
    simp [getElem?_snoc_iff, or_and_right, exists_or, pinnable]
  · intro reqId
    rw [batch.requestIds]
    simp [or_and_right, exists_or, pinnable]

end

theorem mem_readChunks {requestOrdinal : Nat} {entry : Nat × Nat}
    (member : entry ∈ worker.readChunks digest request requestOrdinal) :
    entry.1 = requestOrdinal := by
  unfold readChunks at member
  split at member
  · obtain ⟨_, _, rfl⟩ := mem_map.mp member
    rfl
  · cases member

/-- A chunk has one place in the read batch. -/
theorem nodup_readOrder (requests : List (ReqMeta Req)) :
    (worker.readOrder digest requests).Nodup := by
  refine nodup_flatMap.mpr ⟨fun entry _ => ?_, ?_⟩
  · unfold readChunks
    split
    · refine nodup_range.map fun first second same => ?_
      exact Nat.add_left_cancel (congrArg Prod.snd same)
    · exact nodup_nil
  · have ordinals : (requests.zipIdx.map Prod.snd).Nodup := by
      rw [zipIdx_map_snd]
      exact nodup_range'
    refine (pairwise_map.mp ordinals).imp fun {first second} different => ?_
    intro entry left right
    exact different ((mem_readChunks left).symm.trans (mem_readChunks right))

end Batch

variable {requests : List (ReqMeta Req)}

section Run

variable [DecidableEq Key] [DecidableEq Req]

theorem ReadBatch.step (batch : ReadBatch digest start requests worker)
    (loaded : worker.Loaded digest requests.length request next) :
    ReadBatch digest start (requests ++ [request]) next := by
  have same := loaded.sameRank
  have spans := batch.same.spanOf request
  cases loaded with
  | idle _ nothing => exact batch.skip same rfl (mt batch.same.syncLoad.mpr nothing)
  | reported asked refused missing =>
    refine batch.report same ⟨batch.same.syncLoad.mp asked, mt batch.same.pinnable.mpr refused⟩ ?_
    rw [← spans]
  | collected asked complete =>
    refine batch.collect same (batch.same.syncLoad.mp asked) (batch.same.pinnable.mp complete) ?_
    rw [← spans, ← batch.same.spanKeys, ← batch.same.spanTables]
  | asyncEmpty asked | asyncReported asked | asyncQueued asked =>
    exact batch.skip same rfl asked.not_syncLoad

/-- The account of the read batch holds behind the loop. -/
theorem ReadBatch.run {done : List (ReqMeta Req)} (batch : ReadBatch digest start done worker)
    (ran : loadRequests digest requests done.length worker = some next) :
    ReadBatch digest start (done ++ requests) next := by
  induction requests generalizing done worker with
  | nil =>
    cases ran
    rw [append_nil]
    exact batch
  | cons request requests ih =>
    unfold loadRequests at ran
    split at ran
    · cases ran
    rename_i middle stepped
    have after := batch.step (loaded_loadRequest stepped)
    rw [show done.length + 1 = (done ++ [request]).length by simp] at ran
    have behind := ih after ran
    rwa [append_assoc] at behind

/-- The loop leaves the kind of the step alone. -/
theorem loadRequests_fixed (ran : loadRequests digest requests requestOrdinal worker = some next) :
    next.load.externalLoadStep = worker.load.externalLoadStep := by
  induction requests generalizing worker requestOrdinal with
  | nil =>
    cases ran
    rfl
  | cons head tail ih =>
    unfold loadRequests at ran
    split at ran
    · cases ran
    rename_i middle stepped
    have loaded := loaded_loadRequest stepped
    have later := ih ran
    cases loaded <;> exact later

end Run

/-! ## What becomes of the chunks of a request -/

/-- The error sets, the spans and the queue only grow. -/
structure Grows (before after : Worker Key Req) : Prop where
  geometry : after.geometry = before.geometry
  spans : before.load.requestSpans ⊆ after.load.requestSpans
  blocks : before.load.errorBlocks ⊆ after.load.errorBlocks
  queue : before.async.queue ⊆ after.async.queue
  asyncBlocks : before.async.errorBlocks ⊆ after.async.errorBlocks

/-- The worker reads a chunk of a request, synchronously or asynchronously, or has
reported its blocks. -/
def Handled (worker : Worker Key Req) (request : ReqMeta Req) (chunk : Nat) : Prop :=
  (∃ span ∈ worker.load.requestSpans, span.reqId = request.reqId ∧
    span.firstChunkOrdinal ≤ chunk ∧ chunk < span.firstChunkOrdinal + span.chunkCount) ∨
  (∃ load ∈ worker.async.queue, load.reqId = request.reqId ∧
    worker.chunkTable request chunk ∈ load.blockTables) ∨
  ∀ block ∈ worker.chunkTable request chunk,
    block ∈ worker.load.errorBlocks ∪ worker.async.errorBlocks

theorem Grows.refl (worker : Worker Key Req) : Grows worker worker :=
  ⟨rfl, List.Subset.refl _, Finset.Subset.refl _, List.Subset.refl _, Finset.Subset.refl _⟩

theorem Grows.trans {first second third : Worker Key Req} (left : Grows first second)
    (right : Grows second third) : Grows first third :=
  ⟨right.geometry.trans left.geometry, List.Subset.trans left.spans right.spans,
    Finset.Subset.trans left.blocks right.blocks, List.Subset.trans left.queue right.queue,
    Finset.Subset.trans left.asyncBlocks right.asyncBlocks⟩

theorem Handled.mono {before after : Worker Key Req} (handled : before.Handled request chunk)
    (grows : Grows before after) :
    after.Handled request chunk := by
  unfold Handled chunkTable at handled ⊢
  rw [grows.geometry]
  rcases handled with ⟨span, member, rest⟩ | ⟨load, member, rest⟩ | reported
  · exact .inl ⟨span, grows.spans member, rest⟩
  · exact .inr (.inl ⟨load, grows.queue member, rest⟩)
  · exact .inr (.inr fun block member =>
      Finset.union_subset_union grows.blocks grows.asyncBlocks (reported block member))

theorem Loaded.grows [DecidableEq Key] [DecidableEq Req]
    (loaded : worker.Loaded digest requestOrdinal request next) : Grows worker next := by
  cases loaded with
  | idle => exact Grows.refl worker
  | reported => exact { Grows.refl worker with blocks := Finset.subset_union_left }
  | collected => exact { Grows.refl worker with spans := subset_append_left _ _ }
  | asyncEmpty => exact { Grows.refl worker with }
  | asyncReported => exact { Grows.refl worker with asyncBlocks := Finset.subset_union_left }
  | asyncQueued => exact { Grows.refl worker with queue := subset_append_left _ _ }

variable {block : Nat}

/-- The blocks of a chunk in a span are among the blocks reported for the span. -/
theorem mem_reportLoadErrors [DecidableEq Req] (requestOrdinal : Nat)
    (lower : (worker.spanOf request).1 ≤ chunk)
    (upper : chunk < (worker.spanOf request).1 + (worker.spanOf request).2)
    (member : block ∈ worker.chunkTable request chunk) :
    block ∈ (worker.load.reportLoadErrors worker.geometry requestOrdinal request
      (worker.spanOf request).1 (worker.spanOf request).2).errorBlocks := by
  refine Finset.mem_union_right _ (mem_toFinset.mpr ?_)
  generalize (worker.spanOf request).1 = first at lower upper ⊢
  generalize (worker.spanOf request).2 = count at upper ⊢
  obtain ⟨offset, found⟩ := mem_iff_getElem?.mp member
  unfold chunkTable at found
  generalize worker.geometry.blocksPerChunk = blocks at found ⊢
  rw [getElem?_take] at found
  split at found
  · rw [getElem?_drop] at found
    refine mem_iff_getElem?.mpr ⟨(chunk - first) * blocks + offset, ?_⟩
    have place : first * blocks + ((chunk - first) * blocks + offset) =
        chunk * blocks + offset := by
      rw [← Nat.add_assoc, ← Nat.add_mul, Nat.add_sub_cancel' lower]
    have bound : (chunk - first) * blocks + offset < count * blocks := by
      calc (chunk - first) * blocks + offset
          < (chunk - first + 1) * blocks := by
            rw [Nat.add_mul]
            omega
        _ ≤ count * blocks := Nat.mul_le_mul_right _ (by omega)
    rw [getElem?_take, if_pos bound, getElem?_drop, place]
    exact found
  · cases found

/-- A step of the loop handles the chunks in the span of its request. -/
theorem Loaded.handled [DecidableEq Key] [DecidableEq Req]
    (loaded : worker.Loaded digest requestOrdinal request next) (tokens : 0 < request.loadTokens)
    (lower : (worker.spanOf request).1 ≤ chunk)
    (upper : chunk < (worker.spanOf request).1 + (worker.spanOf request).2) :
    next.Handled request chunk := by
  have table := worker.chunkTable_mem_spanTables request lower upper
  cases loaded with
  | idle sync nothing =>
    refine absurd ⟨tokens, Bool.eq_false_iff.mpr fun async => ?_, by omega⟩ nothing
    exact sync ⟨tokens, async⟩
  | reported asked refused missing =>
    exact .inr (.inr fun block member =>
      Finset.mem_union_left _ (mem_reportLoadErrors requestOrdinal lower upper member))
  | collected asked complete =>
    exact .inl ⟨_, mem_append_right _ (.head _), rfl, lower, upper⟩
  | asyncEmpty asked nothing => omega
  | asyncReported asked chunks valid refused missing =>
    refine .inr (.inr fun block member => Finset.mem_union_right _ ?_)
    exact Finset.mem_union_right _ (mem_toFinset.mpr (mem_flatten.mpr ⟨_, table, member⟩))
  | asyncQueued asked chunks valid complete =>
    exact .inr (.inl ⟨_, mem_append_right _ (.head _), rfl, table⟩)

/-- Behind the loop the chunks in the spans of all its requests are handled. -/
theorem handled_loadRequests [DecidableEq Key] [DecidableEq Req]
    (ran : loadRequests digest requests requestOrdinal worker = some next) :
    Grows worker next ∧
      ∀ request ∈ requests, 0 < request.loadTokens →
        ∀ chunk, (worker.spanOf request).1 ≤ chunk →
          chunk < (worker.spanOf request).1 + (worker.spanOf request).2 →
            next.Handled request chunk := by
  induction requests generalizing worker requestOrdinal with
  | nil =>
    cases ran
    exact ⟨Grows.refl _, nofun⟩
  | cons head tail ih =>
    unfold loadRequests at ran
    split at ran
    · cases ran
    rename_i middle stepped
    have loaded := loaded_loadRequest stepped
    obtain ⟨grows, later⟩ := ih ran
    refine ⟨loaded.grows.trans grows, fun request member tokens chunk lower upper => ?_⟩
    rcases mem_cons.mp member with rfl | rest
    · exact (loaded.handled tokens lower upper).mono grows
    · have span := loaded.sameRank.spanOf request
      exact later request rest tokens chunk (span ▸ lower) (span ▸ upper)

/-- The block belongs to a chunk in the span of a request. -/
def InSpan (worker : Worker Key Req) (request : ReqMeta Req) (block : Nat) : Prop :=
  ∃ chunk, (worker.spanOf request).1 ≤ chunk ∧
    chunk < (worker.spanOf request).1 + (worker.spanOf request).2 ∧
      block ∈ worker.chunkTable request chunk

theorem inSpan_of_mem_spanTables (member : block ∈ (worker.spanTables request).flatten) :
    worker.InSpan request block := by
  obtain ⟨table, listed, inside⟩ := mem_flatten.mp member
  obtain ⟨offset, found⟩ := mem_iff_getElem?.mp listed
  have bound := (List.getElem?_eq_some_iff.mp found).1
  rw [worker.length_spanTables] at bound
  rw [worker.getElem?_spanTables request bound] at found
  cases found
  exact ⟨_, Nat.le_add_right _ _, Nat.add_lt_add_left bound _, inside⟩

theorem inSpan_of_mem_slice (member : block ∈ (request.blockIds.drop
        ((worker.spanOf request).1 * worker.geometry.blocksPerChunk)).take
      ((worker.spanOf request).2 * worker.geometry.blocksPerChunk)) :
    worker.InSpan request block := by
  obtain ⟨place, found⟩ := mem_iff_getElem?.mp member
  rw [getElem?_take] at found
  split at found
  · rw [getElem?_drop] at found
    have width := worker.geometry.blocksPerChunk_pos
    have parts := Nat.div_add_mod' place worker.geometry.blocksPerChunk
    refine ⟨(worker.spanOf request).1 + place / worker.geometry.blocksPerChunk,
      Nat.le_add_right _ _, Nat.add_lt_add_left (Nat.div_lt_of_lt_mul (by rwa [Nat.mul_comm])) _,
      mem_iff_getElem?.mpr ⟨place % worker.geometry.blocksPerChunk, ?_⟩⟩
    unfold chunkTable
    rw [getElem?_take, if_pos (Nat.mod_lt _ width), getElem?_drop, Nat.add_mul,
      Nat.add_assoc, parts]
    exact found
  · cases found

/-- A step of the loop reports only blocks of chunks in the span of its request. -/
theorem Loaded.errors_inSpan [DecidableEq Key] [DecidableEq Req]
    (loaded : worker.Loaded digest requestOrdinal request next)
    (member : block ∈ next.load.errorBlocks ∪ next.async.errorBlocks) :
    block ∈ worker.load.errorBlocks ∪ worker.async.errorBlocks ∨ worker.InSpan request block := by
  cases loaded with
  | idle | collected | asyncEmpty | asyncQueued => exact .inl member
  | reported asked refused missing =>
    rcases Finset.mem_union.mp member with sync | async
    · rcases Finset.mem_union.mp sync with old | new
      · exact .inl (Finset.mem_union_left _ old)
      · exact .inr (inSpan_of_mem_slice (mem_toFinset.mp new))
    · exact .inl (Finset.mem_union_right _ async)
  | asyncReported asked chunks valid refused missing =>
    rcases Finset.mem_union.mp member with sync | async
    · exact .inl (Finset.mem_union_left _ sync)
    rcases Finset.mem_union.mp async with old | new
    · exact .inl (Finset.mem_union_right _ old)
    · exact .inr (inSpan_of_mem_spanTables (mem_toFinset.mp new))

end Worker

end Tutti
