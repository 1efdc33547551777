import Tutti.Nvme.ChunkLayout

/-!
# Transfers of the store

The part of `TuttiKVStore` and of its direct backend that moves chunks: batches of puts
and gets, direct writes under a write plan, what happens when a batch settles, and the
three ways a chunk is given up. Several transfers are in flight at once and they settle in
any order. A transfer remembers the slot and the generation each of its writes was sent
to; `landed` records the writes that completed since the reservation of their chunk was
made.
-/

namespace Tutti.Nvme

open Foundation ObjectStoreCore

/-- One write of a transfer, with the place it was sent to. -/
structure WriteItem where
  chunk : ObjectKey
  layer : Nat
  slot : Nat
  generation : Nat
  deriving DecidableEq, Repr

def WriteItem.ioKey (item : WriteItem) : IoKey := (item.chunk, item.layer)

inductive TransferKind where
  | put
  | direct
  | read
  deriving DecidableEq, Repr

/-- A completion and the chunks it is tracked for. Settling comes before the done
callbacks, so a settled transfer whose callback raised stays tracked. -/
structure Transfer where
  kind : TransferKind
  chunks : List ObjectKey
  items : List WriteItem
  settled : Bool := false
  deriving DecidableEq, Repr

/-- The place of a chunk in a write plan. -/
structure PlanEntry where
  chunk : ObjectKey
  slot : Nat
  generation : Nat
  deriving DecidableEq, Repr

structure PutStore where
  layout : ChunkLayout
  numLayers : Nat
  inflight : OrderedDict Nat Transfer := ∅
  issued : Nat := 0
  failedChunks : List ObjectKey := []
  writePlan : Option (List PlanEntry) := none
  /-- `_prepared_write_request` and `_prepared_write_chunks`. -/
  prepared : Option (List ObjectKey × List ObjectKey) := none
  landed : List WriteItem := []

/-- The calls on the store, with what the environment makes of them: `opened` is false
where opening the targets of a plan raises, `submitted` where submitting does. -/
inductive PutOp where
  | putBatch (keys : List IoKey) (submitted : Bool)
  | getBatch (keys : List IoKey) (submitted : Bool)
  | prepareWriteTargets (chunks : List ObjectKey)
  | beginTargetPlan (chunks : List ObjectKey) (opened : Bool)
  | putPaged (chunks : List ObjectKey) (layer : Nat) (opened submitted : Bool)
  | endTargetPlan
  | settle (id : Nat) (ok : Bool) (writes : ObjectKey → WriteOutcome)
  | finalizeDirectFailures
  | abortChunks (chunks : List ObjectKey)
  | drop (keys : List IoKey)
  | maintain (op : StoreOp)

namespace PutStore

/-- A store that was just opened on a session. -/
def start (session : Session) (layerSpan numLayers : Nat) : PutStore where
  layout := { session, layerSpan, committed := (session.core.recover.toOption).getD [] }
  numLayers

/-! ## Submitting -/

/-- `prepare_put`. A chunk without a place has no reservation, so what landed for it
landed before the one that it gets now. -/
def preparePut (store : PutStore) (keys : List IoKey) :
    Except Status (List ObjectKey × Nat) × PutStore :=
  let asked := store.layout.preparePut keys
  (asked.1,
    { store with
      layout := asked.2
      landed := store.landed.filter fun item => (store.layout.placeOf item.chunk).isSome })

/-- The writes of a batch, each sent to the placement of its chunk. `none` is the
`KeyError` of a chunk without one. -/
def locate : List IoKey → ChunkLayout → Option (List WriteItem) × ChunkLayout
  | [], layout => (some [], layout)
  | key :: keys, layout =>
    match layout.placement key.1 with
    | (none, next) => (none, next)
    | (some placed, next) =>
      let rest := locate keys next
      (rest.1.map fun items => ⟨key.1, key.2, placed.slot, placed.generation⟩ :: items, rest.2)

/-- `_track_completion`. -/
def track (store : PutStore) (transfer : Transfer) : PutStore :=
  { store with
    inflight := store.inflight.set store.issued transfer
    issued := store.issued + 1 }

/-- Locate a batch, submit it and track it. -/
def send (store : PutStore) (kind : TransferKind) (keys : List IoKey) (submitted : Bool) :
    PutStore :=
  match locate keys store.layout with
  | (none, layout) => { store with layout }
  | (some items, layout) =>
    let located := { store with layout }
    if submitted = false then located
    else located.track ⟨kind, chunksOf keys, if kind = .read then [] else items, false⟩

/-- `put_batch`: only when chunks were rejected is the batch cut to the others. -/
def putBatch (store : PutStore) (keys : List IoKey) (submitted : Bool) : PutStore :=
  match store.preparePut keys with
  | (.error _, next) => next
  | (.ok (admitted, rejected), next) =>
    if rejected = 0 then next.send .put keys submitted
    else
      let kept := keys.filter fun key => admitted.contains key.1
      if kept = [] then next else next.send .put kept submitted

/-- `prepare_write_targets`: reserves once for a step, by the last layer of each chunk. -/
def prepareWriteTargets (store : PutStore) (chunks : List ObjectKey) : PutStore :=
  let named := firstOccurrences chunks
  if store.writePlan.isSome ∨ store.prepared.isSome then store
  else
    match store.preparePut (named.map fun chunk => (chunk, store.numLayers - 1)) with
    | (.error _, next) => next
    | (.ok (admitted, _), next) =>
      { next with prepared := some (named, named.filter fun chunk => admitted.contains chunk) }

/-- `begin_target_plan` for writes: fixes the place of every chunk that was admitted. -/
def beginTargetPlan (store : PutStore) (chunks : List ObjectKey) (opened : Bool) : PutStore :=
  match store.writePlan, store.prepared with
  | none, some (request, admitted) =>
    if request ≠ firstOccurrences chunks ∨ opened = false then store
    else
      match locate (admitted.map fun chunk => (chunk, 0)) store.layout with
      | (none, layout) => { store with layout }
      | (some items, layout) =>
        { store with
          layout
          writePlan := some (items.map fun item =>
            ⟨item.chunk, item.slot, item.generation⟩) }
  | _, _ => store

/-- `_validate_plan_entry` for each chunk of a direct write: the plan must have the chunk,
and the generation the layout has now. The slot is not compared. -/
def planned (plan : List PlanEntry) (layer : Nat) :
    List ObjectKey → ChunkLayout → Option (List WriteItem) × ChunkLayout
  | [], layout => (some [], layout)
  | chunk :: chunks, layout =>
    match plan.find? fun entry => entry.chunk == chunk with
    | none => (none, layout)
    | some entry =>
      let found := layout.placement chunk
      if ((found.1.map ObjectPlacement.generation).getD 0) ≠ entry.generation then
        (none, found.2)
      else
        let rest := planned plan layer chunks found.2
        (rest.1.map fun items => ⟨chunk, layer, entry.slot, entry.generation⟩ :: items, rest.2)

/-- A direct write under the write plan there is. -/
def sendPlanned (store : PutStore) (chunks : List ObjectKey) (layer : Nat) (submitted : Bool) :
    PutStore :=
  match store.writePlan with
  | none => store
  | some plan =>
    match planned plan layer chunks store.layout with
    | (none, layout) => { store with layout }
    | (some items, layout) =>
      let located := { store with layout }
      if submitted = false then located
      else located.track ⟨.direct, firstOccurrences chunks, items, false⟩

/-- `put_paged_batch`: makes the write plan when there is none. -/
def putPaged (store : PutStore) (chunks : List ObjectKey) (layer : Nat)
    (opened submitted : Bool) : PutStore :=
  if store.numLayers ≤ layer then store
  else if store.writePlan.isSome then store.sendPlanned chunks layer submitted
  else ((store.prepareWriteTargets chunks).beginTargetPlan chunks opened).sendPlanned chunks
    layer submitted

def endTargetPlan (store : PutStore) : PutStore :=
  { store with writePlan := none, prepared := none }

/-! ## Giving up -/

/-- `finalize_direct_failures`: the failed chunks are kept when the abort raises. -/
def finalizeDirectFailures (store : PutStore) : PutStore :=
  if store.failedChunks = [] then store
  else
    match store.layout.abortUncommitted store.failedChunks with
    | (.error _, layout) => { store with layout }
    | (.ok (), layout) => { store with layout, failedChunks := [] }

/-- `_wait_chunk_io` returns: no transfer on the chunks is still to settle. -/
def Drained (store : PutStore) (chunks : List ObjectKey) : Prop :=
  ∀ tracked ∈ store.inflight.entries, tracked.2.settled = false →
    ∀ chunk ∈ tracked.2.chunks, chunk ∉ chunks
  deriving Decidable

def abortChunks (store : PutStore) (chunks : List ObjectKey) : PutStore :=
  if store.Drained chunks then
    { store with layout := (store.layout.abortUncommitted chunks).2 }
  else store

/-- `drop` waits for the committed chunks it names and releases all of them. -/
def drop (store : PutStore) (keys : List IoKey) : PutStore :=
  if store.Drained (store.layout.releasableChunks keys) then
    { store with layout := (store.layout.releaseChunks (chunksOf keys)).2 }
  else store

/-! ## Settling -/

/-- The transfer is the only one tracked for its chunks, and the only direct write. -/
def Alone (store : PutStore) (id : Nat) (chunks : List ObjectKey) : Prop :=
  chunks ≠ [] ∧ ∀ tracked ∈ store.inflight.entries, tracked.1 ≠ id →
    tracked.2.kind ≠ .direct ∧ ∀ chunk ∈ tracked.2.chunks, chunk ∉ chunks
  deriving Decidable

/-- `_on_put_settled` and `_on_direct_put_settled`, and whether the callback returned. -/
def onSettled (store : PutStore) (id : Nat) (transfer : Transfer) (ok : Bool)
    (writes : ObjectKey → WriteOutcome) : Bool × PutStore :=
  match transfer.kind, ok with
  | .read, _ => (true, store)
  | _, true =>
    let done := store.layout.commitLayers (transfer.items.map WriteItem.ioKey) writes
    (done.1.isOk,
      { store with layout := done.2, landed := store.landed ++ transfer.items })
  | .put, false =>
    let given := store.layout.abortUncommitted (transfer.items.map WriteItem.chunk)
    (given.1.isOk, { store with layout := given.2 })
  | .direct, false =>
    let chunks := firstOccurrences (transfer.items.map WriteItem.chunk)
    let failed := { store with failedChunks := store.failedChunks ++ chunks }
    if store.Alone id chunks then
      let ended := failed.endTargetPlan.finalizeDirectFailures
      (ended.failedChunks.isEmpty, ended)
    else (true, failed)

/-- `_finish`: settles once; the done callback that ends the tracking runs only when the
settle callback returned. -/
def settle (store : PutStore) (id : Nat) (ok : Bool) (writes : ObjectKey → WriteOutcome) :
    PutStore :=
  match store.inflight.get? id with
  | none => store
  | some transfer =>
    if transfer.settled = true then store
    else
      match store.onSettled id transfer ok writes with
      | (true, next) => { next with inflight := next.inflight.erase id }
      | (false, next) =>
        { next with inflight := next.inflight.set id { transfer with settled := true } }

/-- The operations of the object store that name no chunk for the layout. -/
def isMaintenance : StoreOp → Bool
  | .pin _ | .unpin _ | .drainReclaim _ _ | .precreateStep _ _ | .checkpoint _ => true
  | .reserve _ | .commit _ | .abort _ | .release _ => false

def maintain (store : PutStore) (op : StoreOp) : PutStore :=
  if isMaintenance op = true then
    { store with layout := { store.layout with
      session := ObjectStoreCore.step store.layout.session op } }
  else store

def step (store : PutStore) : PutOp → PutStore
  | .putBatch keys submitted => store.putBatch keys submitted
  | .getBatch keys submitted => store.send .read keys submitted
  | .prepareWriteTargets chunks => store.prepareWriteTargets chunks
  | .beginTargetPlan chunks opened => store.beginTargetPlan chunks opened
  | .putPaged chunks layer opened submitted => store.putPaged chunks layer opened submitted
  | .endTargetPlan => store.endTargetPlan
  | .settle id ok writes => store.settle id ok writes
  | .finalizeDirectFailures => store.finalizeDirectFailures
  | .abortChunks chunks => store.abortChunks chunks
  | .drop keys => store.drop keys
  | .maintain op => store.maintain op

end PutStore

end Tutti.Nvme
