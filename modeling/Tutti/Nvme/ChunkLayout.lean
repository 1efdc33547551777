import Tutti.Storage.StoreMoves

/-!
# The layout of chunks

`ObjectLayout` of the store keeps, beside the object store, which chunks are committed,
where the chunks it has asked for are placed, and which layers of a chunk have been
written. An object of the store is one chunk, so a chunk is committed once all of its
layers are written; what it goes by is the number of layers noted for the chunk.

The second half follows the place of a chunk, its slot and generation, through the
operations of the object store: none of them moves a chunk that has a place, and only
`abort` and `release` take the place of chunks they name.
-/

namespace Tutti

open Foundation

namespace ObjectStoreCore

/-- The slot and the generation that a key has, reserved or committed. -/
def placeOf (core : ObjectStoreCore) (key : ObjectKey) : Option (Nat × Nat) :=
  (core.index.get? key).map fun entry => (entry.slot, entry.generation)

end ObjectStoreCore

namespace Nvme

open ObjectStoreCore

/-- A decoded `io_key`: the chunk and the layer. -/
abbrev IoKey := ObjectKey × Nat

structure ChunkLayout where
  session : Session
  layerSpan : Nat
  committed : List ObjectKey := []
  reserved : OrderedDict ObjectKey ObjectPlacement := ∅
  writtenLayers : OrderedDict ObjectKey (List Nat) := ∅

/-- The chunks of a batch, in order and without repetition. -/
def chunksOf (keys : List IoKey) : List ObjectKey :=
  firstOccurrences (keys.map Prod.fst)

namespace ChunkLayout

/-- `prepare_put`, with the chunks that were admitted and the number of the others. -/
def preparePut (layout : ChunkLayout) (keys : List IoKey) :
    Except Status (List ObjectKey × Nat) × ChunkLayout :=
  match layout.session.core.reserve (chunksOf keys) with
  | (.error status, core) =>
    (.error status, { layout with session := ⟨core, layout.session.media⟩ })
  | (.ok outcome, core) =>
    (.ok (outcome.acceptedKeys, outcome.rejectedCount),
      { layout with
        session := ⟨core, layout.session.media⟩
        reserved := (outcome.acceptedKeys.zip outcome.accepted).foldl
          (fun reserved placed => reserved.set placed.1 placed.2) layout.reserved })

/-- The layers of a chunk in a batch. -/
def layersIn (keys : List IoKey) (chunk : ObjectKey) : List Nat :=
  firstOccurrences ((keys.filter fun key => key.1 == chunk).map Prod.snd)

/-- `written |= layers`. -/
def addLayers (written layers : List Nat) : List Nat :=
  written ++ layers.filter fun layer => !written.contains layer

/-- The layers noted after a batch was written. -/
def noteLayers (keys : List IoKey) (written : OrderedDict ObjectKey (List Nat)) :
    OrderedDict ObjectKey (List Nat) :=
  (chunksOf keys).foldl
    (fun written chunk => written.set chunk
      (addLayers (written.getD chunk []) (layersIn keys chunk))) written

/-- The chunks of a batch of which enough layers are noted now. -/
def readyChunks (layout : ChunkLayout) (keys : List IoKey) : List ObjectKey :=
  (chunksOf keys).filter fun chunk =>
    layout.layerSpan ≤ ((noteLayers keys layout.writtenLayers).getD chunk []).length

def forget (chunks : List ObjectKey) {Value : Type} (dict : OrderedDict ObjectKey Value) :
    OrderedDict ObjectKey Value :=
  chunks.foldl (fun dict chunk => dict.erase chunk) dict

/-- `commit_layers`, with the chunks it has committed. `writes` says what becomes of the
header writes of the object store. -/
def commitLayers (layout : ChunkLayout) (keys : List IoKey) (writes : ObjectKey → WriteOutcome) :
    Except Status (List ObjectKey) × ChunkLayout :=
  let ready := layout.readyChunks keys
  let noted := { layout with writtenLayers := noteLayers keys layout.writtenLayers }
  if ready = [] then (.ok [], noted)
  else
    match commit layout.session (ready.map fun chunk => (chunk, writes chunk)) with
    | (.error status, session) => (.error status, { noted with session })
    | (.ok (), session) =>
      (.ok ready,
        { noted with
          session
          committed := layout.committed ++ ready.filter fun chunk =>
            !layout.committed.contains chunk
          writtenLayers := forget ready noted.writtenLayers })

/-- The chunks that `abort_uncommitted` gives up. -/
def uncommittedOf (layout : ChunkLayout) (chunks : List ObjectKey) : List ObjectKey :=
  (firstOccurrences chunks).filter fun chunk => !layout.committed.contains chunk

/-- `abort_uncommitted`: the object store is not called when there is nothing to give
up. -/
def abortUncommitted (layout : ChunkLayout) (chunks : List ObjectKey) :
    Except Status Unit × ChunkLayout :=
  let pending := layout.uncommittedOf chunks
  if pending = [] then (.ok (), layout)
  else
    match layout.session.core.abort pending with
    | (.error status, core) =>
      (.error status, { layout with session := ⟨core, layout.session.media⟩ })
    | (.ok (), core) =>
      (.ok (),
        { layout with
          session := ⟨core, layout.session.media⟩
          reserved := forget pending layout.reserved
          writtenLayers := forget pending layout.writtenLayers })

/-- `release_chunks`. -/
def releaseChunks (layout : ChunkLayout) (chunks : List ObjectKey) :
    Except Status Nat × ChunkLayout :=
  let named := firstOccurrences chunks
  match release layout.session named with
  | (.error status, session) => (.error status, { layout with session })
  | (.ok count, session) =>
    (.ok count,
      { layout with
        session
        committed := layout.committed.filter fun chunk => !named.contains chunk
        reserved := forget named layout.reserved
        writtenLayers := forget named layout.writtenLayers })

/-- `releasable_chunks`. -/
def releasableChunks (layout : ChunkLayout) (keys : List IoKey) : List ObjectKey :=
  (chunksOf keys).filter fun chunk => layout.committed.contains chunk

/-- `_placement`: what was reserved, or what the object store has committed, which is
kept with the reservations from then on. -/
def placement (layout : ChunkLayout) (chunk : ObjectKey) : Option ObjectPlacement × ChunkLayout :=
  match layout.reserved.get? chunk with
  | some placed => (some placed, layout)
  | none =>
    match layout.session.core.lookup chunk with
    | .error _ => (none, layout)
    | .ok found =>
      (some found, { layout with reserved := layout.reserved.set chunk found })

/-- The slot and the generation that the object store has for a chunk. -/
def placeOf (layout : ChunkLayout) (chunk : ObjectKey) : Option (Nat × Nat) :=
  layout.session.core.placeOf chunk

end ChunkLayout

end Nvme

/-! ## Places -/

namespace ObjectStoreCore

variable {query : ObjectKey}

theorem placeOf_removeKey (core : ObjectStoreCore) {key : ObjectKey} (other : query ≠ key)
    (slot : Nat) : (core.removeKey key slot).placeOf query = core.placeOf query := by
  rw [placeOf, removeKey, OrderedDict.get?_erase, if_neg other]
  rfl

/-- Only keys that are named lose their place when keys are aborted. -/
theorem placeOf_abortKeys (keys : List ObjectKey) (slots : List Nat) (core : ObjectStoreCore)
    (other : query ∉ keys) :
    (abortKeys keys slots core).2.placeOf query = core.placeOf query := by
  induction keys generalizing slots core with
  | nil => rfl
  | cons key keys ih =>
    obtain ⟨here, rest⟩ := not_or.mp (mt List.mem_cons.mpr other)
    unfold abortKeys
    split
    · exact ih slots core rest
    split
    · exact ih slots core rest
    · rw [ih _ _ rest, placeOf_removeKey core here]

/-- Only keys that are named lose their place when keys are released. -/
theorem placeOf_releaseKeys (keys : List ObjectKey) (slots : List Nat) (session : Session)
    {query : ObjectKey} (other : query ∉ keys) :
    (releaseKeys keys slots session).2.core.placeOf query = session.core.placeOf query := by
  refine @releaseKeys_induct keys
    (fun _ next => next.core.placeOf query = session.core.placeOf query)
    (fun key named reached next entry _ _ before => ?_) slots session rfl
  have different : query ≠ key := fun same => other (same ▸ named)
  exact (placeOf_removeKey next.core different entry.slot).trans before

theorem placeOf_commitKeys (keys : List (ObjectKey × WriteOutcome)) (slots : List Nat)
    (session : Session) (query : ObjectKey) :
    (commitKeys keys slots session).2.2.core.placeOf query = session.core.placeOf query := by
  induction keys generalizing slots session with
  | nil => rfl
  | cons item keys ih =>
    unfold commitKeys
    split
    · exact ih slots session
    rename_i entry present
    split
    · exact ih slots session
    dsimp only
    split
    · rfl
    rw [ih, placeOf, commitEntry, OrderedDict.get?_set]
    split
    · rename_i same
      rw [same, placeOf, present]
      rfl
    · rfl

/-- Committing moves no key. -/
theorem placeOf_commit (session : Session) (keys : List (ObjectKey × WriteOutcome))
    (query : ObjectKey) :
    (commit session keys).2.core.placeOf query = session.core.placeOf query := by
  have reached := placeOf_commitKeys keys [] session query
  unfold commit
  split
  · rfl
  split
  · rfl
  generalize commitKeys keys [] session = result at reached
  obtain ⟨status, slots, last⟩ := result
  cases status with
  | error error => exact reached
  | ok done =>
    dsimp only
    split
    · exact reached
    · exact reached

end ObjectStoreCore

end Tutti
