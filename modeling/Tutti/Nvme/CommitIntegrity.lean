import Tutti.Nvme.Transfers
import Tutti.Storage.StoreOpen

/-!
# What a commit may rely on

The layout counts the layers it was told about, so a commit is right only if every layer
counted was written to the place that the chunk has now. All steps but the successful
ones either leave the count and the place of a chunk alone or forget the count
(`Quiet`). A write that succeeds for another reservation than the current one is counted
all the same, and this is the only way in which the count goes wrong.
-/

namespace Tutti.Nvme

open Foundation List ObjectStoreCore

variable {chunk : ObjectKey} {layer : Nat} (keys : List IoKey)

namespace ChunkLayout

/-- The layers noted for a chunk. -/
def writtenOf (layout : ChunkLayout) (chunk : ObjectKey) : List Nat :=
  layout.writtenLayers.getD chunk []

variable (chunks : List ObjectKey)

/-- Chunks that are forgotten are gone from the table, the others stay. -/
theorem get?_forget {Value : Type} (dict : OrderedDict ObjectKey Value) (query : ObjectKey) :
    (forget chunks dict).get? query = if query ∈ chunks then none else dict.get? query := by
  induction chunks generalizing dict with
  | nil => simp [forget]
  | cons chunk chunks ih =>
    have rest := ih (dict.erase chunk)
    rw [OrderedDict.get?_erase] at rest
    refine rest.trans ?_
    by_cases same : query = chunk
    · simp [same]
    · simp [same]

/-- A batch adds its layers to each of its chunks, once. -/
theorem getD_noteLayers (written : OrderedDict ObjectKey (List Nat)) (query : ObjectKey) :
    (noteLayers keys written).getD query [] =
      if query ∈ chunksOf keys then addLayers (written.getD query []) (layersIn keys query)
      else written.getD query [] := by
  unfold noteLayers
  have distinct : (chunksOf keys).Nodup := nodup_firstOccurrences _
  generalize chunksOf keys = chunks at distinct
  induction chunks generalizing written with
  | nil => rfl
  | cons chunk chunks ih =>
    obtain ⟨fresh, distinct⟩ := nodup_cons.mp distinct
    rw [foldl_cons, ih _ distinct]
    by_cases same : query = chunk
    · subst same
      rw [if_neg fresh]
      simp [OrderedDict.getD]
    · simp [OrderedDict.getD, OrderedDict.get?_set, same]

/-- The layers afterwards are those before and the new ones. -/
theorem mem_addLayers {written layers : List Nat} :
    layer ∈ addLayers written layers ↔ layer ∈ written ∨ layer ∈ layers := by
  unfold addLayers
  simp only [mem_append, mem_filter, Bool.not_eq_true', contains_eq_mem, decide_eq_false_iff_not]
  tauto

/-- A layer that is listed already is not listed again. -/
theorem nodup_addLayers {written layers : List Nat} (distinct : written.Nodup)
    (apart : layers.Nodup) : (addLayers written layers).Nodup := by
  refine nodup_append.mpr ⟨distinct, apart.filter _, ?_⟩
  rintro layer old other new rfl
  have absent := (mem_filter.mp new).2
  simp only [Bool.not_eq_true', contains_eq_mem, decide_eq_false_iff_not] at absent
  exact absent old

/-- The layers of a chunk are those it has a key of. -/
theorem mem_layersIn {keys : List IoKey} :
    layer ∈ layersIn keys chunk ↔ (chunk, layer) ∈ keys := by
  unfold layersIn
  simp only [mem_firstOccurrences, mem_map, mem_filter, beq_iff_eq]
  constructor
  · rintro ⟨key, ⟨member, rfl⟩, rfl⟩
    exact member
  · intro member
    exact ⟨(chunk, layer), ⟨member, rfl⟩, rfl⟩

/-! ## Quiet changes of the layout -/

/-- A chunk keeps its place and its layers, or its layers are forgotten. -/
structure Quiet (before after : ChunkLayout) : Prop where
  span : after.layerSpan = before.layerSpan
  keeps : ∀ chunk, after.writtenOf chunk = [] ∨
    after.writtenOf chunk = before.writtenOf chunk ∧
      ∀ place, before.placeOf chunk = some place → after.placeOf chunk = some place

section

variable (layout : ChunkLayout)

theorem Quiet.refl : Quiet layout layout :=
  ⟨rfl, fun _ => .inr ⟨rfl, fun _ placed => placed⟩⟩

/-- Reserving room for chunks takes nothing from the others. -/
theorem quiet_preparePut :
    Quiet layout (layout.preparePut keys).2 := by
  have kept {chunk entry} := @reserve_keeps layout.session.core chunk entry (chunksOf keys)
  unfold preparePut
  generalize layout.session.core.reserve (chunksOf keys) = result at kept
  obtain ⟨status, core⟩ := result
  cases status with
  | error status | ok outcome =>
    refine ⟨rfl, fun _ => .inr ⟨rfl, fun _ placed => ?_⟩⟩
    obtain ⟨entry, present, rfl⟩ := Option.map_eq_some_iff.mp placed
    exact congrArg (Option.map _) (kept present)

/-- Chunks whose layers are forgotten may lose their place. -/
theorem Quiet.forgetting {before after : ChunkLayout} (named : List ObjectKey)
    (span : after.layerSpan = before.layerSpan)
    (written : after.writtenLayers = forget named before.writtenLayers)
    (kept : ∀ chunk, chunk ∉ named → after.placeOf chunk = before.placeOf chunk) :
    Quiet before after := by
  refine ⟨span, fun chunk => ?_⟩
  rw [writtenOf, written, OrderedDict.getD, get?_forget]
  by_cases given : chunk ∈ named
  · exact .inl (if_pos given ▸ rfl)
  · exact .inr ⟨if_neg given ▸ rfl, fun _ => (kept chunk given).trans⟩

/-- Only the chunks that are aborted are forgotten. -/
theorem quiet_abortUncommitted :
    Quiet layout (layout.abortUncommitted chunks).2 := by
  unfold abortUncommitted
  dsimp only
  split
  · exact .refl layout
  by_cases readOnly : layout.session.core.config.readOnly = true
  · rw [abort, if_pos readOnly]
    exact .refl layout
  rw [abort, if_neg readOnly]
  exact .forgetting (layout.uncommittedOf chunks) rfl rfl fun _ other =>
    placeOf_abortKeys _ [] layout.session.core other

/-- Only the chunks that are named are forgotten. -/
theorem quiet_releaseChunks :
    Quiet layout (layout.releaseChunks chunks).2 := by
  have kept := @placeOf_releaseKeys (firstOccurrences chunks) [] layout.session
  unfold releaseChunks release
  dsimp only
  by_cases readOnly : layout.session.core.config.readOnly = true
  · rw [if_pos readOnly]
    exact .refl layout
  rw [if_neg readOnly]
  by_cases none : (releaseKeys (firstOccurrences chunks) [] layout.session).1 = []
  · rw [if_pos none]
    exact .forgetting (firstOccurrences chunks) rfl rfl fun _ => kept
  · rw [if_neg none]
    exact .forgetting (firstOccurrences chunks) rfl rfl fun _ => kept

/-- The layout was only consulted: at most the kept placements differ. -/
structure Consulted (before after : ChunkLayout) : Prop where
  span : after.layerSpan = before.layerSpan
  written : after.writtenLayers = before.writtenLayers
  session : after.session = before.session

theorem Consulted.refl : Consulted layout layout := ⟨rfl, rfl, rfl⟩

theorem Consulted.trans {first second third : ChunkLayout} (left : Consulted first second)
    (right : Consulted second third) : Consulted first third :=
  ⟨right.span.trans left.span, right.written.trans left.written,
    right.session.trans left.session⟩

/-- Looking placements up is quiet. -/
theorem Consulted.quiet {before after : ChunkLayout} (consulted : Consulted before after) :
    Quiet before after := by
  refine ⟨consulted.span, fun chunk => .inr ⟨?_, fun place placed => ?_⟩⟩
  · rw [writtenOf, consulted.written, writtenOf]
  · rw [placeOf, consulted.session]
    exact placed

/-- A placement is kept or looked up in the store. -/
theorem consulted_placement (chunk : ObjectKey) :
    Consulted layout (layout.placement chunk).2 := by
  unfold placement
  split
  · exact .refl layout
  split
  · exact .refl layout
  · exact ⟨rfl, rfl, rfl⟩

/-- The layout with the layers of a batch noted. -/
def noted (layout : ChunkLayout) (keys : List IoKey) : ChunkLayout :=
  { layout with writtenLayers := noteLayers keys layout.writtenLayers }

/-- Once the layers are noted, committing is quiet. -/
theorem quiet_commitLayers (writes : ObjectKey → WriteOutcome) :
    Quiet (layout.noted keys) (layout.commitLayers keys writes).2 := by
  unfold commitLayers
  dsimp only
  split
  · exact .refl _
  have kept := placeOf_commit layout.session
    ((layout.readyChunks keys).map fun chunk => (chunk, writes chunk))
  generalize commit layout.session
    ((layout.readyChunks keys).map fun chunk => (chunk, writes chunk)) = result at kept
  obtain ⟨status, session⟩ := result
  cases status with
  | error status => exact ⟨rfl, fun chunk => .inr ⟨rfl, fun _ => (kept chunk).trans⟩⟩
  | ok done => exact .forgetting (layout.readyChunks keys) rfl rfl fun chunk _ => kept chunk

end

end ChunkLayout

namespace PutStore

/-! ## Quiet steps -/

/-- A chunk keeps its place, its layers and what landed for it, or its layers are
forgotten. -/
structure Quiet (before after : PutStore) : Prop where
  span : after.layout.layerSpan = before.layout.layerSpan
  keeps : ∀ chunk, after.layout.writtenOf chunk = [] ∨
    after.layout.writtenOf chunk = before.layout.writtenOf chunk ∧
      ∀ place, before.layout.placeOf chunk = some place →
        after.layout.placeOf chunk = some place ∧
          ∀ item ∈ before.landed, item.chunk = chunk → item ∈ after.landed

/-- One quiet step after the other is quiet. -/
theorem Quiet.trans {first second third : PutStore} (left : Quiet first second)
    (right : Quiet second third) : Quiet first third := by
  refine ⟨right.span.trans left.span, fun chunk => ?_⟩
  obtain forgotten | ⟨same, later⟩ := right.keeps chunk
  · exact .inl forgotten
  obtain forgotten | ⟨equal, sooner⟩ := left.keeps chunk
  · exact .inl (same.trans forgotten)
  refine .inr ⟨same.trans equal, fun place placed => ?_⟩
  obtain ⟨between, landed⟩ := sooner place placed
  obtain ⟨last, kept⟩ := later place between
  exact ⟨last, fun item member named => kept item (landed item member named) named⟩

/-- A step that is quiet for the layout and takes nothing from what landed. -/
theorem Quiet.of_layout {before after : PutStore} (quiet : before.layout.Quiet after.layout)
    (landed : after.landed = before.landed) : Quiet before after := by
  refine ⟨quiet.span, fun chunk => ?_⟩
  obtain forgotten | ⟨same, kept⟩ := quiet.keeps chunk
  · exact .inl forgotten
  · exact .inr ⟨same, fun place placed => ⟨kept place placed, fun item member _ =>
      landed.symm ▸ member⟩⟩

section

variable (store : PutStore)

theorem Quiet.refl : Quiet store store :=
  .of_layout (.refl _) rfl

/-- Preparing a put is quiet. -/
theorem quiet_preparePut :
    Quiet store (store.preparePut keys).2 := by
  have quiet := store.layout.quiet_preparePut keys
  refine ⟨quiet.span, fun chunk => ?_⟩
  obtain forgotten | ⟨same, kept⟩ := quiet.keeps chunk
  · exact .inl forgotten
  refine .inr ⟨same, fun place placed => ⟨kept place placed, fun item member named => ?_⟩⟩
  refine mem_filter.mpr ⟨member, ?_⟩
  rw [named, placed]
  rfl

/-- Locating keys only looks placements up. -/
theorem consulted_locate (layout : ChunkLayout) :
    layout.Consulted (locate keys layout).2 := by
  induction keys generalizing layout with
  | nil => exact .refl layout
  | cons key keys ih =>
    have first := layout.consulted_placement key.1
    unfold locate
    generalize layout.placement key.1 = found at first
    obtain ⟨placed, next⟩ := found
    cases placed with
    | none => exact first
    | some placed => exact first.trans (ih next)

/-- So does planning the writes of a layer. -/
theorem consulted_planned (plan : List PlanEntry) (layer : Nat) (chunks : List ObjectKey)
    (layout : ChunkLayout) : layout.Consulted (planned plan layer chunks layout).2 := by
  induction chunks generalizing layout with
  | nil => exact .refl layout
  | cons chunk chunks ih =>
    have first := layout.consulted_placement chunk
    unfold planned
    split
    · exact .refl layout
    dsimp only
    split
    · exact first
    · exact first.trans (ih _)

/-- A send locates its keys, and nothing lands by it. -/
theorem quiet_send (kind : TransferKind) (keys : List IoKey) (submitted : Bool) :
    Quiet store (store.send kind keys submitted) := by
  have consulted := consulted_locate keys store.layout
  unfold send
  generalize locate keys store.layout = located at consulted
  obtain ⟨items, layout⟩ := located
  cases items with
  | none => exact .of_layout consulted.quiet rfl
  | some items =>
    dsimp only
    split
    · exact .of_layout consulted.quiet rfl
    · exact .of_layout consulted.quiet rfl

/-- A batch prepares its chunks and sends. -/
theorem quiet_putBatch (submitted : Bool) :
    Quiet store (store.putBatch keys submitted) := by
  have asked := store.quiet_preparePut keys
  unfold putBatch
  generalize store.preparePut keys = result at asked
  obtain ⟨status, next⟩ := result
  cases status with
  | error status => exact asked
  | ok outcome =>
    dsimp only
    split
    · exact asked.trans (next.quiet_send ..)
    split
    · exact asked
    · exact asked.trans (next.quiet_send ..)

section

variable (chunks : List ObjectKey)

/-- The targets of a write are prepared like a put. -/
theorem quiet_prepareWriteTargets :
    Quiet store (store.prepareWriteTargets chunks) := by
  unfold prepareWriteTargets
  dsimp only
  split
  · exact .refl store
  have asked := store.quiet_preparePut
    ((firstOccurrences chunks).map fun chunk => (chunk, store.numLayers - 1))
  generalize store.preparePut
    ((firstOccurrences chunks).map fun chunk => (chunk, store.numLayers - 1)) = result at asked
  obtain ⟨status, next⟩ := result
  cases status with
  | error status => exact asked
  | ok outcome => exact asked.trans (.of_layout (.refl _) rfl)

/-- Opening a plan locates its chunks. -/
theorem quiet_beginTargetPlan (opened : Bool) :
    Quiet store (store.beginTargetPlan chunks opened) := by
  unfold beginTargetPlan
  split
  · rename_i request admitted _ _
    split
    · exact .refl store
    have consulted := consulted_locate (admitted.map fun chunk => (chunk, 0)) store.layout
    generalize locate (admitted.map fun chunk => (chunk, 0)) store.layout = located at consulted
    obtain ⟨items, layout⟩ := located
    cases items with
    | none | some items => exact .of_layout consulted.quiet rfl
  · exact .refl store

/-- The planned transfers of a layer are sent. -/
theorem quiet_sendPlanned (layer : Nat) (submitted : Bool) :
    Quiet store (store.sendPlanned chunks layer submitted) := by
  unfold sendPlanned
  split
  · exact .refl store
  rename_i plan _
  have consulted := consulted_planned plan layer chunks store.layout
  generalize planned plan layer chunks store.layout = located at consulted
  obtain ⟨items, layout⟩ := located
  cases items with
  | none => exact .of_layout consulted.quiet rfl
  | some items =>
    dsimp only
    split
    · exact .of_layout consulted.quiet rfl
    · exact .of_layout consulted.quiet rfl

/-- A paged put prepares, plans and sends. -/
theorem quiet_putPaged (layer : Nat) (opened submitted : Bool) :
    Quiet store (store.putPaged chunks layer opened submitted) := by
  unfold putPaged
  split
  · exact .refl store
  split
  · exact store.quiet_sendPlanned ..
  · exact ((store.quiet_prepareWriteTargets chunks).trans (quiet_beginTargetPlan ..)).trans
      (quiet_sendPlanned ..)

/-- The chunks that failed are aborted. -/
theorem quiet_finalizeDirectFailures :
    Quiet store store.finalizeDirectFailures := by
  have given := store.layout.quiet_abortUncommitted store.failedChunks
  unfold finalizeDirectFailures
  split
  · exact .refl store
  generalize store.layout.abortUncommitted store.failedChunks = result at given
  obtain ⟨status, layout⟩ := result
  cases status with
  | error status | ok done => exact .of_layout given rfl

/-- An abort forgets its chunks. -/
theorem quiet_abortChunks :
    Quiet store (store.abortChunks chunks) := by
  unfold abortChunks
  split
  · exact .of_layout (store.layout.quiet_abortUncommitted chunks) rfl
  · exact .refl store

end

/-- The chunks of the keys are released. -/
theorem quiet_drop : Quiet store (store.drop keys) := by
  unfold drop
  split
  · exact .of_layout (store.layout.quiet_releaseChunks (chunksOf keys)) rfl
  · exact .refl store

/-- Maintenance moves no key. -/
theorem placeOf_maintenance (session : Session) {op : StoreOp} (upkeep : isMaintenance op = true)
    (query : ObjectKey) :
    (ObjectStoreCore.step session op).core.placeOf query = session.core.placeOf query := by
  cases op with
  | reserve keys | commit keys | abort keys | release keys => cases upkeep
  | pin keys =>
    unfold ObjectStoreCore.step ObjectStoreCore.pin
    dsimp only
    split
    · rfl
    · rfl
  | unpin keys =>
    unfold ObjectStoreCore.step ObjectStoreCore.unpin
    dsimp only
    split
    · rfl
    · rfl
  | drainReclaim max zeroing => rfl
  | precreateStep headroom faults =>
    obtain ⟨target, busy, precreated, limit, grown⟩ := core_precreateStep session headroom faults
    change (precreateStep session headroom faults).2.core.placeOf query = _
    rw [grown]
    rfl
  | checkpoint outcome =>
    obtain ⟨sequence, dirty, stored⟩ := core_checkpoint session outcome
    change (checkpoint session outcome).2.core.placeOf query = _
    rw [stored]
    rfl

/-- Maintenance of the store is quiet. -/
theorem quiet_maintain (op : StoreOp) : Quiet store (store.maintain op) := by
  unfold maintain
  split
  · rename_i upkeep
    refine .of_layout ⟨rfl, fun chunk => .inr ⟨rfl, fun place placed => ?_⟩⟩ rfl
    exact (placeOf_maintenance store.layout.session upkeep chunk).trans placed
  · exact .refl store

/-! ## Successful writes -/

/-- The transfer with an identity, if it writes and is still to settle. -/
def writing (store : PutStore) (id : Nat) : Option Transfer :=
  (store.inflight.get? id).filter fun transfer => !transfer.settled && transfer.kind != .read

/-- The writes that complete successfully in a step. -/
def landing (store : PutStore) : PutOp → List WriteItem
  | .settle id true _ => ((store.writing id).map Transfer.items).getD []
  | _ => []

/-- The chunks that `commit` of the object store is called for in a step. -/
def committing (store : PutStore) (op : PutOp) : List ObjectKey :=
  store.layout.readyChunks ((store.landing op).map WriteItem.ioKey)

/-- Every chunk committed in a step has a place, and each of its layers was written to
that place since it was reserved. -/
def Integral (store : PutStore) (op : PutOp) : Prop :=
  ∀ chunk ∈ store.committing op, ∃ place, store.layout.placeOf chunk = some place ∧
    ∀ layer < store.layout.layerSpan,
      WriteItem.mk chunk layer place.1 place.2 ∈ (store.step op).landed

/-- Every write that completes successfully is one of a layer the object has, and was sent
to the place that the chunk has at that time. -/
def Current (store : PutStore) (op : PutOp) : Prop :=
  ∀ item ∈ store.landing op, item.layer < store.layout.layerSpan ∧
    store.layout.placeOf item.chunk = some (item.slot, item.generation)
  deriving Decidable

/-- The store once the writes of a transfer are noted, before anything is committed. -/
def noting (store : PutStore) (items : List WriteItem) : PutStore :=
  { store with
    layout := store.layout.noted (items.map WriteItem.ioKey)
    landed := store.landed ++ items }

variable {transfer : Transfer}

/-- Whatever becomes of the tracking, a settled transfer leaves the layout and what landed
as its callback does. -/
theorem settle_eq (id : Nat) (ok : Bool) (writes : ObjectKey → WriteOutcome)
    (found : store.inflight.get? id = some transfer) (pending : transfer.settled = false) :
    (store.settle id ok writes).layout = (store.onSettled id transfer ok writes).2.layout ∧
      (store.settle id ok writes).landed = (store.onSettled id transfer ok writes).2.landed := by
  unfold settle
  rw [found]
  dsimp only
  rw [if_neg (by rw [pending]; exact Bool.false_ne_true)]
  generalize store.onSettled id transfer ok writes = result
  obtain ⟨returned, next⟩ := result
  cases returned with
  | true => exact ⟨rfl, rfl⟩
  | false => exact ⟨rfl, rfl⟩

/-- Quiet is about the layout and what landed. -/
theorem Quiet.congr {before after last : PutStore} (quiet : Quiet before after)
    (layout : last.layout = after.layout) (landed : last.landed = after.landed) :
    Quiet before last :=
  quiet.trans (.of_layout (layout.symm ▸ .refl _) landed)

/-- A callback that commits nothing is quiet. -/
theorem quiet_onSettled (id : Nat) (transfer : Transfer) (ok : Bool)
    (writes : ObjectKey → WriteOutcome) (idle : transfer.kind = .read ∨ ok = false) :
    Quiet store (store.onSettled id transfer ok writes).2 := by
  unfold onSettled
  split
  · exact .refl store
  · rename_i writer
    obtain reading | failed := idle
    · exact absurd reading writer
    · cases failed
  · exact .of_layout (store.layout.quiet_abortUncommitted _) rfl
  dsimp only
  split
  · have ended := quiet_finalizeDirectFailures (endTargetPlan { store with
      failedChunks := store.failedChunks ++ firstOccurrences (transfer.items.map WriteItem.chunk) })
    refine Quiet.trans ?_ ended
    exact .of_layout (.refl _) rfl
  · exact .of_layout (.refl _) rfl

end

variable {store : PutStore}

/-- A transfer that is writing is in flight, unsettled and not a read. -/
theorem writing_eq_some {id : Nat} :
    store.writing id = some transfer ↔
      store.inflight.get? id = some transfer ∧ transfer.settled = false ∧
        transfer.kind ≠ .read := by
  unfold writing
  simp

/-- What a settlement can do: it is quiet, or it notes the writes of its transfer and is
quiet from there on. -/
theorem settle_cases (store : PutStore) (id : Nat) (ok : Bool) (writes : ObjectKey → WriteOutcome) :
    store.landing (.settle id ok writes) = [] ∧ Quiet store (store.settle id ok writes) ∨
      ∃ items, store.landing (.settle id ok writes) = items ∧
        (store.settle id ok writes).landed = store.landed ++ items ∧
        Quiet (store.noting items) (store.settle id ok writes) := by
  cases written : store.writing id with
  | some transfer =>
    obtain ⟨found, pending, writer⟩ := writing_eq_some.mp written
    obtain ⟨layout, landed⟩ := store.settle_eq id ok writes found pending
    cases ok with
    | false =>
      exact .inl ⟨rfl, (store.quiet_onSettled id transfer false writes (.inr rfl)).congr
        layout landed⟩
    | true =>
      obtain ⟨kind, chunks, items, settled⟩ := transfer
      cases kind with
      | read => exact absurd rfl writer
      | put | direct =>
        refine .inr ⟨items, ?_, landed, .of_layout ?_ landed⟩
        · simp [landing, written]
        · rw [layout]
          exact store.layout.quiet_commitLayers _ writes
  | none =>
    have nothing : store.landing (.settle id ok writes) = [] := by
      cases ok with
      | false => rfl
      | true => simp [landing, written]
    refine .inl ⟨nothing, ?_⟩
    cases found : store.inflight.get? id with
    | none =>
      unfold settle
      rw [found]
      exact .refl store
    | some transfer =>
      cases pending : transfer.settled with
      | true =>
        unfold settle
        rw [found]
        dsimp only
        rw [if_pos pending]
        exact .refl store
      | false =>
        obtain ⟨layout, landed⟩ := store.settle_eq id ok writes found pending
        have reading : transfer.kind = .read := by
          by_contra writer
          rw [writing_eq_some.mpr ⟨found, pending, writer⟩] at written
          cases written
        exact (store.quiet_onSettled id transfer ok writes (.inl reading)).congr layout landed

/-- What one step can do. -/
theorem step_cases (store : PutStore) (op : PutOp) :
    store.landing op = [] ∧ Quiet store (store.step op) ∨
      ∃ items, store.landing op = items ∧ (store.step op).landed = store.landed ++ items ∧
        Quiet (store.noting items) (store.step op) := by
  cases op with
  | settle id ok writes => exact store.settle_cases id ok writes
  | putBatch keys submitted => exact .inl ⟨rfl, store.quiet_putBatch keys submitted⟩
  | getBatch keys submitted => exact .inl ⟨rfl, store.quiet_send .read keys submitted⟩
  | prepareWriteTargets chunks => exact .inl ⟨rfl, store.quiet_prepareWriteTargets chunks⟩
  | beginTargetPlan chunks opened => exact .inl ⟨rfl, store.quiet_beginTargetPlan chunks opened⟩
  | putPaged chunks layer opened submitted =>
    exact .inl ⟨rfl, store.quiet_putPaged chunks layer opened submitted⟩
  | endTargetPlan => exact .inl ⟨rfl, .of_layout (.refl _) rfl⟩
  | finalizeDirectFailures => exact .inl ⟨rfl, store.quiet_finalizeDirectFailures⟩
  | abortChunks chunks => exact .inl ⟨rfl, store.quiet_abortChunks chunks⟩
  | drop keys => exact .inl ⟨rfl, store.quiet_drop keys⟩
  | maintain op => exact .inl ⟨rfl, store.quiet_maintain op⟩

/-! ## The count is right -/

/-- The layers noted for a chunk are distinct layers of the object, all written to the
place that the chunk has. -/
structure Accounted (store : PutStore) (chunk : ObjectKey) : Prop where
  distinct : (store.layout.writtenOf chunk).Nodup
  placed : store.layout.writtenOf chunk ≠ [] → ∃ place, store.layout.placeOf chunk = some place ∧
    ∀ layer ∈ store.layout.writtenOf chunk, layer < store.layout.layerSpan ∧
      WriteItem.mk chunk layer place.1 place.2 ∈ store.landed

/-- Quiet steps keep the account of a chunk. -/
theorem Accounted.of_quiet {before after : PutStore} (quiet : Quiet before after)
    (accounted : before.Accounted chunk) : after.Accounted chunk := by
  obtain forgotten | ⟨same, kept⟩ := quiet.keeps chunk
  · exact ⟨forgotten ▸ nodup_nil, fun some => absurd forgotten some⟩
  refine ⟨same ▸ accounted.distinct, fun some => ?_⟩
  obtain ⟨place, placed, written⟩ := accounted.placed (same ▸ some)
  obtain ⟨still, landed⟩ := kept place placed
  refine ⟨place, still, fun layer member => ?_⟩
  obtain ⟨below, there⟩ := written layer (same ▸ member)
  exact ⟨quiet.span ▸ below, landed _ there rfl⟩

/-- Writes sent to the places that their chunks have are accounted for. -/
theorem Accounted.noting {items : List WriteItem}
    (current : ∀ item ∈ items, item.layer < store.layout.layerSpan ∧
      store.layout.placeOf item.chunk = some (item.slot, item.generation))
    (accounted : store.Accounted chunk) :
    (store.noting items).Accounted chunk := by
  have counted : (store.noting items).layout.writtenOf chunk = _ :=
    ChunkLayout.getD_noteLayers (items.map WriteItem.ioKey) store.layout.writtenLayers chunk
  have listed : ∀ layer, (chunk, layer) ∈ items.map WriteItem.ioKey →
      ∃ item ∈ items, item.chunk = chunk ∧ item.layer = layer := by
    intro layer member
    obtain ⟨item, member, named⟩ := mem_map.mp member
    exact ⟨item, member, congrArg Prod.fst named, congrArg Prod.snd named⟩
  by_cases named : chunk ∈ chunksOf (items.map WriteItem.ioKey)
  · rw [if_pos named] at counted
    obtain ⟨key, member, same⟩ := mem_map.mp (mem_firstOccurrences.mp named)
    obtain ⟨first, present, rfl⟩ := mem_map.mp member
    have here : store.layout.placeOf chunk = some (first.slot, first.generation) :=
      same ▸ (current first present).2
    refine ⟨?_, fun _ => ⟨_, here, fun layer member => ?_⟩⟩
    · rw [counted]
      exact ChunkLayout.nodup_addLayers accounted.distinct (nodup_firstOccurrences _)
    rw [counted] at member
    obtain old | new := ChunkLayout.mem_addLayers.mp member
    · obtain ⟨place, placed, written⟩ := accounted.placed (ne_nil_of_mem old)
      obtain rfl := Option.some.inj (placed.symm.trans here)
      obtain ⟨below, there⟩ := written layer old
      exact ⟨below, mem_append_left _ there⟩
    · obtain ⟨item, sent, rfl, rfl⟩ := listed layer (ChunkLayout.mem_layersIn.mp new)
      obtain ⟨below, there⟩ := current item sent
      have equal := Option.some.inj (there.symm.trans here)
      refine ⟨below, mem_append_right _ ?_⟩
      rw [← equal]
      exact sent
  · have counted : (store.noting items).layout.writtenOf chunk = store.layout.writtenOf chunk :=
      counted.trans (if_neg named)
    refine ⟨counted ▸ accounted.distinct, fun some => ?_⟩
    obtain ⟨place, placed, written⟩ := accounted.placed (counted ▸ some)
    refine ⟨place, placed, fun layer member => ?_⟩
    obtain ⟨below, there⟩ := written layer (counted ▸ member)
    exact ⟨below, mem_append_left _ there⟩

/-- As many distinct layers as there are below a bound are all of them. -/
theorem mem_of_span_le {layers : List Nat} {span : Nat} (distinct : layers.Nodup)
    (below : ∀ layer ∈ layers, layer < span) (enough : span ≤ layers.length)
    (inside : layer < span) :
    layer ∈ layers := by
  have within : layers.toFinset ⊆ Finset.range span := fun layer member =>
    Finset.mem_range.mpr (below layer (mem_toFinset.mp member))
  have whole : layers.toFinset = Finset.range span := by
    refine Finset.eq_of_subset_of_card_le within ?_
    rw [Finset.card_range, toFinset_card_of_nodup distinct]
    exact enough
  exact mem_toFinset.mp (whole ▸ Finset.mem_range.mpr inside)

/-- One operation keeps the account of every chunk. -/
theorem accounted_step {op : PutOp} (accounted : ∀ chunk, store.Accounted chunk)
    (current : store.Current op) (chunk : ObjectKey) : (store.step op).Accounted chunk := by
  obtain ⟨_, quiet⟩ | ⟨items, landing, _, quiet⟩ := store.step_cases op
  · exact (accounted chunk).of_quiet quiet
  · exact ((accounted chunk).noting (landing ▸ current)).of_quiet quiet

/-- With the accounts right, a commit publishes chunks that are all there. -/
theorem integral_step {op : PutOp} (accounted : ∀ chunk, store.Accounted chunk)
    (current : store.Current op) : store.Integral op := by
  intro chunk ready
  obtain ⟨named, enough⟩ := mem_filter.mp ready
  obtain ⟨nothing, _⟩ | ⟨items, landing, landed, _⟩ := store.step_cases op
  · rw [nothing] at named
    cases named
  subst landing
  have noted := (accounted chunk).noting current
  have enough := of_decide_eq_true enough
  obtain ⟨key, member, rfl⟩ := mem_map.mp (mem_firstOccurrences.mp named)
  have some : (store.noting (store.landing op)).layout.writtenOf key.1 ≠ [] := by
    refine ne_nil_of_mem (a := key.2) ?_
    change key.2 ∈ (ChunkLayout.noteLayers _ _).getD key.1 []
    rw [ChunkLayout.getD_noteLayers, if_pos named]
    exact ChunkLayout.mem_addLayers.mpr (.inr (ChunkLayout.mem_layersIn.mpr member))
  obtain ⟨place, placed, written⟩ := noted.placed some
  refine ⟨place, placed, fun layer inside => ?_⟩
  rw [landed]
  exact (written layer (mem_of_span_le noted.distinct (fun layer member =>
    (written layer member).1) enough inside)).2

/-- In every run whose successful writes were sent to the places that their chunks have
when they complete, every chunk is committed with all of its layers written to its
place. -/
theorem integral_of_current (session : Session) (layerSpan numLayers : Nat) (ops : List PutOp)
    (current : Along step Current (start session layerSpan numLayers) ops) :
    Along step Integral (start session layerSpan numLayers) ops :=
  Along.imp_of_invariant (fun store => ∀ chunk, store.Accounted chunk)
    (fun _ _ accounted current => accounted_step accounted current)
    (fun _ _ accounted current => integral_step accounted current)
    (fun _ => ⟨nodup_nil, fun some => absurd rfl some⟩) current

/-! ## A store of two slots with two layers -/

def layeredConfig : StoreConfig :=
  ⟨"/kv", 2, 0, ⟨4096, 2⟩, 2, 4096, [1], ["/mnt"], 0, 1, false⟩

def layeredStore : ObjectStoreCore :=
  { fresh.withGeometry layeredConfig ⟨2, 12288, 0, uint64Size - 1, fun _ => .free, fun _ => 0, [],
      [], ∅⟩ with
    containerBytes := 8192 }

/-- The session after the first open on blank media. -/
def layeredSession : Session :=
  ⟨{ layeredStore with
      precreated := 2
      allocator := layeredStore.allocator.setReadyLimit 2
      opened := true },
    (Media.blank.setCheckpoint pairConfig.root (replicate 16384 0)).setSegment
      (segmentPath "/mnt" 0 0)
      ⟨24576, some 24576, fun _ => zeroBlock⟩⟩

/-- The store of two layers opens on blank media. -/
theorem openStore_layered :
    openStore ⟨fresh, .blank⟩ layeredConfig {} = (.ok (), layeredSession) := by
  have nothing := @loadCheckpoint_of_zeros
    ⟨layeredStore, Media.blank.setCheckpoint pairConfig.root (replicate 16384 0)⟩ 16384 rfl
  have opened := @openStore_eq layeredConfig {} ⟨fresh, .blank⟩ _ _ _ _ _ _ rfl rfl rfl rfl rfl
    nothing rfl rfl
  exact opened

/-- Both layers of a chunk are put, and both puts succeed. -/
def bothLayers : List PutOp :=
  [.putBatch [([7], 0)] true, .putBatch [([7], 1)] true, .settle 0 true fun _ => .done,
    .settle 1 true fun _ => .done]

/-- Both layers of a chunk land before it is committed. -/
theorem integral_of_current_bothLayers :
    openStore ⟨fresh, .blank⟩ layeredConfig {} = (.ok (), layeredSession) ∧
      Along step Current (start layeredSession 2 2) bothLayers ∧
      Along step Integral (start layeredSession 2 2) bothLayers :=
  have current : Along step Current (start layeredSession 2 2) bothLayers := by decide
  ⟨openStore_layered, current, integral_of_current layeredSession 2 2 bothLayers current⟩

/-- Both layers of a chunk are in flight. The second fails, which gives up the slot of
the chunk, and is put again, to another slot; then the first one succeeds. -/
def lateSuccess : List PutOp :=
  [.putBatch [([7], 0)] true, .putBatch [([7], 1)] true, .settle 1 false fun _ => .done,
    .putBatch [([7], 1)] true, .settle 0 true fun _ => .done]

/-- When the second put of layer 1 succeeds the chunk is committed in slot 1, and layer 0
was only ever written to slot 0. -/
theorem lateSuccess_commits :
    openStore ⟨fresh, .blank⟩ layeredConfig {} = (.ok (), layeredSession) ∧
      ¬ Along step Integral (start layeredSession 2 2)
        (lateSuccess ++ [.settle 2 true fun _ => .done]) := by
  refine ⟨openStore_layered, fun along => ?_⟩
  have last := (Along.append.mp along).2.1
  have committed : [7] ∈ (runFrom step (start layeredSession 2 2) lateSuccess).committing
      (.settle 2 true fun _ => .done) := by decide
  obtain ⟨place, placed, written⟩ := last [7] committed
  have slot : (runFrom step (start layeredSession 2 2) lateSuccess).layout.placeOf [7] =
      some (1, 0) := by decide
  obtain rfl := Option.some.inj (placed.symm.trans slot)
  -- The landed writes are read off without running the header write of the commit.
  have layer := written 0 (by decide)
  exact absurd layer (by decide)

end PutStore

end Tutti.Nvme
