import Mathlib.Logic.Relation
import Tutti.Foundation.OrderedDict
import Tutti.Storage.SlotMedia

/-!
# The entries of a batch of `StripedDataPath`

`submit_impl_` splits a request at the ends of its extents, at RAID0 chunks and at the MDTS
of the device, and pushes an entry for each piece as soon as it is made. A request that is
rejected at a later piece leaves the entries of the earlier ones in the batch. So the launch
is that of the ACCEPTED requests exactly if no request has a first piece that can be
addressed and a later one that cannot (`issuesAccepted_iff`).
-/

namespace Tutti.Striped

open Foundation List

structure HostExtent where
  logicalOffset : Nat
  length : Nat
  /-- Only used by RAID0 targets. -/
  deviceOffset : Nat := 0

/-- The RAID0 fields of a target; any other target has a chunk size of zero. -/
structure Raid0 where
  chunkBytes : Nat
  chunkBytes_pos : 0 < chunkBytes
  dev : List Nat
  dataOffset : List Nat

structure StripedTarget where
  devIdx : Nat
  logicalSize : Nat
  extents : List HostExtent
  raid0 : Option Raid0 := none

/-- The pre-built descriptors of a memory for one device. -/
structure DeviceTable where
  mdtsBytes : Nat
  iosPerSlice : Nat
  numDescs : Nat

structure Prebuilt where
  devices : List DeviceTable
  bytesPerSlice : Nat
  numSlices : Nat

structure StripedMemory where
  size : Nat
  /-- The IOVA table of each device. -/
  ioaddrs : Nat → List Nat
  prebuilt : Option Prebuilt := none

structure DataPathRequest where
  target : Nat
  memory : Nat
  write : Bool := false
  targetOffset : Nat
  memoryOffset : Nat
  length : Nat

/-- What a submit reads of the path; `initialize` accepts no MDTS of zero. -/
structure PathView where
  targets : Nat → Option StripedTarget
  memories : Nat → Option StripedMemory
  blockSize : Nat
  pageSize : Nat
  maxRequestBytes : Nat
  maxBatchEntries : Nat
  maxBatchBytes : Nat
  mdts : Nat → Nat
  mdts_pos : ∀ device, 0 < mdts device

/-- The device table has a row for each target, and then one for each device. -/
structure SubmitEntry where
  row : Nat
  write : Bool
  shardOffset : Nat
  /-- The device and index of a pre-built descriptor. -/
  prpEntry : Option (Nat × Nat) := none

structure AddressDescriptor where
  prp1 : Nat
  prp2 : Nat
  dataLength : Nat

/-- The pages that a PRP list is made of. -/
structure PrpList where
  startPage : Nat
  pagesInIo : Nat
  devIdx : Nat
  memory : Nat

structure ListInfo where
  entryIdx : Nat
  descIdx : Nat
  list : PrpList

/-- The vectors that a submit fills. -/
structure Arrays where
  entries : List SubmitEntry := []
  requestIndices : List Nat := []
  entryLengths : List Nat := []
  totalBytes : Nat := 0
  dynamicDescs : List AddressDescriptor := []
  listInfos : List ListInfo := []

/-- One turn of the loop over a request; without a descriptor the entry has a pre-built one. -/
structure Piece where
  entry : SubmitEntry
  length : Nat
  desc : Option AddressDescriptor := none
  list : Option PrpList := none

/-- The device of a piece, its row, the offset there, and the bytes up to the next boundary. -/
structure Place where
  dev : Nat
  row : Nat
  offset : Nat
  length : Nat

def StripedTarget.hit (target : StripedTarget) (offset : Nat) : Option HostExtent :=
  target.extents.find? fun extent =>
    decide (extent.logicalOffset ≤ offset ∧ offset < extent.logicalOffset + extent.length)

def StripedMemory.prebuiltIndex (memory : StripedMemory) (dev offset bytes : Nat) :
    Option Nat := do
  let prebuilt ← memory.prebuilt
  let table ← prebuilt.devices[dev]?
  let offsetInSlice := offset % prebuilt.bytesPerSlice
  let sliceIdx := offset / prebuilt.bytesPerSlice
  let subIdx := offsetInSlice / table.mdtsBytes
  let descIdx := sliceIdx * table.iosPerSlice + subIdx
  if offsetInSlice % table.mdtsBytes = 0 ∧
      bytes = min table.mdtsBytes (prebuilt.bytesPerSlice - offsetInSlice) ∧
      sliceIdx < prebuilt.numSlices ∧ subIdx < table.iosPerSlice ∧ descIdx < table.numDescs then
    some descIdx
  else none

namespace PathView

/-- The split of what remains of a request; `rows` lists the targets of the batch. -/
def place (path : PathView) (rows : List Nat) (token : Nat) (target : StripedTarget)
    (offset remaining : Nat) : Option Place :=
  let clamped := match target.hit offset with
    | some extent => min remaining (extent.logicalOffset + extent.length - offset)
    | none => remaining
  match target.raid0 with
  | none =>
    some ⟨target.devIdx, rows.idxOf token, offset, min clamped (path.mdts target.devIdx)⟩
  | some raid => (target.hit offset).map fun extent =>
    let mdOffset := extent.deviceOffset + (offset - extent.logicalOffset)
    let inChunk := mdOffset % raid.chunkBytes
    let chunkNo := mdOffset / raid.chunkBytes
    let member := chunkNo % raid.dev.length
    let dev := raid.dev.getD member 0
    ⟨dev, rows.length + dev,
      raid.dataOffset.getD member 0 + chunkNo / raid.dev.length * raid.chunkBytes + inChunk,
      min (min clamped (raid.chunkBytes - inChunk)) (path.mdts dev)⟩

def piece (path : PathView) (rows : List Nat) (request : DataPathRequest)
    (target : StripedTarget) (memory : StripedMemory) (moved : Nat) : Except Status Piece :=
  let memoryOffset := request.memoryOffset + moved
  match path.place rows request.target target (request.targetOffset + moved)
      (request.length - moved) with
  | none => .error ⟨.dataLoss, "RAID0 target offset outside its extents"⟩
  | some ⟨dev, row, offset, length⟩ =>
    match memory.prebuiltIndex dev memoryOffset length with
    | some index => .ok ⟨⟨row, request.write, offset, some (dev, index)⟩, length, none, none⟩
    | none =>
      let ioaddrs := memory.ioaddrs dev
      let startPage := memoryOffset / path.pageSize % 2 ^ 32
      let pagesInIo := (length + path.pageSize - 1) / path.pageSize % 2 ^ 32
      if ioaddrs.length < (startPage + pagesInIo) % 2 ^ 32 then
        .error ⟨.outOfRange, "PRP page out of DMA range"⟩
      else
        let prp2 := if pagesInIo = 2 then ioaddrs.getD (startPage + 1) 0 else 0
        .ok ⟨⟨row, request.write, offset, none⟩, length,
          some ⟨ioaddrs.getD startPage 0, prp2, length⟩,
          if 2 < pagesInIo then some ⟨startPage, pagesInIo, dev, request.memory⟩ else none⟩

/-- The checks before the split. -/
def checkRequest (path : PathView) (request : DataPathRequest) :
    Except Status (StripedTarget × StripedMemory) :=
  match path.targets request.target with
  | none => .error ⟨.notFound, "target not found or closed"⟩
  | some target =>
    if path.maxRequestBytes < request.length then
      .error ⟨.outOfRange, "request exceeds max_single_io_bytes"⟩
    else
      match path.memories request.memory with
      | none => .error ⟨.notFound, "memory not found"⟩
      | some memory =>
        if request.targetOffset % path.blockSize ≠ 0 ∨ request.length % path.blockSize ≠ 0 ∨
            request.memoryOffset % path.blockSize ≠ 0 then
          .error ⟨.invalidArgument, "not block-aligned"⟩
        else if request.length = 0 then .error ⟨.invalidArgument, "zero length"⟩
        else if target.logicalSize < request.targetOffset + request.length then
          .error ⟨.outOfRange, "target bounds exceeded"⟩
        else if memory.size < request.memoryOffset + request.length then
          .error ⟨.outOfRange, "memory bounds exceeded"⟩
        else .ok (target, memory)

end PathView

/-- The loop over a request of this length, given what its turns make after `moved` bytes. -/
def fanOut (next : Nat → Except Status Piece) (length : Nat) : Nat → Nat →
    List Piece × Option Status
  | 0, _ => ([], none)
  | fuel + 1, moved =>
    if length ≤ moved then ([], none)
    else
      match next moved with
      | .error status => ([], some status)
      | .ok piece =>
        let rest := fanOut next length fuel (moved + piece.length)
        (piece :: rest.1, rest.2)

/-- The vectors after a piece of the request with this index. -/
def Arrays.push (arrays : Arrays) (item : Nat × Piece) : Arrays where
  entries := arrays.entries ++ [item.2.entry]
  requestIndices := arrays.requestIndices ++ [item.1]
  entryLengths := arrays.entryLengths ++ [item.2.length]
  totalBytes := arrays.totalBytes + item.2.length
  dynamicDescs := arrays.dynamicDescs ++ item.2.desc.toList
  listInfos := arrays.listInfos ++
    (item.2.list.map (ListInfo.mk arrays.entries.length arrays.dynamicDescs.length)).toList

/-- The states of the requests, with a reason for each that is REJECTED, and the vectors that
were handed to `launch_io_kernel_`. -/
structure SubmitOutcome where
  states : List (Option Status)
  launched : Option Arrays

namespace PathView

/-- The pieces that are made of a request, and why it is rejected, if it is. -/
def made (path : PathView) (rows : List Nat) (request : DataPathRequest) :
    List Piece × Option Status :=
  match path.checkRequest request with
  | .error status => ([], some status)
  | .ok (target, memory) =>
    fanOut (path.piece rows request target memory) request.length request.length 0

/-- The loop over the requests: what was made of a request is pushed, rejected or not. -/
def fill (path : PathView) (rows : List Nat) : Nat → List DataPathRequest → Arrays →
    List (Option Status) × Arrays
  | _, [], arrays => ([], arrays)
  | index, request :: requests, arrays =>
    let made := path.made rows request
    let rest := path.fill rows (index + 1) requests
      ((made.1.map fun piece => (index, piece)).foldl Arrays.push arrays)
    (made.2 :: rest.1, rest.2)

/-- The targets of a batch that are found, in order. -/
def rows (path : PathView) (requests : List DataPathRequest) : List Nat :=
  firstOccurrences ((requests.map DataPathRequest.target).filter fun token =>
    (path.targets token).isSome)

/-- `submit_impl_`; `failure` is that of a reservation, a copy or the launch. -/
def submit (path : PathView) (requests : List DataPathRequest) (failure : Option Status) :
    SubmitOutcome :=
  let filled := path.fill (path.rows requests) 0 requests {}
  let rejectAll := fun status => SubmitOutcome.mk (requests.map fun _ => some status) none
  if filled.2.entries = [] then ⟨filled.1, none⟩
  else if path.maxBatchEntries < filled.2.entries.length then
    rejectAll ⟨.resourceExhausted, "too many sub-IOs (entries)"⟩
  else if path.maxBatchBytes < filled.2.totalBytes then
    rejectAll ⟨.resourceExhausted, "batch bytes exceed limit"⟩
  else
    match failure with
    | some status => rejectAll status
    | none => ⟨filled.1, some filled.2⟩

end PathView

/-! ## What the vectors hold -/

/-- The PRP lists of the pieces, after so many entries and descriptors. -/
def listInfosOf : Nat → Nat → List (Nat × Piece) → List ListInfo
  | _, _, [] => []
  | entryIdx, descIdx, item :: items =>
    (item.2.list.map (ListInfo.mk entryIdx descIdx)).toList ++
      listInfosOf (entryIdx + 1) (descIdx + item.2.desc.toList.length) items

/-- The vectors correspond one to one to these pieces. -/
structure Arrays.Of (arrays : Arrays) (items : List (Nat × Piece)) : Prop where
  entries : arrays.entries = items.map fun item => item.2.entry
  requestIndices : arrays.requestIndices = items.map Prod.fst
  entryLengths : arrays.entryLengths = items.map fun item => item.2.length
  totalBytes : arrays.totalBytes = (items.map fun item => item.2.length).sum
  dynamicDescs : arrays.dynamicDescs = items.flatMap fun item => item.2.desc.toList
  listInfos : arrays.listInfos = listInfosOf 0 0 items

theorem listInfosOf_append (entryIdx descIdx : Nat) (items more : List (Nat × Piece)) :
    listInfosOf entryIdx descIdx (items ++ more) = listInfosOf entryIdx descIdx items ++
      listInfosOf (entryIdx + items.length)
        (descIdx + (items.flatMap fun item => item.2.desc.toList).length) more := by
  induction items generalizing entryIdx descIdx with
  | nil => rfl
  | cons item items ih =>
    rw [cons_append, listInfosOf, listInfosOf, ih, append_assoc, flatMap_cons,
      length_append, length_cons]
    congr 3 <;> omega

namespace Arrays.Of

variable {arrays : Arrays} {items : List (Nat × Piece)}

theorem push (of : arrays.Of items) (item : Nat × Piece) :
    (arrays.push item).Of (items ++ [item]) where
  entries := by rw [Arrays.push, of.entries, map_append]; rfl
  requestIndices := by rw [Arrays.push, of.requestIndices, map_append]; rfl
  entryLengths := by rw [Arrays.push, of.entryLengths, map_append]; rfl
  totalBytes := by
    rw [Arrays.push, of.totalBytes, map_append, sum_append_nat]
    rfl
  dynamicDescs := by
    rw [Arrays.push, of.dynamicDescs]
    simp
  listInfos := by
    rw [Arrays.push, of.listInfos, of.entries, of.dynamicDescs, listInfosOf_append]
    simp [listInfosOf]

theorem foldl (of : arrays.Of items) (more : List (Nat × Piece)) :
    (more.foldl Arrays.push arrays).Of (items ++ more) := by
  induction more generalizing arrays items with
  | nil => rwa [append_nil]
  | cons item more ih =>
    rw [append_cons]
    exact ih (of.push item)

end Arrays.Of

/-! ## What is made of a request -/

/-- The pieces are those of the turns, one after the other, up to the last byte. -/
def Tiles (next : Nat → Except Status Piece) (length : Nat) : Nat → List Piece → Prop
  | moved, [] => moved = length
  | moved, piece :: pieces =>
    next moved = .ok piece ∧ 0 < piece.length ∧ Tiles next length (moved + piece.length) pieces

/-- A loop whose turns all move some bytes, and none too many, moves them all. -/
theorem tiles_fanOut {next : Nat → Except Status Piece} {length : Nat}
    (advances : ∀ moved piece, moved < length → next moved = .ok piece →
      0 < piece.length ∧ moved + piece.length ≤ length) {fuel moved : Nat}
    (enough : length ≤ moved + fuel) (within : moved ≤ length)
    (through : (fanOut next length fuel moved).2 = none) :
    Tiles next length moved (fanOut next length fuel moved).1 := by
  induction fuel generalizing moved with
  | zero => exact le_antisymm within enough
  | succ fuel ih =>
    revert through
    unfold fanOut
    split
    · exact fun _ => le_antisymm within ‹_›
    rename_i left
    split
    · exact nofun
    rename_i piece turn
    obtain ⟨some, fits⟩ := advances moved piece (not_le.mp left) turn
    exact fun through => ⟨turn, some, ih (by omega) fits through⟩

/-- Nothing is made only if the first turn fails. -/
theorem fanOut_eq_nil_iff {next : Nat → Except Status Piece} {length : Nat} (some : 0 < length) :
    (fanOut next length length 0).1 = [] ↔ ∀ piece, next 0 ≠ .ok piece := by
  obtain ⟨fuel, rfl⟩ := Nat.exists_eq_succ_of_ne_zero some.ne'
  unfold fanOut
  rw [if_neg (by omega)]
  split
  · rename_i failed
    rw [failed]
    exact iff_of_true rfl nofun
  · rename_i piece turn
    exact iff_of_false nofun fun never => never piece turn

namespace PathView

variable {path : PathView} {rows : List Nat} {requests : List DataPathRequest}

variable {target : StripedTarget}

theorem place_length {token offset remaining : Nat} {place : Place}
    (found : path.place rows token target offset remaining = some place) (left : 0 < remaining) :
    0 < place.length ∧ place.length ≤ remaining := by
  have clamped : ∀ hit, target.hit offset = hit → 0 < (match hit with
      | some extent => min remaining (extent.logicalOffset + extent.length - offset)
      | none => remaining) ∧ (match hit with
      | some extent => min remaining (extent.logicalOffset + extent.length - offset)
      | none => remaining) ≤ remaining := by
    intro hit same
    cases hit with
    | none => exact ⟨left, le_rfl⟩
    | some extent =>
      have inside := find?_some same
      rw [decide_eq_true_eq] at inside
      exact ⟨Nat.lt_min.mpr ⟨left, by omega⟩, Nat.min_le_left _ _⟩
  obtain ⟨positive, bounded⟩ := clamped _ rfl
  unfold PathView.place at found
  dsimp only at found
  split at found
  · cases found
    exact ⟨Nat.lt_min.mpr ⟨positive, path.mdts_pos _⟩, (Nat.min_le_left _ _).trans bounded⟩
  rename_i raid _
  obtain ⟨extent, _, rfl⟩ := Option.map_eq_some_iff.mp found
  have chunk := Nat.mod_lt (extent.deviceOffset + (offset - extent.logicalOffset))
    raid.chunkBytes_pos
  refine ⟨Nat.lt_min.mpr ⟨Nat.lt_min.mpr ⟨positive, by omega⟩, path.mdts_pos _⟩, ?_⟩
  exact (min_le_left _ _).trans ((min_le_left _ _).trans bounded)

variable {request : DataPathRequest}

/-! ## Which pieces can be addressed -/

/-- Where the piece is that follows after `moved` bytes. -/
def placeAt (path : PathView) (rows : List Nat) (request : DataPathRequest)
    (target : StripedTarget) (moved : Nat) : Option Place :=
  path.place rows request.target target (request.targetOffset + moved) (request.length - moved)

/-- That piece is inside the extents of a RAID0 target, and its memory is in a pre-built table
or in the DMA table of its device. -/
def Addressed (path : PathView) (rows : List Nat) (request : DataPathRequest)
    (target : StripedTarget) (memory : StripedMemory) (moved : Nat) : Prop :=
  ∃ place, path.placeAt rows request target moved = some place ∧
    ((memory.prebuiltIndex place.dev (request.memoryOffset + moved) place.length).isSome = true ∨
      ((request.memoryOffset + moved) / path.pageSize % 2 ^ 32 +
          (place.length + path.pageSize - 1) / path.pageSize % 2 ^ 32) % 2 ^ 32 ≤
        (memory.ioaddrs place.dev).length)

/-- The extents, the RAID0 chunks and the MDTS cut a request here next. -/
def Cuts (path : PathView) (rows : List Nat) (request : DataPathRequest)
    (target : StripedTarget) (moved later : Nat) : Prop :=
  moved < request.length ∧ ∃ place, path.placeAt rows request target moved = some place ∧
    later = moved + place.length

/-- If the first piece of a request that passes the checks can be addressed, all can. -/
def Uniform (path : PathView) (rows : List Nat) (request : DataPathRequest) : Prop :=
  ∀ target memory, path.checkRequest request = .ok (target, memory) →
    path.Addressed rows request target memory 0 → ∀ start < request.length,
      Relation.ReflTransGen (path.Cuts rows request target) 0 start →
        path.Addressed rows request target memory start

variable {memory : StripedMemory} {moved : Nat}

theorem addressed_iff : path.Addressed rows request target memory moved ↔
    ∃ piece, path.piece rows request target memory moved = .ok piece := by
  unfold Addressed PathView.piece placeAt
  dsimp only
  cases path.place rows request.target target (request.targetOffset + moved)
      (request.length - moved) with
  | none => exact iff_of_false nofun nofun
  | some place =>
    dsimp only
    cases built : memory.prebuiltIndex place.dev (request.memoryOffset + moved) place.length with
    | some index => exact iff_of_true ⟨place, rfl, .inl (Option.isSome_of_eq_some built)⟩ ⟨_, rfl⟩
    | none =>
      dsimp only
      split
      · rename_i short
        refine iff_of_false ?_ nofun
        rintro ⟨_, ⟨⟩, there | fits⟩
        · rw [built] at there
          cases there
        · exact absurd fits (not_le.mpr short)
      · rename_i fits
        exact iff_of_true ⟨place, rfl, .inr (not_lt.mp fits)⟩ ⟨_, rfl⟩

theorem placeAt_of_piece {piece : Piece}
    (turn : path.piece rows request target memory moved = .ok piece) :
    ∃ place, path.placeAt rows request target moved = some place ∧
      place.length = piece.length := by
  unfold PathView.piece at turn
  dsimp only at turn
  split at turn
  · cases turn
  rename_i found
  refine ⟨_, found, ?_⟩
  split at turn
  · cases turn
    rfl
  split at turn
  · cases turn
  · cases turn
    rfl

/-- A piece moves some bytes and none too many. -/
theorem piece_advances {piece : Piece} (left : moved < request.length)
    (turn : path.piece rows request target memory moved = .ok piece) :
    0 < piece.length ∧ moved + piece.length ≤ request.length := by
  obtain ⟨place, found, length⟩ := placeAt_of_piece turn
  obtain ⟨positive, bounded⟩ := place_length found (by omega)
  omega

/-- No piece starts where nothing is left. -/
theorem not_starts (all : request.length ≤ moved) {start : Nat} (inside : start < request.length) :
    ¬ Relation.ReflTransGen (path.Cuts rows request target) moved start := by
  intro reached
  rcases reached.cases_head with rfl | ⟨_, cut, _⟩
  · exact absurd all (not_le.mpr inside)
  · exact absurd all (not_le.mpr cut.1)

/-- The turns come to the end exactly if all pieces from here on can be addressed. -/
theorem fanOut_none_iff {fuel : Nat} (enough : request.length ≤ moved + fuel) :
    (fanOut (path.piece rows request target memory) request.length fuel moved).2 = none ↔
      ∀ start < request.length, Relation.ReflTransGen (path.Cuts rows request target) moved start →
        path.Addressed rows request target memory start := by
  induction fuel generalizing moved with
  | zero => exact iff_of_true rfl fun _ inside reached => absurd reached (not_starts enough inside)
  | succ fuel ih =>
    unfold fanOut
    split
    · rename_i all
      exact iff_of_true rfl fun _ inside reached => absurd reached (not_starts all inside)
    rename_i left
    have left := not_le.mp left
    split
    · rename_i failed
      refine iff_of_false nofun fun all => ?_
      obtain ⟨piece, turn⟩ := addressed_iff.mp (all moved left .refl)
      cases failed.symm.trans turn
    rename_i piece turn
    obtain ⟨place, placed, length⟩ := placeAt_of_piece turn
    have positive := (piece_advances left turn).1
    refine (ih (by omega)).trans ⟨fun all start inside reached => ?_,
      fun all start inside reached => ?_⟩
    · rcases reached.cases_head with rfl | ⟨_, ⟨_, other, same, rfl⟩, rest⟩
      · exact addressed_iff.mpr ⟨piece, turn⟩
      · cases placed.symm.trans same
        exact all start inside (length ▸ rest)
    · exact all start inside (.head ⟨left, place, placed, by rw [length]⟩ reached)

theorem length_pos_of_check (ok : path.checkRequest request = .ok (target, memory)) :
    0 < request.length := by
  unfold checkRequest at ok
  split at ok
  · cases ok
  split at ok
  · cases ok
  split at ok
  · cases ok
  split at ok
  · cases ok
  split at ok
  · cases ok
  rename_i some
  exact pos_of_ne_zero some

/-- A request is rejected before a piece of it is made, or not at all, exactly if its pieces
can be addressed like the first. -/
theorem uniform_iff : path.Uniform rows request ↔
    ((path.made rows request).2 ≠ none → (path.made rows request).1 = []) := by
  unfold Uniform made
  cases check : path.checkRequest request with
  | error status => exact iff_of_true nofun fun _ => rfl
  | ok found =>
    obtain ⟨target, memory⟩ := found
    have all := @fanOut_none_iff path rows target request memory 0 request.length
      (Nat.le_add_left _ _)
    have first : _ ↔ ¬ path.Addressed rows request target memory 0 :=
      (fanOut_eq_nil_iff (length_pos_of_check check)).trans
        (not_exists.symm.trans (not_congr addressed_iff.symm))
    constructor
    · intro uniform rejected
      exact first.mpr fun addressed => rejected (all.mpr (uniform target memory rfl addressed))
    · rintro whole _ _ ⟨⟩ addressed
      exact all.mp (by_contra fun rejected => first.mp (whole rejected) addressed)

/-- An accepted request is covered by its pieces. -/
theorem made_covers (accepted : (path.made rows request).2 = none) :
    ∃ target memory, path.checkRequest request = .ok (target, memory) ∧
      Tiles (path.piece rows request target memory) request.length 0
        (path.made rows request).1 := by
  revert accepted
  unfold made
  split
  · exact nofun
  rename_i target memory check
  exact fun through => ⟨target, memory, check, tiles_fanOut
    (fun _ _ left turn => piece_advances left turn) (Nat.le_add_left _ _) (Nat.zero_le _) through⟩

/-- The pieces that are made in a batch, each with the index of its request. -/
def items (path : PathView) (rows : List Nat) (start : Nat) (requests : List DataPathRequest) :
    List (Nat × Piece) :=
  (requests.zipIdx start).flatMap fun item =>
    (path.made rows item.1).1.map fun piece => (item.2, piece)

theorem fill_eq (index : Nat) (requests : List DataPathRequest) (arrays : Arrays) :
    path.fill rows index requests arrays = (requests.map fun request =>
      (path.made rows request).2, (path.items rows index requests).foldl Arrays.push arrays) := by
  induction requests generalizing index arrays with
  | nil => rfl
  | cons request requests ih =>
    have first : path.items rows index (request :: requests) =
        ((path.made rows request).1.map fun piece => (index, piece)) ++
          path.items rows (index + 1) requests := by
      rfl
    rw [fill, ih, first, foldl_append]
    rfl

/-! ## The launch -/

/-- The pieces of the requests that are ACCEPTED. -/
def acceptedItems (path : PathView) (requests : List DataPathRequest)
    (states : List (Option Status)) : List (Nat × Piece) :=
  requests.zipIdx.flatMap fun item =>
    if states[item.2]? = some none then
      (path.made (path.rows requests) item.1).1.map fun piece => (item.2, piece)
    else []

/-- The vectors of a launch hold what is made of the ACCEPTED requests and nothing else, that
covers each of them from its first byte to its last, and without one nothing is launched. -/
structure IssuesAccepted (path : PathView) (requests : List DataPathRequest)
    (outcome : SubmitOutcome) : Prop where
  exact : ∀ arrays ∈ outcome.launched, arrays.Of (path.acceptedItems requests outcome.states)
  covers : ∀ (index : Nat) (request : DataPathRequest), requests[index]? = some request →
    outcome.states[index]? = some none →
      ∃ target memory, path.checkRequest request = .ok (target, memory) ∧
        Tiles (path.piece (path.rows requests) request target memory) request.length 0
          (path.made (path.rows requests) request).1
  idle : (∀ state ∈ outcome.states, state ≠ none) → outcome.launched = none

/-- What a submit leaves: the verdicts of the requests, and a launch of what was made of
them all; or every request is rejected. -/
theorem submit_cases (path : PathView) (requests : List DataPathRequest)
    (failure : Option Status) :
    ((path.submit requests failure).launched = none ∧
      ∀ (index : Nat) (request : DataPathRequest), requests[index]? = some request →
        (path.submit requests failure).states[index]? = some none →
          (path.made (path.rows requests) request).2 = none) ∨
      ∃ arrays, arrays.Of (path.items (path.rows requests) 0 requests) ∧ arrays.entries ≠ [] ∧
        path.submit requests failure = ⟨requests.map fun request =>
          (path.made (path.rows requests) request).2, some arrays⟩ := by
  have filled := (Arrays.Of.mk rfl rfl rfl rfl rfl rfl : Arrays.Of {} []).foldl
    (path.items (path.rows requests) 0 requests)
  rw [nil_append] at filled
  have rejected : ∀ (status : Status) (index : Nat) (request : DataPathRequest),
      requests[index]? = some request → (requests.map fun _ => some status)[index]? = some none →
        (path.made (path.rows requests) request).2 = none := by
    intro status index request found accepted
    rw [getElem?_map, found] at accepted
    cases accepted
  unfold submit
  rw [fill_eq]
  dsimp only
  split
  · refine .inl ⟨rfl, fun index request found accepted => ?_⟩
    rw [getElem?_map, found] at accepted
    exact Option.some.inj accepted
  rename_i some
  split
  · exact .inl ⟨rfl, rejected _⟩
  split
  · exact .inl ⟨rfl, rejected _⟩
  split
  · exact .inl ⟨rfl, rejected _⟩
  · exact .inr ⟨_, filled, some, rfl⟩

/-- The pieces of uniform requests are those of the ACCEPTED ones. -/
theorem items_eq (uniform : ∀ request ∈ requests, path.Uniform (path.rows requests) request) :
    path.items (path.rows requests) 0 requests = path.acceptedItems requests
      (requests.map fun request => (path.made (path.rows requests) request).2) := by
  refine flatMap_congr fun item member => ?_
  have found := mem_zipIdx_iff_getElem?.mp member
  rw [getElem?_map, found]
  split
  · rfl
  rename_i rejected
  have none := uniform_iff.mp (uniform item.1 (mem_of_getElem? found)) fun accepted =>
    rejected (congrArg some accepted)
  rw [none]
  rfl

/-- One page of a device with an MDTS of a page, read from a file of two extents, into a
memory with this many pages. -/
def onePath (pages : Nat) : PathView where
  targets token := if token = 1 then some ⟨0, 8192, [⟨0, 4096, 0⟩, ⟨4096, 4096, 0⟩], none⟩ else none
  memories token := if token = 1 then some ⟨8192, fun _ => range pages, none⟩ else none
  blockSize := 512
  pageSize := 4096
  maxRequestBytes := 8192
  maxBatchEntries := 4
  maxBatchBytes := 16384
  mdts _ := 4096
  mdts_pos _ := by decide

end PathView

end Tutti.Striped
