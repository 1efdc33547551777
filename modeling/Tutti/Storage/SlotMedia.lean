import Mathlib.Data.List.Nodup
import Mathlib.Logic.Function.Basic
import Tutti.Foundation.PathText
import Tutti.Storage.CheckpointRegion

/-!
# The media under the object store

Slots live in fixed-size segment files, one header block and one payload each;
the checkpoint region is one file per namespace root. A file is known by the
normal form of the text it is opened by, so that two spellings of a path are one
file; links are left out. The media are a value, and each file operation is a
function of it. What the environment decides about a write is a parameter: it is
done, or it failed and left arbitrary bytes in the range it was writing.
-/

namespace Tutti

open Foundation

/-! ## Status -/

inductive StatusCode where
  | invalidArgument
  | outOfRange
  | notFound
  | unsupported
  | notReady
  | busy
  | resourceExhausted
  | timeout
  | deviceError
  | dataLoss
  | internal
  deriving DecidableEq, Repr

/-- A failed status; success is `Except.ok`. -/
structure Status where
  code : StatusCode
  message : String
  deriving DecidableEq, Repr

/-! ## Placement -/

/-- The directory of a rank under a mount, and the name of a segment file. -/
def rankDirectory (rank : Nat) : List Char := ("r" ++ toString rank ++ "/segments").toList

def segmentName (fileId : Nat) : List Char := (toString fileId ++ ".seg").toList

/-- The text of a segment file, `<mount>/r<rank>/segments/<fileId>.seg`. -/
def segmentText (mount : String) (rank fileId : Nat) : List Char :=
  joinPath (joinPath mount.toList (rankDirectory rank)) (segmentName fileId)

/-- A segment file, as the file system knows it. -/
abbrev SegmentPath := NormalPath

def segmentPath (mount : String) (rank fileId : Nat) : SegmentPath :=
  normalise (segmentText mount rank fileId)

theorem ne_slash_of_mem_toDigits {number : Nat} {char : Char}
    (member : char ∈ Nat.toDigits 10 number) : char ≠ '/' := by
  rintro rfl
  cases Nat.isDigit_of_mem_toDigits (by decide) le_rfl member

theorem segmentName_eq (fileId : Nat) :
    segmentName fileId = Nat.toDigits 10 fileId ++ ['.', 's', 'e', 'g'] := by
  rw [segmentName, String.toList_append, Nat.toString_eq_ofList_toDigits, String.toList_ofList]
  rfl

theorem plain_segmentName (fileId : Nat) : PlainPart (segmentName fileId) := by
  rw [segmentName_eq]
  have long : ∀ short : List Char, short.length < 4 →
      Nat.toDigits 10 fileId ++ ['.', 's', 'e', 'g'] ≠ short := by
    intro short less same
    rw [← same, List.length_append] at less
    simp only [List.length_cons] at less
    omega
  refine ⟨long _ (by decide), long _ (by decide), long _ (by decide), ?_⟩
  intro member
  rcases List.mem_append.mp member with digit | suffix
  · exact ne_slash_of_mem_toDigits digit rfl
  · revert suffix
    decide

/-- Different numbers name different files. -/
theorem segmentName_injective {first second : Nat}
    (same : segmentName first = segmentName second) : first = second := by
  rw [segmentName_eq, segmentName_eq] at same
  have digits := List.append_cancel_right same
  rw [← @Nat.ofDigitChars_ten_toDigits first, digits, Nat.ofDigitChars_ten_toDigits]

theorem plain_rankName (rank : Nat) : PlainPart ('r' :: Nat.toDigits 10 rank) := by
  refine ⟨nofun, nofun, nofun, fun member => ?_⟩
  rcases List.mem_cons.mp member with first | digit
  · revert first
    decide
  · exact ne_slash_of_mem_toDigits digit rfl

theorem plain_segments : PlainPart "segments".toList := ⟨nofun, nofun, nofun, by decide⟩

theorem rankDirectory_eq (rank : Nat) :
    rankDirectory rank = ('r' :: Nat.toDigits 10 rank) ++ '/' :: "segments".toList := by
  simp only [rankDirectory, String.toList_append, Nat.toString_eq_ofList_toDigits,
    String.toList_ofList]
  rfl

/-- A segment file is its mount's directory and three components more. -/
theorem segmentPath_eq (mount : String) (rank fileId : Nat) :
    segmentPath mount rank fileId = ⟨(normalise mount.toList).absolute,
      segmentName fileId :: "segments".toList :: ('r' :: Nat.toDigits 10 rank) ::
        (normalise mount.toList).stack⟩ := by
  have relative : (rankDirectory rank).head? ≠ some '/' := by
    rw [rankDirectory_eq, List.cons_append, List.head?_cons]
    decide
  rw [segmentPath, segmentText, normalise_joinPath _ (plain_segmentName _).head_ne,
    normalise_joinPath _ relative, pathParts_plain (plain_segmentName _), rankDirectory_eq,
    pathParts_append, pathParts_plain (plain_rankName rank), pathParts_plain plain_segments]
  simp only [List.cons_append, List.nil_append, List.foldl_cons, List.foldl_nil,
    enterPart_plain (plain_segmentName _), enterPart_plain (plain_rankName _),
    enterPart_plain plain_segments]

/-- Files of one rank are one file only if the numbers and the mounts are. -/
theorem segmentPath_inj {first second : String} {rank fileId other : Nat}
    (same : segmentPath first rank fileId = segmentPath second rank other) :
    normalise first.toList = normalise second.toList ∧ fileId = other := by
  rw [segmentPath_eq, segmentPath_eq] at same
  obtain ⟨absolute, stack⟩ := NormalPath.mk.inj same
  obtain ⟨file, stack⟩ := List.cons.inj stack
  have stack := (List.cons.inj (List.cons.inj stack).2).2
  exact ⟨congrArg₂ NormalPath.mk absolute stack, segmentName_injective file⟩

/-- `FixedSegmentFilePlacement`: slots rotate over the mounts, and each mount
packs a fixed number of its slots into one file. -/
structure FixedSegmentFilePlacement where
  mounts : List String
  rank : Nat
  slotBytes : Nat
  fileBytes : Nat
  headerBytes : Nat
  deriving DecidableEq, Repr

namespace FixedSegmentFilePlacement

def slotsPerFile (placement : FixedSegmentFilePlacement) : Nat :=
  if placement.slotBytes = 0 then 0 else placement.fileBytes / placement.slotBytes

def geometryValid (placement : FixedSegmentFilePlacement) : Bool :=
  placement.mounts ≠ [] ∧ 0 < placement.slotsPerFile

/-- The mount and the file that a slot is on. -/
def mountForSlot (placement : FixedSegmentFilePlacement) (slot : Nat) : String :=
  placement.mounts.getD (slot % placement.mounts.length) ""

def fileForSlot (placement : FixedSegmentFilePlacement) (slot : Nat) : Nat :=
  slot / placement.mounts.length / placement.slotsPerFile

def pathForSlot (placement : FixedSegmentFilePlacement) (slot : Nat) : List Char :=
  segmentText (placement.mountForSlot slot) placement.rank (placement.fileForSlot slot)

def uriForSlot (placement : FixedSegmentFilePlacement) (slot : Nat) : List Char :=
  "file://".toList ++ placement.pathForSlot slot

def headerOffsetForSlot (placement : FixedSegmentFilePlacement) (slot : Nat) : Nat :=
  slot / placement.mounts.length % placement.slotsPerFile * placement.slotBytes

def payloadOffsetForSlot (placement : FixedSegmentFilePlacement) (slot : Nat) : Nat :=
  placement.headerOffsetForSlot slot + placement.headerBytes

/-- The mounts are distinct and the geometry passes its check. -/
structure Sound (placement : FixedSegmentFilePlacement) : Prop where
  mounts_nodup : placement.mounts.Nodup
  mounts_ne_nil : placement.mounts ≠ []
  slotsPerFile_pos : 0 < placement.slotsPerFile

variable {placement : FixedSegmentFilePlacement}

/-- Two slots of one mount in one file are at least one slot apart. -/
theorem Sound.apart (sound : placement.Sound) {first second : Nat} (different : first ≠ second)
    (mount : placement.mountForSlot first = placement.mountForSlot second)
    (file : placement.fileForSlot first = placement.fileForSlot second) :
    placement.headerOffsetForSlot first + placement.slotBytes ≤
        placement.headerOffsetForSlot second ∨
      placement.headerOffsetForSlot second + placement.slotBytes ≤
        placement.headerOffsetForSlot first := by
  have mounted : 0 < placement.mounts.length := List.length_pos_of_ne_nil sound.mounts_ne_nil
  unfold fileForSlot at file
  have device : first % placement.mounts.length = second % placement.mounts.length := by
    have left := Nat.mod_lt first mounted
    have right := Nat.mod_lt second mounted
    simp only [mountForSlot, List.getD_eq_getElem?_getD, List.getElem?_eq_getElem left,
      List.getElem?_eq_getElem right] at mount
    exact (List.Nodup.getElem_inj_iff sound.mounts_nodup).mp mount
  have row : first / placement.mounts.length ≠ second / placement.mounts.length := by
    intro equal
    refine different ?_
    rw [← Nat.div_add_mod first placement.mounts.length, equal, device, Nat.div_add_mod]
  have place : first / placement.mounts.length % placement.slotsPerFile ≠
      second / placement.mounts.length % placement.slotsPerFile := by
    intro equal
    refine row ?_
    rw [← Nat.div_add_mod (first / _) placement.slotsPerFile, file, equal, Nat.div_add_mod]
  have step : ∀ {low high : Nat}, low < high →
      low * placement.slotBytes + placement.slotBytes ≤ high * placement.slotBytes := by
    intro low high below
    calc low * placement.slotBytes + placement.slotBytes = (low + 1) * placement.slotBytes := by
          rw [Nat.succ_mul]
      _ ≤ high * placement.slotBytes := Nat.mul_le_mul_right _ below
  rcases lt_or_gt_of_ne place with below | above
  · exact .inl (step below)
  · exact .inr (step above)

theorem Sound.slotBytes_pos (sound : placement.Sound) :
    0 < placement.slotBytes := by
  have positive := sound.slotsPerFile_pos
  unfold slotsPerFile at positive
  split at positive
  · exact absurd positive (lt_irrefl 0)
  rename_i nonzero
  exact pos_of_ne_zero nonzero

end FixedSegmentFilePlacement

/-! ## Files -/

/-- A segment file: its size, the size recorded by the ready marker of this very
file, and the aligned block found at each offset. -/
structure SegmentFile where
  size : Nat
  ready : Option Nat
  block : Nat → Bytes

/-- The header of a residency bitmap, field by field. -/
structure ResidencyHeader where
  magic : Bytes
  version : Nat
  rankId : Nat
  rankCount : Nat
  slotCount : Nat
  fingerprint : Nat
  deriving DecidableEq, Repr

/-- A residency bitmap file: its size, header and bits. -/
structure ResidencyFile where
  size : Nat
  header : ResidencyHeader
  bits : Nat → Bool

/-- The files of the store: the checkpoint file of each namespace root, the
segment files, and the residency bitmap of each rank under each root. -/
structure Media where
  checkpoint : NormalPath → Option Bytes
  segment : SegmentPath → Option SegmentFile
  residency : NormalPath → Nat → Option ResidencyFile

namespace Media

/-- No files at all. -/
def blank : Media where
  checkpoint := fun _ => none
  segment := fun _ => none
  residency := fun _ _ => none

def setSegment (media : Media) (path : SegmentPath) (file : SegmentFile) : Media :=
  { media with segment := Function.update media.segment path (some file) }

def setCheckpoint (media : Media) (root : NormalPath) (file : Bytes) : Media :=
  { media with checkpoint := Function.update media.checkpoint root (some file) }

def setResidency (media : Media) (root : NormalPath) (rank : Nat) (file : ResidencyFile) : Media :=
  { media with
    residency := Function.update media.residency root
      (Function.update (media.residency root) rank (some file)) }

end Media

/-- What becomes of a write: it is done, or it fails and leaves some bytes in the
range it was writing. -/
inductive WriteOutcome where
  | done
  | failed (error : Status) (left : Bytes)
  deriving DecidableEq, Repr

/-- An all-zero block. -/
def zeroBlock : Bytes := List.replicate alignment 0

/-! ## Segment files -/

/-- What a materialisation meets: nothing, or an error after the file reached
some size. -/
abbrev MaterialiseFault := Option (Status × Nat)

/-- The block at an offset when the file is made longer: zero behind the old end. -/
def SegmentFile.padded (file : SegmentFile) (offset : Nat) : Bytes :=
  if offset < file.size then file.block offset else zeroBlock

/-- Grow a file with zeros up to a size. -/
def SegmentFile.extend (file : Option SegmentFile) (size : Nat) (ready : Option Nat) :
    SegmentFile :=
  match file with
  | none => ⟨size, ready, fun _ => zeroBlock⟩
  | some file => ⟨max file.size size, ready, file.padded⟩

/-- `materialise_segment_file`: existing bytes are kept, the rest of the file is
zero-filled, and the ready marker is published last. -/
def materialiseSegmentFile (media : Media) (path : SegmentPath) (fileBytes : Nat)
    (fault : MaterialiseFault) : Except Status Unit × Media :=
  if fileBytes = 0 ∨ fileBytes % alignment ≠ 0 then
    (.error ⟨.invalidArgument, "segment file size must be nonzero and 4096-aligned"⟩, media)
  else
    let file := media.segment path
    let oldSize := (file.map SegmentFile.size).getD 0
    let recorded := file.bind SegmentFile.ready
    if fileBytes < oldSize then
      (.error ⟨.invalidArgument, "segment file exceeds configured size"⟩, media)
    else if recorded = some fileBytes ∧ oldSize = fileBytes then (.ok (), media)
    else if ∃ other ∈ recorded, other ≠ fileBytes then
      (.error ⟨.invalidArgument, "segment file was built for another geometry"⟩, media)
    else
      match fault with
      | some (error, reached) =>
        (.error error, media.setSegment path
          (SegmentFile.extend file (min reached fileBytes) recorded))
      | none =>
        (.ok (), media.setSegment path (SegmentFile.extend file fileBytes (some fileBytes)))

/-- `segment_file_is_ready`: the probe may fail for reasons of its own. -/
def segmentFileIsReady (media : Media) (path : SegmentPath) (fileBytes : Nat)
    (fault : Option Status) : Except Status Bool :=
  if fileBytes = 0 ∨ fileBytes % alignment ≠ 0 then
    .error ⟨.invalidArgument, "segment file size must be nonzero and 4096-aligned"⟩
  else
    match media.segment path with
    | none => .ok false
    | some file =>
      match fault with
      | some error => .error error
      | none => .ok (file.size = fileBytes ∧ file.ready = some fileBytes)

/-- Replace the block at an offset of an existing file; writing past the end of
the file extends it. -/
def Media.writeBlock (media : Media) (path : SegmentPath) (file : SegmentFile) (offset : Nat)
    (bytes : Bytes) : Media :=
  media.setSegment path { file with
    size := max file.size (offset + alignment)
    block := Function.update file.padded offset bytes }

/-- `write_object_header`: the file must exist. -/
def writeObjectHeader (media : Media) (path : SegmentPath) (offset : Nat) (header : Bytes)
    (outcome : WriteOutcome) : Except Status Unit × Media :=
  match media.segment path with
  | none => (.error ⟨.internal, "open slot for header write"⟩, media)
  | some file =>
    match outcome with
    | .done => (.ok (), media.writeBlock path file offset header)
    | .failed error left => (.error error, media.writeBlock path file offset left)

/-- `read_object_header`: a missing file, or one that ends before the header, is
an error. -/
def readObjectHeader (media : Media) (path : SegmentPath) (offset : Nat) : Option Bytes :=
  match media.segment path with
  | none => none
  | some file => if file.size ≤ offset then none else some (file.block offset)

/-- What becomes of zeroing a range: done, or failed with arbitrary blocks left
in the range. -/
inductive ZeroOutcome where
  | done
  | failed (error : Status) (left : Nat → Bytes)

/-- `zero_file_range`: the blocks that start in the range become zero. -/
def zeroFileRange (media : Media) (path : SegmentPath) (offset bytes : Nat)
    (outcome : ZeroOutcome) : Except Status Unit × Media :=
  match media.segment path with
  | none => (.error ⟨.internal, "open segment file for zero"⟩, media)
  | some file =>
    let zeroed := fun (fill : Nat → Bytes) => media.setSegment path { file with
      size := max file.size (offset + bytes)
      block := fun query =>
        if offset ≤ query ∧ query < offset + bytes then fill query else file.padded query }
    match outcome with
    | .done => (.ok (), zeroed fun _ => zeroBlock)
    | .failed error left => (.error error, zeroed left)

/-! ## The checkpoint file -/

/-- Extend a file with zeros up to a length. -/
def padTo (length : Nat) (file : Bytes) : Bytes :=
  file ++ List.replicate (length - file.length) 0

/-- `ensure_metadata_file`: a file that is missing or too short is created anew,
all zeros. -/
def ensureMetadataFile (media : Media) (root : NormalPath) (bytes : Nat) (fault : Option Status) :
    Except Status Unit × Media :=
  if bytes = 0 ∨ bytes % alignment ≠ 0 then
    (.error ⟨.invalidArgument, "metadata file size must be nonzero and 4096-aligned"⟩, media)
  else
    match fault with
    | some error => (.error error, media)
    | none =>
      if bytes ≤ ((media.checkpoint root).getD []).length then (.ok (), media)
      else (.ok (), media.setCheckpoint root (List.replicate bytes 0))

/-- `read_checkpoint_container`: short at the end of the file, the remaining
bytes stay zero. -/
def readCheckpointContainer (media : Media) (root : NormalPath) (offset bytes : Nat) :
    Option Bytes :=
  if bytes = 0 ∨ bytes % alignment ≠ 0 ∨ offset % alignment ≠ 0 then none
  else (media.checkpoint root).map fun file => padTo bytes (loadAt file offset bytes)

/-- `write_checkpoint_container`: the file must exist. A failed write leaves
arbitrary bytes in the range of the image. -/
def writeCheckpointContainer (media : Media) (root : NormalPath) (offset : Nat) (image : Bytes)
    (outcome : WriteOutcome) : Except Status Unit × Media :=
  if image = [] ∨ image.length % alignment ≠ 0 then
    (.error ⟨.invalidArgument, "checkpoint image must be nonzero and 4096-aligned"⟩, media)
  else if offset % alignment ≠ 0 then
    (.error ⟨.invalidArgument, "checkpoint offset must be 4096-aligned"⟩, media)
  else
    match media.checkpoint root with
    | none => (.error ⟨.internal, "open checkpoint"⟩, media)
    | some file =>
      let written := fun (bytes : Bytes) =>
        media.setCheckpoint root (storeAt (padTo (offset + image.length) file) offset bytes)
      match outcome with
      | .done => (.ok (), written image)
      | .failed error left => (.error error, written (padTo image.length (left.take image.length)))

end Tutti
