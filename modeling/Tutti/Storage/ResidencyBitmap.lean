import Tutti.Storage.SlotMedia

/-!
# Residency bitmaps

Each rank owns one bitmap file under the shared namespace root; bit `slot` says
that the slot is committed on that rank. The owner maps its file for writing and
every other rank maps it read-only, so all ranks see one set of bits. A bitmap
that cannot be mapped reads as absent and ignores writes.
-/

namespace Tutti

open Foundation

namespace ResidencyBitmapLayout

/-- The magic is the text TUTTIRES. -/
def magic : Bytes := [84, 85, 84, 84, 73, 82, 69, 83]

def version : Nat := 1
def headerBytes : Nat := 4096

end ResidencyBitmapLayout

inductive ResidencyRejection where
  | emptyFile
  | badMagic
  | unsupportedVersion
  | slotCountMismatch
  | fingerprintMismatch
  | rankCountMismatch
  deriving DecidableEq, Repr

def ResidencyRejection.text : ResidencyRejection → String
  | .emptyFile => "empty_file"
  | .badMagic => "bad_magic"
  | .unsupportedVersion => "unsupported_version"
  | .slotCountMismatch => "slot_count_mismatch"
  | .fingerprintMismatch => "fingerprint_mismatch"
  | .rankCountMismatch => "rank_count_mismatch"

/-- `residency_file_bytes`. -/
def residencyFileBytes (slotCount : Nat) : Nat :=
  roundUp (ResidencyBitmapLayout.headerBytes + (slotCount + 7) % uint64Size / 8) alignment

/-- `encode_residency_header`. -/
def encodeResidencyHeader (rankId rankCount slotCount fingerprint : Nat) : ResidencyHeader :=
  ⟨ResidencyBitmapLayout.magic, ResidencyBitmapLayout.version, rankId, rankCount, slotCount,
    fingerprint⟩

/-- `validate_residency_header` on a mapped header; `none` accepts it. -/
def validateResidencyHeader (header : ResidencyHeader) (rankCount slotCount fingerprint : Nat) :
    Option ResidencyRejection :=
  if header.magic = List.replicate 8 0 then some .emptyFile
  else if header.magic ≠ ResidencyBitmapLayout.magic then some .badMagic
  else if header.version ≠ ResidencyBitmapLayout.version then some .unsupportedVersion
  else if header.rankCount ≠ rankCount then some .rankCountMismatch
  else if header.slotCount ≠ slotCount then some .slotCountMismatch
  else if header.fingerprint ≠ fingerprint then some .fingerprintMismatch
  else none

/-- A mapped bitmap: whose file it is and how it is mapped. -/
structure ResidencyMapping where
  root : NormalPath
  rank : Nat
  slotCount : Nat
  writable : Bool
  deriving DecidableEq, Repr

/-- `ResidencyBitmap`: mapped, or unusable. -/
abbrev ResidencyBitmap := Option ResidencyMapping

namespace ResidencyBitmap

def usable (bitmap : ResidencyBitmap) : Bool := bitmap.isSome

/-- `open_writable`: a missing or empty file is created with clear bits, a file
without a header gets one and keeps its bits, anything else must match. -/
def openWritable (media : Media) (root : NormalPath) (rankId rankCount slotCount fingerprint : Nat)
    (fault : Option Status) : Except Status ResidencyMapping × Media :=
  let header := encodeResidencyHeader rankId rankCount slotCount fingerprint
  let wanted := residencyFileBytes slotCount
  if slotCount = 0 then (.error ⟨.invalidArgument, "slot_count must be nonzero"⟩, media)
  else
    match fault with
    | some error => (.error error, media)
    | none =>
      match media.residency root rankId with
      | none =>
        (.ok ⟨root, rankId, slotCount, true⟩,
          media.setResidency root rankId ⟨wanted, header, fun _ => false⟩)
      | some file =>
        if file.size = 0 then
          (.ok ⟨root, rankId, slotCount, true⟩,
            media.setResidency root rankId ⟨wanted, header, fun _ => false⟩)
        else if file.size ≠ wanted then
          (.error ⟨.invalidArgument, "residency bitmap size mismatch"⟩, media)
        else
          match validateResidencyHeader file.header rankCount slotCount fingerprint with
          | none => (.ok ⟨root, rankId, slotCount, true⟩, media)
          | some .emptyFile =>
            (.ok ⟨root, rankId, slotCount, true⟩,
              media.setResidency root rankId { file with header })
          | some rejection =>
            (.error ⟨.invalidArgument, "residency bitmap rejected: " ++ rejection.text⟩,
              media)

/-- `open_readonly`: never creates. -/
def openReadonly (media : Media) (root : NormalPath) (rank rankCount slotCount fingerprint : Nat)
    (fault : Option Status) : Except Status ResidencyMapping :=
  if slotCount = 0 then .error ⟨.invalidArgument, "slot_count must be nonzero"⟩
  else
    match media.residency root rank with
    | none => .error ⟨.internal, "open residency bitmap (readonly)"⟩
    | some file =>
      match fault with
      | some error => .error error
      | none =>
        if file.size ≠ residencyFileBytes slotCount then
          .error ⟨.invalidArgument, "residency bitmap size mismatch"⟩
        else
          match validateResidencyHeader file.header rankCount slotCount fingerprint with
          | none => .ok ⟨root, rank, slotCount, false⟩
          | some rejection =>
            .error ⟨.invalidArgument, "residency bitmap rejected: " ++ rejection.text⟩

/-- `test`: unusable or out of range reads as absent. -/
def test (media : Media) (bitmap : ResidencyBitmap) (slot : Nat) : Bool :=
  match bitmap with
  | none => false
  | some mapping =>
    if mapping.slotCount ≤ slot then false
    else ((media.residency mapping.root mapping.rank).map fun file => file.bits slot).getD false

/-- Write one bit, where the mapping allows it. -/
def write (media : Media) (bitmap : ResidencyBitmap) (slot : Nat) (bit : Bool) : Media :=
  match bitmap with
  | none => media
  | some mapping =>
    if mapping.writable = false ∨ mapping.slotCount ≤ slot then media
    else
      match media.residency mapping.root mapping.rank with
      | none => media
      | some file =>
        media.setResidency mapping.root mapping.rank
          { file with bits := Function.update file.bits slot bit }

/-- `set`. -/
def set (media : Media) (bitmap : ResidencyBitmap) (slot : Nat) : Media :=
  write media bitmap slot true

/-- `clear`. -/
def clear (media : Media) (bitmap : ResidencyBitmap) (slot : Nat) : Media :=
  write media bitmap slot false

/-- `clear_all`. -/
def clearAll (media : Media) (bitmap : ResidencyBitmap) : Media :=
  match bitmap with
  | none => media
  | some mapping =>
    if mapping.writable = false then media
    else
      match media.residency mapping.root mapping.rank with
      | none => media
      | some file =>
        media.setResidency mapping.root mapping.rank { file with bits := fun _ => false }

end ResidencyBitmap

/-- `all_ranks_committed`: every rank's bitmap is usable and has the bit. -/
def allRanksCommitted (media : Media) (ranks : List ResidencyBitmap) (slot : Nat) : Bool :=
  if ranks = [] then false
  else ranks.all fun bitmap => bitmap.usable && ResidencyBitmap.test media bitmap slot

end Tutti
