import Tutti.Foundation.Bytes

/-!
# Object headers

The header of a slot is the only record that the slot holds a valid object. It
names the object by the digest, the length and the CRC of its key, and carries
the payload size, the generation of the slot and the commit sequence. Decoding
checks every field against what is expected and rejects on any disagreement.
-/

namespace Tutti

open Foundation

/-- A key is an opaque byte string. -/
abbrev ObjectKey := Bytes

/-! ## Digests -/

/-- One entry of the CRC-32C table: eight shifts of the reflected polynomial. -/
def crc32cEntry (index : UInt32) : UInt32 :=
  (List.range 8).foldl
    (fun crc _ => if crc &&& 1 = 1 then (crc >>> 1) ^^^ 0x82F63B78 else crc >>> 1) index

def crc32cUpdate (state : UInt32) (bytes : Bytes) : UInt32 :=
  bytes.foldl
    (fun state byte => crc32cEntry ((state ^^^ byte.toUInt32) &&& 0xFF) ^^^ (state >>> 8)) state

/-- `crc32c`: the empty buffer has checksum zero. -/
def crc32c (bytes : Bytes) : UInt32 :=
  if bytes = [] then 0 else crc32cUpdate 0xFFFFFFFF bytes ^^^ 0xFFFFFFFF

/-- `object_identity`: FNV-1a followed by the SplitMix64 finaliser. -/
def objectIdentity (bytes : Bytes) : UInt64 :=
  let hash := bytes.foldl (fun hash byte => (hash ^^^ byte.toUInt64) * 0x00000100000001B3)
    0xCBF29CE484222325
  let hash := (hash ^^^ (hash >>> 30)) * 0xBF58476D1CE4E5B9
  let hash := (hash ^^^ (hash >>> 27)) * 0x94D049BB133111EB
  hash ^^^ (hash >>> 31)

/-! ## The header codec -/

namespace ObjectHeaderLayout

def headerBytes : Nat := 4096

/-- The magic is the text TUTTIOBJ. -/
def magic : Bytes := [84, 85, 84, 84, 73, 79, 66, 74]

def version : Nat := 1

def magicOffset : Nat := 0
def versionOffset : Nat := 8
def identityOffset : Nat := 16
def payloadBytesOffset : Nat := 24
def generationOffset : Nat := 32
def keyLenOffset : Nat := 40
def keyCrc32Offset : Nat := 44
def commitSeqOffset : Nat := 48
def headerCrc32Offset : Nat := 56

/-- The header checksum covers everything before its own field. -/
def crcCoveredBytes : Nat := headerCrc32Offset

end ObjectHeaderLayout

inductive HeaderRejection where
  | emptySlot
  | badMagic
  | unsupportedVersion
  | badHeaderCrc
  | identityMismatch
  | keyCrcMismatch
  | payloadBytesMismatch
  | generationMismatch
  | truncatedBuffer
  deriving DecidableEq, Repr

structure ObjectHeaderFields where
  identity : Nat
  payloadBytes : Nat
  generation : Nat
  commitSeq : Nat
  keyLen : Nat
  keyCrc32 : Nat
  deriving DecidableEq, Repr

/-- What a decoded header is checked against. -/
structure HeaderExpectation where
  key : ObjectKey
  payloadBytes : Nat
  generation : Nat
  checkGeneration : Bool

open ObjectHeaderLayout

/-- The fields in front of the header checksum, with their offsets. -/
def headerFields (key : ObjectKey) (payloadBytes generation commitSeq : Nat) :
    List (Nat × Bytes) :=
  [(magicOffset, magic), (versionOffset, littleEndian 4 version),
    (identityOffset, littleEndian 8 (objectIdentity key).toNat),
    (payloadBytesOffset, littleEndian 8 payloadBytes),
    (generationOffset, littleEndian 8 generation),
    (keyLenOffset, littleEndian 4 key.length),
    (keyCrc32Offset, littleEndian 4 (crc32c key).toNat),
    (commitSeqOffset, littleEndian 8 commitSeq)]

/-- The header before its checksum is known. -/
def unsealedHeader (key : ObjectKey) (payloadBytes generation commitSeq : Nat) : Bytes :=
  storeAll (List.replicate headerBytes 0) (headerFields key payloadBytes generation commitSeq)

/-- `encode_object_header` into a buffer of `headerBytes` bytes; an empty key or
payload is refused. -/
def encodeObjectHeader (key : ObjectKey) (payloadBytes generation commitSeq : Nat) :
    Option Bytes :=
  if key = [] ∨ payloadBytes = 0 then none
  else
    let unsealed := unsealedHeader key payloadBytes generation commitSeq
    some (storeAt unsealed headerCrc32Offset
      (littleEndian 4 (crc32c (loadAt unsealed 0 crcCoveredBytes)).toNat))

/-- The number in a field of an image. -/
def loadNat (data : Bytes) (offset width : Nat) : Nat := fromLittleEndian (loadAt data offset width)

/-- The fields of a header whose structure is valid. -/
def loadHeaderFields (data : Bytes) : ObjectHeaderFields where
  identity := loadNat data identityOffset 8
  payloadBytes := loadNat data payloadBytesOffset 8
  generation := loadNat data generationOffset 8
  commitSeq := loadNat data commitSeqOffset 8
  keyLen := loadNat data keyLenOffset 4
  keyCrc32 := loadNat data keyCrc32Offset 4

/-- `validate_structure`: never-written space is told apart from corruption, and
the checksum is checked before any content. -/
def validateStructure (data : Bytes) : Except HeaderRejection ObjectHeaderFields :=
  if data.length < headerBytes then .error .truncatedBuffer
  else if loadAt data magicOffset 8 = List.replicate 8 0 then .error .emptySlot
  else if loadAt data magicOffset 8 ≠ magic then .error .badMagic
  else if loadNat data versionOffset 4 ≠ version then .error .unsupportedVersion
  else if loadNat data headerCrc32Offset 4 ≠ (crc32c (loadAt data 0 crcCoveredBytes)).toNat then
    .error .badHeaderCrc
  else .ok (loadHeaderFields data)

/-- The comparisons of `decode_object_header` after the structure is valid. -/
def checkExpectation (expectation : HeaderExpectation) (decoded : ObjectHeaderFields) :
    Except HeaderRejection ObjectHeaderFields :=
  if decoded.identity ≠ (objectIdentity expectation.key).toNat then .error .identityMismatch
  else if decoded.keyLen ≠ expectation.key.length ∨
      decoded.keyCrc32 ≠ (crc32c expectation.key).toNat then .error .keyCrcMismatch
  else if decoded.payloadBytes ≠ expectation.payloadBytes then .error .payloadBytesMismatch
  else if expectation.checkGeneration = true ∧ decoded.generation ≠ expectation.generation then
    .error .generationMismatch
  else .ok decoded

def decodeObjectHeader (data : Bytes) (expectation : HeaderExpectation) :
    Except HeaderRejection ObjectHeaderFields :=
  if expectation.key = [] ∨ expectation.payloadBytes = 0 then .error .truncatedBuffer
  else do
    let decoded ← validateStructure data
    checkExpectation expectation decoded

/-! ## What an accepted header says -/

/-- The fields agree with what is expected of them. -/
structure HeaderExpectation.Meets (expectation : HeaderExpectation)
    (fields : ObjectHeaderFields) : Prop where
  identity : fields.identity = (objectIdentity expectation.key).toNat
  keyLen : fields.keyLen = expectation.key.length
  keyCrc32 : fields.keyCrc32 = (crc32c expectation.key).toNat
  payloadBytes : fields.payloadBytes = expectation.payloadBytes
  generation : expectation.checkGeneration = true → fields.generation = expectation.generation

variable {expectation : HeaderExpectation}

theorem checkExpectation_ok_iff {decoded fields : ObjectHeaderFields} :
    checkExpectation expectation decoded = .ok fields ↔
      decoded = fields ∧ expectation.Meets fields := by
  unfold checkExpectation
  constructor
  · intro accepted
    split at accepted
    · cases accepted
    rename_i identity
    split at accepted
    · cases accepted
    rename_i key
    split at accepted
    · cases accepted
    rename_i payload
    split at accepted
    · cases accepted
    rename_i generation
    cases accepted
    push Not at key
    refine ⟨rfl, of_not_not identity, key.1, key.2, of_not_not payload, fun checked => ?_⟩
    by_contra differs
    exact generation ⟨checked, differs⟩
  · rintro ⟨rfl, meets⟩
    simp only [meets.identity, meets.keyLen, meets.keyCrc32, meets.payloadBytes, ne_eq,
      not_true_eq_false, or_self, ↓reduceIte]
    rw [if_neg]
    rintro ⟨checked, differs⟩
    exact differs (meets.generation checked)

/-- A header is accepted when its structure is valid and every field agrees. -/
theorem decodeObjectHeader_ok_iff {data : Bytes} {fields : ObjectHeaderFields} :
    decodeObjectHeader data expectation = .ok fields ↔
      expectation.key ≠ [] ∧ expectation.payloadBytes ≠ 0 ∧ validateStructure data = .ok fields ∧
        expectation.Meets fields := by
  unfold decodeObjectHeader
  by_cases unusable : expectation.key = [] ∨ expectation.payloadBytes = 0
  · rw [if_pos unusable]
    constructor
    · intro accepted
      cases accepted
    rintro ⟨key, payload, -⟩
    rcases unusable with empty | zero
    · exact (key empty).elim
    · exact (payload zero).elim
  · rw [if_neg unusable]
    push Not at unusable
    cases validated : validateStructure data with
    | error rejection =>
      simp [bind, Except.bind]
    | ok decoded =>
      simp only [bind, Except.bind, checkExpectation_ok_iff, Except.ok.injEq]
      exact ⟨fun both => ⟨unusable.1, unusable.2, both⟩, fun all => all.2.2⟩

/-! ## Round trip -/

section RoundTrip

variable (key : ObjectKey) (payloadBytes generation commitSeq : Nat)

theorem headerFields_fit : ∀ field ∈ headerFields key payloadBytes generation commitSeq,
    field.1 + field.2.length ≤ crcCoveredBytes := by
  simp [headerFields, magicOffset, versionOffset, identityOffset, payloadBytesOffset,
    generationOffset, keyLenOffset, keyCrc32Offset, commitSeqOffset, headerCrc32Offset, magic,
    crcCoveredBytes]

theorem headerFields_apart : (headerFields key payloadBytes generation commitSeq).Pairwise
    fun first second =>
      first.1 + first.2.length ≤ second.1 ∨ second.1 + second.2.length ≤ first.1 := by
  simp [headerFields, magicOffset, versionOffset, identityOffset, payloadBytesOffset,
    generationOffset, keyLenOffset, keyCrc32Offset, commitSeqOffset, magic]

theorem headerFields_fit_header : ∀ field ∈ headerFields key payloadBytes generation commitSeq,
    field.1 + field.2.length ≤ (List.replicate headerBytes (0 : UInt8)).length := by
  intro field member
  have covered := headerFields_fit key payloadBytes generation commitSeq field member
  rw [List.length_replicate]
  exact covered.trans (by decide)

theorem length_unsealedHeader :
    (unsealedHeader key payloadBytes generation commitSeq).length = headerBytes := by
  rw [unsealedHeader, length_storeAll (headerFields_fit_header key payloadBytes generation
    commitSeq), List.length_replicate]

variable {key payloadBytes generation commitSeq} {data : Bytes}

section

variable (encoded : encodeObjectHeader key payloadBytes generation commitSeq = some data)
include encoded

/-- Every field in front of the checksum is found where it was written. -/
theorem loadAt_encodeObjectHeader {offset : Nat} {field : Bytes}
    (member : (offset, field) ∈ headerFields key payloadBytes generation commitSeq) {width : Nat}
    (wide : field.length = width) : loadAt data offset width = field := by
  unfold encodeObjectHeader at encoded
  split at encoded
  · cases encoded
  cases encoded
  have covered := headerFields_fit key payloadBytes generation commitSeq _ member
  have unsealed := length_unsealedHeader key payloadBytes generation commitSeq
  rw [loadAt_storeAt_of_disjoint, unsealedHeader]
  · exact loadAt_storeAll (headerFields_fit_header key payloadBytes generation commitSeq)
      (headerFields_apart key payloadBytes generation commitSeq) member wide
  · rw [unsealed, length_littleEndian]
    decide
  left
  rw [← wide]
  exact covered

theorem loadNat_encodeObjectHeader {offset width value : Nat}
    (member : (offset, littleEndian width value) ∈
      headerFields key payloadBytes generation commitSeq) (small : value < 256 ^ width) :
    loadNat data offset width = value := by
  rw [loadNat, loadAt_encodeObjectHeader encoded member (length_littleEndian width value),
    fromLittleEndian_littleEndian_of_lt small]

theorem validateStructure_encodeObjectHeader :
    validateStructure data = .ok (loadHeaderFields data) := by
  have magicRead : loadAt data magicOffset 8 = magic :=
    loadAt_encodeObjectHeader encoded (by simp [headerFields]) rfl
  have versionRead : loadAt data versionOffset 4 = littleEndian 4 version :=
    loadAt_encodeObjectHeader encoded (by simp [headerFields]) (length_littleEndian ..)
  unfold encodeObjectHeader at encoded
  split at encoded
  · cases encoded
  cases encoded
  have unsealed := length_unsealedHeader key payloadBytes generation commitSeq
  have fits : headerCrc32Offset + (littleEndian 4 (crc32c (loadAt
      (unsealedHeader key payloadBytes generation commitSeq) 0 crcCoveredBytes)).toNat).length ≤
      (unsealedHeader key payloadBytes generation commitSeq).length := by
    rw [unsealed, length_littleEndian]
    decide
  have crcRead := loadAt_storeAt_self fits (length_littleEndian 4 _)
  have covered : loadAt _ 0 crcCoveredBytes = _ := loadAt_storeAt_of_disjoint fits (.inl le_rfl)
  have small : (crc32c (loadAt (unsealedHeader key payloadBytes generation commitSeq) 0
      crcCoveredBytes)).toNat < 256 ^ 4 := UInt32.toNat_lt _
  simp only [validateStructure, length_storeAt fits, unsealed, lt_self_iff_false, ↓reduceIte,
    magicRead, loadNat, versionRead, crcRead, covered,
    fromLittleEndian_littleEndian_of_lt small, ne_eq, not_true_eq_false]
  rfl

/-- A header decodes, against the expectation it was written for, to the values
it was written with. -/
theorem decodeObjectHeader_encodeObjectHeader (keySmall : key.length < 2 ^ 32)
    (payloadSmall : payloadBytes < uint64Size) (generationSmall : generation < uint64Size)
    (commitSeqSmall : commitSeq < uint64Size) (checkGeneration : Bool) :
    decodeObjectHeader data ⟨key, payloadBytes, generation, checkGeneration⟩ =
      .ok ⟨(objectIdentity key).toNat, payloadBytes, generation, commitSeq, key.length,
        (crc32c key).toNat⟩ := by
  have usable : key ≠ [] ∧ payloadBytes ≠ 0 := by
    unfold encodeObjectHeader at encoded
    split at encoded
    · cases encoded
    rename_i usable
    push Not at usable
    exact usable
  have fields : loadHeaderFields data = ⟨(objectIdentity key).toNat, payloadBytes, generation,
      commitSeq, key.length, (crc32c key).toNat⟩ := by
    unfold loadHeaderFields
    congr 1
    all_goals refine loadNat_encodeObjectHeader encoded (by simp [headerFields]) ?_
    · exact UInt64.toNat_lt _
    · exact payloadSmall
    · exact generationSmall
    · exact commitSeqSmall
    · exact keySmall
    · exact UInt32.toNat_lt _
  have validated := validateStructure_encodeObjectHeader encoded
  rw [fields] at validated
  exact decodeObjectHeader_ok_iff.mpr ⟨usable.1, usable.2, validated, rfl, rfl, rfl, rfl,
    fun _ => rfl⟩

end

end RoundTrip

end Tutti
