import Tutti.Storage.ObjectHeader

/-!
# The checkpoint region

A checkpoint lists which key lives in which slot. It is written alternately to
two containers, each with a sequence number and a CRC over its body; reading
picks the highest sequence whose container decodes. Decoding re-checks every
length, so a container whose bytes are torn or inconsistent is a rejection.
-/

namespace Tutti

open Foundation List

namespace CheckpointLayout

/-- The magic is the text TUTTIIDX. -/
def magic : Bytes := [84, 85, 84, 84, 73, 73, 68, 88]

def version : Nat := 1
def containerCount : Nat := 2
def containerHeaderBytes : Nat := 4096

def magicOffset : Nat := 0
def versionOffset : Nat := 8
def sequenceOffset : Nat := 12
def bodyBytesOffset : Nat := 20
def bodyCrc32Offset : Nat := 28

end CheckpointLayout

structure CheckpointEntry where
  key : ObjectKey
  slot : Nat
  payloadBytes : Nat
  generation : Nat
  commitSeq : Nat
  deriving DecidableEq, Repr

inductive CheckpointRejection where
  | emptyContainer
  | badMagic
  | unsupportedVersion
  | truncatedBuffer
  | badBodyCrc
  | malformedBody
  deriving DecidableEq, Repr

/-- Alignment of O_DIRECT transfers. -/
def alignment : Nat := 4096

/-- The bytes of an entry in front of its key. -/
def entryFixedBytes : Nat := 4 + 8 + 8 + 8 + 8

def entryCountBytes : Nat := 8

/-- `round_up`, in 64-bit arithmetic. -/
def roundUp (value multiple : Nat) : Nat :=
  if multiple = 0 then value else (value + multiple - 1) % uint64Size / multiple * multiple

/-! ## Encoding -/

def encodeEntry (entry : CheckpointEntry) : Bytes :=
  littleEndian 4 entry.key.length ++ (littleEndian 8 entry.slot ++
    (littleEndian 8 entry.payloadBytes ++ (littleEndian 8 entry.generation ++
      (littleEndian 8 entry.commitSeq ++ entry.key))))

def encodeBody (entries : List CheckpointEntry) : Bytes :=
  littleEndian 8 entries.length ++ entries.flatMap encodeEntry

/-- The fields of a container, with their offsets. -/
def containerFields (body : Bytes) (sequence : Nat) : List (Nat × Bytes) :=
  [(CheckpointLayout.magicOffset, CheckpointLayout.magic),
    (CheckpointLayout.versionOffset, littleEndian 4 CheckpointLayout.version),
    (CheckpointLayout.sequenceOffset, littleEndian 8 sequence),
    (CheckpointLayout.bodyBytesOffset, littleEndian 8 body.length),
    (CheckpointLayout.bodyCrc32Offset, littleEndian 4 (crc32c body).toNat),
    (CheckpointLayout.containerHeaderBytes, body)]

def encodeCheckpoint (entries : List CheckpointEntry) (sequence : Nat) : Bytes :=
  let body := encodeBody entries
  let total := roundUp (CheckpointLayout.containerHeaderBytes + body.length) alignment
  storeAll (replicate total 0) (containerFields body sequence)

/-! ## Decoding -/

/-- The loop of the body parse: `count` entries from the front of the bytes that
are left. -/
def parseEntries : (count : Nat) → (rest : Bytes) →
    Except CheckpointRejection (List CheckpointEntry)
  | 0, _ => .ok []
  | count + 1, rest =>
    if rest.length < entryFixedBytes then .error .malformedBody
    else
      let keyLen := loadNat rest 0 4
      if keyLen = 0 ∨ rest.length - entryFixedBytes < keyLen then .error .malformedBody
      else do
        let parsed ← parseEntries count (rest.drop (entryFixedBytes + keyLen))
        .ok (⟨loadAt rest entryFixedBytes keyLen, loadNat rest 4 8, loadNat rest 12 8,
          loadNat rest 20 8, loadNat rest 28 8⟩ :: parsed)

/-- The body parse: an entry count that cannot fit is rejected first. -/
def parseBody (body : Bytes) : Except CheckpointRejection (List CheckpointEntry) :=
  if body.length < entryCountBytes then .error .malformedBody
  else
    let count := loadNat body 0 8
    if (body.length - entryCountBytes) / entryFixedBytes < count then .error .malformedBody
    else parseEntries count (body.drop entryCountBytes)

def decodeCheckpoint (data : Bytes) :
    Except CheckpointRejection (Nat × List CheckpointEntry) :=
  if data.length < CheckpointLayout.containerHeaderBytes then .error .truncatedBuffer
  else if loadAt data CheckpointLayout.magicOffset 8 = replicate 8 0 then
    .error .emptyContainer
  else if loadAt data CheckpointLayout.magicOffset 8 ≠ CheckpointLayout.magic then
    .error .badMagic
  else if loadNat data CheckpointLayout.versionOffset 4 ≠ CheckpointLayout.version then
    .error .unsupportedVersion
  else
    let sequence := loadNat data CheckpointLayout.sequenceOffset 8
    let bodyBytes := loadNat data CheckpointLayout.bodyBytesOffset 8
    if data.length - CheckpointLayout.containerHeaderBytes < bodyBytes then
      .error .truncatedBuffer
    else
      let body := loadAt data CheckpointLayout.containerHeaderBytes bodyBytes
      if (crc32c body).toNat ≠ loadNat data CheckpointLayout.bodyCrc32Offset 4 then
        .error .badBodyCrc
      else do
        let entries ← parseBody body
        .ok (sequence, entries)

/-! ## Containers -/

/-- `checkpoint_container_bytes`, in 64-bit arithmetic. -/
def checkpointContainerBytes (maxEntries maxKeyBytes : Nat) : Nat :=
  let body := (entryCountBytes + maxEntries * (entryFixedBytes + maxKeyBytes)) % uint64Size
  roundUp ((CheckpointLayout.containerHeaderBytes + body) % uint64Size) alignment

/-- `checkpoint_container_offset`, in 64-bit arithmetic. -/
def checkpointContainerOffset (index containerBytes : Nat) : Nat :=
  index * containerBytes % uint64Size

/-- Which container to write next: an empty one, else the oldest. -/
def nextCheckpointContainer (sequences : List Nat) : Nat :=
  match sequences.findIdx? (· = 0) with
  | some index => index
  | none =>
    (range sequences.length).foldl
      (fun oldest index =>
        if sequences.getD index 0 < sequences.getD oldest 0 then index else oldest) 0

/-- Which container to read: the highest nonzero sequence. -/
def selectCheckpointContainer (sequences : List Nat) : Option Nat :=
  (range sequences.length).foldl
    (fun best index =>
      if sequences.getD index 0 = 0 then best
      else
        match best with
        | none => some index
        | some chosen =>
          if sequences.getD chosen 0 < sequences.getD index 0 then some index else some chosen)
    none

theorem nextCheckpointContainer_pair (first second : Nat) :
    nextCheckpointContainer [first, second] =
      if first = 0 then 0 else if second = 0 then 1 else if second < first then 1 else 0 := by
  by_cases firstEmpty : first = 0
  · simp [nextCheckpointContainer, findIdx?_cons, firstEmpty]
  by_cases secondEmpty : second = 0
  · simp [nextCheckpointContainer, findIdx?_cons, firstEmpty, secondEmpty]
  · simp [nextCheckpointContainer, findIdx?_cons, firstEmpty, secondEmpty, range_succ]

theorem selectCheckpointContainer_pair (first second : Nat) :
    selectCheckpointContainer [first, second] =
      if second = 0 then (if first = 0 then none else some 0)
      else if first < second then some 1 else some 0 := by
  by_cases firstEmpty : first = 0
  · by_cases secondEmpty : second = 0 <;>
      simp [selectCheckpointContainer, firstEmpty, secondEmpty, range_succ, pos_iff_ne_zero]
  · by_cases secondEmpty : second = 0 <;>
      simp [selectCheckpointContainer, firstEmpty, secondEmpty, range_succ]

/-! ## Round trip -/

/-- The entries whose encoding loses nothing: a nonempty key with a 32-bit length
and 64-bit numbers. -/
structure CheckpointEntry.Encodable (entry : CheckpointEntry) : Prop where
  key_ne : entry.key ≠ []
  key_lt : entry.key.length < 2 ^ 32
  slot_lt : entry.slot < uint64Size
  payloadBytes_lt : entry.payloadBytes < uint64Size
  generation_lt : entry.generation < uint64Size
  commitSeq_lt : entry.commitSeq < uint64Size

instance (entry : CheckpointEntry) : Decidable entry.Encodable :=
  decidable_of_iff (entry.key ≠ [] ∧ entry.key.length < 2 ^ 32 ∧ entry.slot < uint64Size ∧
      entry.payloadBytes < uint64Size ∧ entry.generation < uint64Size ∧
      entry.commitSeq < uint64Size)
    ⟨fun ⟨key, short, slot, payload, generation, sequence⟩ =>
      ⟨key, short, slot, payload, generation, sequence⟩,
      fun encodable => ⟨encodable.key_ne, encodable.key_lt, encodable.slot_lt,
        encodable.payloadBytes_lt, encodable.generation_lt, encodable.commitSeq_lt⟩⟩

theorem length_encodeEntry (entry : CheckpointEntry) :
    (encodeEntry entry).length = entryFixedBytes + entry.key.length := by
  simp only [encodeEntry, length_append, length_littleEndian, entryFixedBytes]
  omega

/-- Every field of an encoded entry is found at its place. -/
theorem loadNat_encodeEntry {entry : CheckpointEntry} (encodable : entry.Encodable) (more : Bytes) :
    loadNat (encodeEntry entry ++ more) 0 4 = entry.key.length ∧
      loadNat (encodeEntry entry ++ more) 4 8 = entry.slot ∧
      loadNat (encodeEntry entry ++ more) 12 8 = entry.payloadBytes ∧
      loadNat (encodeEntry entry ++ more) 20 8 = entry.generation ∧
      loadNat (encodeEntry entry ++ more) 28 8 = entry.commitSeq := by
  simp (disch := simp) only [loadNat, encodeEntry, append_assoc, loadAt_append_right,
    length_littleEndian, Nat.reduceSub, loadAt_append_left]
  exact ⟨fromLittleEndian_littleEndian_of_lt encodable.key_lt,
    fromLittleEndian_littleEndian_uint64 encodable.slot_lt,
    fromLittleEndian_littleEndian_uint64 encodable.payloadBytes_lt,
    fromLittleEndian_littleEndian_uint64 encodable.generation_lt,
    fromLittleEndian_littleEndian_uint64 encodable.commitSeq_lt⟩

/-- The key of an encoded entry is found behind its fixed fields. -/
theorem loadAt_encodeEntry_key (entry : CheckpointEntry) (more : Bytes) :
    loadAt (encodeEntry entry ++ more) entryFixedBytes entry.key.length = entry.key := by
  simp (disch := simp) only [encodeEntry, entryFixedBytes, append_assoc, loadAt_append_right,
    length_littleEndian, Nat.reduceAdd, Nat.reduceSub, loadAt_append_left]

variable {entries : List CheckpointEntry}

/-- The parse loop reads back what was encoded and stops there. -/
theorem parseEntries_flatMap (encodable : ∀ entry ∈ entries, entry.Encodable) (rest : Bytes) :
    parseEntries entries.length (entries.flatMap encodeEntry ++ rest) = .ok entries := by
  induction entries with
  | nil => rfl
  | cons entry entries ih =>
    have here := encodable entry (.head _)
    have tail := ih fun other member => encodable other (mem_cons_of_mem entry member)
    rw [flatMap_cons, append_assoc, length_cons]
    generalize entries.flatMap encodeEntry ++ rest = others at tail ⊢
    obtain ⟨keyLen, slot, payload, generation, commitSeq⟩ := loadNat_encodeEntry here others
    have key := loadAt_encodeEntry_key entry others
    have long : (encodeEntry entry ++ others).length =
        entryFixedBytes + entry.key.length + others.length := by
      rw [length_append, length_encodeEntry]
    have more : (encodeEntry entry ++ others).drop (entryFixedBytes + entry.key.length) =
        others := by
      rw [← length_encodeEntry, drop_append_length]
    have enough : ¬ (encodeEntry entry ++ others).length < entryFixedBytes := by omega
    have keyFits : ¬ (entry.key.length = 0 ∨
        (encodeEntry entry ++ others).length - entryFixedBytes < entry.key.length) := by
      have keyPos : 0 < entry.key.length := length_pos_iff.mpr here.key_ne
      omega
    rw [parseEntries, if_neg enough]
    simp only [keyLen, slot, payload, generation, commitSeq, key, more, tail, keyFits, ↓reduceIte]
    rfl

theorem le_length_flatMap_encodeEntry (entries : List CheckpointEntry) :
    entries.length * entryFixedBytes ≤ (entries.flatMap encodeEntry).length := by
  induction entries with
  | nil => exact le_refl 0
  | cons entry entries ih =>
    rw [flatMap_cons, length_append, length_encodeEntry, length_cons, add_mul, one_mul]
    omega

theorem parseBody_encodeBody (encodable : ∀ entry ∈ entries, entry.Encodable)
    (few : entries.length < uint64Size) :
    parseBody (encodeBody entries) = .ok entries := by
  have count : loadNat (encodeBody entries) 0 8 = entries.length := by
    rw [loadNat, encodeBody, loadAt_append_left (length_littleEndian 8 _),
      fromLittleEndian_littleEndian_uint64 few]
  have long : (encodeBody entries).length =
      entryCountBytes + (entries.flatMap encodeEntry).length := by
    rw [encodeBody, length_append, length_littleEndian]
    rfl
  have stream : (encodeBody entries).drop entryCountBytes = entries.flatMap encodeEntry :=
    drop_left' (length_littleEndian 8 _)
  have fits := le_length_flatMap_encodeEntry entries
  have room : ¬ ((encodeBody entries).length - entryCountBytes) / entryFixedBytes <
      entries.length := by
    rw [Nat.not_lt, Nat.le_div_iff_mul_le (by decide), long]
    omega
  have parsed := parseEntries_flatMap encodable []
  rw [append_nil] at parsed
  rw [parseBody, if_neg (by omega)]
  simp [count, room, stream, parsed]

theorem le_roundUp {value : Nat} (small : value + alignment < uint64Size) :
    value ≤ roundUp value alignment := by
  have positive : alignment ≠ 0 := by decide
  have rounded : value + alignment - 1 < uint64Size := by omega
  rw [roundUp, if_neg positive, Nat.mod_eq_of_lt rounded]
  have split := Nat.div_add_mod (value + alignment - 1) alignment
  have small := Nat.mod_lt (value + alignment - 1) (pos_of_ne_zero positive)
  rw [mul_comm] at split
  omega

section Container

open CheckpointLayout

variable {entries : List CheckpointEntry} {sequence : Nat}

theorem containerFields_apart (body : Bytes) (sequence : Nat) :
    (containerFields body sequence).Pairwise fun first second =>
      first.1 + first.2.length ≤ second.1 ∨ second.1 + second.2.length ≤ first.1 := by
  simp [containerFields, magicOffset, versionOffset, sequenceOffset, bodyBytesOffset,
    bodyCrc32Offset, containerHeaderBytes, magic]

variable (small : containerHeaderBytes + (encodeBody entries).length + alignment < uint64Size)
include small

theorem containerFields_fit :
    ∀ field ∈ containerFields (encodeBody entries) sequence, field.1 + field.2.length ≤
      (replicate (roundUp (containerHeaderBytes + (encodeBody entries).length) alignment)
        (0 : UInt8)).length := by
  have room := le_roundUp small
  rw [length_replicate]
  have header : containerHeaderBytes = 4096 := rfl
  simp only [containerFields, mem_cons, not_mem_nil, or_false, forall_eq_or_imp,
    forall_eq, length_littleEndian, magicOffset, versionOffset, sequenceOffset, bodyBytesOffset,
    bodyCrc32Offset, magic, length_cons, length_nil]
  omega

theorem length_encodeCheckpoint :
    (encodeCheckpoint entries sequence).length =
      roundUp (containerHeaderBytes + (encodeBody entries).length) alignment := by
  rw [encodeCheckpoint, length_storeAll (containerFields_fit small), length_replicate]

/-- A padded checkpoint decodes to the sequence and the entries it was written
with. -/
theorem decodeCheckpoint_encodeCheckpoint (encodable : ∀ entry ∈ entries, entry.Encodable)
    (sequenceSmall : sequence < uint64Size) (padding : Bytes) :
    decodeCheckpoint (encodeCheckpoint entries sequence ++ padding) = .ok (sequence, entries) := by
  have room := le_roundUp small
  have long : (encodeCheckpoint entries sequence).length = _ := length_encodeCheckpoint small
  have body : (encodeBody entries).length < uint64Size := by omega
  have few : entries.length < uint64Size := by
    have dense := le_length_flatMap_encodeEntry entries
    have whole : (encodeBody entries).length = 8 + (entries.flatMap encodeEntry).length := by
      rw [encodeBody, length_append, length_littleEndian]
    have fixed : entryFixedBytes = 36 := rfl
    rw [fixed] at dense
    omega
  set data := encodeCheckpoint entries sequence ++ padding with data_def
  have read : ∀ {offset field width}, (offset, field) ∈
      containerFields (encodeBody entries) sequence → field.length = width →
      loadAt data offset width = field := by
    intro offset field width member wide
    have fits := containerFields_fit small _ member
    rw [length_replicate, ← long] at fits
    subst wide
    rw [data_def, loadAt_append_inside fits]
    exact loadAt_storeAll (containerFields_fit small) (containerFields_apart _ _) member rfl
  have readNat : ∀ {offset width value}, (offset, littleEndian width value) ∈
      containerFields (encodeBody entries) sequence → value < 256 ^ width →
      loadNat data offset width = value := by
    intro offset width value member bound
    rw [loadNat, read member (length_littleEndian _ _), fromLittleEndian_littleEndian_of_lt bound]
  have magicRead : loadAt data magicOffset 8 = magic := read (by simp [containerFields]) rfl
  have versionRead : loadNat data versionOffset 4 = version :=
    readNat (by simp [containerFields]) (by decide)
  have sequenceRead : loadNat data sequenceOffset 8 = sequence :=
    readNat (by simp [containerFields]) sequenceSmall
  have bodyBytesRead : loadNat data bodyBytesOffset 8 = (encodeBody entries).length :=
    readNat (by simp [containerFields]) body
  have crcRead : loadNat data bodyCrc32Offset 4 = (crc32c (encodeBody entries)).toNat :=
    readNat (by simp [containerFields]) (UInt32.toNat_lt _)
  have bodyRead : loadAt data containerHeaderBytes (encodeBody entries).length =
    encodeBody entries := read (by simp [containerFields]) rfl
  have whole : data.length = (encodeCheckpoint entries sequence).length + padding.length :=
    length_append
  have enough : ¬ data.length < containerHeaderBytes := by omega
  have fits : ¬ data.length - containerHeaderBytes < (encodeBody entries).length := by omega
  have written : magic ≠ replicate 8 0 := by decide
  simp only [decodeCheckpoint, enough, magicRead, written, versionRead, sequenceRead,
    bodyBytesRead, crcRead, bodyRead, fits, parseBody_encodeBody encodable few, ne_eq,
    not_true_eq_false, ↓reduceIte]
  rfl

end Container

end Tutti
