import Tutti.Storage.CheckpointRegion

/-!
# The checkpoint codec in both directions

What the encoder writes the decoder reads back, and what the decoder accepts starts with
the encoding of what it read (`codec_roundTrip`). `decodeAt` is the decoder as it runs over
the buffer, with a cursor and with every access it makes; it computes `decodeCheckpoint`
and none of its accesses leaves the buffer (`decodeAt_safe`).
-/

namespace Tutti

open Foundation CheckpointLayout List

/-! ## Encoding what was parsed -/

/-- The bytes of a loaded number are the bytes it was loaded from. -/
theorem littleEndian_loadNat {data : Bytes} {offset width : Nat}
    (inside : offset + width ≤ data.length) :
    littleEndian width (loadNat data offset width) = loadAt data offset width := by
  have whole := littleEndian_fromLittleEndian (loadAt data offset width)
  rwa [length_loadAt inside] at whole

/-- An entry that was loaded encodes to the bytes it was loaded from. -/
theorem encodeEntry_loaded {rest : Bytes} (fixed : ¬ rest.length < entryFixedBytes)
    (fits : ¬ rest.length - entryFixedBytes < loadNat rest 0 4) :
    encodeEntry ⟨loadAt rest entryFixedBytes (loadNat rest 0 4), loadNat rest 4 8,
      loadNat rest 12 8, loadNat rest 20 8, loadNat rest 28 8⟩ =
        rest.take (entryFixedBytes + loadNat rest 0 4) := by
  have size : entryFixedBytes = 36 := rfl
  have joined : ∀ offset first second, loadAt rest offset first ++
      loadAt rest (offset + first) second = loadAt rest offset (first + second) := by
    intro offset first second
    rw [loadAt, loadAt, loadAt, take_add, drop_drop]
  dsimp only [encodeEntry]
  rw [length_loadAt (by omega), littleEndian_loadNat (by omega), littleEndian_loadNat (by omega),
    littleEndian_loadNat (by omega), littleEndian_loadNat (by omega), littleEndian_loadNat (by
    omega), size, joined 28 8, joined 20 8, joined 12 8, joined 4 8, joined 0 4, loadAt, drop_zero]
  congr 1
  omega

theorem parseEntries_prefix {count : Nat} {rest : Bytes} {entries : List CheckpointEntry}
    (parsed : parseEntries count rest = .ok entries) :
    entries.length = count ∧ entries.flatMap encodeEntry <+: rest := by
  induction count generalizing rest entries with
  | zero =>
    cases parsed
    exact ⟨rfl, nil_prefix⟩
  | succ count ih =>
    dsimp only [parseEntries] at parsed
    split_ifs at parsed with short bad
    rw [not_or] at bad
    cases later : parseEntries count (rest.drop (entryFixedBytes + loadNat rest 0 4)) with
    | error rejection =>
      rw [later] at parsed
      cases parsed
    | ok more =>
    rw [later] at parsed
    cases parsed
    obtain ⟨counted, front⟩ := ih later
    refine ⟨congrArg (· + 1) counted, ?_⟩
    rw [flatMap_cons, encodeEntry_loaded short bad.2]
    conv => rhs; rw [← take_append_drop (entryFixedBytes + loadNat rest 0 4) rest]
    exact (prefix_append_right_inj _).mpr front

theorem parseBody_prefix {body : Bytes} {entries : List CheckpointEntry}
    (parsed : parseBody body = .ok entries) : encodeBody entries <+: body := by
  dsimp only [parseBody] at parsed
  split_ifs at parsed with short
  obtain ⟨counted, front⟩ := parseEntries_prefix parsed
  have inside : 0 + 8 ≤ body.length := by
    have size : entryCountBytes = 8 := rfl
    omega
  rw [encodeBody, counted, littleEndian_loadNat inside, loadAt, drop_zero]
  conv => rhs; rw [← take_append_drop entryCountBytes body]
  exact (prefix_append_right_inj _).mpr front

/-- A checkpoint is read back whatever follows it, and an accepted buffer starts, behind
its header, with the encoding of what was read. A body is a `std::vector` of bytes. -/
theorem codec_roundTrip :
    (∀ (entries : List CheckpointEntry) (sequence : Nat) (padding : Bytes),
      (∀ entry ∈ entries, entry.Encodable) → sequence < uint64Size →
      (encodeBody entries).length < 2 ^ 63 →
      decodeCheckpoint (encodeCheckpoint entries sequence ++ padding) = .ok (sequence, entries)) ∧
    ∀ (data : Bytes) (sequence : Nat) (entries : List CheckpointEntry),
      decodeCheckpoint data = .ok (sequence, entries) →
      encodeBody entries <+: loadAt data containerHeaderBytes (loadNat data bodyBytesOffset 8) := by
  refine ⟨fun entries sequence padding encodable wide small => ?_, fun data _ _ ok => ?_⟩
  · refine decodeCheckpoint_encodeCheckpoint ?_ encodable wide padding
    have sizes : containerHeaderBytes + alignment = 8192 ∧ uint64Size = 2 ^ 64 := by decide
    omega
  · dsimp only [decodeCheckpoint] at ok
    split_ifs at ok
    cases accepted :
        parseBody (loadAt data containerHeaderBytes (loadNat data bodyBytesOffset 8)) with
    | error rejection =>
      rw [accepted] at ok
      cases ok
    | ok parsed =>
      rw [accepted] at ok
      cases ok
      exact parseBody_prefix accepted

/-- Three keys of different lengths, followed by two bytes that are not part of the
checkpoint. -/
theorem codec_roundTrip_three :
    let entries : List CheckpointEntry :=
      [⟨[1], 0, 4096, 0, 1⟩, ⟨[2, 3], 5, 4096, 2 ^ 40, 2⟩, ⟨[4, 5, 6], 1, 8192, 7, 2 ^ 64 - 1⟩]
    let data := encodeCheckpoint entries 7 ++ [8, 9]
    decodeCheckpoint data = .ok (7, entries) ∧ encodeBody entries <+:
      loadAt data containerHeaderBytes (loadNat data bodyBytesOffset 8) := by
  intro entries data
  have read : decodeCheckpoint data = .ok (7, entries) :=
    codec_roundTrip.1 entries 7 [8, 9] (by decide +kernel) (by decide) (by decide +kernel)
  exact ⟨read, codec_roundTrip.2 data 7 entries read⟩

/-! ## The accesses of the decoder -/

/-- What the decoder does with its buffer, with unsigned numbers and with memory. -/
inductive Access where
  | read (offset width : Nat)
  | subtract (left right : Nat)
  | reserve (count : Nat)

/-- The bytes are in the buffer, the difference does not wrap, and no more entries are
expected than the body has room for. -/
def Access.Safe (data : Bytes) : Access → Prop
  | .read offset width => offset + width ≤ data.length
  | .subtract left right => right ≤ left
  | .reserve count =>
    count ≤ (loadNat data bodyBytesOffset 8 - entryCountBytes) / entryFixedBytes

/-- What a part of the decoder returns, and the accesses it makes. -/
abbrev Scan (α : Type) := Except CheckpointRejection α × List Access

namespace Scan

variable {α : Type}

/-- A part of the decoder behind some accesses. -/
def after (made : List Access) (scan : Scan α) : Scan α := (scan.1, made ++ scan.2)

def reject (rejection : CheckpointRejection) : Scan α := (.error rejection, [])

end Scan

open Scan

/-- The loop of `decode_checkpoint` over the entries, with its cursor. -/
def scanEntries (data : Bytes) (bodyBytes : Nat) :
    (count cursor : Nat) → Scan (List CheckpointEntry)
  | 0, _ => (.ok [], [])
  | count + 1, cursor =>
    let start := containerHeaderBytes + cursor
    let keyLen := loadNat data start 4
    after [.subtract bodyBytes cursor] <|
      if bodyBytes - cursor < entryFixedBytes then reject .malformedBody
      else
        after [.read start 4, .read (start + 4) 8, .read (start + 12) 8, .read (start + 20) 8,
            .read (start + 28) 8, .subtract bodyBytes (cursor + entryFixedBytes)] <|
          if keyLen = 0 ∨ bodyBytes - (cursor + entryFixedBytes) < keyLen then
            reject .malformedBody
          else
            let later := scanEntries data bodyBytes count (cursor + entryFixedBytes + keyLen)
            after [.read (start + entryFixedBytes) keyLen]
              (later.1.map (⟨loadAt data (start + entryFixedBytes) keyLen,
                loadNat data (start + 4) 8, loadNat data (start + 12) 8,
                loadNat data (start + 20) 8, loadNat data (start + 28) 8⟩ :: ·), later.2)

/-- `decode_checkpoint` behind the checksum. -/
def scanBody (data : Bytes) (bodyBytes : Nat) : Scan (List CheckpointEntry) :=
  let count := loadNat data containerHeaderBytes 8
  if bodyBytes < entryCountBytes then reject .malformedBody
  else after [.read containerHeaderBytes 8, .subtract bodyBytes entryCountBytes] <|
    if (bodyBytes - entryCountBytes) / entryFixedBytes < count then reject .malformedBody
    else after [.reserve count] (scanEntries data bodyBytes count entryCountBytes)

/-- `decode_checkpoint` on the buffer. -/
def decodeAt (data : Bytes) : Scan (Nat × List CheckpointEntry) :=
  let bodyBytes := loadNat data bodyBytesOffset 8
  if data.length < containerHeaderBytes then reject .truncatedBuffer
  else after [.read magicOffset 8] <|
    if loadAt data magicOffset 8 = replicate 8 0 then reject .emptyContainer
    else if loadAt data magicOffset 8 ≠ magic then reject .badMagic
    else after [.read versionOffset 4] <|
      if loadNat data versionOffset 4 ≠ version then reject .unsupportedVersion
      else after [.read sequenceOffset 8, .read bodyBytesOffset 8, .read bodyCrc32Offset 4,
          .subtract data.length containerHeaderBytes] <|
        if data.length - containerHeaderBytes < bodyBytes then reject .truncatedBuffer
        else after [.read containerHeaderBytes bodyBytes] <|
          if (crc32c (loadAt data containerHeaderBytes bodyBytes)).toNat ≠
              loadNat data bodyCrc32Offset 4 then reject .badBodyCrc
          else
            let body := scanBody data bodyBytes
            (body.1.map ((loadNat data sequenceOffset 8, ·)), body.2)

/-- `decode_checkpoint` with its two out-parameters. -/
def decodeInto (data : Bytes) (out : Nat × List CheckpointEntry) :
    Option CheckpointRejection × Nat × List CheckpointEntry :=
  match (decodeAt data).1 with
  | .ok decoded => (none, decoded)
  | .error rejection => (some rejection, out)

/-- A part of the decoder makes safe accesses only, and has the given result. -/
structure Scans {α : Type} (data : Bytes) (scan : Scan α) (result : Except CheckpointRejection α) :
    Prop where
  safe : ∀ access ∈ scan.2, access.Safe data
  agrees : scan.1 = result

namespace Scans

variable {α : Type} {data : Bytes} {scan other : Scan α} {result : Except CheckpointRejection α}

theorem reject (rejection : CheckpointRejection) :
    Scans data (reject rejection : Scan α) (.error rejection) :=
  ⟨nofun, rfl⟩

theorem after {made : List Access} (safe : ∀ access ∈ made, access.Safe data)
    (scans : Scans data scan result) : Scans data (after made scan) result :=
  ⟨forall_mem_append.mpr ⟨safe, scans.safe⟩, scans.agrees⟩

theorem ite {condition : Prop} [Decidable condition] {rejection : CheckpointRejection}
    (scans : ¬ condition → Scans data scan result) :
    Scans data (if condition then Scan.reject rejection else scan)
      (if condition then .error rejection else result) := by
  split
  · exact reject rejection
  · exact scans ‹_›

end Scans

variable {data : Bytes}

/-- The cursor never passes the end of the body. -/
theorem scans_scanEntries {bodyBytes : Nat}
    (inside : containerHeaderBytes + bodyBytes ≤ data.length) (count : Nat) {cursor : Nat}
    (within : cursor ≤ bodyBytes) :
    Scans data (scanEntries data bodyBytes count cursor)
      (parseEntries count (loadAt data (containerHeaderBytes + cursor) (bodyBytes - cursor))) := by
  induction count generalizing cursor with
  | zero => exact ⟨nofun, rfl⟩
  | succ count ih =>
    have size : entryFixedBytes = 36 := rfl
    have number : ∀ offset width, cursor + offset + width ≤ bodyBytes →
        loadNat (loadAt data (containerHeaderBytes + cursor) (bodyBytes - cursor)) offset width =
          loadNat data (containerHeaderBytes + cursor + offset) width :=
      fun offset width fits => congrArg fromLittleEndian (loadAt_loadAt (by omega))
    dsimp only [scanEntries, parseEntries]
    rw [length_loadAt (by omega), Nat.sub_sub]
    refine .after (forall_mem_singleton.mpr within) (.ite fun enough => ?_)
    have keyLen : _ = loadNat data (containerHeaderBytes + cursor) 4 := number 0 4 (by omega)
    rw [keyLen, number 4 8 (by omega), number 12 8 (by omega), number 20 8 (by omega),
      number 28 8 (by omega)]
    refine .after ?_ (.ite fun fits => ?_)
    · simp only [forall_mem_cons, Access.Safe]
      exact ⟨by omega, by omega, by omega, by omega, by omega, by omega, nofun⟩
    · obtain ⟨safe, agrees⟩ := @ih (cursor + entryFixedBytes +
        loadNat data (containerHeaderBytes + cursor) 4) (by omega)
      refine .after (forall_mem_singleton.mpr ?_) ⟨safe, ?_⟩
      · rw [Access.Safe]
        omega
      · rw [agrees, loadAt_loadAt (by omega), drop_loadAt, Nat.sub_sub, Nat.add_assoc cursor,
          ← add_assoc containerHeaderBytes]
        cases parseEntries count _ <;> rfl

theorem scans_scanBody
    (inside : containerHeaderBytes + loadNat data bodyBytesOffset 8 ≤ data.length) :
    Scans data (scanBody data (loadNat data bodyBytesOffset 8))
      (parseBody (loadAt data containerHeaderBytes (loadNat data bodyBytesOffset 8))) := by
  have size : entryCountBytes = 8 := rfl
  dsimp only [scanBody, parseBody]
  rw [length_loadAt inside]
  refine .ite fun enough => ?_
  have counted : loadNat (loadAt data containerHeaderBytes (loadNat data bodyBytesOffset 8)) 0 8 =
      loadNat data containerHeaderBytes 8 := by
    rw [loadNat, loadAt_loadAt (by omega)]
    rfl
  rw [counted, drop_loadAt]
  refine .after ?_ (.ite fun few => .after (forall_mem_singleton.mpr (not_lt.mp few))
    (scans_scanEntries inside _ (not_lt.mp enough)))
  simp only [forall_mem_cons, Access.Safe]
  exact ⟨by omega, by omega, forall_mem_nil _⟩

/-- On every buffer the decoder stays within it and its numbers, and writes its results
only when it accepts. -/
theorem decodeAt_safe (data : Bytes) :
    (∀ access ∈ (decodeAt data).2, access.Safe data) ∧ (decodeAt data).1 = decodeCheckpoint data ∧
      ∀ out, (decodeInto data out).1 ≠ none → (decodeInto data out).2 = out := by
  have scans : Scans data (decodeAt data) (decodeCheckpoint data) := by
    have header : containerHeaderBytes = 4096 := rfl
    dsimp only [decodeAt, decodeCheckpoint]
    refine .ite fun enough => .after ?_ (.ite fun _ => .ite fun _ => .after ?_ (.ite fun _ =>
      .after ?_ (.ite fun fits => .after ?_ (.ite fun _ => ?_))))
    case refine_5 =>
      obtain ⟨safe, agrees⟩ := @scans_scanBody data (by omega)
      refine ⟨safe, ?_⟩
      rw [agrees]
      cases parseBody _ <;> rfl
    · exact forall_mem_singleton.mpr (by simp only [Access.Safe, magicOffset]; omega)
    · exact forall_mem_singleton.mpr (by simp only [Access.Safe, versionOffset]; omega)
    · simp only [forall_mem_cons, Access.Safe, sequenceOffset, bodyBytesOffset, bodyCrc32Offset]
      exact ⟨by omega, by omega, by omega, by omega, forall_mem_nil _⟩
    · exact forall_mem_singleton.mpr (by simp only [Access.Safe]; omega)
  refine ⟨scans.safe, scans.agrees, fun out rejected => ?_⟩
  unfold decodeInto at rejected ⊢
  split
  · rename_i accepted
    rw [accepted] at rejected
    exact absurd rfl rejected
  · rfl

end Tutti
