import Mathlib.Data.Finset.Card

/-!
# Blocks, chunks and load spans

vLLM allocates the KV cache in blocks of `blockSize` tokens, and chunks are whole
numbers of blocks. Token position `p` lies in block `p / blockSize` of its
request's block table and in chunk `p / chunkTokens`.
-/

namespace Tutti

open List

/-- `cdiv`: division rounded up. -/
def cdiv (dividend divisor : Nat) : Nat := (dividend + divisor - 1) / divisor

theorem cdiv_mul_of_dvd {dividend divisor : Nat} (positive : 0 < divisor)
    (aligned : divisor ∣ dividend) : cdiv dividend divisor = dividend / divisor := by
  obtain ⟨quotient, rfl⟩ := aligned
  rw [cdiv, Nat.mul_div_cancel_left _ positive, Nat.add_sub_assoc positive,
    Nat.mul_add_div positive, Nat.div_eq_of_lt (Nat.sub_lt positive Nat.one_pos), Nat.add_zero]

theorem le_cdiv_mul (dividend : Nat) {divisor : Nat} (positive : 0 < divisor) :
    dividend ≤ cdiv dividend divisor * divisor := by
  have quotient := Nat.div_add_mod (dividend + divisor - 1) divisor
  have remainder := Nat.mod_lt (dividend + divisor - 1) positive
  rw [cdiv, Nat.mul_comm]
  omega

/-- The block ids of a request as vLLM hands them over: one list, or one list for
each cache group. -/
inductive BlockIds where
  | flat (ids : List Nat)
  | grouped (groups : List (List Nat))
deriving DecidableEq, Repr

/-- `flatten_blocks`: the blocks of the first group. -/
def flattenBlocks : BlockIds → List Nat
  | .flat ids => ids
  | .grouped [] => []
  | .grouped (group :: _) => group

/-- The block and chunk sizes of a deployment. The worker rejects chunks that are
not whole numbers of blocks. -/
structure ChunkGeometry where
  blockSize : Nat
  chunkTokens : Nat
  blockSize_pos : 0 < blockSize
  chunkTokens_pos : 0 < chunkTokens
  aligned : blockSize ∣ chunkTokens

namespace ChunkGeometry

/-- Blocks of two tokens and chunks of four. -/
def small : ChunkGeometry := ⟨2, 4, by decide, by decide, by decide⟩

variable (geometry : ChunkGeometry)

/-- The number of blocks of a chunk, rounded up as in the source. -/
def blocksPerChunk : Nat := cdiv geometry.chunkTokens geometry.blockSize

theorem blocksPerChunk_mul : geometry.blocksPerChunk * geometry.blockSize =
    geometry.chunkTokens := by
  rw [blocksPerChunk, cdiv_mul_of_dvd geometry.blockSize_pos geometry.aligned,
    Nat.div_mul_cancel geometry.aligned]

theorem blocksPerChunk_pos : 0 < geometry.blocksPerChunk := by
  have product := geometry.blocksPerChunk_mul
  have positive := geometry.chunkTokens_pos
  rcases Nat.eq_zero_or_pos geometry.blocksPerChunk with none | some
  · rw [none] at product
    omega
  · exact some

/-- The chunk of a position is the chunk of its block. -/
theorem div_blockSize_div (position : Nat) :
    position / geometry.blockSize / geometry.blocksPerChunk = position / geometry.chunkTokens := by
  rw [Nat.div_div_eq_div_mul, Nat.mul_comm, geometry.blocksPerChunk_mul]

/-- `_load_chunk_span`: the first complete chunk of an interval and the number of
complete chunks in it. -/
def loadChunkSpan (startToken tokenCount : Nat) : Nat × Nat :=
  if tokenCount = 0 then (0, 0)
  else
    let first := cdiv startToken geometry.chunkTokens
    let last := (startToken + tokenCount) / geometry.chunkTokens
    (first, last - first)

/-- `_chunk_block_tables`: the block tables of the first `count` chunks. -/
def chunkBlockTables (blockIds : List Nat) (count : Nat) : List (List Nat) :=
  (range count).map fun chunk =>
    (blockIds.drop (chunk * geometry.blocksPerChunk)).take geometry.blocksPerChunk

/-- The block tables of `count` chunks from `first` on. -/
def spanBlockTables (blockIds : List Nat) (first count : Nat) : List (List Nat) :=
  (geometry.chunkBlockTables blockIds (first + count)).drop first

/-- The worker's table for a chunk within the allocated blocks has the chunk's full
size and holds the block of each of its positions. -/
theorem chunkBlockTables_exact {blockIds : List Nat} {count chunk : Nat} (inside : chunk < count)
    (allocated : (chunk + 1) * geometry.chunkTokens ≤ blockIds.length * geometry.blockSize) :
    ∃ table, (geometry.chunkBlockTables blockIds count)[chunk]? = some table ∧
      table.length = geometry.blocksPerChunk ∧
      ∀ position, position / geometry.chunkTokens = chunk →
        ∃ block, blockIds[position / geometry.blockSize]? = some block ∧
          table[position / geometry.blockSize % geometry.blocksPerChunk]? = some block := by
  have enough : (chunk + 1) * geometry.blocksPerChunk ≤ blockIds.length := by
    apply Nat.le_of_mul_le_mul_right _ geometry.blockSize_pos
    rwa [Nat.mul_assoc, geometry.blocksPerChunk_mul]
  rw [Nat.add_mul] at enough
  refine ⟨(blockIds.drop (chunk * geometry.blocksPerChunk)).take geometry.blocksPerChunk,
    ?_, ?_, ?_⟩
  · rw [chunkBlockTables, getElem?_map, getElem?_range inside, Option.map_some]
  · rw [length_take, length_drop]
    omega
  rintro position rfl
  rw [← geometry.div_blockSize_div] at enough ⊢
  have remainder := Nat.mod_lt (position / geometry.blockSize) geometry.blocksPerChunk_pos
  have place := Nat.div_add_mod' (position / geometry.blockSize) geometry.blocksPerChunk
  have bound : position / geometry.blockSize < blockIds.length := by omega
  refine ⟨blockIds[position / geometry.blockSize], getElem?_eq_getElem bound, ?_⟩
  rw [getElem?_take, if_pos remainder, getElem?_drop, place]
  exact getElem?_eq_getElem bound

/-- The blocks of a chunk are the blocks of its positions. -/
theorem mem_chunkTable_iff {blockIds : List Nat} {chunk block : Nat} :
    block ∈ (blockIds.drop (chunk * geometry.blocksPerChunk)).take geometry.blocksPerChunk ↔
      ∃ position, position / geometry.chunkTokens = chunk ∧
        blockIds[position / geometry.blockSize]? = some block := by
  constructor
  · intro member
    obtain ⟨offset, found⟩ := mem_iff_getElem?.mp member
    rw [getElem?_take] at found
    split at found
    · rename_i inside
      rw [getElem?_drop] at found
      refine ⟨(chunk * geometry.blocksPerChunk + offset) * geometry.blockSize, ?_, ?_⟩
      · rw [← geometry.div_blockSize_div, Nat.mul_div_cancel _ geometry.blockSize_pos, Nat.mul_comm
          chunk, Nat.mul_add_div geometry.blocksPerChunk_pos, Nat.div_eq_of_lt inside, Nat.add_zero]
      · rwa [Nat.mul_div_cancel _ geometry.blockSize_pos]
    · cases found
  · rintro ⟨position, rfl, found⟩
    rw [← geometry.div_blockSize_div]
    refine mem_iff_getElem?.mpr ⟨position / geometry.blockSize % geometry.blocksPerChunk, ?_⟩
    rw [getElem?_take, if_pos (Nat.mod_lt _ geometry.blocksPerChunk_pos), getElem?_drop,
      Nat.div_add_mod']
    exact found

/-! ## The interval and its chunks -/

/-- All positions of the interval lie in the complete chunks of its span. -/
def Covers (start count : Nat) : Prop :=
  ∀ position, start ≤ position → position < start + count →
    (geometry.loadChunkSpan start count).1 ≤ position / geometry.chunkTokens ∧
      position / geometry.chunkTokens <
        (geometry.loadChunkSpan start count).1 + (geometry.loadChunkSpan start count).2

section

variable {count : Nat} (some : 0 < count)
include some

variable {start : Nat}

theorem loadChunkSpan_of_pos :
    geometry.loadChunkSpan start count =
      (cdiv start geometry.chunkTokens,
        (start + count) / geometry.chunkTokens - cdiv start geometry.chunkTokens) :=
  if_neg some.ne'

theorem covers_of_aligned (begins : geometry.chunkTokens ∣ start)
    (ends : geometry.chunkTokens ∣ count) :
    geometry.Covers start count := by
  intro position lower upper
  have positive := geometry.chunkTokens_pos
  obtain ⟨firstChunk, rfl⟩ := begins
  obtain ⟨chunks, rfl⟩ := ends
  rw [geometry.loadChunkSpan_of_pos some, cdiv_mul_of_dvd positive (Nat.dvd_mul_right _ _),
    ← Nat.mul_add, Nat.mul_div_cancel_left _ positive, Nat.mul_div_cancel_left _ positive]
  constructor
  · rw [Nat.le_div_iff_mul_le positive, Nat.mul_comm]
    exact lower
  · rw [Nat.add_sub_cancel_left, Nat.div_lt_iff_lt_mul positive, Nat.mul_comm, Nat.mul_add]
    exact upper

/-- The first position of an interval that begins inside a chunk is not covered. -/
theorem dvd_start_of_covers (covers : geometry.Covers start count) :
    geometry.chunkTokens ∣ start := by
  have positive := geometry.chunkTokens_pos
  have first := (covers start (Nat.le_refl _) (Nat.lt_add_of_pos_right some)).1
  rw [geometry.loadChunkSpan_of_pos some] at first
  dsimp only at first
  have upper := le_cdiv_mul start positive
  have lower := Nat.mul_le_mul_right geometry.chunkTokens first
  have below := Nat.div_mul_le_self start geometry.chunkTokens
  exact ⟨start / geometry.chunkTokens, by rw [Nat.mul_comm]; omega⟩

/-- The last position of an interval that ends inside a chunk is not covered. -/
theorem dvd_count_of_covers (covers : geometry.Covers start count) :
    geometry.chunkTokens ∣ count := by
  have positive := geometry.chunkTokens_pos
  have begins := geometry.dvd_start_of_covers some covers
  have last := (covers (start + count - 1) (by omega) (by omega)).2
  rw [geometry.loadChunkSpan_of_pos some] at last
  refine (Nat.dvd_add_right begins).mp ?_
  have bound : cdiv start geometry.chunkTokens ≤ (start + count) / geometry.chunkTokens := by
    rw [cdiv_mul_of_dvd positive begins]
    exact Nat.div_le_div_right (Nat.le_add_right _ _)
  have behind : (start + count - 1) / geometry.chunkTokens <
      (start + count) / geometry.chunkTokens := by omega
  rw [Nat.div_lt_iff_lt_mul positive] at behind
  have below := Nat.div_mul_le_self (start + count) geometry.chunkTokens
  exact ⟨(start + count) / geometry.chunkTokens, by rw [Nat.mul_comm]; omega⟩

omit some in
/-- The chunks of the span end inside the interval. -/
theorem loadChunkSpan_end_le {count chunk : Nat}
    (lower : (geometry.loadChunkSpan start count).1 ≤ chunk)
    (upper : chunk < (geometry.loadChunkSpan start count).1 +
      (geometry.loadChunkSpan start count).2) :
    (chunk + 1) * geometry.chunkTokens ≤ start + count := by
  rcases Nat.eq_zero_or_pos count with rfl | some
  · exact absurd upper (Nat.not_lt_zero _)
  rw [geometry.loadChunkSpan_of_pos some] at lower upper
  have inside : chunk + 1 ≤ (start + count) / geometry.chunkTokens := by omega
  exact (Nat.mul_le_mul_right _ inside).trans (Nat.div_mul_le_self _ _)

/-- The interval is covered exactly when it consists of whole chunks. -/
theorem covers_iff :
    geometry.Covers start count ↔ geometry.chunkTokens ∣ start ∧ geometry.chunkTokens ∣ count :=
  ⟨fun covers => ⟨geometry.dvd_start_of_covers some covers,
      geometry.dvd_count_of_covers some covers⟩,
    fun aligned => geometry.covers_of_aligned some aligned.1 aligned.2⟩

end

instance (start count : Nat) : Decidable (geometry.Covers start count) :=
  if some : 0 < count then decidable_of_iff _ (geometry.covers_iff some).symm
  else isTrue fun _ lower upper => absurd upper (by omega)

end ChunkGeometry

end Tutti
