import Mathlib.Algebra.Order.Ring.Nat
import Mathlib.Data.List.Basic
import Mathlib.Tactic.Ring

/-!
# Byte images with fixed-offset fields

Little-endian numbers of a fixed width, and images in which a field is read or
overwritten at an offset. The two facts every fixed layout rests on are that a
field that was stored is loaded back (`loadAt_storeAt_self`) and that a field
stored elsewhere leaves it alone (`loadAt_storeAt_of_disjoint`).
-/

namespace Foundation

open List

/-- A sequence of bytes. -/
abbrev Bytes := List UInt8

/-- The number of values of a 64-bit counter. -/
def uint64Size : Nat := 2 ^ 64

/-- The `width` low-order bytes of a number, the least significant first. -/
def littleEndian : (width : Nat) → (value : Nat) → Bytes
  | 0, _ => []
  | width + 1, value => UInt8.ofNat value :: littleEndian width (value / 256)

/-- The number with the given bytes, the least significant first. -/
def fromLittleEndian : Bytes → Nat
  | [] => 0
  | byte :: bytes => byte.toNat + 256 * fromLittleEndian bytes

@[simp] theorem length_littleEndian (width value : Nat) :
    (littleEndian width value).length = width := by
  induction width generalizing value with
  | zero => rfl
  | succ width ih => simp [littleEndian, ih]

/-- Encoding keeps a number up to the width. -/
theorem fromLittleEndian_littleEndian (width value : Nat) :
    fromLittleEndian (littleEndian width value) = value % 256 ^ width := by
  induction width generalizing value with
  | zero => simp only [littleEndian, fromLittleEndian, pow_zero, Nat.mod_one]
  | succ width ih =>
    have low : (UInt8.ofNat value).toNat = value % 256 := by
      simp
    rw [littleEndian, fromLittleEndian, ih, low, pow_succ', Nat.mod_mul]

variable {width : Nat}

theorem fromLittleEndian_littleEndian_of_lt {value : Nat} (fits : value < 256 ^ width) :
    fromLittleEndian (littleEndian width value) = value := by
  rw [fromLittleEndian_littleEndian, Nat.mod_eq_of_lt fits]

/-- A 64-bit number survives eight bytes. -/
theorem fromLittleEndian_littleEndian_uint64 {value : Nat} (fits : value < uint64Size) :
    fromLittleEndian (littleEndian 8 value) = value :=
  fromLittleEndian_littleEndian_of_lt fits

variable (bytes : Bytes)

theorem fromLittleEndian_lt : fromLittleEndian bytes < 256 ^ bytes.length := by
  induction bytes with
  | nil => simp [fromLittleEndian]
  | cons byte bytes ih =>
    have small : byte.toNat < 256 := byte.toNat_lt
    rw [fromLittleEndian, length_cons]
    omega

/-- Bytes are the encoding of the number they stand for. -/
theorem littleEndian_fromLittleEndian :
    littleEndian bytes.length (fromLittleEndian bytes) = bytes := by
  induction bytes with
  | nil => rfl
  | cons byte bytes ih =>
    have small : byte.toNat < 256 := byte.toNat_lt
    have low : UInt8.ofNat (byte.toNat + 256 * fromLittleEndian bytes) = byte := by
      refine UInt8.toNat_inj.mp ?_
      rw [UInt8.toNat_ofNat']
      omega
    have high : (byte.toNat + 256 * fromLittleEndian bytes) / 256 = fromLittleEndian bytes := by
      omega
    rw [fromLittleEndian, length_cons, littleEndian, low, high, ih]

/-- The `width` bytes of an image from an offset on, fewer where the image ends. -/
def loadAt (image : Bytes) (offset width : Nat) : Bytes := (image.drop offset).take width

/-- Overwrite the bytes of an image from an offset on. -/
def storeAt (image : Bytes) (offset : Nat) (field : Bytes) : Bytes :=
  image.take offset ++ (field ++ image.drop (offset + field.length))

theorem getElem?_loadAt (image : Bytes) (offset width position : Nat) :
    (loadAt image offset width)[position]? =
      if position < width then image[offset + position]? else none := by
  simp only [loadAt, getElem?_take, getElem?_drop]

variable {image : Bytes} {offset width : Nat}

theorem length_loadAt (inside : offset + width ≤ image.length) :
    (loadAt image offset width).length = width := by
  rw [loadAt, length_take, length_drop]
  omega

theorem drop_loadAt (image : Bytes) (offset width count : Nat) :
    (loadAt image offset width).drop count = loadAt image (offset + count) (width - count) := by
  rw [loadAt, loadAt, drop_take, drop_drop]

/-- A field of a field. -/
theorem loadAt_loadAt {start size : Nat} (inside : offset + width ≤ size) :
    loadAt (loadAt image start size) offset width = loadAt image (start + offset) width := by
  rw [loadAt, drop_loadAt, loadAt, take_take, loadAt, min_eq_left (by omega)]

variable {offset : Nat} {field : Bytes}

theorem getElem?_storeAt (fits : offset + field.length ≤ image.length)
    (position : Nat) :
    (storeAt image offset field)[position]? =
      if offset ≤ position ∧ position < offset + field.length then field[position - offset]?
      else image[position]? := by
  have taken : (image.take offset).length = offset := by
    rw [length_take]
    omega
  by_cases before : position < offset
  · have outside : ¬ (offset ≤ position ∧ position < offset + field.length) := by omega
    rw [storeAt, getElem?_append_left (by omega), if_neg outside, getElem?_take, if_pos before]
  rw [storeAt, getElem?_append_right (by omega), taken]
  by_cases within : position < offset + field.length
  · rw [getElem?_append_left (by omega), if_pos ⟨by omega, within⟩]
  have outside : ¬ (offset ≤ position ∧ position < offset + field.length) := by omega
  rw [getElem?_append_right (by omega), if_neg outside, getElem?_drop]
  congr 1
  omega

@[simp] theorem length_storeAt (fits : offset + field.length ≤ image.length) :
    (storeAt image offset field).length = image.length := by
  simp only [storeAt, length_append, length_take, length_drop]
  omega

variable {image : Bytes}

variable {front rest : Bytes}

/-- The field at the front of a concatenation. -/
theorem loadAt_append_left (wide : front.length = width) :
    loadAt (front ++ rest) 0 width = front := by
  rw [loadAt, drop_zero, take_append_of_le_length wide.ge, take_of_length_le wide.le]

/-- A field inside the front of a concatenation. -/
theorem loadAt_append_inside
    (inside : offset + width ≤ front.length) :
    loadAt (front ++ rest) offset width = loadAt front offset width := by
  refine ext_getElem? fun position => ?_
  rw [getElem?_loadAt, getElem?_loadAt]
  by_cases within : position < width
  · rw [if_pos within, if_pos within, getElem?_append_left (by omega)]
  · rw [if_neg within, if_neg within]

/-- A field behind the front of a concatenation. -/
theorem loadAt_append_right (behind : front.length ≤ offset) :
    loadAt (front ++ rest) offset width = loadAt rest (offset - front.length) width := by
  rw [loadAt, loadAt, drop_append, drop_eq_nil_of_le behind, nil_append]

/-- A stored field is loaded back. -/
theorem loadAt_storeAt_self
    (fits : offset + field.length ≤ image.length) (wide : field.length = width) :
    loadAt (storeAt image offset field) offset width = field := by
  subst wide
  refine ext_getElem? fun position => ?_
  rw [getElem?_loadAt]
  by_cases within : position < field.length
  · rw [if_pos within, getElem?_storeAt fits, if_pos ⟨by omega, by omega⟩]
    congr 1
    omega
  · rw [if_neg within, getElem?_eq_none (by omega)]

variable {query : Nat}

/-- A field stored elsewhere is not seen. -/
theorem loadAt_storeAt_of_disjoint
    (fits : offset + field.length ≤ image.length)
    (apart : query + width ≤ offset ∨ offset + field.length ≤ query) :
    loadAt (storeAt image offset field) query width = loadAt image query width := by
  refine ext_getElem? fun position => ?_
  rw [getElem?_loadAt, getElem?_loadAt]
  by_cases within : position < width
  · have outside :
        ¬ (offset ≤ query + position ∧ query + position < offset + field.length) := by omega
    rw [if_pos within, if_pos within, getElem?_storeAt fits, if_neg outside]
  · rw [if_neg within, if_neg within]

/-- Overwrite several fields, given by their offsets, one after the other. -/
def storeAll (image : Bytes) (fields : List (Nat × Bytes)) : Bytes :=
  fields.foldl (fun image field => storeAt image field.1 field.2) image

variable {fields : List (Nat × Bytes)}

/-- Fields that fit still fit when the first of them is stored. -/
theorem fits_storeAt {head : Nat × Bytes}
    (fits : ∀ field ∈ head :: fields, field.1 + field.2.length ≤ image.length) :
    ∀ field ∈ fields, field.1 + field.2.length ≤ (storeAt image head.1 head.2).length := by
  intro field member
  rw [length_storeAt (fits head (.head _))]
  exact fits field (mem_cons_of_mem head member)

theorem length_storeAll (fits : ∀ field ∈ fields, field.1 + field.2.length ≤ image.length) :
    (storeAll image fields).length = image.length := by
  induction fields generalizing image with
  | nil => rfl
  | cons field fields ih =>
    exact (ih (fits_storeAt fits)).trans (length_storeAt (fits field (.head _)))

/-- Fields stored elsewhere are not seen. -/
theorem loadAt_storeAll_of_disjoint
    (fits : ∀ field ∈ fields, field.1 + field.2.length ≤ image.length)
    (apart : ∀ field ∈ fields, query + width ≤ field.1 ∨ field.1 + field.2.length ≤ query) :
    loadAt (storeAll image fields) query width = loadAt image query width := by
  induction fields generalizing image with
  | nil => rfl
  | cons field fields ih =>
    refine (ih (fits_storeAt fits) fun other member =>
      apart other (mem_cons_of_mem field member)).trans ?_
    exact loadAt_storeAt_of_disjoint (fits field (.head _)) (apart field (.head _))

/-- Of fields that do not overlap, each is loaded back. -/
theorem loadAt_storeAll (fits : ∀ field ∈ fields, field.1 + field.2.length ≤ image.length)
    (apart : fields.Pairwise fun first second =>
      first.1 + first.2.length ≤ second.1 ∨ second.1 + second.2.length ≤ first.1)
    (member : (offset, field) ∈ fields) (wide : field.length = width) :
    loadAt (storeAll image fields) offset width = field := by
  subst wide
  induction fields generalizing image with
  | nil => cases member
  | cons head fields ih =>
    have later := fits_storeAt fits
    obtain ⟨separate, rest⟩ := pairwise_cons.mp apart
    rcases mem_cons.mp member with same | member
    · subst same
      refine (loadAt_storeAll_of_disjoint later fun other among => ?_).trans
        (loadAt_storeAt_self (fits _ (.head _)) rfl)
      exact separate other among
    · exact ih later rest member

end Foundation
