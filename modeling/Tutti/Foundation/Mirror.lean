import Mathlib.Order.Basic
import Mathlib.Order.Lattice

/-!
# Mirrored cells

Two cells hold a sequence number and a body each; what a cell holds may be
unreadable. A writer overwrites an unreadable cell, else the one with the smaller
number, and a reader takes the readable cell with the larger number. If every
write carries a number above all it can read, the reader finds the body that was
last written in full, however many writes were torn in between.
-/

namespace Foundation

/-- What can be read of two mirrored cells. -/
structure Mirror (α : Type*) where
  first : Option (Nat × α)
  second : Option (Nat × α)

namespace Mirror

variable {α : Type*}

/-- The sequence number of a cell, zero if it is unreadable. -/
def number (cell : Option (Nat × α)) : Nat := (cell.map Prod.fst).getD 0

@[simp] theorem number_none : number (none : Option (Nat × α)) = 0 := rfl

@[simp] theorem number_some (sequence : Nat) (body : α) :
    number (some (sequence, body)) = sequence := rfl

/-- Whether the second cell is the next to be overwritten. -/
def nextIsSecond (mirror : Mirror α) : Bool :=
  if number mirror.first = 0 then false
  else if number mirror.second = 0 then true
  else number mirror.second < number mirror.first

/-- The readable cell with the largest number. -/
def newest (mirror : Mirror α) : Option (Nat × α) :=
  if number mirror.second = 0 then (if number mirror.first = 0 then none else mirror.first)
  else if number mirror.first < number mirror.second then mirror.second
  else mirror.first

/-- The next cell is overwritten; a torn write leaves it unreadable. -/
def overwrite (mirror : Mirror α) (cell : Option (Nat × α)) : Mirror α :=
  if mirror.nextIsSecond then { mirror with second := cell } else { mirror with first := cell }

/-- Readable cells have different positive numbers up to a bound, and the newest
one holds the body that was written last. -/
structure Tracks (mirror : Mirror α) (last : Option α) (bound : Nat) : Prop where
  first_pos : ∀ sequence body, mirror.first = some (sequence, body) → 0 < sequence
  second_pos : ∀ sequence body, mirror.second = some (sequence, body) → 0 < sequence
  distinct : mirror.first.isSome → mirror.second.isSome →
    number mirror.first ≠ number mirror.second
  first_le : number mirror.first ≤ bound
  second_le : number mirror.second ≤ bound
  newest_eq : mirror.newest.map Prod.snd = last

theorem tracks_empty (bound : Nat) : Tracks (⟨none, none⟩ : Mirror α) none bound where
  first_pos := nofun
  second_pos := nofun
  distinct := nofun
  first_le := Nat.zero_le bound
  second_le := Nat.zero_le bound
  newest_eq := rfl

variable {mirror : Mirror α} {last : Option α} {bound : Nat}

section

variable (tracks : Tracks mirror last bound)
include tracks

theorem Tracks.mono {larger : Nat} (le : bound ≤ larger) :
    Tracks mirror last larger :=
  { tracks with
    first_le := le_trans tracks.first_le le
    second_le := le_trans tracks.second_le le }

omit tracks in
/-- A cell whose number is positive if it is readable. -/
theorem number_eq_zero {cell : Option (Nat × α)}
    (positive : ∀ sequence body, cell = some (sequence, body) → 0 < sequence) :
    number cell = 0 ↔ cell = none := by
  cases cell with
  | none => exact iff_of_true rfl rfl
  | some pair => exact iff_of_false (positive pair.1 pair.2 rfl).ne' nofun

theorem Tracks.number_newest_le :
    number mirror.newest ≤ bound := by
  unfold newest
  split
  · split
    · exact Nat.zero_le bound
    · exact tracks.first_le
  · split
    · exact tracks.second_le
    · exact tracks.first_le

omit tracks in
/-- A cell with number zero is read as an unreadable one. -/
theorem newest_overwrite_of_zero {cell : Option (Nat × α)} (zero : number cell = 0) :
    (mirror.overwrite cell).newest = (mirror.overwrite none).newest := by
  unfold overwrite
  split
  · simp [newest, zero]
  simp only [newest, zero, number_none]
  split
  · rfl
  rename_i readable
  simp [Nat.pos_of_ne_zero readable]

omit tracks in
/-- A write that lands with the largest number is the newest. -/
theorem newest_overwrite_of_lt {sequence : Nat} {body : α}
    (first : number mirror.first < sequence) (second : number mirror.second < sequence) :
    (mirror.overwrite (some (sequence, body))).newest = some (sequence, body) := by
  have positive : sequence ≠ 0 := Nat.ne_zero_of_lt first
  unfold overwrite
  split
  · simp [newest, positive, first]
  · simp [newest, positive, lt_asymm second]

/-- A write with a larger number keeps the cells in order. -/
theorem Tracks.land {sequence : Nat} (body : α) (above : bound < sequence) :
    Tracks (mirror.overwrite (some (sequence, body))) (some body) sequence := by
  have first_le := tracks.first_le
  have second_le := tracks.second_le
  have newest : (mirror.overwrite (some (sequence, body))).newest.map Prod.snd = some body := by
    rw [newest_overwrite_of_lt (lt_of_le_of_lt first_le above) (lt_of_le_of_lt second_le above),
      Option.map_some]
  unfold overwrite at newest ⊢
  cases second : mirror.nextIsSecond with
  | true =>
    rw [second] at newest
    rw [if_pos rfl]
    refine ⟨tracks.first_pos, ?_, ?_, by dsimp only; omega, le_rfl, newest⟩
    · intro other _ same
      cases same
      omega
    · intro _ _
      dsimp only [number_some]
      omega
  | false =>
    rw [second] at newest
    rw [if_neg Bool.false_ne_true]
    refine ⟨?_, tracks.second_pos, ?_, le_rfl, by dsimp only; omega, newest⟩
    · intro other _ same
      cases same
      omega
    · intro _ _
      dsimp only [number_some]
      omega

/-- A torn write leaves the newest body alone. -/
theorem Tracks.tear :
    Tracks (mirror.overwrite none) last bound := by
  have newest_eq := tracks.newest_eq
  unfold newest at newest_eq
  unfold overwrite nextIsSecond
  by_cases emptyFirst : number mirror.first = 0
  · -- The first cell was unreadable before.
    rw [if_pos emptyFirst]
    refine ⟨nofun, tracks.second_pos, nofun, Nat.zero_le _, tracks.second_le, ?_⟩
    rw [number_eq_zero tracks.first_pos] at emptyFirst
    rw [emptyFirst] at newest_eq
    exact newest_eq
  rw [if_neg emptyFirst]
  by_cases emptySecond : number mirror.second = 0
  · rw [if_pos emptySecond]
    refine ⟨tracks.first_pos, nofun, nofun, tracks.first_le, Nat.zero_le _, ?_⟩
    rw [emptySecond] at newest_eq
    exact newest_eq
  rw [if_neg emptySecond]
  rw [if_neg emptySecond] at newest_eq
  by_cases older : number mirror.second < number mirror.first
  · -- The second cell is the older one.
    rw [if_pos (decide_eq_true older)]
    rw [if_neg (lt_asymm older)] at newest_eq
    refine ⟨tracks.first_pos, nofun, nofun, tracks.first_le, Nat.zero_le _, ?_⟩
    dsimp only [newest]
    rw [if_neg emptyFirst]
    exact newest_eq
  · rw [if_neg (by simpa using older)]
    have readable : mirror.first.isSome = true ∧ mirror.second.isSome = true := by
      constructor
      · rw [← Option.ne_none_iff_isSome]
        exact fun none => emptyFirst ((number_eq_zero tracks.first_pos).mpr none)
      · rw [← Option.ne_none_iff_isSome]
        exact fun none => emptySecond ((number_eq_zero tracks.second_pos).mpr none)
    have different := tracks.distinct readable.1 readable.2
    rw [if_pos (by omega)] at newest_eq
    refine ⟨nofun, tracks.second_pos, nofun, Nat.zero_le _, tracks.second_le, ?_⟩
    dsimp only [newest]
    rw [if_neg emptySecond, number_none, if_pos (Nat.pos_of_ne_zero emptySecond)]
    exact newest_eq

end

end Mirror

end Foundation
