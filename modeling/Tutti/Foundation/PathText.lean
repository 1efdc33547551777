import Mathlib.Data.List.Basic

/-!
# Path texts

Texts of paths as lists of characters, the joining of a directory and a leaf, and
lexical normalisation: empty components and `.` are dropped, and `..` takes the
component before it away. Two texts with one normal form name one file.
-/

namespace Foundation

open List

/-- The components of a path between its slashes. -/
def pathParts (path : List Char) : List (List Char) := path.splitOn '/'

/-- One component more; the components so far are kept last first. At the root of
an absolute path `..` leads nowhere. -/
def enterPart (absolute : Bool) (stack : List (List Char)) (part : List Char) :
    List (List Char) :=
  if part = [] ∨ part = ['.'] then stack
  else if part = ['.', '.'] then
    match stack with
    | [] => if absolute = true then [] else [part]
    | top :: rest => if top = ['.', '.'] then part :: stack else rest
  else part :: stack

/-- The normal form of a path: whether it is absolute, and its components, last
first. -/
structure NormalPath where
  absolute : Bool
  stack : List (List Char)
  deriving DecidableEq, Repr

def normalise (path : List Char) : NormalPath :=
  let absolute := path.head? == some '/'
  ⟨absolute, (pathParts path).foldl (enterPart absolute) []⟩

/-- A directory and a leaf, with one slash between them. -/
def joinPath (dir leaf : List Char) : List Char :=
  if dir = [] then leaf
  else if dir.getLast? = some '/' then dir ++ leaf
  else dir ++ '/' :: leaf

/-- A component that names an entry of its directory. -/
structure PlainPart (part : List Char) : Prop where
  ne_nil : part ≠ []
  ne_dot : part ≠ ['.']
  ne_dots : part ≠ ['.', '.']
  no_slash : '/' ∉ part

theorem enterPart_plain {part : List Char} (plain : PlainPart part) (absolute : Bool)
    (stack : List (List Char)) : enterPart absolute stack part = part :: stack := by
  have keeps : ¬ (part = [] ∨ part = ['.']) := not_or.mpr ⟨plain.ne_nil, plain.ne_dot⟩
  unfold enterPart
  rw [if_neg keeps, if_neg plain.ne_dots]

theorem pathParts_append (dir leaf : List Char) :
    pathParts (dir ++ '/' :: leaf) = pathParts dir ++ pathParts leaf :=
  splitOnP_append_cons dir leaf rfl

theorem pathParts_plain {part : List Char} (plain : PlainPart part) : pathParts part = [part] :=
  splitOn_eq_singleton plain.no_slash

/-- A plain component does not start with a slash. -/
theorem PlainPart.head_ne {part : List Char} (plain : PlainPart part) :
    part.head? ≠ some '/' := fun slash => plain.no_slash (mem_of_mem_head? slash)

/-- The path of a leaf in a directory goes on where the directory ends. -/
theorem normalise_joinPath (dir : List Char) {leaf : List Char}
    (relative : leaf.head? ≠ some '/') :
    normalise (joinPath dir leaf) = ⟨(normalise dir).absolute,
      (pathParts leaf).foldl (enterPart (normalise dir).absolute) (normalise dir).stack⟩ := by
  unfold joinPath
  split
  · rename_i empty
    subst empty
    unfold normalise
    dsimp only
    rw [beq_false_of_ne relative]
    rfl
  rename_i nonempty
  have head : ∀ rest, (dir ++ rest).head? = dir.head? :=
    fun rest => head?_append_of_ne_nil dir nonempty
  split
  · rename_i slashed
    -- The directory brings the slash along: its last component is empty.
    obtain ⟨front, shape⟩ := getLast?_eq_some_iff.mp slashed
    have parts : pathParts (dir ++ leaf) = pathParts front ++ pathParts leaf := by
      rw [shape, append_assoc, singleton_append, pathParts_append]
    have whole : pathParts dir = pathParts front ++ [[]] := by
      rw [shape, pathParts_append]
      rfl
    unfold normalise
    dsimp only
    rw [head, parts, whole, foldl_append, foldl_append]
    rfl
  · unfold normalise
    dsimp only
    rw [head, pathParts_append, foldl_append]

end Foundation
