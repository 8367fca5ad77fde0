/-!
# Paths

A path is a text whose parts are divided by slashes.
-/

set_option autoImplicit false

namespace Highlighter.Path

/-- The parts of a path between its slashes. -/
def parts (path : List Char) : List (List Char) :=
  match path with
  | [] => [[]]
  | c :: rest =>
    if c == '/' then [] :: parts rest
    else
      match parts rest with
      | [] => [[c]]
      | part :: others => (c :: part) :: others

/-- Whether a part of a path stays in the directory that it is looked up in. -/
def isIdle (part : List Char) : Bool := part == [] || part == ['.']

/-- Whether a path is the name `name` alone, but for parts after it that lead nowhere else. -/
def isJust (name : List Char) (path : List Char) : Bool :=
  match parts path with
  | [] => false
  | first :: others => first == name && others.all isIdle

end Highlighter.Path
