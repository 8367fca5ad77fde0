import Highlighter.Failure

/-!
# What surrounds a run

The files, the variables and the input that a run of the program can see.
-/

set_option autoImplicit false

namespace Highlighter

structure World where
  home : Option String
  colors : Bool
  /-- What comes over standard input. -/
  input : Except FileError ByteArray
  /-- The content of the file at a path. -/
  read : String → Except FileError ByteArray
  /-- Whether there is a regular file at a path. -/
  isFile : String → Bool

namespace World

def nowhere : World :=
  ⟨none, true, .ok .empty, fun _ => .error .notFound, fun _ => false⟩

/-- The text that bytes encode. -/
def decode (bytes : ByteArray) : Except FileError (List Char) :=
  match String.fromUTF8? bytes with
  | some text => .ok text.toList
  | none => .error .invalidText

/-- The text of the file at a path. -/
def readText (world : World) (path : String) : Except FileError (List Char) :=
  match world.read path with
  | .ok bytes => decode bytes
  | .error cause => .error cause

/-- The text that comes over standard input. -/
def inputText (world : World) : Except FileError (List Char) :=
  match world.input with
  | .ok bytes => decode bytes
  | .error cause => .error cause

end World

end Highlighter
