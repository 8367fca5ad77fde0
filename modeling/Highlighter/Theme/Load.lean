import Highlighter.Theme.File
import Highlighter.World.Basic

/-!
# The theme of a run

The theme comes from the file that is asked for, or else from the one in the
home directory.  A file that is asked for has to be there.
-/

set_option autoImplicit false

namespace Highlighter.ThemeFile

def homePath? (world : World) : Option String :=
  world.home.map pathIn

/-- The theme file to be used: the one asked for, or else the one in the home directory if it is
there. -/
def choose? (world : World) (asked : Option String) : Option String :=
  asked.or ((homePath? world).filter world.isFile)

/-- The theme of the file at a path. -/
def readFile (world : World) (path : String) : Except Failure Theme :=
  match world.readText path with
  | .error .notFound => .error (.configNotFound path)
  | .error cause => .error (.file cause)
  | .ok text => read text

def load (world : World) (asked : Option String) : Except Failure Theme :=
  match choose? world asked with
  | some path => readFile world path
  | none => .ok .default

end Highlighter.ThemeFile
