import Highlighter.Failure
import Highlighter.Theme.Style
import Highlighter.Toml.Document

/-!
# Theme files

A theme file is a TOML document with a table `theme` of entries, each of which
changes the style of the token class that it is named for.  What an entry
leaves out stays as the class has it by default.  Of several faults the one
whose entry comes first by name is reported.
-/

set_option autoImplicit false

namespace Highlighter.ThemeFile

/-- What an entry says about the style of a class. -/
structure Entry where
  foreground : Option String
  background : Option String
  bold : Option Bool
  italic : Option Bool
  underline : Option Bool
  deriving DecidableEq, Repr

namespace Entry

def empty : Entry := ⟨none, none, none, none, none⟩

/-- The entry with what one line of it says.  Only five keys are known, each with its own type of
value. -/
def withLine? (entry : Entry) : String × Toml.Value → Option Entry
  | ("fg", .string name) => some { entry with foreground := some name }
  | ("bg", .string name) => some { entry with background := some name }
  | ("bold", .boolean value) => some { entry with bold := some value }
  | ("italic", .boolean value) => some { entry with italic := some value }
  | ("underline", .boolean value) => some { entry with underline := some value }
  | _ => none

/-- An entry written as a table, or as an array of its five values in a fixed order and anything
after them. -/
def ofToml? : Toml.Value → Option Entry
  | .table _ lines => lines.foldlM withLine? empty
  | .array (.string foreground :: .string background :: .boolean bold :: .boolean italic ::
      .boolean underline :: _) =>
    some ⟨some foreground, some background, some bold, some italic, some underline⟩
  | _ => none

def color (fallback : Color) : Option String → Except Failure Color
  | none => .ok fallback
  | some name =>
    match Color.ofName? name with
    | some color => .ok color
    | none => .error (.unknownColor name)

def apply (entry : Entry) (base : Style) : Except Failure Style :=
  match color base.foreground entry.foreground with
  | .error cause => .error cause
  | .ok foreground =>
    match color base.background entry.background with
    | .error cause => .error cause
    | .ok background =>
      .ok
        { foreground
          background
          bold := entry.bold.getD base.bold
          italic := entry.italic.getD base.italic
          underline := entry.underline.getD base.underline }

end Entry

abbrev Entries := List (String × Entry)

namespace Entries

/-- The entries of a document.  It has no table but `theme`. -/
def ofToml? (document : Toml.Entries) : Option Entries :=
  match document with
  | [] => some []
  | [("theme", .table _ entries)] =>
    entries.mapM fun (name, value) => (Entry.ofToml? value).map fun entry => (name, entry)
  | _ => none

/-- The entries in the order of their names, character by character. -/
def sorted (entries : Entries) : Entries :=
  entries.mergeSort fun left right => decide (left.1 ≤ right.1)

def restyle (theme : Theme) : String × Entry → Except Failure Theme
  | (name, entry) =>
    match TokenClass.ofName? name with
    | none => .error (.unknownTokenClass name)
    | some cls => (entry.apply cls.defaultStyle).map (theme.set cls)

/-- A theme changed by entries one after another. -/
def restyleAll (theme : Theme) : Entries → Except Failure Theme
  | [] => .ok theme
  | entry :: entries =>
    match restyle theme entry with
    | .error cause => .error cause
    | .ok theme => restyleAll theme entries

/-- The theme that entries make of the default one. -/
def theme (entries : Entries) : Except Failure Theme :=
  restyleAll .default (sorted entries)

end Entries

def entries? (text : List Char) : Option Entries :=
  (Toml.read? text).bind Entries.ofToml?

def read (text : List Char) : Except Failure Theme :=
  match entries? text with
  | none => .error .configuration
  | some entries => entries.theme

/-- The name of the theme file in the home directory. -/
def name : String := ".setanta-highlight.toml"

def pathIn (home : String) : String :=
  if home.isEmpty || home.endsWith "/" then home ++ name else home ++ "/" ++ name

end Highlighter.ThemeFile
