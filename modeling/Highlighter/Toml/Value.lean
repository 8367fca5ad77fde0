/-!
# TOML values

Tables, what they hold, and the rules by which the lines of a document add to
them.  A table remembers how it came about, since that decides what may still
be added to it.
-/

set_option autoImplicit false

namespace Highlighter.Toml

/-- How a table came about. -/
inductive Origin where
  /-- By a header of its own; the document itself counts as such. -/
  | stated
  /-- By the header of a table inside it. -/
  | implied
  /-- By a dotted key. -/
  | dotted
  /-- As a value between braces. -/
  | inline
  deriving DecidableEq, Repr

inductive Value where
  | string (content : String)
  | boolean (value : Bool)
  | integer (value : Int)
  /-- A number with a fraction or an exponent, as it is written. -/
  | float (literal : String)
  /-- A date, a time or both, as it is written. -/
  | dateTime (literal : String)
  | array (items : List Value)
  /-- The tables of a header in double brackets, the latest first. -/
  | tables (items : List (List (String × Value)))
  | table (origin : Origin) (entries : List (String × Value))

abbrev Entries := List (String × Value)

namespace Entries

def put (key : String) (value : Value) : Entries → Entries
  | [] => [(key, value)]
  | (other, held) :: rest =>
    if other == key then (key, value) :: rest else (other, held) :: put key value rest

end Entries

/-- The ways to get at a table inside another. -/
inductive Route where
  | header
  | dottedKey
  deriving DecidableEq, Repr

namespace Route

/-- How a table comes about that is missing on the way. -/
def creates : Route → Origin
  | header => .implied
  | dottedKey => .dotted

/-- Whether the way may lead through a table.  A table between braces is complete, and a dotted key
does not lead into a table that has a header. -/
def enters : Route → Origin → Bool
  | _, .inline => false
  | _, .implied => true
  | _, .dotted => true
  | header, .stated => true
  | dottedKey, .stated => false

end Route

/-- A change of a table, given how it came about; none if the table does not allow it. -/
abbrev Change := Origin → Entries → Option (Origin × Entries)

/-- Changes the table at the end of a path.  The way goes through the latest of the tables that
share a header in double brackets. -/
def changeAt (route : Route) (change : Change) : List String → Change
  | [], origin, entries => change origin entries
  | key :: path, origin, entries =>
    match entries.lookup key with
    | none => do
      let (inner, held) ← changeAt route change path route.creates []
      return (origin, Entries.put key (.table inner held) entries)
    | some (.table inner held) =>
      if route.enters inner then do
        let (inner, held) ← changeAt route change path inner held
        return (origin, Entries.put key (.table inner held) entries)
      else none
    | some (.tables (latest :: earlier)) => do
      let (_, held) ← changeAt route change path .stated latest
      return (origin, Entries.put key (.tables (held :: earlier)) entries)
    | some _ => none

/-- Adds a value under a key that is new. -/
def insertNew (key : String) (value : Value) : Change := fun origin entries =>
  match entries.lookup key with
  | none => some (origin, Entries.put key value entries)
  | some _ => none

/-- Adds a value under a dotted key, given as its path and its last part.  The table at the end of
a path is one that dotted keys made. -/
def insertAt (path : List String) (key : String) (value : Value) : Change :=
  match path with
  | [] => insertNew key value
  | path =>
    changeAt .dottedKey
      (fun origin entries =>
        if origin = .dotted then insertNew key value origin entries else none) path

/-- Begins the table of a header.  It may be there already if headers of tables inside it have
implied it. -/
def stateTable (key : String) : Change := fun origin entries =>
  match entries.lookup key with
  | none => some (origin, Entries.put key (.table .stated []) entries)
  | some (.table .implied held) => some (origin, Entries.put key (.table .stated held) entries)
  | some _ => none

/-- Begins one more of the tables that share a header in double brackets. -/
def stateNext (key : String) : Change := fun origin entries =>
  match entries.lookup key with
  | none => some (origin, Entries.put key (.tables [[]]) entries)
  | some (.tables held) => some (origin, Entries.put key (.tables ([] :: held)) entries)
  | some _ => none

end Highlighter.Toml
