import Highlighter.Toml.Scalar
import Highlighter.Toml.Text

/-!
# TOML documents

A document consists of lines that give a value to a key, begin a table or are
empty.  Values are read by recursion; each takes a character at least, so the
length of the text is fuel enough.  Arrays and tables between braces may stand
in one another, but not too deeply.
-/

set_option autoImplicit false

namespace Highlighter.Toml

/-- The text after a comment, if one stands here. -/
def skipComment : List Char → List Char
  | '#' :: rest => rest.dropWhile isPrintable
  | rest => rest

/-- The text after white space, line ends and comments, each of which ends with its line. -/
def skipLines : Nat → List Char → Option (List Char)
  | 0, _ => none
  | fuel + 1, text =>
    match skipSpace text with
    | '#' :: rest => do skipLines fuel (← newline? (rest.dropWhile isPrintable))
    | rest =>
      match newline? rest with
      | some rest => skipLines fuel rest
      | none => some rest

mutual

def readValue? (depth : Nat) : Nat → List Char → Option (Value × List Char)
  | 0, _ => none
  | fuel + 1, text =>
    match text with
    | [] => none
    | '"' :: _ => (readString? '"' text).map fun (content, rest) => (.string content, rest)
    | '\'' :: _ => (readString? '\'' text).map fun (content, rest) => (.string content, rest)
    | '[' :: rest =>
      if depth + 1 < nestLimit then readItems? (depth + 1) [] fuel rest else none
    | '\x7b' :: rest =>
      if depth + 1 < nestLimit then
        match skipSpace rest with
        | '\x7d' :: rest => some (.table .inline [], rest)
        | rest => readPairs? (depth + 1) [] fuel rest
      else none
    | _ => readScalar? text

/-- Reads the items of an array up to its end.  `items` are those before, the latest first. -/
def readItems? (depth : Nat) (items : List Value) : Nat → List Char → Option (Value × List Char)
  | 0, _ => none
  | fuel + 1, text => do
    match ← skipLines (text.length + 1) text with
    | ']' :: rest => return (.array items.reverse, rest)
    | text =>
      let (item, rest) ← readValue? depth fuel text
      match ← skipLines (rest.length + 1) rest with
      | ',' :: rest => readItems? depth (item :: items) fuel rest
      | ']' :: rest => return (.array (item :: items).reverse, rest)
      | _ => none

/-- Reads the pairs of a table between braces up to its end. -/
def readPairs? (depth : Nat) (entries : Entries) : Nat → List Char → Option (Value × List Char)
  | 0, _ => none
  | fuel + 1, text => do
    let (path, key, rest) ← readKey? text
    match rest with
    | '=' :: rest =>
      let (value, rest) ← readValue? depth fuel (skipSpace rest)
      let (_, entries) ← insertAt path key value .inline entries
      match skipSpace rest with
      | ',' :: rest => readPairs? depth entries fuel rest
      | '\x7d' :: rest => return (.table .inline entries, rest)
      | _ => none
    | _ => none

end

/-- What has been read of a document: all of it, and the header in force. -/
structure Draft where
  entries : Entries
  header : List String

namespace Draft

/-- The table at a path of headers, changed. -/
def changeIn (path : List String) (change : Change) (draft : Draft) : Option Draft := do
  let (_, entries) ← changeAt .header change path .stated draft.entries
  return { draft with entries }

/-- Reads a header in single or double brackets after the first bracket. -/
def readHeader? (draft : Draft) (text : List Char) : Option (Draft × List Char) := do
  match text with
  | '[' :: text =>
    let (path, key, rest) ← readKey? text
    match rest with
    | ']' :: ']' :: rest =>
      let draft ← draft.changeIn path (stateNext key)
      return ({ draft with header := path ++ [key] }, rest)
    | _ => none
  | text =>
    let (path, key, rest) ← readKey? text
    match rest with
    | ']' :: rest =>
      let draft ← draft.changeIn path (stateTable key)
      return ({ draft with header := path ++ [key] }, rest)
    | _ => none

def readPair? (draft : Draft) (text : List Char) : Option (Draft × List Char) := do
  let (path, key, rest) ← readKey? text
  match rest with
  | '=' :: rest =>
    let (value, rest) ← readValue? 0 (rest.length + 1) (skipSpace rest)
    let draft ← draft.changeIn draft.header (insertAt path key value)
    return (draft, rest)
  | _ => none

/-- Reads what a line states, if it states anything. -/
def readStatement? (draft : Draft) (text : List Char) : Option (Draft × List Char) :=
  match text with
  | [] => some (draft, [])
  | '[' :: rest => draft.readHeader? rest
  | c :: _ =>
    if c == '#' || (newline? text).isSome then some (draft, text) else draft.readPair? text

def readAll? : Nat → Draft → List Char → Option Entries
  | 0, _, _ => none
  | fuel + 1, draft, text => do
    let (draft, rest) ← draft.readStatement? (skipSpace text)
    match skipComment (skipSpace rest) with
    | [] => return draft.entries
    | rest => readAll? fuel draft (← newline? rest)

end Draft

/-- The entries of a document.  A byte order mark at its start does not count. -/
def read? (text : List Char) : Option Entries :=
  let text := match text with
    | '\uFEFF' :: rest => rest
    | text => text
  Draft.readAll? (text.length + 1) ⟨[], []⟩ text

end Highlighter.Toml
