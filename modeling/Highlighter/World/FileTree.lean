import Highlighter.World.Basic
import Highlighter.World.Path

/-!
# Files held in memory

A tree of files and directories below a working directory, in which paths are
looked up name by name.  A path that begins with a slash leads to the few
places that are the same on every system.
-/

set_option autoImplicit false

namespace Highlighter

/-- Files and directories, each by the names on the way to it. -/
structure FileTree where
  files : List (List String × ByteArray)
  directories : List (List String)
  /-- The files on the way from the root that can be read as well. -/
  devices : List (List String × ByteArray)

namespace FileTree

def names (path : String) : List String :=
  ((Path.parts path.toList).map String.ofList).filter fun part => !part.isEmpty

/-- The tree of the working directory alone. -/
def empty : FileTree := ⟨[], [[]], [(["dev", "null"], .empty)]⟩

/-- The tree of a run with given input. -/
def withInput (tree : FileTree) (input : ByteArray) : FileTree :=
  { tree with devices := (["dev", "stdin"], input) :: tree.devices }

def systemDirectories : List String :=
  ["bin", "dev", "etc", "home", "lib", "opt", "proc", "root", "run", "sbin", "sys", "tmp", "usr",
   "var"]

/-- The tree with a file, or with a directory if the path ends with a slash, and with the
directories on the way to it. -/
def add (tree : FileTree) (path : String) (content : ByteArray) : FileTree :=
  let names := names path
  let above := (List.range names.length).map fun count => names.take count
  if path.endsWith "/" then { tree with directories := names :: above ++ tree.directories }
  else
    { tree with files := (names, content) :: tree.files, directories := above ++ tree.directories }

/-- Where a path leads. -/
inductive Place where
  | file (content : ByteArray)
  /-- A directory of the tree. -/
  | directory (names : List String)
  /-- A directory above the tree. -/
  | outside
  /-- A directory by the names on the way from the root. -/
  | system (names : List String)

def nameLimit : Nat := 255

def pathLimit : Nat := 4095

/-- The place of a name in a directory of the tree. -/
def child (tree : FileTree) (directory : List String) (name : String) : Except FileError Place :=
  let names := directory ++ [name]
  if nameLimit < name.utf8ByteSize then .error .nameTooLong
  else
    match tree.files.lookup names with
    | some content => .ok (.file content)
    | none => if tree.directories.contains names then .ok (.directory names) else .error .notFound

/-- The place of a name in a directory that is found from the root. -/
def systemChild (tree : FileTree) (directory : List String) (name : String) :
    Except FileError Place :=
  let names := directory ++ [name]
  if nameLimit < name.utf8ByteSize then .error .nameTooLong
  else
    match tree.devices.lookup names with
    | some content => .ok (.file content)
    | none =>
      if directory.isEmpty && systemDirectories.contains name then .ok (.system names)
      else .error .notFound

/-- Follows the parts of a path from a place. -/
def follow (tree : FileTree) (place : Place) : List String → Except FileError Place
  | [] => .ok place
  | part :: rest =>
    match place with
    | .file _ => .error .notDirectory
    | .directory names =>
      if part == "" || part == "." then tree.follow (.directory names) rest
      else if part == ".." then
        tree.follow (if names.isEmpty then .outside else .directory names.dropLast) rest
      else
        match tree.child names part with
        | .ok place => tree.follow place rest
        | .error cause => .error cause
    | .outside =>
      if part == "" || part == "." || part == ".." then tree.follow .outside rest
      else if nameLimit < part.utf8ByteSize then .error .nameTooLong
      else .error .notFound
    | .system names =>
      if part == "" || part == "." then tree.follow (.system names) rest
      else if part == ".." then tree.follow (.system names.dropLast) rest
      else
        match tree.systemChild names part with
        | .ok place => tree.follow place rest
        | .error cause => .error cause

def locate (tree : FileTree) (path : String) : Except FileError Place :=
  if path.isEmpty then .error .notFound
  else if path.toList.contains '\x00' then .error .badPath
  else if pathLimit < path.utf8ByteSize then .error .nameTooLong
  else
    let start := if path.startsWith "/" then Place.system [] else .directory []
    tree.follow start ((Path.parts path.toList).map String.ofList)

def read (tree : FileTree) (path : String) : Except FileError ByteArray :=
  match tree.locate path with
  | .ok (.file content) => .ok content
  | .ok _ => .error .isDirectory
  | .error cause => .error cause

def isFile (tree : FileTree) (path : String) : Bool :=
  match tree.locate path with
  | .ok (.file _) => true
  | _ => false

end FileTree

end Highlighter
