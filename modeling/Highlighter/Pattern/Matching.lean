import Highlighter.Pattern.Marks
import Highlighter.Pattern.Tree

/-!
# Matching a pattern

A text is read once from its start, and all ways through a tree that are
still open are followed together, the preferred before the others.  A way that
is open is a thread: it stands at a place of the tree, at which it takes the
next character.  Between two characters a thread goes on to the places that
can be reached from its own, and to the end of the tree if that can be reached
too; a thread that stands at the same place as one before it can do no better
than that one and is left out.

On the way between two characters no choice and no loop is passed twice.  So
a round of a loop that takes no character leads nowhere, and of the ways that
go through a part of the tree in between two characters the first alone
counts: what the others could reach, the first has reached before.

The match that begins earliest wins, and among those the one that is preferred:
the first branch of a choice before the second, another round of a greedy loop
before its end.
-/

set_option autoImplicit false

namespace Highlighter

/-- A stretch of text, by the numbers of characters before its start and before its end. -/
structure Span where
  start : Nat
  stop : Nat
  deriving DecidableEq, Repr

/-- A place in the text. -/
structure Site where
  /-- The character before, unless the text starts here. -/
  before : Option Char
  after : Option Char
  index : Nat
  deriving DecidableEq, Repr

/-- What is known of the way to a place of a tree. -/
structure Path where
  /-- Where the way began. -/
  start : Nat
  /-- Where the groups that are open began, the innermost first. -/
  opened : List Nat
  /-- The groups recorded so far, the latest first. -/
  groups : List (Nat × Span)
  passed : Marks
  deriving DecidableEq, Repr

namespace Path

/-- The way that begins at a place in the text. -/
def begin (index : Nat) : Path := ⟨index, [], [], .empty⟩

/-- The way past a choice or a loop, which cannot be passed twice in one place. -/
def pass? (path : Path) (number : Nat) : Option Path :=
  if path.passed.contains number then none
  else some { path with passed := path.passed.insert number }

def enterGroup (path : Path) (index : Nat) : Path :=
  { path with opened := index :: path.opened }

def leaveGroup (path : Path) (group index : Nat) : Path :=
  match path.opened with
  | [] => path
  | start :: opened =>
    { path with opened, groups := (group, ⟨start, index⟩) :: path.groups }

end Path

/-- A way through a tree that is still open. -/
structure Thread where
  /-- The number of the place at which the thread takes the next character. -/
  place : Nat
  path : Path
  deriving DecidableEq, Repr

/-- The ways that lead on through a tree between two characters. -/
structure Ways where
  /-- The threads that are preferred to going through. -/
  sooner : List Thread
  /-- The way through the whole tree, if there is one. -/
  through : Option Path
  /-- The threads to which going through is preferred. -/
  later : List Thread
  deriving DecidableEq, Repr

namespace Ways

def none : Ways := ⟨[], .none, []⟩

def pass (path : Path) : Ways := ⟨[], some path, []⟩

def take (place : Nat) (path : Path) : Ways := ⟨[⟨place, path⟩], .none, []⟩

/-- The threads, the preferred first. -/
def threads (ways : Ways) : List Thread := ways.sooner ++ ways.later

/-- The ways through a tree and then through what follows it. -/
def andThen (ways : Ways) (next : Path → Ways) : Ways :=
  match ways.through with
  | .none => ways
  | some path =>
    let rest := next path
    ⟨ways.sooner ++ rest.sooner, rest.through, rest.later ++ ways.later⟩

/-- The ways through one of two trees, the first preferred. -/
def orElse (first second : Ways) : Ways :=
  match first.through with
  | .none => ⟨first.threads ++ second.sooner, second.through, second.later⟩
  | some _ => ⟨first.sooner, first.through, first.later ++ second.threads⟩

end Ways

namespace Tree

/-- The place `number`, if the next character is `c`. -/
def takeChar (site : Site) (c : Char) (number : Nat) (path : Path) : Ways :=
  if site.after == some c then .take number path else .none

/-- The ways on from the start of a round of a loop, or out of the loop. -/
def anotherRound (greedy : Bool) (number : Nat) (enterBody : Path → Ways) (path : Path) : Ways :=
  match path.pass? number with
  | none => .none
  | some path =>
    if greedy then ⟨(enterBody path).threads, some path, []⟩
    else ⟨[], some path, (enterBody path).threads⟩

/-- The ways through `count` copies that take `width` numbers each, from `base` on. -/
def enterCopies (enterBody : Nat → Path → Ways) (width : Nat) : Nat → Nat → Path → Ways
  | 0, _, path => .pass path
  | count + 1, base, path =>
    (enterBody base path).andThen (enterCopies enterBody width count (base + width))

/-- The ways through up to `count` copies, from `base` on. -/
def enterUpTo (enterBody : Nat → Path → Ways) (greedy : Bool) (width : Nat) :
    Nat → Nat → Path → Ways
  | 0, _, path => .pass path
  | count + 1, base, path =>
    match path.pass? base with
    | none => .none
    | some path =>
      let more := (enterBody (base + 1) path).andThen
        (enterUpTo enterBody greedy width count (base + 1 + width))
      if greedy then more.orElse (.pass path) else (Ways.pass path).orElse more

/-- The ways into a tree, whose numbers begin with `base`. -/
def enter (site : Site) : Tree → Nat → Path → Ways
  | empty, _, path => .pass path
  | literal [], _, path => .pass path
  | literal (c :: _), base, path => takeChar site c base path
  | chars set, base, path => if site.after.any set.contains then .take base path else .none
  | check assertion, _, path =>
    if assertion.holds site.before site.after then .pass path else .none
  | seq width first rest, base, path =>
    (enter site first base path).andThen (enter site rest (base + width))
  | choice width first rest, base, path =>
    match path.pass? base with
    | none => .none
    | some path =>
      (enter site first (base + 1) path).orElse (enter site rest (base + 1 + width) path)
  | group index body, base, path =>
    (enter site body base (path.enterGroup site.index)).andThen fun path =>
      .pass (path.leaveGroup index site.index)
  | loop greedy once body, base, path =>
    let again := anotherRound greedy base (enter site body (base + 1))
    if once then (enter site body (base + 1) path).andThen again else again path
  | copies count width body, base, path => enterCopies (enter site body) width count base path
  | upTo count greedy width body, base, path =>
    enterUpTo (enter site body) greedy width count base path

/-- The ways on from a place of a tree, whose character has just been taken. -/
def resume (site : Site) : Tree → Nat → Nat → Path → Ways
  | empty, _, _, _ => .none
  | literal text, base, place, path =>
    match text.drop (place - base + 1) with
    | [] => .pass path
    | c :: _ => takeChar site c (place + 1) path
  | chars _, _, _, path => .pass path
  | check _, _, _, _ => .none
  | seq width first rest, base, place, path =>
    if place < base + width then
      (resume site first base place path).andThen (enter site rest (base + width))
    else resume site rest (base + width) place path
  | choice width first rest, base, place, path =>
    if place < base + 1 + width then resume site first (base + 1) place path
    else resume site rest (base + 1 + width) place path
  | group index body, base, place, path =>
    (resume site body base place path).andThen fun path =>
      .pass (path.leaveGroup index site.index)
  | loop greedy _ body, base, place, path =>
    (resume site body (base + 1) place path).andThen
      (anotherRound greedy base (enter site body (base + 1)))
  | copies count width body, base, place, path =>
    let copy := (place - base) / width
    (resume site body (base + copy * width) place path).andThen
      (enterCopies (enter site body) width (count - copy - 1) (base + (copy + 1) * width))
  | upTo count greedy width body, base, place, path =>
    let copy := (place - base) / (1 + width)
    (resume site body (base + copy * (1 + width) + 1) place path).andThen
      (enterUpTo (enter site body) greedy width (count - copy - 1)
        (base + (copy + 1) * (1 + width)))

end Tree

structure Match where
  span : Span
  groups : List (Nat × Span)
  deriving DecidableEq, Repr

namespace Match

/-- Where the group of a given number took part last, if it did. -/
def group? (found : Match) (index : Nat) : Option Span :=
  found.groups.lookup index

/-- The match of a way that ends at a place in the text. -/
def ofPath (path : Path) (index : Nat) : Match :=
  ⟨⟨path.start, index⟩, path.groups⟩

end Match

namespace Thread

/-- The threads of a list whose places are neither in `seen` nor those of earlier threads. -/
def distinct (seen : Marks) : List Thread → List Thread
  | [] => []
  | thread :: threads =>
    if seen.contains thread.place then distinct seen threads
    else thread :: distinct (seen.insert thread.place) threads

end Thread

namespace Tree

/-- The ways on from the places of several threads, which have just taken a character, with the
threads before the first way through. -/
def follow (tree : Tree) (site : Site) : List Thread → List Thread × Option Path
  | [] => ([], none)
  | thread :: threads =>
    let ways := tree.resume site 0 thread.place { thread.path with passed := .empty }
    match ways.through with
    | some path => (ways.sooner, some path)
    | none =>
      let (going, through) := tree.follow site threads
      (ways.threads ++ going, through)

/-- The ways of the threads, and after them those of a match that begins here if `fresh`. -/
def advance (tree : Tree) (site : Site) (fresh : Bool) (threads : List Thread) :
    List Thread × Option Path :=
  match tree.follow site threads, fresh with
  | (going, none), true =>
    let ways := tree.enter site 0 (.begin site.index)
    match ways.through with
    | some path => (going ++ ways.sooner, some path)
    | none => (going ++ ways.threads, none)
  | result, _ => result

/-- Reads a text on with the threads that have just taken the character before it.  `best` is the
best match so far.  A match may begin here if there is none yet and it is either the start of the
text or `anchored` is false. -/
def search (tree : Tree) (anchored : Bool) (threads : List Thread) (best : Option Match)
    (before : Option Char) (index : Nat) (text : List Char) : Option Match :=
  let fresh := best.isNone && (index == 0 || !anchored)
  let (going, through) := tree.advance ⟨before, text.head?, index⟩ fresh threads
  let best := match through with
    | some path => some (.ofPath path index)
    | none => best
  match text with
  | [] => best
  | c :: rest =>
    if going.isEmpty && (best.isSome || anchored) then best
    else search tree anchored (Thread.distinct .empty going) best (some c) (index + 1) rest

/-- The match in a text that begins earliest, or, if `anchored`, the one that begins at its
start. -/
def find? (tree : Tree) (anchored : Bool) (text : List Char) : Option Match :=
  tree.search anchored [] none none 0 text

end Tree

end Highlighter
