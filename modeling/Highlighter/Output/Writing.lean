import Highlighter.Failure
import Highlighter.Scan.TokenSource
import Highlighter.Text.Utf8

/-!
# Programs that write

A program writes text by text to an output, and each of its writes can fail.  A
failure ends the program at once; what has been written before it stays written.
-/

set_option autoImplicit false

namespace Highlighter

/-- What programs write to. -/
class Output (σ : Type) where
  /-- Writes all of some bytes, unless it fails. -/
  write : σ → List UInt8 → σ × Option FileError
  /-- Has what has been written so far reach the place that it is meant for. -/
  flush : σ → σ × Option FileError
  /-- Is told of a step through the text that the program writes about. -/
  report : σ → Step → σ := fun output _ => output

/-- A program that writes to an output until it comes to a value or fails. -/
abbrev Writing (σ : Type) := ExceptT FileError (StateM σ)

namespace Writing

variable {σ : Type}

/-- Runs a program only where a condition holds. -/
def when (condition : Bool) (program : Writing σ Unit) : Writing σ Unit :=
  if condition then program else pure ()

/-- Does something to the output, and ends the program if that fails. -/
def attempt (action : σ → σ × Option FileError) : Writing σ Unit :=
  ExceptT.mk fun output =>
    match action output with
    | (output, none) => (.ok (), output)
    | (output, some cause) => (.error cause, output)

variable [Output σ]

def print (text : List Char) : Writing σ Unit :=
  attempt fun output => Output.write output (Utf8.encode text)

/-- Prints texts one by one. -/
def printAll : List (List Char) → Writing σ Unit
  | [] => pure ()
  | text :: texts => do
    print text
    printAll texts

def flush : Writing σ Unit :=
  attempt Output.flush

def report (step? : Option Step) : Writing σ Unit :=
  modify fun output => step?.elim output (Output.report output)

/-! ## Tokens -/

variable {ι α : Type} [TokenSource ι]

/-- Runs a program on each token of a source, with the value that it came to on the token before. -/
def foldTokens (program : α → Token → Writing σ α) (value : α) (source : ι) : Writing σ α := do
  report (TokenSource.nextStep? source)
  match _ : TokenSource.next source with
  | (none, _) => return value
  | (some token, following) => foldTokens program (← program value token) following
termination_by source
decreasing_by exact TokenSource.next_rel ‹_›

def eachToken (program : Token → Writing σ Unit) (source : ι) : Writing σ Unit :=
  foldTokens (fun _ => program) () source

end Writing

end Highlighter
