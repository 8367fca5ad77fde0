import Highlighter.Output.Writing
import Highlighter.Proofs.Scan.TokenSource

/-!
# What programs write

Whatever a program writes to, it writes the same pieces in the same order, and it
writes them as far as the first that fails.  That is shown program by program: each
write of a program that fails has to be its last.  A program that runs on the tokens
of a source writes what the list of these tokens is written as, and reports the
steps that the source takes on the way.
-/

set_option autoImplicit false

namespace Highlighter

/-! ## Pieces of output -/

/-- What is handed to an output at one time. -/
inductive Piece where
  | text (content : List Char)
  /-- A demand that all text so far reach the place that it is meant for. -/
  | flush
  deriving DecidableEq, Repr

namespace Piece

def content : Piece → List Char
  | text content => content
  | flush => []

def ofString (content : String) : Piece := text content.toList

def contents (pieces : List Piece) : List Char :=
  pieces.flatMap content

@[simp] theorem content_text (content : List Char) : (text content).content = content := rfl

@[simp] theorem content_ofString (content : String) :
    (ofString content).content = content.toList := rfl

@[simp] theorem contents_nil : contents [] = [] := rfl

@[simp] theorem contents_cons (piece : Piece) (pieces : List Piece) :
    contents (piece :: pieces) = piece.content ++ contents pieces := rfl

theorem contents_append (first second : List Piece) :
    contents (first ++ second) = contents first ++ contents second :=
  List.flatMap_append

theorem contents_singleton (piece : Piece) : contents [piece] = piece.content :=
  List.flatMap_singleton _ _

end Piece

namespace Output

variable {σ : Type} [Output σ]

def put (output : σ) : Piece → σ × Option FileError
  | .text content => write output (Utf8.encode content)
  | .flush => flush output

/-- Puts pieces one by one, until one fails. -/
def putAll (output : σ) : List Piece → σ × Option FileError
  | [] => (output, none)
  | piece :: pieces =>
    match put output piece with
    | (output, none) => putAll output pieces
    | (output, some cause) => (output, some cause)

end Output

/-! ## What a program does to its output -/

inductive Act where
  | put (piece : Piece)
  | report (step : Step)
  deriving DecidableEq, Repr

namespace Act

def piece? : Act → Option Piece
  | put piece => some piece
  | report _ => none

def step? : Act → Option Step
  | put _ => none
  | report step => some step

variable {σ α : Type} [Output σ]

/-- Does one thing after another, until one fails. -/
def doAll (output : σ) : List Act → σ × Option FileError
  | [] => (output, none)
  | put piece :: acts =>
    match Output.put output piece with
    | (output, none) => doAll output acts
    | (output, some cause) => (output, some cause)
  | report step :: acts => doAll (Output.report output step) acts

theorem doAll_append (output : σ) (first second : List Act) :
    doAll output (first ++ second) =
      match doAll output first with
      | (output, none) => doAll output second
      | (output, some cause) => (output, some cause) := by
  induction first generalizing output with
  | nil => rfl
  | cons act acts inductionHypothesis =>
    cases act with
    | report step => exact inductionHypothesis _
    | put piece =>
      rw [List.cons_append, doAll, doAll]
      rcases Output.put output piece with ⟨later, failure⟩
      cases failure with
      | none => exact inductionHypothesis later
      | some cause => rfl

theorem eq_map_put {acts : List Act} (silent : acts.filterMap step? = []) :
    acts = (acts.filterMap piece?).map put := by
  induction acts with
  | nil => rfl
  | cons act acts inductionHypothesis =>
    cases act with
    | report step => cases silent
    | put piece => exact congrArg (put piece :: ·) (inductionHypothesis silent)

theorem doAll_map_put (output : σ) (pieces : List Piece) :
    doAll output (pieces.map put) = Output.putAll output pieces := by
  induction pieces generalizing output with
  | nil => rfl
  | cons piece pieces inductionHypothesis =>
    rw [List.map_cons, doAll, Output.putAll]
    rcases Output.put output piece with ⟨later, failure⟩
    cases failure with
    | none => exact inductionHypothesis later
    | some cause => rfl

end Act

/-! ## Programs -/

namespace Writing

variable {σ α β : Type}

/-- How a program ends that comes to a value unless something that it does fails. -/
def ended (value : α) : σ × Option FileError → Except FileError α × σ
  | (output, none) => (.ok value, output)
  | (output, some cause) => (.error cause, output)

theorem run_attempt (action : σ → σ × Option FileError) (output : σ) :
    (attempt action).run output = ended () (action output) := by
  change (match action output with
    | (output, none) => (Except.ok (), output)
    | (output, some cause) => (Except.error cause, output)) = _
  rcases action output with ⟨later, failure⟩
  cases failure <;> rfl

/-- What comes after a failure is not run. -/
theorem run_bind (program : Writing σ α) (next : α → Writing σ β) (output : σ) :
    (program >>= next).run output =
      match program.run output with
      | (.ok value, output) => (next value).run output
      | (.error cause, output) => (.error cause, output) := by
  change (match program.run output with
    | (outcome, output) => ExceptT.bindCont next outcome output) = _
  rcases program.run output with ⟨outcome, later⟩
  cases outcome <;> rfl

end Writing

section Programs

variable {σ α β : Type} [Output σ]

/-- To any output a program writes pieces and reports steps, each in order, as far as the first
write that fails, and unless one does it comes to a value. -/
def Writes (program : Writing σ α) (pieces : List Piece) (steps : List Step) (value : α) : Prop :=
  ∃ acts : List Act, acts.filterMap Act.piece? = pieces ∧ acts.filterMap Act.step? = steps ∧
    ∀ output, program.run output = Writing.ended value (Act.doAll output acts)

namespace Writes

variable {program : Writing σ α} {next : α → Writing σ β} {pieces more : List Piece}
  {steps further : List Step} {value : α} {result : β}

theorem pure (value : α) : Writes (σ := σ) (Pure.pure value) [] [] value :=
  ⟨[], rfl, rfl, fun _ => rfl⟩

theorem put {action : σ → σ × Option FileError} {piece : Piece}
    (puts : ∀ output, action output = Output.put output piece) :
    Writes (Writing.attempt action) [piece] [] () := by
  refine ⟨[.put piece], rfl, rfl, fun output => ?_⟩
  rw [Writing.run_attempt, puts, Act.doAll]
  rcases Output.put output piece with ⟨later, failure⟩
  cases failure <;> rfl

theorem print (text : List Char) : Writes (σ := σ) (Writing.print text) [.text text] [] () :=
  put fun _ => rfl

theorem flush : Writes (σ := σ) Writing.flush [.flush] [] () :=
  put fun _ => rfl

theorem report (step? : Option Step) :
    Writes (σ := σ) (Writing.report step?) [] step?.toList () := by
  cases step? with
  | none => exact ⟨[], rfl, rfl, fun _ => rfl⟩
  | some step => exact ⟨[.report step], rfl, rfl, fun _ => rfl⟩

/-- A program that goes on where another has ended does nothing if the other has failed. -/
theorem bind (first : Writes program pieces steps value)
    (second : Writes (next value) more further result) :
    Writes (program >>= next) (pieces ++ more) (steps ++ further) result := by
  obtain ⟨acts, rfl, rfl, runs⟩ := first
  obtain ⟨others, rfl, rfl, later⟩ := second
  refine ⟨acts ++ others, List.filterMap_append, List.filterMap_append, fun output => ?_⟩
  rw [Writing.run_bind, runs, Act.doAll_append]
  rcases Act.doAll output acts with ⟨output, failure⟩
  cases failure with
  | none => exact later output
  | some cause => rfl

theorem bind_silent (first : Writes program pieces steps value)
    (second : Writes (next value) more [] result) :
    Writes (program >>= next) (pieces ++ more) steps result := by
  have whole := first.bind second
  rwa [List.append_nil] at whole

theorem bind_pure (writes : Writes program pieces steps value) (result : β) :
    Writes (program >>= fun _ => Pure.pure result) pieces steps result := by
  rw [← List.append_nil pieces]
  exact writes.bind_silent (.pure result)

theorem printAll (texts : List (List Char)) :
    Writes (σ := σ) (Writing.printAll texts) (texts.map .text) [] () := by
  induction texts with
  | nil => exact .pure ()
  | cons text texts inductionHypothesis => exact (print text).bind inductionHypothesis

theorem when {program : Writing σ Unit} (writes : Writes program pieces [] ()) (condition : Bool) :
    Writes (Writing.when condition program) (if condition then pieces else []) [] () := by
  cases condition with
  | false => exact .pure ()
  | true => exact writes

/-- A program that reports nothing does no more than to put its pieces until one fails. -/
theorem run_eq (writes : Writes program pieces [] value) (output : σ) :
    program.run output = Writing.ended value (Output.putAll output pieces) := by
  obtain ⟨acts, rfl, silent, runs⟩ := writes
  rw [runs, ← Act.doAll_map_put, ← Act.eq_map_put silent]

/-- Programs that report nothing are the same if they write the same. -/
theorem unique {other : Writing σ α} (writes : Writes program pieces [] value)
    (same : Writes other pieces [] value) : program = other := by
  refine ExceptT.ext (funext fun output => ?_)
  exact (writes.run_eq output).trans (same.run_eq output).symm

end Writes

/-! ## Tokens -/

/-- What is written for tokens if each of them is written with a value that the token before it has
led to. -/
def foldPieces (pieces : α → Token → List Piece) (next : α → Token → α) (value : α) :
    List Token → List Piece
  | [] => []
  | token :: tokens => pieces value token ++ foldPieces pieces next (next value token) tokens

theorem foldPieces_each (pieces : Token → List Piece) (tokens : List Token) :
    foldPieces (fun _ => pieces) (fun _ _ => ()) () tokens = tokens.flatMap pieces := by
  induction tokens with
  | nil => rfl
  | cons token tokens inductionHypothesis =>
    rw [foldPieces, inductionHypothesis, List.flatMap_cons]

section Sources

variable {ι : Type} [TokenSource ι] {source following : ι} {token : Token}
  {program : α → Token → Writing σ α} {value : α}

theorem Writing.foldTokens_of_none (ended : TokenSource.next source = (none, following)) :
    foldTokens program value source
      = (do report (TokenSource.nextStep? source); return value) := by
  rw [foldTokens]
  split
  · rfl
  · rename_i handed
    rw [ended] at handed
    cases handed

theorem Writing.foldTokens_of_some (handed : TokenSource.next source = (some token, following)) :
    foldTokens program value source = (do
      report (TokenSource.nextStep? source)
      foldTokens program (← program value token) following) := by
  rw [foldTokens]
  split
  · rename_i ended
    rw [handed] at ended
    cases ended
  · rename_i other
    rw [handed] at other
    cases other
    rfl

/-- The tokens of a source are written one after another, and its steps are reported on the way. -/
theorem Writes.foldTokens {pieces : α → Token → List Piece} {next : α → Token → α}
    (each : ∀ value token, Writes (program value token) (pieces value token) []
      (next value token)) {tokens : List Token} {steps : List Step}
    (yields : Yields source tokens steps) (value : α) :
    Writes (Writing.foldTokens program value source) (foldPieces pieces next value tokens) steps
      (tokens.foldl next value) := by
  induction yields generalizing value with
  | done ended =>
    rw [Writing.foldTokens_of_none ended, ← List.append_nil (TokenSource.nextStep? _).toList]
    exact (report _).bind (.pure value)
  | @more _ _ token tokens steps handed _ inductionHypothesis =>
    rw [Writing.foldTokens_of_some handed]
    exact (report _).bind ((each value token).bind (inductionHypothesis (next value token)))

theorem Writes.eachToken {program : Token → Writing σ Unit} {pieces : Token → List Piece}
    (each : ∀ token, Writes (program token) (pieces token) [] ()) {tokens : List Token}
    {steps : List Step} (yields : Yields source tokens steps) :
    Writes (Writing.eachToken program source) (tokens.flatMap pieces) steps () := by
  rw [← foldPieces_each]
  exact .foldTokens (fun _ => each) yields ()

end Sources

end Programs

end Highlighter
