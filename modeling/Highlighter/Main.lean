import Highlighter.CommandLine.Run

/-!
# The program

Looks up what a run needs of its surroundings, runs, and hands on what the run
leaves behind.
-/

set_option autoImplicit false

namespace Highlighter.CommandLine

/-- The kind of a failure that the system reports. -/
def fileErrorOf : IO.Error → FileError
  | .noFileOrDirectory .. => .notFound
  | .inappropriateType _ 20 _ => .notDirectory
  | .inappropriateType .. => .isDirectory
  | .invalidArgument _ 36 _ => .nameTooLong
  | failure => .other (toString failure)

def readPath (path : String) : IO (Except FileError ByteArray) := do
  try
    return .ok (← IO.FS.readBinFile path)
  catch failure => return .error (fileErrorOf failure)

/-- The surroundings of a run, as far as it can see them: the files that it may ask for, and
standard input if the source comes from there. -/
def surroundings (options : Options) : IO World := do
  let home ← IO.getEnv "HOME"
  let noColor ← IO.getEnv "NO_COLOR"
  let paths := (home.map ThemeFile.pathIn).toList ++ options.config.toList
    ++ options.sourceFile?.toList
  let contents ← paths.mapM fun path => do return (path, ← readPath path)
  let input ← match options.sourceFile? with
    | some _ => pure ByteArray.empty
    | none => (← IO.getStdin).readBinToEnd
  return {
    home
    colors := noColor.all String.isEmpty
    input := .ok input
    read := fun path => (contents.lookup path).getD (.error .notFound)
    isFile := fun path =>
      match contents.lookup path with
      | some (.ok _) => true
      | _ => false }

end Highlighter.CommandLine

open Highlighter Highlighter.CommandLine in
def main (arguments : List String) : IO UInt32 := do
  let stderr ← IO.getStderr
  let world ← match parse arguments with
    | .ok (.run options) => surroundings options
    | .ok _ => pure .nowhere
    | .error fault => do
      stderr.putStrLn ("error: " ++ fault.message)
      pure .nowhere
  let report := execute world arguments (.empty none)
  for line in report.log do
    stderr.putStrLn line
  let stdout ← IO.getStdout
  stdout.write ⟨report.stdout.accepted⟩
  stdout.flush
  return report.code
