import LayoutParity.Command.Run
import LayoutParity.Command.Usage

/-!
# The program

Reads the command line, looks at the files that a plan may depend on, and carries the plan out.
Everything that is decided is decided by `Invocation.ofWords` and `Invocation.plan`.
-/

namespace LayoutParity

/-- The file error that an error of the system stands for. Its code is given with either sign. -/
def fileErrorOf (error : IO.Error) : FileError :=
  match error with
  | .noFileOrDirectory .. => .notFound
  | .inappropriateType _ code _ =>
    if code = 20 || code = 0 - 20 then .notDirectory
    else if code = 21 || code = 0 - 21 then .isDirectory
    else .other (toString error)
  | _ => .other (toString error)

/-- The text of a file. -/
def readTextFile (path : String) : IO (Except FileError String) := do
  try
    return FileTree.decodeText (← IO.FS.readBinFile path)
  catch error =>
    return .error (fileErrorOf error)

/-- Whether a path leads to a directory, which shows when a byte of it is read. -/
def leadsToDirectory (path : String) : IO Bool := do
  try
    let handle ← IO.FS.Handle.mk path .read
    discard (handle.read 1)
    return false
  catch error =>
    return fileErrorOf error = .isDirectory

/-- What an invocation can look at before it acts. -/
def lookAround (invocation : Invocation) : IO Surroundings := do
  let content ←
    match invocation.settings.config? with
    | some path => readTextFile path
    | none => pure (.error .notFound)
  let isDirectory ←
    match invocation.request with
    | .check { output? := some path, .. } => leadsToDirectory path
    | _ => pure false
  return ⟨← (← IO.getStdout).isTty, fun _ => content, fun _ => isDirectory⟩

/-- Does the act that ends a run. -/
def perform (ending : Ending) : IO (Except Failure Nat) := do
  match ending.act with
  | .print text =>
    IO.print text
    return .ok ending.exitCode
  | .write path text notice =>
    try
      IO.FS.writeFile path text
      IO.print notice
      return .ok ending.exitCode
    catch error =>
      return .error (.report path (fileErrorOf error))

/-- Carries an invocation out. -/
def execute (invocation : Invocation) : IO UInt32 := do
  let surroundings ← lookAround invocation
  let (planned, log) := (invocation.plan surroundings).run.run []
  for line in Invocation.shownLog invocation.settings log do
    IO.eprintln s!"[{line.text}]"
  let result ←
    match planned with
    | .ok ending => perform ending
    | .error failure => pure (.error failure)
  match result with
  | .ok exitCode => return exitCode.toUInt32
  | .error failure =>
    IO.eprintln s!"[!] {failure.message}"
    return exitFailure.toUInt32

end LayoutParity

open LayoutParity in
/-- Runs the program on the words of its command line. -/
def main (words : List String) : IO UInt32 := do
  match Invocation.ofWords words with
  | .ok invocation => execute invocation
  | .error refusal =>
    if refusal.exitCode = 0 then IO.print refusal.answer else IO.eprint refusal.answer
    return refusal.exitCode.toUInt32
