import LayoutParity.Command.Line
import LayoutParity.Command.Plan
import LayoutParity.Files.Tree

/-!
# Runs

Carries an invocation out on a file tree: the tree is what the run looks at, and its act is done to
the tree. A run that fails prints nothing and leaves the tree as it is.
-/

namespace LayoutParity

/-- What a run leaves behind. -/
structure Outcome where
  log : List LogLine
  /-- What was printed. -/
  output : String
  /-- The exit code, or why the run failed. -/
  result : Except Failure Nat
  files : FileTree

/-- What a run on a file tree can look at. -/
def Surroundings.ofTree (terminal : Bool) (files : FileTree) : Surroundings :=
  ⟨terminal, files.readText, files.isDirectory⟩

/-- What is left of a run after its last act. -/
def Ending.outcome (files : FileTree) (log : List LogLine) (ending : Ending) : Outcome :=
  match ending.act with
  | .print text => ⟨log, text, .ok ending.exitCode, files⟩
  | .write path text notice =>
    match files.writeText path text with
    | .ok files => ⟨log, notice, .ok ending.exitCode, files⟩
    | .error error => ⟨log, "", .error (.report path error), files⟩

/-- Carries an invocation out on a file tree. -/
def Invocation.run (terminal : Bool) (files : FileTree) (invocation : Invocation) : Outcome :=
  match (invocation.plan (.ofTree terminal files)).run.run [] with
  | (.ok ending, log) => ending.outcome files log
  | (.error failure, log) => ⟨log, "", .error failure, files⟩

end LayoutParity
