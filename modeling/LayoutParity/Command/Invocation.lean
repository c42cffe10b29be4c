import LayoutParity.Policy
import LayoutParity.Report.Format

/-!
# Invocations

What a command line asks for, once it is understood: settings that hold for every command, and the
request itself. Options that were not given are none, except where a command has a value of its own
for them.
-/

namespace LayoutParity

/-- The settings that hold for every command. -/
structure CommonSettings where
  logLevel : String
  quiet : Bool
  noColor : Bool
  /-- The path of the configuration file. -/
  config? : Option String
deriving DecidableEq, Repr

/-- A request to compare structs; what is none is left to the configuration. -/
structure CheckRequest where
  structs : List String
  host? : Option Policy
  device? : Option Policy
  nested : Bool
  format? : Option ReportFormat
  output? : Option String
  padding : Bool
  summary : Bool
deriving DecidableEq, Repr

/-- What is asked for. -/
inductive Request where
  | check (request : CheckRequest)
  | layout (struct : String) (policy : Policy)
  | type (name : String)
  | list
deriving DecidableEq, Repr

/-- A request with the settings it is to be carried out under. -/
structure Invocation where
  settings : CommonSettings
  request : Request
deriving DecidableEq, Repr

/-- Why a command line is no invocation. -/
inductive Refusal where
  /-- An option that is not available, or a word that nothing takes. -/
  | unknownArgument
  /-- A value that its option does not accept, or an option without its value. -/
  | invalidValue
  /-- An option that is given twice. -/
  | repeatedOption
  /-- A value for a switch. -/
  | unexpectedValue
  /-- A command without something it needs. -/
  | missingArgument
  /-- A word in the place of a command that is none. -/
  | unknownCommand
  /-- Options without a command. -/
  | missingCommand
  /-- Nothing at all. -/
  | nothingGiven
  /-- A question for help. -/
  | helpAsked
  /-- A question for the version. -/
  | versionAsked
deriving DecidableEq, Repr

/-- The exit code of a refused command line; questions are not errors. -/
def Refusal.exitCode : Refusal → Nat
  | helpAsked | versionAsked => 0
  | _ => 2

end LayoutParity
