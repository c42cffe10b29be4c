import LayoutParity.Command.Invocation
import LayoutParity.Command.Options

/-!
# Usage

What the program prints about itself. The page for help is put together from the commands and the
options that a command line is read with, each with the text of its declaration. Several options are
declared without one, and `--struct` has one in front of a single command only.
-/

namespace LayoutParity

/-- What the command does. -/
def Verb.purpose : Verb → String
  | check => "Compare host and device layouts of registered structs"
  | layout => "Print one struct's layout under one policy"
  | type => "Print a type's size and alignment under every policy"
  | list => "List registered structs"

/-- What the operand of the command is. -/
def Verb.operandPurpose? : Verb → Option String
  | type => some "Type name, e.g. float3 or packed_float3"
  | _ => none

/-- What the option does, before the command or among those of a command. -/
def CommandOption.purpose? (verb? : Option Verb) : CommandOption → Option String
  | config => some "JSON file with default policies and output settings"
  | struct => if verb? = some .check then some "Only check these structs (repeatable)" else none
  | nested => some "Also compare fields inside nested structs"
  | padding => some "Show padding holes in the text report"
  | summary => some "Only print one status line per struct"
  | _ => none

namespace Usage

/-- The name of the program. -/
def programName : String := "shader-layout-check"

/-- What the program is for. -/
def about : String := "Checks that host and shader struct layouts agree"

/-- The line that answers the question for the version. -/
def version : String := programName ++ " 1.0.0\n"

/-- The line for a thing that may be given, with its text. -/
def entry (word : String) (purpose? : Option String) : String :=
  match purpose? with
  | none => s!"  {word}\n"
  | some purpose => s!"  {word}  {purpose}\n"

/-- How an option is written. -/
def spelling (option : CommandOption) : String :=
  match option.letter? with
  | none => s!"--{option.long}"
  | some letter => s!"-{letter}, --{option.long}"

/-- The lines of the options before the command, or of those of a command. -/
def options (verb? : Option Verb) : String :=
  String.join <| (CommandOption.available verb?).map fun option =>
    entry (spelling option) (option.purpose? verb?)

/-- The part of the page about a command. -/
def command (verb : Verb) : String :=
  let operand := (verb.operandPurpose?.map fun purpose => s!"  {purpose}\n").getD ""
  s!"\n{verb.word}: {verb.purpose}\n" ++ operand ++ options (some verb)

/-- The line that says how a command line begins. -/
def line : String := s!"Usage: {programName} [OPTIONS] <COMMAND>\n"

/-- The page that answers the question for help. -/
def page : String :=
  s!"{about}\n\n{line}\n" ++ options none ++ String.join (Verb.all.map command)

end Usage

/-- What is printed instead of carrying a command line out: the answer to a question, the page for
help if there is nothing to carry out, and how to write a command line that is wrong. -/
def Refusal.answer : Refusal → String
  | versionAsked => Usage.version
  | helpAsked | nothingGiven => Usage.page
  | _ => Usage.line

end LayoutParity
