import LayoutParity.Policy
import LayoutParity.Report.Format

/-!
# Commands and their options

The words of the command line: the four commands, the options that may be given before or after a
command, and those of each command. An option has a long name, perhaps a letter, and either takes a
value or is a switch.
-/

namespace LayoutParity

/-- What the program can be asked to do. -/
inductive Verb where
  /-- Compare the layouts of structs and report. -/
  | check
  /-- Describe the layout of a struct. -/
  | layout
  /-- Describe a type. -/
  | type
  /-- List the built-in structs. -/
  | list
deriving DecidableEq, Repr

namespace Verb

/-- All commands. -/
def all : List Verb := [check, layout, type, list]

/-- The word that gives the command. -/
def word : Verb → String
  | check => "check"
  | layout => "layout"
  | type => "type"
  | list => "list"

/-- The command of a word. -/
def ofWord? (word : String) : Option Verb :=
  all.find? fun verb => verb.word == word

end Verb

/-- The word that asks for help instead of a command. -/
def helpWord : String := "help"

/-- An option of the command line. -/
inductive CommandOption where
  | logLevel
  | quiet
  | noColor
  | config
  | struct
  | host
  | device
  | nested
  | format
  | output
  | padding
  | summary
  | policy
  | help
  | version
deriving DecidableEq, Repr

namespace CommandOption

/-- The long name, which two hyphens come before. -/
def long : CommandOption → String
  | logLevel => "log-level"
  | quiet => "quiet"
  | noColor => "no-color"
  | config => "config"
  | struct => "struct"
  | host => "host"
  | device => "device"
  | nested => "nested"
  | format => "format"
  | output => "output"
  | padding => "padding"
  | summary => "summary"
  | policy => "policy"
  | help => "help"
  | version => "version"

/-- The letter, which one hyphen comes before. -/
def letter? : CommandOption → Option Char
  | logLevel => some 'l'
  | quiet => some 'q'
  | config => some 'c'
  | struct => some 's'
  | format => some 'f'
  | output => some 'o'
  | policy => some 'p'
  | help => some 'h'
  | version => some 'V'
  | noColor | host | device | nested | padding | summary => none

/-- Whether the option takes a value; the others are switches. -/
def takesValue : CommandOption → Bool
  | logLevel | config | struct | host | device | format | output | policy => true
  | quiet | noColor | nested | padding | summary | help | version => false

/-- Whether a value may be given to the option: a policy and a form of report go by their exact
names, and a path is not empty. -/
def accepts (option : CommandOption) (value : String) : Bool :=
  match option with
  | host | device | policy => (Policy.ofExactName? value).isSome
  | format => (ReportFormat.ofName? value).isSome
  | config | output => value ≠ ""
  | _ => true

/-- The options that may be given before and after a command. -/
def shared : List CommandOption := [logLevel, quiet, noColor, config]

/-- The options before the command, or those of a command. -/
def available : Option Verb → List CommandOption
  | none => shared ++ [help, version]
  | some .check =>
    shared ++ [struct, host, device, nested, format, output, padding, summary, help]
  | some .layout => shared ++ [struct, policy, help]
  | some .type | some .list => shared ++ [help]

/-- Whether an option of a command may be given more than once. -/
def repeatable (verb? : Option Verb) (option : CommandOption) : Bool :=
  verb? = some .check && option = struct

/-- The available option of a long name. -/
def ofLong? (verb? : Option Verb) (name : String) : Option CommandOption :=
  (available verb?).find? fun option => option.long == name

/-- The available option of a letter. -/
def ofLetter? (verb? : Option Verb) (letter : Char) : Option CommandOption :=
  (available verb?).find? fun option => option.letter? == some letter

end CommandOption

end LayoutParity
