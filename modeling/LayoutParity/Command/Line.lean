import LayoutParity.Command.Invocation
import LayoutParity.Command.Options

/-!
# Reading the command line

A command line is read in two levels: options before the command, and the options and operands of
the command. On either level, words are taken one by one:

* an option that takes a value has it attached (`--name=value`, `-nvalue`, `-n=value`) or waits for
  the next word that is neither an option nor `--`;
* letters may be joined behind one hyphen, the last with its value;
* after `--` every word is an operand.

An attached value and a switch are settled at once; a value taken from the next word is settled
when the next option or operand is met, or at the end of its level. Settling finds a missing value
first, then a repeated option, then a value that is not accepted. An unknown option is found before
the option in front of it is settled, and the command's level ends before that of the options in
front of it.
-/

namespace LayoutParity

/-- One level of the command line while it is read. -/
structure LineLevel where
  /-- The command whose level it is, or none for the level in front of it. -/
  verb? : Option Verb
  /-- The options that are settled, with their values, in order. -/
  given : List (CommandOption × String)
  /-- The option that is not settled, with its value if it has one. -/
  pending? : Option (CommandOption × Option String)
  operand? : Option String
  /-- Whether every further word is an operand. -/
  operandsOnly : Bool

namespace LineLevel

/-- A level without words. -/
def start (verb? : Option Verb) : LineLevel := ⟨verb?, [], none, none, false⟩

/-- The value that an option was given last. -/
def value? (level : LineLevel) (option : CommandOption) : Option String :=
  (level.given.reverse.find? (·.1 = option)).map (·.2)

/-- All values that an option was given. -/
def values (level : LineLevel) (option : CommandOption) : List String :=
  (level.given.filter (·.1 = option)).map (·.2)

/-- Whether an option was given. -/
def has (level : LineLevel) (option : CommandOption) : Bool :=
  level.given.any (·.1 = option)

/-- Whether an option waits for its value. -/
def awaitsValue (level : LineLevel) : Bool :=
  level.pending? matches some (_, none)

/-- The level with an option added that has its value or is a switch. -/
def add (level : LineLevel) (option : CommandOption) (value : String) :
    Except Refusal LineLevel :=
  if level.has option && !CommandOption.repeatable level.verb? option then .error .repeatedOption
  else if !option.accepts value then .error .invalidValue
  else .ok { level with given := level.given ++ [(option, value)] }

/-- The level with the pending option settled. -/
def settle (level : LineLevel) : Except Refusal LineLevel :=
  match level.pending? with
  | none => .ok level
  | some (_, none) => .error .invalidValue
  | some (option, some value) => { level with pending? := none }.add option value

/-- The level after an option with a value, or after a switch. -/
def take (level : LineLevel) (option : CommandOption) (value : String) :
    Except Refusal LineLevel := do
  let level ← level.settle
  match option with
  | .help => throw .helpAsked
  | .version => throw .versionAsked
  | option => level.add option value

/-- The level after an option whose value is to come. -/
def await (level : LineLevel) (option : CommandOption) : Except Refusal LineLevel := do
  return { ← level.settle with pending? := some (option, none) }

/-- The level after the letters behind one hyphen. -/
def takeLetters (level : LineLevel) : List Char → Except Refusal LineLevel
  | [] => .ok level
  | letter :: rest =>
    match CommandOption.ofLetter? level.verb? letter with
    | none => .error .unknownArgument
    | some option =>
      if option.takesValue then
        match rest with
        | [] => level.await option
        | '=' :: value => level.take option (String.ofList value)
        | value => level.take option (String.ofList value)
      else do
        let level ← level.take option ""
        level.takeLetters rest

/-- The level after what follows two hyphens. -/
def takeLong (level : LineLevel) (word : List Char) : Except Refusal LineLevel :=
  let name := String.ofList (word.takeWhile (· ≠ '='))
  match CommandOption.ofLong? level.verb? name, word.dropWhile (· ≠ '=') with
  | none, _ => .error .unknownArgument
  | some option, [] => if option.takesValue then level.await option else level.take option ""
  | some option, _ :: value =>
    if option.takesValue then level.take option (String.ofList value) else .error .unexpectedValue

/-- Whether a word is that of a command or of the question for help. -/
def isCommandWord (word : String) : Bool :=
  (Verb.ofWord? word).isSome || word = helpWord

/-- The level after an operand: only the command for types takes one. -/
def takeOperand (level : LineLevel) (word : String) : Except Refusal LineLevel :=
  match level.verb?, level.operand? with
  | some .type, none => do return { ← level.settle with operand? := some word }
  | some _, _ => .error .unknownArgument
  | none, _ =>
    .error (if level.operandsOnly && isCommandWord word then .unknownArgument else .unknownCommand)

/-- The level after one more word. -/
def takeWord (level : LineLevel) (word : String) : Except Refusal LineLevel :=
  if level.operandsOnly then level.takeOperand word
  else
    match word.toList, level.pending? with
    | ['-', '-'], _ => .ok { level with operandsOnly := true }
    | '-' :: '-' :: rest, _ => level.takeLong rest
    | '-' :: letter :: rest, _ => level.takeLetters (letter :: rest)
    | _, some (option, none) => .ok { level with pending? := some (option, some word) }
    | _, _ => level.takeOperand word

end LineLevel

/-- Reads the words of a command: all of them, and then what it needs. -/
def readVerb (verb : Verb) (words : List String) : Except Refusal LineLevel := do
  let level ← words.foldlM LineLevel.takeWord (.start (some verb))
  let level ← level.settle
  let missing :=
    match verb with
    | .layout => !level.has .struct
    | .type => level.operand?.isNone
    | .check | .list => false
  if missing then throw .missingArgument
  return level

/-- Answers the question for help about commands; no command has commands of its own. -/
def readHelp : List String → Refusal
  | [] => .helpAsked
  | [word] => if LineLevel.isCommandWord word then .helpAsked else .unknownCommand
  | _ => .unknownCommand

/-- Reads the words of a command line from the level in front of the command. -/
def readWords (level : LineLevel) : List String → Except Refusal (LineLevel × Verb × LineLevel)
  | [] => do
    let level ← level.settle
    throw (if level.given.isEmpty then .nothingGiven else .missingCommand)
  | word :: rest =>
    if level.operandsOnly || level.awaitsValue then do
      readWords (← level.takeWord word) rest
    else if word = helpWord then .error (readHelp rest)
    else
      match Verb.ofWord? word with
      | some verb => do
        let inner ← readVerb verb rest
        return (← level.settle, verb, inner)
      | none => do readWords (← level.takeWord word) rest

/-- The settings of both levels: the command's own come first. -/
def CommonSettings.ofLevels (outer inner : LineLevel) : CommonSettings where
  logLevel := ((inner.value? .logLevel).or (outer.value? .logLevel)).getD "warn"
  quiet := inner.has .quiet || outer.has .quiet
  noColor := inner.has .noColor || outer.has .noColor
  config? := (inner.value? .config).or (outer.value? .config)

/-- The request that the level of a command makes. -/
def Request.ofLevel (verb : Verb) (level : LineLevel) : Request :=
  let policy? option := (level.value? option).bind Policy.ofExactName?
  match verb with
  | .check =>
    .check {
      structs := level.values .struct
      host? := policy? .host
      device? := policy? .device
      nested := level.has .nested
      format? := (level.value? .format).bind ReportFormat.ofName?
      output? := level.value? .output
      padding := level.has .padding
      summary := level.has .summary }
  | .layout => .layout ((level.value? .struct).getD "") ((policy? .policy).getD .natural)
  | .type => .type (level.operand?.getD "")
  | .list => .list

/-- The invocation that the words of a command line make. -/
def Invocation.ofWords (words : List String) : Except Refusal Invocation := do
  let (outer, verb, inner) ← readWords (.start none) words
  return ⟨.ofLevels outer inner, .ofLevel verb inner⟩

end LayoutParity
