import LayoutParity.Json.Basic

/-!
# Writing JSON

The compact text of a value is the text of its tokens, one after the other. The pretty text has the
same tokens, with every item and member on a line of its own that is indented by two spaces for each
container around it; an empty container stays on its line.

In a string, the quotation mark, the reverse solidus and the control characters are escaped, with
the short form where there is one; every other character stands for itself.
-/

namespace LayoutParity

/-- A lower-case hexadecimal digit. -/
def hexDigit (value : Nat) : Char :=
  if value < 10 then Char.ofNat ('0'.toNat + value) else Char.ofNat ('a'.toNat + (value - 10))

/-- A character as it is written in a string. -/
def Json.escapeChar (c : Char) : List Char :=
  match c with
  | '"' => ['\\', '"']
  | '\\' => ['\\', '\\']
  | '\x08' => ['\\', 'b']
  | '\x0c' => ['\\', 'f']
  | '\n' => ['\\', 'n']
  | '\r' => ['\\', 'r']
  | '\t' => ['\\', 't']
  | c =>
    if c.toNat < 0x20 then
      ['\\', 'u', '0', '0', hexDigit (c.toNat / 16), hexDigit (c.toNat % 16)]
    else [c]

/-- The text of a string, quotation marks included. -/
def Json.quote (text : List Char) : List Char :=
  '"' :: text.flatMap escapeChar ++ ['"']

/-- The text of a value without parts. A number or string without content is written as one of
those that have none. -/
def Atom.chars : Atom → List Char
  | null => "null".toList
  | bool true => "true".toList
  | bool false => "false".toList
  | number (some value) => Nat.toDigits 10 value
  | number none => "-0".toList
  | text (some value) => Json.quote value.toList
  | text none => "\"\\ud800\"".toList

/-- The text of a token. -/
def Token.chars : Token → List Char
  | beginArray => ['[']
  | endArray => [']']
  | beginObject => ['\x7b']
  | endObject => ['\x7d']
  | comma => [',']
  | colon => [':']
  | atom value => value.chars

namespace Json

/-- The compact text of a value. -/
def compact (value : Json) : String :=
  String.ofList (value.tokens.flatMap Token.chars)

/-- The end of a line and the indentation of the next one inside `depth` containers. -/
def newLine (depth : Nat) : List Char :=
  '\n' :: List.replicate (2 * depth) ' '

mutual

/-- The pretty text of a value inside `depth` containers. -/
def prettyChars (depth : Nat) : Json → List Char
  | .atom value => value.chars
  | .array [] => ['[', ']']
  | .array (item :: rest) =>
    '[' :: newLine (depth + 1) ++ item.prettyChars (depth + 1) ++ prettyItems (depth + 1) rest
      ++ newLine depth ++ [']']
  | .object [] => ['\x7b', '\x7d']
  | .object (member :: rest) =>
    '\x7b' :: newLine (depth + 1) ++ prettyMember (depth + 1) member
      ++ prettyMembers (depth + 1) rest ++ newLine depth ++ ['\x7d']

/-- The pretty text of further items of an array. -/
def prettyItems (depth : Nat) : List Json → List Char
  | [] => []
  | item :: rest =>
    ',' :: newLine depth ++ item.prettyChars depth ++ prettyItems depth rest

/-- The pretty text of further members of an object. -/
def prettyMembers (depth : Nat) : List (Option String × Json) → List Char
  | [] => []
  | member :: rest =>
    ',' :: newLine depth ++ prettyMember depth member ++ prettyMembers depth rest

/-- The pretty text of a member of an object. -/
def prettyMember (depth : Nat) : Option String × Json → List Char
  | (key, value) => (Atom.text key).chars ++ [':', ' '] ++ value.prettyChars depth

end

/-- The pretty text of a value. -/
def pretty (value : Json) : String :=
  String.ofList (value.prettyChars 0)

end Json

end LayoutParity
