import LayoutParity.Text.Joining
import LayoutParity.Text.Unprinted

/-!
# Quoted texts

A text between quotation marks, with every character that would be hard to see or to place written
as an escape: quotation marks, reverse solidi, and characters that are not printed or that join the
character before them. An apostrophe stands for itself, since it does not end the text.
-/

namespace LayoutParity.Text

/-- A character inside quotation marks. -/
def quoteChar (c : Char) : String :=
  match c with
  | '\x00' => "\\0"
  | '\t' => "\\t"
  | '\n' => "\\n"
  | '\r' => "\\r"
  | '"' => "\\\""
  | '\\' => "\\\\"
  | c =>
    if isUnprinted c || isJoining c then
      "\\u\x7b" ++ String.ofList (Nat.toDigits 16 c.toNat) ++ "\x7d"
    else c.toString

/-- The text between quotation marks. -/
def quoted (text : String) : String :=
  "\"" ++ String.join (text.toList.map quoteChar) ++ "\""

end LayoutParity.Text
