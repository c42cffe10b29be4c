import LayoutParity.Json.Basic

/-!
# Tokens of a text

Cuts a text into JSON tokens, skipping white space between them. A token is the longest that its
first character allows. Scanning fails at the first character that starts no token, and in a
number, string or word that is not finished.

In a string every escape has to be one of the grammar, and no control character may stand for
itself. The text of a string is found by joining surrogate pairs; half of a pair leaves the string
without a text.
-/

namespace LayoutParity

namespace Token

/-! ## Strings -/

/-- What a string is made of: characters, and escaped halves of surrogate pairs. -/
inductive Piece where
  | char (c : Char)
  | high (value : Nat)
  | low (value : Nat)

/-- The piece of a 16-bit unit. -/
def Piece.ofUnit (unit : Nat) : Piece :=
  if 0xD800 ≤ unit ∧ unit < 0xDC00 then .high (unit - 0xD800)
  else if 0xDC00 ≤ unit ∧ unit < 0xE000 then .low (unit - 0xDC00)
  else .char (Char.ofNat unit)

/-- The text of pieces, in which each high half is followed by a low one and no other low half is
left. -/
def Piece.join : List Piece → Option (List Char)
  | [] => some []
  | .char c :: rest => (join rest).map (c :: ·)
  | .high h :: .low l :: rest => (join rest).map (Char.ofNat (0x10000 + h * 0x400 + l) :: ·)
  | .high _ :: _ => none
  | .low _ :: _ => none

/-- The value of a hexadecimal digit. -/
def hexValue? (c : Char) : Option Nat :=
  if '0' ≤ c ∧ c ≤ '9' then some (c.toNat - '0'.toNat)
  else if 'a' ≤ c ∧ c ≤ 'f' then some (c.toNat - 'a'.toNat + 10)
  else if 'A' ≤ c ∧ c ≤ 'F' then some (c.toNat - 'A'.toNat + 10)
  else none

/-- The unit that four hexadecimal digits name. -/
def unit? (a b c d : Char) : Option Nat := do
  return (((← hexValue? a) * 16 + (← hexValue? b)) * 16 + (← hexValue? c)) * 16 + (← hexValue? d)

/-- The character that an escape of one letter stands for. -/
def shortEscape? : Char → Option Char
  | '"' => some '"'
  | '\\' => some '\\'
  | '/' => some '/'
  | 'b' => some '\x08'
  | 'f' => some '\x0c'
  | 'n' => some '\n'
  | 'r' => some '\r'
  | 't' => some '\t'
  | _ => none

/-- The pieces up to the closing quotation mark, and what follows it. -/
def pieces? : List Char → Option (List Piece × List Char)
  | '"' :: rest => some ([], rest)
  | '\\' :: 'u' :: a :: b :: c :: d :: rest => do
    let unit ← unit? a b c d
    let (pieces, rest) ← pieces? rest
    return (.ofUnit unit :: pieces, rest)
  | '\\' :: letter :: rest => do
    let c ← shortEscape? letter
    let (pieces, rest) ← pieces? rest
    return (.char c :: pieces, rest)
  | c :: rest =>
    if c.toNat < 0x20 then none
    else do
      let (pieces, rest) ← pieces? rest
      return (.char c :: pieces, rest)
  | [] => none

/-- A string after its opening quotation mark, and what follows it. -/
def string? (cs : List Char) : Option (Atom × List Char) := do
  let (pieces, rest) ← pieces? cs
  return (.text ((Piece.join pieces).map String.ofList), rest)

/-! ## Numbers -/

/-- One or more digits, and what follows them. -/
def digits? (cs : List Char) : Option (List Char × List Char) :=
  match cs.takeWhile Char.isDigit with
  | [] => none
  | digits => some (digits, cs.dropWhile Char.isDigit)

/-- The digits before the point: a zero stands alone. -/
def whole? (cs : List Char) : Option (List Char × List Char) :=
  match cs with
  | '0' :: rest => some (['0'], rest)
  | _ => digits? cs

/-- Skips a fraction, and tells whether there was one. -/
def fraction? : List Char → Option (Bool × List Char)
  | '.' :: rest => (digits? rest).map fun digits => (true, digits.2)
  | rest => some (false, rest)

/-- Skips the sign of an exponent. -/
def skipSign : List Char → List Char
  | '+' :: rest | '-' :: rest => rest
  | rest => rest

/-- Skips an exponent, and tells whether there was one. -/
def exponent? : List Char → Option (Bool × List Char)
  | 'e' :: rest | 'E' :: rest => (digits? (skipSign rest)).map fun digits => (true, digits.2)
  | rest => some (false, rest)

/-- A number without its sign, and what follows it; it is a plain natural if it is whole. -/
def unsigned? (cs : List Char) : Option (Option Nat × List Char) := do
  let (digits, rest) ← whole? cs
  let (fraction, rest) ← fraction? rest
  let (exponent, rest) ← exponent? rest
  return (if fraction || exponent then none else some (Nat.ofDigitChars 10 digits 0), rest)

/-- A number, and what follows it; with a sign it is no plain natural. -/
def number? : List Char → Option (Atom × List Char)
  | '-' :: cs => (unsigned? cs).map fun number => (.number none, number.2)
  | cs => (unsigned? cs).map fun number => (.number number.1, number.2)

/-! ## Tokens -/

/-- Whether a character is white space between tokens. -/
def isSpace (c : Char) : Bool :=
  c = ' ' || c = '\n' || c = '\r' || c = '\t'

/-- The token at the start of a text that starts with no white space, and what follows it. -/
def next? : List Char → Option (Token × List Char)
  | '[' :: rest => some (.beginArray, rest)
  | ']' :: rest => some (.endArray, rest)
  | '\x7b' :: rest => some (.beginObject, rest)
  | '\x7d' :: rest => some (.endObject, rest)
  | ',' :: rest => some (.comma, rest)
  | ':' :: rest => some (.colon, rest)
  | '"' :: rest => (string? rest).map fun token => (.atom token.1, token.2)
  | 'n' :: 'u' :: 'l' :: 'l' :: rest => some (.atom .null, rest)
  | 't' :: 'r' :: 'u' :: 'e' :: rest => some (.atom (.bool true), rest)
  | 'f' :: 'a' :: 'l' :: 's' :: 'e' :: rest => some (.atom (.bool false), rest)
  | cs => (number? cs).map fun token => (.atom token.1, token.2)

/-- The tokens of a text of at most `fuel` characters. -/
def scanFrom (fuel : Nat) (cs : List Char) : Option (List Token) :=
  match fuel, cs.dropWhile isSpace with
  | _, [] => some []
  | 0, _ :: _ => none
  | fuel + 1, c :: rest => do
    let (token, rest) ← next? (c :: rest)
    let tokens ← scanFrom fuel rest
    return token :: tokens

/-- The tokens of a text. -/
def scan (cs : List Char) : Option (List Token) :=
  scanFrom cs.length cs

end Token

end LayoutParity
