/-!
# JSON values

The values of a JSON text, as far as this library has use for them. Of a number only the plain
naturals are kept apart; of a string, the text it names. A number of any other form, and a string
that names no text because it escapes half of a surrogate pair, are grammatical but have no
content: no record takes them, and a reader skips them where it skips anything.

A value is also a sequence of tokens (`Json.tokens`), which is what printing and reading share.
-/

namespace LayoutParity

/-- A value without parts. -/
inductive Atom where
  | null
  | bool (value : Bool)
  /-- A plain natural, or none for a number of any other form. -/
  | number (value? : Option Nat)
  /-- A string, or none if it names no text. -/
  | text (value? : Option String)
deriving DecidableEq, Repr

/-- A JSON value. The members of an object are kept in order, duplicates included. -/
inductive Json where
  | atom (value : Atom)
  | array (items : List Json)
  | object (members : List (Option String × Json))

/-- The parts of a JSON text that white space may stand between. -/
inductive Token where
  | beginArray
  | endArray
  | beginObject
  | endObject
  | comma
  | colon
  | atom (value : Atom)
deriving DecidableEq, Repr

namespace Json

/-- The value that stands for nothing. -/
abbrev null : Json := .atom .null

/-- A truth value. -/
abbrev ofBool (value : Bool) : Json := .atom (.bool value)

/-- A natural number. -/
abbrev ofNat (value : Nat) : Json := .atom (.number (some value))

/-- A text. -/
abbrev ofText (value : String) : Json := .atom (.text (some value))

/-- An object whose keys are texts. -/
def ofMembers (members : List (String × Json)) : Json :=
  .object (members.map fun member => (some member.1, member.2))

/-! ## Tokens -/

mutual

/-- The tokens of a value. -/
def tokens : Json → List Token
  | .atom value => [.atom value]
  | .array items => .beginArray :: itemTokens items ++ [.endArray]
  | .object members => .beginObject :: memberTokens members ++ [.endObject]

/-- The tokens of the items of an array, with commas between them. -/
def itemTokens : List Json → List Token
  | [] => []
  | item :: rest => item.tokens ++ moreItemTokens rest

/-- The tokens of further items of an array, each after a comma. -/
def moreItemTokens : List Json → List Token
  | [] => []
  | item :: rest => .comma :: item.tokens ++ moreItemTokens rest

/-- The tokens of the members of an object, with commas between them. -/
def memberTokens : List (Option String × Json) → List Token
  | [] => []
  | member :: rest => pairTokens member ++ moreMemberTokens rest

/-- The tokens of further members of an object, each after a comma. -/
def moreMemberTokens : List (Option String × Json) → List Token
  | [] => []
  | member :: rest => .comma :: pairTokens member ++ moreMemberTokens rest

/-- The tokens of one member of an object. -/
def pairTokens : Option String × Json → List Token
  | (key, value) => .atom (.text key) :: .colon :: value.tokens

end

/-! ## Members in the order of their keys -/

/-- Puts a member before the first one with a greater key. -/
def insertMember (member : Option String × Json) :
    List (Option String × Json) → List (Option String × Json)
  | [] => [member]
  | other :: rest =>
    if member.1.getD "" ≤ other.1.getD "" then member :: other :: rest
    else other :: insertMember member rest

mutual

/-- The value with the members of every object in the order of their keys. -/
def sorted : Json → Json
  | .atom value => .atom value
  | .array items => .array (sortedItems items)
  | .object members => .object (sortedMembers members)

/-- The items with the members of every object in the order of their keys. -/
def sortedItems : List Json → List Json
  | [] => []
  | item :: rest => item.sorted :: sortedItems rest

/-- The members in the order of their keys, at every depth. -/
def sortedMembers : List (Option String × Json) → List (Option String × Json)
  | [] => []
  | member :: rest => insertMember (sortedMember member) (sortedMembers rest)

/-- The member with the members inside its value in the order of their keys. -/
def sortedMember : Option String × Json → Option String × Json
  | (key, value) => (key, value.sorted)

end

end Json

end LayoutParity
