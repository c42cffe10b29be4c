import LayoutParity.Json.Basic

/-!
# Reading a value as a record

How a JSON value is taken for a number, a text, a choice or the members of a record. A record is
given as an object, in which unknown keys are ignored and no known key may occur twice, or as an
array of its members in order, whose end may be left out. Which members have to be there is decided
by the record.

A record of records is read with a limited room: each container that is entered takes one unit of
it, which bounds the depth of what is read. What is ignored takes none.
-/

namespace LayoutParity

namespace Json

/-- How deep the containers of a record may be nested. -/
def roomOfText : Nat := 127

/-- A 64-bit word. -/
def word? : Json → Option UInt64
  | .atom (.number (some value)) => if value < UInt64.size then some value.toUInt64 else none
  | _ => none

/-- A text. -/
def text? : Json → Option String
  | .atom (.text value?) => value?
  | _ => none

/-- A truth value. -/
def bool? : Json → Option Bool
  | .atom (.bool value) => some value
  | _ => none

/-- The name of a choice: a text, or an object of one member that says nothing more. -/
def choice? (room : Nat) : Json → Option String
  | .object [(key, .atom .null)] => if room = 0 then none else key
  | value => value.text?

/-- What a member holds that may be null; a member that is left out counts as null. -/
def optional? {α : Type} (read : Json → Option α) : Option Json → Option (Option α)
  | none | some (.atom .null) => some none
  | some value => (read value).map some

/-- The items of an array, each read with `read` in what is left of the room. -/
def list? {α : Type} (read : Nat → Json → Option α) (room : Nat) : Json → Option (List α)
  | .array items =>
    match room with
    | 0 => none
    | room + 1 => items.mapM (read room)
  | _ => none

/-- Whether a key occurs twice among the members. -/
def repeats (members : List (Option String × Json)) (key : String) : Bool :=
  (members.filter fun member => member.1 = some key).length > 1

/-- The members of a record by their keys, each none if it is left out. -/
def members? (keys : List String) : Json → Option (List (Option Json))
  | .object members =>
    if members.any (fun member => member.1.isNone) || keys.any (repeats members) then none
    else some (keys.map fun key => members.lookup (some key))
  | .array items =>
    if keys.length < items.length then none
    else some (items.map some ++ List.replicate (keys.length - items.length) none)
  | .atom _ => none

end Json

end LayoutParity
