import LayoutParity.Json.Access
import LayoutParity.Json.Scanner

/-!
# Reading JSON

A value is read from its tokens by a machine with a stack: the stack holds the containers that are
open, each with what it holds so far, and the state says what may come next. A text is read if the
machine has finished one value at its end, so nothing but white space may follow.
-/

namespace LayoutParity

namespace Json

/-- A container that is open while one of its values is read; what it holds is in reverse. -/
inductive Frame where
  | array (items : List Json)
  | object (members : List (Option String × Json)) (key : Option String)

/-- What may come next, and the containers that are open around it. -/
inductive ReaderState where
  /-- A value. -/
  | awaitValue (stack : List Frame)
  /-- The first item of an array, or its end. -/
  | arrayStart (stack : List Frame)
  /-- A comma, or the end of the array. -/
  | afterItem (items : List Json) (stack : List Frame)
  /-- The first key of an object, or its end. -/
  | objectStart (stack : List Frame)
  /-- A key. -/
  | awaitKey (members : List (Option String × Json)) (stack : List Frame)
  /-- The colon after a key. -/
  | afterKey (members : List (Option String × Json)) (key : Option String) (stack : List Frame)
  /-- A comma, or the end of the object. -/
  | afterMember (members : List (Option String × Json)) (stack : List Frame)
  /-- Nothing. -/
  | finished (value : Json)

namespace ReaderState

/-- The state after a value inside the open containers. -/
def complete (value : Json) : List Frame → ReaderState
  | [] => .finished value
  | .array items :: stack => .afterItem (value :: items) stack
  | .object members key :: stack => .afterMember ((key, value) :: members) stack

/-- The state after the first token of a value. -/
def startValue (stack : List Frame) : Token → Option ReaderState
  | .atom value => some (complete (.atom value) stack)
  | .beginArray => some (.arrayStart stack)
  | .beginObject => some (.objectStart stack)
  | _ => none

/-- The state after one more token. -/
def step : ReaderState → Token → Option ReaderState
  | .awaitValue stack, token => startValue stack token
  | .arrayStart stack, .endArray => some (complete (.array []) stack)
  | .arrayStart stack, token => startValue (.array [] :: stack) token
  | .afterItem items stack, .comma => some (.awaitValue (.array items :: stack))
  | .afterItem items stack, .endArray => some (complete (.array items.reverse) stack)
  | .objectStart stack, .endObject => some (complete (.object []) stack)
  | .objectStart stack, .atom (.text key) => some (.afterKey [] key stack)
  | .awaitKey members stack, .atom (.text key) => some (.afterKey members key stack)
  | .afterKey members key stack, .colon => some (.awaitValue (.object members key :: stack))
  | .afterMember members stack, .comma => some (.awaitKey members stack)
  | .afterMember members stack, .endObject => some (complete (.object members.reverse) stack)
  | _, _ => none

/-- The state after more tokens. -/
def run (state : ReaderState) : List Token → Option ReaderState
  | [] => some state
  | token :: rest => (state.step token).bind (run · rest)

/-- The value read, if it is finished. -/
def value? : ReaderState → Option Json
  | .finished value => some value
  | _ => none

end ReaderState

/-- The value that consists of the tokens. -/
def ofTokens? (tokens : List Token) : Option Json :=
  (ReaderState.run (.awaitValue []) tokens).bind ReaderState.value?

/-- The value that a text is written for. -/
def parse? (text : String) : Option Json :=
  (Token.scan text.toList).bind ofTokens?

/-- What a text is written for, taken from its value with `decode` in the room that a text has. -/
def readAs? {α : Type} (decode : Nat → Json → Option α) (text : String) : Option α :=
  (parse? text).bind (decode roomOfText)

end Json

end LayoutParity
