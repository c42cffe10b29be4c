/-!
# Terminal styles

A styled text is put between the escape sequence that starts the style and the one that ends every
style. Where the text itself ends a style, the outer style is started again right after.

An escape sequence reaches from an escape character to the next `m`. What a terminal shows of a
text is what is left without its sequences (`visible`).
-/

namespace LayoutParity.Text

/-- The character that starts an escape sequence. -/
def escape : Char := '\x1b'

/-- How a piece of text stands out on a terminal. -/
inductive Style where
  | bold
  | green
  | boldRed
  | boldCyan
deriving DecidableEq, Repr

/-- The sequence that starts a style. -/
def Style.start : Style → List Char
  | bold => [escape, '[', '1', 'm']
  | green => [escape, '[', '3', '2', 'm']
  | boldRed => [escape, '[', '1', ';', '3', '1', 'm']
  | boldCyan => [escape, '[', '1', ';', '3', '6', 'm']

/-- The sequence that ends every style. -/
def reset : List Char := [escape, '[', '0', 'm']

/-- The text with `start` after every sequence that ends a style. -/
def reopen (start : List Char) : List Char → List Char
  | '\x1b' :: '[' :: '0' :: 'm' :: rest => reset ++ start ++ reopen start rest
  | c :: rest => c :: reopen start rest
  | [] => []

/-- The text in a style. -/
def Style.apply (style : Style) (text : String) : String :=
  String.ofList (style.start ++ reopen style.start text.toList ++ reset)

/-- The text in a style if colour is on, and as it is otherwise. -/
def Style.paint (style : Style) (color : Bool) (text : String) : String :=
  if color then style.apply text else text

/-- The characters outside escape sequences; `inside` tells whether the text starts in one. -/
def visibleFrom (inside : Bool) : List Char → List Char
  | [] => []
  | c :: rest =>
    if inside then visibleFrom (c ≠ 'm') rest
    else if c = escape then visibleFrom true rest
    else c :: visibleFrom false rest

/-- What a terminal shows of a text. -/
def visible (text : String) : String :=
  String.ofList (visibleFrom false text.toList)

/-- The number of characters that a terminal shows of a text. -/
def visibleLength (text : String) : Nat :=
  (visibleFrom false text.toList).length

end LayoutParity.Text
