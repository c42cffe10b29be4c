import LayoutParity.Alignment
import LayoutParity.Files.Error

/-!
# Problems

Everything an operation of the library can refuse, by cause. The wording of each cause is given
once, in `Problem.message`.
-/

namespace LayoutParity

/-- What is wrong with the declaration of a struct. -/
inductive SchemaDefect where
  | blankName
  | noFields
  | blankFieldName
  | duplicateField (field : String)
  | zeroCount (field : String)
  | zeroLength (field : String)
  /-- A struct held by a field is not registered, or not with this content. -/
  | unregistered (struct : String)
deriving DecidableEq, Repr

/-- What is wrong with a layout. -/
inductive LayoutDefect where
  | misaligned (field : String) (offset : Nat) (alignment : Alignment)
  | overlap (field : String) (offset previousEnd : Nat)
  /-- The alignment of a field is stricter than that of its struct. -/
  | strictField (field : String)
  | cutOff (size lastEnd : Nat)
  | unevenSize (size : Nat) (alignment : Alignment)
deriving DecidableEq, Repr

/-- What is wrong with a text that should name or describe something. -/
inductive TextDefect where
  | unknownPolicy (text : String)
  | malformedConfig (file : String)
  | blankStructName
deriving DecidableEq, Repr

/-- Why an operation was refused. -/
inductive Problem where
  | unknownType (name : String)
  | invalidSchema (schema : String) (defect : SchemaDefect)
  | duplicateSchema (name : String)
  | unknownSchema (name : String)
  | unsoundLayout (struct : String) (defect : LayoutDefect)
  | file (error : FileError)
  | text (defect : TextDefect)
deriving DecidableEq, Repr

/-- The wording of a defect of a declaration. -/
def SchemaDefect.message : SchemaDefect → String
  | blankName => "struct name is empty"
  | noFields => "struct has no fields"
  | blankFieldName => "field name is empty"
  | duplicateField field => s!"duplicate field {field}"
  | zeroCount field => s!"field {field} has a repeat count of 0"
  | zeroLength field => s!"field {field} is an array of length 0"
  | unregistered struct => s!"nested struct {struct} is not registered"

/-- The wording of a defect of the layout of a struct. -/
def LayoutDefect.message (struct : String) : LayoutDefect → String
  | misaligned field offset alignment =>
    s!"{struct}.{field} at {offset} is not {alignment.bytes}-byte aligned"
  | overlap field offset previousEnd =>
    s!"{struct}.{field} at {offset} overlaps the previous field ending at {previousEnd}"
  | strictField field => s!"{struct}.{field} is more aligned than its struct"
  | cutOff size lastEnd => s!"{struct} size {size} is smaller than its last field end {lastEnd}"
  | unevenSize size alignment =>
    s!"{struct} size {size} is not a multiple of its alignment {alignment.bytes}"

/-- The wording of a defect of a text. -/
def TextDefect.message : TextDefect → String
  | unknownPolicy text => s!"unknown packing policy: {text}"
  | malformedConfig file => file
  | blankStructName => "struct names must not be empty"

/-- The wording of a problem. -/
def Problem.message : Problem → String
  | unknownType name => s!"Unknown type: {name}"
  | invalidSchema schema defect => s!"Invalid schema {schema}: {defect.message}"
  | duplicateSchema name => s!"Schema already registered: {name}"
  | unknownSchema name => s!"Schema not registered: {name}"
  | unsoundLayout struct defect => s!"Validation failed: {defect.message struct}"
  | file error => s!"IO error: {error.message}"
  | text defect => s!"Parse error: {defect.message}"

/-- A test that is passed unless there is a problem. -/
abbrev Check := Except Problem Unit

end LayoutParity
