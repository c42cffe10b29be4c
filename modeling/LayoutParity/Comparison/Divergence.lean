import LayoutParity.Layout.Basic

/-!
# Divergences

A divergence is a disagreement of the host's and the device's layout of a struct: about one field,
named by its path from the struct, or about the size of the whole. The path of a field inside
nested structs is the list of steps that lead to it, each into the struct of a field or into one
element of an array of structs.

`Layout.divergences` walks two layouts side by side, pairing fields by name and adding up offsets in
the arithmetic that it is given. A struct's size is a multiple of its alignment, so consecutive
elements of an array of structs are a struct's size apart.
-/

namespace LayoutParity

/-- A step from a struct into a struct that one of its fields holds. -/
structure Step where
  field : String
  /-- Which element is entered, where the field is an array. -/
  index? : Option Nat
deriving DecidableEq, Repr

/-- Where a field is found from the outermost struct. -/
structure Path where
  /-- The steps into nested structs, outermost first. -/
  outer : List Step
  field : String
deriving DecidableEq, Repr

/-- The text of a step. -/
def Step.text (step : Step) : String :=
  match step.index? with
  | none => step.field
  | some index => s!"{step.field}[{index}]"

/-- The text of a path: a point follows each step. -/
def Path.text (path : Path) : String :=
  String.join (path.outer.map fun step => step.text ++ ".") ++ path.field

/-- What a divergence is about. -/
inductive Subject where
  | field (path : Path)
  /-- The size of the struct as a whole. -/
  | whole
deriving DecidableEq, Repr

/-- A disagreement between the layouts of host and device. -/
structure Divergence where
  /-- The name of the outermost struct. -/
  struct : String
  subject : Subject
  hostOffset : Nat
  deviceOffset : Nat
  hostSize : Nat
  deviceSize : Nat
deriving DecidableEq, Repr

namespace Divergence

/-- The text of the path of the field that the divergence is about. -/
def fieldText? (divergence : Divergence) : Option String :=
  match divergence.subject with
  | .field path => some path.text
  | .whole => none

/-- Whether the divergence is about the size of the struct. -/
def isWhole (divergence : Divergence) : Bool :=
  divergence.subject = .whole

/-- How far the device is ahead of the host, as a signed 64-bit word. -/
def offsetDelta (divergence : Divergence) : Int :=
  ((divergence.deviceOffset : Int) - divergence.hostOffset).bmod UInt64.size

/-- The sentence that reports the divergence. -/
def text (d : Divergence) : String :=
  match d.subject with
  | .field path =>
    s!"{d.struct}.{path.text}: host @ {d.hostOffset} ({d.hostSize} bytes), "
      ++ s!"device @ {d.deviceOffset} ({d.deviceSize} bytes)"
  | .whole => s!"{d.struct}: size {d.hostSize} bytes on host, {d.deviceSize} bytes on device"

end Divergence

/-- The divergence of a field at these offsets, if host and device disagree about it. -/
def FieldLayout.divergence? (struct : String) (path : Path) (hostOffset deviceOffset : Nat)
    (host device : FieldLayout) : Option Divergence :=
  if hostOffset = deviceOffset ∧ host.size = device.size then none
  else some ⟨struct, .field path, hostOffset, deviceOffset, host.size, device.size⟩

/-- The step into an element of the field of a name and a type. -/
def Step.intoElement (field : String) (type : FieldType) (index : Nat) : Step :=
  ⟨field, if type.isArray then some index else none⟩

/-- Where a walk over two layouts stands: how it calculates, the outermost struct, whether nested
structs are entered, the steps taken so far, and where the structs entered begin on either side. -/
structure Walk where
  arith : Arithmetic
  struct : String
  nested : Bool
  outer : List Step
  hostBase : Nat
  deviceBase : Nat

/-- The walk after one more step, into a struct that begins at these distances. -/
def Walk.enter (walk : Walk) (step : Step) (hostDistance deviceDistance : Nat) : Walk :=
  { walk with
    outer := walk.outer ++ [step]
    hostBase := walk.arith.add walk.hostBase hostDistance
    deviceBase := walk.arith.add walk.deviceBase deviceDistance }

mutual

/-- The divergences of the fields of a struct and, if they are entered, of the structs in it. -/
def Layout.fieldDivergences (walk : Walk) : Layout → Layout → List Divergence
  | ⟨_, _, fields, _, _, _⟩, device => FieldLayout.allDivergences walk fields device
termination_by structural host => host

/-- The divergences of the fields, each paired with the device's field of its name; a field whose
name the device has not is left out. -/
def FieldLayout.allDivergences (walk : Walk) : List FieldLayout → Layout → List Divergence
  | [], _ => []
  | field :: rest, device =>
    (match device.field? field.name with
      | some other => field.divergences walk other
      | none => [])
      ++ FieldLayout.allDivergences walk rest device
termination_by structural hosts => hosts

/-- The divergences of a field and the structs in it. -/
def FieldLayout.divergences (walk : Walk) : FieldLayout → FieldLayout → List Divergence
  | ⟨name, type, offset, size, alignment, nested?⟩, device =>
    let host : FieldLayout := ⟨name, type, offset, size, alignment, nested?⟩
    let hostOffset := walk.arith.add walk.hostBase offset
    let deviceOffset := walk.arith.add walk.deviceBase device.offset
    (host.divergence? walk.struct ⟨walk.outer, name⟩ hostOffset deviceOffset device).toList
      ++ Layout.elementDivergences
        { walk with hostBase := hostOffset, deviceBase := deviceOffset } name type nested?
        device.nested?
termination_by structural host => host

/-- The divergences inside the elements of the field of a name and a type that begins where the
walk stands, if both sides hold a struct there and nested structs are entered. -/
def Layout.elementDivergences (walk : Walk) (field : String) (type : FieldType) :
    Option Layout → Option Layout → List Divergence
  | some host, some device =>
    if walk.nested then
      (List.range (type.elementCount walk.arith)).flatMap fun index =>
        Layout.fieldDivergences
          (walk.enter (.intoElement field type index) (walk.arith.mul index host.size)
            (walk.arith.mul index device.size))
          host device
    else []
  | _, _ => []
termination_by structural host? => host?

end

/-- The divergence of the sizes of a struct, if host and device disagree about it. -/
def Layout.sizeDivergence? (struct : String) (host device : Layout) : Option Divergence :=
  if host.size = device.size then none
  else some ⟨struct, .whole, 0, 0, host.size, device.size⟩

/-- All divergences of two layouts of a struct: of its fields in order, then of its size. -/
def Layout.divergences (arith : Arithmetic) (struct : String) (nested : Bool)
    (host device : Layout) : List Divergence :=
  Layout.fieldDivergences ⟨arith, struct, nested, [], 0, 0⟩ host device
    ++ (Layout.sizeDivergence? struct host device).toList

end LayoutParity
