import LayoutParity.Alignment
import LayoutParity.Text.Blank

/-!
# Primitive types and packing policies

A primitive type is a number of 32-bit lanes. A packing policy decides how many bytes a primitive
takes (`Policy.sizeOf`) and what its offset has to be a multiple of (`Policy.alignmentOf`); all
other layout rules are shared. The policies differ on the register vectors alone: under `natural`
these are packed like their lanes, under `deviceVector` they are aligned to 16 bytes, and under
`simdVector` they also take a whole register.
-/

namespace LayoutParity

/-- The bytes of one lane. -/
def laneSize : Nat := 4

/-- The types without parts of their own. -/
inductive Primitive where
  | float
  | uint
  | vector3
  | vector4
  | packedVector3
deriving DecidableEq, Repr

namespace Primitive

/-- The number of 32-bit components. -/
def lanes : Primitive → Nat
  | float | uint => 1
  | vector3 | packedVector3 => 3
  | vector4 => 4

/-- Whether the type is held in a vector register; a packed vector is an array of lanes. -/
def isRegister : Primitive → Bool
  | vector3 | vector4 => true
  | float | uint | packedVector3 => false

/-- The name in a declaration. -/
def name : Primitive → String
  | float => "float"
  | uint => "uint"
  | vector3 => "float3"
  | vector4 => "float4"
  | packedVector3 => "packed_float3"

/-- Every spelling of a type, its declaration name first. -/
def spellings : Primitive → List String
  | float => ["float", "f32", "Float"]
  | uint => ["uint", "u32", "uint32", "UInt32", "unsigned int"]
  | vector3 => ["float3", "vector_float3", "simd_float3"]
  | vector4 => ["float4", "vector_float4", "simd_float4"]
  | packedVector3 => ["packed_float3", "MTLPackedFloat3"]

/-- All primitive types. -/
def all : List Primitive := [float, uint, vector3, vector4, packedVector3]

/-- The type with the spelling, which is compared by case. -/
def ofSpelling? (text : String) : Option Primitive :=
  all.find? fun type => type.spellings.contains text

end Primitive

/-- A set of rules for packing the fields of a struct. -/
inductive Policy where
  /-- Tight packing on the host: every lane is aligned by itself. -/
  | natural
  /-- Vector alignment on the device: register vectors are aligned to 16 bytes. -/
  | deviceVector
  /-- Vectors of a host library: register vectors are aligned to 16 bytes and take 16 bytes. -/
  | simdVector
deriving DecidableEq, Repr

namespace Policy

instance : Inhabited Policy := ⟨natural⟩

/-- All policies, from the tightest to the widest. -/
def all : List Policy := [natural, deviceVector, simdVector]

/-- The name on the command line and in files. -/
def name : Policy → String
  | natural => "natural"
  | deviceVector => "device-vector"
  | simdVector => "simd-vector"

/-- A sentence about the policy for readers of a listing. -/
def description : Policy → String
  | natural => "tight host packing, float3 = 12 bytes aligned to 4"
  | deviceVector => "GPU vector alignment, float3 = 12 bytes aligned to 16"
  | simdVector => "simd vectors, float3 = 16 bytes aligned to 16"

/-- The policy of exactly this name. -/
def ofExactName? (text : String) : Option Policy :=
  all.find? fun policy => policy.name == text

/-- The policy a user names: blanks around the name and the case of its letters do not matter. -/
def ofName? (text : String) : Option Policy :=
  ofExactName? (Text.trim text).toLower

/-- The alignment of a primitive. -/
def alignmentOf : Policy → Primitive → Alignment
  | natural, _ => .scalar
  | deviceVector, type | simdVector, type => if type.isRegister then .vector else .scalar

/-- The bytes of a primitive. -/
def sizeOf : Policy → Primitive → Nat
  | natural, type | deviceVector, type => type.lanes * laneSize
  | simdVector, type => if type.isRegister then Alignment.vector.bytes else type.lanes * laneSize

end Policy

end LayoutParity
