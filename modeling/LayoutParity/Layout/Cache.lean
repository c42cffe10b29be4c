import LayoutParity.Layout.OfSchema
import LayoutParity.Log
import LayoutParity.Schema.Equality

/-!
# Remembered layouts

A cache remembers the layouts computed so far. The key is the whole content of a declaration
together with the policy, so declarations of one name with different fields are kept apart. Looking
up changes nothing; computing adds an entry only if the key has none.

A layout that is computed is logged, after those of the structs in it. A struct that a field holds
is laid out twice on the way, to measure the field and to keep its layout, and logged both times; a
remembered layout is not logged again.
-/

namespace LayoutParity

section
variable (arith : Arithmetic) (policy : Policy)

mutual

/-- What is logged while a type is measured. -/
def FieldType.extentLog : FieldType → List LogLine
  | .primitive _ => []
  | .struct schema => schema.layoutLog
  | .array element _ => element.extentLog

/-- What is logged while a struct is laid out. -/
def Schema.layoutLog : Schema → List LogLine
  | ⟨name, fields⟩ =>
    let layout := Schema.layout arith policy ⟨name, fields⟩
    Field.layoutLogs fields
      ++ [⟨.debug, s!"{name} under {policy.name}: size {layout.size}, "
        ++ s!"align {layout.alignment.bytes}"⟩]

/-- What is logged while fields are laid out. -/
def Field.layoutLogs : List Field → List LogLine
  | [] => []
  | ⟨_, type, _⟩ :: rest => type.extentLog ++ type.extentLog ++ Field.layoutLogs rest

end

end

/-- The layouts computed so far. -/
structure LayoutCache where
  entries : List ((Schema × Policy) × Layout)

namespace LayoutCache

/-- The cache without entries. -/
def empty : LayoutCache := ⟨[]⟩

/-- The remembered layout of a struct under a policy. -/
def find? (cache : LayoutCache) (schema : Schema) (policy : Policy) : Option Layout :=
  cache.entries.lookup (schema, policy)

/-- The layout of a struct under a policy, remembered or computed, and the cache that has it. -/
def compute (arith : Arithmetic) (cache : LayoutCache) (schema : Schema) (policy : Policy) :
    Layout × LayoutCache :=
  match cache.find? schema policy with
  | some layout => (layout, cache)
  | none =>
    let layout := schema.layout arith policy
    (layout, ⟨((schema, policy), layout) :: cache.entries⟩)

/-- What is logged when a layout is remembered or computed. -/
def computeLog (arith : Arithmetic) (cache : LayoutCache) (schema : Schema) (policy : Policy) :
    List LogLine :=
  match cache.find? schema policy with
  | some _ => []
  | none => schema.layoutLog arith policy

/-- The number of remembered layouts. -/
def size (cache : LayoutCache) : Nat :=
  cache.entries.length

end LayoutCache

end LayoutParity
