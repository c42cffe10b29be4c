import LayoutParity.Log
import LayoutParity.Schema.Equality
import LayoutParity.Schema.Validity

/-!
# Registered structs

A registry holds declarations in the order of their registration, one for each name. A declaration
is registered only if its name is free, it is valid, and every struct that its fields hold is
already registered with the same content; so whatever is reachable inside a registered struct is
registered before it. A refused registration leaves the registry as it is.

`Registry.register` gives the registry with a declaration added. `Registering.register` is the call
that works on a registry in place, check by check, and hands the registered declaration back.
-/

namespace LayoutParity

/-- Declarations in the order of their registration. -/
structure Registry where
  schemas : List Schema

namespace Registry

/-- The registry without declarations. -/
def empty : Registry := ⟨[]⟩

/-- The declaration of a name. -/
def find? (registry : Registry) (name : String) : Option Schema :=
  registry.schemas.find? (·.name == name)

/-- Whether a name is taken. -/
def contains (registry : Registry) (name : String) : Bool :=
  (registry.find? name).isSome

/-- The declaration of a name, which has to be registered. -/
def get (registry : Registry) (name : String) : Except Problem Schema :=
  match registry.find? name with
  | some schema => .ok schema
  | none => .error (.unknownSchema name)

/-- The names in the order of registration. -/
def names (registry : Registry) : List String :=
  registry.schemas.map (·.name)

/-- The first struct held by the fields of a declaration that is not registered with the content
it is held with. -/
def unregistered? (registry : Registry) (schema : Schema) : Option Schema :=
  schema.nested.find? fun inner => registry.find? inner.name ≠ some inner

/-- The registry with one more declaration. -/
def register (registry : Registry) (schema : Schema) : Except Problem Registry :=
  if registry.contains schema.name then .error (.duplicateSchema schema.name)
  else do
    schema.validate
    match registry.unregistered? schema with
    | some inner => .error (.invalidSchema schema.name (.unregistered inner.name))
    | none => .ok ⟨registry.schemas ++ [schema]⟩

/-- The line of the log about a declaration that is registered. -/
def registeredLine (schema : Schema) : LogLine :=
  ⟨.debug, s!"Registered schema {schema.name} ({schema.fields.length} fields)"⟩

/-- What a call of `register` logs: a line about the declaration, if it is registered. -/
def registerLog (registry : Registry) (schema : Schema) : List LogLine :=
  match registry.register schema with
  | .ok _ => [registeredLine schema]
  | .error _ => []

/-- The declarations with one more: it takes the place of the one of its name, and comes last if
there is none. -/
def insertInto (schema : Schema) : List Schema → List Schema
  | [] => [schema]
  | stored :: rest =>
    if stored.name = schema.name then schema :: rest else stored :: insertInto schema rest

end Registry

/-- A computation on a registry that may be refused; what it did to the registry before it was
refused is kept. -/
abbrev Registering := ExceptT Problem (StateM Registry)

namespace Registering

/-- Fails if a name is taken. -/
def requireFree (name : String) : Registering Unit := do
  if (← get).contains name then throw (.duplicateSchema name)

/-- Fails unless a struct is registered with the content that it is held with. -/
def requireRegistered (holder : String) (inner : Schema) : Registering Unit := do
  if (← get).find? inner.name = some inner then return ()
  else throw (.invalidSchema holder (.unregistered inner.name))

/-- Registers a declaration and hands it back. -/
def register (schema : Schema) : Registering Schema := do
  requireFree schema.name
  schema.validate
  schema.nested.forM (requireRegistered schema.name)
  modify fun registry => ⟨Registry.insertInto schema registry.schemas⟩
  return schema

end Registering

end LayoutParity
