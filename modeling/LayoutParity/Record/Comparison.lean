import LayoutParity.Comparison.Basic
import LayoutParity.Record.Layout

/-!
# Comparisons as records

What is written down of a comparison: the name of the struct, whether it is equivalent, the layouts
of both sides and the divergences. A divergence of the whole struct is written without a field.
-/

namespace LayoutParity

/-- What is written down of a divergence. -/
structure DivergenceRecord where
  /-- The text of the path of the field, or none for the struct as a whole. -/
  field? : Option String
  hostOffset : UInt64
  deviceOffset : UInt64
  hostSize : UInt64
  deviceSize : UInt64

/-- What is written down of a comparison. -/
structure ComparisonRecord where
  name : String
  equivalent : Bool
  host : LayoutRecord
  device : LayoutRecord
  divergences : List DivergenceRecord

namespace DivergenceRecord

/-- The record of a divergence. -/
def ofDivergence (divergence : Divergence) : DivergenceRecord :=
  ⟨divergence.fieldText?, divergence.hostOffset.toUInt64, divergence.deviceOffset.toUInt64,
    divergence.hostSize.toUInt64, divergence.deviceSize.toUInt64⟩

/-- The record as a value. -/
def toJson (record : DivergenceRecord) : Json :=
  .ofMembers
    ((record.field?.map fun field => ("field", Json.ofText field)).toList
      ++ [("host_offset", .ofWord record.hostOffset),
        ("device_offset", .ofWord record.deviceOffset), ("host_size", .ofWord record.hostSize),
        ("device_size", .ofWord record.deviceSize)])

/-- The keys of the record, in order. -/
def keys : List String :=
  ["field", "host_offset", "device_offset", "host_size", "device_size"]

/-- The record that a value is, read in limited room. -/
def ofJson? (room : Nat) (value : Json) : Option DivergenceRecord :=
  match room with
  | 0 => none
  | _ + 1 => do
    match ← value.members? keys with
    | [field?, some hostOffset, some deviceOffset, some hostSize, some deviceSize] =>
      return ⟨← Json.optional? Json.text? field?, ← hostOffset.word?, ← deviceOffset.word?,
        ← hostSize.word?, ← deviceSize.word?⟩
    | _ => none

end DivergenceRecord

namespace ComparisonRecord

/-- The record of a comparison. -/
def ofComparison (comparison : Comparison) : ComparisonRecord :=
  ⟨comparison.name, comparison.isEquivalent, .ofLayout comparison.host,
    .ofLayout comparison.device, comparison.divergences.map .ofDivergence⟩

/-- The record as a value. -/
def toJson (record : ComparisonRecord) : Json :=
  .ofMembers
    [("name", .ofText record.name), ("equivalent", .ofBool record.equivalent),
      ("host", record.host.toJson), ("device", record.device.toJson),
      ("divergences", .array (record.divergences.map (·.toJson)))]

/-- The keys of the record, in order. -/
def keys : List String :=
  ["name", "equivalent", "host", "device", "divergences"]

/-- The record that a value is, read in limited room. -/
def ofJson? (room : Nat) (value : Json) : Option ComparisonRecord :=
  match room with
  | 0 => none
  | room + 1 => do
    match ← value.members? keys with
    | [some name, some equivalent, some host, some device, some divergences] =>
      return ⟨← name.text?, ← equivalent.bool?, ← LayoutRecord.ofJson? room host,
        ← LayoutRecord.ofJson? room device,
        ← divergences.list? DivergenceRecord.ofJson? room⟩
    | _ => none

end ComparisonRecord

end LayoutParity
