import LayoutParity.Json.Access
import LayoutParity.Layout.Basic

/-!
# Layouts as records

A layout record is what is written down of a layout: texts for names, types and the policy, and
64-bit words for sizes. Any texts and words make a record; `LayoutRecord.ofLayout` takes those of a
layout. Records are written as objects with their members in a fixed order, and a field without a
nested layout is written without that member.
-/

namespace LayoutParity

mutual

/-- What is written down of a layout. -/
structure LayoutRecord where
  name : String
  policy : String
  fields : List FieldRecord
  dataSize : UInt64
  size : UInt64
  alignment : UInt64

/-- What is written down of a field of a layout. -/
structure FieldRecord where
  name : String
  type : String
  offset : UInt64
  size : UInt64
  alignment : UInt64
  nested? : Option LayoutRecord

end

mutual

/-- The record of a layout. -/
def LayoutRecord.ofLayout : Layout → LayoutRecord
  | ⟨name, policy, fields, dataSize, size, alignment⟩ =>
    ⟨name, policy.name, FieldRecord.ofFields fields, dataSize.toUInt64, size.toUInt64,
      alignment.word⟩

/-- The records of the fields of a layout. -/
def FieldRecord.ofFields : List FieldLayout → List FieldRecord
  | [] => []
  | field :: rest => FieldRecord.ofField field :: FieldRecord.ofFields rest

/-- The record of a field of a layout. -/
def FieldRecord.ofField : FieldLayout → FieldRecord
  | ⟨name, type, offset, size, alignment, nested?⟩ =>
    ⟨name, type.text, offset.toUInt64, size.toUInt64, alignment.word,
      LayoutRecord.ofNested nested?⟩

/-- The record of a nested layout, if there is one. -/
def LayoutRecord.ofNested : Option Layout → Option LayoutRecord
  | none => none
  | some layout => some (LayoutRecord.ofLayout layout)

end

/-- A word as a number. -/
abbrev Json.ofWord (word : UInt64) : Json := .ofNat word.toNat

/-! ## Writing -/

mutual

/-- The record as a value. -/
def LayoutRecord.toJson : LayoutRecord → Json
  | ⟨name, policy, fields, dataSize, size, alignment⟩ =>
    .ofMembers
      [("name", .ofText name), ("policy", .ofText policy),
        ("fields", .array (FieldRecord.listToJson fields)), ("data_size", .ofWord dataSize),
        ("size", .ofWord size), ("alignment", .ofWord alignment)]

/-- The records of fields as values. -/
def FieldRecord.listToJson : List FieldRecord → List Json
  | [] => []
  | field :: rest => field.toJson :: FieldRecord.listToJson rest

/-- The record of a field as a value. -/
def FieldRecord.toJson : FieldRecord → Json
  | ⟨name, type, offset, size, alignment, nested?⟩ =>
    .ofMembers
      ([("name", .ofText name), ("type", .ofText type), ("offset", .ofWord offset),
        ("size", .ofWord size), ("alignment", .ofWord alignment)]
        ++ LayoutRecord.nestedMember nested?)

/-- The member for a nested layout, if there is one. -/
def LayoutRecord.nestedMember : Option LayoutRecord → List (String × Json)
  | none => []
  | some layout => [("nested", layout.toJson)]

end

/-! ## Reading -/

/-- The keys of a layout record, in order. -/
def LayoutRecord.keys : List String :=
  ["name", "policy", "fields", "data_size", "size", "alignment"]

/-- The keys of the record of a field, in order. -/
def FieldRecord.keys : List String :=
  ["name", "type", "offset", "size", "alignment", "nested"]

mutual

/-- The layout record that a value is, read in limited room. -/
def LayoutRecord.ofJson? : Nat → Json → Option LayoutRecord
  | 0, _ => none
  | room + 1, value => do
    match ← value.members? LayoutRecord.keys with
    | [some name, some policy, some fields, some dataSize, some size, some alignment] =>
      return ⟨← name.text?, ← policy.text?, ← FieldRecord.listOfJson? room fields,
        ← dataSize.word?, ← size.word?, ← alignment.word?⟩
    | _ => none

/-- The list of records of fields that a value is. -/
def FieldRecord.listOfJson? : Nat → Json → Option (List FieldRecord)
  | 0, _ => none
  | room + 1, value =>
    match value with
    | .array items => items.mapM (FieldRecord.ofJson? room)
    | _ => none

/-- The record of a field that a value is. -/
def FieldRecord.ofJson? : Nat → Json → Option FieldRecord
  | 0, _ => none
  | room + 1, value => do
    match ← value.members? FieldRecord.keys with
    | [some name, some type, some offset, some size, some alignment, nested?] =>
      return ⟨← name.text?, ← type.text?, ← offset.word?, ← size.word?, ← alignment.word?,
        ← Json.optional? (LayoutRecord.ofJson? room) nested?⟩
    | _ => none

end

end LayoutParity
