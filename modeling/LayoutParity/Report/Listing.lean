import LayoutParity.Layout.Basic
import LayoutParity.Table

/-!
# Listings of one layout

A layout as plain lines (`Layout.listing`) and as a headed table with its padding
(`Layout.description`).
-/

namespace LayoutParity

namespace Layout

/-- A line about the struct and a line for each field, each ended. -/
def listing (layout : Layout) : String :=
  s!"{layout.name} ({layout.policy.name}): size {layout.size}, data {layout.dataSize}, "
    ++ s!"align {layout.alignment.bytes}\n"
    ++ String.join (layout.fields.map fun field =>
      s!"  {Text.atRight 4 (toString field.offset)} {field.type.text} {field.name} "
        ++ s!"({field.size} bytes)\n")

/-- The fields of a layout as a table. -/
def fieldTable (layout : Layout) (color : Bool) : Table :=
  let heading := ((((Table.empty.withHeaders ["offset", "size", "align", "type", "field"]).withSide
    0 .right).withSide 1 .right).withSide 2 .right).withColor color
  layout.fields.foldl
    (fun table field => table.addRow
      [toString field.offset, toString field.size, toString field.alignment.bytes,
        field.type.text, field.name])
    heading

/-- A line about the struct and the table of its fields, each line ended. -/
def description (layout : Layout) (color : Bool) : String :=
  s!"{layout.name} under {layout.policy.name}: size {layout.size}, data {layout.dataSize}, "
    ++ s!"align {layout.alignment.bytes}, {layout.holeBytes .word} padding byte(s)\n"
    ++ (layout.fieldTable color).text ++ "\n"

end Layout

end LayoutParity
