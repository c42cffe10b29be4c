import LayoutParity.Comparison.Basic
import LayoutParity.Table

/-!
# Text reports

A report has a section for each comparison and a line that sums them up. A section starts with a
status line; with details, a table of the fields follows, in which a field that diverges is marked.
Then come the divergences inside nested structs, which the table has no row for, and on request the
holes of both layouts.
-/

namespace LayoutParity

/-- A number with its sign, also where it is not negative. -/
def signed (value : Int) : String :=
  if value < 0 then toString value else s!"+{value}"

/-- Whether a divergence is about a field whose path has a point in its text. -/
def Divergence.isInner (divergence : Divergence) : Bool :=
  match divergence.fieldText? with
  | some path => path.toList.contains '.'
  | none => false

/-- The line that reports a divergence inside a nested struct, ended. -/
def Divergence.innerLine (divergence : Divergence) : String :=
  s!"  {divergence.text} [{signed divergence.offsetDelta}]\n"

/-- The lines of the holes of a layout, each ended. -/
def Layout.holeLines (side : String) (layout : Layout) : List String :=
  (layout.holes .word).map fun hole => s!"  {side} padding: {hole.bytes} byte(s) at {hole.offset}\n"

/-- What a text report shows. -/
structure ReportOptions where
  /-- Whether verdicts are coloured. -/
  color : Bool
  /-- Whether the fields are listed. -/
  details : Bool
  /-- Whether the holes of the layouts are listed. -/
  padding : Bool
deriving DecidableEq, Repr

namespace ReportOptions

/-- A verdict, green if it is good and bold red otherwise. -/
def verdict (options : ReportOptions) (good : Bool) (text : String) : String :=
  (if good then Text.Style.green else Text.Style.boldRed).paint options.color text

/-- The row of a field on the host's side that the device has too. -/
def fieldRow (options : ReportOptions) (host device : FieldLayout) : List String :=
  let same := host.offset = device.offset && host.size = device.size
  [host.name, host.type.text, toString host.offset, toString host.size, toString device.offset,
    toString device.size, options.verdict same (if same then "ok" else "!=")]

/-- The fields of a struct on both sides as a table. -/
def fieldTable (options : ReportOptions) (host device : Layout) : Table :=
  let headed := (Table.empty.withHeaders
    ["field", "type", "host off", "host size", "dev off", "dev size", ""]).withColor options.color
  let numbered := [2, 3, 4, 5].foldl (fun table column => table.withSide column .right) headed
  host.fields.foldl
    (fun table field =>
      match device.field? field.name with
      | some other => table.addRow (options.fieldRow field other)
      | none => table)
    numbered

/-- The line that tells how a struct compares, ended. -/
def statusLine (options : ReportOptions) (comparison : Comparison) : String :=
  let good := comparison.isEquivalent
  let status := options.verdict good (if good then "MATCH" else "DIVERGES")
  s!"{comparison.name} [{status}] host {comparison.host.policy.name} = "
    ++ s!"{comparison.host.size} bytes, device {comparison.device.policy.name} = "
    ++ s!"{comparison.device.size} bytes\n"

/-- The lines of a comparison, each ended. -/
def comparisonLines (options : ReportOptions) (comparison : Comparison) : String :=
  options.statusLine comparison
    ++ (if options.details then
        (options.fieldTable comparison.host comparison.device).text ++ "\n" else "")
    ++ String.join ((comparison.divergences.filter (·.isInner)).map (·.innerLine))
    ++ (if options.padding then
        String.join (comparison.host.holeLines "host" ++ comparison.device.holeLines "device")
      else "")

/-- The sentence that sums comparisons up. -/
def summary (options : ReportOptions) (comparisons : List Comparison) : String :=
  let divergent := comparisons.countP fun comparison => !comparison.isEquivalent
  options.verdict (divergent == 0) <|
    if divergent = 0 then
      s!"All {comparisons.length} struct(s) have identical host and device layouts"
    else s!"{divergent} of {comparisons.length} struct(s) diverge between host and device"

/-- The report: the sections, each followed by an empty line, and the summary. -/
def report (options : ReportOptions) (comparisons : List Comparison) : String :=
  String.join (comparisons.map fun comparison => options.comparisonLines comparison ++ "\n")
    ++ options.summary comparisons ++ "\n"

end ReportOptions

end LayoutParity
