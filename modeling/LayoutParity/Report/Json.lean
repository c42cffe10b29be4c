import LayoutParity.Json.Printer
import LayoutParity.Record.Comparison

/-!
# JSON reports

A report for programs: the records of all comparisons, how many diverge, and whether none does. The
members of every object are in the order of their keys.
-/

namespace LayoutParity

namespace JsonReport

/-- The report on comparisons as a value. -/
def ofComparisons (comparisons : List Comparison) : Json :=
  let records := comparisons.map ComparisonRecord.ofComparison
  let divergent := records.countP fun record => !record.equivalent
  (Json.ofMembers
    [("equivalent", .ofBool (divergent == 0)), ("divergent_structs", .ofNat divergent),
      ("structs", .array (records.map (·.toJson)))]).sorted

/-- The text of the report on comparisons. -/
def render (pretty : Bool) (comparisons : List Comparison) : String :=
  if pretty then (ofComparisons comparisons).pretty else (ofComparisons comparisons).compact

end JsonReport

end LayoutParity
