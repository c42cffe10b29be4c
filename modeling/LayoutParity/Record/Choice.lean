import LayoutParity.Json.Access
import LayoutParity.Policy
import LayoutParity.Report.Format

/-!
# Choices as values

A policy and a form of report are written as their names. They are read by exactly these names.
-/

namespace LayoutParity

/-- The policy as a value. -/
def Policy.toJson (policy : Policy) : Json :=
  .ofText policy.name

/-- The policy that a value names, read in limited room. -/
def Policy.ofJson? (room : Nat) (value : Json) : Option Policy :=
  (value.choice? room).bind Policy.ofExactName?

/-- The form of report as a value. -/
def ReportFormat.toJson (format : ReportFormat) : Json :=
  .ofText format.name

/-- The form of report that a value names, read in limited room. -/
def ReportFormat.ofJson? (room : Nat) (value : Json) : Option ReportFormat :=
  (value.choice? room).bind ReportFormat.ofName?

end LayoutParity
