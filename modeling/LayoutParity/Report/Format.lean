/-!
# Forms of reports
-/

namespace LayoutParity

/-- A form in which reports are written. -/
inductive ReportFormat where
  /-- For readers. -/
  | text
  /-- For programs. -/
  | json
deriving DecidableEq, Repr

namespace ReportFormat

/-- All forms. -/
def all : List ReportFormat := [text, json]

/-- The name on the command line and in files. -/
def name : ReportFormat → String
  | text => "text"
  | json => "json"

/-- The form of exactly this name. -/
def ofName? (name : String) : Option ReportFormat :=
  all.find? fun format => format.name == name

end ReportFormat

end LayoutParity
