/-!
# Log lines

An operation reports what it notices as lines of a log: warnings, information, and details for
whoever debugs it. How verbose a run is decides which of them are shown.
-/

namespace LayoutParity

/-- How grave a log line is. -/
inductive Severity where
  | warn
  | info
  | debug
deriving DecidableEq, Repr

/-- The word in front of a shown line. -/
def Severity.label : Severity → String
  | warn => "WARN"
  | info => "INFO"
  | debug => "DEBUG"

/-- One line of the log. -/
structure LogLine where
  severity : Severity
  message : String
deriving DecidableEq, Repr

/-- The line as it is shown. -/
def LogLine.text (line : LogLine) : String :=
  s!"{line.severity.label} {line.message}"

/-- Which lines of the log a run shows. -/
inductive Verbosity where
  | off
  | error
  | warn
  | info
  | debug
  | trace
deriving DecidableEq, Repr

namespace Verbosity

/-- The verbosity that a text names, in any case; a text that names none counts as `warn`. -/
def ofText (text : String) : Verbosity :=
  match text.toLower with
  | "off" => off
  | "error" => error
  | "info" => info
  | "debug" => debug
  | "trace" => trace
  | _ => warn

/-- Whether a run shows lines of a severity. -/
def shows : Verbosity → Severity → Bool
  | off, _ | error, _ => false
  | warn, severity => severity = .warn
  | info, severity => severity ≠ .debug
  | debug, _ | trace, _ => true

/-- The lines that a run shows. -/
def filter (verbosity : Verbosity) (lines : List LogLine) : List LogLine :=
  lines.filter fun line => verbosity.shows line.severity

end Verbosity

end LayoutParity
