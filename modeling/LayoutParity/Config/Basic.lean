import LayoutParity.Log
import LayoutParity.Policy
import LayoutParity.Problem
import LayoutParity.Report.Format

/-!
# Configurations

What a check compares, and how it reports. A configuration is valid unless a struct it selects has
a blank name; that both policies are the same is allowed and only noticed, since no struct can
diverge then.
-/

namespace LayoutParity

/-- What a check compares, and how it reports. -/
structure Config where
  hostPolicy : Policy
  devicePolicy : Policy
  compareNested : Bool
  format : ReportFormat
  outputFile? : Option String
  useColor : Bool
  prettyJson : Bool
  failOnDivergence : Bool
  /-- The names of the structs to compare, or none of them for all. -/
  structs : List String
deriving DecidableEq, Repr

namespace Config

/-- The configuration of a run without a configuration file. -/
def standard : Config where
  hostPolicy := .natural
  devicePolicy := .deviceVector
  compareNested := false
  format := .text
  outputFile? := none
  useColor := true
  prettyJson := true
  failOnDivergence := true
  structs := []

instance : Inhabited Config := ⟨standard⟩

/-- What is logged about a valid configuration. -/
def notices (config : Config) : List LogLine :=
  if config.hostPolicy = config.devicePolicy then
    [⟨.warn, s!"Host and device both use {config.hostPolicy.name}; every comparison will match"⟩]
  else []

/-- Accepts a configuration that selects no blank name, with what is logged about it. -/
def validate (config : Config) : Except Problem (List LogLine) :=
  if config.structs.any Text.isBlankText then .error (.text .blankStructName)
  else .ok config.notices

end Config

end LayoutParity
