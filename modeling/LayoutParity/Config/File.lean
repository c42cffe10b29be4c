import LayoutParity.Config.Basic
import LayoutParity.Json.Printer
import LayoutParity.Json.Reader
import LayoutParity.Record.Choice

/-!
# Configuration files

A configuration file is a JSON record. Every member may be left out and then has its standard
value; all are written. Loading a file fails if it cannot be read, is no such record, or holds an
invalid configuration.
-/

namespace LayoutParity

namespace Config

/-- The keys of a configuration, in order. -/
def keys : List String :=
  ["host_policy", "device_policy", "compare_nested", "format", "output_file", "use_color",
    "pretty_json", "fail_on_divergence", "structs"]

/-- The configuration as a value. -/
def toJson (config : Config) : Json :=
  .ofMembers
    [("host_policy", config.hostPolicy.toJson),
      ("device_policy", config.devicePolicy.toJson),
      ("compare_nested", .ofBool config.compareNested),
      ("format", config.format.toJson),
      ("output_file", (config.outputFile?.map Json.ofText).getD .null),
      ("use_color", .ofBool config.useColor),
      ("pretty_json", .ofBool config.prettyJson),
      ("fail_on_divergence", .ofBool config.failOnDivergence),
      ("structs", .array (config.structs.map Json.ofText))]

/-- What a member holds, or the standard value if it is left out. -/
def memberOr {α : Type} (read : Json → Option α) (standard : α) : Option Json → Option α
  | none => some standard
  | some value => read value

/-- The configuration that a value is, read in limited room. -/
def ofJson? (room : Nat) (value : Json) : Option Config :=
  match room with
  | 0 => none
  | room + 1 => do
    match ← value.members? keys with
    | [host, device, nested, form, output, color, pretty, failing, structs] =>
      return {
        hostPolicy := ← memberOr (Policy.ofJson? room) standard.hostPolicy host
        devicePolicy := ← memberOr (Policy.ofJson? room) standard.devicePolicy device
        compareNested := ← memberOr Json.bool? standard.compareNested nested
        format := ← memberOr (ReportFormat.ofJson? room) standard.format form
        outputFile? := ← Json.optional? Json.text? output
        useColor := ← memberOr Json.bool? standard.useColor color
        prettyJson := ← memberOr Json.bool? standard.prettyJson pretty
        failOnDivergence := ← memberOr Json.bool? standard.failOnDivergence failing
        structs := ← memberOr (Json.list? (fun _ => Json.text?) room) standard.structs structs }
    | _ => none

/-- The text of a configuration file. -/
def render (config : Config) : String :=
  config.toJson.compact

/-- The configuration that a text describes. -/
def parse? (text : String) : Option Config :=
  Json.readAs? ofJson? text

/-- The configuration that the file of a name holds, with what is logged about it. -/
def load (file : String) (content : Except FileError String) :
    Except Problem (Config × List LogLine) := do
  let text ← content.mapError Problem.file
  match parse? text with
  | none => throw (.text (.malformedConfig file))
  | some config => return (config, ← config.validate)

end Config

end LayoutParity
