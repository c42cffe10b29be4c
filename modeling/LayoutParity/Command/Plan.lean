import LayoutParity.Catalogue
import LayoutParity.Command.Invocation
import LayoutParity.Config.File
import LayoutParity.Layout.Soundness
import LayoutParity.Report.Json
import LayoutParity.Report.Listing
import LayoutParity.Report.Text
import LayoutParity.Schema.TypeName
import LayoutParity.Text.Quoted

/-!
# Plans

What an invocation does is decided without touching a file: given what a run may look at before it
acts (`Surroundings`), a plan says what is logged and either why the run fails or the one act that
ends it, which is to print a text or to write a file and print a notice. So nothing is written by a
run that fails before its act.

Colour needs a terminal and is switched off by the settings of the run. A report is coloured only
if the configuration asks for it too and the report is not written to a file.
-/

namespace LayoutParity

/-- What a run looks at before it acts. -/
structure Surroundings where
  /-- Whether the output is a terminal. -/
  terminal : Bool
  /-- The text of the file of a path. -/
  readText : String → Except FileError String
  /-- Whether a path leads to a directory. -/
  isDirectory : String → Bool

/-- Why a run fails. -/
inductive Failure where
  | config (path : String) (problem : Problem)
  | outputIsDirectory (path : String)
  | refused (problem : Problem)
  | report (path : String) (error : FileError)
deriving DecidableEq, Repr

/-- The wording of a failure. The reason why a configuration file cannot be read comes twice: in
the wording of the problem, and as the cause of it. -/
def Failure.message : Failure → String
  | config path (.file error) =>
    s!"failed to load config {path}: {(Problem.file error).message}: {error.message}"
  | config path problem => s!"failed to load config {path}: {problem.message}"
  | outputIsDirectory path => s!"Output path is a directory: {Text.quoted path}"
  | refused problem => problem.message
  | report path error => s!"failed to write report to {path}: {error.message}"

/-- The exit code of a run that fails. -/
def exitFailure : Nat := 2

/-- The exit code of a check that finds divergences. -/
def exitDivergence : Nat := 1

/-- The act that ends a run. -/
inductive Act where
  | print (text : String)
  /-- Write the text to a file and, if that succeeds, print the notice. -/
  | write (path text notice : String)
deriving DecidableEq, Repr

/-- The end of a run: its act and its exit code. -/
structure Ending where
  act : Act
  exitCode : Nat
deriving DecidableEq, Repr

/-- A computation that logs and may fail; what it logged before it failed is kept. -/
abbrev Logged := ExceptT Failure (StateM (List LogLine))

namespace Logged

/-- Adds lines to the log. -/
def log (lines : List LogLine) : Logged Unit :=
  modify (· ++ lines)

/-- Fails where the result is a problem. -/
def orFail {α : Type} (failure : Problem → Failure) (result : Except Problem α) : Logged α :=
  ExceptT.mk (pure (result.mapError failure))

end Logged

/-- The configuration of a run: that of its file, or the standard one. -/
def Invocation.config (surroundings : Surroundings) (settings : CommonSettings) :
    Logged Config := do
  let config ←
    match settings.config? with
    | none => pure Config.standard
    | some path =>
      let (config, notices) ←
        Logged.orFail (.config path) (Config.load path (surroundings.readText path))
      Logged.log notices
      pure config
  return { config with useColor := config.useColor && !settings.noColor }

namespace CheckRequest

/-- The configuration with what the request sets. -/
def applyTo (request : CheckRequest) (config : Config) : Config :=
  { config with
    compareNested := request.nested || config.compareNested
    hostPolicy := request.host?.getD config.hostPolicy
    devicePolicy := request.device?.getD config.devicePolicy
    format := request.format?.getD config.format
    outputFile? := request.output?.or config.outputFile?
    structs := if request.structs.isEmpty then config.structs else request.structs }

/-- Compares the structs of the names one after the other, logging each comparison. -/
def compareNamed (registry : Registry) (comparator : Comparator) :
    List String → Logged (List Comparison)
  | [] => return []
  | name :: rest => do
    let schema ← Logged.orFail .refused (registry.get name)
    Logged.log (comparator.compareLog schema)
    let (comparison, comparator) := comparator.compare schema
    return comparison :: (← compareNamed registry comparator rest)

/-- The names of the structs that a configuration selects. -/
def selected (registry : Registry) (config : Config) : List String :=
  if config.structs.isEmpty then registry.names else config.structs

/-- The comparisons that a configuration asks for, whose layouts are all sound. -/
def comparisons (registry : Registry) (config : Config) : Logged (List Comparison) := do
  let comparator :=
    Comparator.fresh .word config.hostPolicy config.devicePolicy config.compareNested
  Logged.log [⟨.info, s!"Comparing host {config.hostPolicy.name} against device "
    ++ config.devicePolicy.name⟩]
  let comparisons ← compareNamed registry comparator (selected registry config)
  comparisons.forM fun comparison => do
    Logged.orFail .refused (comparison.host.validate .word)
    Logged.orFail .refused (comparison.device.validate .word)
  return comparisons

/-- The report on comparisons in the form that a configuration asks for. -/
def reportText (request : CheckRequest) (config : Config) (color : Bool)
    (comparisons : List Comparison) : String :=
  match config.format with
  | .text =>
    let options : ReportOptions :=
      ⟨color && config.useColor && config.outputFile?.isNone, !request.summary, request.padding⟩
    options.report comparisons
  | .json => JsonReport.render config.prettyJson comparisons

/-- The exit code of a check: divergences count if the configuration says so. -/
def exitCode (config : Config) (comparisons : List Comparison) : Nat :=
  if config.failOnDivergence && comparisons.any (fun comparison => !comparison.isEquivalent) then
    exitDivergence
  else 0

/-- The act that brings a report to where a configuration asks for it. A quiet run prints nothing,
but writes the file all the same. -/
def act (config : Config) (quiet color : Bool) (report : String) : Act :=
  match config.outputFile? with
  | some path =>
    .write path report
      (if quiet then ""
        else Text.Style.green.paint color s!"Report written to: {path}" ++ "\n")
  | none => .print (if quiet then "" else report)

/-- Carries a check out up to its act. -/
def plan (request : CheckRequest) (isDirectory : String → Bool) (config : Config)
    (quiet color : Bool) : Logged Ending := do
  if let some path := request.output? then
    if isDirectory path then throw (.outputIsDirectory path)
  let config := request.applyTo config
  Logged.log (← Logged.orFail .refused config.validate)
  let comparisons ← comparisons .catalogue config
  let report := request.reportText config color comparisons
  return ⟨act config quiet color report, exitCode config comparisons⟩

end CheckRequest

/-- The lines about a type: its name and lanes, and what it takes under each policy. -/
def FieldType.description (type : FieldType) (color : Bool) : String :=
  let name := Text.Style.boldCyan.paint color type.text
  let heading :=
    match type.vectorLanes? with
    | some lanes => s!"{name} ({lanes} lanes)\n"
    | none => name ++ "\n"
  heading ++ String.join (Policy.all.map fun policy =>
    let extent := type.extent .word policy
    s!"  {Text.atLeft 14 policy.name} size {Text.atRight 2 (toString extent.size)}, "
      ++ s!"stride {Text.atRight 2 (toString (extent.stride .word))}, "
      ++ s!"align {Text.atRight 2 (toString extent.alignment.bytes)}  ({policy.description})\n")

/-- The declarations of a registry, each followed by an empty line. -/
def Registry.listing (registry : Registry) : String :=
  String.join (registry.schemas.map fun schema => schema.text ++ "\n\n")

namespace Invocation

/-- Whether a run may colour what it prints. -/
def color (surroundings : Surroundings) (settings : CommonSettings) : Bool :=
  surroundings.terminal && !settings.noColor

/-- Carries an invocation out up to its act. -/
def plan (surroundings : Surroundings) (invocation : Invocation) : Logged Ending := do
  let settings := invocation.settings
  let color := color surroundings settings
  let config ← Invocation.config surroundings settings
  match invocation.request with
  | .check request => request.plan surroundings.isDirectory config settings.quiet color
  | .layout struct policy => do
    let schema ← Logged.orFail .refused (Registry.catalogue.get struct)
    Logged.log (schema.layoutLog .word policy)
    let layout := schema.layout .word policy
    Logged.orFail .refused (layout.validate .word)
    return ⟨.print (layout.description (color && config.useColor)), 0⟩
  | .type name => do
    let type ← Logged.orFail .refused (FieldType.ofText name)
    return ⟨.print (type.description color), 0⟩
  | .list => return ⟨.print Registry.catalogue.listing, 0⟩

/-- The lines of the log that a run shows: a quiet run shows errors alone. -/
def shownLog (settings : CommonSettings) (lines : List LogLine) : List LogLine :=
  (if settings.quiet then Verbosity.error else Verbosity.ofText settings.logLevel).filter lines

end Invocation

end LayoutParity
