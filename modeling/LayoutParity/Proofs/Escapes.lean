import LayoutParity.Proofs.Endings
import LayoutParity.Proofs.JsonEscapes
import LayoutParity.Proofs.PaintedReports
import LayoutParity.Proofs.WrittenFiles

/-!
# Escapes in what runs leave behind

No file is ever written with an escape in it. What is printed without colour has none either, but
not everything that is painted can be switched off by a configuration: the report of a check and the
description of a layout ask it, while the heading of a type and the notice of a written file are
painted on every terminal unless the settings forbid it. A notice also has the escapes that the path
in it has. `Invocation.escapes_without_colour` says that there are no others.
-/

namespace LayoutParity

open Text (EscapeFree)

/-! ## Parts of the output -/

theorem Catalogue.plainNames : ∀ schema ∈ Catalogue.schemas, schema.PlainNames := by
  decide +kernel

/-- What a check of built-in structs compares has plain names. -/
theorem Config.plainNames_comparisonOf (config : Config) {schemas : List Schema}
    {names : List String} (h : names.map Registry.catalogue.find? = schemas.map some) :
    ∀ comparison ∈ schemas.map config.comparisonOf, comparison.PlainNames := by
  refine List.forall_mem_map.2 fun schema hs => ?_
  exact (Catalogue.plainNames schema (Registry.mem_schemas_of_found h hs)).compare ..

/-- What names a type is painted, and nothing else of its description. -/
theorem FieldType.escapeFree_description {type : FieldType}
    (h : ∀ struct, type.nested? = some struct → EscapeFree struct.name) (color : Bool) :
    EscapeFree (type.description color) ↔ color = false := by
  have htext := type.escapeFree_text h
  have hpolicy (policy : Policy) : EscapeFree policy.description := by
    cases policy <;> decide
  rw [description, Text.escapeFree_append, Text.escapeFree_join, List.forall_mem_map]
  refine (and_iff_left fun policy _ => ?_).trans ?_
  · simp +decide [policy.escapeFree_name, hpolicy policy]
  · cases type.vectorLanes? <;> simp +decide [htext]

/-- The types that can be named hold no structs. -/
theorem FieldType.nested?_ofText {name : String} {type : FieldType}
    (h : FieldType.ofText name = .ok type) (struct : Schema) : type.nested? ≠ some struct := by
  rw [FieldType.ofText] at h
  split at h
  · cases h
    nofun
  · cases h

theorem Registry.escapeFree_listing : EscapeFree Registry.catalogue.listing := by
  have hschema : ∀ schema ∈ Registry.catalogue.schemas, EscapeFree (schema.text ++ "\n\n") :=
    fun schema hs => Text.escapeFree_append.2 ⟨(Catalogue.plainNames schema hs).text, by decide⟩
  exact Text.escapeFree_join.2 (List.forall_mem_map.2 hschema)

/-! ## Checks -/

namespace CheckRequest

variable {terminal : Bool} {files : FileTree} {settings : CommonSettings} {request : CheckRequest}
  {loaded : Config} {schemas : List Schema}

/-- The report without colour on the structs that are compared. -/
def plainReport (request : CheckRequest) (loaded : Config) (schemas : List Schema) : String :=
  reportOf ⟨false, !request.summary, request.padding⟩ (request.applyTo loaded)
    (schemas.map (request.applyTo loaded).comparisonOf)

/-- The notice that a file was written, which a quiet run does not print. -/
def noticeOf (path : String) (quiet color : Bool) : String :=
  if quiet then "" else Text.Style.green.paint color s!"Report written to: {path}" ++ "\n"

theorem Accepted.escapeFree_plainReport (h : Accepted files settings request loaded schemas) :
    EscapeFree (request.plainReport loaded schemas) := by
  have hnames := (request.applyTo loaded).plainNames_comparisonOf h.found
  rw [plainReport, reportOf]
  cases (request.applyTo loaded).format with
  | text =>
    exact (ReportOptions.decorates_report ⟨false, !request.summary, request.padding⟩
      hnames).escapeFree
  | json => exact (JsonReport.written_render _ _).escapeFree

theorem act_of_none {config : Config} (h : config.outputFile? = none) (quiet color : Bool)
    (report : String) : act config quiet color report = .print (if quiet then "" else report) := by
  rw [act, h]

theorem act_of_some {config : Config} {path : String} (h : config.outputFile? = some path)
    (quiet color : Bool) (report : String) :
    act config quiet color report = .write path report (noticeOf path quiet color) := by
  rw [act, h]
  rfl

/-- A report is in colour only if it is printed on a terminal and nothing switches colour off. -/
theorem reportText_eq (h : (terminal && !settings.noColor && loaded.useColor &&
      (request.applyTo loaded).outputFile?.isNone) = false) :
    request.reportText
        (request.applyTo { loaded with useColor := loaded.useColor && !settings.noColor })
        (terminal && !settings.noColor) (schemas.map (request.applyTo loaded).comparisonOf) =
      request.plainReport loaded schemas := by
  change reportOf
    ⟨terminal && !settings.noColor && (loaded.useColor && !settings.noColor) &&
      (request.applyTo loaded).outputFile?.isNone, !request.summary, request.padding⟩ _ _ = _
  rw [settings.color_and, h]
  rfl

/-- A check with a file to write ends with writing the report without colour. -/
theorem endingOf_of_some {path : String} (h : (request.applyTo loaded).outputFile? = some path) :
    endingOf terminal settings request loaded schemas =
      ⟨.write path (request.plainReport loaded schemas)
          (noticeOf path settings.quiet (terminal && !settings.noColor)),
        exitCode (request.applyTo loaded)
          (schemas.map (request.applyTo loaded).comparisonOf)⟩ := by
  have hfile : (request.applyTo
      { loaded with useColor := loaded.useColor && !settings.noColor }).outputFile? = some path := h
  rw [endingOf, ending, reportText_eq (by simp [h]), act_of_some hfile]
  rfl

/-- A check without a file to write ends with printing something. -/
theorem act_endingOf_of_none (h : (request.applyTo loaded).outputFile? = none) :
    ∃ text, (endingOf terminal settings request loaded schemas).act = .print text :=
  ⟨_, act_of_none h ..⟩

/-- Without colour, a check without a file to write ends with printing this report. -/
theorem endingOf_of_none (h : (request.applyTo loaded).outputFile? = none)
    (hoff : (terminal && !settings.noColor && loaded.useColor) = false) :
    endingOf terminal settings request loaded schemas =
      ⟨.print (if settings.quiet then "" else request.plainReport loaded schemas),
        exitCode (request.applyTo loaded)
          (schemas.map (request.applyTo loaded).comparisonOf)⟩ := by
  have hfile : (request.applyTo
      { loaded with useColor := loaded.useColor && !settings.noColor }).outputFile? = none := h
  rw [endingOf, ending, reportText_eq (by simp [hoff]), act_of_none hfile]
  rfl

end CheckRequest

/-! ## Runs -/

namespace Invocation

/-- The path in the notice that a run prints, if it succeeds: that of the file that a check writes,
unless it is quiet. -/
def announced? (invocation : Invocation) (loaded : Config) : Option String :=
  match invocation.request with
  | .check request =>
    if invocation.settings.quiet then none else (request.applyTo loaded).outputFile?
  | .layout .. | .type _ | .list => none

variable {terminal : Bool} {files : FileTree} {settings : CommonSettings} {loaded : Config}
  {request : Request} {ending : Ending}

/-- What is written has no escapes. -/
theorem Ends.escapeFree_written (h : Ends terminal files settings loaded request ending)
    {path text notice : String} (hact : ending.act = .write path text notice) :
    EscapeFree text := by
  cases h with
  | @check request schemas ha =>
    cases hfile : (request.applyTo loaded).outputFile? with
    | none =>
      obtain ⟨text, hprint⟩ := CheckRequest.act_endingOf_of_none hfile
      rw [hprint] at hact
      cases hact
    | some path =>
      rw [CheckRequest.endingOf_of_some hfile] at hact
      cases hact
      exact ha.escapeFree_plainReport
  | layout | type | list => cases hact

/-- Without colour, only what names a type and the notice of a written file are painted, which takes
a terminal and settings that allow it, and only a path has escapes of its own. -/
theorem Ends.escapeFree_shown (h : Ends terminal files settings loaded request ending)
    (hoff : settings.noColor = true ∨ loaded.useColor = false) :
    EscapeFree ending.act.shown ↔
      (∀ path ∈ announced? ⟨settings, request⟩ loaded, EscapeFree path) ∧
      (terminal = false ∨ settings.noColor = true ∨
        (∀ name, request ≠ .type name) ∧ announced? ⟨settings, request⟩ loaded = none) := by
  have hcolor : (terminal && !settings.noColor) = false ↔
      terminal = false ∨ settings.noColor = true := by
    rw [Bool.and_eq_false_iff, Bool.not_eq_false']
  have hplain : (terminal && !settings.noColor && loaded.useColor) = false := by
    rcases hoff with h | h <;> simp [h]
  cases h with
  | @check request schemas ha =>
    have hreport := ha.escapeFree_plainReport
    cases hfile : (request.applyTo loaded).outputFile? with
    | none =>
      rw [CheckRequest.endingOf_of_none hfile hplain]
      cases hquiet : settings.quiet <;>
        simp +decide [announced?, hquiet, hfile, Act.shown, hreport]
    | some path =>
      rw [CheckRequest.endingOf_of_some hfile]
      cases hquiet : settings.quiet <;>
        simp +decide [announced?, hquiet, hfile, Act.shown, CheckRequest.noticeOf, hcolor, and_comm]
  | @layout struct policy schema hs =>
    have hschema := List.mem_of_find?_eq_some ((Registry.get_eq_ok_iff ..).1 hs)
    have hlayout := (Catalogue.plainNames schema hschema).layout .word policy
    simpa [announced?, Act.shown, hplain] using (hlayout.decorates_description true).escapeFree
  | @type name type ht =>
    have hnone := FieldType.nested?_ofText ht
    have hdescription := type.escapeFree_description (fun struct hs => absurd hs (hnone struct))
      (terminal && !settings.noColor)
    simp [announced?, Act.shown, hdescription, hcolor]
  | list => simpa [announced?, Act.shown] using Registry.escapeFree_listing

/-- Which escapes switching colour off leaves. What is found at any place after a run was there
before or is a file without escapes, and a run that fails prints nothing. Let a run succeed whose
settings or configuration switch colour off. What it prints has no escapes, unless it runs on a
terminal, only the configuration switches colour off, and it describes a type or tells of a written
file; or it tells of a file whose path has an escape. -/
theorem escapes_without_colour (terminal : Bool) (files : FileTree) (invocation : Invocation) :
    let outcome := invocation.run terminal files
    let settings := invocation.settings
    (∀ place, outcome.files.node? place = files.node? place ∨
      ∃ text, EscapeFree text ∧ outcome.files.node? place = some (.file text.toUTF8)) ∧
    (∀ failure, outcome.result = .error failure → outcome.output = "") ∧
    ∀ loaded code, settings.loaded files.readText = .ok loaded → outcome.result = .ok code →
      settings.noColor = true ∨ loaded.useColor = false →
      (EscapeFree outcome.output ↔
        (∀ path ∈ invocation.announced? loaded, EscapeFree path) ∧
        (terminal = false ∨ settings.noColor = true ∨
          (∀ name, invocation.request ≠ .type name) ∧ invocation.announced? loaded = none)) := by
  intro outcome settings
  rcases run_cases terminal files invocation with ⟨log, failure, hrun⟩ |
    ⟨loaded, ending, log, after, hloads, hends, hleaves, hrun⟩
  · have houtcome : outcome = _ := hrun
    rw [houtcome]
    exact ⟨fun _ => .inl rfl, fun _ _ => rfl, fun _ _ _ h => nomatch h⟩
  · have houtcome : outcome = _ := hrun
    rw [houtcome]
    refine ⟨fun place => ?_, fun _ h => (nomatch h), fun other code hother _ hoff => ?_⟩
    · cases hact : ending.act with
      | print text =>
        rw [hact] at hleaves
        exact .inl (congrArg (FileTree.node? · place) hleaves)
      | write path text notice =>
        rw [hact] at hleaves
        obtain ⟨set, -, -, hwritten, hothers⟩ := FileTree.node?_of_writeText hleaves
        by_cases hplace : place = set
        · exact .inr ⟨text, hends.escapeFree_written hact, hplace ▸ hwritten⟩
        · exact .inl (hothers place hplace)
    · obtain rfl : loaded = other := Except.ok.inj (hloads.symm.trans hother)
      exact hends.escapeFree_shown hoff

/-- Settings with a configuration file that does nothing but switch colour off. -/
def plainSettings : CommonSettings := ⟨"warn", false, false, some "a"⟩

/-- The files of these settings. -/
def plainFiles : FileTree := Config.sampleTree "\x7b\"use_color\":false\x7d"

theorem loaded_plainFiles : plainSettings.loaded plainFiles.readText =
    .ok { Config.standard with useColor := false } := by
  have hm : { Config.standard with useColor := false }.HoldsOn ["use_color"]
      [("use_color", .ofBool false)] := .refl _
  have hload := Config.load_eq (hm.parse?_eq (Json.written_compact _)) "a"
  have hread := FileTree.readText_of_readBytes
    (Config.readBytes_sampleTree (Json.ofMembers [("use_color", .ofBool false)]).compact)
  have htext : plainFiles = Config.sampleTree
    (Json.ofMembers [("use_color", .ofBool false)]).compact := rfl
  rw [CommonSettings.loaded, plainSettings]
  dsimp only
  rw [htext, hread, hload]
  rfl

/-- On a terminal, a layout is described without escapes if the configuration switches colour
off. -/
theorem escapes_without_colour_layout :
    let outcome := run true plainFiles ⟨plainSettings, .layout "Camera" .natural⟩
    outcome.result = .ok 0 ∧ EscapeFree outcome.output := by
  intro outcome
  have hplanned : planned true plainFiles ⟨plainSettings, .layout "Camera" .natural⟩ =
      .ok ⟨.print ((Catalogue.camera.layout .word .natural).description false), 0⟩ := by
    rw [planned]
    dsimp only
    rw [loaded_plainFiles]
    rfl
  obtain ⟨log, hrun⟩ := exists_run_of_planned hplanned
  have hresult : outcome.result = .ok 0 := congrArg Outcome.result hrun
  have h := (escapes_without_colour true plainFiles ⟨plainSettings, .layout "Camera" .natural⟩).2.2
    _ _ loaded_plainFiles hresult (.inr rfl)
  refine ⟨hresult, h.2 ⟨?_, .inr (.inr ⟨?_, rfl⟩)⟩⟩
  · intro path hpath
    cases hpath
  · intro name hname
    cases hname

/-- On a terminal, a type is described with escapes even if the configuration switches colour
off. -/
theorem type_painted_despite_configuration :
    let outcome := run true plainFiles ⟨plainSettings, .type "float3"⟩
    (∃ loaded, plainSettings.loaded plainFiles.readText = .ok loaded ∧ loaded.useColor = false) ∧
      outcome.result = .ok 0 ∧ ¬EscapeFree outcome.output := by
  intro outcome
  have hplanned : planned true plainFiles ⟨plainSettings, .type "float3"⟩ =
      .ok ⟨.print ((FieldType.primitive .vector3).description true), 0⟩ := by
    rw [planned]
    dsimp only
    rw [loaded_plainFiles]
    rfl
  obtain ⟨log, hrun⟩ := exists_run_of_planned hplanned
  have houtput : outcome.output = (FieldType.primitive .vector3).description true :=
    congrArg Outcome.output hrun
  refine ⟨⟨_, loaded_plainFiles, rfl⟩, congrArg Outcome.result hrun, ?_⟩
  rw [houtput, FieldType.escapeFree_description fun _ h => by cases h]
  decide

end Invocation

end LayoutParity
