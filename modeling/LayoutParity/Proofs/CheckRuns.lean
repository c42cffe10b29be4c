import LayoutParity.Proofs.CheckPlans
import LayoutParity.Proofs.JsonReports
import LayoutParity.Proofs.TextReports
import LayoutParity.Proofs.WrittenFiles

/-!
# Check runs

A check that is accepted succeeds if its report can be written, which does not depend on what the
report says (`FileTree.writable_of_writeText`). So its exit code is settled by what it compares
(`CheckRequest.result_run_eq_ok_iff`), and it is unchanged by whatever else a request, the settings
and a configuration say (`CheckRequest.exitCode_congr`). `CheckRequest.reports_agree` puts this
together with what the reports on the same comparisons state.
-/

namespace LayoutParity

/-! ## Runs -/

/-- A run has the outcome that its plan asks for, and logs something. -/
theorem Invocation.exists_run_eq {terminal : Bool} {files : FileTree} {invocation : Invocation}
    {result : Except Failure Ending}
    (h : Logged.Gives (invocation.plan (.ofTree terminal files)) result) :
    ∃ log, invocation.run terminal files =
      match result with
      | .ok ending => ending.outcome files log
      | .error failure => ⟨log, "", .error failure, files⟩ := by
  have hresult := h []
  rw [run]
  generalize (invocation.plan (.ofTree terminal files)).run.run [] = ran at hresult
  obtain ⟨ran, log⟩ := ran
  obtain rfl : ran = result := hresult
  cases ran with
  | error failure => exact ⟨log, rfl⟩
  | ok ending => exact ⟨log, rfl⟩

namespace CheckRequest

variable {terminal : Bool} {files : FileTree} {settings : CommonSettings} {request : CheckRequest}

/-- Writing a report changes whether a check succeeds, but not its exit code. -/
theorem result_outcome_eq_ok_iff {loaded : Config} {schemas : List Schema} {log : List LogLine}
    {code : Nat} :
    ((endingOf terminal settings request loaded schemas).outcome files log).result = .ok code ↔
      (∀ path ∈ (request.applyTo loaded).outputFile?, files.Writable path) ∧
        exitCode (request.applyTo loaded) (schemas.map (request.applyTo loaded).comparisonOf) =
          code := by
  have hact : (request.applyTo { loaded with
      useColor := loaded.useColor && !settings.noColor }).outputFile? =
        (request.applyTo loaded).outputFile? := rfl
  have hcode : (endingOf terminal settings request loaded schemas).exitCode =
      exitCode (request.applyTo loaded) (schemas.map (request.applyTo loaded).comparisonOf) := rfl
  rw [Ending.outcome, hcode]
  rw [endingOf, ending, act, hact]
  cases (request.applyTo loaded).outputFile? with
  | none => simp
  | some path =>
    dsimp only
    split
    · next written hw =>
      have hwritable := FileTree.writable_of_writeText hw
      simp [hwritable]
    · next error hw =>
      have hrefused : ¬files.Writable path := fun hwritable => by
        obtain ⟨written, h⟩ := hwritable _
        rw [hw] at h
        cases h
      simp [hrefused]

/-- A check that is accepted comes to its end. -/
theorem Accepted.exists_run_eq {loaded : Config} {schemas : List Schema}
    (h : Accepted files settings request loaded schemas) (terminal : Bool) :
    ∃ log, Invocation.run terminal files ⟨settings, .check request⟩ =
      (endingOf terminal settings request loaded schemas).outcome files log := by
  obtain ⟨log, hrun⟩ := Invocation.exists_run_eq (gives_planned terminal files settings request)
  rw [planned_eq_ok_iff.2 ⟨loaded, schemas, h, rfl⟩] at hrun
  exact ⟨log, hrun⟩

/-- A check succeeds exactly if it is accepted and its report can be written. Its exit code depends
on what is compared only. -/
theorem result_run_eq_ok_iff {code : Nat} :
    (Invocation.run terminal files ⟨settings, .check request⟩).result = .ok code ↔
      ∃ loaded schemas, Accepted files settings request loaded schemas ∧
        (∀ path ∈ (request.applyTo loaded).outputFile?, files.Writable path) ∧
        exitCode (request.applyTo loaded) (schemas.map (request.applyTo loaded).comparisonOf) =
          code := by
  constructor
  · intro h
    obtain ⟨log, hrun⟩ := Invocation.exists_run_eq (gives_planned terminal files settings request)
    rw [hrun] at h
    cases hplanned : request.planned terminal files settings with
    | error failure => simp [hplanned] at h
    | ok ending =>
      rw [hplanned] at h
      obtain ⟨loaded, schemas, haccepted, rfl⟩ := planned_eq_ok_iff.1 hplanned
      exact ⟨loaded, schemas, haccepted, result_outcome_eq_ok_iff.1 h⟩
  · rintro ⟨loaded, schemas, haccepted, h⟩
    obtain ⟨log, hrun⟩ := haccepted.exists_run_eq terminal
    rw [hrun]
    exact result_outcome_eq_ok_iff.2 h

/-- The report is where the configuration wants it: in the output, unless the run is quiet, or in a
file. -/
def Delivers (files : FileTree) (quiet : Bool) (config : Config) (report : String)
    (outcome : Outcome) : Prop :=
  match config.outputFile? with
  | none => outcome.output = if quiet then "" else report
  | some path => files.writeText path report = .ok outcome.files

/-- The form that a configuration asks for decides what is reported. -/
def reportOf (options : ReportOptions) (config : Config) (comparisons : List Comparison) : String :=
  match config.format with
  | .text => options.report comparisons
  | .json => JsonReport.render config.prettyJson comparisons

theorem exists_reportText_eq (request : CheckRequest) (config : Config) (color : Bool)
    (comparisons : List Comparison) :
    ∃ options, request.reportText config color comparisons = reportOf options config comparisons :=
  ⟨⟨color && config.useColor && config.outputFile?.isNone, !request.summary, request.padding⟩, rfl⟩

/-- A run that succeeds has done the act that brings the report where it is wanted. -/
theorem delivers_act {config : Config} {quiet color : Bool} {report : String} {exitCode code : Nat}
    {log : List LogLine}
    (h : (Ending.outcome files log ⟨act config quiet color report, exitCode⟩).result = .ok code) :
    Delivers files quiet config report
      (Ending.outcome files log ⟨act config quiet color report, exitCode⟩) := by
  rw [act, Ending.outcome] at h ⊢
  rw [Delivers]
  cases hfile : config.outputFile? with
  | none => rfl
  | some path =>
    simp only [hfile] at h ⊢
    cases hw : files.writeText path report with
    | error error => simp [hw] at h
    | ok written => rfl

/-- A check that succeeds delivers its report on what it compared. -/
theorem Accepted.delivers {loaded : Config} {schemas : List Schema} {code : Nat}
    (ha : Accepted files settings request loaded schemas)
    (h : (Invocation.run terminal files ⟨settings, .check request⟩).result = .ok code) :
    ∃ options, Delivers files settings.quiet (request.applyTo loaded)
      (reportOf options (request.applyTo loaded)
        (schemas.map (request.applyTo loaded).comparisonOf))
      (Invocation.run terminal files ⟨settings, .check request⟩) := by
  obtain ⟨log, hrun⟩ := ha.exists_run_eq terminal
  obtain ⟨options, hreport⟩ := request.exists_reportText_eq
    (request.applyTo { loaded with useColor := loaded.useColor && !settings.noColor })
    (terminal && !settings.noColor) (schemas.map (request.applyTo loaded).comparisonOf)
  have hshown : reportOf options (request.applyTo loaded)
      (schemas.map (request.applyTo loaded).comparisonOf) = _ := hreport.symm
  rw [hrun] at h ⊢
  exact ⟨options, hshown ▸ delivers_act h⟩

end CheckRequest

/-! ## Presentation does not matter -/

/-- Two configurations ask alike if they differ only in how a report is presented, and in the order
in which they select structs and how often. -/
structure Config.AsksAlike (config other : Config) : Prop where
  hostPolicy : config.hostPolicy = other.hostPolicy
  devicePolicy : config.devicePolicy = other.devicePolicy
  compareNested : config.compareNested = other.compareNested
  failOnDivergence : config.failOnDivergence = other.failOnDivergence
  structs : ∀ name, name ∈ config.structs ↔ name ∈ other.structs

theorem Config.AsksAlike.refl (config : Config) : config.AsksAlike config :=
  ⟨rfl, rfl, rfl, rfl, fun _ => .rfl⟩

/-- Two requests ask alike if they differ only in how a report is presented, and in the order in
which they name structs and how often. -/
structure CheckRequest.AsksAlike (request other : CheckRequest) : Prop where
  host : request.host? = other.host?
  device : request.device? = other.device?
  nested : request.nested = other.nested
  structs : ∀ name, name ∈ request.structs ↔ name ∈ other.structs

theorem isEmpty_congr {α : Type} {items others : List α}
    (h : ∀ item, item ∈ items ↔ item ∈ others) : items.isEmpty = others.isEmpty := by
  rw [Bool.eq_iff_iff, List.isEmpty_iff, List.isEmpty_iff, List.eq_nil_iff_forall_not_mem,
    List.eq_nil_iff_forall_not_mem]
  simp only [h]

namespace CheckRequest

variable {request other : CheckRequest} {config loaded : Config}

/-- What is asked for is settled by what the request and the configuration ask for. -/
theorem AsksAlike.applyTo (h : request.AsksAlike other) (hc : config.AsksAlike loaded) :
    (request.applyTo config).AsksAlike (other.applyTo loaded) where
  hostPolicy := by rw [CheckRequest.applyTo, CheckRequest.applyTo, h.host, hc.hostPolicy]
  devicePolicy := by rw [CheckRequest.applyTo, CheckRequest.applyTo, h.device, hc.devicePolicy]
  compareNested := by rw [CheckRequest.applyTo, CheckRequest.applyTo, h.nested, hc.compareNested]
  failOnDivergence := hc.failOnDivergence
  structs name := by
    rw [CheckRequest.applyTo, CheckRequest.applyTo, isEmpty_congr h.structs]
    dsimp only
    split
    · exact hc.structs name
    · exact h.structs name

theorem mem_selected_congr (h : config.AsksAlike loaded) (registry : Registry) (name : String) :
    name ∈ selected registry config ↔ name ∈ selected registry loaded := by
  rw [selected, selected, isEmpty_congr h.structs]
  split
  · rfl
  · exact h.structs name

theorem comparisonOf_congr (h : config.AsksAlike loaded) :
    config.comparisonOf = loaded.comparisonOf := by
  funext schema
  rw [Config.comparisonOf, Config.comparisonOf, h.hostPolicy, h.devicePolicy, h.compareNested]

theorem exitCode_eq_one_iff (config : Config) (comparisons : List Comparison) :
    exitCode config comparisons = 1 ↔
      config.failOnDivergence = true ∧ ∃ comparison ∈ comparisons, comparison.divergences ≠ [] := by
  simp [exitCode, exitDivergence, Comparison.isEquivalent]

theorem exitCode_eq_zero_or_one (config : Config) (comparisons : List Comparison) :
    exitCode config comparisons = 0 ∨ exitCode config comparisons = 1 := by
  rw [exitCode]
  split
  · exact .inr rfl
  · exact .inl rfl

/-- Checks that ask alike have the same exit code. -/
theorem exitCode_congr (h : config.AsksAlike loaded) {schemas others : List Schema}
    (hs : (selected .catalogue config).map Registry.catalogue.find? = schemas.map some)
    (ho : (selected .catalogue loaded).map Registry.catalogue.find? = others.map some) :
    exitCode config (schemas.map config.comparisonOf) =
      exitCode loaded (others.map loaded.comparisonOf) := by
  have hmem : ∀ schema, schema ∈ schemas ↔ schema ∈ others := by
    intro schema
    rw [Registry.mem_iff_of_found hs, Registry.mem_iff_of_found ho]
    simp only [mem_selected_congr h]
  have hany : (schemas.map config.comparisonOf).any (fun comparison => !comparison.isEquivalent) =
      (others.map loaded.comparisonOf).any fun comparison => !comparison.isEquivalent := by
    rw [comparisonOf_congr h, List.any_map, List.any_map, Bool.eq_iff_iff, List.any_eq_true,
      List.any_eq_true]
    simp only [hmem]
  rw [exitCode, exitCode, h.failOnDivergence, hany]

variable {terminal : Bool} {files : FileTree} {settings : CommonSettings} {schemas : List Schema}

/-- A request that asks alike and writes to the same file is accepted too. -/
theorem Accepted.alike (ha : Accepted files settings request loaded schemas)
    (h : request.AsksAlike other) (ho : other.output? = request.output?)
    {settings' : CommonSettings} (hs : settings'.config? = settings.config?) :
    ∃ schemas, Accepted files settings' other loaded schemas := by
  have halike : (request.applyTo loaded).AsksAlike (other.applyTo loaded) :=
    h.applyTo (.refl loaded)
  have hknown := Registry.exists_of_found ha.found
  obtain ⟨schemas, hfound⟩ := Registry.exists_found fun name hn =>
    hknown name ((mem_selected_congr halike .catalogue name).2 hn)
  refine ⟨schemas, ?_, ?_, fun name hn => ha.named name ((halike.structs name).2 hn), hfound⟩
  · rw [CommonSettings.loaded, hs]
    exact ha.loads
  · rw [outputAllowed, ho]
    exact ha.allowed

/-- The reports and the exit code of a check that succeeds agree, and how a report is presented
changes neither. The structs of the selected names are compared, in order and with repetitions. The
exit code is 1 if divergences count as failure and some comparison lists one, and 0 otherwise. Both
JSON texts of a report on the comparisons state the number of those with divergences, and are
equivalent exactly if it is 0; the last line of every text report, as a terminal shows it, states
the same number and the number of all. What the check delivers is such a report.

Another check that succeeds has the same exit code if its request and the configuration that it
loads ask alike, whatever else is different. On the same files, every request that asks alike and
writes to the same file succeeds with this exit code, under all settings. -/
theorem reports_agree {terminal : Bool} {files : FileTree} {settings : CommonSettings}
    {request : CheckRequest} {code : Nat}
    (h : (Invocation.run terminal files ⟨settings, .check request⟩).result = .ok code) :
    ∃ (loaded : Config) (schemas : List Schema),
      let config := request.applyTo loaded
      let comparisons := schemas.map config.comparisonOf
      let divergent := comparisons.countP fun comparison => !comparison.isEquivalent
      settings.loaded files.readText = .ok loaded ∧
      (selected .catalogue config).map Registry.catalogue.find? = schemas.map some ∧
      (code = 0 ∨ code = 1) ∧
      (code = 1 ↔ config.failOnDivergence = true ∧
        ∃ comparison ∈ comparisons, comparison.divergences ≠ []) ∧
      (∀ pretty, ∃ structs, Json.parse? (JsonReport.render pretty comparisons) = some (.ofMembers
        [("divergent_structs", .ofNat divergent), ("equivalent", .ofBool (divergent == 0)),
          ("structs", structs)])) ∧
      (∀ options : ReportOptions, ∃ line, Text.EndsWithLine (options.report comparisons) line ∧
        Text.visible line = ReportOptions.sentence divergent comparisons.length) ∧
      (∃ options, Delivers files settings.quiet config (reportOf options config comparisons)
        (Invocation.run terminal files ⟨settings, .check request⟩)) ∧
      (∀ (terminal' : Bool) (files' : FileTree) (settings' : CommonSettings)
        (request' : CheckRequest) (loaded' : Config) (code' : Nat),
        (Invocation.run terminal' files' ⟨settings', .check request'⟩).result = .ok code' →
        settings'.loaded files'.readText = .ok loaded' →
        request.AsksAlike request' → loaded.AsksAlike loaded' → code' = code) ∧
      ∀ (terminal' : Bool) (settings' : CommonSettings) (request' : CheckRequest),
        settings'.config? = settings.config? → request'.output? = request.output? →
        request.AsksAlike request' →
        (Invocation.run terminal' files ⟨settings', .check request'⟩).result = .ok code := by
  obtain ⟨loaded, schemas, ha, hwritable, hcode⟩ := result_run_eq_ok_iff.1 h
  refine ⟨loaded, schemas, ha.loads, ha.found, ?_, ?_, fun pretty => ?_, fun options => ?_,
    ha.delivers h, ?_, ?_⟩
  · exact hcode ▸ exitCode_eq_zero_or_one ..
  · exact hcode ▸ exitCode_eq_one_iff ..
  · exact ⟨_, by rw [JsonReport.parse?_render, JsonReport.ofComparisons_eq]⟩
  · exact options.report_endsWithLine _
  · intro terminal' files' settings' request' loaded' code' h' hloads halike hconfig
    obtain ⟨other, others, ha', -, rfl⟩ := result_run_eq_ok_iff.1 h'
    obtain rfl : loaded' = other := Except.ok.inj (hloads.symm.trans ha'.loads)
    rw [← hcode]
    exact (exitCode_congr (halike.applyTo hconfig) ha.found ha'.found).symm
  · intro terminal' settings' request' hsettings houtput halike
    obtain ⟨others, ha'⟩ := ha.alike halike houtput hsettings
    have hsame := exitCode_congr (halike.applyTo (.refl loaded)) ha.found ha'.found
    refine result_run_eq_ok_iff.2 ⟨loaded, others, ha', ?_, hsame ▸ hcode⟩
    rwa [CheckRequest.applyTo, houtput]

/-- Three checks of the same two structs with the same exit code: one that prints a text report, a
quiet one that names the structs in another order and wants a JSON report, and one that reads a
configuration file and writes its report to a file in the directory above its own. -/
theorem reports_agree_three :
    let text : CheckRequest :=
      ⟨["Sphere", "Camera", "Sphere"], none, none, false, none, none, true, false⟩
    let json : CheckRequest := { text with structs := ["Camera", "Sphere"], format? := some .json }
    let filed : CheckRequest := { json with output? := some "../r.json" }
    let config : Config :=
      { Config.standard with format := .json, useColor := false, prettyJson := false }
    text.AsksAlike json ∧ text.AsksAlike filed ∧ Config.standard.AsksAlike config ∧
    (Invocation.run false ⟨[], []⟩ ⟨⟨"warn", false, false, none⟩, .check text⟩).result = .ok 1 ∧
    (Invocation.run true ⟨[], []⟩ ⟨⟨"off", true, true, none⟩, .check json⟩).result = .ok 1 ∧
    ∃ code, (Invocation.run true (Config.sampleTree config.render)
      ⟨⟨"info", false, false, some "a"⟩, .check filed⟩).result = .ok code ∧ code = 1 := by
  intro text json filed config
  have halike : text.AsksAlike json := ⟨rfl, rfl, rfl, by simp [text, json]⟩
  have hfiled : text.AsksAlike filed := ⟨rfl, rfl, rfl, halike.structs⟩
  have hconfig : Config.standard.AsksAlike config := ⟨rfl, rfl, rfl, rfl, fun _ => .rfl⟩
  have hdiverges : ¬(Config.standard.comparisonOf Catalogue.camera).divergences = [] := by
    rw [Config.comparisonOf, Comparator.compare_fresh]
    decide
  have hprinted {files : FileTree} : ∀ path ∈ (none : Option String), files.Writable path :=
    fun path hpath => absurd hpath (Option.not_mem_none path)
  have htext : (Invocation.run false ⟨[], []⟩ ⟨⟨"warn", false, false, none⟩, .check text⟩).result =
      .ok 1 := by
    have haccepted : Accepted ⟨[], []⟩ ⟨"warn", false, false, none⟩ text .standard
        [Catalogue.sphere, Catalogue.camera, Catalogue.sphere] := ⟨rfl, rfl, by decide, rfl⟩
    refine result_run_eq_ok_iff.2 ⟨_, _, haccepted, hprinted, (exitCode_eq_one_iff ..).2 ⟨rfl, ?_⟩⟩
    exact ⟨_, List.mem_map_of_mem (.tail _ (.head _)), hdiverges⟩
  have hloads : CommonSettings.loaded ⟨"info", false, false, some "a"⟩
      (Config.sampleTree config.render).readText = .ok config := by
    rw [CommonSettings.loaded]
    dsimp only
    rw [FileTree.readText_of_readBytes (Config.readBytes_sampleTree _),
      Config.load_eq config.parse?_render]
    rfl
  have hwritten : ∃ code, (Invocation.run true (Config.sampleTree config.render)
      ⟨⟨"info", false, false, some "a"⟩, .check filed⟩).result = .ok code := by
    have haccepted : Accepted (Config.sampleTree config.render) ⟨"info", false, false, some "a"⟩
        filed config [Catalogue.camera, Catalogue.sphere] := ⟨hloads, rfl, by decide, rfl⟩
    have hnode : (Config.sampleTree config.render).node? ["r.json"] = none := rfl
    refine ⟨_, result_run_eq_ok_iff.2 ⟨_, _, haccepted, fun path hp => ?_, rfl⟩⟩
    cases hp
    refine FileTree.writable_iff.2 ⟨rfl, ["r.json"], rfl, ?_⟩
    rw [hnode]
    exact (Option.some_ne_none _).symm
  obtain ⟨loaded, schemas, hstandard, -, -, -, -, -, -, hother, hsame⟩ := reports_agree htext
  obtain rfl : .standard = loaded := Except.ok.inj hstandard
  obtain ⟨code, hcode⟩ := hwritten
  exact ⟨halike, hfiled, hconfig, htext, hsame _ _ _ rfl rfl halike,
    code, hcode, hother _ _ _ _ _ _ hcode hloads hfiled hconfig⟩

end CheckRequest

end LayoutParity
