import LayoutParity.Proofs.Escapes

/-!
# What checks do to files

A check looks at everything that can refuse it before it writes, and then writes one file at most.
So it leaves the files as they are unless it succeeds with a file to write
(`CheckRequest.files_intact`), and the report that it writes is the one that it would print without
colour (`CheckRequest.plainReport`), whatever the terminal and the settings are.
-/

namespace LayoutParity

open Text (EscapeFree)

namespace CheckRequest

variable {terminal : Bool} {files : FileTree} {settings : CommonSettings} {request : CheckRequest}
  {loaded : Config} {schemas : List Schema}

/-! ## Which checks are accepted -/

theorem outputAllowed_eq_ok_iff {isDirectory : String → Bool} :
    request.outputAllowed isDirectory = .ok () ↔
      ∀ path ∈ request.output?, isDirectory path = false := by
  rw [outputAllowed]
  cases request.output? with
  | none => simp
  | some path => cases h : isDirectory path <;> simp [h]

/-- All structs that a configuration selects are found if the ones that it names are. -/
theorem exists_found_selected_iff {config : Config} :
    (∃ schemas : List Schema,
      (selected .catalogue config).map Registry.catalogue.find? = schemas.map some) ↔
      ∀ name ∈ config.structs, ∃ schema, Registry.catalogue.find? name = some schema := by
  have hcatalogue : ∀ name ∈ Registry.catalogue.names,
      ∃ schema, Registry.catalogue.find? name = some schema := by
    simp only [← Option.isSome_iff_exists]
    decide
  have hfound : (∃ schemas : List Schema,
      (selected .catalogue config).map Registry.catalogue.find? = schemas.map some) ↔
      ∀ name ∈ selected .catalogue config, ∃ schema, Registry.catalogue.find? name = some schema :=
    ⟨fun ⟨_, h⟩ => Registry.exists_of_found h, Registry.exists_found⟩
  rw [hfound, selected]
  split
  · next hempty =>
    rw [List.isEmpty_iff.1 hempty]
    exact iff_of_true hcatalogue (List.forall_mem_nil _)
  · rfl

/-- A check is accepted exactly if its configuration loads, the file to write is no directory, and
every name that it is given is one of a struct, and not blank. -/
theorem exists_accepted_iff :
    (∃ schemas, Accepted files settings request loaded schemas) ↔
      settings.loaded files.readText = .ok loaded ∧
      (∀ path ∈ request.output?, files.isDirectory path = false) ∧
      ∀ name ∈ (request.applyTo loaded).structs, Text.trim name ≠ "" ∧
        ∃ schema, Registry.catalogue.find? name = some schema := by
  rw [forall₂_and, ← exists_found_selected_iff, ← outputAllowed_eq_ok_iff]
  constructor
  · rintro ⟨schemas, h⟩
    exact ⟨h.loads, h.allowed, h.named, schemas, h.found⟩
  · rintro ⟨hloads, hallowed, hnamed, schemas, hfound⟩
    exact ⟨schemas, hloads, hallowed, hnamed, hfound⟩

/-- A check succeeds exactly if it is accepted and the file to write, if there is one, can be
written. -/
theorem succeeds_iff :
    (∃ code, (Invocation.run terminal files ⟨settings, .check request⟩).result = .ok code) ↔
      ∃ loaded, settings.loaded files.readText = .ok loaded ∧
        (∀ path ∈ request.output?, files.isDirectory path = false) ∧
        (∀ name ∈ (request.applyTo loaded).structs, Text.trim name ≠ "" ∧
          ∃ schema, Registry.catalogue.find? name = some schema) ∧
        ∀ path ∈ (request.applyTo loaded).outputFile?, files.Writable path := by
  simp only [result_run_eq_ok_iff]
  constructor
  · rintro ⟨code, loaded, schemas, ha, hwritable, -⟩
    obtain ⟨hloads, hallowed, hnames⟩ := exists_accepted_iff.1 ⟨schemas, ha⟩
    exact ⟨loaded, hloads, hallowed, hnames, hwritable⟩
  · rintro ⟨loaded, hloads, hallowed, hnames, hwritable⟩
    obtain ⟨schemas, ha⟩ := exists_accepted_iff.2 ⟨hloads, hallowed, hnames⟩
    exact ⟨_, loaded, schemas, ha, hwritable, rfl⟩

/-! ## The report -/

/-- The same request without a file to write, under a configuration without one. -/
theorem Accepted.withoutOutput (h : Accepted files settings request loaded schemas)
    {files' : FileTree} {settings' : CommonSettings} {useColor : Bool}
    (hloads : settings'.loaded files'.readText =
      .ok { loaded with outputFile? := none, useColor }) :
    Accepted files' settings' { request with output? := none }
      { loaded with outputFile? := none, useColor } schemas :=
  ⟨hloads, rfl, h.named, h.found⟩

/-- Without a file to write, a run that has no colour and is not quiet prints the report that would
be written. -/
theorem Accepted.run_withoutOutput (h : Accepted files settings request loaded schemas)
    {terminal' : Bool} {files' : FileTree} {settings' : CommonSettings} {useColor : Bool}
    (hloads : settings'.loaded files'.readText =
      .ok { loaded with outputFile? := none, useColor })
    (hquiet : settings'.quiet = false)
    (hoff : terminal' = false ∨ settings'.noColor = true ∨ useColor = false) :
    ∃ log, Invocation.run terminal' files' ⟨settings', .check { request with output? := none }⟩ =
      ⟨log, request.plainReport loaded schemas, .ok (exitCode (request.applyTo loaded)
        (schemas.map (request.applyTo loaded).comparisonOf)), files'⟩ := by
  have hcolor : (terminal' && !settings'.noColor && useColor) = false := by
    rcases hoff with h | h | h <;> simp [h]
  obtain ⟨log, hrun⟩ := (h.withoutOutput hloads).exists_run_eq terminal'
  rw [endingOf_of_none rfl hcolor, hquiet] at hrun
  exact ⟨log, hrun⟩

/-! ## What is left -/

/-- A check leaves files as they are unless it succeeds. It succeeds exactly if its configuration
loads, the file that the request wants written is no directory, every name that it is given is one
of a struct and not blank, and the file that is wanted in the end can be written.

A check that fails prints nothing and leaves every file as it is, and one that succeeds without a
file to write leaves them too. One that succeeds with such a file puts its report at the place that
the path leads to, where no directory was, and leaves every other place as it is. The report has no
escapes, and what is printed is a notice with the path, or nothing if the run is quiet. Without a
file to write, on any files and under any settings that load the same configuration otherwise, a run
that is not quiet and has no colour prints exactly this report. -/
theorem files_intact (terminal : Bool) (files : FileTree) (settings : CommonSettings)
    (request : CheckRequest) :
    let outcome := Invocation.run terminal files ⟨settings, .check request⟩
    ((∃ code, outcome.result = .ok code) ↔
      ∃ loaded, settings.loaded files.readText = .ok loaded ∧
        (∀ path ∈ request.output?, files.isDirectory path = false) ∧
        (∀ name ∈ (request.applyTo loaded).structs, Text.trim name ≠ "" ∧
          ∃ schema, Registry.catalogue.find? name = some schema) ∧
        ∀ path ∈ (request.applyTo loaded).outputFile?, files.Writable path) ∧
    (∀ failure, outcome.result = .error failure → outcome.files = files ∧ outcome.output = "") ∧
    ∀ loaded code, settings.loaded files.readText = .ok loaded → outcome.result = .ok code →
      ((request.applyTo loaded).outputFile? = none → outcome.files = files) ∧
      ∀ path, (request.applyTo loaded).outputFile? = some path → ∃ place report,
        files.locate path = .ok place ∧ files.node? place ≠ some .directory ∧
        outcome.files.node? place = some (.file report.toUTF8) ∧
        outcome.files.readText path = .ok report ∧
        (∀ other, other ≠ place → outcome.files.node? other = files.node? other) ∧
        EscapeFree report ∧
        outcome.output = (if settings.quiet then "" else
          Text.Style.green.paint (terminal && !settings.noColor) s!"Report written to: {path}"
            ++ "\n") ∧
        ∀ (terminal' : Bool) (files' : FileTree) (settings' : CommonSettings) (useColor : Bool),
          settings'.loaded files'.readText = .ok { loaded with outputFile? := none, useColor } →
          settings'.quiet = false →
          (terminal' = false ∨ settings'.noColor = true ∨ useColor = false) →
          let printed := Invocation.run terminal' files'
            ⟨settings', .check { request with output? := none }⟩
          printed.output = report ∧ printed.result = .ok code ∧ printed.files = files' := by
  intro outcome
  refine ⟨succeeds_iff, ?_⟩
  rcases Invocation.run_cases terminal files ⟨settings, .check request⟩ with
    ⟨log, failure, hrun⟩ | ⟨loaded, ending, log, after, hloads, hends, hleaves, hrun⟩
  · have houtcome : outcome = _ := hrun
    rw [houtcome]
    exact ⟨fun _ _ => ⟨rfl, rfl⟩, fun _ _ _ h => (by cases h)⟩
  · have houtcome : outcome = _ := hrun
    rw [houtcome]
    refine ⟨fun _ h => (by cases h), fun other code hother hcode => ?_⟩
    obtain rfl : loaded = other := Except.ok.inj (hloads.symm.trans hother)
    cases hends with
    | @check _ schemas ha =>
      refine ⟨fun hnone => ?_, fun path hsome => ?_⟩
      · obtain ⟨text, hprint⟩ := act_endingOf_of_none hnone
        rw [hprint] at hleaves
        exact hleaves
      · rw [endingOf_of_some hsome] at hleaves hcode ⊢
        obtain ⟨place, hplace, hdirectory, hwritten, hothers⟩ := FileTree.node?_of_writeText hleaves
        refine ⟨place, request.plainReport loaded schemas, hplace, hdirectory, hwritten,
          FileTree.readText_of_writeText hleaves, hothers, ha.escapeFree_plainReport, rfl, ?_⟩
        intro terminal' files' settings' useColor hloads' hquiet hoff
        obtain ⟨log', hprinted⟩ := ha.run_withoutOutput hloads' hquiet hoff
        rw [hprinted]
        exact ⟨rfl, hcode, rfl⟩

/-- A check that replaces a file, which it is given with its path from the root, and one that fails
because of the second name that it is given. -/
theorem files_intact_two :
    let files := Config.sampleTree "old"
    let settings : CommonSettings := ⟨"warn", false, false, none⟩
    let written : CheckRequest :=
      ⟨["Sphere"], none, none, false, none, some "/work/a", false, false⟩
    let refused : CheckRequest := { written with structs := ["Sphere", "Moon"] }
    (∃ report, EscapeFree report ∧
      (Invocation.run true files ⟨settings, .check written⟩).files.readText "/work/a" = .ok report ∧
      (Invocation.run false ⟨[], []⟩ ⟨settings, .check { written with output? := none }⟩).output =
        report) ∧
    (Invocation.run true files ⟨settings, .check refused⟩).files = files ∧
    (Invocation.run true files ⟨settings, .check refused⟩).output = "" := by
  intro files settings written refused
  have hplace : files.locate "/work/a" = .ok ["work", "a"] := rfl
  have hwritable : files.Writable "/work/a" :=
    FileTree.writable_iff.2 ⟨rfl, _, hplace, nofun⟩
  have hfile : files.isDirectory "/work/a" = false := hwritable.isDirectory_eq_false
  constructor
  · have h := files_intact true files settings written
    have hnames : ∀ name ∈ ["Sphere"], Text.trim name ≠ "" ∧
        ∃ schema, Registry.catalogue.find? name = some schema :=
      List.forall_mem_singleton.2 ⟨by decide, _, rfl⟩
    obtain ⟨code, hcode⟩ := h.1.2 ⟨.standard, rfl, fun path hp => by cases hp; exact hfile, hnames,
      fun path hp => by cases hp; exact hwritable⟩
    obtain ⟨names, report, -, -, -, hread, -, hescape, -, hprinted⟩ :=
      (h.2.2 _ _ rfl hcode).2 "/work/a" rfl
    exact ⟨report, hescape, hread, (hprinted false ⟨[], []⟩ settings true rfl rfl (.inl rfl)).1⟩
  · have h := files_intact true files settings refused
    have hfails : ¬∃ code, (Invocation.run true files ⟨settings, .check refused⟩).result =
        .ok code := by
      rw [h.1]
      rintro ⟨loaded, -, -, hnames, -⟩
      have hnone : Registry.catalogue.find? "Moon" = none := rfl
      obtain ⟨-, schema, hs⟩ := hnames "Moon" (.tail _ (.head _))
      rw [hnone] at hs
      cases hs
    cases hresult : (Invocation.run true files ⟨settings, .check refused⟩).result with
    | ok code => exact absurd ⟨code, hresult⟩ hfails
    | error failure => exact h.2.1 failure hresult

end CheckRequest

end LayoutParity
