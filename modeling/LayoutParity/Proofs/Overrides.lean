import LayoutParity.Proofs.CheckFrames

/-!
# Requests that override the configuration

What a request sets takes the place of what the configuration says (`CheckRequest.applyTo`), and it
has no other effect: it could stand in a configuration file instead
(`CheckRequest.withoutOverrides`). The run with such a file comes to the same end
(`CheckRequest.endingOf_withoutOverrides`). It finds other files, one of them the configuration, but
no other directories, so it can write the same ones (`Ending.sameResult`).

Only the reasons of failures differ. A blank name is refused after the configuration is loaded or
while it is; a directory to write to is refused when the request is looked at or when it is written.
-/

namespace LayoutParity

/-! ## Runs on different files -/

/-- Two runs, each on its own files, have the same result if they have the same exit code, or fail
both, if they print the same, and if they leave their files as they are or write the same text to
the same path. -/
structure SameResult (files files' : FileTree) (outcome outcome' : Outcome) : Prop where
  result : ∀ code, outcome.result = .ok code ↔ outcome'.result = .ok code
  output : outcome.output = outcome'.output
  written : (outcome.files = files ∧ outcome'.files = files') ∨
    ∃ path text, files.writeText path text = .ok outcome.files ∧
      files'.writeText path text = .ok outcome'.files

section
variable {files files' : FileTree}

theorem sameResult_of_failures (log log' : List LogLine) (failure failure' : Failure) :
    SameResult files files' ⟨log, "", .error failure, files⟩
      ⟨log', "", .error failure', files'⟩ where
  result _ := iff_of_false nofun nofun
  output := rfl
  written := .inl ⟨rfl, rfl⟩

/-- Where there are the same directories, runs that come to the same end have the same result. -/
theorem Ending.sameResult (h : files.SameDirectories files') (ending : Ending)
    (log log' : List LogLine) :
    SameResult files files' (ending.outcome files log) (ending.outcome files' log') := by
  obtain ⟨act, exitCode⟩ := ending
  cases act with
  | print text => exact ⟨fun _ => .rfl, rfl, .inl ⟨rfl, rfl⟩⟩
  | write path text notice =>
    rw [Ending.outcome, Ending.outcome]
    dsimp only
    cases hw : files.writeText path text with
    | ok written =>
      obtain ⟨written', hw'⟩ := h.writable (FileTree.writable_of_writeText hw) text
      rw [hw']
      exact ⟨fun _ => .rfl, rfl, .inr ⟨path, text, hw, hw'⟩⟩
    | error error =>
      cases hw' : files'.writeText path text with
      | error error' => exact sameResult_of_failures ..
      | ok written' =>
        -- What is refused in one tree cannot be written in the other.
        obtain ⟨written, hwritten⟩ := h.symm.writable (FileTree.writable_of_writeText hw') text
        rw [hw] at hwritten
        cases hwritten

/-- A run that does not succeed prints nothing and leaves the files as they are. -/
theorem Invocation.exists_run_of_not_ok {terminal : Bool} {invocation : Invocation}
    (h : ¬∃ code, (invocation.run terminal files).result = .ok code) :
    ∃ log failure, invocation.run terminal files = ⟨log, "", .error failure, files⟩ := by
  rcases run_cases terminal files invocation with hfails | ⟨_, ending, _, _, _, _, _, hrun⟩
  · exact hfails
  · exact absurd ⟨ending.exitCode, by rw [hrun]⟩ h

end

namespace CheckRequest

/-! ## Requests without overrides -/

/-- The same request without what a configuration file can say instead. -/
def withoutOverrides (request : CheckRequest) : CheckRequest :=
  { request with
    structs := []
    host? := none
    device? := none
    nested := false
    format? := none
    output? := none }

/-- What is left of a request sets nothing. -/
theorem applyTo_withoutOverrides (request : CheckRequest) (config : Config) :
    request.withoutOverrides.applyTo config = config := by
  cases config
  rfl

variable {terminal : Bool} {files files' : FileTree} {settings : CommonSettings}
  {request : CheckRequest} {loaded : Config} {schemas : List Schema} {path text : String}

/-- A check has the same end if the configuration says what the request sets. -/
theorem endingOf_withoutOverrides (path? : Option String) :
    request.withoutOverrides.endingOf terminal { settings with config? := path? }
        (request.applyTo loaded) schemas =
      request.endingOf terminal settings loaded schemas := by
  simp only [endingOf, applyTo_withoutOverrides]
  rfl

/-! ## The two runs -/

section
variable (hfiles : files.SameDirectories files') (hread : files'.readText path = .ok text)
  (hparse : Config.parse? text = some (request.applyTo loaded))
include hread hparse

/-- A check that is accepted is accepted with a file that says what the request sets. -/
theorem Accepted.withoutOverrides (h : Accepted files settings request loaded schemas) :
    Accepted files' { settings with config? := some path } request.withoutOverrides
      (request.applyTo loaded) schemas where
  loads := (CommonSettings.loaded_eq_ok_iff rfl).2 ⟨text, hread, hparse, h.named⟩
  allowed := rfl
  named := request.applyTo_withoutOverrides _ ▸ h.named
  found := request.applyTo_withoutOverrides _ ▸ h.found

include hfiles

/-- If such a file leads to success, the request itself is accepted: the file that it wants written
can be written, so it is no directory. -/
theorem exists_accepted_of_withoutOverrides (h : settings.loaded files.readText = .ok loaded)
    (hok : ∃ code, (Invocation.run terminal files' ⟨{ settings with config? := some path },
      .check request.withoutOverrides⟩).result = .ok code) :
    ∃ schemas, Accepted files settings request loaded schemas := by
  obtain ⟨merged, hmerged, -, hnames, hwritable⟩ := succeeds_iff.1 hok
  obtain ⟨other, hother, hdescribes, -⟩ := (CommonSettings.loaded_eq_ok_iff rfl).1 hmerged
  obtain rfl : text = other := Except.ok.inj (hread.symm.trans hother)
  obtain rfl : request.applyTo loaded = merged := Option.some.inj (hparse.symm.trans hdescribes)
  rw [applyTo_withoutOverrides] at hnames hwritable
  refine exists_accepted_iff.2 ⟨h, fun output houtput => ?_, hnames⟩
  have hmem : output ∈ (request.applyTo loaded).outputFile? := by
    rw [applyTo, Option.mem_def.1 houtput]
    exact rfl
  exact (hfiles.symm.writable (hwritable output hmem)).isDirectory_eq_false

/-- A check has the same result if a file says what the request sets. -/
theorem sameResult_withoutOverrides (h : settings.loaded files.readText = .ok loaded) :
    SameResult files files' (Invocation.run terminal files ⟨settings, .check request⟩)
      (Invocation.run terminal files'
        ⟨{ settings with config? := some path }, .check request.withoutOverrides⟩) := by
  by_cases haccepted : ∃ schemas, Accepted files settings request loaded schemas
  · obtain ⟨schemas, ha⟩ := haccepted
    obtain ⟨log, hrun⟩ := ha.exists_run_eq terminal
    obtain ⟨log', hrun'⟩ := (ha.withoutOverrides hread hparse).exists_run_eq terminal
    rw [hrun, hrun', endingOf_withoutOverrides]
    exact Ending.sameResult hfiles ..
  · have hfails : ¬∃ code, (Invocation.run terminal files
        ⟨settings, .check request⟩).result = .ok code := by
      rintro ⟨code, hcode⟩
      obtain ⟨other, schemas, ha, -⟩ := result_run_eq_ok_iff.1 hcode
      obtain rfl : loaded = other := Except.ok.inj (h.symm.trans ha.loads)
      exact haccepted ⟨schemas, ha⟩
    obtain ⟨log, failure, hrun⟩ := Invocation.exists_run_of_not_ok hfails
    obtain ⟨log', failure', hrun'⟩ := Invocation.exists_run_of_not_ok fun hok =>
      haccepted (exists_accepted_of_withoutOverrides hfiles hread hparse h hok)
    rw [hrun, hrun']
    exact sameResult_of_failures ..

end

/-- What a request sets overrides what the configuration says, and does nothing else. A check has
the same result without it if a configuration file says the same instead: the policies, the form of
the report and the file to write that the request gives, in place of those of the configuration;
that nested structs are entered if either says so; and the structs that the request names, if it
names any. This holds for every text of such a file and wherever it is found, as long as there are
the same directories. In particular the configuration file of the run can be rewritten so. -/
theorem overrides_as_configured {files : FileTree} {settings : CommonSettings} {loaded : Config}
    (h : settings.loaded files.readText = .ok loaded) (terminal : Bool) (request : CheckRequest) :
    let merged : Config :=
      { loaded with
        hostPolicy := request.host?.getD loaded.hostPolicy
        devicePolicy := request.device?.getD loaded.devicePolicy
        compareNested := loaded.compareNested || request.nested
        format := request.format?.getD loaded.format
        outputFile? := request.output?.or loaded.outputFile?
        structs := if request.structs = [] then loaded.structs else request.structs }
    let outcome := Invocation.run terminal files ⟨settings, .check request⟩
    (∀ (files' : FileTree) (path text : String), files.SameDirectories files' →
      files'.readText path = .ok text → Config.parse? text = some merged →
      SameResult files files' outcome (Invocation.run terminal files'
        ⟨{ settings with config? := some path }, .check request.withoutOverrides⟩)) ∧
    ∀ path, settings.config? = some path →
      ∃ files', files.writeText path merged.render = .ok files' ∧
        SameResult files files' outcome
          (Invocation.run terminal files' ⟨settings, .check request.withoutOverrides⟩) := by
  intro merged outcome
  have hmerged : request.applyTo loaded = merged := by
    simp only [applyTo, merged, Bool.or_comm, List.isEmpty_iff]
  have hfile (files' : FileTree) (path text : String) (hfiles : files.SameDirectories files')
      (hread : files'.readText path = .ok text) (hparse : Config.parse? text = some merged) :
      SameResult files files' outcome (Invocation.run terminal files'
        ⟨{ settings with config? := some path }, .check request.withoutOverrides⟩) := by
    rw [← hmerged] at hparse
    exact sameResult_withoutOverrides hfiles hread hparse h
  refine ⟨hfile, fun path hpath => ?_⟩
  obtain ⟨text, hread, -⟩ := (CommonSettings.loaded_eq_ok_iff hpath).1 h
  obtain ⟨files', hwritten⟩ := FileTree.writable_of_readText hread merged.render
  have hsame := hfile files' path merged.render (FileTree.sameDirectories_of_writeText hwritten)
    (FileTree.readText_of_writeText hwritten) merged.parse?_render
  rw [← hpath] at hsame
  exact ⟨files', hwritten, hsame⟩

/-- A check that names a struct, a policy and a file to write and enters nested structs, against a
configuration file that says so. -/
theorem overrides_as_configured_camera :
    let config : Config :=
      { Config.standard with hostPolicy := .simdVector, structs := ["Sphere"] }
    let settings : CommonSettings := ⟨"warn", false, false, some "../work/a"⟩
    let files := Config.sampleTree config.render
    let request : CheckRequest :=
      ⟨["Camera"], some .natural, none, true, none, some "/report", false, false⟩
    let merged : Config :=
      { config with
        hostPolicy := .natural, compareNested := true, outputFile? := some "/report",
        structs := ["Camera"] }
    settings.loaded files.readText = .ok config ∧
    ∃ code files', (Invocation.run true files ⟨settings, .check request⟩).result = .ok code ∧
      files.writeText "../work/a" merged.render = .ok files' ∧
      (Invocation.run true files' ⟨settings, .check request.withoutOverrides⟩).result =
        .ok code := by
  intro config settings files request merged
  have hbytes : files.readBytes "../work/a" = .ok config.render.toUTF8 := rfl
  have hread := FileTree.readText_of_readBytes hbytes
  have hwritable : files.Writable "/report" := FileTree.writable_iff.2 ⟨rfl, _, rfl, nofun⟩
  have hloads : settings.loaded files.readText = .ok config :=
    (CommonSettings.loaded_eq_ok_iff rfl).2 ⟨_, hread, config.parse?_render, by decide⟩
  obtain ⟨code, hcode⟩ : ∃ code, (Invocation.run true files
      ⟨settings, .check request⟩).result = .ok code := by
    refine succeeds_iff.2 ⟨config, hloads, fun path hp => ?_, ?_, fun path hp => ?_⟩
    · cases hp
      exact hwritable.isDirectory_eq_false
    · exact List.forall_mem_singleton.2 ⟨by decide, _, rfl⟩
    · cases hp
      exact hwritable
  obtain ⟨files', hwritten, hsame⟩ := (overrides_as_configured hloads true request).2 _ rfl
  exact ⟨hloads, code, files', hcode, hwritten, (hsame.result code).1 hcode⟩

end CheckRequest

end LayoutParity
