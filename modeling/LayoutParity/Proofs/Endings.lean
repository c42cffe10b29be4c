import LayoutParity.Proofs.CheckRuns

/-!
# How runs end

Every plan gives either why the run fails or the act that ends it (`Invocation.gives_planned`).
There is one end for each command (`Invocation.Ends`), and one way in which a run comes to it:
`Invocation.run_cases` says everything that a run leaves behind. What is proved of all runs is
proved by these cases, without opening a plan.
-/

namespace LayoutParity

/-- What an act prints. -/
def Act.shown : Act → String
  | .print text => text
  | .write _ _ notice => notice

/-- What an act leaves of the files: only writing changes them. -/
def Act.Leaves (files after : FileTree) : Act → Prop
  | .print _ => after = files
  | .write path text _ => files.writeText path text = .ok after

/-- Where the settings switch colour off, it makes no difference that they switch it off in the
configuration too. -/
theorem CommonSettings.color_and (settings : CommonSettings) (terminal useColor : Bool) :
    (terminal && !settings.noColor && (useColor && !settings.noColor)) =
      (terminal && !settings.noColor && useColor) := by
  cases settings.noColor <;> simp

namespace Invocation

open Logged

/-- The end of a run, or why it fails before its act. -/
def planned (terminal : Bool) (files : FileTree) (invocation : Invocation) :
    Except Failure Ending :=
  let settings := invocation.settings
  let color := terminal && !settings.noColor
  match invocation.request with
  | .check request => request.planned terminal files settings
  | .layout struct policy => do
    let loaded ← settings.loaded files.readText
    let schema ← (Registry.catalogue.get struct).mapError .refused
    return ⟨.print ((schema.layout .word policy).description (color && loaded.useColor)), 0⟩
  | .type name => do
    let _ ← settings.loaded files.readText
    let type ← (FieldType.ofText name).mapError .refused
    return ⟨.print (type.description color), 0⟩
  | .list => do
    let _ ← settings.loaded files.readText
    return ⟨.print Registry.catalogue.listing, 0⟩

theorem gives_planned (terminal : Bool) (files : FileTree) (invocation : Invocation) :
    Gives (invocation.plan (.ofTree terminal files)) (invocation.planned terminal files) := by
  obtain ⟨settings, request⟩ := invocation
  have hconfig := gives_config (.ofTree terminal files) settings
  cases request with
  | check request => exact request.gives_planned terminal files settings
  | layout struct policy =>
    have hend (config : Config) {schema : Schema}
        (hs : (Registry.catalogue.get struct).mapError Failure.refused = .ok schema) :
        let ending : Ending := ⟨.print ((schema.layout .word policy).description
          (terminal && !settings.noColor && config.useColor)), 0⟩
        Gives (do
            Logged.log (schema.layoutLog .word policy)
            orFail .refused ((schema.layout .word policy).validate .word)
            return ending)
          (pure ending) := by
      have hfound := (Registry.get_eq_ok_iff ..).1 (mapError_eq_ok_iff.1 hs)
      rw [Catalogue.layout_accepted (List.mem_of_find?_eq_some hfound) policy]
      exact (gives_log _).andThen ((gives_orFail .refused (.ok ())).andThen (gives_pure _))
    have hgives := hconfig.bind fun config _ =>
      (gives_orFail .refused (Registry.catalogue.get struct)).bind fun schema hs =>
        hend config hs
    simp only [bind_assoc, pure_bind, settings.color_and] at hgives
    exact hgives
  | type name =>
    have hgives := hconfig.bind fun _ _ =>
      (gives_orFail .refused (FieldType.ofText name)).bind fun type _ =>
        gives_pure (⟨.print (type.description (terminal && !settings.noColor)), 0⟩ : Ending)
    simp only [bind_assoc, pure_bind] at hgives
    exact hgives
  | list =>
    have hgives := hconfig.bind fun _ _ =>
      gives_pure (⟨.print Registry.catalogue.listing, 0⟩ : Ending)
    simp only [bind_assoc, pure_bind] at hgives
    exact hgives

/-- The ends of runs that load a configuration: one for each command. -/
inductive Ends (terminal : Bool) (files : FileTree) (settings : CommonSettings) (loaded : Config) :
    Request → Ending → Prop
  | check {request : CheckRequest} {schemas : List Schema} :
    request.Accepted files settings loaded schemas →
    Ends terminal files settings loaded (.check request)
      (request.endingOf terminal settings loaded schemas)
  | layout {struct : String} {policy : Policy} {schema : Schema} :
    Registry.catalogue.get struct = .ok schema →
    Ends terminal files settings loaded (.layout struct policy)
      ⟨.print ((schema.layout .word policy).description
        (terminal && !settings.noColor && loaded.useColor)), 0⟩
  | type {name : String} {type : FieldType} : FieldType.ofText name = .ok type →
    Ends terminal files settings loaded (.type name)
      ⟨.print (type.description (terminal && !settings.noColor)), 0⟩
  | list : Ends terminal files settings loaded .list ⟨.print Registry.catalogue.listing, 0⟩

/-- A run that is planned loads a configuration and has one of the ends. -/
theorem ends_of_planned {terminal : Bool} {files : FileTree} {invocation : Invocation}
    {ending : Ending} (h : invocation.planned terminal files = .ok ending) :
    ∃ loaded, invocation.settings.loaded files.readText = .ok loaded ∧
      Ends terminal files invocation.settings loaded invocation.request ending := by
  obtain ⟨settings, request⟩ := invocation
  cases request with
  | check request =>
    obtain ⟨loaded, schemas, ha, rfl⟩ := CheckRequest.planned_eq_ok_iff.1 h
    exact ⟨loaded, ha.loads, .check ha⟩
  | layout struct policy =>
    simp only [planned, bind_eq_ok_iff, mapError_eq_ok_iff] at h
    obtain ⟨loaded, hloads, schema, hs, hend⟩ := h
    obtain rfl := Except.ok.inj hend
    exact ⟨loaded, hloads, .layout hs⟩
  | type name =>
    simp only [planned, bind_eq_ok_iff, mapError_eq_ok_iff] at h
    obtain ⟨loaded, hloads, type, ht, hend⟩ := h
    obtain rfl := Except.ok.inj hend
    exact ⟨loaded, hloads, .type ht⟩
  | list =>
    simp only [planned, bind_eq_ok_iff] at h
    obtain ⟨loaded, hloads, hend⟩ := h
    obtain rfl := Except.ok.inj hend
    exact ⟨loaded, hloads, .list⟩

/-- A run that is planned does what its end asks for. -/
theorem exists_run_of_planned {terminal : Bool} {files : FileTree} {invocation : Invocation}
    {ending : Ending} (h : invocation.planned terminal files = .ok ending) :
    ∃ log, invocation.run terminal files = ending.outcome files log := by
  obtain ⟨log, hrun⟩ := exists_run_eq (gives_planned terminal files invocation)
  exact ⟨log, by rw [hrun, h]⟩

/-- A run fails, prints nothing and leaves the files as they are; or it loads a configuration, comes
to an end, and does the act that this asks for. -/
theorem run_cases (terminal : Bool) (files : FileTree) (invocation : Invocation) :
    (∃ log failure, invocation.run terminal files = ⟨log, "", .error failure, files⟩) ∨
    ∃ loaded ending log after, invocation.settings.loaded files.readText = .ok loaded ∧
      Ends terminal files invocation.settings loaded invocation.request ending ∧
      ending.act.Leaves files after ∧
      invocation.run terminal files = ⟨log, ending.act.shown, .ok ending.exitCode, after⟩ := by
  obtain ⟨log, hrun⟩ := exists_run_eq (gives_planned terminal files invocation)
  cases hplanned : invocation.planned terminal files with
  | error failure =>
    rw [hplanned] at hrun
    exact .inl ⟨log, failure, hrun⟩
  | ok ending =>
    obtain ⟨loaded, hloads, hends⟩ := ends_of_planned hplanned
    obtain ⟨act, exitCode⟩ := ending
    rw [hplanned] at hrun
    cases act with
    | print text => exact .inr ⟨loaded, _, log, files, hloads, hends, rfl, hrun⟩
    | write path text notice =>
      cases hw : files.writeText path text with
      | error error => exact .inl ⟨log, .report path error, by simp [hrun, Ending.outcome, hw]⟩
      | ok written =>
        exact .inr ⟨loaded, _, log, written, hloads, hends, hw,
          by simp [hrun, Ending.outcome, hw, Act.shown]⟩

end Invocation

end LayoutParity
