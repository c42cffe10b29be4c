import LayoutParity.Command.Run
import LayoutParity.Proofs.CacheHistory
import LayoutParity.Proofs.ConfigFiles
import LayoutParity.Proofs.Registration
import LayoutParity.Proofs.WordLayouts

/-!
# Plans of checks

A plan logs as it goes, but what it gives does not depend on the log. `Logged.Gives` says what a
computation gives, with one rule for each way to build one, and turns the plan of a check into an
equation without a log (`CheckRequest.gives_planned`). On the way the comparator disappears too:
what it remembers does not matter (`CheckRequest.gives_compareNamed`), and the layouts it computes
of built-in structs are never refused (`Config.validate_comparisonOf`).

So a plan comes to its end exactly if the request is accepted (`CheckRequest.Accepted`), and this
end is known (`CheckRequest.planned_eq_ok_iff`).
-/

namespace LayoutParity

/-! ## What a logged computation gives -/

theorem bind_eq_ok_iff {ε α β : Type} {first : Except ε α} {next : α → Except ε β} {result : β} :
    (first >>= next) = .ok result ↔ ∃ value, first = .ok value ∧ next value = .ok result := by
  cases first <;> simp [bind, Except.bind]

theorem mapError_eq_ok_iff {ε ε' α : Type} {reword : ε → ε'} {result : Except ε α} {value : α} :
    result.mapError reword = .ok value ↔ result = .ok value := by
  cases result <;> simp [Except.mapError]

namespace Logged

variable {α β : Type}

/-- A computation has this result, whatever was logged before. -/
def Gives (action : Logged α) (result : Except Failure α) : Prop :=
  ∀ log, (action.run.run log).1 = result

theorem gives_pure (value : α) : Gives (pure value) (pure value) := fun _ => rfl

theorem gives_throw (failure : Failure) : Gives (throw failure : Logged α) (.error failure) :=
  fun _ => rfl

theorem gives_log (lines : List LogLine) : Gives (Logged.log lines) (pure ()) := fun _ => rfl

theorem gives_orFail (failure : Problem → Failure) (result : Except Problem α) :
    Gives (orFail failure result) (result.mapError failure) := fun _ => rfl

/-- What follows a computation only runs where this succeeds. -/
theorem Gives.bind {action : Logged α} {result : Except Failure α} {next : α → Logged β}
    {results : α → Except Failure β} (h : Gives action result)
    (hn : ∀ value, result = .ok value → Gives (next value) (results value)) :
    Gives (action >>= next) (result >>= results) := by
  intro log
  have hrun : (action >>= next).run.run log =
      match action.run.run log with
      | (.ok value, log) => (next value).run.run log
      | (.error failure, log) => (.error failure, log) := by
    rw [ExceptT.run_bind, StateT.run_bind]
    obtain ⟨ran, log⟩ := action.run.run log
    cases ran <;> rfl
  rw [hrun]
  have hresult := h log
  generalize action.run.run log = ran at hresult
  obtain ⟨ran, log⟩ := ran
  obtain rfl : ran = result := hresult
  cases ran with
  | error failure => rfl
  | ok value => exact hn value rfl log

/-- What follows a computation that succeeds gives the result of both. -/
theorem Gives.andThen {action : Logged α} {value : α} {next : α → Logged β}
    {result : Except Failure β} (h : Gives action (pure value)) (hn : Gives (next value) result) :
    Gives (action >>= next) result := by
  rw [← pure_bind value fun _ => result]
  refine h.bind fun other ho => ?_
  obtain rfl : value = other := Except.ok.inj ho
  exact hn

/-- Nothing follows a computation that fails. -/
theorem Gives.stop {action : Logged α} {failure : Failure} (h : Gives action (.error failure))
    (next : α → Logged β) : Gives (action >>= next) (.error failure) := by
  have hbind : Gives (action >>= next) ((.error failure : Except Failure α) >>= fun _ =>
      .error failure) := h.bind fun _ he => nomatch he
  exact hbind

theorem gives_forM {items : List α} {action : α → Logged Unit}
    (h : ∀ item ∈ items, Gives (action item) (pure ())) :
    Gives (items.forM action) (pure ()) := by
  induction items with
  | nil => exact gives_pure ()
  | cons item items ih =>
    obtain ⟨hitem, hitems⟩ := List.forall_mem_cons.1 h
    exact hitem.bind fun _ _ => ih hitems

end Logged

/-! ## Looking names up -/

namespace Registry

/-- The declarations of names, or why the first name without one is refused. -/
def lookUp (registry : Registry) (names : List String) : Except Failure (List Schema) :=
  names.mapM fun name => (registry.get name).mapError .refused

variable {registry : Registry} {names : List String} {schemas : List Schema}

theorem lookUp_cons (registry : Registry) (name : String) (names : List String) :
    registry.lookUp (name :: names) = (do
      let schema ← (registry.get name).mapError .refused
      let schemas ← registry.lookUp names
      return schema :: schemas) :=
  List.mapM_cons

/-- Looking names up succeeds exactly if each of them is found. -/
theorem lookUp_eq_ok_iff :
    registry.lookUp names = .ok schemas ↔ names.map registry.find? = schemas.map some := by
  induction names generalizing schemas with
  | nil => cases schemas <;> simp [lookUp, List.mapM_nil, pure, Except.pure]
  | cons name names ih =>
    rw [lookUp_cons, List.map_cons, eq_comm (b := schemas.map some), List.map_eq_cons_iff]
    simp only [bind_eq_ok_iff, mapError_eq_ok_iff, get_eq_ok_iff, ih]
    constructor
    · rintro ⟨schema, hs, rest, hr, he⟩
      exact ⟨schema, rest, (Except.ok.inj he).symm, hs.symm, hr.symm⟩
    · rintro ⟨schema, rest, rfl, hs, hr⟩
      exact ⟨schema, hs.symm, rest, hr.symm, rfl⟩

/-- A struct is found exactly under the names that are looked up. -/
theorem mem_iff_of_found (h : names.map registry.find? = schemas.map some) (schema : Schema) :
    schema ∈ schemas ↔ ∃ name ∈ names, registry.find? name = some schema := by
  have hsome : schema ∈ schemas ↔ some schema ∈ schemas.map some := by simp
  rw [hsome, ← h, List.mem_map]

/-- What is found under a name is registered. -/
theorem mem_schemas_of_found (h : names.map registry.find? = schemas.map some) {schema : Schema}
    (hm : schema ∈ schemas) : schema ∈ registry.schemas := by
  obtain ⟨name, -, hfound⟩ := (mem_iff_of_found h schema).1 hm
  exact List.mem_of_find?_eq_some hfound

theorem exists_found (h : ∀ name ∈ names, ∃ schema, registry.find? name = some schema) :
    ∃ schemas : List Schema, names.map registry.find? = schemas.map some := by
  induction names with
  | nil => exact ⟨[], rfl⟩
  | cons name names ih =>
    obtain ⟨⟨schema, hs⟩, hrest⟩ := List.forall_mem_cons.1 h
    obtain ⟨rest, hr⟩ := ih hrest
    exact ⟨schema :: rest, by rw [List.map_cons, List.map_cons, hs, hr]⟩

theorem exists_of_found (h : names.map registry.find? = schemas.map some) :
    ∀ name ∈ names, ∃ schema, registry.find? name = some schema := by
  intro name hn
  have hmem : registry.find? name ∈ schemas.map some := h ▸ List.mem_map_of_mem hn
  obtain ⟨schema, -, hs⟩ := List.mem_map.1 hmem
  exact ⟨schema, hs.symm⟩

end Registry

/-! ## Comparing -/

/-- How a struct compares under the policies of a configuration, whatever was compared before. -/
def Config.comparisonOf (config : Config) (schema : Schema) : Comparison :=
  ((Comparator.fresh .word config.hostPolicy config.devicePolicy config.compareNested).compare
    schema).1

/-- The layouts of built-in structs are sound. -/
theorem Catalogue.layout_accepted {schema : Schema} (h : schema ∈ Catalogue.schemas)
    (policy : Policy) : (schema.layout .word policy).validate .word = .ok () :=
  Schema.validate_layout_word (Catalogue.fits policy schema h)

/-- Both layouts of a comparison of a built-in struct are sound. -/
theorem Config.validate_comparisonOf (config : Config) {schema : Schema}
    (h : schema ∈ Catalogue.schemas) :
    (config.comparisonOf schema).host.validate .word = .ok () ∧
      (config.comparisonOf schema).device.validate .word = .ok () := by
  rw [comparisonOf, Comparator.compare_fresh]
  exact ⟨Catalogue.layout_accepted h config.hostPolicy,
    Catalogue.layout_accepted h config.devicePolicy⟩

namespace CheckRequest

open Logged

/-- The structs of names are compared one by one, and what the comparator remembers of those
before does not matter. -/
theorem gives_compareNamed (registry : Registry) (config : Config)
    (calls : List LayoutCache.Call) (names : List String) :
    Gives
      (compareNamed registry
        (.withHistory .word config.hostPolicy config.devicePolicy config.compareNested calls)
        names)
      (do
        let schemas ← registry.lookUp names
        return schemas.map config.comparisonOf) := by
  induction names generalizing calls with
  | nil => exact gives_pure []
  | cons name names ih =>
    rw [compareNamed, Registry.lookUp_cons, bind_assoc]
    refine (gives_orFail .refused (registry.get name)).bind fun schema _ => ?_
    refine (gives_log _).andThen ?_
    let later := calls ++ Comparator.lookups config.hostPolicy config.devicePolicy schema
    have hcompare : (Comparator.withHistory .word config.hostPolicy config.devicePolicy
        config.compareNested calls).compare schema = (config.comparisonOf schema, .withHistory
          .word config.hostPolicy config.devicePolicy config.compareNested later) :=
      Comparator.compare_withHistory ..
    rw [hcompare]
    have hrest := (ih later).bind fun comparisons _ =>
      gives_pure (config.comparisonOf schema :: comparisons)
    simpa only [bind_assoc, pure_bind, List.map_cons] using hrest

/-- Built-in structs are looked up and compared. -/
theorem gives_comparisons (config : Config) :
    Gives (comparisons .catalogue config) (do
      let schemas ← Registry.catalogue.lookUp (selected .catalogue config)
      return schemas.map config.comparisonOf) := by
  rw [comparisons, ← bind_pure (Registry.catalogue.lookUp _ >>= _)]
  refine (gives_log _).andThen ?_
  refine (gives_compareNamed .catalogue config [] (selected .catalogue config)).bind
    fun comparisons hc => ?_
  obtain ⟨schemas, hfound, hs⟩ := bind_eq_ok_iff.1 hc
  obtain rfl : schemas.map config.comparisonOf = comparisons := Except.ok.inj hs
  refine Gives.andThen (gives_forM (List.forall_mem_map.2 fun schema hm => ?_)) (gives_pure _)
  have hbuiltIn := Registry.mem_schemas_of_found (Registry.lookUp_eq_ok_iff.1 hfound) hm
  obtain ⟨hhost, hdevice⟩ := config.validate_comparisonOf hbuiltIn
  rw [hhost, hdevice]
  exact (gives_orFail .refused (.ok ())).andThen (gives_orFail .refused (.ok ()))

/-! ## Plans of checks -/

/-- Fails if the file that a request wants written is a directory. -/
def outputAllowed (request : CheckRequest) (isDirectory : String → Bool) : Except Failure Unit :=
  match request.output? with
  | some path => if isDirectory path then .error (.outputIsDirectory path) else .ok ()
  | none => .ok ()

/-- The end of a check once its structs are compared. -/
def ending (request : CheckRequest) (config : Config) (quiet color : Bool)
    (comparisons : List Comparison) : Ending :=
  ⟨act config quiet color (request.reportText config color comparisons),
    exitCode config comparisons⟩

theorem gives_plan (request : CheckRequest) (isDirectory : String → Bool) (config : Config)
    (quiet color : Bool) :
    Gives (request.plan isDirectory config quiet color) (do
      request.outputAllowed isDirectory
      let _ ← (request.applyTo config).validate.mapError Failure.refused
      let schemas ← Registry.catalogue.lookUp (selected .catalogue (request.applyTo config))
      return request.ending (request.applyTo config) quiet color
        (schemas.map (request.applyTo config).comparisonOf)) := by
  rw [plan, outputAllowed]
  generalize request.applyTo config = config
  have hend : Gives
      (do
        Logged.log (← Logged.orFail .refused config.validate)
        let comparisons ← comparisons .catalogue config
        return request.ending config quiet color comparisons)
      (do
        let _ ← config.validate.mapError Failure.refused
        let schemas ← Registry.catalogue.lookUp (selected .catalogue config)
        return request.ending config quiet color (schemas.map config.comparisonOf)) := by
    refine (gives_orFail .refused _).bind fun notices _ => (gives_log notices).andThen ?_
    have hreport := (gives_comparisons config).bind
      fun comparisons _ => gives_pure (request.ending config quiet color comparisons)
    simpa only [bind_assoc, pure_bind] using hreport
  cases request.output? with
  | none => exact hend
  | some path =>
    dsimp only
    cases isDirectory path with
    | true => exact (gives_throw _).stop _
    | false => exact hend

end CheckRequest

/-! ## Loaded configurations -/

/-- The configuration of a run, before its settings switch colour off. -/
def CommonSettings.loaded (settings : CommonSettings)
    (readText : String → Except FileError String) : Except Failure Config :=
  match settings.config? with
  | none => .ok .standard
  | some path => ((Config.load path (readText path)).map (·.1)).mapError (.config path)

theorem Invocation.gives_config (surroundings : Surroundings) (settings : CommonSettings) :
    Logged.Gives (Invocation.config surroundings settings) (do
      let loaded ← settings.loaded surroundings.readText
      return { loaded with useColor := loaded.useColor && !settings.noColor }) := by
  rw [Invocation.config, CommonSettings.loaded]
  cases settings.config? with
  | none => exact Logged.gives_pure _
  | some path =>
    dsimp only
    cases Config.load path (surroundings.readText path) with
    | error problem => exact (Logged.gives_orFail _ (.error problem)).stop _
    | ok loaded =>
      exact (Logged.gives_orFail _ (.ok loaded)).andThen
        ((Logged.gives_log _).andThen (Logged.gives_pure _))

theorem Config.validate_eq_ok_iff {config : Config} {notices : List LogLine} :
    config.validate = .ok notices ↔
      (∀ name ∈ config.structs, Text.trim name ≠ "") ∧ config.notices = notices := by
  rw [validate_eq]
  split
  · next hblank =>
    obtain ⟨name, hn, hblank⟩ := hblank
    simpa using fun h => absurd hblank (h name hn)
  · next hnamed =>
    have hnames : ∀ name ∈ config.structs, Text.trim name ≠ "" :=
      fun name hn hblank => hnamed ⟨name, hn, hblank⟩
    exact ⟨fun h => ⟨hnames, Except.ok.inj h⟩, fun h => congrArg Except.ok h.2⟩

theorem Config.load_eq_ok_iff {file : String} {content : Except FileError String} {config : Config}
    {notices : List LogLine} :
    Config.load file content = .ok (config, notices) ↔
      ∃ text, content = .ok text ∧ parse? text = some config ∧
        (∀ name ∈ config.structs, Text.trim name ≠ "") ∧ config.notices = notices := by
  simp only [load, bind_eq_ok_iff, mapError_eq_ok_iff]
  refine exists_congr fun text => and_congr_right fun _ => ?_
  cases parse? text with
  | none => simp [throw, throwThe, MonadExceptOf.throw]
  | some described =>
    simp only [bind_eq_ok_iff, validate_eq_ok_iff, Option.some.injEq]
    constructor
    · rintro ⟨noticed, ⟨hnamed, hnotices⟩, he⟩
      obtain ⟨rfl, rfl⟩ := Prod.mk.inj (Except.ok.inj he)
      exact ⟨rfl, hnamed, hnotices⟩
    · rintro ⟨rfl, hnamed, hnotices⟩
      exact ⟨notices, ⟨hnamed, hnotices⟩, rfl⟩

/-- A run with a configuration file loads what the text of this file describes, unless this selects
a blank name. -/
theorem CommonSettings.loaded_eq_ok_iff {settings : CommonSettings} {path : String}
    (hc : settings.config? = some path) {readText : String → Except FileError String}
    {config : Config} :
    settings.loaded readText = .ok config ↔
      ∃ text, readText path = .ok text ∧ Config.parse? text = some config ∧
        ∀ name ∈ config.structs, Text.trim name ≠ "" := by
  have hmap {result : Except Problem (Config × List LogLine)} :
      result.map (·.1) = .ok config ↔ ∃ notices, result = .ok (config, notices) := by
    cases result <;> simp [Except.map, Prod.ext_iff]
  simp only [loaded, hc, mapError_eq_ok_iff, hmap, Config.load_eq_ok_iff]
  constructor
  · rintro ⟨_, text, hread, hparse, hnamed, -⟩
    exact ⟨text, hread, hparse, hnamed⟩
  · rintro ⟨text, hread, hparse, hnamed⟩
    exact ⟨_, text, hread, hparse, hnamed, rfl⟩

/-! ## Accepted requests -/

namespace CheckRequest

open Logged

/-- What the plan of a check needs: the configuration of the run, a file to write that is no
directory, no blank name, and the structs of all selected names, in order. -/
structure Accepted (files : FileTree) (settings : CommonSettings) (request : CheckRequest)
    (loaded : Config) (schemas : List Schema) : Prop where
  loads : settings.loaded files.readText = .ok loaded
  allowed : request.outputAllowed files.isDirectory = .ok ()
  named : ∀ name ∈ (request.applyTo loaded).structs, Text.trim name ≠ ""
  found : (selected .catalogue (request.applyTo loaded)).map Registry.catalogue.find? =
    schemas.map some

/-- The end of a check that compares some structs. Colour is switched off by the settings. -/
def endingOf (terminal : Bool) (settings : CommonSettings) (request : CheckRequest)
    (loaded : Config) (schemas : List Schema) : Ending :=
  request.ending
    (request.applyTo { loaded with useColor := loaded.useColor && !settings.noColor })
    settings.quiet (terminal && !settings.noColor)
    (schemas.map (request.applyTo loaded).comparisonOf)

variable {terminal : Bool} {files : FileTree} {settings : CommonSettings} {request : CheckRequest}

/-- The end of a check, or why it fails before its act. -/
def planned (terminal : Bool) (files : FileTree) (settings : CommonSettings)
    (request : CheckRequest) : Except Failure Ending := do
  let loaded ← settings.loaded files.readText
  request.outputAllowed files.isDirectory
  let _ ← (request.applyTo loaded).validate.mapError Failure.refused
  let schemas ← Registry.catalogue.lookUp (selected .catalogue (request.applyTo loaded))
  return endingOf terminal settings request loaded schemas

theorem gives_planned (terminal : Bool) (files : FileTree) (settings : CommonSettings)
    (request : CheckRequest) :
    Gives (Invocation.plan (.ofTree terminal files) ⟨settings, .check request⟩)
      (request.planned terminal files settings) := by
  have hgives := (Invocation.gives_config (.ofTree terminal files) settings).bind fun config _ =>
    request.gives_plan files.isDirectory config settings.quiet (terminal && !settings.noColor)
  simp only [bind_assoc, pure_bind] at hgives
  exact hgives

theorem planned_eq_ok_iff {ending : Ending} :
    request.planned terminal files settings = .ok ending ↔
      ∃ loaded schemas, Accepted files settings request loaded schemas ∧
        endingOf terminal settings request loaded schemas = ending := by
  simp only [planned, bind_eq_ok_iff, mapError_eq_ok_iff, Registry.lookUp_eq_ok_iff,
    Config.validate_eq_ok_iff]
  constructor
  · rintro ⟨loaded, hloads, _, hallowed, _, ⟨hnamed, -⟩, schemas, hfound, hend⟩
    exact ⟨loaded, schemas, ⟨hloads, hallowed, hnamed, hfound⟩, Except.ok.inj hend⟩
  · rintro ⟨loaded, schemas, h, rfl⟩
    exact ⟨loaded, h.loads, (), h.allowed, _, ⟨h.named, rfl⟩, schemas, h.found, rfl⟩

end CheckRequest

end LayoutParity
