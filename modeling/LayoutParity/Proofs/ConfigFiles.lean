import LayoutParity.Config.File
import LayoutParity.Files.Tree
import LayoutParity.Proofs.JsonMembers

/-!
# Reading configuration files

A configuration file need not be written by this library: it may hold some members only, in any
order, spelled in any way, and among others that mean nothing (`Config.HoldsOn`). What such a file
describes is found key by key (`Config.HoldsOn.lookup_eq`), so the members that are left out do not
matter to the others (`Config.files_load_as_written`). Loading adds one test, which looks at the
names of structs only (`Config.validate_eq`).
-/

namespace LayoutParity

/-- A text is decoded from its bytes. -/
theorem FileTree.decodeText_toUTF8 (text : String) : decodeText text.toUTF8 = .ok text := by
  have hdecode : String.fromUTF8? text.toUTF8 = some text := by
    rw [String.fromUTF8?, String.toUTF8_eq_toByteArray, dif_pos text.isValidUTF8]
    rfl
  rw [decodeText, hdecode]

theorem FileTree.readText_of_readBytes {tree : FileTree} {path text : String}
    (h : tree.readBytes path = .ok text.toUTF8) : tree.readText path = .ok text := by
  rw [readText, h]
  exact decodeText_toUTF8 text

/-! ## Choices -/

theorem Json.bool?_ofBool (value : Bool) : (Json.ofBool value).bool? = some value := rfl

theorem Policy.ofJson?_toJson (room : Nat) (policy : Policy) :
    Policy.ofJson? room policy.toJson = some policy := by
  cases policy <;> rfl

theorem ReportFormat.ofJson?_toJson (room : Nat) (format : ReportFormat) :
    ReportFormat.ofJson? room format.toJson = some format := by
  cases format <;> rfl

namespace Config

/-! ## Members -/

/-- The members of a configuration, as they are written. -/
def members (config : Config) : List (String × Json) :=
  [("host_policy", config.hostPolicy.toJson),
    ("device_policy", config.devicePolicy.toJson),
    ("compare_nested", .ofBool config.compareNested),
    ("format", config.format.toJson),
    ("output_file", (config.outputFile?.map Json.ofText).getD .null),
    ("use_color", .ofBool config.useColor),
    ("pretty_json", .ofBool config.prettyJson),
    ("fail_on_divergence", .ofBool config.failOnDivergence),
    ("structs", .array (config.structs.map Json.ofText))]

theorem toJson_eq (config : Config) : config.toJson = .ofMembers config.members := rfl

theorem map_members (config : Config) : config.members.map (·.1) = keys := rfl

theorem nodup_keys : keys.Nodup := by decide

/-- The members with known keys are those of a configuration under the keys kept, in any order.
Other members may be anything. -/
def HoldsOn (config : Config) (kept : List String) (members : List (String × Json)) : Prop :=
  (members.filter fun member => member.1 ∈ keys).Perm
    (config.members.filter fun member => member.1 ∈ kept)

/-- The configuration with its own values under some keys and the standard values elsewhere. -/
def onKeys (config : Config) (kept : List String) : Config where
  hostPolicy := if "host_policy" ∈ kept then config.hostPolicy else standard.hostPolicy
  devicePolicy := if "device_policy" ∈ kept then config.devicePolicy else standard.devicePolicy
  compareNested :=
    if "compare_nested" ∈ kept then config.compareNested else standard.compareNested
  format := if "format" ∈ kept then config.format else standard.format
  outputFile? := if "output_file" ∈ kept then config.outputFile? else standard.outputFile?
  useColor := if "use_color" ∈ kept then config.useColor else standard.useColor
  prettyJson := if "pretty_json" ∈ kept then config.prettyJson else standard.prettyJson
  failOnDivergence :=
    if "fail_on_divergence" ∈ kept then config.failOnDivergence else standard.failOnDivergence
  structs := if "structs" ∈ kept then config.structs else standard.structs

theorem onKeys_keys (config : Config) : config.onKeys keys = config := by
  cases config
  rfl

/-! ## Reading members -/

section
variable {config : Config} {kept : List String} {members : List (String × Json)}

theorem count_members_le_one (config : Config) (kept : List String) (key : String) :
    ((config.members.filter fun member => member.1 ∈ kept).map (·.1)).count key ≤ 1 := by
  have hsub : ((config.members.filter fun member => member.1 ∈ kept).map (·.1)).Sublist keys :=
    config.map_members ▸ List.filter_sublist.map _
  exact List.nodup_iff_count_le_one.1 (nodup_keys.sublist hsub) key

/-- No known key occurs twice. -/
theorem HoldsOn.count_le_one (h : config.HoldsOn kept members) {key : String} (hk : key ∈ keys) :
    (members.map (·.1)).count key ≤ 1 := by
  have hfilter : (members.map (·.1)).filter (· ∈ keys) =
      (members.filter fun member => member.1 ∈ keys).map (·.1) := List.filter_map
  have hcount : ((members.map (·.1)).filter (· ∈ keys)).count key = (members.map (·.1)).count key :=
    List.count_filter (decide_eq_true hk)
  rw [← hcount, hfilter, (h.map (·.1)).count_eq]
  exact count_members_le_one config kept key

/-- Under a known key stands what is written of the configuration, if the key is kept. -/
theorem HoldsOn.lookup_eq (h : config.HoldsOn kept members) {key : String} (hk : key ∈ keys) :
    members.lookup key = if key ∈ kept then config.members.lookup key else none := by
  have hcount : ((members.filter fun member => member.1 ∈ keys).map (·.1)).count key ≤ 1 :=
    (h.map (·.1)).count_eq key ▸ count_members_le_one config kept key
  have hknown := Json.lookup_filter (fun name => decide (name ∈ keys)) members key
  have hkept := Json.lookup_filter (fun name => decide (name ∈ kept)) config.members key
  rw [Json.lookup_perm h hcount, hkept] at hknown
  simpa [hk] using hknown.symm

/-- A member that is kept is read, and one that is left out has its standard value. -/
theorem memberOr_kept {α : Type} {read : Json → Option α} {written : Json} {value : α}
    (h : read written = some value) (standard : α) (key : String) :
    memberOr read standard (if key ∈ kept then some written else none) =
      some (if key ∈ kept then value else standard) := by
  split
  · exact h
  · rfl

theorem optional?_kept (file? : Option String) (key : String) :
    Json.optional? Json.text?
        (if key ∈ kept then some ((file?.map Json.ofText).getD .null) else none) =
      some (if key ∈ kept then file? else none) := by
  split
  · cases file? <;> rfl
  · rfl

theorem list?_texts (room : Nat) (texts : List String) :
    (Json.array (texts.map Json.ofText)).list? (fun _ => Json.text?) (room + 1) = some texts := by
  rw [Json.list?_eq_some_iff]
  refine ⟨_, rfl, ?_⟩
  rw [List.forall₂_map_left_iff, List.forall₂_same]
  exact fun _ _ => rfl

/-- A configuration is read from its members. -/
theorem HoldsOn.ofJson?_eq (h : config.HoldsOn kept members) (room : Nat) :
    ofJson? (room + 2) (.ofMembers members) = some (config.onKeys kept) := by
  have hlookup : (Json.ofMembers members).members? keys =
      some (keys.map fun key => if key ∈ kept then config.members.lookup key else none) := by
    rw [Json.members?_ofMembers fun key hk => h.count_le_one hk]
    exact congrArg some (List.map_congr_left fun key hk => h.lookup_eq hk)
  have hmembers : keys.map (fun key => if key ∈ kept then config.members.lookup key else none) =
      [if "host_policy" ∈ kept then some config.hostPolicy.toJson else none,
        if "device_policy" ∈ kept then some config.devicePolicy.toJson else none,
        if "compare_nested" ∈ kept then some (.ofBool config.compareNested) else none,
        if "format" ∈ kept then some config.format.toJson else none,
        if "output_file" ∈ kept then some ((config.outputFile?.map Json.ofText).getD .null)
        else none,
        if "use_color" ∈ kept then some (.ofBool config.useColor) else none,
        if "pretty_json" ∈ kept then some (.ofBool config.prettyJson) else none,
        if "fail_on_divergence" ∈ kept then some (.ofBool config.failOnDivergence) else none,
        if "structs" ∈ kept then some (.array (config.structs.map Json.ofText)) else none] := rfl
  rw [ofJson?, hlookup, hmembers]
  simp only [Option.bind_eq_bind, Option.bind_some,
    memberOr_kept (Policy.ofJson?_toJson (room + 1) config.hostPolicy),
    memberOr_kept (Policy.ofJson?_toJson (room + 1) config.devicePolicy),
    memberOr_kept (ReportFormat.ofJson?_toJson (room + 1) config.format),
    memberOr_kept (Json.bool?_ofBool config.compareNested),
    memberOr_kept (Json.bool?_ofBool config.useColor),
    memberOr_kept (Json.bool?_ofBool config.prettyJson),
    memberOr_kept (Json.bool?_ofBool config.failOnDivergence),
    memberOr_kept (list?_texts room config.structs), optional?_kept]
  rfl

end

/-! ## Loading -/

/-- A configuration is refused exactly if trimming leaves nothing of some name it selects. -/
theorem validate_eq (config : Config) :
    config.validate = if ∃ name ∈ config.structs, Text.trim name = "" then
      .error (.text .blankStructName) else .ok config.notices := by
  have hblank : config.structs.any Text.isBlankText = true ↔
      ∃ name ∈ config.structs, Text.trim name = "" := by
    simp only [List.any_eq_true, Text.trim_eq_empty_iff]
  simp only [validate, hblank]

/-- What is loaded of a text is what it describes, if that is valid. -/
theorem load_eq {text : String} {config : Config} (h : parse? text = some config) (file : String) :
    load file (.ok text) = if ∃ name ∈ config.structs, Text.trim name = "" then
      .error (.text .blankStructName) else .ok (config, config.notices) := by
  have hload : load file (.ok text) = config.validate.map fun notices => (config, notices) := by
    simp only [load, Except.mapError, bind, Except.bind, h]
    cases config.validate <;> rfl
  rw [hload, validate_eq]
  split <;> rfl

theorem holdsOn_members (config : Config) : config.HoldsOn keys config.members := .refl _

/-- However its members are arranged and its text is spelled, a configuration file is read as the
configuration that it holds some members of, with the standard values elsewhere. -/
theorem HoldsOn.parse?_eq {config : Config} {kept : List String} {members : List (String × Json)}
    (h : config.HoldsOn kept members) {text : String}
    (ht : Json.Written text (.ofMembers members)) : parse? text = some (config.onKeys kept) := by
  rw [parse?, Json.readAs?, Json.parse?_of_written ht, Option.bind_some]
  exact h.ofJson?_eq 125

theorem parse?_render (config : Config) : parse? config.render = some config := by
  have ht : Json.Written config.render (.ofMembers config.members) :=
    config.toJson_eq ▸ config.toJson.written_compact
  rw [config.holdsOn_members.parse?_eq ht, onKeys_keys]

/-- A file that holds the members of a configuration under some keys, in any order, in any spelling
and among members with unknown keys, describes the configuration with these values and the standard
ones elsewhere. It is loaded as this configuration exactly if trimming leaves something of every
name it selects, and is refused otherwise. The text that is written for a configuration describes
this configuration. -/
theorem files_load_as_written (config : Config) :
    (∀ (kept : List String) (members : List (String × Json)) (text : String),
      config.HoldsOn kept members → Json.Written text (.ofMembers members) →
      parse? text = some (config.onKeys kept) ∧
      ∀ (tree : FileTree) (path : String), tree.readBytes path = .ok text.toUTF8 →
        (load path (tree.readText path) = .ok (config.onKeys kept, (config.onKeys kept).notices) ↔
          ∀ name ∈ (config.onKeys kept).structs, Text.trim name ≠ "") ∧
        ((∃ name ∈ (config.onKeys kept).structs, Text.trim name = "") →
          load path (tree.readText path) = .error (.text .blankStructName))) ∧
    parse? config.render = some config := by
  refine ⟨fun kept members text hm ht => ?_, config.parse?_render⟩
  have hparse := hm.parse?_eq ht
  refine ⟨hparse, fun tree path hfile => ?_⟩
  rw [FileTree.readText_of_readBytes hfile, load_eq hparse]
  constructor
  · simp
  · exact fun hblank => if_pos hblank

/-- The tree of a working directory with one file, `a`, with some text. -/
def sampleTree (text : String) : FileTree :=
  ⟨[(["work"], .directory), (["work", "a"], .file text.toUTF8)], ["work"]⟩

theorem readBytes_sampleTree (text : String) :
    (sampleTree text).readBytes "a" = .ok text.toUTF8 :=
  rfl

/-- A file with two of the nine members in another order, among members with unknown keys of which
one comes twice, and a file that selects a blank name. -/
theorem files_load_as_written_two :
    let config : Config :=
      { Config.standard with
        hostPolicy := .simdVector, outputFile? := some "a\n", structs := ["Ray", " H\u00e9 "] }
    let members : List (String × Json) :=
      [("Structs", .null), ("structs", .array [.ofText "Ray", .ofText " H\u00e9 "]),
        ("note", .array [.ofMembers [("structs", .ofNat 7)]]),
        ("host_policy", .ofText "simd-vector"), ("note", .atom (.number none))]
    let blank : Config := { Config.standard with structs := ["\t"] }
    config.HoldsOn ["host_policy", "structs"] members ∧
    load "a" ((sampleTree (Json.ofMembers members).pretty).readText "a") =
      .ok
        ({ Config.standard with hostPolicy := .simdVector, structs := ["Ray", " H\u00e9 "] }, []) ∧
    load "a" ((sampleTree blank.render).readText "a") = .error (.text .blankStructName) := by
  intro config members blank
  have hm : config.HoldsOn ["host_policy", "structs"] members := .swap ..
  have hsome : ∀ name ∈ (config.onKeys ["host_policy", "structs"]).structs,
      Text.trim name ≠ "" := by
    decide
  have hnone : ∃ name ∈ (blank.onKeys keys).structs, Text.trim name = "" := by
    decide
  obtain ⟨-, hload⟩ := (files_load_as_written config).1 _ _ _ hm (Json.written_pretty _)
  obtain ⟨-, hrefused⟩ := (files_load_as_written blank).1 _ _ _ blank.holdsOn_members
    (Json.written_compact _)
  exact ⟨hm, (hload _ "a" (readBytes_sampleTree _)).1.2 hsome,
    (hrefused _ "a" (readBytes_sampleTree _)).2 hnone⟩

end Config

end LayoutParity
