import LayoutParity.Json.Reader
import LayoutParity.Proofs.CacheHistory
import LayoutParity.Proofs.JsonMembers
import LayoutParity.Proofs.NestedLayouts
import LayoutParity.Record.Comparison

/-!
# Texts of records

The record of a layout or of a comparison is read back from the text that is written for it
(`Json.records_read_back`). What reading asks for is one equivalence for each record, so that both
directions follow the same induction over nested records: what was written is read where the room is
as large as the value is deep, in whatever order its members are, and what was read is never deeper
than the room. The depth of a computed record comes from the declaration, where each level of
structs takes three containers (`Schema.depth_toJson_layout`).
-/

namespace LayoutParity

/-! ## What reading asks for -/

namespace LayoutRecord

/-- A layout record is read from a value that has all its members, each read as its own type. -/
theorem ofJson?_eq_some_iff {room : Nat} {value : Json} {record : LayoutRecord} :
    LayoutRecord.ofJson? (room + 1) value = some record ↔
      ∃ name policy fields dataSize size alignment,
        value.members? keys =
          some [some name, some policy, some fields, some dataSize, some size, some alignment] ∧
        name.text? = some record.name ∧ policy.text? = some record.policy ∧
        FieldRecord.listOfJson? room fields = some record.fields ∧
        dataSize.word? = some record.dataSize ∧ size.word? = some record.size ∧
        alignment.word? = some record.alignment := by
  cases record
  rw [LayoutRecord.ofJson?]
  constructor
  · intro h
    obtain ⟨parts, hparts, h⟩ := Option.bind_eq_some_iff.1 h
    split at h
    · simp only [Option.bind_eq_bind, Option.pure_def, Option.bind_eq_some_iff,
        Option.some.injEq] at h
      obtain ⟨_, hn, _, hp, _, hf, _, hd, _, hs, _, ha, he⟩ := h
      cases he
      exact ⟨_, _, _, _, _, _, hparts, hn, hp, hf, hd, hs, ha⟩
    · cases h
  · rintro ⟨name, policy, fields, dataSize, size, alignment, hparts, hn, hp, hf, hd, hs, ha⟩
    rw [hparts]
    simp only [Option.bind_eq_bind, Option.bind_some, hn, hp, hf, hd, hs, ha]
    rfl

end LayoutRecord

namespace FieldRecord

theorem listOfJson?_eq_some_iff {room : Nat} {value : Json} {records : List FieldRecord} :
    FieldRecord.listOfJson? (room + 1) value = some records ↔
      ∃ items, value = .array items ∧
        List.Forall₂ (fun item record => FieldRecord.ofJson? room item = some record) items
          records := by
  cases value with
  | array items =>
    rw [FieldRecord.listOfJson?, Json.mapM_eq_some_iff]
    exact ⟨fun h => ⟨items, rfl, h⟩, fun ⟨_, he, h⟩ => Json.array.inj he ▸ h⟩
  | atom _ | object _ => simp [FieldRecord.listOfJson?]

/-- The record of a field is read from a value that has all its members but perhaps the last. -/
theorem ofJson?_eq_some_iff {room : Nat} {value : Json} {record : FieldRecord} :
    FieldRecord.ofJson? (room + 1) value = some record ↔
      ∃ name type offset size alignment nested?,
        value.members? keys =
          some [some name, some type, some offset, some size, some alignment, nested?] ∧
        name.text? = some record.name ∧ type.text? = some record.type ∧
        offset.word? = some record.offset ∧ size.word? = some record.size ∧
        alignment.word? = some record.alignment ∧
        Json.optional? (LayoutRecord.ofJson? room) nested? = some record.nested? := by
  cases record
  rw [FieldRecord.ofJson?]
  constructor
  · intro h
    obtain ⟨parts, hparts, h⟩ := Option.bind_eq_some_iff.1 h
    split at h
    · simp only [Option.bind_eq_bind, Option.pure_def, Option.bind_eq_some_iff,
        Option.some.injEq] at h
      obtain ⟨_, hn, _, ht, _, ho, _, hs, _, ha, _, hi, he⟩ := h
      cases he
      exact ⟨_, _, _, _, _, _, hparts, hn, ht, ho, hs, ha, hi⟩
    · cases h
  · rintro ⟨name, type, offset, size, alignment, nested?, hparts, hn, ht, ho, hs, ha, hi⟩
    rw [hparts]
    simp only [Option.bind_eq_bind, Option.bind_some, hn, ht, ho, hs, ha, hi]
    rfl

end FieldRecord

theorem DivergenceRecord.ofJson?_eq_some_iff {room : Nat} {value : Json}
    {record : DivergenceRecord} :
    DivergenceRecord.ofJson? (room + 1) value = some record ↔
      ∃ field? hostOffset deviceOffset hostSize deviceSize,
        value.members? DivergenceRecord.keys =
          some [field?, some hostOffset, some deviceOffset, some hostSize, some deviceSize] ∧
        Json.optional? Json.text? field? = some record.field? ∧
        hostOffset.word? = some record.hostOffset ∧ deviceOffset.word? = some record.deviceOffset ∧
        hostSize.word? = some record.hostSize ∧ deviceSize.word? = some record.deviceSize := by
  cases record
  rw [DivergenceRecord.ofJson?]
  constructor
  · intro h
    obtain ⟨parts, hparts, h⟩ := Option.bind_eq_some_iff.1 h
    split at h
    · simp only [Option.bind_eq_bind, Option.pure_def, Option.bind_eq_some_iff,
        Option.some.injEq] at h
      obtain ⟨_, hf, _, hho, _, hdo, _, hhs, _, hds, he⟩ := h
      cases he
      exact ⟨_, _, _, _, _, hparts, hf, hho, hdo, hhs, hds⟩
    · cases h
  · rintro ⟨field?, hostOffset, deviceOffset, hostSize, deviceSize, hparts, hf, hho, hdo, hhs, hds⟩
    rw [hparts]
    simp only [Option.bind_eq_bind, Option.bind_some, hf, hho, hdo, hhs, hds]
    rfl

theorem ComparisonRecord.ofJson?_eq_some_iff {room : Nat} {value : Json}
    {record : ComparisonRecord} :
    ComparisonRecord.ofJson? (room + 1) value = some record ↔
      ∃ name equivalent host device divergences,
        value.members? ComparisonRecord.keys =
          some [some name, some equivalent, some host, some device, some divergences] ∧
        name.text? = some record.name ∧ equivalent.bool? = some record.equivalent ∧
        LayoutRecord.ofJson? room host = some record.host ∧
        LayoutRecord.ofJson? room device = some record.device ∧
        divergences.list? DivergenceRecord.ofJson? room = some record.divergences := by
  cases record
  rw [ComparisonRecord.ofJson?]
  constructor
  · intro h
    obtain ⟨parts, hparts, h⟩ := Option.bind_eq_some_iff.1 h
    split at h
    · simp only [Option.bind_eq_bind, Option.pure_def, Option.bind_eq_some_iff,
        Option.some.injEq] at h
      obtain ⟨_, hn, _, he, _, hh, _, hd, _, hs, heq⟩ := h
      cases heq
      exact ⟨_, _, _, _, _, hparts, hn, he, hh, hd, hs⟩
    · cases h
  · rintro ⟨name, equivalent, host, device, divergences, hparts, hn, he, hh, hd, hs⟩
    rw [hparts]
    simp only [Option.bind_eq_bind, Option.bind_some, hn, he, hh, hd, hs]
    rfl

/-! ## Induction over nested records -/

mutual

/-- What holds of a layout record whenever it holds of the records nested in its fields, holds of
every layout record. -/
theorem LayoutRecord.nestedInduction {motive : LayoutRecord → Prop}
    (step : ∀ record : LayoutRecord,
      (∀ field ∈ record.fields, ∀ inner ∈ field.nested?, motive inner) → motive record) :
    ∀ record, motive record
  | ⟨name, policy, fields, dataSize, size, alignment⟩ =>
    step ⟨name, policy, fields, dataSize, size, alignment⟩ (FieldRecord.nestedInduction step fields)

/-- `LayoutRecord.nestedInduction` for the records nested in some fields. -/
theorem FieldRecord.nestedInduction {motive : LayoutRecord → Prop}
    (step : ∀ record : LayoutRecord,
      (∀ field ∈ record.fields, ∀ inner ∈ field.nested?, motive inner) → motive record) :
    ∀ fields : List FieldRecord, ∀ field ∈ fields, ∀ inner ∈ field.nested?, motive inner
  | [] => List.forall_mem_nil _
  | ⟨_, _, _, _, _, nested?⟩ :: rest => List.forall_mem_cons.2
    ⟨LayoutRecord.nestedInduction? step nested?, FieldRecord.nestedInduction step rest⟩

/-- `LayoutRecord.nestedInduction` for the record nested in a field, if there is one. -/
theorem LayoutRecord.nestedInduction? {motive : LayoutRecord → Prop}
    (step : ∀ record : LayoutRecord,
      (∀ field ∈ record.fields, ∀ inner ∈ field.nested?, motive inner) → motive record) :
    ∀ nested? : Option LayoutRecord, ∀ inner ∈ nested?, motive inner
  | none, _, h => nomatch h
  | some layout, _, h => Option.some.inj h ▸ LayoutRecord.nestedInduction step layout

end

theorem FieldRecord.listToJson_eq (fields : List FieldRecord) :
    FieldRecord.listToJson fields = fields.map FieldRecord.toJson := by
  induction fields with
  | nil => rfl
  | cons field rest ih => rw [FieldRecord.listToJson, ih]; rfl

/-! ## Nesting of records -/

/-- The value of a layout record has its list of fields inside. -/
theorem LayoutRecord.depth_toJson_le_iff {record : LayoutRecord} {room : Nat} :
    record.toJson.depth ≤ room + 2 ↔ ∀ field ∈ record.fields, field.toJson.depth ≤ room := by
  cases record
  rw [LayoutRecord.toJson, Json.depth_ofMembers_le_iff, FieldRecord.listToJson_eq]
  simp [Json.depth_array_le_iff]

theorem LayoutRecord.two_le_depth_toJson (record : LayoutRecord) : 2 ≤ record.toJson.depth := by
  cases record
  simp [LayoutRecord.toJson, Json.ofMembers, Json.depth, Json.membersDepth, Json.memberDepth]

theorem FieldRecord.one_le_depth_toJson (record : FieldRecord) : 1 ≤ record.toJson.depth := by
  cases record
  exact Nat.le_add_left ..

/-- The value of a field has that of the record nested in it inside, if there is one. -/
theorem FieldRecord.depth_toJson_le_iff {record : FieldRecord} {room : Nat} :
    record.toJson.depth ≤ room + 1 ↔ ∀ inner ∈ record.nested?, inner.toJson.depth ≤ room := by
  obtain ⟨name, type, offset, size, alignment, nested?⟩ := record
  rw [FieldRecord.toJson, Json.depth_ofMembers_le_iff]
  cases nested? <;> simp [LayoutRecord.nestedMember]

theorem DivergenceRecord.depth_toJson (record : DivergenceRecord) : record.toJson.depth = 1 := by
  obtain ⟨field?, hostOffset, deviceOffset, hostSize, deviceSize⟩ := record
  cases field? <;> rfl

theorem ComparisonRecord.three_le_depth_toJson (record : ComparisonRecord) :
    3 ≤ record.toJson.depth := by
  have htwo := record.host.two_le_depth_toJson
  simp [ComparisonRecord.toJson, Json.ofMembers, Json.depth, Json.membersDepth, Json.memberDepth]
  omega

/-- The value of a comparison has those of both layouts and of the divergences inside. -/
theorem ComparisonRecord.depth_toJson_le_iff {record : ComparisonRecord} {room : Nat} :
    record.toJson.depth ≤ room + 3 ↔
      record.host.toJson.depth ≤ room + 2 ∧ record.device.toJson.depth ≤ room + 2 := by
  rw [ComparisonRecord.toJson, Json.depth_ofMembers_le_iff]
  simp [Json.depth_array_le_iff, DivergenceRecord.depth_toJson]

/-! ## Reading back -/

section
variable {arrange : Json → Json} (h : Json.Arranges arrange)
include h

theorem Json.Arranges.text? (text : String) : (arrange (.ofText text)).text? = some text := by
  rw [h.atom]
  rfl

theorem Json.Arranges.bool? (value : Bool) : (arrange (.ofBool value)).bool? = some value := by
  rw [h.atom]
  rfl

theorem Json.Arranges.word? (word : UInt64) : (arrange (.ofWord word)).word? = some word := by
  rw [h.atom, Json.word?, if_pos word.toNat_lt]
  simp

theorem Json.Arranges.ne_null (members : List (String × Json)) :
    arrange (.ofMembers members) ≠ .null := by
  obtain ⟨arranged, he, -⟩ := h.object (members.map fun member => (some member.1, member.2))
  rw [Json.ofMembers, he]
  intro hnull
  cases hnull

theorem LayoutRecord.arrange_ne_null (record : LayoutRecord) : arrange record.toJson ≠ .null := by
  cases record
  exact h.ne_null _

/-- The record of a field is read back if the record nested in it is. -/
theorem FieldRecord.ofJson?_arrange {record : FieldRecord} {room : Nat}
    (hn : ∀ inner ∈ record.nested?, ∀ {room}, inner.toJson.depth ≤ room →
      LayoutRecord.ofJson? room (arrange inner.toJson) = some inner)
    (hr : record.toJson.depth ≤ room) :
    FieldRecord.ofJson? room (arrange record.toJson) = some record := by
  have hone := record.one_le_depth_toJson
  obtain ⟨room, rfl⟩ : ∃ inner, room = inner + 1 := ⟨room - 1, by omega⟩
  have hinner := FieldRecord.depth_toJson_le_iff.1 hr
  obtain ⟨name, type, offset, size, alignment, nested?⟩ := record
  have hmembers :
      (arrange (FieldRecord.toJson ⟨name, type, offset, size, alignment, nested?⟩)).members?
        FieldRecord.keys =
      some [some (arrange (.ofText name)), some (arrange (.ofText type)),
        some (arrange (.ofWord offset)), some (arrange (.ofWord size)),
        some (arrange (.ofWord alignment)),
        nested?.map fun inner => arrange inner.toJson] := by
    cases nested? <;> exact h.members?_eq (by simp [LayoutRecord.nestedMember]) _
  refine FieldRecord.ofJson?_eq_some_iff.2 ⟨_, _, _, _, _, _, hmembers, h.text? name, h.text? type,
    h.word? offset, h.word? size, h.word? alignment, ?_⟩
  cases nested? with
  | none => rfl
  | some inner =>
    exact Json.optional?_some (hn inner rfl (hinner inner rfl))
      (LayoutRecord.arrange_ne_null h inner)

/-- A layout record is read back where there is room for its value. -/
theorem LayoutRecord.ofJson?_arrange {record : LayoutRecord} {room : Nat}
    (hr : record.toJson.depth ≤ room) :
    LayoutRecord.ofJson? room (arrange record.toJson) = some record := by
  induction record using LayoutRecord.nestedInduction generalizing room with
  | step record ih =>
    have htwo := record.two_le_depth_toJson
    obtain ⟨room, rfl⟩ : ∃ inner, room = inner + 2 := ⟨room - 2, by omega⟩
    have hfields := LayoutRecord.depth_toJson_le_iff.1 hr
    have hread : ∀ field ∈ record.fields,
        FieldRecord.ofJson? room (arrange field.toJson) = some field :=
      fun field hf => FieldRecord.ofJson?_arrange h (ih field hf) (hfields field hf)
    obtain ⟨name, policy, fields, dataSize, size, alignment⟩ := record
    have hmembers : (arrange
        (LayoutRecord.toJson ⟨name, policy, fields, dataSize, size, alignment⟩)).members?
        LayoutRecord.keys =
        some [some (arrange (.ofText name)), some (arrange (.ofText policy)),
          some (arrange (.array (FieldRecord.listToJson fields))),
          some (arrange (.ofWord dataSize)), some (arrange (.ofWord size)),
          some (arrange (.ofWord alignment))] :=
      h.members?_eq (by simp) _
    have hlist : FieldRecord.listOfJson? (room + 1)
        (arrange (.array (FieldRecord.listToJson fields))) = some fields := by
      rw [h.array, FieldRecord.listToJson_eq, List.map_map, FieldRecord.listOfJson?_eq_some_iff]
      refine ⟨_, rfl, ?_⟩
      rw [List.forall₂_map_left_iff, List.forall₂_same]
      exact hread
    exact LayoutRecord.ofJson?_eq_some_iff.2 ⟨_, _, _, _, _, _, hmembers, h.text? name,
      h.text? policy, hlist, h.word? dataSize, h.word? size, h.word? alignment⟩

/-- A divergence is read back wherever a container may be entered. -/
theorem DivergenceRecord.ofJson?_arrange (record : DivergenceRecord) (room : Nat) :
    DivergenceRecord.ofJson? (room + 1) (arrange record.toJson) = some record := by
  obtain ⟨field?, hostOffset, deviceOffset, hostSize, deviceSize⟩ := record
  have hmembers : (arrange (DivergenceRecord.toJson
      ⟨field?, hostOffset, deviceOffset, hostSize, deviceSize⟩)).members? DivergenceRecord.keys =
      some [field?.map fun field => arrange (.ofText field), some (arrange (.ofWord hostOffset)),
        some (arrange (.ofWord deviceOffset)), some (arrange (.ofWord hostSize)),
        some (arrange (.ofWord deviceSize))] := by
    cases field? <;> exact h.members?_eq (by simp) _
  refine DivergenceRecord.ofJson?_eq_some_iff.2 ⟨_, _, _, _, _, hmembers, ?_, h.word? hostOffset,
    h.word? deviceOffset, h.word? hostSize, h.word? deviceSize⟩
  cases field? with
  | none => rfl
  | some field =>
    have hne : arrange (.ofText field) ≠ .null := h.atom _ ▸ nofun
    exact Json.optional?_some (h.text? field) hne

/-- The record of a comparison is read back where there is room for its value. -/
theorem ComparisonRecord.ofJson?_arrange {record : ComparisonRecord} {room : Nat}
    (hr : record.toJson.depth ≤ room) :
    ComparisonRecord.ofJson? room (arrange record.toJson) = some record := by
  have hthree := record.three_le_depth_toJson
  obtain ⟨room, rfl⟩ : ∃ inner, room = inner + 3 := ⟨room - 3, by omega⟩
  obtain ⟨hhost, hdevice⟩ := ComparisonRecord.depth_toJson_le_iff.1 hr
  have hmembers : (arrange record.toJson).members? ComparisonRecord.keys =
      some [some (arrange (.ofText record.name)), some (arrange (.ofBool record.equivalent)),
        some (arrange record.host.toJson), some (arrange record.device.toJson),
        some (arrange (.array (record.divergences.map (·.toJson))))] :=
    h.members?_eq (by simp) _
  have hlist : (arrange (.array (record.divergences.map (·.toJson)))).list?
      DivergenceRecord.ofJson? (room + 2) = some record.divergences := by
    rw [h.array, List.map_map, Json.list?_eq_some_iff]
    refine ⟨_, rfl, ?_⟩
    rw [List.forall₂_map_left_iff, List.forall₂_same]
    exact fun divergence _ => DivergenceRecord.ofJson?_arrange h divergence room
  exact ComparisonRecord.ofJson?_eq_some_iff.2 ⟨_, _, _, _, _, hmembers, h.text? record.name,
    h.bool? record.equivalent, LayoutRecord.ofJson?_arrange h hhost,
    LayoutRecord.ofJson?_arrange h hdevice, hlist⟩

end

/-! ## What was read fits -/

theorem FieldRecord.depth_le_of_ofJson? {record : FieldRecord}
    (hn : ∀ inner ∈ record.nested?, ∀ {room value},
      LayoutRecord.ofJson? room value = some inner → inner.toJson.depth ≤ room)
    {room : Nat} {value : Json} (h : FieldRecord.ofJson? room value = some record) :
    record.toJson.depth ≤ room := by
  cases room with
  | zero => simp [FieldRecord.ofJson?] at h
  | succ room =>
    obtain ⟨_, _, _, _, _, nested?, -, -, -, -, -, -, hnested⟩ :=
      FieldRecord.ofJson?_eq_some_iff.1 h
    rw [FieldRecord.depth_toJson_le_iff]
    intro inner hi
    rw [hi] at hnested
    obtain ⟨_, -, hread⟩ := Json.of_optional?_eq_some hnested
    exact hn inner hi hread

/-- A layout record that was read has a value that fits in the room it was read in. -/
theorem LayoutRecord.depth_le_of_ofJson? {record : LayoutRecord} {room : Nat} {value : Json}
    (h : LayoutRecord.ofJson? room value = some record) : record.toJson.depth ≤ room := by
  induction record using LayoutRecord.nestedInduction generalizing room value with
  | step record ih =>
    match room with
    | 0 => simp [LayoutRecord.ofJson?] at h
    | 1 =>
      obtain ⟨_, _, fields, _, _, _, -, -, -, hfields, -⟩ := LayoutRecord.ofJson?_eq_some_iff.1 h
      simp [FieldRecord.listOfJson?] at hfields
    | room + 2 =>
      obtain ⟨_, _, fields, _, _, _, -, -, -, hfields, -⟩ := LayoutRecord.ofJson?_eq_some_iff.1 h
      obtain ⟨items, -, hitems⟩ := FieldRecord.listOfJson?_eq_some_iff.1 hfields
      rw [LayoutRecord.depth_toJson_le_iff]
      intro field hf
      obtain ⟨_, -, hread⟩ := exists_of_forall₂ hitems hf
      exact FieldRecord.depth_le_of_ofJson? (ih field hf) hread

theorem ComparisonRecord.depth_le_of_ofJson? {record : ComparisonRecord} {room : Nat}
    {value : Json} (h : ComparisonRecord.ofJson? room value = some record) :
    record.toJson.depth ≤ room := by
  cases room with
  | zero => simp [ComparisonRecord.ofJson?] at h
  | succ room =>
    obtain ⟨_, _, _, _, _, -, -, -, hhost, hdevice, -⟩ := ComparisonRecord.ofJson?_eq_some_iff.1 h
    have hhost := LayoutRecord.depth_le_of_ofJson? hhost
    have hdevice := LayoutRecord.depth_le_of_ofJson? hdevice
    have htwo := record.host.two_le_depth_toJson
    obtain ⟨room, rfl⟩ : ∃ inner, room = inner + 2 := ⟨room - 2, by omega⟩
    exact ComparisonRecord.depth_toJson_le_iff.2 ⟨hhost, hdevice⟩

/-! ## Computed layouts -/

mutual

/-- How deep structs are nested in a type. -/
def FieldType.levels : FieldType → Nat
  | .primitive _ => 0
  | .struct schema => schema.levels
  | .array element _ => element.levels

/-- How deep structs are nested in a struct, which itself is one level. -/
def Schema.levels : Schema → Nat
  | ⟨_, fields⟩ => Field.levelsOfAll fields + 1

/-- How deep structs are nested in some fields. -/
def Field.levelsOfAll : List Field → Nat
  | [] => 0
  | field :: rest => max field.levels (Field.levelsOfAll rest)

/-- How deep structs are nested in a field. -/
def Field.levels : Field → Nat
  | ⟨_, type, _⟩ => type.levels

end

theorem FieldType.levels_of_nested {inner : Schema} (type : FieldType)
    (h : type.nested? = some inner) : type.levels = inner.levels := by
  match type with
  | .primitive _ => cases h
  | .struct _ => exact Option.some.inj h ▸ rfl
  | .array element _ => exact element.levels_of_nested h

/-- A struct is a level above each struct that its fields hold. -/
theorem Schema.levels_lt_of_nested {schema inner : Schema} (h : inner ∈ schema.nested) :
    inner.levels < schema.levels := by
  have hfields : ∀ fields : List Field, ∀ field ∈ fields,
      field.levels ≤ Field.levelsOfAll fields := by
    intro fields
    induction fields with
    | nil => exact List.forall_mem_nil _
    | cons field rest ih =>
      rw [List.forall_mem_cons, Field.levelsOfAll]
      exact ⟨Nat.le_max_left .., fun other ho => Nat.le_trans (ih other ho) (Nat.le_max_right ..)⟩
  obtain ⟨name, fields⟩ := schema
  obtain ⟨⟨_, type, _⟩, hf, hi⟩ := List.mem_filterMap.1 h
  have hle := hfields fields _ hf
  rw [Field.levels, type.levels_of_nested hi] at hle
  exact Nat.lt_succ_of_le hle

theorem FieldRecord.ofFields_eq (fields : List FieldLayout) :
    FieldRecord.ofFields fields = fields.map FieldRecord.ofField := by
  induction fields with
  | nil => rfl
  | cons field rest ih => rw [FieldRecord.ofFields, ih]; rfl

theorem LayoutRecord.ofNested_eq (nested? : Option Layout) :
    LayoutRecord.ofNested nested? = nested?.map LayoutRecord.ofLayout := by
  cases nested? <;> rfl

/-- Each level of structs takes three containers: the struct, its list of fields and a field. -/
theorem Schema.depth_toJson_layout (arith : Arithmetic) (policy : Policy) (schema : Schema) :
    (LayoutRecord.ofLayout (schema.layout arith policy)).toJson.depth ≤ 3 * schema.levels := by
  induction schema using Schema.nestedInduction with
  | step schema ih =>
    obtain ⟨levels, hlevels⟩ : ∃ levels, schema.levels = levels + 1 := by
      cases schema
      exact ⟨_, rfl⟩
    have hroom : 3 * schema.levels = 3 * levels + 1 + 2 := by omega
    have hinner : ∀ inner ∈ (schema.layout arith policy).nested,
        (LayoutRecord.ofLayout inner).toJson.depth ≤ 3 * levels := by
      intro inner hi
      rw [Schema.nested_layout] at hi
      obtain ⟨struct, hs, rfl⟩ := List.mem_map.1 hi
      have hlt := Schema.levels_lt_of_nested hs
      exact Nat.le_trans (ih struct hs) (by omega)
    rw [hroom, LayoutRecord.depth_toJson_le_iff]
    generalize schema.layout arith policy = layout at hinner
    obtain ⟨name, policy, fields, dataSize, size, alignment⟩ := layout
    intro record hr
    rw [LayoutRecord.ofLayout, FieldRecord.ofFields_eq] at hr
    obtain ⟨field, hf, rfl⟩ := List.mem_map.1 hr
    rw [FieldRecord.depth_toJson_le_iff]
    intro inner hi
    obtain ⟨fieldName, type, offset, fieldSize, fieldAlignment, nested?⟩ := field
    rw [FieldRecord.ofField, LayoutRecord.ofNested_eq] at hi
    obtain ⟨nested, rfl, rfl⟩ := Option.map_eq_some_iff.1 hi
    exact hinner nested (List.mem_filterMap.2 ⟨_, hf, rfl⟩)

/-- The same bound holds for a comparison, which adds one container around both layouts. -/
theorem Comparator.depth_toJson_compare (arith : Arithmetic) (host device : Policy)
    (nested : Bool) (calls : List Comparator.Call) (schema : Schema) :
    (ComparisonRecord.ofComparison
      (((Comparator.fresh arith host device nested).run calls).compare schema).1).toJson.depth ≤
        3 * schema.levels + 1 := by
  have hhost := schema.depth_toJson_layout arith host
  have hdevice := schema.depth_toJson_layout arith device
  have htwo := (LayoutRecord.ofLayout (schema.layout arith host)).two_le_depth_toJson
  obtain ⟨room, hroom⟩ : ∃ room, 3 * schema.levels = room + 2 := ⟨3 * schema.levels - 2, by omega⟩
  rw [Comparator.compare_run, Comparator.compare_fresh, hroom, ComparisonRecord.depth_toJson_le_iff]
  exact ⟨by rwa [← hroom], by rwa [← hroom]⟩

/-! ## Texts of records -/

/-- A text read as a record and written again. -/
def Json.normalized? {α : Type} (decode : Nat → Json → Option α) (encode : α → Json)
    (text : String) : Option String :=
  (Json.readAs? decode text).map fun value => (encode value).compact

theorem Json.readAs?_compact {α : Type} (decode : Nat → Json → Option α) (value : Json) :
    Json.readAs? decode value.compact = decode Json.roomOfText value := by
  rw [Json.readAs?, Json.parse?_of_written value.written_compact, Option.bind_some]

theorem LayoutRecord.readAs?_compact_iff (record : LayoutRecord) :
    Json.readAs? LayoutRecord.ofJson? record.toJson.compact = some record ↔
      record.toJson.depth < 128 := by
  rw [Json.readAs?_compact]
  exact ⟨fun h => Nat.lt_succ_of_le (LayoutRecord.depth_le_of_ofJson? h),
    fun h => LayoutRecord.ofJson?_arrange Json.arranges_id (Nat.le_of_lt_succ h)⟩

theorem ComparisonRecord.readAs?_compact_iff (record : ComparisonRecord) :
    Json.readAs? ComparisonRecord.ofJson? record.toJson.compact = some record ↔
      record.toJson.depth < 128 := by
  rw [Json.readAs?_compact]
  exact ⟨fun h => Nat.lt_succ_of_le (ComparisonRecord.depth_le_of_ofJson? h),
    fun h => ComparisonRecord.ofJson?_arrange Json.arranges_id (Nat.le_of_lt_succ h)⟩

/-- Where what was read of a text is always read back, writing it again changes nothing. -/
theorem Json.normalized?_idempotent {α : Type} {decode : Nat → Json → Option α} {encode : α → Json}
    (h : ∀ text value, Json.readAs? decode text = some value →
      Json.readAs? decode (encode value).compact = some value)
    {text normal : String} (hn : Json.normalized? decode encode text = some normal) :
    Json.readAs? decode normal = Json.readAs? decode text ∧
      Json.normalized? decode encode normal = some normal := by
  obtain ⟨value, hr, rfl⟩ := Option.map_eq_some_iff.1 hn
  have hback := h text value hr
  exact ⟨by rw [hback, hr], by rw [Json.normalized?, hback, Option.map_some]⟩

/-- What is written of a layout or a comparison is read back, whatever its texts, numbers and lists,
exactly if the containers of its text are nested less than 128 deep. The record of a computed layout
and that of a comparison have such a text if the structs of the declaration are nested at most 42
deep. So reading a text and writing what was read gives a text that is read alike and that is
written again as it is. -/
theorem Json.records_read_back :
    (∀ record : LayoutRecord,
      Json.readAs? LayoutRecord.ofJson? record.toJson.compact = some record ↔
        record.toJson.depth < 128) ∧
    (∀ record : ComparisonRecord,
      Json.readAs? ComparisonRecord.ofJson? record.toJson.compact = some record ↔
        record.toJson.depth < 128) ∧
    (∀ (arith : Arithmetic) (schema : Schema) (policy : Policy), schema.levels ≤ 42 →
      let record := LayoutRecord.ofLayout (schema.layout arith policy)
      Json.readAs? LayoutRecord.ofJson? record.toJson.compact = some record) ∧
    (∀ (arith : Arithmetic) (host device : Policy) (nested : Bool) (calls : List Comparator.Call)
      (schema : Schema), schema.levels ≤ 42 →
      let comparison := (((Comparator.fresh arith host device nested).run calls).compare schema).1
      let record := ComparisonRecord.ofComparison comparison
      Json.readAs? ComparisonRecord.ofJson? record.toJson.compact = some record) ∧
    (∀ text normal : String,
      Json.normalized? LayoutRecord.ofJson? LayoutRecord.toJson text = some normal →
      Json.readAs? LayoutRecord.ofJson? normal = Json.readAs? LayoutRecord.ofJson? text ∧
      Json.normalized? LayoutRecord.ofJson? LayoutRecord.toJson normal = some normal) ∧
    ∀ text normal : String,
      Json.normalized? ComparisonRecord.ofJson? ComparisonRecord.toJson text = some normal →
      Json.readAs? ComparisonRecord.ofJson? normal = Json.readAs? ComparisonRecord.ofJson? text ∧
      Json.normalized? ComparisonRecord.ofJson? ComparisonRecord.toJson normal = some normal := by
  have hlayout (text : String) (record : LayoutRecord)
      (hr : Json.readAs? LayoutRecord.ofJson? text = some record) :
      Json.readAs? LayoutRecord.ofJson? record.toJson.compact = some record := by
    obtain ⟨value, -, hread⟩ := Option.bind_eq_some_iff.1 hr
    have hdepth := LayoutRecord.depth_le_of_ofJson? hread
    exact record.readAs?_compact_iff.2 (Nat.lt_succ_of_le hdepth)
  have hcomparison (text : String) (record : ComparisonRecord)
      (hr : Json.readAs? ComparisonRecord.ofJson? text = some record) :
      Json.readAs? ComparisonRecord.ofJson? record.toJson.compact = some record := by
    obtain ⟨value, -, hread⟩ := Option.bind_eq_some_iff.1 hr
    have hdepth := ComparisonRecord.depth_le_of_ofJson? hread
    exact record.readAs?_compact_iff.2 (Nat.lt_succ_of_le hdepth)
  refine ⟨LayoutRecord.readAs?_compact_iff, ComparisonRecord.readAs?_compact_iff, ?_, ?_,
    fun _ _ => Json.normalized?_idempotent hlayout,
    fun _ _ => Json.normalized?_idempotent hcomparison⟩
  · intro arith schema policy hl
    have hdepth := schema.depth_toJson_layout arith policy
    exact (LayoutRecord.readAs?_compact_iff _).2 (by omega)
  · intro arith host device nested calls schema hl
    have hdepth := Comparator.depth_toJson_compare arith host device nested calls schema
    exact (ComparisonRecord.readAs?_compact_iff _).2 (by omega)

/-- The texts of the layout of `lampGrid` and of a comparison of it are read back. Another text of
the layout, with sorted members on lines of their own, is written again as the first. -/
theorem Json.records_read_back_lampGrid :
    let layout := LayoutRecord.ofLayout (lampGrid.layout .word .natural)
    let comparison := ComparisonRecord.ofComparison
      ((Comparator.fresh .word .natural .deviceVector true).compare lampGrid).1
    lampGrid.levels ≤ 42 ∧
    Json.readAs? LayoutRecord.ofJson? layout.toJson.compact = some layout ∧
    Json.readAs? ComparisonRecord.ofJson? comparison.toJson.compact = some comparison ∧
    Json.normalized? LayoutRecord.ofJson? LayoutRecord.toJson layout.toJson.sorted.pretty =
      some layout.toJson.compact ∧
    Json.normalized? LayoutRecord.ofJson? LayoutRecord.toJson layout.toJson.compact =
      some layout.toJson.compact ∧
    Json.normalized? ComparisonRecord.ofJson? ComparisonRecord.toJson
      comparison.toJson.compact = some comparison.toJson.compact := by
  intro layout comparison
  obtain ⟨-, -, hlayout, hcomparison, hnormalLayout, hnormalComparison⟩ := Json.records_read_back
  have hlevels : lampGrid.levels ≤ 42 := by decide
  have hdepth : layout.toJson.depth ≤ 127 :=
    Nat.le_trans (lampGrid.depth_toJson_layout .word .natural) (by omega)
  have hl := hlayout .word lampGrid .natural hlevels
  have hc : Json.readAs? ComparisonRecord.ofJson? comparison.toJson.compact = some comparison :=
    hcomparison .word .natural .deviceVector true [] lampGrid hlevels
  have hsorted : Json.readAs? LayoutRecord.ofJson? layout.toJson.sorted.pretty = some layout := by
    rw [Json.readAs?, Json.parse?_of_written (Json.written_pretty _), Option.bind_some]
    exact LayoutRecord.ofJson?_arrange Json.arranges_sorted hdepth
  have hs : Json.normalized? LayoutRecord.ofJson? LayoutRecord.toJson
      layout.toJson.sorted.pretty = some layout.toJson.compact := by
    rw [Json.normalized?, hsorted, Option.map_some]
  have hn : Json.normalized? ComparisonRecord.ofJson? ComparisonRecord.toJson
      comparison.toJson.compact = some comparison.toJson.compact := by
    rw [Json.normalized?, hc, Option.map_some]
  exact ⟨hlevels, hl, hc, hs, (hnormalLayout _ _ hs).2, (hnormalComparison _ _ hn).2⟩

end LayoutParity
