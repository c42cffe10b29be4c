import LayoutParity.Proofs.Comparator
import LayoutParity.Proofs.PaintedTexts

/-!
# Paths tell fields apart

The text of a path is the names on it, some with an index in brackets, with a point between each
two. Names can be any texts, so a text need not tell which path it is of. It does where no name has
a point or an opening bracket (`Path.text_injective`): the first point ends the first step, and the
first bracket in a step ends its name.

Which paths there are depends on the declaration alone, and where names are told apart at every
depth no two positions of the flat layout have one path (`Schema.DistinctNames.nodup_paths`). Then
no two have one text.
-/

namespace LayoutParity

/-! ## Names that can be read off a path -/

/-- The name has no character that ends a name on a path. -/
def Text.Separable (name : String) : Prop :=
  '.' ∉ name.toList ∧ '[' ∉ name.toList

instance (name : String) : Decidable (Text.Separable name) :=
  inferInstanceAs (Decidable ('.' ∉ name.toList ∧ '[' ∉ name.toList))

/-- The names on a path can be read off its text. -/
structure Path.Separable (path : Path) : Prop where
  outer : ∀ step ∈ path.outer, Text.Separable step.field
  field : Text.Separable path.field

/-- The names of fields in a declaration can be read off paths, at every depth. -/
def Schema.SeparableNames (schema : Schema) : Prop :=
  ∀ struct ∈ schema.structs, ∀ field ∈ struct.fields, Text.Separable field.name

instance (schema : Schema) : Decidable schema.SeparableNames :=
  inferInstanceAs (Decidable (∀ struct ∈ schema.structs, ∀ field ∈ struct.fields,
    Text.Separable field.name))

/-! ## A text is of one path -/

/-- Two texts that end at a character of neither are the same, and so is what follows them. -/
theorem append_cons_inj_of_notMem_notMem {α : Type} {mark : α} {front other rest behind : List α}
    (h : mark ∉ front) (h' : mark ∉ other) (he : front ++ mark :: rest = other ++ mark :: behind) :
    front = other ∧ rest = behind := by
  rcases List.append_eq_append_iff.1 he with ⟨between, rfl, hb⟩ | ⟨between, rfl, hb⟩
  · cases between with
    | nil => simpa using hb
    | cons first _ =>
      obtain ⟨rfl, -⟩ := List.cons.inj hb
      simp at h'
  · cases between with
    | nil => simpa using hb.symm
    | cons first _ =>
      obtain ⟨rfl, -⟩ := List.cons.inj hb
      simp at h

/-- The value of a number can be read off its digits. -/
theorem Text.eq_of_toString_eq {m n : Nat} (h : toString m = toString n) : m = n := by
  have hdigits : Nat.toDigits 10 m = Nat.toDigits 10 n := by
    rwa [Nat.toString_eq_ofList_toDigits, Nat.toString_eq_ofList_toDigits, String.ofList_inj] at h
  have hvalue := congrArg (Nat.ofDigitChars 10 · 0) hdigits
  simpa [Nat.ofDigitChars_toDigits] using hvalue

theorem Step.toList_text_field (name : String) : (Step.text ⟨name, none⟩).toList = name.toList :=
  rfl

theorem Step.toList_text_element (name : String) (index : Nat) :
    (Step.text ⟨name, some index⟩).toList =
      name.toList ++ '[' :: ((toString index).toList ++ [']']) := by
  show (name ++ "[" ++ toString index ++ "]").toList = _
  simp only [String.toList_append, List.append_assoc]
  rfl

/-- There is no point in a step but those in its name. -/
theorem Step.point_notMem_text {step : Step} (h : '.' ∉ step.field.toList) :
    '.' ∉ step.text.toList := by
  obtain ⟨name, index?⟩ := step
  cases index? with
  | none => exact h
  | some index =>
    have hdigits : '.' ∉ (toString index).toList := fun hp =>
      absurd (Text.isDigit_of_mem_toString hp) (by decide)
    rw [Step.toList_text_element]
    simp_all

/-- The name and the index of a step can be read off its text. -/
theorem Step.text_injective {step other : Step} (h : '[' ∉ step.field.toList)
    (h' : '[' ∉ other.field.toList) (he : step.text = other.text) : step = other := by
  obtain ⟨name, index?⟩ := step
  obtain ⟨name', index'?⟩ := other
  rw [← String.toList_inj] at he
  cases index? with
  | none =>
    cases index'? with
    | none =>
      obtain rfl : name = name' := String.toList_inj.1 he
      rfl
    | some index' =>
      rw [Step.toList_text_field, Step.toList_text_element] at he
      simp [he] at h
  | some index =>
    cases index'? with
    | none =>
      rw [Step.toList_text_element, Step.toList_text_field] at he
      simp [← he] at h'
    | some index' =>
      rw [Step.toList_text_element, Step.toList_text_element] at he
      obtain ⟨hname, hindex⟩ := append_cons_inj_of_notMem_notMem h h' he
      rw [List.append_cancel_right_eq, String.toList_inj] at hindex
      obtain rfl : name = name' := String.toList_inj.1 hname
      obtain rfl : index = index' := Text.eq_of_toString_eq hindex
      rfl

theorem Path.toList_text_field (name : String) : (Path.text ⟨[], name⟩).toList = name.toList := by
  simp [Path.text]

theorem Path.toList_text_step (step : Step) (outer : List Step) (name : String) :
    (Path.text ⟨step :: outer, name⟩).toList =
      step.text.toList ++ '.' :: (Path.text ⟨outer, name⟩).toList := by
  simp [Path.text]

/-- There is a point in the text of a path if and only if a step precedes the field, or its name has
one. -/
theorem Path.point_mem_text_iff (path : Path) :
    '.' ∈ path.text.toList ↔ path.outer ≠ [] ∨ '.' ∈ path.field.toList := by
  obtain ⟨outer, name⟩ := path
  cases outer with
  | nil => simp [Path.toList_text_field]
  | cons step outer => simp [Path.toList_text_step]

/-- The steps and the name of the field can be read off the text of a path. -/
theorem Path.text_injective {path other : Path} (h : path.Separable) (h' : other.Separable)
    (he : path.text = other.text) : path = other := by
  obtain ⟨outer, name⟩ := path
  obtain ⟨outer', name'⟩ := other
  rw [← String.toList_inj] at he
  induction outer generalizing outer' with
  | nil =>
    cases outer' with
    | nil =>
      rw [Path.toList_text_field, Path.toList_text_field, String.toList_inj] at he
      rw [he]
    | cons step' _ =>
      rw [Path.toList_text_field, Path.toList_text_step] at he
      exact absurd (by simp [he]) h.field.1
  | cons step outer ih =>
    cases outer' with
    | nil =>
      rw [Path.toList_text_field, Path.toList_text_step] at he
      exact absurd (by simp [← he]) h'.field.1
    | cons step' outer' =>
      obtain ⟨hstep, houter⟩ := List.forall_mem_cons.1 h.outer
      obtain ⟨hstep', houter'⟩ := List.forall_mem_cons.1 h'.outer
      rw [Path.toList_text_step, Path.toList_text_step] at he
      obtain ⟨hfirst, hrest⟩ := append_cons_inj_of_notMem_notMem
        (Step.point_notMem_text hstep.1) (Step.point_notMem_text hstep'.1) he
      obtain rfl := Step.text_injective hstep.2 hstep'.2 (String.toList_inj.1 hfirst)
      obtain ⟨rfl, rfl⟩ := Path.mk.inj (ih ⟨houter, h.field⟩ outer' ⟨houter', h'.field⟩ hrest)
      rfl

/-! ## The names on the paths of a declaration -/

theorem Schema.SeparableNames.of_nested {schema inner : Schema} (h : schema.SeparableNames)
    (hi : inner ∈ schema.nested) : inner.SeparableNames :=
  fun struct hs => h struct (Schema.mem_structs_of_nested hi hs)

theorem Schema.SeparableNames.path {schema : Schema} (h : schema.SeparableNames)
    (arith : Arithmetic) (policy : Policy) {site : Site}
    (hs : site ∈ (schema.layout arith policy).flat arith) :
    site.path.Separable := by
  induction schema using Schema.nestedInduction generalizing site with
  | step schema ih =>
    rw [Layout.flat_eq] at hs
    obtain ⟨placed, hm, hs⟩ := List.mem_flatMap.1 hs
    obtain ⟨field, hf, hp⟩ := schema.exists_of_mem_layout arith policy hm
    have hname : Text.Separable placed.name := hp.name ▸ h schema schema.self_mem_structs field hf
    rw [FieldLayout.flat_eq, hp.nested] at hs
    rcases List.mem_cons.1 hs with rfl | hs
    · exact ⟨List.forall_mem_nil _, hname⟩
    · cases hi : field.fullType.nested? with
      | none =>
        rw [hi] at hs
        cases hs
      | some inner =>
        rw [hi, Option.map_some] at hs
        obtain ⟨index, -, hs⟩ := List.mem_flatMap.1 hs
        obtain ⟨inside, hin, rfl⟩ := List.mem_map.1 hs
        have hi := Field.mem_nested hf hi
        have hinner := ih inner hi (h.of_nested hi) hin
        exact ⟨List.forall_mem_cons.2 ⟨hname, hinner.outer⟩, hinner.field⟩

/-! ## The paths of divergences -/

/-- The text of the path of the field that a divergence is about. -/
def Subject.text? : Subject → Option String
  | .field path => some path.text
  | .whole => none

/-- Differences are about some of the positions, in order. -/
theorem Site.subjects_differences_sublist (struct : String) {hosts devices : List Site}
    (h : hosts.length ≤ devices.length) :
    ((Site.differences struct hosts devices).map (·.subject)).Sublist
      (hosts.map fun site => .field site.path) := by
  have hzip : hosts.map (fun site => Subject.field site.path) =
      (hosts.zip devices).map fun pair => .field pair.1.path := by
    conv_lhs => rw [← List.map_fst_zip h]
    rw [List.map_map]
    rfl
  rw [Site.differences, List.map_map, hzip]
  exact List.filter_sublist.map _

/-- The paths of the divergences are some of those in the flat layout, in order. -/
theorem Schema.DistinctNames.texts_divergences_sublist {schema : Schema}
    (hd : schema.DistinctNames) (arith : Arithmetic) (host device : Policy) (nested : Bool) :
    (((Comparator.fresh arith host device nested).compare schema).1.divergences.filterMap
        (·.fieldText?)).Sublist (((schema.layout arith host).flat arith).map (·.path.text)) := by
  have hlength := Nat.le_of_eq (schema.length_flat arith host device)
  have hwhole : (Layout.sizeDivergence? schema.name (schema.layout arith host)
      (schema.layout arith device)).toList.filterMap (·.fieldText?) = [] := by
    rw [Layout.toList_sizeDivergence?]
    split <;> rfl
  have htexts : ((schema.layout arith host).flat arith).map (·.path.text) =
      (((schema.layout arith host).flat arith).map fun site => Subject.field site.path).filterMap
        Subject.text? := by
    rw [List.filterMap_map, ← List.filterMap_eq_map]
    rfl
  have hsubjects (divergences : List Divergence) : divergences.filterMap (·.fieldText?) =
      (divergences.map (·.subject)).filterMap Subject.text? := by
    rw [List.filterMap_map]
    rfl
  rw [hd.divergences_compare, List.filterMap_append, hwhole, List.append_nil, htexts, hsubjects]
  refine List.Sublist.filterMap _ (List.Sublist.trans ?_
    (Site.subjects_differences_sublist schema.name hlength))
  exact List.filter_sublist.map _

/-- Where names are told apart in each struct and have neither a point nor an opening bracket, paths
identify fields. The positions that a comparison goes through when it enters nested structs are
those of the flat layout, and they have the same paths under all policies. No two of them have one
path as text, so neither have two divergences, whose paths are some of these. The text of a path
determines each name and index on it, and has a point if and only if it leads into a nested
struct. -/
theorem Comparator.paths_identify_fields {schema : Schema} (hd : schema.DistinctNames)
    (hs : schema.SeparableNames) (arith : Arithmetic) (host device : Policy) :
    let comparison := ((Comparator.fresh arith host device true).compare schema).1
    let paths := ((schema.layout arith host).flat arith).map (·.path)
    paths = ((schema.layout arith device).flat arith).map (·.path) ∧
    (paths.map (·.text)).Nodup ∧
    (comparison.divergences.filterMap (·.fieldText?)).Sublist (paths.map (·.text)) ∧
    (comparison.divergences.filterMap (·.fieldText?)).Nodup ∧
    (∀ path ∈ paths, ∀ other : Path, other.Separable → other.text = path.text → other = path) ∧
    ∀ path ∈ paths, '.' ∈ path.text.toList ↔ path.outer ≠ [] := by
  intro comparison paths
  have hseparable : ∀ path ∈ paths, path.Separable :=
    List.forall_mem_map.2 fun site hm => hs.path arith host hm
  have htexts : (paths.map (·.text)).Nodup :=
    (hd.nodup_paths arith host).map_on fun path hp other ho he =>
      Path.text_injective (hseparable path hp) (hseparable other ho) he
  have hsublist : (comparison.divergences.filterMap (·.fieldText?)).Sublist
      (paths.map (·.text)) := by
    rw [List.map_map]
    exact hd.texts_divergences_sublist arith host device true
  refine ⟨schema.paths_flat arith host device, htexts, hsublist, htexts.sublist hsublist, ?_, ?_⟩
  · intro path hp other ho he
    exact Path.text_injective ho (hseparable path hp) he
  · intro path hp
    rw [Path.point_mem_text_iff, or_iff_left (hseparable path hp).field.1]

theorem Comparator.paths_identify_fields_lampGrid :
    lampGrid.DistinctNames ∧ lampGrid.SeparableNames ∧
    let comparison := ((Comparator.fresh .word .natural .deviceVector true).compare lampGrid).1
    (comparison.divergences.filterMap (·.fieldText?)).Nodup ∧
    comparison.divergences.filterMap (·.fieldText?) =
      ["lamps", "lamps[0].light", "lamps[0].light.color", "lamps[0].light.intensity",
        "lamps[1].scale", "lamps[1].light", "lamps[1].light.color", "lamps[1].light.intensity",
        "spares"] := by
  have hd : lampGrid.DistinctNames := by decide
  have hs : lampGrid.SeparableNames := by decide
  exact ⟨hd, hs, (Comparator.paths_identify_fields hd hs .word .natural .deviceVector).2.2.2.1,
    by decide +kernel⟩

end LayoutParity
