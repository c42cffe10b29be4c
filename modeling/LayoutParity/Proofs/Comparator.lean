import LayoutParity.Comparison.Basic
import LayoutParity.Proofs.Flattening
import Mathlib.Data.List.Nodup

/-!
# A comparison lists the differences of two flat layouts

A comparator walks the host's layout, finds the device's field of each name, and carries a path and
two offsets into nested structs. Where names are told apart at every depth, the field found is the
one at the same position (`Schema.partners`), so the walk finds the positions at which the two flat
layouts differ, in order (`Schema.DistinctNames.divergeAsFlat`): all of them if nested structs are
entered, those of the struct's own fields if not. The size of the struct is compared last.
-/

namespace LayoutParity

/-- Whether the divergence is about a field of the outermost struct itself. -/
def Divergence.isTopLevel (divergence : Divergence) : Bool :=
  match divergence.subject with
  | .field path => path.outer.isEmpty
  | .whole => false

/-- A new comparator compares the two computed layouts; that it remembers the first when it lays
out the second makes no difference. -/
theorem Comparator.compare_fresh (arith : Arithmetic) (host device : Policy) (nested : Bool)
    (schema : Schema) :
    ((Comparator.fresh arith host device nested).compare schema).1 =
      ⟨schema.name, schema.layout arith host, schema.layout arith device,
        (schema.layout arith host).divergences arith schema.name nested
          (schema.layout arith device)⟩ := by
  by_cases h : device = host
  · subst h
    simp [compare, fresh, LayoutCache.compute, LayoutCache.find?, LayoutCache.empty]
  · have hk : ((schema, device) == (schema, host)) = false := by simpa using h
    simp [compare, fresh, LayoutCache.compute, LayoutCache.find?, LayoutCache.empty,
      List.lookup_cons, hk]

/-! ## The partner of a field -/

theorem Layout.field?_of_nodup {layout : Layout} (hn : (layout.fields.map (·.name)).Nodup)
    {field : FieldLayout} (hf : field ∈ layout.fields) : layout.field? field.name = some field := by
  refine find?_key_of_nodup ?_ (List.mem_reverse.2 hf)
  rw [List.map_reverse]
  exact List.nodup_reverse.2 hn

/-- Where field names are told apart, the device's field of a name is the one at the position of
the host's, and both lay out one field of the declaration. -/
theorem Schema.partners {schema : Schema} (hn : (schema.fields.map (·.name)).Nodup)
    (arith : Arithmetic) (host device : Policy) :
    List.Forall₂ (fun placed other =>
      (schema.layout arith device).field? placed.name = some other ∧
        ∃ field ∈ schema.fields, field.LaidOut arith host placed ∧ field.LaidOut arith device other)
      (schema.layout arith host).fields (schema.layout arith device).fields := by
  obtain ⟨hl, hb⟩ := List.forall₂_iff_zip.1 (schema.forall₂_laidOut_both arith host device)
  refine List.forall₂_iff_zip.2 ⟨hl, fun {placed other} hm => ⟨?_, hb hm⟩⟩
  obtain ⟨field, -, hp, ho⟩ := hb hm
  rw [hp.name, ← ho.name]
  exact Layout.field?_of_nodup (schema.names_layout arith device ▸ hn) (List.of_mem_zip hm).2

/-- No field is skipped: looking up the host's names in the device's layout gives all its fields in
order. -/
theorem Schema.map_field?_layout {schema : Schema} (hn : (schema.fields.map (·.name)).Nodup)
    (arith : Arithmetic) (host device : Policy) :
    (schema.layout arith host).fields.map
        (fun field => (schema.layout arith device).field? field.name) =
      (schema.layout arith device).fields.map some := by
  exact map_eq_of_forall₂ ((schema.partners hn arith host device).imp fun _ _ h => h.1)

/-! ## The walk -/

/-- Where every field has a partner, the walk goes through the pairs. -/
theorem FieldLayout.allDivergences_eq (walk : Walk) (device : Layout)
    {hosts others : List FieldLayout}
    (h : List.Forall₂ (fun host other => device.field? host.name = some other) hosts others) :
    FieldLayout.allDivergences walk hosts device =
      (hosts.zip others).flatMap fun (host, other) => host.divergences walk other := by
  induction h with
  | nil => rfl
  | cons hp _ ih => rw [FieldLayout.allDivergences, hp, ih, List.zip_cons_cons, List.flatMap_cons]

/-- The divergences of fields are those of the host's fields that the device has too. -/
theorem FieldLayout.mem_allDivergences_iff {walk : Walk} {hosts : List FieldLayout}
    {device : Layout} {divergence : Divergence} :
    divergence ∈ FieldLayout.allDivergences walk hosts device ↔
      ∃ host ∈ hosts, ∃ other, device.field? host.name = some other ∧
        divergence ∈ host.divergences walk other := by
  induction hosts with
  | nil => simp [FieldLayout.allDivergences]
  | cons host rest ih =>
    rw [FieldLayout.allDivergences, List.mem_append, ih, List.exists_mem_cons_iff]
    refine or_congr_left ?_
    cases device.field? host.name <;> simp

theorem FieldLayout.toList_divergence? (arith : Arithmetic) (struct : String) (outer : List Step)
    (hostBase deviceBase : Nat) (host device : FieldLayout) :
    (host.divergence? struct ⟨outer, host.name⟩ (arith.add hostBase host.offset)
        (arith.add deviceBase device.offset) device).toList =
      Site.differences struct [host.site.inside arith outer hostBase]
        [device.site.inside arith outer deviceBase] := by
  rw [Site.differences_singleton, FieldLayout.divergence?, apply_ite Option.toList]
  simp only [Site.inside, FieldLayout.site, List.append_nil]
  rfl

theorem FieldLayout.divergences_eq (walk : Walk) (host device : FieldLayout) :
    host.divergences walk device =
      Site.differences walk.struct [host.site.inside walk.arith walk.outer walk.hostBase]
          [device.site.inside walk.arith walk.outer walk.deviceBase]
        ++ Layout.elementDivergences
          { walk with
            hostBase := walk.arith.add walk.hostBase host.offset
            deviceBase := walk.arith.add walk.deviceBase device.offset }
          host.name host.type host.nested? device.nested? := by
  rw [← FieldLayout.toList_divergence?]
  cases host
  rfl

/-- A walk that does not enter nested structs finds nothing inside a field. -/
theorem Layout.elementDivergences_of_shallow {walk : Walk} (hw : walk.nested = false)
    (name : String) (type : FieldType) (host? device? : Option Layout) :
    Layout.elementDivergences walk name type host? device? = [] := by
  cases host? <;> cases device? <;> simp [Layout.elementDivergences, hw]

/-- A walk that enters nested structs finds the differences of the flat layouts of these two,
wherever it stands when it comes to them. -/
def Layout.DivergeAsFlat (arith : Arithmetic) (host device : Layout) : Prop :=
  ∀ walk : Walk, walk.arith = arith → walk.nested = true →
    Layout.fieldDivergences walk host device =
      Site.differences walk.struct
        ((host.flat arith).map (·.inside arith walk.outer walk.hostBase))
        ((device.flat arith).map (·.inside arith walk.outer walk.deviceBase))

/-- Where two layouts of a nested struct diverge as their flat layouts differ, so do the elements of
a field that holds them. -/
theorem Layout.elementDivergences_eq {walk : Walk} (ha : walk.arith = arith)
    (hw : walk.nested = true) (name : String) (type : FieldType) {host device : Layout}
    (hostOffset deviceOffset : Nat) (hl : (host.flat arith).length = (device.flat arith).length)
    (ih : host.DivergeAsFlat arith device) :
    Layout.elementDivergences
        { walk with
          hostBase := arith.add walk.hostBase hostOffset
          deviceBase := arith.add walk.deviceBase deviceOffset }
        name type (some host) (some device) =
      Site.differences walk.struct
        ((Layout.flatElements arith name type hostOffset (some host)).map
          (·.inside arith walk.outer walk.hostBase))
        ((Layout.flatElements arith name type deviceOffset (some device)).map
          (·.inside arith walk.outer walk.deviceBase)) := by
  subst ha
  rw [Layout.elementDivergences, if_pos hw, Layout.flatElements, Layout.flatElements,
    List.map_flatMap, List.map_flatMap, Site.differences_flatMap]
  · rw [List.zip_eq_zipWith, List.zipWith_self, List.flatMap_map]
    refine List.flatMap_congr fun index _ => ?_
    refine (ih _ (by rfl) (by exact hw)).trans ?_
    simp only [Walk.enter, Step.intoElement, List.map_map, Function.comp_def, Site.inside_inside,
      Arithmetic.add_assoc]
  · exact List.forall₂_same.2 fun index _ => by simp [hl]

/-- The divergences in a field are the differences of what its flat layouts have in it, if this is
so of the struct it holds. -/
theorem Field.LaidOut.elementDivergences_eq {host device : Policy} {field : Field}
    {placed other : FieldLayout} (hp : field.LaidOut arith host placed)
    (ho : field.LaidOut arith device other)
    {walk : Walk} (ha : walk.arith = arith) (hw : walk.nested = true)
    (ih : ∀ inner, field.fullType.nested? = some inner →
      (inner.layout arith host).DivergeAsFlat arith (inner.layout arith device)) :
    Layout.elementDivergences
        { walk with
          hostBase := arith.add walk.hostBase placed.offset
          deviceBase := arith.add walk.deviceBase other.offset }
        placed.name placed.type placed.nested? other.nested? =
      Site.differences walk.struct
        ((Layout.flatElements arith placed.name placed.type placed.offset placed.nested?).map
          (·.inside arith walk.outer walk.hostBase))
        ((Layout.flatElements arith other.name other.type other.offset other.nested?).map
          (·.inside arith walk.outer walk.deviceBase)) := by
  rw [hp.name, hp.type, hp.nested, ho.name, ho.type, ho.nested]
  cases hi : field.fullType.nested? with
  | none => rfl
  | some inner =>
    exact Layout.elementDivergences_eq ha hw _ _ _ _ (inner.length_flat arith host device)
      (ih inner hi)

theorem Layout.fieldDivergences_eq (walk : Walk) (host device : Layout) :
    Layout.fieldDivergences walk host device =
      FieldLayout.allDivergences walk host.fields device := by
  cases host
  rfl

/-- Where names are told apart at every depth, the layouts of a struct diverge as its flat layouts
differ. -/
theorem Schema.DistinctNames.divergeAsFlat {schema : Schema} (hd : schema.DistinctNames)
    (arith : Arithmetic) (host device : Policy) :
    (schema.layout arith host).DivergeAsFlat arith (schema.layout arith device) := by
  induction schema using Schema.nestedInduction with
  | step schema ih =>
    intro walk ha hw
    subst ha
    have h := schema.partners hd.nodup walk.arith host device
    rw [Layout.fieldDivergences_eq, FieldLayout.allDivergences_eq _ _ (h.imp fun _ _ h => h.1),
      Layout.flat_eq, Layout.flat_eq, List.map_flatMap, List.map_flatMap, Site.differences_flatMap]
    · refine List.flatMap_congr fun ⟨placed, other⟩ hm => ?_
      obtain ⟨-, field, hf, hp, ho⟩ := (List.forall₂_iff_zip.1 h).2 hm
      dsimp only
      rw [FieldLayout.flat_eq, FieldLayout.flat_eq, List.map_cons, List.map_cons,
        FieldLayout.divergences_eq, hp.elementDivergences_eq ho rfl hw fun inner hi => ?_]
      · exact (Site.differences_cons ..).symm
      · have hi := Field.mem_nested hf hi
        exact ih inner hi (hd.of_nested hi)
    · refine h.imp fun placed other ⟨_, field, _, hp, ho⟩ => ?_
      rw [List.length_map, List.length_map, hp.length_flat ho]

/-! ## The struct's own fields -/

theorem Site.filter_isTopLevel_differences {struct : String} {hosts devices : List Site}
    (h : ∀ host ∈ hosts, host.path.outer ≠ []) :
    (Site.differences struct hosts devices).filter (·.isTopLevel) = [] := by
  refine List.filter_eq_nil_iff.2 fun divergence hm => ?_
  obtain ⟨host, hh, hs⟩ := Site.subject_of_mem_differences hm
  simpa [Divergence.isTopLevel, hs] using h host hh

/-- The divergences of a field that are about the struct's own fields are what a walk finds that
does not enter nested structs. -/
theorem Field.LaidOut.filter_isTopLevel_divergences {host device : Policy} {field : Field}
    {placed other : FieldLayout} (hp : field.LaidOut arith host placed)
    (ho : field.LaidOut arith device other)
    (struct : String) (hd : ∀ inner, field.fullType.nested? = some inner → inner.DistinctNames) :
    (placed.divergences ⟨arith, struct, true, [], 0, 0⟩ other).filter (·.isTopLevel) =
      placed.divergences ⟨arith, struct, false, [], 0, 0⟩ other := by
  have hown : (Site.differences struct [placed.site.inside arith [] 0]
      [other.site.inside arith [] 0]).filter (·.isTopLevel) =
        Site.differences struct [placed.site.inside arith [] 0]
          [other.site.inside arith [] 0] := by
    refine List.filter_eq_self.2 fun divergence hm => ?_
    obtain ⟨site, hs, he⟩ := Site.subject_of_mem_differences hm
    obtain rfl := List.mem_singleton.1 hs
    rw [Divergence.isTopLevel, he]
    rfl
  have hshallow := Layout.elementDivergences_of_shallow
    (show Walk.nested ⟨arith, struct, false, [], arith.add 0 placed.offset,
      arith.add 0 other.offset⟩ = false from rfl)
  rw [FieldLayout.divergences_eq, FieldLayout.divergences_eq, hshallow, List.filter_append, hown,
    hp.elementDivergences_eq ho rfl rfl fun inner hi =>
      (hd inner hi).divergeAsFlat arith host device,
    Site.filter_isTopLevel_differences]
  intro site hs
  obtain ⟨inner, hi, rfl⟩ := List.mem_map.1 hs
  simpa [Site.inside] using Layout.outer_ne_nil_of_mem_flatElements hi

/-- A walk from the outermost struct finds the differences of the flat layouts: all of them, or
those of the struct's own fields if nested structs are not entered. -/
theorem Schema.DistinctNames.fieldDivergences_outermost {schema : Schema}
    (hd : schema.DistinctNames) (arith : Arithmetic) (host device : Policy) (struct : String)
    (nested : Bool) :
    Layout.fieldDivergences ⟨arith, struct, nested, [], 0, 0⟩ (schema.layout arith host)
        (schema.layout arith device) =
      (Site.differences struct ((schema.layout arith host).flat arith)
          ((schema.layout arith device).flat arith)).filter
        fun divergence => nested || divergence.isTopLevel := by
  have hdeep : Layout.fieldDivergences ⟨arith, struct, true, [], 0, 0⟩ (schema.layout arith host)
      (schema.layout arith device) =
        Site.differences struct ((schema.layout arith host).flat arith)
          ((schema.layout arith device).flat arith) := by
    rw [hd.divergeAsFlat arith host device ⟨arith, struct, true, [], 0, 0⟩ rfl rfl,
      Schema.map_inside_flat, Schema.map_inside_flat]
  cases nested with
  | true => simpa using hdeep
  | false =>
    have h := schema.partners hd.nodup arith host device
    have hpair := h.imp fun _ _ h => h.1
    rw [← hdeep, Layout.fieldDivergences_eq, Layout.fieldDivergences_eq,
      FieldLayout.allDivergences_eq _ _ hpair, FieldLayout.allDivergences_eq _ _ hpair,
      List.filter_flatMap]
    refine List.flatMap_congr fun ⟨placed, other⟩ hm => ?_
    obtain ⟨-, field, hf, hp, ho⟩ := (List.forall₂_iff_zip.1 h).2 hm
    exact (hp.filter_isTopLevel_divergences ho struct fun inner hi =>
      hd.of_nested (Field.mem_nested hf hi)).symm

/-! ## Comparisons -/

theorem Site.isWhole_of_mem_differences {struct : String} {hosts devices : List Site}
    {divergence : Divergence} (h : divergence ∈ Site.differences struct hosts devices) :
    divergence.isWhole = false := by
  obtain ⟨host, -, hs⟩ := Site.subject_of_mem_differences h
  simp [Divergence.isWhole, hs]

theorem Layout.toList_sizeDivergence? (struct : String) (host device : Layout) :
    (Layout.sizeDivergence? struct host device).toList =
      if host.size = device.size then [] else [⟨struct, .whole, 0, 0, host.size, device.size⟩] := by
  rw [Layout.sizeDivergence?, apply_ite Option.toList]
  rfl

/-- The struct as a whole diverges where the sizes do, by these sizes. -/
theorem Layout.mem_sizeDivergence?_iff {struct : String} {host device : Layout}
    {divergence : Divergence} :
    divergence ∈ (Layout.sizeDivergence? struct host device).toList ↔
      host.size ≠ device.size ∧
        divergence = ⟨struct, .whole, 0, 0, host.size, device.size⟩ := by
  rw [Layout.toList_sizeDivergence?]
  split <;> simp [*]

/-- A comparison lists the differences of the flat layouts, then that of the sizes. -/
theorem Schema.DistinctNames.divergences_compare {schema : Schema} (hd : schema.DistinctNames)
    (arith : Arithmetic) (host device : Policy) (nested : Bool) :
    ((Comparator.fresh arith host device nested).compare schema).1.divergences =
      ((Site.differences schema.name ((schema.layout arith host).flat arith)
          ((schema.layout arith device).flat arith)).filter
          fun divergence => nested || divergence.isTopLevel)
        ++ (Layout.sizeDivergence? schema.name (schema.layout arith host)
          (schema.layout arith device)).toList := by
  rw [Comparator.compare_fresh, Layout.divergences, hd.fieldDivergences_outermost]

/-- Where the layouts of both sides have the same flat layout and size, nothing diverges. -/
theorem Schema.DistinctNames.divergences_eq_nil {schema : Schema} (hd : schema.DistinctNames)
    {arith : Arithmetic} {host device : Policy}
    (hflat : (schema.layout arith host).flat arith = (schema.layout arith device).flat arith)
    (hsize : (schema.layout arith host).size = (schema.layout arith device).size) (nested : Bool) :
    ((Comparator.fresh arith host device nested).compare schema).1.divergences = [] := by
  rw [hd.divergences_compare, hflat, Site.differences_self, Layout.sizeDivergence?, if_pos hsize]
  rfl

theorem Schema.DistinctNames.fieldDivergences_compare {schema : Schema} (hd : schema.DistinctNames)
    (arith : Arithmetic) (host device : Policy) (nested : Bool) :
    ((Comparator.fresh arith host device nested).compare schema).1.fieldDivergences =
      (Site.differences schema.name ((schema.layout arith host).flat arith)
          ((schema.layout arith device).flat arith)).filter
        fun divergence => nested || divergence.isTopLevel := by
  rw [Comparison.fieldDivergences, hd.divergences_compare, List.filter_append,
    List.filter_eq_self.2 fun d h => ?_, List.append_right_eq_self]
  · rw [Layout.sizeDivergence?]
    split <;> simp [Divergence.isWhole]
  · simp [Site.isWhole_of_mem_differences (List.mem_of_mem_filter h)]

/-- Where field names are told apart at every depth, a comparison is exact, in either arithmetic.
The flat layouts of both sides have the same paths in the same order, and no field is skipped when
it is looked up by name. With nested structs entered, the divergences of fields are the positions at
which the flat layouts differ; without, they are those among them of the struct's own fields. One
divergence of the whole follows if and only if the sizes differ. The path of a field is written as
its name, behind `name.` or `name[index].` for each struct around it. -/
theorem Comparator.divergences_exact {schema : Schema} (hd : schema.DistinctNames)
    (arith : Arithmetic) (host device : Policy) :
    let hostFlat := (schema.layout arith host).flat arith
    let deviceFlat := (schema.layout arith device).flat arith
    let deep := ((Comparator.fresh arith host device true).compare schema).1
    let shallow := ((Comparator.fresh arith host device false).compare schema).1
    hostFlat.length = deviceFlat.length ∧
    hostFlat.map (·.path) = deviceFlat.map (·.path) ∧
    (∀ field : FieldLayout, field.site.path.text = field.name) ∧
    (∀ site name index? distance, (Site.inside arith [⟨name, index?⟩] distance site).path.text =
      name ++ (index?.elim "." fun index => s!"[{index}].") ++ site.path.text) ∧
    (∀ struct ∈ schema.structs,
      (struct.layout arith host).fields.map
          (fun field => (struct.layout arith device).field? field.name) =
        (struct.layout arith device).fields.map some) ∧
    deep.fieldDivergences = Site.differences schema.name hostFlat deviceFlat ∧
    shallow.fieldDivergences = deep.fieldDivergences.filter (·.isTopLevel) ∧
    ∀ comparison ∈ [deep, shallow], comparison.divergences = comparison.fieldDivergences ++
      if (schema.layout arith host).size = (schema.layout arith device).size then []
      else [⟨schema.name, .whole, 0, 0, (schema.layout arith host).size,
        (schema.layout arith device).size⟩] := by
  intro hostFlat deviceFlat deep shallow
  have hdeep : deep.fieldDivergences = Site.differences schema.name hostFlat deviceFlat := by
    simpa using hd.fieldDivergences_compare arith host device true
  have hall : ∀ nested, ((Comparator.fresh arith host device nested).compare schema).1.divergences =
      ((Comparator.fresh arith host device nested).compare schema).1.fieldDivergences ++
        if (schema.layout arith host).size = (schema.layout arith device).size then []
        else [⟨schema.name, .whole, 0, 0, (schema.layout arith host).size,
          (schema.layout arith device).size⟩] := by
    intro nested
    rw [hd.fieldDivergences_compare, hd.divergences_compare, Layout.toList_sizeDivergence?]
  refine ⟨schema.length_flat arith host device, schema.paths_flat arith host device,
    FieldLayout.text_site, Site.text_inside arith,
    fun struct hs => Schema.map_field?_layout (hd struct hs) arith host device, hdeep, ?_, ?_⟩
  · rw [hdeep]
    simpa using hd.fieldDivergences_compare arith host device false
  · simpa using ⟨hall true, hall false⟩

/-- A struct with arrays of arrays, a struct two levels down and an empty array. -/
def lampGrid : Schema :=
  let light : Schema := ⟨"Light", [⟨"color", .primitive .vector3, none⟩,
    ⟨"intensity", .primitive .float, none⟩]⟩
  let lamp : Schema := ⟨"Lamp", [⟨"scale", .primitive .float, none⟩,
    ⟨"light", .struct light, none⟩]⟩
  ⟨"LampGrid", [⟨"lamps", .array (.struct lamp) 2, some 1⟩, ⟨"spares", .struct lamp, some 0⟩]⟩

theorem Comparator.divergences_exact_lampGrid :
    lampGrid.DistinctNames ∧
    ((Comparator.fresh .word .natural .deviceVector true).compare lampGrid).1.fieldDivergences.map
        (fun d => (d.hostOffset, d.deviceOffset, d.hostSize, d.deviceSize)) =
      [(0, 0, 40, 64), (4, 16, 16, 16), (4, 16, 12, 12), (16, 28, 4, 4), (20, 32, 4, 4),
        (24, 48, 16, 16), (24, 48, 12, 12), (36, 60, 4, 4), (40, 64, 0, 0)] := by
  have hd : lampGrid.DistinctNames := by decide
  refine ⟨hd, ?_⟩
  rw [(Comparator.divergences_exact hd .word .natural .deviceVector).2.2.2.2.2.1]
  decide

end LayoutParity
