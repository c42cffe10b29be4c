import LayoutParity.Comparison.Divergence
import LayoutParity.Proofs.Extents
import Mathlib.Data.List.Nodup

/-!
# Flat layouts

`Layout.flat` lists the fields of a struct and, after each field, those of the structs in it, once
for each innermost element, with their paths and offsets from the outermost struct. It walks one
layout and knows nothing of comparisons, so it is what a comparison of two layouts is measured
against: `Site.differences` pairs two such lists by position.

The flat layouts of a declaration under two policies have the same paths in the same order
(`Schema.paths_flat`), since a path depends on names and types only. Where names are told apart at
every depth no two positions have one path (`Schema.DistinctNames.nodup_paths`): the first name on a
path tells the field of the outermost struct, and an index the element of an array.
-/

namespace LayoutParity

/-- A field at its place in the outermost struct. -/
structure Site where
  path : Path
  offset : Nat
  size : Nat
deriving DecidableEq, Repr

/-- The place in the outer struct, of a field of a struct that the steps lead to and that begins at
this distance. -/
def Site.inside (arith : Arithmetic) (steps : List Step) (distance : Nat) (site : Site) : Site :=
  ⟨⟨steps ++ site.path.outer, site.path.field⟩, arith.add distance site.offset, site.size⟩

/-- The field itself, at its place in its own struct. -/
def FieldLayout.site (field : FieldLayout) : Site :=
  ⟨⟨[], field.name⟩, field.offset, field.size⟩

section
variable (arith : Arithmetic)

mutual

/-- The fields of a struct and of the structs in it, at their places in the struct. -/
def Layout.flat : Layout → List Site
  | ⟨_, _, fields, _, _, _⟩ => FieldLayout.flatAll fields

/-- `Layout.flat` over some fields of the struct. -/
def FieldLayout.flatAll : List FieldLayout → List Site
  | [] => []
  | field :: rest => field.flat ++ FieldLayout.flatAll rest

/-- A field and the fields of the structs in it. -/
def FieldLayout.flat : FieldLayout → List Site
  | ⟨name, type, offset, size, alignment, nested?⟩ =>
    FieldLayout.site ⟨name, type, offset, size, alignment, nested?⟩
      :: Layout.flatElements name type offset nested?

/-- The fields of the structs in the field of a name, a type and an offset: those of each element
in turn. -/
def Layout.flatElements (name : String) (type : FieldType) (offset : Nat) :
    Option Layout → List Site
  | none => []
  | some layout =>
    (List.range (type.elementCount arith)).flatMap fun index =>
      layout.flat.map <|
        .inside arith [⟨name, if type.isArray then some index else none⟩]
          (arith.add offset (arith.mul index layout.size))

end

end

/-- The positions at which two lists of sites differ in offset or size, as divergences of a
struct. -/
def Site.differences (struct : String) (hosts devices : List Site) : List Divergence :=
  ((hosts.zip devices).filter fun (host, device) =>
      host.offset ≠ device.offset ∨ host.size ≠ device.size).map
    fun (host, device) =>
      ⟨struct, .field host.path, host.offset, device.offset, host.size, device.size⟩

/-! ## Opening the flat layout -/

section
variable (arith : Arithmetic)

theorem Layout.flat_eq (layout : Layout) :
    layout.flat arith = layout.fields.flatMap (·.flat arith) := by
  obtain ⟨name, policy, fields, dataSize, size, alignment⟩ := layout
  show FieldLayout.flatAll arith fields = fields.flatMap (·.flat arith)
  induction fields with
  | nil => rfl
  | cons field rest ih => rw [FieldLayout.flatAll, ih, List.flatMap_cons]

theorem FieldLayout.flat_eq (field : FieldLayout) :
    field.flat arith =
      field.site :: Layout.flatElements arith field.name field.type field.offset field.nested? := by
  cases field
  rfl

theorem Site.inside_inside (outer inner : List Step) (distance within : Nat) (site : Site) :
    (site.inside arith inner within).inside arith outer distance =
      site.inside arith (outer ++ inner) (arith.add distance within) := by
  simp [Site.inside, arith.add_assoc]

/-- Seen from its own struct a field is where it is, if its offset is one of the arithmetic. -/
theorem Site.inside_nil_zero {site : Site} (h : arith.wrap site.offset = site.offset) :
    site.inside arith [] 0 = site := by
  simp [Site.inside, arith.add_eq, h]

variable {arith}

/-- Everything in a field lies behind a step. -/
theorem Layout.outer_ne_nil_of_mem_flatElements {name : String} {type : FieldType} {offset : Nat}
    {nested? : Option Layout} {site : Site}
    (h : site ∈ Layout.flatElements arith name type offset nested?) : site.path.outer ≠ [] := by
  cases nested? with
  | none => cases h
  | some layout =>
    obtain ⟨index, -, h⟩ := List.mem_flatMap.1 h
    obtain ⟨inner, -, rfl⟩ := List.mem_map.1 h
    simp [Site.inside]

/-- The offset of what is in a field is one of the arithmetic. -/
theorem Layout.wrap_offset_of_mem_flatElements {name : String} {type : FieldType} {offset : Nat}
    {nested? : Option Layout} {site : Site}
    (h : site ∈ Layout.flatElements arith name type offset nested?) :
    arith.wrap site.offset = site.offset := by
  cases nested? with
  | none => cases h
  | some layout =>
    obtain ⟨index, -, h⟩ := List.mem_flatMap.1 h
    obtain ⟨inner, -, rfl⟩ := List.mem_map.1 h
    exact arith.wrap_add ..

end

/-- A placed field stands at an offset of the arithmetic. -/
theorem FieldLayout.wrap_offset_of_mem_placeFrom {arith : Arithmetic} {cursor : Nat}
    {blocks : List Block} {placed : FieldLayout}
    (h : placed ∈ FieldLayout.placeFrom arith cursor blocks) :
    arith.wrap placed.offset = placed.offset := by
  induction blocks generalizing cursor with
  | nil => cases h
  | cons block rest ih =>
    rw [FieldLayout.placeFrom] at h
    rcases List.mem_cons.1 h with rfl | h
    · exact arith.wrap_roundUp ..
    · exact ih h

theorem Schema.wrap_offset_of_mem_fields {arith : Arithmetic} {policy : Policy} {schema : Schema}
    {placed : FieldLayout} (h : placed ∈ (schema.layout arith policy).fields) :
    arith.wrap placed.offset = placed.offset := by
  rw [Schema.fields_layout] at h
  exact FieldLayout.wrap_offset_of_mem_placeFrom h

/-- Every field in a computed layout stands at an offset of the arithmetic that it was computed
in. -/
theorem Schema.wrap_offset_of_mem_flat {arith : Arithmetic} {policy : Policy} {schema : Schema}
    {site : Site} (h : site ∈ (schema.layout arith policy).flat arith) :
    arith.wrap site.offset = site.offset := by
  rw [Layout.flat_eq] at h
  obtain ⟨placed, hm, h⟩ := List.mem_flatMap.1 h
  rw [FieldLayout.flat_eq] at h
  rcases List.mem_cons.1 h with rfl | h
  · exact Schema.wrap_offset_of_mem_fields hm
  · exact Layout.wrap_offset_of_mem_flatElements h

/-- Seen from the struct itself its fields are where they are. -/
theorem Schema.map_inside_flat (arith : Arithmetic) (policy : Policy) (schema : Schema) :
    ((schema.layout arith policy).flat arith).map (·.inside arith [] 0) =
      (schema.layout arith policy).flat arith := by
  refine (List.map_congr_left fun site hs => ?_).trans (List.map_id' _)
  exact Site.inside_nil_zero arith (Schema.wrap_offset_of_mem_flat hs)

/-! ## Paths as text -/

theorem FieldLayout.text_site (field : FieldLayout) : field.site.path.text = field.name := by
  simp [FieldLayout.site, Path.text]

/-- A struct around a field puts `name.` before the field's path, or `name[index].` if it is an
element of an array. -/
theorem Site.text_inside (arith : Arithmetic) (site : Site) (name : String) (index? : Option Nat)
    (distance : Nat) :
    (Site.inside arith [⟨name, index?⟩] distance site).path.text =
      name ++ (index?.elim "." fun index => s!"[{index}].") ++ site.path.text := by
  cases index? with
  | none => simp [Site.inside, Path.text, Step.text, String.append_assoc]
  | some index =>
    have h : toString "]." = toString "]" ++ "." := rfl
    simp [Site.inside, Path.text, Step.text, String.append_assoc, h]
    rfl

/-! ## Differences -/

namespace Site

theorem differences_singleton (struct : String) (host device : Site) :
    differences struct [host] [device] =
      if host.offset = device.offset ∧ host.size = device.size then []
      else [⟨struct, .field host.path, host.offset, device.offset, host.size, device.size⟩] := by
  by_cases h : host.offset = device.offset ∧ host.size = device.size
  · simp [differences, h]
  · have hne : host.offset ≠ device.offset ∨ host.size ≠ device.size :=
      Decidable.not_and_iff_or_not.1 h
    rw [if_neg h]
    simp [differences, hne]

theorem differences_cons (struct : String) (host device : Site) (hosts devices : List Site) :
    differences struct (host :: hosts) (device :: devices) =
      differences struct [host] [device] ++ differences struct hosts devices := by
  simp only [differences, List.zip_cons_cons, List.zip_nil_left, List.filter_cons, List.filter_nil]
  split <;> rfl

theorem differences_append (struct : String) {hosts devices : List Site}
    (h : hosts.length = devices.length) (hosts' devices' : List Site) :
    differences struct (hosts ++ hosts') (devices ++ devices') =
      differences struct hosts devices ++ differences struct hosts' devices' := by
  simp only [differences, List.zip_append h, List.filter_append, List.map_append]

/-- The differences of two lists joined from parts of equal lengths are those of the parts. -/
theorem differences_flatMap {α β : Type} (struct : String) {f : α → List Site} {g : β → List Site}
    {parts : List α} {others : List β}
    (h : List.Forall₂ (fun part other => (f part).length = (g other).length) parts others) :
    differences struct (parts.flatMap f) (others.flatMap g) =
      (parts.zip others).flatMap fun (part, other) => differences struct (f part) (g other) := by
  induction h with
  | nil => rfl
  | cons hl _ ih =>
    rw [List.flatMap_cons, List.flatMap_cons, differences_append struct hl, ih, List.zip_cons_cons,
      List.flatMap_cons]

/-- A list differs from itself nowhere. -/
theorem differences_self (struct : String) (sites : List Site) :
    differences struct sites sites = [] := by
  induction sites with
  | nil => rfl
  | cons site rest ih =>
    rw [differences_cons, ih]
    simp [differences]

theorem subject_of_mem_differences {struct : String} {hosts devices : List Site}
    {divergence : Divergence} (h : divergence ∈ differences struct hosts devices) :
    ∃ host ∈ hosts, divergence.subject = .field host.path := by
  obtain ⟨⟨host, device⟩, hm, rfl⟩ := List.mem_map.1 h
  exact ⟨host, (List.of_mem_zip (List.mem_of_mem_filter hm)).1, rfl⟩

end Site

/-! ## Paths do not depend on the policy -/

section
variable (arith : Arithmetic)

theorem Site.path_inside (steps : List Step) (distance : Nat) (site : Site) :
    (site.inside arith steps distance).path = ⟨steps ++ site.path.outer, site.path.field⟩ :=
  rfl

/-- The paths inside a field are those of its struct, behind a step into each element. -/
theorem Layout.paths_flatElements (name : String) (type : FieldType) (offset : Nat)
    (layout : Layout) :
    (Layout.flatElements arith name type offset (some layout)).map (·.path) =
      (List.range (type.elementCount arith)).flatMap fun index =>
        ((layout.flat arith).map (·.path)).map fun path =>
          ⟨⟨name, if type.isArray then some index else none⟩ :: path.outer, path.field⟩ := by
  rw [Layout.flatElements, List.map_flatMap]
  simp only [List.map_map, Function.comp_def, Site.path_inside, List.singleton_append]

variable {arith}

/-- A field has the same paths under two policies if the struct it holds has. -/
theorem Field.LaidOut.paths_flat {host device : Policy} {field : Field}
    {placed other : FieldLayout} (hp : field.LaidOut arith host placed)
    (ho : field.LaidOut arith device other)
    (ih : ∀ inner, field.fullType.nested? = some inner →
      ((inner.layout arith host).flat arith).map (·.path) =
        ((inner.layout arith device).flat arith).map (·.path)) :
    (placed.flat arith).map (·.path) = (other.flat arith).map (·.path) := by
  rw [FieldLayout.flat_eq, FieldLayout.flat_eq, hp.name, hp.type, hp.nested, ho.name, ho.type,
    ho.nested, List.map_cons, List.map_cons, FieldLayout.site, FieldLayout.site, hp.name, ho.name]
  congr 1
  cases hi : field.fullType.nested? with
  | none => rfl
  | some inner =>
    rw [Option.map_some, Option.map_some, Layout.paths_flatElements, Layout.paths_flatElements,
      ih inner hi]

variable (arith)

/-- Under any two policies a struct has the same fields at every depth, in the same order. -/
theorem Schema.paths_flat (host device : Policy) (schema : Schema) :
    ((schema.layout arith host).flat arith).map (·.path) =
      ((schema.layout arith device).flat arith).map (·.path) := by
  induction schema using Schema.nestedInduction with
  | step schema ih =>
    rw [Layout.flat_eq, Layout.flat_eq, List.map_flatMap, List.map_flatMap]
    refine flatMap_eq_of_forall₂ ((schema.forall₂_laidOut_both arith host device).imp ?_)
    rintro placed other ⟨field, hf, hp, ho⟩
    exact hp.paths_flat ho fun inner hi => ih inner (Field.mem_nested hf hi)

theorem Schema.length_flat (host device : Policy) (schema : Schema) :
    ((schema.layout arith host).flat arith).length =
      ((schema.layout arith device).flat arith).length := by
  simpa using congrArg List.length (schema.paths_flat arith host device)

variable {arith}

theorem Field.LaidOut.length_flat {host device : Policy} {field : Field}
    {placed other : FieldLayout} (hp : field.LaidOut arith host placed)
    (ho : field.LaidOut arith device other) :
    (placed.flat arith).length = (other.flat arith).length := by
  simpa using congrArg List.length
    (hp.paths_flat ho fun inner _ => inner.paths_flat arith host device)

end

/-! ## No path leads to two positions -/

/-- The name of the field of the outermost struct that a path leads to or into. -/
def Path.root (path : Path) : String :=
  path.outer.head?.elim path.field (·.field)

theorem FieldLayout.root_of_mem_flat {arith : Arithmetic} {field : FieldLayout} {site : Site}
    (h : site ∈ field.flat arith) :
    site.path.root = field.name := by
  rw [FieldLayout.flat_eq] at h
  rcases List.mem_cons.1 h with rfl | h
  · rfl
  · cases hn : field.nested? with
    | none =>
      rw [hn] at h
      cases h
    | some layout =>
      rw [hn] at h
      obtain ⟨index, -, h⟩ := List.mem_flatMap.1 h
      obtain ⟨inner, -, rfl⟩ := List.mem_map.1 h
      rfl

theorem FieldType.elementCount_of_not_isArray (arith : Arithmetic) {type : FieldType}
    (h : type.isArray = false) : type.elementCount arith = 1 := by
  cases type with
  | primitive | struct => rfl
  | array => cases h

/-- The elements of a field have no path in common, and one element has no path twice if the struct
it is has not. -/
theorem Layout.nodup_paths_flatElements {arith : Arithmetic} (name : String) (type : FieldType)
    (offset : Nat)
    {layout : Layout} (hn : ((layout.flat arith).map (·.path)).Nodup) :
    ((Layout.flatElements arith name type offset (some layout)).map (·.path)).Nodup := by
  rw [Layout.paths_flatElements, List.nodup_flatMap]
  constructor
  · intro index _
    refine hn.map fun path other he => ?_
    obtain ⟨hsteps, hfield⟩ := Path.mk.inj he
    obtain ⟨-, houter⟩ := List.cons.inj hsteps
    cases path
    cases other
    exact congrArg₂ Path.mk houter hfield
  · cases ha : type.isArray with
    | false =>
      rw [FieldType.elementCount_of_not_isArray arith ha]
      exact List.pairwise_singleton _ _
    | true =>
      refine List.nodup_range.imp fun {index index'} hne path hp hp' => ?_
      obtain ⟨inner, -, rfl⟩ := List.mem_map.1 hp
      obtain ⟨inner', -, he⟩ := List.mem_map.1 hp'
      have hstep := (List.cons.inj (Path.mk.inj he).1).1
      simp only [if_true, Step.mk.injEq, Option.some.injEq, true_and] at hstep
      exact hne hstep.symm

/-- No path leads to two positions in a field if none does in the struct it holds. -/
theorem FieldLayout.nodup_paths_flat {arith : Arithmetic} {field : FieldLayout}
    (h : ∀ layout, field.nested? = some layout → ((layout.flat arith).map (·.path)).Nodup) :
    ((field.flat arith).map (·.path)).Nodup := by
  rw [FieldLayout.flat_eq, List.map_cons, List.nodup_cons]
  constructor
  · intro hm
    obtain ⟨site, hs, he⟩ := List.mem_map.1 hm
    exact Layout.outer_ne_nil_of_mem_flatElements hs (congrArg Path.outer he)
  · cases hn : field.nested? with
    | none => exact List.nodup_nil
    | some layout => exact Layout.nodup_paths_flatElements _ _ _ (h layout hn)

/-- Where names are told apart at every depth, no path leads to two positions. -/
theorem Schema.DistinctNames.nodup_paths {schema : Schema} (hd : schema.DistinctNames)
    (arith : Arithmetic) (policy : Policy) :
    (((schema.layout arith policy).flat arith).map (·.path)).Nodup := by
  induction schema using Schema.nestedInduction with
  | step schema ih =>
    rw [Layout.flat_eq, List.map_flatMap, List.nodup_flatMap]
    constructor
    · intro placed hm
      obtain ⟨field, hf, hp⟩ := schema.exists_of_mem_layout arith policy hm
      refine FieldLayout.nodup_paths_flat fun layout hl => ?_
      rw [hp.nested, Option.map_eq_some_iff] at hl
      obtain ⟨inner, hi, rfl⟩ := hl
      have hi := Field.mem_nested hf hi
      exact ih inner hi (hd.of_nested hi)
    · have hnames : ((schema.layout arith policy).fields.map (·.name)).Nodup :=
        schema.names_layout arith policy ▸ hd.nodup
      refine (List.pairwise_map.1 hnames).imp fun {placed other} hne path hp ho => ?_
      obtain ⟨site, hs, rfl⟩ := List.mem_map.1 hp
      obtain ⟨site', hs', he⟩ := List.mem_map.1 ho
      have hroot := congrArg Path.root he
      rw [FieldLayout.root_of_mem_flat hs, FieldLayout.root_of_mem_flat hs'] at hroot
      exact hne hroot.symm

end LayoutParity
