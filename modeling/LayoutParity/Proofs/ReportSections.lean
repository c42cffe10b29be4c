import LayoutParity.Proofs.PathTexts
import LayoutParity.Proofs.Registration
import LayoutParity.Report.Text

/-!
# What sections of text reports show of divergences

A section with details accounts for a comparison in three places: the table has a row for each of
the struct's own fields, marked if one of the divergences is about it; the lines below are on
divergences inside nested structs; and the status line has the sizes of both sides.

The marks are computed from the layouts (`Schema.DistinctNames.agreesOn_eq`), the lines are those of
the divergences whose path has a point in its text. Every path into a nested struct has one, but the
path of an own field has one too if the name of the field does (`Divergence.isInner_eq`), and there
are registered structs with such names. Then a divergence is shown by a mark and by a line.
-/

namespace LayoutParity

/-! ## What divergences are about -/

namespace Divergence

/-- Whether the divergence is about a field inside a nested struct. -/
def isNested (divergence : Divergence) : Bool :=
  match divergence.subject with
  | .field path => !path.outer.isEmpty
  | .whole => false

/-- Whether the divergence is about a field whose name has a point. -/
def hasPointedName (divergence : Divergence) : Bool :=
  match divergence.subject with
  | .field path => path.field.toList.contains '.'
  | .whole => false

/-- A path has a point in its text because of a step or because of the name of the field. -/
theorem isInner_eq (divergence : Divergence) :
    divergence.isInner = (divergence.isNested || divergence.hasPointedName) := by
  obtain ⟨_, subject, _, _, _, _⟩ := divergence
  cases subject with
  | whole => rfl
  | field path =>
    rw [Bool.eq_iff_iff]
    simp [isInner, fieldText?, isNested, hasPointedName, Path.point_mem_text_iff]

/-- A divergence is about an own field of the struct, about a field inside a nested struct, or about
the struct as a whole. -/
theorem isTopLevel_or (divergence : Divergence) :
    divergence.isTopLevel = true ∨ divergence.isNested = true ∨ divergence.isWhole = true := by
  obtain ⟨_, subject, _, _, _, _⟩ := divergence
  cases subject with
  | whole => simp [isWhole]
  | field path => cases hp : path.outer <;> simp [isTopLevel, isNested, hp]

end Divergence

/-- Whether no divergence is about the struct's own field of this name. -/
def Comparison.agreesOn (comparison : Comparison) (name : String) : Bool :=
  comparison.divergences.all fun divergence => divergence.subject ≠ .field ⟨[], name⟩

/-- A walk that does not enter nested structs finds the host's fields that the device has elsewhere
or of another size. -/
theorem Layout.mem_shallow_iff {arith : Arithmetic} {struct : String} {host device : Layout}
    {divergence : Divergence} :
    divergence ∈ Layout.fieldDivergences ⟨arith, struct, false, [], 0, 0⟩ host device ↔
      ∃ placed ∈ host.fields, ∃ other, device.field? placed.name = some other ∧
        ¬(arith.wrap placed.offset = arith.wrap other.offset ∧ placed.size = other.size) ∧
        divergence = ⟨struct, .field ⟨[], placed.name⟩, arith.wrap placed.offset,
          arith.wrap other.offset, placed.size, other.size⟩ := by
  have hown (placed other : FieldLayout) :
      placed.divergences ⟨arith, struct, false, [], 0, 0⟩ other =
        if arith.wrap placed.offset = arith.wrap other.offset ∧ placed.size = other.size then []
        else [⟨struct, .field ⟨[], placed.name⟩, arith.wrap placed.offset, arith.wrap other.offset,
          placed.size, other.size⟩] := by
    rw [FieldLayout.divergences_eq, Layout.elementDivergences_of_shallow rfl, List.append_nil,
      Site.differences_singleton]
    simp only [Site.inside, FieldLayout.site, arith.add_eq, Nat.zero_add, List.append_nil]
  rw [Layout.fieldDivergences_eq, FieldLayout.mem_allDivergences_iff]
  refine exists_congr fun placed => and_congr_right fun _ => exists_congr fun other =>
    and_congr_right fun _ => ?_
  rw [hown]
  split <;> simp [*]

section
variable {schema : Schema} (hd : schema.DistinctNames) (arith : Arithmetic) (host device : Policy)
  (nested : Bool)
include hd

/-- About the struct's own fields a comparison finds the same whether it enters nested structs or
not. -/
theorem Schema.DistinctNames.mem_topLevel_iff {divergence : Divergence}
    (ht : divergence.isTopLevel = true) :
    divergence ∈ ((Comparator.fresh arith host device nested).compare schema).1.divergences ↔
      divergence ∈ Layout.fieldDivergences ⟨arith, schema.name, false, [], 0, 0⟩
        (schema.layout arith host) (schema.layout arith device) := by
  have hwhole : divergence ∉ (Layout.sizeDivergence? schema.name (schema.layout arith host)
      (schema.layout arith device)).toList := by
    intro hm
    obtain ⟨-, rfl⟩ := Layout.mem_sizeDivergence?_iff.1 hm
    cases ht
  rw [hd.divergences_compare, hd.fieldDivergences_outermost, List.mem_append, or_iff_left hwhole,
    List.mem_filter, List.mem_filter]
  simp [ht]

/-- A comparison agrees on a field exactly if both sides have it at one offset and of one size. -/
theorem Schema.DistinctNames.agreesOn_eq {placed other : FieldLayout}
    (hm : placed ∈ (schema.layout arith host).fields)
    (ho : (schema.layout arith device).field? placed.name = some other) :
    ((Comparator.fresh arith host device nested).compare schema).1.agreesOn placed.name =
      (placed.offset = other.offset && placed.size = other.size) := by
  have hplaced := Schema.wrap_offset_of_mem_fields hm
  have hfound := List.mem_reverse.1 (List.mem_of_find?_eq_some ho)
  have hother := Schema.wrap_offset_of_mem_fields hfound
  rw [Bool.eq_iff_iff, Comparison.agreesOn, List.all_eq_true, ← hplaced, ← hother]
  simp only [decide_eq_true_eq, Bool.and_eq_true]
  constructor
  · intro hall
    by_contra hdiffer
    refine hall _ ((hd.mem_topLevel_iff arith host device nested rfl).2
      (Layout.mem_shallow_iff.2 ⟨placed, hm, other, ho, hdiffer, rfl⟩)) rfl
  · intro hsame divergence hdiv hsubject
    have htop : divergence.isTopLevel = true := by
      rw [Divergence.isTopLevel, hsubject]
      rfl
    rw [hd.mem_topLevel_iff arith host device nested htop, Layout.mem_shallow_iff] at hdiv
    obtain ⟨placed', hm', other', ho', hdiffer, rfl⟩ := hdiv
    have hname : placed'.name = placed.name := (Path.mk.inj (Subject.field.inj hsubject)).2
    -- Names are told apart, so it is the same field on both sides.
    have hnames : ((schema.layout arith host).fields.map (·.name)).Nodup :=
      schema.names_layout arith host ▸ hd.nodup
    obtain rfl := List.inj_on_of_nodup_map hnames hm' hm hname
    obtain rfl := Option.some.inj (ho'.symm.trans ho)
    exact hdiffer hsame

end

/-- Without entering nested structs only own fields of the declaration are found. -/
theorem Schema.subject_of_mem_shallow {schema : Schema} {arith : Arithmetic} {policy : Policy}
    {struct : String}
    {device : Layout} {divergence : Divergence}
    (h : divergence ∈ Layout.fieldDivergences ⟨arith, struct, false, [], 0, 0⟩
      (schema.layout arith policy) device) :
    ∃ field ∈ schema.fields, divergence.subject = .field ⟨[], field.name⟩ := by
  obtain ⟨placed, hm, other, -, -, rfl⟩ := Layout.mem_shallow_iff.1 h
  obtain ⟨field, hf, hp⟩ := schema.exists_of_mem_layout arith policy hm
  exact ⟨field, hf, by rw [hp.name]⟩

/-- A divergence about an own field has a point in its path only if the declaration has a name with
a point. -/
theorem Divergence.hasPointedName_of_own {divergence : Divergence} {fields : List Field}
    (hn : ∀ field ∈ fields, '.' ∉ field.name.toList)
    (h : ∃ field ∈ fields, divergence.subject = .field ⟨[], field.name⟩) :
    divergence.hasPointedName = false := by
  obtain ⟨field, hf, hs⟩ := h
  rw [hasPointedName, hs]
  simpa using hn field hf

theorem Divergence.hasPointedName_of_whole {divergence : Divergence}
    (h : divergence.isWhole = true) : divergence.hasPointedName = false := by
  rw [hasPointedName, show divergence.subject = .whole from of_decide_eq_true h]

/-! ## The table of a section -/

/-- What a partial function gives for all members of a list is related to the members in order. -/
theorem forall₂_filterMap {α β : Type} {R : α → β → Prop} {f : α → Option β} {members : List α}
    (h : ∀ member ∈ members, ∃ value, f member = some value ∧ R member value) :
    List.Forall₂ R members (members.filterMap f) := by
  induction members with
  | nil => exact .nil
  | cons member rest ih =>
    obtain ⟨⟨value, hf, hr⟩, hrest⟩ := List.forall_mem_cons.1 h
    rw [List.filterMap_cons_some hf]
    exact .cons hr (ih hrest)

/-- A table that is built from members in order, where each adds its row or none, has the rows of
these members behind those that it had before. -/
theorem Table.rows_foldl {α : Type} {add : Table → α → Table} {row? : α → Option (List String)}
    (h : ∀ table member, (add table member).rows = table.rows ++ (row? member).toList)
    (members : List α) (table : Table) :
    (members.foldl add table).rows = table.rows ++ members.filterMap row? := by
  induction members generalizing table with
  | nil => simp
  | cons member rest ih =>
    rw [List.foldl_cons, ih, h, List.append_assoc, List.filterMap_cons]
    cases row? member <;> rfl

namespace ReportOptions

variable (options : ReportOptions)

/-- What marks the row of a field. -/
def mark (same : Bool) : String :=
  options.verdict same (if same then "ok" else "!=")

theorem mark_true_ne_mark_false : options.mark true ≠ options.mark false := by
  rw [mark, mark, verdict, verdict]
  cases options.color <;> decide

/-- The table has a row for each field of the host that the device has too, in order. -/
theorem rows_fieldTable (host device : Layout) :
    (options.fieldTable host device).rows =
      host.fields.filterMap fun field =>
        (device.field? field.name).map (options.fieldRow field) := by
  refine Table.rows_foldl (fun table field => ?_) host.fields _
  cases device.field? field.name with
  | none => exact (List.append_nil _).symm
  | some other => rfl

theorem headers_fieldTable (host device : Layout) :
    (options.fieldTable host device).headers =
      ["field", "type", "host off", "host size", "dev off", "dev size", ""] := by
  refine List.foldlRecOn (motive := fun table : Table => table.headers = _) host.fields _ rfl ?_
  intro table h field _
  cases device.field? field.name <;> exact h

theorem color_fieldTable (host device : Layout) :
    (options.fieldTable host device).color = options.color := by
  refine List.foldlRecOn (motive := fun table : Table => table.color = _) host.fields _ rfl ?_
  intro table h field _
  cases device.field? field.name <;> exact h

/-- A row has the name of its field first and the mark last. -/
theorem forall₂_rows {schema : Schema} (hd : schema.DistinctNames) (arith : Arithmetic)
    (host device : Policy) (nested : Bool) :
    let comparison := ((Comparator.fresh arith host device nested).compare schema).1
    List.Forall₂ (fun field row => row.head? = some field.name ∧
        row.getLast? = some (options.mark (comparison.agreesOn field.name)))
      schema.fields (options.fieldTable comparison.host comparison.device).rows := by
  intro comparison
  have hhost : comparison.host = schema.layout arith host := by
    rw [show comparison = _ from Comparator.compare_fresh ..]
  have hdevice : comparison.device = schema.layout arith device := by
    rw [show comparison = _ from Comparator.compare_fresh ..]
  let shows (name : String) (row : List String) : Prop :=
    row.head? = some name ∧ row.getLast? = some (options.mark (comparison.agreesOn name))
  have hrow : ∀ placed ∈ (schema.layout arith host).fields, ∃ row,
      ((schema.layout arith device).field? placed.name).map (options.fieldRow placed) = some row ∧
        shows placed.name row := by
    intro placed hm
    have hpartners := schema.partners hd.nodup arith host device
    obtain ⟨other, -, ho, -⟩ := exists_of_forall₂ hpartners.flip hm
    refine ⟨options.fieldRow placed other, by rw [ho, Option.map_some], rfl, ?_⟩
    rw [hd.agreesOn_eq arith host device nested hm ho]
    rfl
  have hplaced : List.Forall₂ (fun placed row => shows placed.name row)
      (schema.layout arith host).fields
      (options.fieldTable comparison.host comparison.device).rows := by
    rw [hhost, hdevice, rows_fieldTable]
    exact forall₂_filterMap hrow
  rw [← List.forall₂_map_left_iff (R := shows), schema.names_layout] at hplaced
  exact List.forall₂_map_left_iff.1 hplaced

/-- Every row is marked `ok` exactly if the comparison agrees on every own field. -/
theorem rows_ok_iff {schema : Schema} (hd : schema.DistinctNames) (arith : Arithmetic)
    (host device : Policy) (nested : Bool) :
    let comparison := ((Comparator.fresh arith host device nested).compare schema).1
    (∀ row ∈ (options.fieldTable comparison.host comparison.device).rows,
        row.getLast? = some (options.mark true)) ↔
      ∀ field ∈ schema.fields, comparison.agreesOn field.name = true := by
  intro comparison
  have hrows := options.forall₂_rows hd arith host device nested
  constructor
  · intro hok field hf
    obtain ⟨row, hr, -, hlast⟩ := exists_of_forall₂ hrows.flip hf
    rw [hok row hr, Option.some.injEq] at hlast
    by_contra hdiverges
    rw [Bool.not_eq_true] at hdiverges
    exact options.mark_true_ne_mark_false (hdiverges ▸ hlast)
  · intro hagrees row hr
    obtain ⟨field, hf, -, hlast⟩ := exists_of_forall₂ hrows hr
    rw [hlast, hagrees field hf]

/-- Without padding, a section has the status line, then the table if there are details, and then a
line for each divergence that is about a nested field or one with a point in its name. -/
theorem comparisonLines_of_no_padding (h : options.padding = false) (comparison : Comparison) :
    options.comparisonLines comparison =
      options.statusLine comparison
        ++ (if options.details then
          (options.fieldTable comparison.host comparison.device).text ++ "\n" else "")
        ++ String.join ((comparison.divergences.filter fun divergence =>
          divergence.isNested || divergence.hasPointedName).map (·.innerLine)) := by
  simp only [comparisonLines, Divergence.isInner_eq, h, Bool.false_eq_true, if_false,
    String.append_empty]

end ReportOptions

/-! ## The verdict of a section -/

section
variable {schema : Schema} (hd : schema.DistinctNames) (arith : Arithmetic) (host device : Policy)
  (nested : Bool)
include hd

/-- The struct as a whole diverges exactly if its sizes differ. -/
theorem Schema.DistinctNames.exists_isWhole_iff :
    (∃ divergence ∈ ((Comparator.fresh arith host device nested).compare schema).1.divergences,
        divergence.isWhole = true) ↔
      (schema.layout arith host).size ≠ (schema.layout arith device).size := by
  rw [hd.divergences_compare]
  constructor
  · rintro ⟨divergence, hm, hw⟩ hsize
    rcases List.mem_append.1 hm with hm | hm
    · rw [Site.isWhole_of_mem_differences (List.mem_of_mem_filter hm)] at hw
      cases hw
    · exact (Layout.mem_sizeDivergence?_iff.1 hm).1 hsize
  · intro hsize
    exact ⟨_, List.mem_append_right _ (Layout.mem_sizeDivergence?_iff.2 ⟨hsize, rfl⟩), rfl⟩

/-- Nothing diverges exactly if the comparison agrees on each own field, no divergence is about a
nested one, and the sizes are the same. -/
theorem Schema.DistinctNames.isEquivalent_iff :
    let comparison := ((Comparator.fresh arith host device nested).compare schema).1
    comparison.isEquivalent = true ↔
      (∀ field ∈ schema.fields, comparison.agreesOn field.name = true) ∧
      (∀ divergence ∈ comparison.divergences, divergence.isNested = false) ∧
      (schema.layout arith host).size = (schema.layout arith device).size := by
  intro comparison
  rw [Comparison.isEquivalent, List.isEmpty_iff]
  constructor
  · intro hnil
    refine ⟨fun field _ => by simp [Comparison.agreesOn, hnil], by simp [hnil], ?_⟩
    by_contra hsize
    obtain ⟨divergence, hm, -⟩ := (hd.exists_isWhole_iff arith host device nested).2 hsize
    exact List.not_mem_nil (hnil ▸ hm)
  · rintro ⟨hagrees, hnested, hsize⟩
    refine List.eq_nil_iff_forall_not_mem.2 fun divergence hm => ?_
    rcases divergence.isTopLevel_or with ht | hn | hw
    · have hshallow := (hd.mem_topLevel_iff arith host device nested ht).1 hm
      obtain ⟨field, hf, hs⟩ := Schema.subject_of_mem_shallow hshallow
      have hall := List.all_eq_true.1 (hagrees field hf) divergence hm
      exact of_decide_eq_true hall hs
    · rw [hnested divergence hm] at hn
      cases hn
    · exact (hd.exists_isWhole_iff arith host device nested).1 ⟨divergence, hm, hw⟩ hsize

/-- Where no own field has a point in its name, the divergences that get a line are those about
nested fields. -/
theorem Schema.DistinctNames.filter_isNested
    (hn : ∀ field ∈ schema.fields, '.' ∉ field.name.toList) :
    let comparison := ((Comparator.fresh arith host device nested).compare schema).1
    comparison.divergences.filter (fun divergence =>
        divergence.isNested || divergence.hasPointedName) =
      comparison.divergences.filter (·.isNested) := by
  intro comparison
  refine List.filter_congr fun divergence hm => ?_
  rcases divergence.isTopLevel_or with ht | hnested | hw
  · have hshallow := (hd.mem_topLevel_iff arith host device nested ht).1 hm
    rw [Divergence.hasPointedName_of_own hn (Schema.subject_of_mem_shallow hshallow),
      Bool.or_false]
  · rw [hnested, Bool.true_or]
  · rw [Divergence.hasPointedName_of_whole hw, Bool.or_false]

end

/-- A section with details and without padding accounts for the divergences of a comparison of a
registered struct. It has the status line, the table and some lines. The table has a row for each
field of the struct, in order, which is marked `!=` if a divergence is about this field and `ok`
otherwise. A line is printed for each divergence about a field in a nested struct, in order, and
for each about an own field with a point in its name; so where there are no such names, for none
about an own field. The status is a match exactly if every row is marked `ok`, no line is printed
and the two sizes in the status line are the same. -/
theorem ReportOptions.section_accounts {calls : List Schema} {schema : Schema}
    (hm : schema ∈ (Registry.empty.run calls).schemas) (arith : Arithmetic) (host device : Policy)
    (nested color : Bool) :
    let options : ReportOptions := ⟨color, true, false⟩
    let comparison := ((Comparator.fresh arith host device nested).compare schema).1
    let table := options.fieldTable comparison.host comparison.device
    let listed := comparison.divergences.filter fun divergence =>
      divergence.isNested || divergence.hasPointedName
    let status := if comparison.isEquivalent then "MATCH" else "DIVERGES"
    options.comparisonLines comparison =
      options.statusLine comparison ++ (table.text ++ "\n")
        ++ String.join (listed.map (·.innerLine)) ∧
    table.lines =
      [table.rule, table.line color table.headers, table.rule]
        ++ table.rows.map (table.line false) ++ [table.rule] ∧
    List.Forall₂ (fun field row => row.head? = some field.name ∧
        row.getLast? = some (options.mark (comparison.agreesOn field.name)))
      schema.fields table.rows ∧
    ((∀ field ∈ schema.fields, '.' ∉ field.name.toList) →
      listed = comparison.divergences.filter (·.isNested)) ∧
    options.statusLine comparison =
      s!"{schema.name} [{options.verdict comparison.isEquivalent status}] host {host.name} = "
        ++ s!"{comparison.host.size} bytes, device {device.name} = "
        ++ s!"{comparison.device.size} bytes\n" ∧
    (comparison.isEquivalent = true ↔
      (∀ row ∈ table.rows, row.getLast? = some (options.mark true)) ∧ listed = [] ∧
        comparison.host.size = comparison.device.size) := by
  intro options comparison table listed status
  have hgrown : Registry.Grown (Registry.empty.run calls).schemas := Registry.Grown.empty.run calls
  have hd := hgrown.distinctNames hm
  have hcomparison : comparison = _ := Comparator.compare_fresh arith host device nested schema
  have hhost : comparison.host = schema.layout arith host := by rw [hcomparison]
  have hdevice : comparison.device = schema.layout arith device := by rw [hcomparison]
  have hrows := options.forall₂_rows hd arith host device nested
  refine ⟨options.comparisonLines_of_no_padding rfl comparison, ?_, hrows,
    hd.filter_isNested arith host device nested, ?_, ?_⟩
  · have hheaders : table.headers ≠ [] := by
      rw [show table.headers = _ from options.headers_fieldTable _ _]
      exact List.cons_ne_nil _ _
    rw [Table.lines_of_headers hheaders, show table.color = color from options.color_fieldTable _ _]
  · have hname : comparison.name = schema.name := by rw [hcomparison]
    rw [statusLine, hname, hhost, hdevice, schema.policy_layout, schema.policy_layout]
  · have hok : (∀ row ∈ table.rows, row.getLast? = some (options.mark true)) ↔
        ∀ field ∈ schema.fields, comparison.agreesOn field.name = true :=
      options.rows_ok_iff hd arith host device nested
    have hverdict := hd.isEquivalent_iff arith host device nested
    rw [hok, hhost, hdevice]
    constructor
    · intro he
      obtain ⟨hagrees, -, hsize⟩ := hverdict.1 he
      have hnil : comparison.divergences = [] := List.isEmpty_iff.1 he
      exact ⟨hagrees, by simp [listed, hnil], hsize⟩
    · rintro ⟨hagrees, hlisted, hsize⟩
      refine hverdict.2 ⟨hagrees, fun divergence hdiv => ?_, hsize⟩
      have hunlisted := List.filter_eq_nil_iff.1 hlisted divergence hdiv
      rw [Bool.not_eq_true, Bool.or_eq_false_iff] at hunlisted
      exact hunlisted.1

/-- A struct that holds another one, behind a field that has a point in its name and does not
diverge. -/
def rig : Schema :=
  let lens : Schema := ⟨"Lens", [⟨"gain", .primitive .float, none⟩,
    ⟨"axis", .primitive .vector3, none⟩]⟩
  ⟨"Rig", [⟨"gain.x", .primitive .float, none⟩, ⟨"lens", .struct lens, none⟩]⟩

theorem ReportOptions.section_accounts_rig :
    let options : ReportOptions := ⟨false, true, false⟩
    let comparison := ((Comparator.fresh .word .natural .deviceVector true).compare rig).1
    let table := options.fieldTable comparison.host comparison.device
    rig ∈ (Registry.empty.run (rig.inside ++ [rig])).schemas ∧
    options.comparisonLines comparison =
      options.statusLine comparison ++ (table.text ++ "\n") ++
        ("  Rig.lens.gain: host @ 4 (4 bytes), device @ 16 (4 bytes) [+12]\n"
          ++ "  Rig.lens.axis: host @ 8 (12 bytes), device @ 32 (12 bytes) [+24]\n") ∧
    List.Forall₂ (fun field row => row.head? = some field.name ∧
        row.getLast? = some (options.mark (comparison.agreesOn field.name)))
      rig.fields table.rows ∧
    rig.fields.map (fun field => options.mark (comparison.agreesOn field.name)) = ["ok", "!="] := by
  intro options comparison table
  have hm : rig ∈ (Registry.empty.run (rig.inside ++ [rig])).schemas := by decide +kernel
  have h := ReportOptions.section_accounts hm .word .natural .deviceVector true false
  have hlines : String.join ((comparison.divergences.filter fun divergence =>
      divergence.isNested || divergence.hasPointedName).map (·.innerLine)) =
      "  Rig.lens.gain: host @ 4 (4 bytes), device @ 16 (4 bytes) [+12]\n"
        ++ "  Rig.lens.axis: host @ 8 (12 bytes), device @ 32 (12 bytes) [+24]\n" := by
    decide +kernel
  exact ⟨hm, h.1.trans (congrArg _ hlines), h.2.2.1, by decide +kernel⟩

/-- A registered struct without nested ones whose only divergent field has a point in its name. Its
divergence is shown by the mark of its row and by a line below. -/
theorem ReportOptions.line_for_own_field :
    let lens : Schema := ⟨"Lens", [⟨"gain", .primitive .float, none⟩,
      ⟨"axis.x", .primitive .vector3, none⟩]⟩
    let options : ReportOptions := ⟨false, true, false⟩
    let comparison := ((Comparator.fresh .word .natural .deviceVector false).compare lens).1
    let table := options.fieldTable comparison.host comparison.device
    lens ∈ (Registry.empty.run [lens]).schemas ∧
    (∀ divergence ∈ comparison.divergences, divergence.isNested = false) ∧
    table.rows.map (·.getLast?) = [some "ok", some "!="] ∧
    options.comparisonLines comparison =
      options.statusLine comparison ++ (table.text ++ "\n")
        ++ "  Lens.axis.x: host @ 4 (12 bytes), device @ 16 (12 bytes) [+12]\n" := by
  intro lens options comparison table
  have hlines : String.join ((comparison.divergences.filter fun divergence =>
      divergence.isNested || divergence.hasPointedName).map (·.innerLine)) =
      "  Lens.axis.x: host @ 4 (12 bytes), device @ 16 (12 bytes) [+12]\n" := by
    decide +kernel
  exact ⟨by decide +kernel, by decide +kernel, by decide +kernel,
    (options.comparisonLines_of_no_padding rfl comparison).trans (congrArg _ hlines)⟩

end LayoutParity
