import LayoutParity.Layout.Soundness
import LayoutParity.Proofs.NestedLayouts
import LayoutParity.Proofs.Placement
import LayoutParity.Proofs.WellFormed

/-!
# The layouts that the check accepts

`Layout.Sound` says what a layout has to be on its own: its fields are aligned, follow each other
and fit into the struct. The check compares each field with its predecessor only, and the size with
the last field only; that this is enough for all pairs and all fields is
`FieldLayout.firstDefect?_eq_none_iff` and `FieldLayout.lastFinish_le_iff`.

The layouts in a layout are checked one after the other, each before those nested in it
(`Layout.validate_eq_forM`). So the check accepts exactly the layouts that are sound at every depth
(`Layout.validate_eq_ok_iff`), and it reports the first that is not sound
(`Check.forM_eq_error_iff`).

Placing blocks aligns them and keeps them apart, so a computed layout is sound on its own
(`Schema.sound_layout`), as are the layouts in it, which are computed too.
-/

namespace LayoutParity

/-- A layout whose fields are aligned, follow each other and fit into the struct. -/
structure Layout.Sound (layout : Layout) : Prop where
  aligned : ∀ field ∈ layout.fields, field.alignment.bytes ∣ field.offset
  ordered : layout.fields.Pairwise fun field later => field.finish .exact ≤ later.offset
  within : ∀ field ∈ layout.fields, field.finish .exact ≤ layout.size
  noStricter : ∀ field ∈ layout.fields, field.alignment ≤ layout.alignment
  rounded : layout.alignment.bytes ∣ layout.size

/-! ## What the check finds in the fields -/

theorem FieldLayout.offset_le_finish (field : FieldLayout) : field.offset ≤ field.finish .exact :=
  Nat.le_add_right ..

theorem FieldLayout.defect?_eq_none_iff (alignment : Alignment) (previousEnd : Nat)
    (field : FieldLayout) :
    field.defect? alignment previousEnd = none ↔
      field.alignment.bytes ∣ field.offset ∧ previousEnd ≤ field.offset ∧
        field.alignment ≤ alignment := by
  rw [FieldLayout.defect?, ite_some_eq_none_iff, ite_some_eq_none_iff, ite_some_eq_none_iff,
    Bool.not_eq_true', Bool.not_eq_false, Alignment.isAligned_iff, Nat.not_lt, Decidable.not_not]
  simp

/-- Fields that each begin after their predecessor ends begin after every field before them. -/
theorem FieldLayout.firstDefect?_eq_none_iff (alignment : Alignment) (previousEnd : Nat)
    (fields : List FieldLayout) :
    FieldLayout.firstDefect? .exact alignment previousEnd fields = none ↔
      (∀ field ∈ fields, field.alignment.bytes ∣ field.offset ∧ previousEnd ≤ field.offset ∧
        field.alignment ≤ alignment) ∧
      fields.Pairwise fun field later => field.finish .exact ≤ later.offset := by
  induction fields generalizing previousEnd with
  | nil => simp [FieldLayout.firstDefect?]
  | cons field rest ih =>
    rw [FieldLayout.firstDefect?, Option.or_eq_none_iff, FieldLayout.defect?_eq_none_iff, ih,
      List.forall_mem_cons, List.pairwise_cons]
    constructor
    · rintro ⟨hfield, hrest, hordered⟩
      refine ⟨⟨hfield, fun later hl => ?_⟩, fun later hl => (hrest later hl).2.1, hordered⟩
      obtain ⟨ha, hafter, hs⟩ := hrest later hl
      have hstep := field.offset_le_finish
      exact ⟨ha, Nat.le_trans hfield.2.1 (Nat.le_trans hstep hafter), hs⟩
    · rintro ⟨⟨hfield, hrest⟩, hafter, hordered⟩
      refine ⟨hfield, fun later hl => ?_, hordered⟩
      obtain ⟨ha, -, hs⟩ := hrest later hl
      exact ⟨ha, hafter later hl, hs⟩

/-- A bound of the end of the last field is one of the ends of all fields. -/
theorem FieldLayout.lastFinish_le_iff {cursor bound : Nat} {fields : List FieldLayout}
    (hc : ∀ field ∈ fields, cursor ≤ field.offset)
    (ho : fields.Pairwise fun field later => field.finish .exact ≤ later.offset) :
    FieldLayout.lastFinish .exact cursor fields ≤ bound ↔
      cursor ≤ bound ∧ ∀ field ∈ fields, field.finish .exact ≤ bound := by
  induction fields generalizing cursor with
  | nil => simp [FieldLayout.lastFinish]
  | cons field rest ih =>
    rw [List.pairwise_cons] at ho
    rw [FieldLayout.lastFinish, ih ho.1 ho.2, List.forall_mem_cons]
    have hcursor := hc field (.head _)
    have hstep := field.offset_le_finish
    constructor
    · rintro ⟨hf, hrest⟩
      exact ⟨by omega, hf, hrest⟩
    · rintro ⟨-, hf, hrest⟩
      exact ⟨hf, hrest⟩

theorem FieldLayout.finish_le_lastFinish {fields : List FieldLayout}
    (ho : fields.Pairwise fun field later => field.finish .exact ≤ later.offset)
    {field : FieldLayout} (hf : field ∈ fields) :
    field.finish .exact ≤ FieldLayout.lastFinish .exact 0 fields := by
  have hstart : ∀ field ∈ fields, 0 ≤ field.offset := fun _ _ => Nat.zero_le _
  have hall := (FieldLayout.lastFinish_le_iff hstart ho).1 (Nat.le_refl _)
  exact hall.2 field hf

/-! ## What the check accepts -/

theorem Layout.ownDefect?_eq_none_iff (layout : Layout) :
    layout.ownDefect? .exact = none ↔ layout.Sound := by
  have hstart : ∀ field ∈ layout.fields, 0 ≤ field.offset := fun _ _ => Nat.zero_le _
  rw [Layout.ownDefect?, Option.or_eq_none_iff, FieldLayout.firstDefect?_eq_none_iff]
  dsimp only
  rw [ite_some_eq_none_iff, ite_some_eq_none_iff, Nat.not_lt, Bool.not_eq_true', Bool.not_eq_false,
    Alignment.isAligned_iff]
  constructor
  · rintro ⟨⟨hfields, hordered⟩, hlast, hrounded, -⟩
    have hwithin := (FieldLayout.lastFinish_le_iff hstart hordered).1 hlast
    exact ⟨fun field hf => (hfields field hf).1, hordered, hwithin.2,
      fun field hf => (hfields field hf).2.2, hrounded⟩
  · intro h
    refine ⟨⟨fun field hf => ?_, h.ordered⟩, ?_, h.rounded, rfl⟩
    · exact ⟨h.aligned field hf, Nat.zero_le _, h.noStricter field hf⟩
    · exact (FieldLayout.lastFinish_le_iff hstart h.ordered).2 ⟨Nat.zero_le _, h.within⟩

instance (layout : Layout) : Decidable layout.Sound :=
  decidable_of_iff (layout.ownDefect? .exact = none) layout.ownDefect?_eq_none_iff

theorem Layout.validateOwn_eq_ok_iff (layout : Layout) :
    layout.validateOwn .exact = .ok () ↔ layout.Sound := by
  rw [← Layout.ownDefect?_eq_none_iff, Layout.validateOwn]
  cases layout.ownDefect? .exact <;> simp

/-- Two checks in a row are passed if both are. -/
theorem Check.bind_eq_ok_iff {first second : Check} :
    (first >>= fun _ => second) = .ok () ↔ first = .ok () ∧ second = .ok () := by
  cases first <;> simp [bind, Except.bind]

/-- A check of every member of a list is passed if each of them passes it. -/
theorem Check.forM_eq_ok_iff {α : Type} {check : α → Check} {members : List α} :
    members.forM check = .ok () ↔ ∀ member ∈ members, check member = .ok () := by
  induction members with
  | nil => simp [List.forM, pure, Except.pure]
  | cons member rest ih =>
    show (check member >>= fun _ => rest.forM check) = .ok () ↔ _
    rw [Check.bind_eq_ok_iff, ih, List.forall_mem_cons]

/-- A check of every member of a list fails with the problem of the first that does not pass. -/
theorem Check.forM_eq_error_iff {α : Type} {check : α → Check} {members : List α}
    {problem : Problem} :
    members.forM check = .error problem ↔
      ∃ before member after, members = before ++ member :: after ∧
        (∀ passed ∈ before, check passed = .ok ()) ∧ check member = .error problem := by
  induction members with
  | nil => simp [List.forM, pure, Except.pure]
  | cons member rest ih =>
    show (check member >>= fun _ => rest.forM check) = .error problem ↔ _
    cases hc : check member with
    | error own =>
      constructor
      · intro h
        exact ⟨[], member, rest, rfl, List.forall_mem_nil _, hc.trans h⟩
      · rintro ⟨before, refused, after, heq, hbefore, hrefused⟩
        cases before with
        | nil =>
          obtain ⟨rfl, -⟩ := List.cons.inj heq
          exact hc.symm.trans hrefused
        | cons passed before =>
          obtain ⟨rfl, -⟩ := List.cons.inj heq
          have hpassed := hbefore _ (.head _)
          rw [hc] at hpassed
          cases hpassed
    | ok _ =>
      show rest.forM check = .error problem ↔ _
      rw [ih]
      constructor
      · rintro ⟨before, refused, after, rfl, hbefore, hrefused⟩
        exact ⟨member :: before, refused, after, rfl, List.forall_mem_cons.2 ⟨hc, hbefore⟩,
          hrefused⟩
      · rintro ⟨before, refused, after, heq, hbefore, hrefused⟩
        cases before with
        | nil =>
          obtain ⟨rfl, -⟩ := List.cons.inj heq
          rw [hc] at hrefused
          cases hrefused
        | cons passed before =>
          obtain ⟨rfl, rfl⟩ := List.cons.inj heq
          exact ⟨before, refused, after, rfl, (List.forall_mem_cons.1 hbefore).2, hrefused⟩

mutual

/-- The layouts in a layout are checked one after the other, each before those nested in it. -/
theorem Layout.validate_eq_forM (arith : Arithmetic) : ∀ layout : Layout,
    layout.validate arith = layout.layouts.forM (Layout.validateOwn arith)
  | ⟨name, policy, fields, dataSize, size, alignment⟩ => by
    rw [Layout.validate, Layout.layouts, FieldLayout.validateNested_eq_forM arith fields]
    rfl

/-- `Layout.validate_eq_forM` for the layouts nested in some fields. -/
theorem FieldLayout.validateNested_eq_forM (arith : Arithmetic) : ∀ fields : List FieldLayout,
    FieldLayout.validateNested arith fields =
      (FieldLayout.layoutsOfAll fields).forM (Layout.validateOwn arith)
  | [] => by
    rw [FieldLayout.validateNested, FieldLayout.layoutsOfAll]
    rfl
  | field :: rest => by
    rw [FieldLayout.validateNested, FieldLayout.validateInside_eq_forM arith field,
      FieldLayout.validateNested_eq_forM arith rest, FieldLayout.layoutsOfAll]
    exact List.forM_append.symm

/-- `Layout.validate_eq_forM` for the layouts nested in a field. -/
theorem FieldLayout.validateInside_eq_forM (arith : Arithmetic) : ∀ field : FieldLayout,
    field.validateInside arith = field.layouts.forM (Layout.validateOwn arith)
  | ⟨_, _, _, _, _, nested?⟩ => by
    rw [FieldLayout.validateInside, FieldLayout.layouts, Layout.validate?_eq_forM arith nested?]

/-- `Layout.validate_eq_forM` where there may be no layout. -/
theorem Layout.validate?_eq_forM (arith : Arithmetic) : ∀ layout? : Option Layout,
    Layout.validate? arith layout? = (Layout.layouts? layout?).forM (Layout.validateOwn arith)
  | none => by
    rw [Layout.validate?, Layout.layouts?]
    rfl
  | some layout => by
    rw [Layout.validate?, Layout.layouts?, Layout.validate_eq_forM arith layout]

end

/-- The check accepts exactly the layouts that are sound at every depth. -/
theorem Layout.validate_eq_ok_iff (layout : Layout) :
    layout.validate .exact = .ok () ↔ ∀ inner ∈ layout.layouts, inner.Sound := by
  simp only [Layout.validate_eq_forM, Check.forM_eq_ok_iff, Layout.validateOwn_eq_ok_iff]

theorem Layout.validateOwn_eq_error_iff {layout : Layout} {problem : Problem} :
    layout.validateOwn .exact = .error problem ↔
      ∃ defect, layout.ownDefect? .exact = some defect ∧
        problem = .unsoundLayout layout.name defect := by
  rw [Layout.validateOwn]
  cases layout.ownDefect? .exact <;> simp [eq_comm]

/-- What the check says of any layout, computed or not. It accepts the layout exactly if at every
depth each field stands at a multiple of its alignment, of any two fields the earlier one ends
before the later one begins, every field ends within the size and is no more aligned than the
struct, and the size is a multiple of the struct's alignment. It refuses the others with the defect
of the first layout that is not sound, where each layout comes before those nested in it. -/
theorem Layout.accepted_exactly_if_sound (layout : Layout) :
    (layout.validate .exact = .ok () ↔ ∀ inner ∈ layout.layouts,
      (∀ field ∈ inner.fields, field.alignment.bytes ∣ field.offset) ∧
      (∀ i j (hij : i < j) (hj : j < inner.fields.length),
        inner.fields[i].finish .exact ≤ inner.fields[j].offset) ∧
      (∀ field ∈ inner.fields, field.finish .exact ≤ inner.size) ∧
      (∀ field ∈ inner.fields, field.alignment.bytes ≤ inner.alignment.bytes) ∧
      inner.alignment.bytes ∣ inner.size) ∧
    ∀ problem, layout.validate .exact = .error problem ↔
      ∃ before inner after defect, layout.layouts = before ++ inner :: after ∧
        (∀ accepted ∈ before, accepted.Sound) ∧ inner.ownDefect? .exact = some defect ∧
        problem = .unsoundLayout inner.name defect := by
  constructor
  · rw [Layout.validate_eq_ok_iff]
    refine forall₂_congr fun inner _ => ?_
    constructor
    · intro h
      refine ⟨h.aligned, fun i j hij hj => ?_, h.within, fun field hf => ?_, h.rounded⟩
      · exact List.pairwise_iff_getElem.1 h.ordered i j (by omega) hj hij
      · exact Alignment.bytes_le_bytes_iff.2 (h.noStricter field hf)
    · rintro ⟨haligned, hpairs, hwithin, hstrict, hrounded⟩
      refine ⟨haligned, ?_, hwithin, fun field hf => ?_, hrounded⟩
      · exact List.pairwise_iff_getElem.2 fun i j _ hj hij => hpairs i j hij hj
      · exact Alignment.bytes_le_bytes_iff.1 (hstrict field hf)
  · intro problem
    simp only [Layout.validate_eq_forM, Check.forM_eq_error_iff, Layout.validateOwn_eq_ok_iff,
      Layout.validateOwn_eq_error_iff]
    constructor
    · rintro ⟨before, inner, after, hall, hbefore, defect, hdefect, hproblem⟩
      exact ⟨before, inner, after, defect, hall, hbefore, hdefect, hproblem⟩
    · rintro ⟨before, inner, after, defect, hall, hbefore, hdefect, hproblem⟩
      exact ⟨before, inner, after, hall, hbefore, defect, hdefect, hproblem⟩

/-! ## Placed blocks are sound -/

/-- Blocks are placed at multiples of their alignments, each after the one before it ends. -/
theorem FieldLayout.placeFrom_ordered (cursor : Nat) (blocks : List Block) :
    (∀ placed ∈ FieldLayout.placeFrom .exact cursor blocks,
      placed.alignment.bytes ∣ placed.offset ∧ cursor ≤ placed.offset) ∧
    (FieldLayout.placeFrom .exact cursor blocks).Pairwise fun placed later =>
      placed.finish .exact ≤ later.offset := by
  induction blocks generalizing cursor with
  | nil => exact ⟨List.forall_mem_nil _, .nil⟩
  | cons block rest ih =>
    rw [FieldLayout.placeFrom]
    have hle := block.extent.alignment.le_roundUp cursor
    obtain ⟨hrest, hordered⟩ := ih (block.extent.alignment.roundUp cursor + block.extent.size)
    refine ⟨fun placed hm => ?_, .cons (fun later hl => (hrest later hl).2) hordered⟩
    rcases List.mem_cons.1 hm with rfl | hm
    · exact ⟨Alignment.bytes_dvd_roundUp .., hle⟩
    · obtain ⟨ha, hafter⟩ := hrest placed hm
      exact ⟨ha, by omega⟩

/-- A computed layout is sound on its own. -/
theorem Schema.sound_layout (policy : Policy) (schema : Schema) :
    (schema.layout .exact policy).Sound := by
  obtain ⟨hplaced, hordered⟩ :=
    FieldLayout.placeFrom_ordered 0 (schema.fields.map (Field.block .exact policy))
  rw [← Schema.fields_layout] at hplaced hordered
  have hsize := schema.dataSize_le_size policy
  rw [Schema.dataSize_eq] at hsize
  exact {
    aligned := fun field hf => (hplaced field hf).1
    ordered := hordered
    within := fun _ hf => Nat.le_trans (FieldLayout.finish_le_lastFinish hordered hf) hsize
    noStricter := fun _ hf => schema.field_alignment_le .exact policy hf
    rounded := schema.alignment_dvd_size .exact policy }

/-- No layout that is computed with exact numbers is refused, whatever the declaration: the check
passes, and in the layout of the struct and of every struct in it each field is aligned, begins
after the fields before it have ended, ends within the size and is no more aligned than the struct,
whose size is a multiple of its alignment. -/
theorem Schema.validate_layout (policy : Policy) (schema : Schema) :
    (schema.layout .exact policy).validate .exact = .ok () ∧
    (∀ layout ∈ (schema.layout .exact policy).layouts, layout.Sound) ∧
    (schema.layout .exact policy).layouts = schema.structs.map (Schema.layout .exact policy) := by
  have hsound : ∀ layout ∈ (schema.layout .exact policy).layouts, layout.Sound :=
    Schema.forall_mem_layouts .exact policy (Schema.sound_layout policy) schema
  exact ⟨(Layout.validate_eq_ok_iff _).2 hsound, hsound, schema.layouts_layout .exact policy⟩

/-- A layout that was not computed may be refused: here the second field begins inside the first. -/
example : ¬ Layout.Sound ⟨"Overlap", .natural, [⟨"axis", .primitive .vector3, 0, 12, .scalar, none⟩,
    ⟨"angle", .primitive .float, 8, 4, .scalar, none⟩], 12, 12, .scalar⟩ := by
  decide

end LayoutParity
