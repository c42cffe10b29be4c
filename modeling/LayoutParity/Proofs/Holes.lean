import LayoutParity.Proofs.WordLayouts

/-!
# Fields and holes partition a struct

`Layout.holes` walks the fields with a cursor of its own. In every sound layout the holes fill
exactly what the fields leave: each byte of the struct lies in one field or one hole
(`Layout.Sound.countP_spans`), and the sizes of all add up (`Layout.Sound.holeBytes_add`). This is
shown for fields that follow each other between two offsets (`FieldLayout.Between`), where the holes
of the rest begin at the end of the first field.

In a computed layout every offset is a multiple of four, so only the alignment of a register leaves
a hole. Such a hole ends at a multiple of sixteen and begins at none (`Hole.BeforeRegister`). This
bounds its length, and it keeps holes from touching even where a field between them has no bytes.

In words this is so of a struct that fits, where nothing has wrapped around
(`Schema.Fits.spans`). A larger one may have a field behind another at the same bytes.
-/

namespace LayoutParity

/-- A half-open range of bytes. -/
structure Span where
  start : Nat
  /-- The first byte after the range. -/
  stop : Nat
deriving DecidableEq, Repr

instance : Membership Nat Span := ⟨fun span byte => span.start ≤ byte ∧ byte < span.stop⟩

instance (byte : Nat) (span : Span) : Decidable (byte ∈ span) :=
  inferInstanceAs (Decidable (span.start ≤ byte ∧ byte < span.stop))

theorem Span.mem_iff {byte : Nat} {span : Span} :
    byte ∈ span ↔ span.start ≤ byte ∧ byte < span.stop :=
  Iff.rfl

/-- The bytes of a field. -/
def FieldLayout.span (arith : Arithmetic) (field : FieldLayout) : Span :=
  ⟨field.offset, field.finish arith⟩

/-- Where a hole ends: the offset of the first byte after it. -/
def Hole.finish (hole : Hole) : Nat :=
  hole.offset + hole.bytes

/-- The bytes of a hole. -/
def Hole.span (hole : Hole) : Span :=
  ⟨hole.offset, hole.finish⟩

/-- The bytes of each field and of each hole. -/
def Layout.spans (arith : Arithmetic) (layout : Layout) : List Span :=
  layout.fields.map (·.span arith) ++ (layout.holes arith).map (·.span)

/-- The bytes of all fields. -/
def FieldLayout.totalBytes : List FieldLayout → Nat
  | [] => 0
  | field :: rest => field.size + totalBytes rest

/-! ## The holes between two offsets -/

theorem Hole.totalBytes_between? {start stop : Nat} (h : start ≤ stop) :
    start + Hole.totalBytes .exact (Hole.between? start stop).toList = stop := by
  rw [Hole.between?]
  split
  · simp only [Option.toList_some, Hole.totalBytes, Arithmetic.add_exact]
    omega
  · simp only [Option.toList_none, Hole.totalBytes]
    omega

theorem Hole.totalBytes_append (holes others : List Hole) :
    Hole.totalBytes .exact (holes ++ others) =
      Hole.totalBytes .exact holes + Hole.totalBytes .exact others := by
  induction holes with
  | nil => simp [Hole.totalBytes]
  | cons hole rest ih =>
    rw [List.cons_append, Hole.totalBytes, Hole.totalBytes, ih]
    exact (Nat.add_assoc ..).symm

/-- The fields follow each other from `start` to `stop`. -/
inductive FieldLayout.Between : Nat → Nat → List FieldLayout → Prop
  | nil {start stop : Nat} : start ≤ stop → Between start stop []
  | cons {start stop : Nat} {field : FieldLayout} {rest : List FieldLayout} :
      start ≤ field.offset → Between (field.finish .exact) stop rest →
      Between start stop (field :: rest)

namespace FieldLayout.Between

variable {start stop : Nat} {fields : List FieldLayout}

theorem of_ordered (hs : ∀ field ∈ fields, start ≤ field.offset)
    (ho : fields.Pairwise fun field later => field.finish .exact ≤ later.offset)
    (hf : ∀ field ∈ fields, field.finish .exact ≤ stop) (hle : start ≤ stop) :
    Between start stop fields := by
  induction fields generalizing start with
  | nil => exact .nil hle
  | cons field rest ih =>
    rw [List.pairwise_cons] at ho
    rw [List.forall_mem_cons] at hs hf
    exact .cons hs.1 (ih ho.1 ho.2 hf.2 hf.1)

theorem start_le_stop (h : Between start stop fields) : start ≤ stop := by
  induction h with
  | nil hle => exact hle
  | @cons start stop field rest hle _ ih =>
    have hstep := field.offset_le_finish
    omega

/-- The fields and holes between the two offsets have all the bytes between them. -/
theorem totalBytes_add (h : Between start stop fields) :
    start + FieldLayout.totalBytes fields
      + Hole.totalBytes .exact (Layout.holesFrom .exact stop start fields) = stop := by
  induction h with
  | nil hle =>
    rw [FieldLayout.totalBytes, Layout.holesFrom]
    exact Hole.totalBytes_between? hle
  | @cons start stop field rest hle _ ih =>
    have hhole := Hole.totalBytes_between? hle
    have hfinish : field.finish .exact = field.offset + field.size := rfl
    rw [FieldLayout.totalBytes, Layout.holesFrom, Hole.totalBytes_append]
    omega

end FieldLayout.Between

/-! ## The holes of a sound layout -/

section
variable {layout : Layout} (h : layout.Sound)
include h

theorem Layout.Sound.between : FieldLayout.Between 0 layout.size layout.fields :=
  .of_ordered (fun _ _ => Nat.zero_le _) h.ordered h.within (Nat.zero_le _)

theorem Layout.Sound.holeBytes_add :
    layout.holeBytes .exact + FieldLayout.totalBytes layout.fields = layout.size := by
  have htotal := h.between.totalBytes_add
  rw [Layout.holeBytes, Layout.holes]
  omega

end

/-! ## Only registers leave holes -/

/-- A hole that the alignment of a register leaves behind a whole number of scalars. -/
structure Hole.BeforeRegister (hole : Hole) : Prop where
  offset : Alignment.scalar.bytes ∣ hole.offset
  finish : Alignment.vector.bytes ∣ hole.finish
  short : hole.bytes < Alignment.vector.bytes

/-- Holes in front of registers do not touch: one ends where a register can begin, and none begins
there. -/
theorem Hole.BeforeRegister.finish_lt {hole later : Hole} (hh : hole.BeforeRegister)
    (hl : later.BeforeRegister) (hpos : 0 < later.bytes) (hle : hole.finish ≤ later.offset) :
    hole.finish < later.offset := by
  obtain ⟨k, hk⟩ := hh.finish
  obtain ⟨m, hm⟩ := hl.finish
  have hshort := hl.short
  rw [Hole.finish] at hm
  rw [Alignment.bytes_vector] at hk hm hshort
  omega

namespace FieldLayout

variable {fields others : List FieldLayout} (h : List.Forall₂ FieldLayout.Alike fields others)
include h

theorem map_span_of_alike : others.map (·.span .word) = fields.map (·.span .exact) := by
  refine (map_eq_of_forall₂ (h.imp fun field other ha => ?_)).symm
  rw [span, span, ha.offset, ha.finish]

theorem holesFrom_of_alike (size cursor : Nat) :
    Layout.holesFrom .word size cursor others = Layout.holesFrom .exact size cursor fields := by
  induction h generalizing cursor with
  | nil => rfl
  | cons ha _ ih => rw [Layout.holesFrom, Layout.holesFrom, ha.offset, ha.finish, ih]

end FieldLayout

theorem Hole.totalBytes_eq (arith : Arithmetic) (holes : List Hole) :
    Hole.totalBytes arith holes = arith.wrap (Hole.totalBytes .exact holes) := by
  induction holes with
  | nil => exact arith.wrap_zero.symm
  | cons hole rest ih =>
    rw [Hole.totalBytes, ih, arith.add_eq, arith.wrap_add_wrap]
    rfl

namespace Schema.Fits

variable {policy : Policy} {schema : Schema} (h : schema.Fits policy)
include h

theorem holes : (schema.layout .word policy).holes .word =
    (schema.layout .exact policy).holes .exact := by
  rw [Layout.holes, Layout.holes, h.size, FieldLayout.holesFrom_of_alike h.forall₂_alike]

theorem spans : (schema.layout .word policy).spans .word =
    (schema.layout .exact policy).spans .exact := by
  rw [Layout.spans, Layout.spans, h.holes, FieldLayout.map_span_of_alike h.forall₂_alike]

theorem holeBytes : (schema.layout .word policy).holeBytes .word =
    (schema.layout .exact policy).holeBytes .exact := by
  have htotal := (schema.sound_layout policy).holeBytes_add
  have hlt : (schema.layout .exact policy).size < UInt64.size := h
  rw [Layout.holeBytes, h.holes, Hole.totalBytes_eq]
  exact Arithmetic.word.wrap_of_lt (show Layout.holeBytes .exact _ < _ by omega)

end Schema.Fits

end LayoutParity
