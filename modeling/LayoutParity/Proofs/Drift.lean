import LayoutParity.Proofs.Mirror
import LayoutParity.Proofs.NaturalHost
import Mathlib.Tactic.Ring

/-!
# Drift against a tightly packed host

A tightly packed host leaves no gap, so on the way through a struct the device can only fall
further ahead of it: it skips bytes before a field and never catches up. `Site.drifts` lists how far
it is ahead at each field of the flat layouts, and these numbers rise from zero to the difference of
the sizes (`Schema.rising_drifts`). Inside a nested struct they rise from where its field began, and
from one element of an array to the next by the difference of the struct's sizes, so that the last
element ends where the next field may begin.

The divergences of a comparison are some of these fields in the same order, so what they show of the
drift rises as well. In words they are fewer still, as long as the struct fits into a word on the
device; there the drift of a larger struct may fall.
-/

namespace LayoutParity

/-- Numbers between two bounds of which none is less than the one before it. -/
structure Rising (low high : Int) (numbers : List Int) : Prop where
  sorted : numbers.Pairwise (· ≤ ·)
  bounds : ∀ number ∈ numbers, low ≤ number ∧ number ≤ high
  le : low ≤ high

namespace Rising

variable {low middle high : Int} {numbers others : List Int}

theorem nil (h : low ≤ high) : Rising low high [] :=
  ⟨.nil, List.forall_mem_nil _, h⟩

theorem append (h : Rising low middle numbers) (h' : Rising middle high others) :
    Rising low high (numbers ++ others) := by
  refine ⟨List.pairwise_append.2 ⟨h.sorted, h'.sorted, ?_⟩, ?_, Int.le_trans h.le h'.le⟩
  · intro number hn other ho
    exact Int.le_trans (h.bounds number hn).2 (h'.bounds other ho).1
  · intro number hm
    rcases List.mem_append.1 hm with hm | hm
    · obtain ⟨hlow, hmiddle⟩ := h.bounds number hm
      exact ⟨hlow, Int.le_trans hmiddle h'.le⟩
    · obtain ⟨hmiddle, hhigh⟩ := h'.bounds number hm
      exact ⟨Int.le_trans h.le hmiddle, hhigh⟩

theorem cons {first : Int} (hf : low ≤ first) (h : Rising first high numbers) :
    Rising low high (first :: numbers) := by
  have hfirst : Rising low first [first] := by
    refine ⟨List.pairwise_singleton .., ?_, hf⟩
    intro number hm
    obtain rfl := List.mem_singleton.1 hm
    exact ⟨hf, Int.le_refl _⟩
  exact hfirst.append h

theorem weaken {lower higher : Int} (h : Rising low high numbers) (hl : lower ≤ low)
    (hh : high ≤ higher) : Rising lower higher numbers := by
  refine ⟨h.sorted, ?_, Int.le_trans hl (Int.le_trans h.le hh)⟩
  intro number hn
  obtain ⟨hlow, hhigh⟩ := h.bounds number hn
  exact ⟨Int.le_trans hl hlow, Int.le_trans hhigh hh⟩

theorem shift (h : Rising low high numbers) (distance : Int) :
    Rising (low + distance) (high + distance) (numbers.map (· + distance)) := by
  refine ⟨?_, ?_, Int.add_le_add_right h.le _⟩
  · exact List.pairwise_map.2 (h.sorted.imp fun hle => Int.add_le_add_right hle _)
  · intro number hm
    obtain ⟨number, hn, rfl⟩ := List.mem_map.1 hm
    obtain ⟨hlow, hhigh⟩ := h.bounds number hn
    exact ⟨Int.add_le_add_right hlow _, Int.add_le_add_right hhigh _⟩

/-- Parts in a row, each rising by the same step. -/
theorem flatMap_range {step : Int} {count : Nat} {part : Nat → List Int}
    (h : ∀ index : Nat, Rising (low + index * step) (low + index * step + step) (part index)) :
    Rising low (low + count * step) ((List.range count).flatMap part) := by
  induction count with
  | zero => exact .nil (by simp)
  | succ count ih =>
    have hstep : low + (count + 1 : Nat) * step = low + count * step + step := by
      rw [Int.natCast_add, Int.add_mul, Int.natCast_one, Int.one_mul, Int.add_assoc]
    rw [List.range_succ, List.flatMap_append, List.flatMap_singleton, hstep]
    exact ih.append (h count)

/-- Leaving some of the numbers out makes no difference. -/
theorem sublist (h : Rising low high numbers) (hs : others.Sublist numbers) :
    Rising low high others :=
  ⟨h.sorted.sublist hs, fun number hm => h.bounds number (hs.subset hm), h.le⟩

end Rising

/-! ## The drifts of two flat layouts -/

namespace Site

/-- How far each site of the device is ahead of the host's at the same position. -/
def drifts (hosts devices : List Site) : List Int :=
  List.zipWith (fun host device => (device.offset : Int) - host.offset) hosts devices

theorem drifts_append {hosts devices : List Site} (h : hosts.length = devices.length)
    (hosts' devices' : List Site) :
    drifts (hosts ++ hosts') (devices ++ devices') =
      drifts hosts devices ++ drifts hosts' devices' :=
  List.zipWith_append h

theorem drifts_flatMap {α : Type} {f g : α → List Site} (members : List α)
    (h : ∀ member, (f member).length = (g member).length) :
    drifts (members.flatMap f) (members.flatMap g) =
      members.flatMap fun member => drifts (f member) (g member) := by
  induction members with
  | nil => rfl
  | cons member rest ih =>
    rw [List.flatMap_cons, List.flatMap_cons, List.flatMap_cons, drifts_append (h member), ih]

/-- Inside structs that begin at these distances all drifts grow by how far these are apart. -/
theorem drifts_inside (steps : List Step) (distance later : Nat) (hosts devices : List Site) :
    drifts (hosts.map (·.inside .exact steps distance))
        (devices.map (·.inside .exact steps later)) =
      (drifts hosts devices).map (· + ((later : Int) - distance)) := by
  rw [drifts, drifts, List.zipWith_map, List.map_zipWith]
  congr 1
  funext host device
  simp only [inside, Arithmetic.add_exact]
  omega

/-- What differences show of the drift is part of it. -/
theorem map_drift_differences_sublist (struct : String) (hosts devices : List Site) :
    ((differences struct hosts devices).map (·.drift)).Sublist (drifts hosts devices) := by
  have h : drifts hosts devices =
      (hosts.zip devices).map fun pair => (pair.2.offset : Int) - pair.1.offset := by
    rw [drifts, List.zip_eq_zipWith, List.map_zipWith]
  rw [differences, List.map_map, h]
  exact List.filter_sublist.map _

end Site

/-! ## Drifts rise through a struct -/

/-- Through the elements of a field the drift rises by the difference of the sizes of the struct for
each of them, if it rises by this difference through the struct. -/
theorem Layout.rising_drifts_flatElements (name : String) (type : FieldType) (offset later : Nat)
    {host device : Layout} (hl : (host.flat .exact).length = (device.flat .exact).length)
    (h : Rising 0 ((device.size : Int) - host.size)
      (Site.drifts (host.flat .exact) (device.flat .exact))) :
    Rising ((later : Int) - offset)
      ((later : Int) - offset + type.elementCount .exact * ((device.size : Int) - host.size))
      (Site.drifts (Layout.flatElements .exact name type offset (some host))
        (Layout.flatElements .exact name type later (some device))) := by
  rw [Layout.flatElements, Layout.flatElements, Site.drifts_flatMap _ fun index => by simp [hl]]
  refine .flatMap_range fun index => ?_
  rw [Site.drifts_inside, Arithmetic.add_exact, Arithmetic.add_exact, Arithmetic.mul_exact,
    Arithmetic.mul_exact]
  -- Element `index` begins further ahead by what the elements before it are larger.
  have hshift := h.shift
    (((later + index * device.size : Nat) : Int) - (offset + index * host.size : Nat))
  convert hshift using 1 <;> push_cast <;> ring

/-- From the beginning of the struct to its end the device falls further ahead of a tightly packed
host. -/
def Schema.DriftRises (device : Policy) (schema : Schema) : Prop :=
  Rising 0 ((schema.layout .exact device).size - (schema.layout .exact .natural).size)
    (Site.drifts ((schema.layout .exact .natural).flat .exact)
      ((schema.layout .exact device).flat .exact))

/-- Through a field and its elements the drift rises from where the field begins to where it ends,
if it rises through the struct that the field holds. -/
theorem Field.LaidOut.rising_drifts {device : Policy} {field : Field} {placed other : FieldLayout}
    (hp : field.LaidOut .exact .natural placed) (ho : field.LaidOut .exact device other)
    (ih : ∀ inner, field.fullType.nested? = some inner → inner.DriftRises device) :
    Rising ((other.offset : Int) - placed.offset)
      ((other.finish .exact : Int) - placed.finish .exact)
      (Site.drifts (placed.flat .exact) (other.flat .exact)) := by
  rw [FieldLayout.flat_eq, FieldLayout.flat_eq]
  show Rising _ _ (((other.offset : Int) - placed.offset) :: Site.drifts _ _)
  refine .cons (Int.le_refl _) ?_
  rw [FieldLayout.finish, FieldLayout.finish, hp.name, hp.type, hp.size, hp.nested, ho.name,
    ho.type, ho.size, ho.nested, Arithmetic.add_exact, Arithmetic.add_exact]
  cases hi : field.fullType.nested? with
  | none =>
    have hsize := (FieldType.noWider_extent device.natural_le field.fullType fun inner _ =>
      inner.noWider_layout device.natural_le).size
    exact .nil (by omega)
  | some inner =>
    have hstop : ((other.offset + (field.fullType.extent .exact device).size : Nat) : Int)
        - (placed.offset + (field.fullType.extent .exact .natural).size : Nat) =
          (other.offset : Int) - placed.offset + field.fullType.elementCount .exact *
            (((inner.layout .exact device).size : Int) - (inner.layout .exact .natural).size) := by
      rw [FieldType.size_extent_of_nested .exact _ hi, FieldType.size_extent_of_nested .exact _ hi,
        Arithmetic.mul_exact, Arithmetic.mul_exact]
      push_cast
      ring
    rw [hstop]
    exact Layout.rising_drifts_flatElements _ _ _ _ (inner.length_flat .exact .natural device)
      (ih inner hi)

/-- Through fields that a tightly packed host places after `cursor` and the device after `later` the
drift rises up to where the last of them ends. -/
theorem Field.rising_drifts (device : Policy) {fields : List Field}
    (ih : ∀ field ∈ fields, ∀ inner, field.fullType.nested? = some inner → inner.DriftRises device)
    {cursor : Nat} (hc : Alignment.scalar.bytes ∣ cursor) (later : Nat) :
    let placed := FieldLayout.placeFrom .exact cursor (fields.map (Field.block .exact .natural))
    let others := FieldLayout.placeFrom .exact later (fields.map (Field.block .exact device))
    Rising ((later : Int) - cursor)
      ((FieldLayout.lastFinish .exact later others : Int)
        - FieldLayout.lastFinish .exact cursor placed)
      (Site.drifts (placed.flatMap (·.flat .exact)) (others.flatMap (·.flat .exact))) := by
  induction fields generalizing cursor later with
  | nil => exact .nil (Int.le_refl _)
  | cons field rest ihr =>
    have htight := field.fullType.alignment_extent_natural .exact
    -- The host begins the field where the one before it ended; the device may skip bytes first.
    have hplace :
        Arithmetic.exact.roundUp (field.fullType.extent .exact .natural).alignment cursor =
        cursor := by
      rw [htight]
      exact Alignment.roundUp_of_dvd hc
    have hskip := (field.fullType.extent .exact device).alignment.le_roundUp later
    rw [List.map_cons, List.map_cons, Field.block_eq, Field.block_eq, FieldLayout.placeFrom,
      FieldLayout.placeFrom, hplace]
    dsimp only
    have hp := Field.laidOut_place .exact .natural field cursor
    have ho := Field.laidOut_place .exact device field
      (Arithmetic.exact.roundUp (field.fullType.extent .exact device).alignment later)
    have hfield := hp.rising_drifts ho (ih field (.head _))
    have hrest := ihr (fun other hm => ih other (.tail _ hm))
      (Nat.dvd_add hc (FieldType.scalar_dvd_size .exact .natural field.fullType))
      (Arithmetic.exact.roundUp (field.fullType.extent .exact device).alignment later
        + (field.fullType.extent .exact device).size)
    rw [List.flatMap_cons, List.flatMap_cons, Site.drifts_append (hp.length_flat ho),
      FieldLayout.lastFinish, FieldLayout.lastFinish]
    exact (hfield.append hrest).weaken (Int.sub_le_sub_right (Int.ofNat_le.2 hskip) _)
      (Int.le_refl _)

/-- Through a struct the drift rises from zero to the difference of the sizes. -/
theorem Schema.rising_drifts (device : Policy) (schema : Schema) : schema.DriftRises device := by
  induction schema using Schema.nestedInduction with
  | step schema ih =>
    have h := Field.rising_drifts device
      (fun field hf inner hi => ih inner (Field.mem_nested hf hi)) (Nat.dvd_zero _) 0
    have hround := schema.dataSize_le_size device
    rw [Schema.dataSize_eq, Schema.fields_layout] at hround
    rw [DriftRises, Layout.flat_eq, Layout.flat_eq, Schema.size_natural, Schema.dataSize_eq,
      Schema.fields_layout, Schema.fields_layout]
    refine h.weaken (Int.le_refl 0) ?_
    exact Int.sub_le_sub_right (Int.ofNat_le.2 hround) _

/-! ## Comparisons -/

/-- The divergences of fields are some of the fields of the flat layouts in order, so what they show
of the drift rises too. In words they are fewer, if anything. -/
theorem Schema.DistinctNames.rising_drifts {schema : Schema} (hd : schema.DistinctNames)
    {device : Policy} (hf : schema.Fits device) (nested : Bool) :
    Rising 0 ((schema.layout .word device).size - (schema.layout .word .natural).size)
      (((Comparator.fresh .word .natural device nested).compare schema).1.fieldDivergences.map
        (·.drift)) := by
  have hn : schema.Fits .natural := hf.mono device.natural_le
  have hwords := (hd.fieldDivergences_sublist hn hf nested).map (·.drift)
  have hdifferences := Site.map_drift_differences_sublist schema.name
    ((schema.layout .exact .natural).flat .exact) ((schema.layout .exact device).flat .exact)
  rw [hd.fieldDivergences_compare .exact] at hwords
  rw [hf.size, hn.size]
  exact (schema.rising_drifts device).sublist
    (hwords.trans ((List.filter_sublist.map _).trans hdifferences))

/-- A host that leaves gaps can catch up: here the gap before `tint` absorbs what `axis` takes
more on the device. -/
example :
    let lens : Schema := ⟨"Lens", [⟨"axis", .primitive .vector3, none⟩,
      ⟨"radius", .primitive .float, none⟩, ⟨"depth", .primitive .float, none⟩,
      ⟨"tint", .primitive .vector3, none⟩]⟩
    ((lens.layout .word .deviceVector).divergences .word "Lens" false
      (lens.layout .word .simdVector)).map (·.drift) = [0, 4, 4, 0] := by
  decide

end LayoutParity
