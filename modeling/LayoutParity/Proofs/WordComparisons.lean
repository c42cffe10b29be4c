import LayoutParity.Proofs.Comparator
import LayoutParity.Proofs.PolicyOrder
import LayoutParity.Proofs.WordLayouts
import Mathlib.Data.List.Flatten

/-!
# Comparisons in 64-bit words

Where a struct fits into a word, its flat layout in words is part of the exact one
(`Schema.Fits.flat_sublist`): every field that is entered stands where it does in exact numbers. It
need not be all of it, since a count of elements may wrap around while the elements have no bytes.
The paths of both sides are the same and tell the positions apart, so the positions that words keep
of the host are those that they keep of the device. What a comparison in words finds is then part of
what one with exact numbers would find (`Schema.DistinctNames.divergences_sublist`), and what holds
of all divergences, in order or each on its own, carries over.
-/

namespace LayoutParity

/-- A struct that fits under a policy fits under a narrower one. -/
theorem Schema.Fits.mono {narrow wide : Policy} {schema : Schema} (h : schema.Fits wide)
    (hle : narrow ≤ wide) : schema.Fits narrow :=
  Nat.lt_of_le_of_lt (schema.noWider_layout hle).size h

/-! ## Fields lie in their struct -/

/-- Everything in a field ends before the field does. -/
theorem Layout.le_of_mem_flatElements {name : String} {type : FieldType} {offset : Nat}
    {layout : Layout} (h : ∀ site ∈ layout.flat .exact, site.offset + site.size ≤ layout.size)
    {site : Site} (hs : site ∈ Layout.flatElements .exact name type offset (some layout)) :
    site.offset + site.size ≤ offset + type.elementCount .exact * layout.size := by
  obtain ⟨index, hi, hs⟩ := List.mem_flatMap.1 hs
  obtain ⟨inner, hm, rfl⟩ := List.mem_map.1 hs
  have hinner := h inner hm
  have hindex : (index + 1) * layout.size ≤ type.elementCount .exact * layout.size :=
    Nat.mul_le_mul_right layout.size (List.mem_range.1 hi)
  rw [Nat.succ_mul] at hindex
  simp only [Site.inside, Arithmetic.add_exact, Arithmetic.mul_exact]
  omega

/-- Every field at any depth ends within the outermost struct. -/
theorem Schema.le_size_of_mem_flat (policy : Policy) {schema : Schema} {site : Site}
    (h : site ∈ (schema.layout .exact policy).flat .exact) :
    site.offset + site.size ≤ (schema.layout .exact policy).size := by
  induction schema using Schema.nestedInduction generalizing site with
  | step schema ih =>
    rw [Layout.flat_eq] at h
    obtain ⟨placed, hm, h⟩ := List.mem_flatMap.1 h
    have hwithin : placed.offset + placed.size ≤ (schema.layout .exact policy).size :=
      (schema.sound_layout policy).within placed hm
    rw [FieldLayout.flat_eq] at h
    rcases List.mem_cons.1 h with rfl | h
    · exact hwithin
    · obtain ⟨field, hf, hp⟩ := schema.exists_of_mem_layout .exact policy hm
      rw [hp.name, hp.type, hp.nested] at h
      cases hi : field.fullType.nested? with
      | none =>
        rw [hi] at h
        cases h
      | some inner =>
        rw [hi, Option.map_some] at h
        have hinside := Layout.le_of_mem_flatElements
          (fun site hs => ih inner (Field.mem_nested hf hi) hs) h
        have hsize := hp.size
        rw [FieldType.size_extent_of_nested .exact policy hi] at hsize
        rw [hsize] at hwithin
        exact Nat.le_trans hinside hwithin

/-! ## The flat layout in words -/

/-- Lists built from related members have a part in common if what is built from each has. -/
theorem sublist_flatMap_of_forall₂ {α β γ : Type} {f : α → List γ} {g : β → List γ}
    {members : List α} {others : List β}
    (h : List.Forall₂ (fun member other => (f member).Sublist (g other)) members others) :
    (members.flatMap f).Sublist (others.flatMap g) := by
  induction h with
  | nil => exact .slnil
  | cons hs _ ih => exact hs.append ih

/-- The elements of a field that ends within a word are part of the exact ones, if the struct they
are is laid out alike. -/
theorem Layout.flatElements_sublist (name : String) {type : FieldType} {offset : Nat}
    {layout exact : Layout}
    (hlt : offset + type.elementCount .exact * exact.size < UInt64.size)
    (hin : ∀ site ∈ exact.flat .exact, site.offset + site.size ≤ exact.size)
    (h : 0 < type.elementCount .exact →
      layout.size = exact.size ∧ (layout.flat .word).Sublist (exact.flat .exact)) :
    (Layout.flatElements .word name type offset (some layout)).Sublist
      (Layout.flatElements .exact name type offset (some exact)) := by
  have hcount : type.elementCount .word ≤ type.elementCount .exact := by
    rw [type.elementCount_eq]
    exact Arithmetic.word.wrap_le _
  rw [Layout.flatElements, Layout.flatElements]
  refine (List.Sublist.flatMap_right _ fun index hi => ?_).trans
    ((List.range_sublist.2 hcount).flatMap _)
  have hi := Nat.lt_of_lt_of_le (List.mem_range.1 hi) hcount
  obtain ⟨hsize, hflat⟩ := h (Nat.lt_of_le_of_lt (Nat.zero_le index) hi)
  -- Up to the end of the last element nothing wraps around.
  have hindex : (index + 1) * exact.size ≤ type.elementCount .exact * exact.size :=
    Nat.mul_le_mul_right exact.size hi
  rw [Nat.succ_mul] at hindex
  have hplace : ∀ site ∈ exact.flat .exact,
      site.inside .word [⟨name, if type.isArray then some index else none⟩]
          (Arithmetic.word.add offset (Arithmetic.word.mul index layout.size)) =
        site.inside .exact [⟨name, if type.isArray then some index else none⟩]
          (Arithmetic.exact.add offset (Arithmetic.exact.mul index exact.size)) := by
    intro site hs
    have hwithin := hin site hs
    simp only [Site.inside, hsize, Arithmetic.add_eq, Arithmetic.mul_eq, Arithmetic.wrap_exact,
      Arithmetic.wrap_add_wrap, Arithmetic.wrap_wrap_add]
    rw [Arithmetic.word.wrap_of_lt (by omega)]
  rw [← List.map_congr_left hplace]
  exact hflat.map _

/-- A field of a struct that fits, and all fields inside it, are part of the exact ones, if those of
the struct it holds are wherever this fits. -/
theorem Schema.Fits.flat_field_sublist {policy : Policy} {schema : Schema}
    (h : schema.Fits policy) {field : Field} (hf : field ∈ schema.fields)
    {placed other : FieldLayout} (hm : placed ∈ (schema.layout .exact policy).fields)
    (ha : placed.Alike other) (hp : field.LaidOut .exact policy placed)
    (ho : field.LaidOut .word policy other)
    (ih : ∀ inner, field.fullType.nested? = some inner → inner.Fits policy →
      ((inner.layout .word policy).flat .word).Sublist
        ((inner.layout .exact policy).flat .exact)) :
    (other.flat .word).Sublist (placed.flat .exact) := by
  have hsite : other.site = placed.site := by
    rw [FieldLayout.site, FieldLayout.site, ha.name, ha.offset, ha.size]
  rw [FieldLayout.flat_eq, FieldLayout.flat_eq, hsite, ha.name, ha.type, ha.offset, hp.nested,
    ho.nested, hp.type]
  refine .cons_cons _ ?_
  cases hi : field.fullType.nested? with
  | none => exact .slnil
  | some inner =>
    have hlt : placed.offset + placed.size < UInt64.size := h.finish_lt hm
    rw [hp.size, FieldType.size_extent_of_nested .exact policy hi] at hlt
    refine Layout.flatElements_sublist _ hlt (fun site hs => inner.le_size_of_mem_flat policy hs)
      fun hc => ?_
    have hinner := h.of_nested hf hi hc
    exact ⟨hinner.size, ih inner hi hinner⟩

/-- The flat layout in words of a struct that fits is part of the exact one. -/
theorem Schema.Fits.flat_sublist {policy : Policy} {schema : Schema} (h : schema.Fits policy) :
    ((schema.layout .word policy).flat .word).Sublist
      ((schema.layout .exact policy).flat .exact) := by
  induction schema using Schema.nestedInduction with
  | step schema ih =>
    have hexact := (List.forall₂_and_left _ _).2 ⟨fun _ hm => hm, h.forall₂_alike⟩
    have hall := List.Forall₂.mp (fun _ _ => And.intro) hexact.flip (forall₂_of_common
      (schema.forall₂_laidOut .word policy) (schema.forall₂_laidOut .exact policy))
    rw [Layout.flat_eq, Layout.flat_eq]
    refine sublist_flatMap_of_forall₂ (hall.imp ?_)
    rintro other placed ⟨⟨hm, ha⟩, field, hf, ho, hp⟩
    exact h.flat_field_sublist hf hm ha hp ho fun inner hi =>
      ih inner (Field.mem_nested hf hi)

/-! ## What is found in words -/

/-- A part of a list without two members of one path is told from the rest by its paths. -/
theorem Site.eq_filter_of_sublist {sites others : List Site} (h : sites.Sublist others)
    (hn : (others.map (·.path)).Nodup) :
    sites = others.filter (·.path ∈ sites.map (·.path)) := by
  induction h with
  | slnil => rfl
  | @cons sites others site hs ih =>
    obtain ⟨hsite, hn⟩ := List.nodup_cons.1 hn
    have hout : site.path ∉ sites.map (·.path) := fun hm => hsite ((hs.map _).subset hm)
    rw [List.filter_cons_of_neg (by simpa using hout)]
    exact ih hn
  | @cons_cons sites others site hs ih =>
    obtain ⟨hsite, hn⟩ := List.nodup_cons.1 hn
    rw [List.filter_cons_of_pos (by simp)]
    congr 1
    refine (ih hn).trans (List.filter_congr fun other ho => ?_)
    have hne : other.path ≠ site.path := fun he => hsite (List.mem_map.2 ⟨other, ho, he⟩)
    simp [hne]

/-- Leaving out the same positions on both sides leaves out their differences. -/
theorem Site.differences_sublist (struct : String) {hosts devices : List Site}
    (hpaths : hosts.map (·.path) = devices.map (·.path)) (keep : Path → Bool) :
    (Site.differences struct (hosts.filter (keep ·.path)) (devices.filter (keep ·.path))).Sublist
      (Site.differences struct hosts devices) := by
  induction hosts generalizing devices with
  | nil => exact List.nil_sublist _
  | cons host hosts ih =>
    cases devices with
    | nil => cases hpaths
    | cons device devices =>
      obtain ⟨hpath, hpaths⟩ := List.cons.inj hpaths
      have hrest := ih hpaths
      have hkeep : keep device.path = keep host.path := congrArg keep hpath.symm
      rw [differences_cons struct host device hosts devices, List.filter_cons, List.filter_cons,
        hkeep]
      cases keep host.path with
      | true =>
        rw [if_pos rfl, if_pos rfl, differences_cons]
        exact (List.Sublist.refl _).append hrest
      | false => exact hrest.trans (List.sublist_append_right ..)

section
variable {schema : Schema} (hd : schema.DistinctNames) {host device : Policy}
  (hh : schema.Fits host) (hv : schema.Fits device)
include hd hh hv

/-- The differences of flat layouts in words are some of those with exact numbers. -/
theorem Schema.DistinctNames.differences_flat_sublist (struct : String) :
    (Site.differences struct ((schema.layout .word host).flat .word)
        ((schema.layout .word device).flat .word)).Sublist
      (Site.differences struct ((schema.layout .exact host).flat .exact)
        ((schema.layout .exact device).flat .exact)) := by
  have hhost := Site.eq_filter_of_sublist hh.flat_sublist (hd.nodup_paths .exact host)
  have hdevice := Site.eq_filter_of_sublist hv.flat_sublist (hd.nodup_paths .exact device)
  rw [← schema.paths_flat .word host device] at hdevice
  have h := Site.differences_sublist struct (schema.paths_flat .exact host device)
    (· ∈ ((schema.layout .word host).flat .word).map (·.path))
  rwa [← hhost, ← hdevice] at h

/-- Of a struct that fits on both sides, a comparison in words finds some of the divergences of
fields that one with exact numbers would find, in the same order. -/
theorem Schema.DistinctNames.fieldDivergences_sublist (nested : Bool) :
    ((Comparator.fresh .word host device nested).compare schema).1.fieldDivergences.Sublist
      ((Comparator.fresh .exact host device nested).compare schema).1.fieldDivergences := by
  rw [hd.fieldDivergences_compare, hd.fieldDivergences_compare]
  exact (hd.differences_flat_sublist hh hv schema.name).filter _

end

end LayoutParity
