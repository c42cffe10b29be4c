import LayoutParity.Proofs.CacheHistory

/-!
# Host and device exchanged

A comparison walks the host's layout and looks its fields up in the device's, so what it finds is
not symmetric by its definition. Where names are told apart at every depth it lists the differences
of two flat layouts, which have the same paths in the same order, and these differences are
symmetric: exchanging the two lists exchanges the sides of every difference
(`Site.differences_exchanged`). So a comparison of device with host has the divergences of the
comparison of host with device, in the same order and each with its sides exchanged.

`Divergence.drift` is how far the device is ahead of the host, as an exact number.
`Divergence.offsetDelta` shows it as a signed 64-bit word.
-/

namespace LayoutParity

namespace Divergence

/-- The same divergence with the sides of host and device exchanged. -/
def mirror (divergence : Divergence) : Divergence :=
  { divergence with
    hostOffset := divergence.deviceOffset
    deviceOffset := divergence.hostOffset
    hostSize := divergence.deviceSize
    deviceSize := divergence.hostSize }

/-- How many bytes the device's offset is ahead of the host's. -/
def drift (divergence : Divergence) : Int :=
  (divergence.deviceOffset : Int) - divergence.hostOffset

theorem drift_mirror (divergence : Divergence) : divergence.mirror.drift = -divergence.drift := by
  show (divergence.hostOffset : Int) - divergence.deviceOffset = _
  rw [drift, Int.neg_sub]

theorem offsetDelta_eq (divergence : Divergence) :
    divergence.offsetDelta = divergence.drift.bmod UInt64.size :=
  rfl

/-- Exchanging the sides negates the word that is shown. -/
theorem offsetDelta_mirror (divergence : Divergence) :
    divergence.mirror.offsetDelta = (-divergence.offsetDelta).bmod UInt64.size := by
  rw [offsetDelta_eq, offsetDelta_eq, drift_mirror, Int.bmod_neg_bmod]

/-- Only the least word is its own negation. -/
theorem offsetDelta_mirror_of_ne {divergence : Divergence}
    (h : divergence.offsetDelta ≠ -9223372036854775808) :
    divergence.mirror.offsetDelta = -divergence.offsetDelta := by
  have hlow : -9223372036854775808 ≤ divergence.offsetDelta := Int.le_bmod (by decide)
  have hhigh : divergence.offsetDelta < 9223372036854775808 := Int.bmod_lt (by decide)
  have hsize : (UInt64.size : Int) = 18446744073709551616 := rfl
  rw [offsetDelta_mirror]
  exact Int.bmod_eq_of_le (by omega) (by omega)

end Divergence

/-! ## Differences are symmetric -/

/-- Exchanging lists of the same paths exchanges the sides of every difference. -/
theorem Site.differences_exchanged (struct : String) {hosts devices : List Site}
    (h : hosts.map (·.path) = devices.map (·.path)) :
    differences struct devices hosts = (differences struct hosts devices).map .mirror := by
  induction hosts generalizing devices with
  | nil =>
    obtain rfl : devices = [] := List.map_eq_nil_iff.1 h.symm
    rfl
  | cons host hosts ih =>
    cases devices with
    | nil => cases h
    | cons device devices =>
      rw [List.map_cons, List.map_cons] at h
      obtain ⟨hpath, hrest⟩ := List.cons.inj h
      -- Whether two sites agree is symmetric, and a difference takes its path from either.
      have hagree : device.offset = host.offset ∧ device.size = host.size ↔
          host.offset = device.offset ∧ host.size = device.size := and_congr eq_comm eq_comm
      have hfirst : differences struct [device] [host] =
          (differences struct [host] [device]).map .mirror := by
        rw [differences_singleton, differences_singleton, apply_ite (List.map _), hpath,
          if_congr hagree rfl rfl]
        rfl
      rw [differences_cons, differences_cons struct host, List.map_append, hfirst, ih hrest]

/-- Exchanging the layouts exchanges the sides of the divergence of the whole. -/
theorem Layout.sizeDivergence?_exchanged (struct : String) (host device : Layout) :
    Layout.sizeDivergence? struct device host =
      (Layout.sizeDivergence? struct host device).map .mirror := by
  rw [sizeDivergence?, sizeDivergence?, apply_ite (Option.map _), if_congr eq_comm rfl rfl]
  rfl

/-- A new comparator finds the mirrored divergences if its policies are exchanged. -/
theorem Schema.DistinctNames.divergences_exchanged {schema : Schema} (hd : schema.DistinctNames)
    (arith : Arithmetic) (host device : Policy) (nested : Bool) :
    ((Comparator.fresh arith device host nested).compare schema).1.divergences =
      ((Comparator.fresh arith host device nested).compare schema).1.divergences.map .mirror := by
  rw [hd.divergences_compare, hd.divergences_compare,
    Site.differences_exchanged _ (schema.paths_flat arith host device),
    Layout.sizeDivergence?_exchanged, List.map_append, List.filter_map, Option.toList_map]
  rfl

/-- Where field names are told apart at every depth, a comparison of device with host mirrors the
comparison of host with device, whatever either comparator was used for before: it has the same
divergences in the same order, of the same struct and paths, with offsets and sizes exchanged. So
both find something or neither does, and every offset's difference is negated: the exact one, and
the signed 64-bit word that is shown, by the negation of words, whose least one is its own
negation. -/
theorem Comparator.sides_exchanged {schema : Schema} (hd : schema.DistinctNames)
    (arith : Arithmetic) (host device : Policy) (nested : Bool)
    (calls calls' : List Comparator.Call) :
    let forward := (((Comparator.fresh arith host device nested).run calls).compare schema).1
    let backward := (((Comparator.fresh arith device host nested).run calls').compare schema).1
    backward.divergences = forward.divergences.map Divergence.mirror ∧
    backward.isEquivalent = forward.isEquivalent ∧
    backward.divergences.map (·.drift) = forward.divergences.map (fun d => -d.drift) ∧
    backward.divergences.map (·.offsetDelta) =
      forward.divergences.map (fun d => (-d.offsetDelta).bmod UInt64.size) ∧
    ∀ d ∈ forward.divergences,
      d.offsetDelta = -9223372036854775808 ∨ d.mirror.offsetDelta = -d.offsetDelta := by
  intro forward backward
  have hmirror : backward.divergences = forward.divergences.map Divergence.mirror := by
    have h := hd.divergences_exchanged arith host device nested
    rwa [← Comparator.compare_run arith device host nested calls',
      ← Comparator.compare_run arith host device nested calls] at h
  refine ⟨hmirror, ?_, ?_, ?_, ?_⟩
  · rw [Comparison.isEquivalent, Comparison.isEquivalent, hmirror, List.isEmpty_map]
  · rw [hmirror, List.map_map]
    exact List.map_congr_left fun d _ => d.drift_mirror
  · rw [hmirror, List.map_map]
    exact List.map_congr_left fun d _ => d.offsetDelta_mirror
  · intro d _
    by_cases h : d.offsetDelta = -9223372036854775808
    · exact .inl h
    · exact .inr (Divergence.offsetDelta_mirror_of_ne h)

theorem Comparator.sides_exchanged_lampGrid :
    lampGrid.DistinctNames ∧
    ((((Comparator.fresh .word .deviceVector .natural true).run [.compare lampGrid]).compare
      lampGrid).1.divergences.map
        fun d => (d.hostOffset, d.deviceOffset, d.hostSize, d.deviceSize)) =
      [(0, 0, 64, 40), (16, 4, 16, 16), (16, 4, 12, 12), (28, 16, 4, 4), (32, 20, 4, 4),
        (48, 24, 16, 16), (48, 24, 12, 12), (60, 36, 4, 4), (64, 40, 0, 0), (0, 0, 64, 40)] := by
  have hd : lampGrid.DistinctNames := by decide
  refine ⟨hd, ?_⟩
  rw [(Comparator.sides_exchanged hd .word .natural .deviceVector true [] [.compare lampGrid]).1,
    Comparator.compare_run, Comparator.compare_fresh]
  decide

end LayoutParity
