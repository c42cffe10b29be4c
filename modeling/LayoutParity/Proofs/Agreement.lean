import LayoutParity.Proofs.CacheHistory
import LayoutParity.Proofs.Registration

/-!
# Comparisons that find nothing

With one policy on both sides the two layouts of a struct are the same, but a comparison still looks
each field up by its name. It finds the field itself where names are told apart at every depth, and
then nothing diverges. Registration sees to this condition (`Registry.Grown.distinctNames`), so
under one policy every struct of a registry matches, whatever was registered, refused or compared
before.
-/

namespace LayoutParity

/-- Under one policy on both sides nothing diverges, whether or not nested structs are entered, in a
struct that tells its field names apart at every depth, and so in every struct of a registry that
calls of `register` have made, with a comparator of any history. -/
theorem Comparator.same_policy_equivalent (arith : Arithmetic) (policy : Policy) (nested : Bool) :
    (∀ schema : Schema, schema.DistinctNames →
      ((Comparator.fresh arith policy policy nested).compare schema).1.divergences = []) ∧
    ∀ (registrations : List Schema) (history : List Comparator.Call),
      let registry := Registry.empty.run registrations
      let comparator := (Comparator.fresh arith policy policy nested).run history
      let comparisons := (comparator.compareAll registry.schemas).1
      comparisons.map (·.name) = registry.names ∧
      ∀ comparison ∈ comparisons, comparison.isEquivalent = true := by
  have hself : ∀ schema : Schema, schema.DistinctNames →
      ((Comparator.fresh arith policy policy nested).compare schema).1.divergences = [] :=
    fun schema hd => hd.divergences_eq_nil rfl rfl nested
  refine ⟨hself, fun registrations history => ?_⟩
  intro registry comparator comparisons
  have hgrown : Registry.Grown registry.schemas := Registry.Grown.empty.run registrations
  have hcomparisons : comparisons = registry.schemas.map fun schema =>
      ((Comparator.fresh arith policy policy nested).compare schema).1 := by
    have hrun : comparator = _ := Comparator.run_eq arith policy policy nested history
    show (comparator.compareAll registry.schemas).1 = _
    rw [hrun, Comparator.compareAll_withHistory]
  rw [hcomparisons]
  constructor
  · rw [List.map_map, Registry.names]
    refine List.map_congr_left fun schema _ => ?_
    rw [Function.comp_apply, Comparator.compare_fresh]
  · intro comparison hm
    obtain ⟨schema, hs, rfl⟩ := List.mem_map.1 hm
    rw [Comparison.isEquivalent, hself schema (hgrown.distinctNames hs)]
    rfl

theorem Comparator.same_policy_equivalent_lampGrid :
    lampGrid.DistinctNames ∧
    ((Comparator.fresh .word .deviceVector .deviceVector true).compare lampGrid).1.divergences =
      [] := by
  have hd : lampGrid.DistinctNames := by decide
  exact ⟨hd, (Comparator.same_policy_equivalent .word .deviceVector true).1 lampGrid hd⟩

/-- Without the condition the first of two fields of one name is compared with the second. -/
example :
    let twins : Schema := ⟨"Twins", [⟨"half", .primitive .float, none⟩,
      ⟨"half", .primitive .float, none⟩]⟩
    (twins.layout .word .natural).divergences .word "Twins" false (twins.layout .word .natural) =
      [⟨"Twins", .field ⟨[], "half"⟩, 0, 4, 4, 4⟩] := by
  decide

end LayoutParity
