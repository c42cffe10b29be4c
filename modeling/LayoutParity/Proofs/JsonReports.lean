import LayoutParity.Proofs.RecordTexts
import LayoutParity.Report.Json

/-!
# JSON reports

A report for programs is read back from its text, whether this is compact or pretty. Its members and
those of the records in it stand in the order of their keys, other than in the text of a record
alone; this leaves what is read of them (`JsonReport.carries_comparisons`).
-/

namespace LayoutParity

/-- The record of a comparison says that it is equivalent exactly if it lists no divergence. -/
theorem ComparisonRecord.equivalent_ofComparison_iff (comparison : Comparison) :
    (ofComparison comparison).equivalent = true ↔ (ofComparison comparison).divergences = [] := by
  simp [ofComparison, Comparison.isEquivalent]

/-- Every comparison is equivalent exactly if none is counted as divergent. -/
theorem Comparison.all_isEquivalent (comparisons : List Comparison) :
    comparisons.all (·.isEquivalent) =
      ((comparisons.countP fun comparison => !comparison.isEquivalent) == 0) := by
  rw [Bool.eq_iff_iff, beq_iff_eq, List.countP_eq_zero, List.all_eq_true]
  simp

namespace JsonReport

variable (comparisons : List Comparison)

/-- The records in a report, with their members in the order of their keys. -/
def structs : Json :=
  (Json.array ((comparisons.map ComparisonRecord.ofComparison).map (·.toJson))).sorted

/-- A report has three members. -/
theorem ofComparisons_eq :
    ofComparisons comparisons =
      .ofMembers
        [("divergent_structs",
            .ofNat (comparisons.countP fun comparison => !comparison.isEquivalent)),
          ("equivalent", .ofBool
            ((comparisons.countP fun comparison => !comparison.isEquivalent) == 0)),
          ("structs", structs comparisons)] := by
  have hdivergent : ((comparisons.map ComparisonRecord.ofComparison).countP
      fun record => !record.equivalent) =
      comparisons.countP fun comparison => !comparison.isEquivalent := by
    rw [List.countP_map]
    rfl
  have hfirst : "divergent_structs" ≤ "structs" := by decide
  have hsecond : ¬"equivalent" ≤ "divergent_structs" := by decide
  have hthird : "equivalent" ≤ "structs" := by decide
  simp [ofComparisons, hdivergent, structs, Json.ofMembers, Json.sorted, Json.sortedMembers,
    Json.sortedMember, Json.insertMember, hfirst, hsecond, hthird]

/-- Both texts of a report are written for its value. -/
theorem written_render (pretty : Bool) :
    Json.Written (render pretty comparisons) (ofComparisons comparisons) := by
  cases pretty with
  | false => exact Json.written_compact _
  | true => exact Json.written_pretty _

theorem parse?_render (pretty : Bool) :
    Json.parse? (render pretty comparisons) = some (ofComparisons comparisons) :=
  Json.parse?_of_written (written_render comparisons pretty)

/-- The containers of a report are the object, the list in it and those of the records. -/
theorem depth_ofComparisons_le_iff {room : Nat} :
    (ofComparisons comparisons).depth ≤ room + 2 ↔
      ∀ comparison ∈ comparisons,
        (ComparisonRecord.ofComparison comparison).toJson.depth ≤ room := by
  rw [ofComparisons_eq, Json.depth_ofMembers_le_iff]
  simp [structs, Json.arranges_sorted.depth_le_iff, Json.depth_array_le_iff]

/-- The records of a report are read back where there is room for all of them, and only there. -/
theorem list?_structs_iff {room : Nat} :
    (structs comparisons).list? ComparisonRecord.ofJson? (room + 1) =
        some (comparisons.map .ofComparison) ↔
      ∀ comparison ∈ comparisons,
        (ComparisonRecord.ofComparison comparison).toJson.depth ≤ room := by
  have hitems : structs comparisons = .array (comparisons.map fun comparison =>
      (ComparisonRecord.ofComparison comparison).toJson.sorted) := by
    rw [structs, Json.arranges_sorted.array, List.map_map, List.map_map]
    rfl
  rw [hitems, Json.list?_eq_some_iff]
  simp only [Json.array.injEq, exists_eq_left', List.forall₂_map_left_iff,
    List.forall₂_map_right_iff, List.forall₂_same]
  refine forall₂_congr fun comparison _ => ⟨fun h => ?_, fun h => ?_⟩
  · exact ComparisonRecord.depth_le_of_ofJson? h
  · exact ComparisonRecord.ofJson?_arrange Json.arranges_sorted h

/-- Whether it is compact or pretty, the text of a report is read as one value with three members:
the number of comparisons with divergences, whether there is none, and the records. Exactly if the
containers of the text are nested less than 128 deep, the records are read back in the room that is
left inside the report: those of the comparisons in their order, each equivalent exactly if it lists
no divergence. -/
theorem carries_comparisons :
    ∃ structs,
      (∀ pretty, Json.parse? (render pretty comparisons) = some (.ofMembers
        [("divergent_structs",
            .ofNat (comparisons.countP fun comparison => !comparison.isEquivalent)),
          ("equivalent", .ofBool (comparisons.all (·.isEquivalent))), ("structs", structs)])) ∧
      (structs.list? ComparisonRecord.ofJson? (Json.roomOfText - 1) =
          some (comparisons.map .ofComparison) ↔
        (ofComparisons comparisons).depth < 128) ∧
      ∀ record ∈ comparisons.map ComparisonRecord.ofComparison,
        (record.equivalent = true ↔ record.divergences = []) := by
  refine ⟨structs comparisons, fun pretty => ?_, ?_, ?_⟩
  · rw [parse?_render, ofComparisons_eq, Comparison.all_isEquivalent]
  · have hdepth : (ofComparisons comparisons).depth ≤ 125 + 2 ↔ _ :=
      depth_ofComparisons_le_iff comparisons
    exact (list?_structs_iff comparisons).trans (hdepth.symm.trans Nat.lt_succ_iff.symm)
  · intro record hr
    obtain ⟨comparison, -, rfl⟩ := List.mem_map.1 hr
    exact ComparisonRecord.equivalent_ofComparison_iff comparison

/-- The report on two comparisons, of which one lists divergences inside nested structs. -/
theorem carries_comparisons_lampGrid :
    let compareWith (device : Policy) :=
      ((Comparator.fresh .word .natural device true).compare lampGrid).1
    let comparisons := [compareWith .deviceVector, compareWith .natural]
    (ofComparisons comparisons).depth < 128 ∧
    ∃ structs,
      (∀ pretty, Json.parse? (render pretty comparisons) = some (.ofMembers
        [("divergent_structs", .ofNat 1), ("equivalent", .ofBool false), ("structs", structs)])) ∧
      structs.list? ComparisonRecord.ofJson? 126 = some (comparisons.map .ofComparison) := by
  intro compareWith comparisons
  have hlevels : lampGrid.levels ≤ 3 := by decide
  have hrecord (device : Policy) :
      (ComparisonRecord.ofComparison (compareWith device)).toJson.depth ≤ 125 :=
    Nat.le_trans (Comparator.depth_toJson_compare .word .natural device true [] lampGrid) (by omega)
  have hdepth : (ofComparisons comparisons).depth < 128 :=
    Nat.lt_succ_of_le ((depth_ofComparisons_le_iff comparisons).2 (by simp [comparisons, hrecord]))
  have hverdict (device : Policy) : (compareWith device).isEquivalent =
      ((lampGrid.layout .word .natural).divergences .word "LampGrid" true
        (lampGrid.layout .word device)).isEmpty :=
    congrArg Comparison.isEquivalent (Comparator.compare_fresh .word .natural device true lampGrid)
  have hdivergent : (compareWith .deviceVector).isEquivalent = false := by
    rw [hverdict]
    decide
  have hequivalent : (compareWith .natural).isEquivalent = true := by
    rw [hverdict]
    decide
  obtain ⟨structs, hparse, hread, -⟩ := carries_comparisons comparisons
  simp only [comparisons, List.countP_cons, List.countP_nil, List.all_cons, hdivergent,
    hequivalent] at hparse
  exact ⟨hdepth, structs, hparse, hread.2 hdepth⟩

end JsonReport

end LayoutParity
