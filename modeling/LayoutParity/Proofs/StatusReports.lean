import LayoutParity.Catalogue
import LayoutParity.Proofs.CacheHistory
import LayoutParity.Proofs.ReportSections
import LayoutParity.Proofs.TextReports
import Mathlib.Algebra.BigOperators.Group.List.Basic

/-!
# Text reports without details

A report without details and padding has no tables and no holes, but the lines on divergences inside
nested structs are printed in any case. So it has only status lines (`ReportOptions.statusReport`)
exactly if no comparison has such a divergence (`ReportOptions.report_eq_statusReport_iff`). As a
report that has more is longer, the sections can be told apart by the length of the whole text.
-/

namespace LayoutParity

theorem Divergence.innerLine_ne_empty (divergence : Divergence) : divergence.innerLine ≠ "" := by
  rw [innerLine, Ne, String.append_eq_empty_iff]
  exact fun h => absurd h.2 (by decide)

theorem Text.join_eq_empty_iff {texts : List String} :
    String.join texts = "" ↔ ∀ text ∈ texts, text = "" := by
  induction texts with
  | nil => simp
  | cons text rest ih => rw [String.join_cons, String.append_eq_empty_iff, ih, List.forall_mem_cons]

/-- If texts are longer than others by so much and join to the same text, then by nothing. -/
theorem Text.eq_zero_of_join_eq_join {α : Type} {members : List α} {texts others : α → String}
    {extra : α → Nat}
    (hextra : ∀ member, (texts member).length = (others member).length + extra member)
    (h : String.join (members.map texts) = String.join (members.map others)) :
    ∀ member ∈ members, extra member = 0 := by
  have hlength := congrArg String.length h
  rw [String.length_join, String.length_join, List.map_map, List.map_map,
    show String.length ∘ texts = fun member => (others member).length + extra member from
      funext hextra, List.sum_map_add] at hlength
  have hsum : (members.map extra).sum = 0 := Nat.add_left_cancel hlength
  exact fun member hm => List.sum_eq_zero_iff_forall_eq_nat.1 hsum _ (List.mem_map_of_mem hm)

namespace ReportOptions

variable (options : ReportOptions)

/-- The report of status lines, each followed by an empty line, and the summary. -/
def statusReport (comparisons : List Comparison) : String :=
  String.join (comparisons.map fun comparison => options.statusLine comparison ++ "\n")
    ++ options.summary comparisons ++ "\n"

/-- A status line is one line if the name of the struct is. -/
theorem statusLine_eq_line {comparison : Comparison} (h : '\n' ∉ comparison.name.toList) :
    ∃ line, options.statusLine comparison = line ++ "\n" ∧ '\n' ∉ line.toList := by
  let good := comparison.isEquivalent
  let status := options.verdict good (if good then "MATCH" else "DIVERGES")
  have hname : '\n' ∉ (toString comparison.name).toList := h
  have hstatus : '\n' ∉ (toString status).toList := by
    refine Text.newLine_notMem_paint _ _ ?_ ?_ <;> cases good <;> decide
  have hpolicy (policy : Policy) : '\n' ∉ (toString policy.name).toList := by
    cases policy <;> decide
  have hsize (size : Nat) : '\n' ∉ (toString size).toList := fun hc =>
    absurd (List.all_eq_true.1 (Text.all_space_le_toString size) _ hc) (by decide)
  refine ⟨s!"{comparison.name} [{status}] host {comparison.host.policy.name} = "
    ++ s!"{comparison.host.size} bytes, device {comparison.device.policy.name} = "
    ++ s!"{comparison.device.size} bytes", ?_, ?_⟩
  · simp only [statusLine, String.append_assoc]
    rfl
  · simp +decide only [String.toList_append, List.mem_append, hname, hstatus, hpolicy, hsize,
      or_false, not_false_eq_true]

/-- The summary is one line. -/
theorem newLine_notMem_summary (comparisons : List Comparison) :
    '\n' ∉ (options.summary comparisons).toList :=
  Text.newLine_notMem_paint _ _ (notMem_sentence (by decide) _ _) (notMem_sentence (by decide) _ _)

/-- Without details and padding, a report is one of status lines exactly if no line is printed on a
divergence. -/
theorem report_eq_statusReport_iff (hd : options.details = false) (hp : options.padding = false)
    (comparisons : List Comparison) :
    options.report comparisons = options.statusReport comparisons ↔
      ∀ comparison ∈ comparisons, ∀ divergence ∈ comparison.divergences,
        divergence.isNested = false ∧ divergence.hasPointedName = false := by
  let listed (comparison : Comparison) := String.join ((comparison.divergences.filter
    fun divergence => divergence.isNested || divergence.hasPointedName).map (·.innerLine))
  have hsection (comparison : Comparison) : options.comparisonLines comparison =
      options.statusLine comparison ++ listed comparison := by
    rw [options.comparisonLines_of_no_padding hp, if_neg (hd ▸ Bool.false_ne_true),
      String.append_empty]
  have hlisted (comparison : Comparison) : listed comparison = "" ↔
      ∀ divergence ∈ comparison.divergences,
        divergence.isNested = false ∧ divergence.hasPointedName = false := by
    simp only [listed, Text.join_eq_empty_iff, List.forall_mem_map, List.mem_filter,
      Divergence.innerLine_ne_empty, imp_false, not_and, Bool.not_eq_true, Bool.or_eq_false_iff]
  simp only [← hlisted]
  rw [report, statusReport, String.append_left_inj, String.append_left_inj]
  simp only [hsection]
  constructor
  · intro h comparison hm
    have hlonger (comparison : Comparison) :
        (options.statusLine comparison ++ listed comparison ++ "\n").length =
          (options.statusLine comparison ++ "\n").length + (listed comparison).length := by
      simp only [String.length_append]
      omega
    exact String.length_eq_zero_iff.1 (Text.eq_zero_of_join_eq_join hlonger h comparison hm)
  · intro h
    refine congrArg _ (List.map_congr_left fun comparison hm => ?_)
    rw [h comparison hm, String.append_empty]

end ReportOptions

/-- Without entering nested structs, a comparison finds no divergence about a nested field, and none
about a field with a point in its name if there is no such name. -/
theorem Schema.unlisted_of_shallow {schema : Schema}
    (hn : ∀ field ∈ schema.fields, '.' ∉ field.name.toList) (arith : Arithmetic)
    (host device : Policy) :
    ∀ divergence ∈ ((Comparator.fresh arith host device false).compare schema).1.divergences,
      divergence.isNested = false ∧ divergence.hasPointedName = false := by
  intro divergence hm
  rw [Comparator.compare_fresh] at hm
  rcases List.mem_append.1 hm with hfield | hwhole
  · have hown := Schema.subject_of_mem_shallow hfield
    refine ⟨?_, Divergence.hasPointedName_of_own hn hown⟩
    obtain ⟨field, -, hsubject⟩ := hown
    rw [Divergence.isNested, hsubject]
    rfl
  · obtain ⟨-, rfl⟩ := Layout.mem_sizeDivergence?_iff.1 hwhole
    exact ⟨rfl, rfl⟩

/-- A report without details and padding has a section for each comparison, an empty line behind
each, and the summary. A section has the status line and then a line for each divergence about a
field in a nested struct and each about a field with a point in its name. So the report is only one
of status lines exactly if no comparison has such a divergence; this is so for what a comparator
finds, whatever it was used for before, that does not enter nested structs, in declarations without
points in the names of their fields. The status lines are lines if the names of the structs are, and
the summary is one. -/
theorem ReportOptions.report_without_details (color : Bool) :
    let options : ReportOptions := ⟨color, false, false⟩
    (∀ comparisons, options.report comparisons =
      String.join (comparisons.map fun comparison =>
        options.statusLine comparison
          ++ String.join ((comparison.divergences.filter fun divergence =>
            divergence.isNested || divergence.hasPointedName).map (·.innerLine))
          ++ "\n")
        ++ options.summary comparisons ++ "\n") ∧
    (∀ comparisons, options.report comparisons = options.statusReport comparisons ↔
      ∀ comparison ∈ comparisons, ∀ divergence ∈ comparison.divergences,
        divergence.isNested = false ∧ divergence.hasPointedName = false) ∧
    (∀ arith host device calls schemas,
      (∀ schema ∈ schemas, ∀ field ∈ schema.fields, '.' ∉ field.name.toList) →
      let comparator := (Comparator.fresh arith host device false).run calls
      let comparisons := (comparator.compareAll schemas).1
      options.report comparisons = options.statusReport comparisons) ∧
    (∀ comparison, '\n' ∉ comparison.name.toList →
      ∃ line, options.statusLine comparison = line ++ "\n" ∧ '\n' ∉ line.toList) ∧
    ∀ comparisons, '\n' ∉ (options.summary comparisons).toList := by
  intro options
  refine ⟨fun comparisons => ?_, options.report_eq_statusReport_iff rfl rfl,
    fun arith host device calls schemas hn => ?_, fun _ => options.statusLine_eq_line,
    options.newLine_notMem_summary⟩
  · have hsection := options.comparisonLines_of_no_padding rfl
    simp only [report, hsection, options, Bool.false_eq_true, if_false, String.append_empty]
  · refine (options.report_eq_statusReport_iff rfl rfl _).2 ?_
    rw [Comparator.run_eq, Comparator.compareAll_withHistory]
    rintro _ hm
    obtain ⟨schema, hs, rfl⟩ := List.mem_map.1 hm
    exact Schema.unlisted_of_shallow (hn schema hs) arith host device

theorem ReportOptions.report_without_details_uniforms :
    let options : ReportOptions := ⟨false, false, false⟩
    let comparator := (Comparator.fresh .word .natural .deviceVector false).run
      [.compareAll Registry.catalogue]
    options.report (comparator.compareAll [Catalogue.uniforms]).1 =
      "Uniforms [DIVERGES] host natural = 64 bytes, device device-vector = 80 bytes\n"
        ++ "\n"
        ++ "1 of 1 struct(s) diverge between host and device\n" := by
  intro options comparator
  have hnames : ∀ schema ∈ [Catalogue.uniforms], ∀ field ∈ schema.fields,
      '.' ∉ field.name.toList := by decide +kernel
  have h := (ReportOptions.report_without_details false).2.2.1 .word .natural .deviceVector
    [.compareAll Registry.catalogue] [Catalogue.uniforms] hnames
  refine h.trans ?_
  decide +kernel

/-- The report of a comparison that entered nested structs has a line for each divergence inside the
camera also without details. -/
theorem ReportOptions.lines_without_details :
    let options : ReportOptions := ⟨false, false, false⟩
    let comparator := Comparator.fresh .word .natural .deviceVector true
    let comparisons := (comparator.compareAll [Catalogue.uniforms]).1
    options.report comparisons =
      "Uniforms [DIVERGES] host natural = 64 bytes, device device-vector = 80 bytes\n"
        ++ "  Uniforms.camera.right: host @ 28 (12 bytes), device @ 32 (12 bytes) [+4]\n"
        ++ "  Uniforms.camera.up: host @ 40 (12 bytes), device @ 48 (12 bytes) [+8]\n"
        ++ "  Uniforms.camera.forward: host @ 52 (12 bytes), device @ 64 (12 bytes) [+12]\n"
        ++ "\n"
        ++ "1 of 1 struct(s) diverge between host and device\n" ∧
    options.report comparisons ≠ options.statusReport comparisons := by
  decide +kernel

end LayoutParity
