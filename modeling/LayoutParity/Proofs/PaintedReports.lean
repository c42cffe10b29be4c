import LayoutParity.Proofs.PlainNames
import LayoutParity.Proofs.TextReports
import LayoutParity.Report.Listing

/-!
# Colour in reports

A report with colour and the plain report are put together in the same way, and their parts decorate
each other: what is painted is a verdict or a heading, and everything else is printed as it is. So a
terminal shows the one as the other (`ReportOptions.decorates_report`), and likewise with the
description of a layout (`Layout.decorates_description`). This needs names without escapes, as they
are printed as they are.
-/

namespace LayoutParity

open Text (EscapeFree)

/-! ## Lines without colour -/

theorem escapeFree_signed (value : Int) : EscapeFree (signed value) := by
  have htext : EscapeFree (toString value) := by
    cases value with
    | ofNat n => exact Text.escapeFree_repr n
    | negSucc n =>
      have hsign : EscapeFree "-" := by decide
      exact Text.escapeFree_append.2 ⟨hsign, Text.escapeFree_repr (n + 1)⟩
  have hplus : EscapeFree "+" := by decide
  rw [signed]
  split
  · exact htext
  · exact Text.escapeFree_append.2 ⟨hplus, htext⟩

theorem Policy.escapeFree_name (policy : Policy) : EscapeFree policy.name := by
  cases policy <;> decide

theorem Divergence.PlainNames.innerLine {divergence : Divergence} (h : divergence.PlainNames) :
    EscapeFree divergence.innerLine := by
  simp +decide [Divergence.innerLine, h.text, escapeFree_signed]

theorem Layout.escapeFree_holeLines {side : String} (hs : EscapeFree side) (layout : Layout) :
    ∀ line ∈ layout.holeLines side, EscapeFree line :=
  List.forall_mem_map.2 fun hole _ => by simp +decide [hs]

/-! ## Reports -/

namespace ReportOptions

/-- The same options without colour. -/
def plain (options : ReportOptions) : ReportOptions :=
  { options with color := false }

variable (options : ReportOptions)

/-- A verdict in colour decorates the plain one. -/
theorem decorates_verdict (good : Bool) {text : String} (h : EscapeFree text) :
    Text.Decorates (options.verdict good text) (options.plain.verdict good text) :=
  h.paint _ options.color

/-- The table of a comparison in colour has the columns of the plain one. -/
theorem decorates_fieldTable {host : Layout} (h : ∀ field ∈ host.fields, field.PlainNames)
    (device : Layout) :
    Table.Decorates (options.fieldTable host device) (options.plain.fieldTable host device) := by
  let headed := Table.empty.withHeaders
    ["field", "type", "host off", "host size", "dev off", "dev size", ""]
  have hheaders : ∀ header ∈ headed.headers, EscapeFree header := by decide
  have hheaded := Table.decorates_withColor headed options.color rfl hheaders
  have hnumbered := List.foldl_rel (l := [2, 3, 4, 5]) (r := Table.Decorates)
    (f := fun table column => table.withSide column .right)
    (g := fun table column => table.withSide column .right)
    hheaded fun column _ _ _ hd => hd.withSide column .right
  refine List.foldl_rel hnumbered fun field hf painted plain hd => ?_
  cases device.field? field.name with
  | none => exact hd
  | some other =>
    have hname := (h field hf).name.decorates
    have htype := (field.type.escapeFree_text (h field hf).type).decorates
    have hnumber (n : Nat) := (Text.escapeFree_repr n).decorates
    refine hd.addRow (.cons hname (.cons htype (.cons (hnumber _) (.cons (hnumber _)
      (.cons (hnumber _) (.cons (hnumber _) (.cons (options.decorates_verdict _ ?_) .nil)))))))
    split <;> decide

/-- Only the verdict of a status line is painted. -/
theorem decorates_statusLine {comparison : Comparison} (h : EscapeFree comparison.name) :
    Text.Decorates (options.statusLine comparison) (options.plain.statusLine comparison) := by
  let status := if comparison.isEquivalent then "MATCH" else "DIVERGES"
  let sizes := s!"] host {comparison.host.policy.name} = "
    ++ s!"{comparison.host.size} bytes, device {comparison.device.policy.name} = "
    ++ s!"{comparison.device.size} bytes\n"
  have hline (options : ReportOptions) : options.statusLine comparison =
      comparison.name ++ " [" ++ options.verdict comparison.isEquivalent status ++ sizes := by
    simp only [statusLine, status, sizes, String.append_assoc]
    rfl
  have hname : EscapeFree (comparison.name ++ " [") := Text.escapeFree_append.2 ⟨h, by decide⟩
  have hstatus : EscapeFree status := by
    unfold status
    split <;> decide
  have hsizes : EscapeFree sizes := by
    simp +decide [sizes, comparison.host.policy.escapeFree_name,
      comparison.device.policy.escapeFree_name]
  rw [hline, hline]
  exact (hname.decorates.append (options.decorates_verdict _ hstatus)).append hsizes.decorates

theorem decorates_comparisonLines {comparison : Comparison} (h : comparison.PlainNames) :
    Text.Decorates (options.comparisonLines comparison)
      (options.plain.comparisonLines comparison) := by
  have hbreak : EscapeFree "\n" := by decide
  have hempty : EscapeFree "" := by decide
  have hinner : EscapeFree
      (String.join ((comparison.divergences.filter (·.isInner)).map (·.innerLine))) :=
    Text.escapeFree_join.2 (List.forall_mem_map.2 fun divergence hd =>
      (h.divergences divergence (List.mem_of_mem_filter hd)).innerLine)
  have hholes : EscapeFree
      (String.join (comparison.host.holeLines "host" ++ comparison.device.holeLines "device")) :=
    Text.escapeFree_join.2 (List.forall_mem_append.2
      ⟨comparison.host.escapeFree_holeLines (by decide),
        comparison.device.escapeFree_holeLines (by decide)⟩)
  rw [comparisonLines, comparisonLines]
  refine .append (.append (.append (options.decorates_statusLine h.name) ?_) hinner.decorates) ?_
  · show Text.Decorates (if options.details then _ else _) (if options.details then _ else _)
    split
    · exact (options.decorates_fieldTable h.fields comparison.device).text.append hbreak.decorates
    · exact hempty.decorates
  · show Text.Decorates (if options.padding then _ else _) (if options.padding then _ else _)
    split
    · exact hholes.decorates
    · exact hempty.decorates

/-- A report in colour decorates the plain report on the same comparisons. -/
theorem decorates_report {comparisons : List Comparison}
    (h : ∀ comparison ∈ comparisons, comparison.PlainNames) :
    Text.Decorates (options.report comparisons) (options.plain.report comparisons) := by
  have hbreak : EscapeFree "\n" := by decide
  have hsections := forall₂_map_of_mem (R := Text.Decorates)
    (f := fun comparison => options.comparisonLines comparison ++ "\n")
    (g := fun comparison => options.plain.comparisonLines comparison ++ "\n")
    fun comparison hc =>
      (options.decorates_comparisonLines (h comparison hc)).append hbreak.decorates
  have hsentence : EscapeFree (sentence
      (comparisons.countP fun comparison => !comparison.isEquivalent) comparisons.length) :=
    notMem_sentence (by decide) _ _
  exact .append (.append (.join hsections) (options.decorates_verdict _ hsentence))
    hbreak.decorates

/-- What sums a report up is painted, so no report in colour is free of escapes. -/
theorem not_escapeFree_report (h : options.color = true) (comparisons : List Comparison) :
    ¬EscapeFree (options.report comparisons) := by
  intro hreport
  rw [report, Text.escapeFree_append, Text.escapeFree_append, summary, verdict, h] at hreport
  exact Text.not_escapeFree_apply _ _ hreport.1.2

end ReportOptions

/-! ## Descriptions -/

/-- The table of a layout in colour has the columns of the plain one. -/
theorem Layout.PlainNames.decorates_fieldTable {layout : Layout} (h : layout.PlainNames)
    (color : Bool) : Table.Decorates (layout.fieldTable color) (layout.fieldTable false) := by
  let headed := (((Table.empty.withHeaders ["offset", "size", "align", "type", "field"]).withSide 0
    .right).withSide 1 .right).withSide 2 .right
  have hheaders : ∀ header ∈ headed.headers, EscapeFree header := by decide
  refine List.foldl_rel (Table.decorates_withColor headed color rfl hheaders)
    fun field hf painted plain hd => ?_
  have hnumber (n : Nat) := (Text.escapeFree_repr n).decorates
  have htype := (field.type.escapeFree_text (h.fields field hf).type).decorates
  have hname := (h.fields field hf).name.decorates
  exact hd.addRow (.cons (hnumber _) (.cons (hnumber _) (.cons (hnumber _)
    (.cons htype (.cons hname .nil)))))

/-- The description of a layout in colour decorates the plain one. -/
theorem Layout.PlainNames.decorates_description {layout : Layout} (h : layout.PlainNames)
    (color : Bool) : Text.Decorates (layout.description color) (layout.description false) := by
  have hbreak : EscapeFree "\n" := by decide
  rw [Layout.description, Layout.description]
  refine .append (.append (Text.EscapeFree.decorates ?_) (h.decorates_fieldTable color).text)
    hbreak.decorates
  simp +decide [h.name, layout.policy.escapeFree_name]

/-- The headings of its table are painted, so no description in colour is free of escapes. -/
theorem Layout.not_escapeFree_description (layout : Layout) :
    ¬EscapeFree (layout.description true) := by
  have htable : (layout.fieldTable true).color = true ∧ (layout.fieldTable true).headers ≠ [] :=
    List.foldlRecOn (motive := fun table : Table => table.color = true ∧ table.headers ≠ [])
      layout.fields _ ⟨rfl, List.cons_ne_nil _ _⟩ fun _ h _ _ => h
  intro h
  rw [Layout.description, Text.escapeFree_append, Text.escapeFree_append] at h
  exact Table.not_escapeFree_text htable.1 htable.2 h.1.2

/-- Where the painted text decorates the plain one and has escapes, these are there if and only if
colour is asked for on a terminal. -/
theorem Text.Decorates.visible_and_escapeFree_iff (text : Bool → String)
    (h : Text.Decorates (text true) (text false)) (hpainted : ¬EscapeFree (text true)) :
    Text.visible (text true) = text false ∧
      ∀ color terminal : Bool, EscapeFree (text (color && terminal)) ↔
        color = false ∨ terminal = false := by
  refine ⟨h.visible, fun color terminal => ?_⟩
  rw [← Bool.and_eq_false_iff]
  cases color && terminal with
  | true => simp [hpainted]
  | false => simp [h.escapeFree]

/-- Colour is decoration only. Let reports and descriptions of layouts be in colour if it is asked
for on a terminal, and let the names in them be free of escapes. Whatever else a report shows, a
terminal shows what is printed in colour as exactly what is printed without; and what is printed has
no escapes if and only if colour is not asked for or there is no terminal. -/
theorem ReportOptions.colour_is_decoration (details padding : Bool) :
    (∀ comparisons : List Comparison, (∀ comparison ∈ comparisons, comparison.PlainNames) →
      let report (color terminal : Bool) :=
        ReportOptions.report ⟨color && terminal, details, padding⟩ comparisons
      Text.visible (report true true) = report false true ∧
      ∀ color terminal, EscapeFree (report color terminal) ↔ color = false ∨ terminal = false) ∧
    ∀ layout : Layout, layout.PlainNames →
      let description (color terminal : Bool) := layout.description (color && terminal)
      Text.visible (description true true) = description false true ∧
      ∀ color terminal, EscapeFree (description color terminal) ↔
        color = false ∨ terminal = false := by
  refine ⟨fun comparisons h => ?_, fun layout h => ?_⟩
  · exact Text.Decorates.visible_and_escapeFree_iff
      (fun color => report ⟨color, details, padding⟩ comparisons)
      (decorates_report ⟨true, details, padding⟩ h)
      (not_escapeFree_report ⟨true, details, padding⟩ rfl comparisons)
  · exact Text.Decorates.visible_and_escapeFree_iff layout.description
      (h.decorates_description true) layout.not_escapeFree_description

theorem ReportOptions.colour_is_decoration_lampGrid :
    let comparison := ((Comparator.fresh .word .natural .deviceVector true).compare lampGrid).1
    let report color := ReportOptions.report ⟨color, true, true⟩ [comparison]
    let description := (lampGrid.layout .word .natural).description
    (Text.visible (report true) = report false ∧ ¬EscapeFree (report true) ∧
      EscapeFree (report false)) ∧
    Text.visible (description true) = description false ∧ ¬EscapeFree (description true) ∧
      EscapeFree (description false) := by
  intro comparison report description
  have hnames : lampGrid.PlainNames := by decide
  have hcomparison : ∀ c ∈ [comparison], c.PlainNames :=
    List.forall_mem_singleton.2 (hnames.compare .word .natural .deviceVector true)
  have h := ReportOptions.colour_is_decoration true true
  obtain ⟨hreport, hescapes⟩ := h.1 [comparison] hcomparison
  obtain ⟨hdescription, hpainted⟩ :=
    h.2 (lampGrid.layout .word .natural) (hnames.layout .word .natural)
  refine ⟨⟨hreport, ?_, ?_⟩, hdescription, ?_, ?_⟩
  · simpa using (hescapes true true).not
  · simpa using (hescapes false true)
  · simpa using (hpainted true true).not
  · simpa using (hpainted false true)

end LayoutParity
