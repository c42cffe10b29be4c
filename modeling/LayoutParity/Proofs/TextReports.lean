import LayoutParity.Proofs.PaintedTexts
import LayoutParity.Report.Text

/-!
# The last line of text reports

Whatever the sections of a text report are, it ends with a line of its own that sums them up
(`ReportOptions.report_endsWithLine`). What a terminal shows of this line does not depend on the
options of the report: it is the sentence for the number of comparisons with divergences and the
number of all (`ReportOptions.sentence`).
-/

namespace LayoutParity

namespace Text

/-- The text ends with this line, and the line is ended. -/
def EndsWithLine (text line : String) : Prop :=
  ∃ body, text = body ++ line ++ "\n" ∧ '\n' ∉ line.toList ∧ ∀ c ∈ body.toList.getLast?, c = '\n'

/-- Joined lines end where the last of them ends. -/
theorem getLast?_join {lines : List String} (h : ∀ line ∈ lines, line.toList.getLast? = some '\n') :
    ∀ c ∈ (String.join lines).toList.getLast?, c = '\n' := by
  induction lines with
  | nil => simp
  | cons line rest ih =>
    obtain ⟨hline, hrest⟩ := List.forall_mem_cons.1 h
    rw [String.join_cons, String.toList_append, List.getLast?_append, hline]
    intro c hc
    rcases Option.or_eq_some_iff.1 hc with hc | ⟨-, hc⟩
    · exact ih hrest c hc
    · exact (Option.some.inj hc).symm

end Text

namespace ReportOptions

/-- What a report ends with, if so many comparisons of all have divergences. -/
def sentence (divergent total : Nat) : String :=
  if divergent = 0 then s!"All {total} struct(s) have identical host and device layouts"
  else s!"{divergent} of {total} struct(s) diverge between host and device"

/-- The characters of a sentence are printable. -/
theorem all_space_le_sentence (divergent total : Nat) :
    (sentence divergent total).toList.all (' ' ≤ ·) = true := by
  have hdivergent := Text.all_space_le_toString divergent
  have htotal := Text.all_space_le_toString total
  rw [sentence]
  split
  · simp only [String.toList_append, List.all_append, htotal]
    rfl
  · simp only [String.toList_append, List.all_append, hdivergent, htotal]
    rfl

theorem notMem_sentence {c : Char} (h : c < ' ') (divergent total : Nat) :
    c ∉ (sentence divergent total).toList := by
  intro hc
  have hspace := List.all_eq_true.1 (all_space_le_sentence divergent total) c hc
  exact Char.not_le.2 h (of_decide_eq_true hspace)

/-- The last line of a report sums it up, and a terminal shows it alike under all options. -/
theorem report_endsWithLine (options : ReportOptions) (comparisons : List Comparison) :
    ∃ line, Text.EndsWithLine (options.report comparisons) line ∧
      Text.visible line = sentence (comparisons.countP fun comparison => !comparison.isEquivalent)
        comparisons.length := by
  have hescape := notMem_sentence (c := Text.escape) (by decide)
    (comparisons.countP fun comparison => !comparison.isEquivalent) comparisons.length
  have hbreak := notMem_sentence (c := '\n') (by decide)
    (comparisons.countP fun comparison => !comparison.isEquivalent) comparisons.length
  refine ⟨options.summary comparisons, ⟨_, rfl, ?_, ?_⟩, ?_⟩
  · exact Text.newLine_notMem_paint _ _ hescape hbreak
  · refine Text.getLast?_join ?_
    simp
  · exact (Text.EscapeFree.paint hescape _ _).visible

end ReportOptions

end LayoutParity
