import LayoutParity.Table
import Mathlib.Data.List.Forall2

/-!
# Painted texts and tables

A text is free of escapes if it has no escape character (`Text.EscapeFree`); a text in a style never
is. `Text.Decorates` relates a text that may be painted to the text that a terminal shows of it,
whatever text follows. It is kept by everything that texts are put together with, so two texts that
are made in the same way of parts that decorate each other do so too.

For tables this needs that painting changes no width: a cell is as wide as what a terminal shows of
it (`Text.Decorates.visibleLength`), so a painted table has the columns of the plain one, and its
text decorates that of the plain one line by line (`Table.Decorates.text`).
-/

namespace LayoutParity

namespace Text

/-! ## Texts without escapes -/

/-- The text has no escape character. -/
def EscapeFree (text : String) : Prop :=
  escape ∉ text.toList

instance (text : String) : Decidable (EscapeFree text) :=
  inferInstanceAs (Decidable (escape ∉ text.toList))

@[simp] theorem escapeFree_append {first second : String} :
    EscapeFree (first ++ second) ↔ EscapeFree first ∧ EscapeFree second := by
  rw [EscapeFree, String.toList_append, List.mem_append, not_or]
  rfl

@[simp] theorem escapeFree_ofList {cs : List Char} :
    EscapeFree (String.ofList cs) ↔ escape ∉ cs := by
  rw [EscapeFree, String.toList_ofList]

/-- A text stands for itself in a longer one. -/
@[simp] theorem escapeFree_toString {text : String} :
    EscapeFree (toString text) ↔ EscapeFree text :=
  Iff.rfl

/-- A number is written in digits. -/
theorem isDigit_of_mem_toString {n : Nat} {c : Char} (h : c ∈ (toString n).toList) :
    c.isDigit = true := by
  rw [Nat.toString_eq_ofList_toDigits, String.toList_ofList] at h
  exact Nat.isDigit_of_mem_toDigits (by decide) (by decide) h

/-- The digits of a number are printable. -/
theorem all_space_le_toString (n : Nat) : (toString n).toList.all (' ' ≤ ·) = true := by
  refine List.all_eq_true.2 fun c hc => decide_eq_true ?_
  have hdigit := isDigit_of_mem_toString hc
  have hzero : '0' ≤ c := by
    simp only [Char.isDigit, Bool.and_eq_true, decide_eq_true_eq] at hdigit
    exact hdigit.1
  exact Char.le_trans (by decide) hzero

@[simp] theorem escapeFree_repr (n : Nat) : EscapeFree n.repr := fun h =>
  absurd (of_decide_eq_true (List.all_eq_true.1 (all_space_le_toString n) escape h)) (by decide)

/-- A character repeated is the only one in the text. -/
theorem notMem_replicate {c d : Char} (h : c ≠ d) (count : Nat) :
    c ∉ (String.ofList (List.replicate count d)).toList := by
  rw [String.toList_ofList]
  exact fun hm => h (List.eq_of_mem_replicate hm)

@[simp] theorem escapeFree_spaces (count : Nat) : EscapeFree (spaces count) :=
  notMem_replicate (by decide) count

@[simp] theorem escapeFree_atLeft {width : Nat} {text : String} :
    EscapeFree (atLeft width text) ↔ EscapeFree text := by
  simp [atLeft]

@[simp] theorem escapeFree_atRight {width : Nat} {text : String} :
    EscapeFree (atRight width text) ↔ EscapeFree text := by
  simp [atRight]

theorem escapeFree_join {texts : List String} :
    EscapeFree (String.join texts) ↔ ∀ text ∈ texts, EscapeFree text := by
  induction texts with
  | nil => simp [EscapeFree]
  | cons text rest ih => rw [String.join_cons, escapeFree_append, ih, List.forall_mem_cons]

/-- A character is in joined texts if it is in one of them, apart from the text between them. -/
theorem notMem_intercalate {c : Char} {separator : String} (hs : c ∉ separator.toList)
    {texts : List String} :
    c ∉ (separator.intercalate texts).toList ↔ ∀ text ∈ texts, c ∉ text.toList := by
  induction texts with
  | nil => simp
  | cons text rest ih =>
    cases rest with
    | nil => simp
    | cons other rest =>
      rw [String.intercalate_cons_cons, String.toList_append, String.toList_append,
        List.mem_append, List.mem_append, not_or, not_or, ih,
        List.forall_mem_cons (l := other :: rest)]
      simp [hs]

theorem escapeFree_intercalate {separator : String} (hs : EscapeFree separator)
    {texts : List String} :
    EscapeFree (separator.intercalate texts) ↔ ∀ text ∈ texts, EscapeFree text :=
  notMem_intercalate hs

/-! ## What a terminal shows -/

theorem visibleFrom_append {cs : List Char} (h : escape ∉ cs) (rest : List Char) :
    visibleFrom false (cs ++ rest) = cs ++ visibleFrom false rest := by
  induction cs with
  | nil => rfl
  | cons c cs ih =>
    obtain ⟨hc, hcs⟩ := not_or.1 (mt List.mem_cons.2 h)
    rw [List.cons_append, visibleFrom, if_neg (by decide), if_neg (Ne.symm hc), ih hcs]
    rfl

/-- Without escape sequences no style is ended inside a text. -/
theorem reopen_eq {cs : List Char} (h : escape ∉ cs) (start : List Char) :
    reopen start cs = cs := by
  induction cs with
  | nil => rfl
  | cons c cs ih =>
    obtain ⟨hc, hcs⟩ := not_or.1 (mt List.mem_cons.2 h)
    rw [reopen.eq_2 _ _ _ (fun _ he _ => hc he.symm), ih hcs]

theorem visibleFrom_start_append (style : Style) (cs : List Char) :
    visibleFrom false (style.start ++ cs) = visibleFrom false cs := by
  cases style <;> rfl

/-- Painting adds no line break. -/
theorem newLine_notMem_paint (style : Style) (color : Bool) {text : String}
    (he : escape ∉ text.toList) (hn : '\n' ∉ text.toList) :
    '\n' ∉ (style.paint color text).toList := by
  cases color with
  | false => exact hn
  | true =>
    have hstart : '\n' ∉ style.start := by cases style <;> decide
    have hreset : '\n' ∉ reset := by decide
    rw [Style.paint, if_pos rfl, Style.apply, String.toList_ofList, reopen_eq he]
    simp [hstart, hn, hreset]

/-- A terminal shows the painted text as the plain one, whatever text follows it, and the plain one
is free of escapes. -/
structure Decorates (painted plain : String) : Prop where
  shows : ∀ rest, visibleFrom false (painted.toList ++ rest) =
    plain.toList ++ visibleFrom false rest
  escapeFree : EscapeFree plain

/-- A text without escapes decorates itself. -/
theorem EscapeFree.decorates {text : String} (h : EscapeFree text) : Decorates text text :=
  ⟨visibleFrom_append h, h⟩

/-- A painted text decorates the text that is painted. -/
theorem EscapeFree.paint {text : String} (h : EscapeFree text) (style : Style) (color : Bool) :
    Decorates (style.paint color text) text := by
  cases color with
  | false => exact h.decorates
  | true =>
    refine ⟨fun rest => ?_, h⟩
    have hreset : visibleFrom false (reset ++ rest) = visibleFrom false rest := rfl
    rw [Style.paint, if_pos rfl, Style.apply, String.toList_ofList, reopen_eq h, List.append_assoc,
      List.append_assoc, visibleFrom_start_append, visibleFrom_append h, hreset]

/-- A text in a style is not free of escapes. -/
theorem not_escapeFree_apply (style : Style) (text : String) : ¬EscapeFree (style.apply text) := by
  rw [Style.apply, escapeFree_ofList, Decidable.not_not, List.append_assoc]
  refine List.mem_append_left _ ?_
  cases style <;> exact .head _

@[simp] theorem escapeFree_paint {style : Style} {color : Bool} {text : String} :
    EscapeFree (style.paint color text) ↔ color = false ∧ EscapeFree text := by
  cases color <;> simp [Style.paint, not_escapeFree_apply]

namespace Decorates

variable {painted plain other shown : String} {texts others : List String}

theorem visible (h : Decorates painted plain) : Text.visible painted = plain := by
  have hshown := h.shows []
  rw [List.append_nil, visibleFrom, List.append_nil] at hshown
  rw [Text.visible, hshown, String.ofList_toList]

/-- A painted text is as wide as the plain one. -/
theorem visibleLength (h : Decorates painted plain) :
    Text.visibleLength painted = Text.visibleLength plain := by
  have hpainted := h.shows []
  have hplain := h.escapeFree.decorates.shows []
  rw [List.append_nil] at hpainted hplain
  rw [Text.visibleLength, Text.visibleLength, hpainted, hplain]

theorem append (h : Decorates painted plain) (h' : Decorates other shown) :
    Decorates (painted ++ other) (plain ++ shown) := by
  refine ⟨fun rest => ?_, escapeFree_append.2 ⟨h.escapeFree, h'.escapeFree⟩⟩
  rw [String.toList_append, String.toList_append, List.append_assoc, h.shows, h'.shows,
    List.append_assoc]

theorem join (h : List.Forall₂ Decorates texts others) :
    Decorates (String.join texts) (String.join others) := by
  induction h with
  | nil => exact EscapeFree.decorates (by decide)
  | cons h _ ih =>
    rw [String.join_cons, String.join_cons]
    exact h.append ih

theorem intercalate {separator : String} (hs : EscapeFree separator)
    (h : List.Forall₂ Decorates texts others) :
    Decorates (separator.intercalate texts) (separator.intercalate others) := by
  induction h with
  | nil =>
    rw [String.intercalate_nil]
    exact EscapeFree.decorates (by decide)
  | cons h hrest ih =>
    cases hrest with
    | nil => exact h
    | cons =>
      rw [String.intercalate_cons_cons, String.intercalate_cons_cons]
      exact (h.append hs.decorates).append ih

end Decorates

end Text

/-! ## Tables -/

/-- Lists that are changed member by member, each at its position, stay related. -/
theorem forall₂_mapIdx {α β γ δ : Type} {R : α → β → Prop} {S : γ → δ → Prop} {f : Nat → α → γ}
    {g : Nat → β → δ} {members : List α} {others : List β}
    (hf : ∀ index member other, R member other → S (f index member) (g index other))
    (h : List.Forall₂ R members others) :
    List.Forall₂ S (members.mapIdx f) (others.mapIdx g) := by
  induction h generalizing f g with
  | nil => exact .nil
  | cons hr _ ih =>
    rw [List.mapIdx_cons, List.mapIdx_cons]
    exact .cons (hf 0 _ _ hr) (ih fun index => hf (index + 1))

namespace Table

open Text (EscapeFree)

/-- The painted table is the plain one with colour: they have the same headings and columns, and the
cells of the one decorate those of the other. -/
structure Decorates (painted plain : Table) : Prop where
  headers : painted.headers = plain.headers
  escapeFree : ∀ header ∈ plain.headers, EscapeFree header
  rows : List.Forall₂ (List.Forall₂ Text.Decorates) painted.rows plain.rows
  widths : painted.widths = plain.widths
  sides : painted.sides = plain.sides
  color : plain.color = false

theorem decorates_withColor (table : Table) (color : Bool) (hrows : table.rows = [])
    (he : ∀ header ∈ table.headers, EscapeFree header) :
    Decorates (table.withColor color) (table.withColor false) := by
  refine ⟨rfl, he, ?_, rfl, rfl, rfl⟩
  rw [withColor, withColor, hrows]
  exact .nil

/-- Painted cells make a column as wide as plain ones. -/
theorem widen_eq (widths : List Nat) {cells others : List String}
    (h : List.Forall₂ Text.Decorates cells others) : widen widths cells = widen widths others := by
  induction h generalizing widths with
  | nil => cases widths <;> rfl
  | cons hcell hcells ih =>
    cases widths with
    | nil =>
      have hall := ih []
      rw [widen, widen] at hall
      rw [widen, widen, List.map_cons, List.map_cons, hcell.visibleLength, hall]
    | cons width widths => rw [widen, widen, hcell.visibleLength, ih]

@[simp] theorem escapeFree_rule (table : Table) : EscapeFree table.rule := by
  have hbar : EscapeFree "+" := by decide
  have hparts : ∀ part ∈ table.widths.map fun width =>
      String.ofList (List.replicate (width + 2) '-'), EscapeFree part :=
    List.forall_mem_map.2 fun width _ => Text.notMem_replicate (by decide) (width + 2)
  rw [rule, Text.escapeFree_append, Text.escapeFree_append]
  exact ⟨⟨hbar, (Text.escapeFree_intercalate hbar).2 hparts⟩, hbar⟩

/-- The headings of a table in colour are painted. -/
theorem not_escapeFree_text {table : Table} (hc : table.color = true) (hh : table.headers ≠ []) :
    ¬EscapeFree table.text := by
  obtain ⟨header, rest, hheaders⟩ := List.exists_cons_of_ne_nil hh
  have hline : table.line true table.headers ∈ table.lines := by
    simp [lines, hc, hheaders]
  intro htext
  have hheading := (Text.escapeFree_intercalate (by decide)).1 htext _ hline
  rw [line, Text.escapeFree_append, Text.escapeFree_append, Text.escapeFree_intercalate (by decide),
    hheaders, List.mapIdx_cons, List.forall_mem_cons, Text.Style.paint, if_pos rfl] at hheading
  have hfirst := hheading.1.2.1
  simp only [Text.escapeFree_append, Text.escapeFree_toString] at hfirst
  exact Text.not_escapeFree_apply _ _ hfirst.1.2

namespace Decorates

variable {painted plain : Table} {cells others : List String}

theorem addRow (h : Decorates painted plain) (hcells : List.Forall₂ Text.Decorates cells others) :
    Decorates (painted.addRow cells) (plain.addRow others) where
  headers := h.headers
  escapeFree := h.escapeFree
  rows := List.rel_append h.rows (.cons hcells .nil)
  widths := by rw [Table.addRow, Table.addRow, h.widths, widen_eq _ hcells]
  sides := h.sides
  color := h.color

theorem withSide (h : Decorates painted plain) (column : Nat) (side : Side) :
    Decorates (painted.withSide column side) (plain.withSide column side) :=
  { h with sides := by rw [Table.withSide, Table.withSide, h.sides] }

/-- A painted cell is filled up as the plain one is. -/
theorem alignCell (h : Decorates painted plain) (column : Nat) {cell other : String}
    (hcell : Text.Decorates cell other) :
    Text.Decorates (painted.alignCell column cell) (plain.alignCell column other) := by
  have hfiller := (Text.escapeFree_spaces
    (plain.widths.getD column 0 - Text.visibleLength other)).decorates
  rw [Table.alignCell, Table.alignCell, h.widths, h.sides, hcell.visibleLength]
  cases plain.sides.getD column .left with
  | left => exact hcell.append hfiller
  | right => exact hfiller.append hcell

/-- A line decorates a plain one if each of its cells does, once it is filled up and printed. -/
theorem line {R : String → String → Prop} {bold : Bool}
    (hcell : ∀ column cell other, R cell other → Text.Decorates
      (Text.Style.bold.paint bold (painted.alignCell column cell)) (plain.alignCell column other))
    (hcells : List.Forall₂ R cells others) :
    Text.Decorates (painted.line bold cells) (plain.line false others) := by
  have hbar : EscapeFree "|" := by decide
  have hspace : EscapeFree " " := by decide
  rw [Table.line, Table.line]
  refine (hbar.decorates.append (.intercalate hbar ?_)).append hbar.decorates
  refine forall₂_mapIdx (fun column cell other hr => ?_) hcells
  exact (hspace.decorates.append (hcell column cell other hr)).append hspace.decorates

/-- The cells of a row are printed as they are. -/
theorem row (h : Decorates painted plain) (hcells : List.Forall₂ Text.Decorates cells others) :
    Text.Decorates (painted.line false cells) (plain.line false others) :=
  line (fun column _ _ hcell => h.alignCell column hcell) hcells

/-- Headings are printed bold where there is colour. -/
theorem heading (h : Decorates painted plain) (bold : Bool) (he : ∀ cell ∈ cells, EscapeFree cell) :
    Text.Decorates (painted.line bold cells) (plain.line false cells) := by
  have hcells : List.Forall₂ (fun cell other => cell = other ∧ EscapeFree other) cells cells :=
    List.forall₂_same.2 fun cell hc => ⟨rfl, he cell hc⟩
  refine line (fun column cell other hcell => ?_) hcells
  obtain ⟨rfl, hcell⟩ := hcell
  have hfilled : painted.alignCell column cell = plain.alignCell column cell := by
    rw [Table.alignCell, Table.alignCell, h.widths, h.sides]
  have hplain : EscapeFree (plain.alignCell column cell) :=
    (h.alignCell column hcell.decorates).escapeFree
  rw [hfilled]
  exact hplain.paint .bold bold

/-- The text of a painted table decorates that of the plain one. -/
theorem text (h : Decorates painted plain) : Text.Decorates painted.text plain.text := by
  have hbreak : EscapeFree "\n" := by decide
  have hrule : painted.rule = plain.rule := by rw [Table.rule, Table.rule, h.widths]
  have hrows : List.Forall₂ Text.Decorates (painted.rows.map (painted.line false))
      (plain.rows.map (plain.line false)) := by
    rw [List.forall₂_map_left_iff, List.forall₂_map_right_iff]
    exact h.rows.imp fun _ _ hcells => h.row hcells
  have hruled := (Table.escapeFree_rule plain).decorates
  have hempty : painted.rows.isEmpty = plain.rows.isEmpty := by
    rw [Bool.eq_iff_iff, List.isEmpty_iff_length_eq_zero, List.isEmpty_iff_length_eq_zero,
      h.rows.length_eq]
  rw [Table.text, Table.text]
  refine .intercalate hbreak ?_
  rw [Table.lines, Table.lines, h.headers, hempty, hrule]
  split
  · exact .nil
  · refine .cons hruled (List.rel_append (List.rel_append ?_ hrows) (.cons hruled .nil))
    split
    · exact .nil
    · rw [h.color]
      exact .cons (h.heading _ h.escapeFree) (.cons hruled .nil)

end Decorates

end Table

end LayoutParity
