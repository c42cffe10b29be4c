import LayoutParity.Proofs.PaintedTexts
import LayoutParity.Proofs.TableCalls
import Mathlib.Algebra.GroupWithZero.Nat

/-!
# Rectangular tables

The widths of a table count what a terminal shows, so all its lines come out equally long.
`Text.Shows` says how many characters of a text a terminal shows, whatever text follows it, and adds
up over texts put together (`Text.Shows.append`, `Text.Shows.enclosed`). It needs escape sequences
that end where the text ends (`Text.ClosesEscapes`), since a sequence left open would swallow what
follows the cell.

A row is held by the columns if no cell is wider than its column (`Table.Holds`). A line of cells
that are held is as long as the line between the parts of the table (`Table.shows_line`). Adding a
row widens the columns to hold it, and they go on to hold all rows before it (`Table.holds_widen`,
`Table.Holds.widen`); so at the end they hold every row and the headings
(`Table.holds_foldl_widen`). A heading counts with its bytes, which are no fewer than its
characters.
-/

namespace LayoutParity

namespace Text

/-- The lines of a text. -/
def lines (text : String) : List String :=
  (text.toList.splitOn '\n').map String.ofList

/-- Texts without line breaks are the lines of the text that they are joined to. -/
theorem lines_intercalate {texts : List String} (hne : texts ≠ [])
    (h : ∀ text ∈ texts, '\n' ∉ text.toList) : lines ("\n".intercalate texts) = texts := by
  have hchars : ∀ cs ∈ texts.map String.toList, '\n' ∉ cs := List.forall_mem_map.2 h
  have hsplit := List.splitOn_intercalate '\n' hchars (by simpa using hne)
  rw [lines, String.toList_intercalate]
  show ((['\n'].intercalate (texts.map String.toList)).splitOn '\n').map String.ofList = texts
  rw [hsplit, List.map_map]
  simp [Function.comp_def]

/-- A character is in joined texts with the bar between them also before and behind them only if it
is in one of them or in the bar. -/
theorem notMem_enclosed {c : Char} {bar : String} (hbar : c ∉ bar.toList) {texts : List String}
    (h : ∀ text ∈ texts, c ∉ text.toList) : c ∉ (bar ++ bar.intercalate texts ++ bar).toList := by
  have hjoined := (notMem_intercalate hbar).2 h
  simp only [String.toList_append, List.mem_append, not_or]
  exact ⟨⟨hbar, hjoined⟩, hbar⟩

/-! ## Closed escape sequences -/

/-- Every escape character is followed by the end of its sequence. -/
def Closing (cs : List Char) : Prop :=
  ∀ after, escape :: after <:+ cs → 'm' ∈ after

/-- No escape sequence in the text is left open. -/
def ClosesEscapes (text : String) : Prop :=
  Closing text.toList

theorem closing_cons {c : Char} {cs : List Char} :
    Closing (c :: cs) ↔ (c = escape → 'm' ∈ cs) ∧ Closing cs := by
  constructor
  · intro h
    refine ⟨?_, fun after ha => h after (List.suffix_cons_iff.2 (.inr ha))⟩
    rintro rfl
    exact h cs (List.suffix_refl _)
  · rintro ⟨hc, h⟩ after ha
    rcases List.suffix_cons_iff.1 ha with heq | ha
    · obtain ⟨rfl, rfl⟩ := List.cons.inj heq
      exact hc rfl
    · exact h after ha

instance decidableClosing : (cs : List Char) → Decidable (Closing cs)
  | [] => .isTrue fun _ ha => by simp at ha
  | _ :: cs =>
    have := decidableClosing cs
    decidable_of_iff _ closing_cons.symm

instance (text : String) : Decidable (ClosesEscapes text) :=
  decidableClosing text.toList

theorem EscapeFree.closesEscapes {text : String} (h : EscapeFree text) : ClosesEscapes text := by
  intro after ha
  exact absurd (ha.subset (.head _)) h

/-- Behind characters that leave no sequence open a terminal shows what it shows without them. A
sequence that they start in ends in them too. -/
theorem visibleFrom_append_of_closing {inside : Bool} {cs : List Char}
    (hi : inside = true → 'm' ∈ cs) (hc : Closing cs) (rest : List Char) :
    visibleFrom inside (cs ++ rest) = visibleFrom inside cs ++ visibleFrom false rest := by
  -- Inside a sequence the end of it is still to come, which `hi` carries from character to
  -- character; outside, an escape character brings its own end with it.
  induction cs generalizing inside with
  | nil =>
    have hout : inside = false := by simpa using hi
    rw [hout]
    rfl
  | cons c cs ih =>
    obtain ⟨hescape, hc⟩ := closing_cons.1 hc
    rw [List.cons_append, visibleFrom, visibleFrom]
    cases inside with
    | true =>
      have hm : 'm' = c ∨ 'm' ∈ cs := List.mem_cons.1 (hi rfl)
      rw [if_pos rfl, if_pos rfl]
      refine ih (fun hopen => ?_) hc
      exact hm.resolve_left fun h => absurd h.symm (by simpa using hopen)
    | false =>
      by_cases he : c = escape
      · simp only [Bool.false_eq_true, if_false, if_pos he]
        exact ih (fun _ => hescape he) hc
      · simp only [Bool.false_eq_true, if_false, if_neg he, List.cons_append]
        rw [ih (by simp) hc]

/-! ## Shown characters -/

/-- A terminal shows so many characters of the text, whatever text follows it. -/
def Shows (text : String) (count : Nat) : Prop :=
  ∀ rest, (visibleFrom false (text.toList ++ rest)).length =
    count + (visibleFrom false rest).length

theorem ClosesEscapes.shows {text : String} (h : ClosesEscapes text) :
    Shows text (visibleLength text) := by
  intro rest
  rw [visibleFrom_append_of_closing (by simp) h, List.length_append, visibleLength]

theorem EscapeFree.shows {text : String} (h : EscapeFree text) : Shows text text.length := by
  intro rest
  rw [visibleFrom_append h, List.length_append, String.length_toList]

theorem shows_spaces (count : Nat) : Shows (spaces count) count := by
  have h := (escapeFree_spaces count).shows
  rwa [spaces, String.length_ofList, List.length_replicate] at h

/-- A terminal shows as much of a painted text as of the plain one. -/
theorem Decorates.shows_painted {painted plain : String} {count : Nat} (h : Decorates painted plain)
    (hp : Shows plain count) : Shows painted count := by
  intro rest
  rw [h.shows, ← visibleFrom_append h.escapeFree, hp]

namespace Shows

variable {text other : String} {count more : Nat}

theorem visibleLength (h : Shows text count) : Text.visibleLength text = count := by
  have hshown := h []
  rwa [List.append_nil] at hshown

theorem append (h : Shows text count) (h' : Shows other more) :
    Shows (text ++ other) (count + more) := by
  intro rest
  rw [String.toList_append, List.append_assoc, h, h', Nat.add_assoc]

/-- Of texts with a bar behind each a terminal shows what it shows of each of them and as many bars
as there are texts. -/
theorem joined {bar : String} (hbar : Shows bar 1) {texts : List String} {counts : List Nat}
    (h : List.Forall₂ Shows texts counts) (hne : texts ≠ []) :
    Shows (bar.intercalate texts ++ bar) (counts.sum + counts.length) := by
  induction h with
  | nil => exact absurd rfl hne
  | @cons text count texts counts htext hrest ih =>
    cases hrest with
    | nil =>
      rw [String.intercalate_singleton]
      exact htext.append hbar
    | cons =>
      have hall := (htext.append hbar).append (ih (List.cons_ne_nil _ _))
      rw [← String.append_assoc] at hall
      rw [String.intercalate_cons_cons, List.sum_cons, List.length_cons]
      convert hall using 1
      omega

/-- Of texts with a bar before, between and behind them a terminal shows what it shows of each of
them and one bar more than there are texts. -/
theorem enclosed {bar : String} (hbar : Shows bar 1) {texts : List String} {counts : List Nat}
    (h : List.Forall₂ Shows texts counts) (hne : texts ≠ []) :
    Shows (bar ++ bar.intercalate texts ++ bar) (counts.sum + counts.length + 1) := by
  have hall := hbar.append (joined hbar h hne)
  rwa [← String.append_assoc, Nat.add_comm 1] at hall

end Shows

/-- A text has no more characters than bytes. -/
theorem length_le_utf8ByteSize (text : String) : text.length ≤ text.utf8ByteSize := by
  induction text using String.push_induction with
  | empty => simp
  | push text c ih =>
    have hpos := c.utf8Size_pos
    rw [String.length_push, String.utf8ByteSize_push]
    omega

end Text

namespace Table

open Text (EscapeFree ClosesEscapes Shows)

/-! ## Columns that hold their cells -/

/-- The columns hold the cells of a row: there is a column for each, which is no narrower. -/
def Holds (widths : List Nat) (cells : List String) : Prop :=
  List.Forall₂ (fun width cell => Text.visibleLength cell ≤ width) widths cells

/-- Columns hold headings in the width of their bytes. -/
theorem holds_headers {headers : List String} (h : ∀ header ∈ headers, EscapeFree header) :
    Holds (headers.map (·.utf8ByteSize)) headers := by
  rw [Holds, List.forall₂_map_left_iff, List.forall₂_same]
  intro header hm
  rw [(h header hm).shows.visibleLength]
  exact Text.length_le_utf8ByteSize header

theorem length_widen {widths : List Nat} {cells : List String}
    (h : cells.length = widths.length) : (widen widths cells).length = widths.length := by
  induction widths generalizing cells with
  | nil => simpa [widen] using h
  | cons width widths ih =>
    cases cells with
    | nil => rfl
    | cons cell cells => simpa [widen] using ih (by simpa using h)

/-- A row that is added is held. -/
theorem holds_widen {widths : List Nat} {cells : List String}
    (h : cells.length = widths.length) : Holds (widen widths cells) cells := by
  induction widths generalizing cells with
  | nil =>
    obtain rfl : cells = [] := List.length_eq_zero_iff.1 h
    exact .nil
  | cons width widths ih =>
    cases cells with
    | nil => simp at h
    | cons cell cells =>
      exact .cons (Nat.le_max_right ..) (ih (by simpa using h))

/-- A row that is held stays held when another row of the same length is added. -/
theorem Holds.widen {widths : List Nat} {cells others : List String} (hh : Holds widths cells)
    (h : others.length = widths.length) : Holds (widen widths others) cells := by
  induction hh generalizing others with
  | nil =>
    obtain rfl : others = [] := List.length_eq_zero_iff.1 h
    exact .nil
  | cons hcell _ ih =>
    cases others with
    | nil => simp at h
    | cons other others =>
      exact .cons (Nat.le_trans hcell (Nat.le_max_left ..)) (ih (by simpa using h))

/-- Columns that are widened row by row keep their number, go on to hold what they hold, and hold
all the rows in the end. -/
theorem holds_foldl_widen (rows : List (List String)) (widths : List Nat)
    (h : ∀ cells ∈ rows, cells.length = widths.length) :
    (rows.foldl widen widths).length = widths.length ∧
      (∀ cells, Holds widths cells → Holds (rows.foldl widen widths) cells) ∧
      ∀ cells ∈ rows, Holds (rows.foldl widen widths) cells := by
  induction rows generalizing widths with
  | nil => simp
  | cons row rest ih =>
    obtain ⟨hrow, hrest⟩ := List.forall_mem_cons.1 h
    have hlength := length_widen hrow
    obtain ⟨hl, hkept, hheld⟩ := ih (Table.widen widths row) (by rwa [hlength])
    rw [List.foldl_cons]
    refine ⟨hl.trans hlength, fun cells hh => hkept cells (hh.widen hrow), ?_⟩
    exact List.forall_mem_cons.2 ⟨hkept row (holds_widen hrow), hheld⟩

/-! ## Lines of the same length -/

/-- What a terminal shows of each line of a table with columns of these widths. -/
def lineLength (widths : List Nat) : Nat :=
  (widths.map (· + 2)).sum + widths.length + 1

theorem shows_rule {table : Table} (hne : table.widths ≠ []) :
    Shows table.rule (lineLength table.widths) := by
  have hbar : Shows "+" 1 := EscapeFree.shows (by decide)
  have hparts : List.Forall₂ Shows
      (table.widths.map fun width => String.ofList (.replicate (width + 2) '-'))
      (table.widths.map (· + 2)) := by
    rw [List.forall₂_map_left_iff, List.forall₂_map_right_iff, List.forall₂_same]
    intro width _
    have hfree : EscapeFree (String.ofList (.replicate (width + 2) '-')) :=
      Text.notMem_replicate (by decide) (width + 2)
    have hshows := hfree.shows
    rwa [String.length_ofList, List.length_replicate] at hshows
  have hall := Text.Shows.enclosed hbar hparts (by simpa using hne)
  rwa [List.length_map] at hall

/-- A cell that is held is filled up to the width of its column. -/
theorem shows_alignCell {table : Table} {column width : Nat} {cell : String}
    (hw : table.widths[column]? = some width) (hcell : ClosesEscapes cell)
    (hle : Text.visibleLength cell ≤ width) : Shows (table.alignCell column cell) width := by
  have hwidth : table.widths.getD column 0 = width := by
    rw [List.getD_eq_getElem?_getD, hw, Option.getD_some]
  have hfiller := Text.shows_spaces (width - Text.visibleLength cell)
  rw [alignCell, hwidth]
  cases table.sides.getD column .left with
  | left =>
    have hall := hcell.shows.append hfiller
    rwa [Nat.add_sub_cancel' hle] at hall
  | right =>
    have hall := hfiller.append hcell.shows
    rwa [Nat.sub_add_cancel hle] at hall

/-- A line of cells that are held is as long as every line, if painting them does not change what a
terminal shows. -/
theorem shows_line {table : Table} {bold : Bool} {cells : List String}
    (hh : Holds table.widths cells) (hne : cells ≠ [])
    (hc : ∀ cell ∈ cells, ClosesEscapes cell)
    (hpaint : ∀ column, ∀ cell ∈ cells, ∀ count, Shows (table.alignCell column cell) count →
      Shows (Text.Style.bold.paint bold (table.alignCell column cell)) count) :
    Shows (table.line bold cells) (lineLength table.widths) := by
  have hbar : Shows "|" 1 := EscapeFree.shows (by decide)
  have hspace : Shows " " 1 := EscapeFree.shows (by decide)
  have hparts : List.Forall₂ Shows
      (cells.mapIdx fun column cell =>
        s!" {Text.Style.bold.paint bold (table.alignCell column cell)} ")
      (table.widths.map (· + 2)) := by
    obtain ⟨hlength, hall⟩ := List.forall₂_iff_get.1 hh
    refine List.forall₂_iff_get.2 ⟨by simp [hlength], fun column hpart hcount => ?_⟩
    have hcell : column < cells.length := by simpa using hpart
    have hwidth : column < table.widths.length := by simpa using hcount
    have hle := hall column hwidth hcell
    have hmem := List.getElem_mem hcell
    have hfilled := shows_alignCell (List.getElem?_eq_getElem hwidth) (hc _ hmem) hle
    have hpadded := (hspace.append (hpaint column _ hmem _ hfilled)).append hspace
    simp only [List.get_eq_getElem, List.getElem_mapIdx, List.getElem_map]
    have hsum : 1 + table.widths[column] + 1 = table.widths[column] + 2 := by omega
    rw [hsum] at hpadded
    exact hpadded
  have hall := Text.Shows.enclosed hbar hparts (by simpa using hne)
  rwa [List.length_map] at hall

/-! ## Lines without line breaks -/

theorem newLine_notMem_rule (table : Table) : '\n' ∉ table.rule.toList := by
  refine Text.notMem_enclosed (by decide) (List.forall_mem_map.2 fun width _ => ?_)
  exact Text.notMem_replicate (by decide) (width + 2)

/-- Filling up a cell adds spaces only. -/
theorem notMem_alignCell {c : Char} (hc : c ≠ ' ') (table : Table) (column : Nat) {cell : String}
    (h : c ∉ cell.toList) : c ∉ (table.alignCell column cell).toList := by
  have hspaces (count : Nat) : c ∉ (Text.spaces count).toList := Text.notMem_replicate hc count
  rw [alignCell]
  cases table.sides.getD column .left <;> simp [h, hspaces]

theorem newLine_notMem_line {table : Table} {bold : Bool} {cells : List String}
    (h : ∀ column, ∀ cell ∈ cells,
      '\n' ∉ (Text.Style.bold.paint bold (table.alignCell column cell)).toList) :
    '\n' ∉ (table.line bold cells).toList := by
  refine Text.notMem_enclosed (by decide) fun part hm => ?_
  obtain ⟨column, hcolumn, rfl⟩ := List.mem_mapIdx.1 hm
  have hcell := h column _ (List.getElem_mem hcolumn)
  simp only [String.toList_append, List.mem_append, not_or]
  exact ⟨⟨by decide, hcell⟩, by decide⟩

/-! ## Headings and rows -/

/-- What holds of the line between the parts, of the line of the headings and of the line of each
row holds of every line. -/
theorem forall_mem_lines {motive : String → Prop} {table : Table} (h : table.headers ≠ [])
    (hrule : motive table.rule) (hheading : motive (table.line table.color table.headers))
    (hrows : ∀ cells ∈ table.rows, motive (table.line false cells)) :
    ∀ line ∈ table.lines, motive line := by
  intro line hm
  rw [lines_of_headers h] at hm
  simp only [List.mem_append, List.mem_cons, List.mem_map, List.not_mem_nil, or_false] at hm
  rcases hm with ((rfl | rfl | rfl) | ⟨cells, hc, rfl⟩) | rfl
  · exact hrule
  · exact hheading
  · exact hrule
  · exact hrows cells hc
  · exact hrule

/-- The line of the headings is as long as every line, painted or not, and it is one line. -/
theorem heading_line {table : Table} {bold : Bool} (hh : Holds table.widths table.headers)
    (hne : table.headers ≠ [])
    (hheaders : ∀ header ∈ table.headers, '\n' ∉ header.toList ∧ EscapeFree header) :
    Shows (table.line bold table.headers) (lineLength table.widths) ∧
      '\n' ∉ (table.line bold table.headers).toList := by
  have hfree (column : Nat) : ∀ header ∈ table.headers,
      EscapeFree (table.alignCell column header) := fun header hm =>
    notMem_alignCell (by decide) table column (hheaders header hm).2
  refine ⟨shows_line hh hne (fun header hm => (hheaders header hm).2.closesEscapes) ?_,
    newLine_notMem_line fun column header hm => ?_⟩
  · intro column header hm count hshows
    exact ((hfree column header hm).paint .bold bold).shows_painted hshows
  · exact Text.newLine_notMem_paint .bold bold (hfree column header hm)
      (notMem_alignCell (by decide) table column (hheaders header hm).1)

/-- The line of a row is as long as every line, and it is one line. -/
theorem row_line {table : Table} {cells : List String} (hh : Holds table.widths cells)
    (hne : cells ≠ []) (hcells : ∀ cell ∈ cells, '\n' ∉ cell.toList ∧ ClosesEscapes cell) :
    Shows (table.line false cells) (lineLength table.widths) ∧
      '\n' ∉ (table.line false cells).toList := by
  refine ⟨shows_line hh hne (fun cell hm => (hcells cell hm).2) fun _ _ _ _ hshows => hshows,
    newLine_notMem_line fun column cell hm => ?_⟩
  exact notMem_alignCell (by decide) table column (hcells cell hm).1

/-- Tables are rectangular. Let headings be set first, and then rows with a cell for each heading,
sides and colour in any order, where no text has a line break, the headings are free of escapes and
the cells leave no escape sequence open. Then a terminal shows the same number of characters of
every line: two more than the width for each column, and the bars around the columns. No column is
narrower than its heading or any of its cells. -/
theorem lines_of_one_length {headers : List String} {calls : List Call} (hne : headers ≠ [])
    (hfirst : calls.filterMap Call.headers? = [])
    (hheaders : ∀ header ∈ headers, '\n' ∉ header.toList ∧ EscapeFree header)
    (hrows : ∀ cells ∈ calls.filterMap Call.row?, cells.length = headers.length ∧
      ∀ cell ∈ cells, '\n' ∉ cell.toList ∧ ClosesEscapes cell) :
    let table := empty.run (.headers headers :: calls)
    (∀ line ∈ Text.lines table.text, Text.visibleLength line =
      (table.widths.map (· + 2)).sum + headers.length + 1) ∧
    (Text.lines table.text).length = (calls.filterMap Call.row?).length + 4 ∧
    table.widths.length = headers.length ∧
    ∀ cells ∈ headers :: calls.filterMap Call.row?, Holds table.widths cells := by
  intro table
  have hone : ([] ++ Call.headers headers :: calls).filterMap Call.headers? = [headers] :=
    congrArg (headers :: ·) hfirst
  have htable := run_around_headers hone
  have hheadings : table.headers = headers := congrArg Table.headers htable
  have hsome : table.headers ≠ [] := hheadings ▸ hne
  have hadded : table.rows = calls.filterMap Call.row? := congrArg Table.rows htable
  have hwidths : table.widths =
      (calls.filterMap Call.row?).foldl widen (headers.map (·.utf8ByteSize)) :=
    congrArg Table.widths htable
  -- Every line is drawn with the widths after the last row, so these have to hold all rows.
  obtain ⟨hlength, hkept, hheld⟩ := holds_foldl_widen (calls.filterMap Call.row?)
    (headers.map (·.utf8ByteSize)) fun cells hm => by
      rw [List.length_map]
      exact (hrows cells hm).1
  rw [← hwidths, List.length_map] at hlength
  rw [← hwidths] at hkept hheld
  have hheading := hkept headers (holds_headers fun header hm => (hheaders header hm).2)
  have hruled : Shows table.rule (lineLength table.widths) ∧ '\n' ∉ table.rule.toList := by
    refine ⟨shows_rule ?_, newLine_notMem_rule table⟩
    rwa [← List.length_pos_iff, hlength, List.length_pos_iff]
  have hlines : ∀ line ∈ table.lines,
      Shows line (lineLength table.widths) ∧ '\n' ∉ line.toList := by
    refine forall_mem_lines hsome hruled (heading_line ?_ hsome ?_) fun cells hm => ?_
    · rwa [hheadings]
    · rwa [hheadings]
    · rw [hadded] at hm
      obtain ⟨hcount, hcells⟩ := hrows cells hm
      refine row_line (hheld cells hm) ?_ hcells
      rwa [← List.length_pos_iff, hcount, List.length_pos_iff]
  have htext : Text.lines table.text = table.lines := by
    refine Text.lines_intercalate ?_ fun line hm => (hlines line hm).2
    rw [lines_of_headers hsome]
    simp
  rw [htext]
  refine ⟨fun line hm => ?_, ?_, hlength, List.forall_mem_cons.2 ⟨hheading, hheld⟩⟩
  · rw [(hlines line hm).1.visibleLength, lineLength, hlength]
  · rw [lines_of_headers hsome, hadded]
    simp

/-- A heading with more bytes than characters, a painted cell and a column at the right. -/
theorem lines_of_one_length_measures :
    let headers := ["größe", "Δ"]
    let calls : List Call :=
      [.align 1 .right, .row ["\x1b[32mok\x1b[0m", "12"], .row ["länger", "1024"]]
    let table := empty.run (.headers headers :: calls)
    headers ≠ [] ∧ calls.filterMap Call.headers? = [] ∧
    (∀ header ∈ headers, '\n' ∉ header.toList ∧ EscapeFree header) ∧
    (∀ cells ∈ calls.filterMap Call.row?, cells.length = headers.length ∧
      ∀ cell ∈ cells, '\n' ∉ cell.toList ∧ ClosesEscapes cell) ∧
    table.widths = [7, 4] ∧ (∀ line ∈ Text.lines table.text, Text.visibleLength line = 18) ∧
    (Text.lines table.text).length = 6 := by
  intro headers calls table
  have hheaders : ∀ header ∈ headers, '\n' ∉ header.toList ∧ EscapeFree header := by decide
  have hrows : ∀ cells ∈ calls.filterMap Call.row?, cells.length = headers.length ∧
      ∀ cell ∈ cells, '\n' ∉ cell.toList ∧ ClosesEscapes cell := by decide
  have hwidths : table.widths = [7, 4] := by decide +kernel
  obtain ⟨hlines, hcount, -, -⟩ :=
    @lines_of_one_length headers calls (List.cons_ne_nil _ _) rfl hheaders hrows
  refine ⟨List.cons_ne_nil _ _, rfl, hheaders, hrows, hwidths, fun line hm => ?_, hcount⟩
  rw [hlines line hm, hwidths]
  rfl

end Table

end LayoutParity
