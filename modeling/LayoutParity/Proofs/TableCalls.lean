import LayoutParity.Table
import Mathlib.Data.List.Nodup
import Mathlib.Data.List.Perm.Basic

/-!
# Calls in any order

A table is put together by a sequence of calls. Of a sequence that sets no headings, each part of
the table takes the calls that are about it and no others (`Table.run_eq`): its rows are the rows
added, its widths hold these rows, its sides are set column by column, and its colour is what was
said last. So only the order of calls about one part can matter, and sides of different columns can
be set in any order (`Table.setSides_perm`).

Headings start the columns anew, whatever was said about them before (`Table.run_around_headers`).
Rows and sides are therefore told apart by whether they come before the headings or after them, and
a sequence that keeps them apart gives the same table however it is rearranged.
-/

namespace LayoutParity

namespace Table

/-- What a table is told while it is put together. -/
inductive Call where
  | headers (texts : List String)
  | row (cells : List String)
  | align (column : Nat) (side : Side)
  | color (on : Bool)
deriving DecidableEq

namespace Call

/-- The headings that a call sets. -/
def headers? : Call → Option (List String)
  | headers texts => some texts
  | row _ | align .. | color _ => none

/-- The row that a call adds. -/
def row? : Call → Option (List String)
  | row cells => some cells
  | headers _ | align .. | color _ => none

/-- The column whose side a call sets, and the side. -/
def side? : Call → Option (Nat × Side)
  | align column side => some (column, side)
  | headers _ | row _ | color _ => none

/-- Whether a call sets colour on or off. -/
def color? : Call → Option Bool
  | color on => some on
  | headers _ | row _ | align .. => none

end Call

/-- The table after a call. -/
def after (table : Table) : Call → Table
  | .headers texts => table.withHeaders texts
  | .row cells => table.addRow cells
  | .align column side => table.withSide column side
  | .color on => table.withColor on

/-- The table after a sequence of calls. -/
def run (table : Table) (calls : List Call) : Table :=
  calls.foldl after table

/-- The sides of columns after some of them are set. -/
def setSides (sides : List Side) (changes : List (Nat × Side)) : List Side :=
  changes.foldl (fun sides change => sides.set change.1 change.2) sides

/-! ## Each part takes its own calls -/

/-- Without new headings each part of a table is that of before with the calls about it made. -/
theorem run_eq {calls : List Call} (h : calls.filterMap Call.headers? = []) (table : Table) :
    table.run calls =
      { headers := table.headers
        rows := table.rows ++ calls.filterMap Call.row?
        widths := (calls.filterMap Call.row?).foldl widen table.widths
        sides := setSides table.sides (calls.filterMap Call.side?)
        color := (calls.filterMap Call.color?).getLast?.getD table.color } := by
  induction calls generalizing table with
  | nil => simp [run, setSides]
  | cons call rest ih =>
    rw [run, List.foldl_cons, ← run]
    cases call with
    | headers texts => simp [Call.headers?] at h
    | row cells =>
      rw [ih h, after, addRow]
      simp [List.filterMap_cons, Call.row?, Call.side?, Call.color?]
    | align column side =>
      rw [ih h, after, withSide]
      simp [List.filterMap_cons, Call.row?, Call.side?, Call.color?, setSides]
    | color on =>
      rw [ih h, after, withColor]
      simp [List.filterMap_cons, Call.row?, Call.side?, Call.color?, List.getLast?_cons]

/-- There is one order for a single call. -/
theorem eq_of_perm_of_length_le_one {α : Type} {members others : List α}
    (hp : members.Perm others) (h : members.length ≤ 1) : members = others := by
  match members with
  | [] => exact (List.nil_perm.1 hp).symm
  | [_] => exact List.singleton_perm.1 hp

/-- Sides of different columns can be set in any order. -/
theorem setSides_perm {changes others : List (Nat × Side)} (hp : changes.Perm others)
    (hn : (changes.map (·.1)).Nodup) (sides : List Side) :
    setSides sides changes = setSides sides others := by
  refine hp.foldl_eq' (fun change hc other ho sides => ?_) sides
  by_cases heq : change = other
  · rw [heq]
  · have hcolumns : change.1 ≠ other.1 := fun h => heq (List.inj_on_of_nodup_map hn hc ho h)
    exact List.set_comm _ _ hcolumns

/-- A call that sets headings is about nothing else. -/
theorem filterMap_around_headers {α : Type} {about : Call → Option α} {headers : List String}
    (h : about (.headers headers) = none) (before after : List Call) :
    (before ++ .headers headers :: after).filterMap about =
      before.filterMap about ++ after.filterMap about := by
  rw [List.filterMap_append, List.filterMap_cons_none h]

/-- Setting headings keeps the rows and the colour, and the columns are those of the headings, as if
there had been no calls about them. -/
theorem run_around_headers {headers : List String} {before after : List Call}
    (h : (before ++ .headers headers :: after).filterMap Call.headers? = [headers]) :
    empty.run (before ++ .headers headers :: after) =
      { headers
        rows := before.filterMap Call.row? ++ after.filterMap Call.row?
        widths := (after.filterMap Call.row?).foldl widen (headers.map (·.utf8ByteSize))
        sides := setSides (headers.map fun _ => .left) (after.filterMap Call.side?)
        color := (before.filterMap Call.color? ++ after.filterMap Call.color?).getLast?.getD
          true } := by
  have hlength := congrArg List.length h
  have hheaders : (Call.headers headers :: after).filterMap Call.headers? =
      headers :: after.filterMap Call.headers? := rfl
  rw [List.filterMap_append, hheaders, List.length_append, List.length_cons,
    List.length_singleton] at hlength
  have hbefore : before.filterMap Call.headers? = [] := List.length_eq_zero_iff.1 (by omega)
  have hafter : after.filterMap Call.headers? = [] := List.length_eq_zero_iff.1 (by omega)
  have hsplit : empty.run (before ++ .headers headers :: after) =
      ((empty.run before).withHeaders headers).run after := by
    rw [run, List.foldl_append]
    rfl
  rw [hsplit, run_eq hafter, run_eq hbefore]
  simp only [withHeaders, empty, List.nil_append, List.getLast?_append, Option.getD_or]

/-- The second sequence makes the calls of the first in another order, its rows in the same. The
headings are set once, the side of a column at most once and only if the column has a heading, and
the colour at most once. -/
structure Rearranged (headers : List String) (calls others : List Call) : Prop where
  perm : calls.Perm others
  rows : calls.filterMap Call.row? = others.filterMap Call.row?
  headings : calls.filterMap Call.headers? = [headers]
  columns : ∀ change ∈ calls.filterMap Call.side?, change.1 < headers.length
  sides : ((calls.filterMap Call.side?).map (·.1)).Nodup
  color : (calls.filterMap Call.color?).length ≤ 1

/-- Headings that come after a row or after the side of a column is set forget both: the column is
as wide as its heading although the row has a longer cell, and its cells stand at the left. -/
theorem headings_start_columns_anew :
    let row := Call.row ["radius"]
    let headings := Call.headers ["at"]
    let right := Call.align 0 .right
    Rearranged ["at"] [headings, row] [row, headings] ∧
    (empty.run [headings, row]).text ≠ (empty.run [row, headings]).text ∧
    Rearranged ["at"] [headings, right, row] [right, headings, row] ∧
    (empty.run [headings, right, row]).text ≠ (empty.run [right, headings, row]).text := by
  intro row headings right
  refine ⟨⟨.swap .., rfl, rfl, by decide, by decide, by decide⟩, by decide +kernel,
    ⟨.swap .., rfl, rfl, by decide, by decide, by decide⟩, by decide +kernel⟩

/-- Calls can be made in any order around the headings. Let a sequence of calls be rearranged, the
rows staying in order, so that every row and every side that was set before the headings is still
set before them, and likewise after them. Then the table has the same text. -/
theorem text_of_rearranged {headers : List String} {before after before' after' : List Call}
    (h : Rearranged headers (before ++ .headers headers :: after)
      (before' ++ .headers headers :: after'))
    (hrows : before.filterMap Call.row? = before'.filterMap Call.row?)
    (hsides : (before.filterMap Call.side?).Perm (before'.filterMap Call.side?)) :
    (empty.run (before ++ .headers headers :: after)).text =
      (empty.run (before' ++ .headers headers :: after')).text := by
  have hheadings : (before' ++ .headers headers :: after').filterMap Call.headers? = [headers] := by
    have hperm := h.perm.filterMap Call.headers?
    rw [h.headings] at hperm
    exact (List.singleton_perm.1 hperm).symm
  have hlater : after.filterMap Call.row? = after'.filterMap Call.row? := by
    have hall := h.rows
    rw [filterMap_around_headers rfl, filterMap_around_headers rfl, hrows] at hall
    exact List.append_cancel_left hall
  have hcolor : before.filterMap Call.color? ++ after.filterMap Call.color? =
      before'.filterMap Call.color? ++ after'.filterMap Call.color? := by
    have hall := h.perm.filterMap Call.color?
    have hone := h.color
    rw [filterMap_around_headers rfl] at hall hone
    rw [filterMap_around_headers rfl] at hall
    exact eq_of_perm_of_length_le_one hall hone
  have hlaterSides : (after.filterMap Call.side?).Perm (after'.filterMap Call.side?) := by
    have hall := h.perm.filterMap Call.side?
    rw [filterMap_around_headers rfl, filterMap_around_headers rfl] at hall
    exact (List.perm_append_left_iff _).1 (hall.trans (hsides.symm.append_right _))
  have hdistinct : ((after.filterMap Call.side?).map (·.1)).Nodup := by
    have hall := h.sides
    rw [filterMap_around_headers rfl, List.map_append] at hall
    exact hall.of_append_right
  rw [run_around_headers h.headings, run_around_headers hheadings, hrows, hlater, hcolor,
    setSides_perm hlaterSides hdistinct]

/-- A row before the headings and one after them, two sides and the colour, each set elsewhere. -/
theorem text_of_rearranged_offsets :
    let headers := ["field", "offset"]
    let before : List Call := [.color false, .row ["origin", "0"]]
    let after : List Call := [.align 1 .right, .row ["radius", "12"], .align 0 .left]
    let before' : List Call := [.row ["origin", "0"]]
    let after' : List Call := [.row ["radius", "12"], .align 0 .left, .color false, .align 1 .right]
    Rearranged headers (before ++ .headers headers :: after)
      (before' ++ .headers headers :: after') ∧
    before.filterMap Call.row? = before'.filterMap Call.row? ∧
    (before.filterMap Call.side?).Perm (before'.filterMap Call.side?) ∧
    (empty.run (before ++ .headers headers :: after)).text =
      (empty.run (before' ++ .headers headers :: after')).text := by
  intro headers before after before' after'
  have h : Rearranged headers (before ++ .headers headers :: after)
      (before' ++ .headers headers :: after') :=
    ⟨by decide, rfl, rfl, by decide, by decide, by decide⟩
  exact ⟨h, rfl, .nil, text_of_rearranged h rfl .nil⟩

end Table

end LayoutParity
