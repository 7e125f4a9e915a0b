import Mathlib.Algebra.Order.BigOperators.Group.List
import Mathlib.Algebra.Order.Ring.Nat
import Mathlib.Data.List.Forall2
import TelemetryGateway.Console.Table

set_option autoImplicit false

/-!
# Which tables are aligned

A line of a table shows its cells one behind the other, each filled up to the width of its column, with
a gap between two of them. Columns are as wide as their widest cells, up to a maximum. A cell that is
longer than this is cut off there, and the points that tell so stand beyond its column. So a table is
aligned exactly if it has no such cell.
-/

namespace TelemetryGateway.Console

/-- The cells of a line as they stand in it. -/
def fields (widths : List Nat) (cells : List String) : List String :=
  List.zipWith (fun cell width => padRight (truncate cell width) width) cells widths

/-- What stands in a line before the cell with a number: those before it, each with a gap behind it. -/
def front (widths : List Nat) (cells : List String) (i : Nat) : String :=
  String.join (((fields widths cells).take i).map (· ++ "  "))

/-- At which character of a line the cell with a number starts. -/
def cellStart (widths : List Nat) (cells : List String) (i : Nat) : Nat :=
  (front widths cells i).toList.length

/-- Whether all lines of a table are equally long, and each cell starts at the same place in all of
them. -/
structure Aligned (columns : List String) (rows : List (List String)) : Prop where
  lengths : ∀ line ∈ tableLines columns rows, ∀ other ∈ tableLines columns rows,
    line.toList.length = other.toList.length
  starts : ∀ row ∈ rows, ∀ i < columns.length,
    cellStart (columnWidths columns rows) row i = cellStart (columnWidths columns rows) columns i

/-- How far a cell reaches beyond its column. -/
def excess (cell : String) : Nat := if maxWidth < cell.toList.length then 3 else 0

/-- Whether a column is wide enough for a cell, or as wide as columns get. -/
structure Covers (cell : String) (width : Nat) : Prop where
  least : min maxWidth cell.toList.length ≤ width
  most : width ≤ maxWidth

/-! ### Cells -/

theorem length_truncate (s : String) (max : Nat) :
    (truncate s max).toList.length = if s.toList.length ≤ max then s.toList.length else max + 3 := by
  rw [truncate]
  split
  · rfl
  · next long =>
    rw [String.toList_ofList, List.length_append, List.length_take, min_eq_left (by omega)]
    rfl

theorem excess_eq_zero_iff {cell : String} : excess cell = 0 ↔ cell.toList.length ≤ maxWidth := by
  rw [excess]
  split
  · omega
  · omega

namespace Covers

variable {cell : String} {width : Nat}

theorem length_eq (covers : Covers cell width) :
    (padRight (truncate cell width) width).toList.length = width + excess cell := by
  rcases covers with ⟨least, most⟩
  rw [length_padRight, length_truncate, excess]
  split <;> split <;> omega

/-- A cell that is covered is shown up to the greatest width, whatever the width of its column. -/
theorem truncate_eq (covers : Covers cell width) : truncate cell width = truncate cell maxWidth := by
  rcases covers with ⟨least, most⟩
  rw [truncate, truncate]
  by_cases short : cell.toList.length ≤ maxWidth
  · rw [if_pos short, if_pos (by omega)]
  · have widest : width = maxWidth := by omega
    rw [widest]

end Covers

/-! ### Columns -/

theorem le_foldl_max (cells : List String) (start : Nat) :
    start ≤ cells.foldl (fun w cell => max w cell.toList.length) start ∧
      ∀ cell ∈ cells, cell.toList.length ≤ cells.foldl (fun w cell => max w cell.toList.length) start := by
  induction cells generalizing start with
  | nil => exact ⟨le_refl start, nofun⟩
  | cons first rest ih =>
    rcases ih (max start first.toList.length) with ⟨widened, others⟩
    rw [List.foldl_cons, List.forall_mem_cons]
    exact ⟨le_of_max_le_left widened, le_of_max_le_right widened, others⟩

theorem covers_header (header : String) (rows : List (List String)) (i : Nat) :
    Covers header (columnWidth header rows i) := by
  have widest := (le_foldl_max (rows.filterMap fun r => r[i]?) header.toList.length).1
  exact ⟨min_le_min_left maxWidth widest, min_le_left _ _⟩

theorem covers_cell {rows : List (List String)} {row : List String} (among : row ∈ rows) {i : Nat}
    {cell : String} (shown : row[i]? = some cell) (header : String) :
    Covers cell (columnWidth header rows i) := by
  have inside : cell ∈ rows.filterMap fun r => r[i]? := List.mem_filterMap.2 ⟨row, among, shown⟩
  have widest := (le_foldl_max (rows.filterMap fun r => r[i]?) header.toList.length).2 cell inside
  exact ⟨min_le_min_left maxWidth widest, min_le_left _ _⟩

theorem getElem?_columnWidths (columns : List String) (rows : List (List String)) (i : Nat) :
    (columnWidths columns rows)[i]? = columns[i]?.map fun header => columnWidth header rows i := by
  rw [columnWidths, List.getElem?_map, List.getElem?_zipIdx, Option.map_map]
  simp [Function.comp_def]

theorem length_columnWidths (columns : List String) (rows : List (List String)) :
    (columnWidths columns rows).length = columns.length := by
  rw [columnWidths, List.length_map, List.length_zipIdx]

/-- The columns of a table cover all its cells. -/
theorem covers_cells {columns : List String} {rows : List (List String)}
    (complete : ∀ row ∈ rows, row.length = columns.length) {cells : List String}
    (among : cells ∈ columns :: rows) :
    List.Forall₂ Covers cells (columnWidths columns rows) := by
  have whole : cells.length = columns.length := by
    rcases List.mem_cons.1 among with rfl | shown
    · rfl
    · exact complete cells shown
  rw [List.forall₂_iff_get]
  refine ⟨whole.trans (length_columnWidths columns rows).symm, fun i inside within => ?_⟩
  have named : columns[i]? = some columns[i] := List.getElem?_eq_getElem (whole ▸ inside)
  have wide : (columnWidths columns rows)[i] = columnWidth columns[i] rows i := by
    rw [← Option.some_inj, ← List.getElem?_eq_getElem within, getElem?_columnWidths, named]
    rfl
  rw [List.get_eq_getElem, List.get_eq_getElem, wide]
  rcases List.mem_cons.1 among with rfl | shown
  · exact covers_header cells[i] rows i
  · exact covers_cell shown (List.getElem?_eq_getElem inside) columns[i]

/-! ### Lines -/

theorem tableLine_eq_joined (widths : List Nat) (cells : List String) :
    tableLine widths cells = String.intercalate "  " (fields widths cells) := rfl

theorem take_fields (widths : List Nat) (cells : List String) (i : Nat) :
    (fields widths cells).take i = fields (widths.take i) (cells.take i) := by
  rw [fields, List.take_zipWith, fields]

theorem length_joined_fields {cells : List String} {widths : List Nat}
    (covered : List.Forall₂ Covers cells widths) :
    (String.join ((fields widths cells).map (· ++ "  "))).toList.length =
      (widths.map (· + 2)).sum + (cells.map excess).sum := by
  induction covered with
  | nil => rfl
  | @cons cell width cells widths covers later ih =>
    have gap : "  ".toList.length = 2 := by decide
    rw [fields, List.zipWith_cons_cons, List.map_cons, String.join_cons, String.toList_append,
      String.toList_append, List.length_append, List.length_append, covers.length_eq, gap]
    rw [fields] at ih
    rw [ih, List.map_cons, List.map_cons, List.sum_cons, List.sum_cons]
    omega

theorem cellStart_eq {cells : List String} {widths : List Nat}
    (covered : List.Forall₂ Covers cells widths) (i : Nat) :
    cellStart widths cells i =
      ((widths.take i).map (· + 2)).sum + ((cells.take i).map excess).sum := by
  rw [cellStart, front, take_fields]
  exact length_joined_fields (List.forall₂_take i covered)

/-- Behind the last of some texts that are joined by gaps no gap stands. -/
theorem joined_append_gap {texts : List String} (some : texts ≠ []) :
    String.intercalate "  " texts ++ "  " = String.join (texts.map (· ++ "  ")) := by
  induction texts with
  | nil => exact absurd rfl some
  | cons text rest ih =>
    cases rest with
    | nil => simp
    | cons next others =>
      rw [String.intercalate_cons_cons, List.map_cons, String.join_cons, ← ih (List.cons_ne_nil _ _),
        String.append_assoc, String.append_assoc]

theorem length_dashes_add_two {widths : List Nat} (some : widths ≠ []) :
    (dashes widths).toList.length + 2 = (widths.map (· + 2)).sum := by
  have several : 0 < widths.length := List.length_pos_of_ne_nil some
  have gaps : (widths.map (· + 2)).sum = widths.sum + 2 * widths.length := by
    rw [List.sum_map_add, List.map_id', List.map_const', List.sum_replicate_nat, Nat.mul_comm]
  rw [dashes, String.toList_ofList, List.length_replicate, ← List.sum_eq_foldl, gaps]
  omega

theorem length_tableLine {cells : List String} {widths : List Nat}
    (covered : List.Forall₂ Covers cells widths) :
    (tableLine widths cells).toList.length =
      (dashes widths).toList.length + (cells.map excess).sum := by
  cases covered with
  | nil => rfl
  | @cons cell width cells widths covers later =>
    have some : fields (width :: widths) (cell :: cells) ≠ [] := List.cons_ne_nil _ _
    have dashed := length_dashes_add_two (List.cons_ne_nil width widths)
    have joined := length_joined_fields (.cons covers later)
    have gap : "  ".toList.length = 2 := by decide
    rw [← joined_append_gap some, ← tableLine_eq_joined, String.toList_append, List.length_append, gap,
      ← dashed] at joined
    omega

/-- What stands before and behind one of some texts that are joined by gaps. -/
theorem exists_behind {texts : List String} {i : Nat} {text : String} (among : texts[i]? = some text) :
    ∃ back, String.intercalate "  " texts =
      String.join ((texts.take i).map (· ++ "  ")) ++ text ++ back := by
  induction texts generalizing i with
  | nil => simp at among
  | cons first rest ih =>
    cases i with
    | zero =>
      rcases Option.some.inj among
      cases rest with
      | nil => exact ⟨"", by simp⟩
      | cons next others =>
        refine ⟨"  " ++ String.intercalate "  " (next :: others), ?_⟩
        rw [String.intercalate_cons_cons, List.take_zero, List.map_nil, String.join_nil,
          String.empty_append, String.append_assoc]
    | succ i =>
      rw [List.getElem?_cons_succ] at among
      rcases ih among with ⟨back, whole⟩
      cases rest with
      | nil => simp at among
      | cons next others =>
        refine ⟨back, ?_⟩
        rw [String.intercalate_cons_cons, whole, List.take_succ_cons, List.map_cons, String.join_cons]
        simp only [String.append_assoc]

theorem exists_width {cells : List String} {widths : List Nat}
    (covered : List.Forall₂ Covers cells widths) {i : Nat} {cell : String}
    (shown : cells[i]? = some cell) : ∃ width, widths[i]? = some width ∧ Covers cell width := by
  induction covered generalizing i with
  | nil => simp at shown
  | @cons first width cells widths covers later ih =>
    cases i with
    | zero =>
      rcases Option.some.inj shown
      exact ⟨width, rfl, covers⟩
    | succ i => exact ih shown

/-- A line shows each cell where the cell starts. -/
theorem exists_shown {cells : List String} {widths : List Nat}
    (covered : List.Forall₂ Covers cells widths) {i : Nat} {cell : String}
    (shown : cells[i]? = some cell) :
    ∃ back, tableLine widths cells = front widths cells i ++ truncate cell maxWidth ++ back := by
  rcases exists_width covered shown with ⟨width, wide, covers⟩
  have field : (fields widths cells)[i]? = some (padRight (truncate cell width) width) := by
    rw [fields, List.getElem?_zipWith, shown, wide]
  rcases exists_behind field with ⟨back, whole⟩
  have filled : ∃ padding,
      padRight (truncate cell width) width = truncate cell maxWidth ++ padding := by
    refine ⟨String.ofList (List.replicate (width - (truncate cell width).toList.length) ' '), ?_⟩
    rw [padRight, String.ofList_append, String.ofList_toList, covers.truncate_eq]
  rcases filled with ⟨padding, filled⟩
  refine ⟨padding ++ back, ?_⟩
  rw [tableLine_eq_joined, whole, filled, front]
  simp only [String.append_assoc]

/-! ### Tables -/

theorem sum_excess_eq_zero_iff {cells : List String} :
    (cells.map excess).sum = 0 ↔ ∀ cell ∈ cells, cell.toList.length ≤ maxWidth := by
  rw [List.sum_eq_zero_iff, List.forall_mem_map]
  simp only [excess_eq_zero_iff]

section

variable {columns : List String} {rows : List (List String)}

theorem Aligned.cells_fit (complete : ∀ row ∈ rows, row.length = columns.length)
    (aligned : Aligned columns rows) {cells : List String} (among : cells ∈ columns :: rows) :
    ∀ cell ∈ cells, cell.toList.length ≤ maxWidth := by
  have line : tableLine (columnWidths columns rows) cells ∈ tableLines columns rows := by
    rcases List.mem_cons.1 among with rfl | shown
    · exact List.mem_cons_self
    · exact List.mem_cons_of_mem _ (List.mem_cons_of_mem _ (List.mem_map_of_mem shown))
  have dashed : dashes (columnWidths columns rows) ∈ tableLines columns rows :=
    List.mem_cons_of_mem _ List.mem_cons_self
  have same := aligned.lengths _ line _ dashed
  rw [length_tableLine (covers_cells complete among)] at same
  exact sum_excess_eq_zero_iff.1 (by omega)

theorem aligned_of_cells_fit (complete : ∀ row ∈ rows, row.length = columns.length)
    (fit : ∀ cells ∈ columns :: rows, ∀ cell ∈ cells, cell.toList.length ≤ maxWidth) :
    Aligned columns rows := by
  have lengths : ∀ line ∈ tableLines columns rows,
      line.toList.length = (dashes (columnWidths columns rows)).toList.length := by
    have shown : ∀ cells ∈ columns :: rows, (tableLine (columnWidths columns rows) cells).toList.length =
        (dashes (columnWidths columns rows)).toList.length := by
      intro cells among
      rw [length_tableLine (covers_cells complete among), sum_excess_eq_zero_iff.2 (fit cells among),
        Nat.add_zero]
    rw [List.forall_mem_cons] at shown
    rw [tableLines, List.forall_mem_cons, List.forall_mem_cons, List.forall_mem_map]
    exact ⟨shown.1, rfl, shown.2⟩
  constructor
  · intro line among other others
    rw [lengths line among, lengths other others]
  · intro row among i inside
    have start : ∀ cells ∈ columns :: rows, cellStart (columnWidths columns rows) cells i =
        (((columnWidths columns rows).take i).map (· + 2)).sum := by
      intro cells shown
      have none : ((cells.take i).map excess).sum = 0 :=
        sum_excess_eq_zero_iff.2 fun cell before => fit cells shown cell (List.mem_of_mem_take before)
      rw [cellStart_eq (covers_cells complete shown), none, Nat.add_zero]
    rw [start row (List.mem_cons_of_mem _ among), start columns List.mem_cons_self]

end

/-- A table with one cell for each column is aligned exactly if none of its names and cells is longer
than columns get. Every cell stands whole where it starts, or cut off with three points behind it; its
start and the length of its line are those of the columns, but for what cells before it, or any in the
line, reach beyond theirs. -/
theorem aligned_iff_cells_fit (columns : List String) (rows : List (List String))
    (complete : ∀ row ∈ rows, row.length = columns.length) :
    (Aligned columns rows ↔
      ∀ cells ∈ columns :: rows, ∀ cell ∈ cells, cell.toList.length ≤ maxWidth) ∧
    ∀ widths, widths = columnWidths columns rows → ∀ cells ∈ columns :: rows,
      (tableLine widths cells).toList.length =
        (dashes widths).toList.length + (cells.map excess).sum ∧
      ∀ i cell, cells[i]? = some cell →
        (∃ back, tableLine widths cells = front widths cells i ++ truncate cell maxWidth ++ back) ∧
        cellStart widths cells i =
          ((widths.take i).map (· + 2)).sum + ((cells.take i).map excess).sum := by
  constructor
  · constructor
    · intro aligned cells among
      exact aligned.cells_fit complete among
    · exact aligned_of_cells_fit complete
  · rintro widths rfl cells among
    have covered := covers_cells complete among
    refine ⟨length_tableLine covered, fun i cell shown => ⟨?_, ?_⟩⟩
    · exact exists_shown covered shown
    · exact cellStart_eq covered i

/-- A description of sixty-one characters is shown with sixty-three, three more than its column has. -/
theorem long_description_not_aligned :
    let columns := ["TOOL", "DESCRIPTION"]
    let description := String.ofList (List.replicate 61 'x')
    let rows := [["t", description]]
    (∀ row ∈ rows, row.length = columns.length) ∧ ¬ Aligned columns rows ∧
      (tableLines columns rows).map (·.toList.length) = [66, 66, 69] := by
  intro columns description rows
  have complete : ∀ row ∈ rows, row.length = columns.length := by decide
  refine ⟨complete, ?_, by decide +kernel⟩
  rw [(aligned_iff_cells_fit columns rows complete).1]
  intro fit
  have short := fit ["t", description] (by simp [rows]) description (by simp)
  simp [description, maxWidth] at short

end TelemetryGateway.Console
