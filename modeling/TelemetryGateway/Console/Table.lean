import TelemetryGateway.Json.Printer

set_option autoImplicit false

/-!
# Cells and tables

Values are shown as cells of text; a number with a fraction gets three decimal places. A table has a
header, a dashed line and one line per row. A column is as wide as its widest cell, but at most
sixty characters.
-/

namespace TelemetryGateway.Console

def cellText : Json → String
  | .str s => s
  | .null => "-"
  | .num (.float x) => if x.isWhole then (Numeral.float x).text else x.toThousandths
  | v => v.compact

/-- The first `max` characters of a text, with three points behind them where more are cut off. -/
def truncate (s : String) (max : Nat) : String :=
  if s.toList.length ≤ max then s else String.ofList (s.toList.take max ++ "...".toList)

def padRight (s : String) (width : Nat) : String :=
  String.ofList (s.toList ++ List.replicate (width - s.toList.length) ' ')

theorem length_padRight (s : String) (width : Nat) :
    (padRight s width).toList.length = max width s.toList.length := by
  simp only [padRight, String.toList_ofList, List.length_append, List.length_replicate]
  omega

def maxWidth : Nat := 60

def columnWidth (header : String) (rows : List (List String)) (i : Nat) : Nat :=
  min maxWidth ((rows.filterMap fun r => r[i]?).foldl (fun w cell => max w cell.toList.length)
    header.toList.length)

def columnWidths (columns : List String) (rows : List (List String)) : List Nat :=
  columns.zipIdx.map fun c => columnWidth c.1 rows c.2

/-- Cells in columns of given widths. -/
def tableLine (widths : List Nat) (cells : List String) : String :=
  String.intercalate "  " (List.zipWith (fun cell width => padRight (truncate cell width) width) cells widths)

def dashes (widths : List Nat) : String :=
  String.ofList (List.replicate (widths.foldl (· + ·) 0 + 2 * (widths.length - 1)) '-')

def tableLines (columns : List String) (rows : List (List String)) : List String :=
  let widths := columnWidths columns rows
  tableLine widths columns :: dashes widths :: rows.map (tableLine widths)

end TelemetryGateway.Console
