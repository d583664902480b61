import Metrology.Report.Table

/-!
# Plain consoles

Lines, tables and panels as plain text, for a console without colors. Cells are padded to the width
of their column, and the markup in them is left out.
-/

namespace Metrology.Report

/-- The marks that stand in shown texts. -/
def marks : List String := ["[b]", "[/b]", "[red]", "[green]"]

def unmarked (s : String) : String := marks.foldl (fun s m => s.replace m "") s

def pad (width : Nat) (side : Justify) (s : String) : String :=
  let blanks := String.ofList (List.replicate (width - s.length) ' ')
  match side with
  | .left => s ++ blanks
  | .right => blanks ++ s

def columnWidth (rows : List (List String)) (i : Nat) : Nat :=
  rows.foldl (fun w r => max w (r.getD i "").length) 0

def rowLine (columns : List (Nat × Justify)) (r : List String) : String :=
  String.intercalate "  " ((columns.zip r).map fun p => pad p.1.1 p.1.2 p.2)

/-- The lines of a table. A table whose headings are all empty has no line for them. -/
def Table.lines (t : Table) : List String :=
  let headers := t.headers.map Prod.fst
  let rows := t.rows.map fun r => r.map unmarked
  let headed := if headers.all String.isEmpty then rows else headers :: rows
  let columns := t.headers.mapIdx fun i h => (columnWidth headed i, h.2)
  t.title.toList ++ headed.map (rowLine columns)

/-- The lines of what a panel frames. -/
def Content.lines : Content → List String
  | .line s => [unmarked s]
  | .table t => t.lines

def Shown.lines : Shown → List String
  | .line s => [unmarked s]
  | .table t => t.lines
  | .panel p => p.title :: p.content.lines.map ("  " ++ ·)

end Metrology.Report
