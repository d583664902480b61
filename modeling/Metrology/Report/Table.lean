import Metrology.Decimal.Layout
import Metrology.Statistics

/-!
# Tables and panels

What is shown on a console: plain lines, tables, and panels that frame a line or a table. The cells
hold text with markup; how they are drawn, and whether they can be, is left to the console.
-/

namespace Metrology.Report

/-- The side of its column that a cell keeps to. -/
inductive Justify where
  | left
  | right
deriving DecidableEq, Repr

structure Table where
  title : Option String
  headers : List (String × Justify)
  rows : List (List String)

inductive Content where
  | line (s : String)
  | table (t : Table)

structure Panel where
  title : String
  content : Content

inductive Shown where
  | line (s : String)
  | table (t : Table)
  | panel (p : Panel)

/-- What shows lines, tables and panels. It may refuse some of them, with a message. -/
structure Console where
  refusal? : Shown → Option String

/-- A console that knows no markup has no reason to refuse anything. -/
def Console.plain : Console := ⟨fun _ => none⟩

/-- Numbered measurements, with magnitude and unit in columns of their own. -/
def table (ms : List (Measurement Float)) (title : String) : Table where
  title := some title
  headers := [("#", .right), ("Magnitude", .right), ("Unit", .left)]
  rows := ms.mapIdx fun i m =>
    [toString (i + 1), Decimal.briefText m.magnitude, m.unit.name]

def statisticsLines (s : Statistics.Summary Float) : List String := [
  "Mean: " ++ Decimal.briefText s.mean,
  "Mode: " ++ Decimal.briefText s.mode,
  "Median: " ++ Decimal.briefText s.median]

def statisticsPanel (s : Statistics.Summary Float) (title : String) : Panel where
  title
  content := .table {
    title := none
    headers := [("", .left), ("", .left)]
    rows := [
      ["[b]Count[/b]: ", toString s.count],
      ["[b]Mean[/b]: ", Decimal.briefText s.mean],
      ["[b]Mode[/b]: ", Decimal.briefText s.mode],
      ["[b]Median[/b]: ", Decimal.briefText s.median]] }

end Metrology.Report
