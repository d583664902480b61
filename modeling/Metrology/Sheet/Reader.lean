import Metrology.Sheet.Basic
import Metrology.Sorting.Basic
import Metrology.Statistics
import Metrology.Storage.Basic

/-!
# Readers

A reader belongs to one file and remembers the sheet that it last read from it. A reading that fails
leaves that sheet as it was, and before the first successful reading there is nothing to look at.
-/

namespace Metrology

structure Reader where
  /-- The file's path, as it is shown. -/
  path : String
  /-- Does a bad line end the reading? -/
  strict : Bool
  /-- The sheet that was last read. -/
  sheet? : Option Sheet

namespace Reader

/-- A reader that has read nothing yet. -/
def new (path : String) (strict : Bool) : Reader := ⟨Path.shown path, strict, none⟩

/-- Read the file. If it holds no text, the lines that are handed out before are read, and one of
them may end the reading first. -/
def read (r : Reader) (files : Storage) : Reported Sheet × Reader :=
  match files.readText r.path with
  | .error f =>
    let begun := Sheet.ofLines r.strict r.path 1 (files.linesBeforeFault r.path)
    (⟨begun.notices, begun.outcome >>= fun _ => throw f⟩, r)
  | .ok text =>
    let reported := Sheet.ofText r.strict r.path text
    match reported.outcome with
    | .ok s => (reported, { r with sheet? := some s })
    | .error _ => (reported, r)

/-- The sheet that was last read. -/
def sheet (r : Reader) : Result Float Sheet :=
  match r.sheet? with
  | some s => pure s
  | none => throw (.notLoaded r.path)

end Reader

/-! ### Orders -/

/-- What results are ordered by: the base unit's name, and within one name the magnitude. -/
structure OrderKey where
  base : String
  magnitude : Float

namespace OrderKey

def of (m : Measurement Float) : Result Float OrderKey := do
  let b ← m.unit.base
  return ⟨b.name, ← m.baseMagnitude⟩

/-- Does the first key come before the second? -/
def lt (k l : OrderKey) : Bool :=
  if k.base = l.base then k.magnitude < l.magnitude else k.base < l.base

end OrderKey

namespace Sheet

/-- All values in ascending order, those with one base unit together. -/
def sortedValues (s : Sheet) : Result Float (List (Measurement Float)) := do
  let keyed ← s.values.mapM fun m => do return (← OrderKey.of m, m)
  let sorted ← Sorting.sort (fun a b => pure (OrderKey.lt a.1 b.1)) keyed
  return sorted.map Prod.snd

def numbered (ms : List (Measurement Float)) : List String :=
  ms.mapIdx fun i m => toString (i + 1) ++ ". " ++ m.text

/-- Mean, median and mode of all values. -/
def statistics (lib : Statistics.Numerics Float) (s : Sheet) :
    Result Float (Statistics.Summary Float) :=
  Statistics.summarize lib s.values

end Sheet

/-! ### Views -/

/-- What a reader can be asked for. -/
inductive View where
  | results
  | skipped
  | values
  | operands
  | sortedValues
  | numberedTexts
  | texts
  | sortedTexts
  | statistics

/-- What it answers. -/
inductive Answer where
  | evaluated (es : List Evaluated)
  | skipped (ks : List Skipped)
  | measurements (ms : List (Measurement Float))
  | texts (ts : List String)
  | summary (s : Statistics.Summary Float)

/-- What a sheet shows. -/
def View.ofSheet (lib : Statistics.Numerics Float) (s : Sheet) : View → Result Float Answer
  | .results => pure (.evaluated s.results)
  | .skipped => pure (.skipped s.skipped)
  | .values => pure (.measurements s.values)
  | .operands => pure (.measurements s.operands)
  | .sortedValues => return .measurements (← s.sortedValues)
  | .numberedTexts => pure (.texts (Sheet.numbered s.values))
  | .texts => pure (.texts (s.values.map Measurement.text))
  | .sortedTexts => return .texts ((← s.sortedValues).map Measurement.text)
  | .statistics => return .summary (← s.statistics lib)

/-- What a reader shows. -/
def Reader.view (lib : Statistics.Numerics Float) (r : Reader) (v : View) : Result Float Answer :=
  r.sheet >>= v.ofSheet lib

end Metrology
