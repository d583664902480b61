import Metrology.Fault.Message
import Metrology.Notice
import Metrology.Sheet.Line
import Metrology.Text.Lines

/-!
# Sheets of expressions

A sheet is a text with one expression on each line. Blank lines and lines that begin with `#` are
passed over. A line that cannot be read or evaluated is skipped with the reason, or ends the
reading if the reading is strict. Faults that do not lie in the line itself always end it.
-/

namespace Metrology

/-- A line that has a value. -/
structure Evaluated where
  /-- The line's number, counted from one. -/
  line : Nat
  text : String
  operands : List (Measurement Float)
  operators : List Operator
  result : Measurement Float

/-- A line that has none. -/
structure Skipped where
  /-- The line's number, counted from one. -/
  line : Nat
  text : String
  reason : Fault Float

/-- What a sheet comes to: the lines with a value and those without, each in order. -/
structure Sheet where
  results : List Evaluated
  skipped : List Skipped

/-- What becomes of one line. -/
inductive LineOutcome where
  /-- It holds no expression. -/
  | passed
  | evaluated (e : Evaluated)
  | skipped (s : Skipped)
  /-- It ends the reading. -/
  | failed (f : Fault Float)

/-- Does a line without blanks at its ends hold no expression? -/
def isPassedOver (line : String) : Bool := line.isEmpty || line.startsWith "#"

def LineOutcome.of (strict : Bool) (number : Nat) (raw : String) : LineOutcome :=
  let line := Text.strip raw
  if isPassedOver line then .passed
  else match Line.evaluate line with
    | .ok ((operands, operators), result) => .evaluated ⟨number, line, operands, operators, result⟩
    | .error f => if f.isMeasuring && !strict then .skipped ⟨number, line, f⟩ else .failed f

/-! ### Notices -/

/-- What is reported about a line in the file of the given name. -/
def LineOutcome.notices (path : String) : LineOutcome → List Notice
  | .skipped s =>
    [⟨.warning, .reader,
      "Skipping line " ++ toString s.line ++ " of " ++ path ++ " due to error: " ++
        s.reason.message⟩]
  | .evaluated e =>
    if e.result.isNonnegative then []
    else [⟨.warning, .reader,
      "Line " ++ toString e.line ++ " of " ++ path ++ " evaluates to a negative magnitude: " ++
        e.result.text⟩]
  | _ => []

/-! ### Reading a whole sheet -/

/-- A result, and what was reported on the way to it. -/
structure Reported (β : Type) where
  notices : List Notice
  outcome : Result Float β

namespace Sheet

/-- Put a line in front of a sheet. -/
def cons : LineOutcome → Sheet → Sheet
  | .evaluated e, s => { s with results := e :: s.results }
  | .skipped e, s => { s with skipped := e :: s.skipped }
  | _, s => s

/-- Read lines, of which the first has the given number. -/
def ofLines (strict : Bool) (path : String) (number : Nat) : List String → Reported Sheet
  | [] => ⟨[], pure ⟨[], []⟩⟩
  | raw :: rest =>
    match LineOutcome.of strict number raw with
    | .failed f => ⟨[], throw f⟩
    | o =>
      let r := ofLines strict path (number + 1) rest
      ⟨o.notices path ++ r.notices, r.outcome.map (cons o)⟩

/-- What is reported at the end of a reading. -/
def summary (path : String) (s : Sheet) : Notice :=
  ⟨.info, .reader,
    "Evaluated " ++ toString s.results.length ++ " line(s) from " ++ path ++ ", skipped " ++
      toString s.skipped.length⟩

def ofText (strict : Bool) (path text : String) : Reported Sheet :=
  let r := ofLines strict path 1 (Text.lines text)
  match r.outcome with
  | .ok s => ⟨r.notices ++ [s.summary path], pure s⟩
  | .error f => ⟨r.notices, throw f⟩

/-! ### Views -/

/-- The values of all lines that have one. -/
def values (s : Sheet) : List (Measurement Float) := s.results.map Evaluated.result

/-- All operands of all lines that have a value. -/
def operands (s : Sheet) : List (Measurement Float) := s.results.flatMap Evaluated.operands

end Sheet

end Metrology
