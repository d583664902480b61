/-!
# Lines

A line ends at a line feed, at a carriage return, or at the two together. The last line may lack
its ending; an ending at the very end of the text starts no further line.
-/

namespace Metrology.Text

/-- The lines of a text, without their endings. -/
def linesOf : List Char → List (List Char)
  | [] => []
  | '\r' :: '\n' :: r => [] :: linesOf r
  | '\r' :: r => [] :: linesOf r
  | '\n' :: r => [] :: linesOf r
  | c :: r =>
    match linesOf r with
    | [] => [[c]]
    | l :: ls => (c :: l) :: ls

/-- The lines of a text, without their endings. -/
def lines (s : String) : List String := (linesOf s.toList).map String.ofList

/-! ### Texts that go on -/

def isLineEnd (c : Char) : Bool := c == '\n' || c == '\r'

/-- The lines whose endings are complete, whatever follows the text. A carriage return at the very
end may yet be followed by a line feed. -/
def endedLinesOf (s : List Char) : List (List Char) :=
  let t := if s.getLast? = some '\r' then s.dropLast else s
  if t.getLast?.any isLineEnd then linesOf t else (linesOf t).dropLast

/-- The lines of the beginning of a text whose endings have been met. -/
def endedLines (s : String) : List String := (endedLinesOf s.toList).map String.ofList

end Metrology.Text
