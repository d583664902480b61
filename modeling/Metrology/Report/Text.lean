import Metrology.Measurement.Text

/-!
# Text reports

Lists of measurements, one on each line, and reports made of sections, each with an underlined
title.
-/

namespace Metrology.Report

def unlines (ls : List String) : String := String.join (ls.map (· ++ "\n"))

/-- Measurements, one on each line. -/
def listing (ms : List (Measurement Float)) : String := unlines (ms.map Measurement.text)

/-- A title and the lines below it. -/
abbrev Section := String × List String

/-- Sections in the order of their first appearance. -/
abbrev Sections := List Section

/-- Give a title its lines. A title that is there already keeps its place. -/
def Sections.put (ss : Sections) (title : String) (ls : List String) : Sections :=
  if ss.any fun s => s.1 == title then
    ss.map fun s => if s.1 == title then (title, ls) else s
  else ss ++ [(title, ls)]

/-- Sections with the given titles and lines, put in one after another. -/
def Sections.ofList (ss : List Section) : Sections := ss.foldl (fun t s => t.put s.1 s.2) []

/-- A section: the title, a line of equals signs of the same length, the lines, a blank line. -/
def sectionText (s : Section) : String :=
  unlines (s.1 :: String.ofList (List.replicate s.1.length '=') :: s.2 ++ [""])

def text (ss : Sections) : String := String.join (ss.map sectionText)

end Metrology.Report
