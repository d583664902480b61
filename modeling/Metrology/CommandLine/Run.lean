import Metrology.CommandLine.Settings
import Metrology.Report.Csv
import Metrology.Report.Table
import Metrology.Report.Text
import Metrology.Sheet.Reader

/-!
# Runs of the command line

A run reads sheets one after another, shows the results of each, and writes a report and a table of
all results at the end; or it writes a random sheet. A sheet that cannot be read is shown as failed
and the run goes on with the next one. Faults that lie neither in the files nor in the measurements
end the run, and so does anything that the console refuses to show.
-/

namespace Metrology.CommandLine

/-- What a run is given from outside. -/
structure Host where
  console : Report.Console
  numerics : Statistics.Numerics Float
  /-- The value behind an equals sign that leaves an option empty, if there is one. -/
  emptyValue? : Option String

/-- A console without markup and the library's own numerical functions. -/
def Host.plain : Host := ⟨.plain, .plain, none⟩

/-- What a run has done so far. -/
structure Run where
  shown : List Report.Shown
  notices : List Notice
  files : Storage
  sections : Report.Sections
  results : List (Measurement Float)
  failed : Bool
  /-- The seed for which a random sheet was written, if one was. -/
  seed : Option Seed

/-- A piece of work in a run. A fault keeps what was done before it. -/
abbrev Work := ExceptT (Fault Float) (StateM Run)

namespace Work

/-- Show something on the console, if it can be shown. -/
def display (c : Report.Console) (s : Report.Shown) : Work PUnit :=
  match c.refusal? s with
  | none => modify fun r => { r with shown := r.shown ++ [s] }
  | some why => throw (.notShown why)

def notify (ns : List Notice) : Work PUnit := modify fun r => { r with notices := r.notices ++ ns }

/-- Give a section of the report its lines. -/
def enter (title : String) (ls : List String) : Work PUnit :=
  modify fun r => { r with sections := r.sections.put title ls }

def ofResult {β : Type} (r : Result Float β) : Work β := ExceptT.mk (pure r)

def write (path text : String) : Work PUnit := do
  match (← get).files.write path text with
  | .ok files => modify fun r => { r with files }
  | .error f => throw (.file f)

end Work

open Work

section Host

variable (host : Host)

/-! ### One sheet -/

/-- A skipped line as it stands in a report. -/
def skippedText (s : Skipped) : String :=
  "line " ++ toString s.line ++ ": " ++ s.text ++ " (" ++ s.reason.message ++ ")"

/-- Show the results of a sheet in order of size. -/
def showSorted (name : String) (s : Sheet) : Work PUnit := do
  let ordered ← ofResult s.sortedValues
  display host.console (.table (Report.table ordered (name ++ " (sorted order)")))
  enter (name ++ ": sorted order") (Sheet.numbered ordered)

/-- Show the statistics of a sheet, if it has results. -/
def showStatistics (name : String) (s : Sheet) : Work PUnit := do
  if s.values.isEmpty then
    notify [⟨.warning, .commandLine, "No results in " ++ name ++ " to compute statistics"⟩]
  else
    let stats ← ofResult (s.statistics host.numerics)
    display host.console (.panel (Report.statisticsPanel stats (name ++ " statistics")))
    enter (name ++ ": statistics") (Report.statisticsLines stats)

/-- Read a sheet and show what it comes to. -/
def processSheet (o : Settings) (path : String) : Work (List (Measurement Float)) := do
  let reader := Reader.new path o.strict
  let reported := (reader.read (← get).files).1
  notify reported.notices
  let s ← ofResult reported.outcome
  let name := reader.path
  display host.console (.table (Report.table s.values (name ++ " (original order)")))
  enter (name ++ ": original order") (Sheet.numbered s.values)
  if o.sorted then showSorted host name s
  if !s.skipped.isEmpty then
    enter (name ++ ": skipped lines") (s.skipped.map skippedText)
  if o.stats then showStatistics host name s
  return s.values

def showFailure (path what : String) (f : Fault Float) : Work PUnit := do
  notify [⟨.error, .commandLine, what ++ " " ++ path ++ ": " ++ f.message⟩]
  display host.console (.panel ⟨"Failed: " ++ path, .line ("[red]" ++ f.message)⟩)
  modify fun r => { r with failed := true }

/-- Process a sheet, and go on if it fails. -/
def processFile (o : Settings) (path : String) : Work PUnit :=
  tryCatch
    (do
      let ms ← processSheet host o path
      modify fun r => { r with results := r.results ++ ms })
    fun f =>
      if f.isFile then showFailure host path "Cannot read" f
      else if f.isMeasuring then showFailure host path "Stopped processing" f
      else throw f

/-! ### The whole run -/

/-- The file that an option names; an empty name counts as none. -/
def named (path : Option String) : Option String := path.filter fun p => !p.isEmpty

/-- That a file has been written, in the console's markup. -/
def writtenLine (what path : String) : Report.Shown := .line ("[green]" ++ what ++ path)

/-- Write the report, if one is asked for. -/
def writeReport (o : Settings) : Work PUnit := do
  if let some path := named o.report then
    write path (Report.text (← get).sections)
    display host.console (writtenLine "Report written to " path)

/-- Write the table of all results, if it is asked for. -/
def writeCsv (o : Settings) : Work PUnit := do
  if let some path := named o.csv then
    write path (Report.csv (← get).results)
    display host.console (writtenLine "CSV written to " path)

/-- Process all sheets. The status is one if any of them failed. -/
def processAll (o : Settings) : Work Nat := do
  o.files.forM (processFile host o)
  writeReport host o
  writeCsv host o
  return if (← get).failed then 1 else 0

/-- Write a random sheet with a number of lines. -/
def generate (path : String) (lines : Int) (seed : Seed) (source : RandomSource) : Work Nat := do
  let (outcome, files) := Generator.write (← get).files path lines source
  modify fun r => { r with files }
  let count ← ofResult outcome
  modify fun r => { r with seed := some seed }
  notify [Generator.written count path]
  display host.console (writtenLine ("Wrote " ++ toString count ++ " expression line(s) to ") path)
  return 0

inductive Ending where
  | status (n : Nat)
  | interrupted (i : Interruption)
  /-- With a fault that the run cannot go on from. -/
  | fault (f : Fault Float)

/-- What a run did, and how it ended. -/
structure Outcome where
  run : Run
  ending : Ending

/-- What a run has to do, if its settings fit together. -/
def task (o : Settings) (source : RandomSource) : Except Interruption (Work Nat) :=
  match named o.generate, o.lines with
  | some _, none => throw (.empty .lines)
  | some path, some n =>
    if n < 0 then throw (.fault .negativeLines) else pure (generate host path n o.seed source)
  | none, _ => if o.files.isEmpty then throw (.fault .noFiles) else pure (processAll host o)

/-- How important a notice has to be, and what there is to do. The level is asked for first. -/
def plan (arguments : List String) (source : RandomSource) :
    Except Interruption (Level × Work Nat) := do
  let o ← Settings.read host.emptyValue? arguments
  match o.level with
  | none => throw (.empty .level)
  | some level => return (level, ← task host o source)

/-- Only the notices that are important enough. -/
def Run.filterNotices (r : Run) (level : Level) : Run :=
  { r with notices := r.notices.filter fun n => level.rank ≤ n.level.rank }

/-- Run the command line with the given arguments. -/
def run (arguments : List String) (files : Storage) (source : RandomSource) : Outcome :=
  let idle : Run := ⟨[], [], files, [], [], false, none⟩
  match plan host arguments source with
  | .error i => ⟨idle, .interrupted i⟩
  | .ok (level, work) =>
    let (ending, r) := (ExceptT.run work).run idle
    ⟨r.filterNotices level, match ending with
      | .ok n => .status n
      | .error f => .fault f⟩

end Host

end Metrology.CommandLine
