import Metrology.CommandLine.Run
import Metrology.Report.Console

/-!
# The command line

Loads the files that the arguments name, runs, shows what the run shows, and saves the files that
the run changed.
-/

namespace Metrology.CommandLine

/-! ### Files -/

/-- The place that a path names, whether or not it exists. -/
def placeOf (path : String) : List String :=
  (Path.names path).foldl Storage.step (if Path.isAbsolute path then ["/"] else [])

def pathTo : List String → String
  | "/" :: names => "/" ++ String.intercalate "/" names
  | names => String.intercalate "/" names

def load (s : Storage) (place : List String) : IO Storage := do
  if Storage.isAbove place then return s
  try
    return s.put place (.file (← IO.FS.readBinFile (pathTo place)))
  catch
    | .noFileOrDirectory .. => return s
    | _ => return s.put place .directory

/-- Load what a path leads to, and the directories on the way. -/
def loadPath (s : Storage) (path : String) : IO Storage :=
  let place := placeOf path
  (List.range place.length).foldlM (fun s n => load s (place.take (n + 1))) s

/-- Save the files that differ from what they were. -/
def save (before after : Storage) : IO PUnit :=
  after.entries.forM fun (place, node) => do
    match node, before.entries.lookup place with
    | .file new, some (.file old) =>
      if new != old then IO.FS.writeBinFile (pathTo place) new
    | .file new, _ => IO.FS.writeBinFile (pathTo place) new
    | .directory, _ => pure ⟨⟩

/-! ### Random numbers -/

def drawAll : Nat → StdGen → List Nat × StdGen
  | 0, g => ([], g)
  | n + 1, g =>
    let (x, g) := stdNext g
    let (xs, g) := drawAll n g
    (x :: xs, g)

/-- A source with enough random numbers for so many lines. -/
def sourceFor (lines : Nat) (seed : Nat) : RandomSource :=
  let g := mkStdGen seed
  let (low, high) := stdRange
  let (ints, g) := drawAll (6 * lines) g
  let (fractions, _) := drawAll (3 * lines) g
  let ints := ints.toArray
  let fractions := fractions.toArray
  { integers := fun n => ints[n]?.getD 0
    fractions := fun n =>
      Float.ofNat (fractions[n]?.getD low - low) / Float.ofNat (high - low + 1)
    usedIntegers := 0
    usedFractions := 0 }

/-- The source for the given settings; without a seed it differs from run to run. -/
def source (o : Settings) : IO RandomSource := do
  let seed ← match o.seed with
    | .number n => pure n.natAbs
    | .empty => pure 0
    | .fresh => IO.rand 0 stdRange.2
  return sourceFor (if (named o.generate).isSome then (o.lines.getD 0).toNat else 0) seed

/-! ### Running -/

def usage : String :=
  "usage: metrology [-h] [--sorted] [--stats] [--csv PATH] [--report [PATH]] [--strict]\n" ++
  "                 [--log-level LEVEL] [--generate PATH] [--lines COUNT] [--seed SEED]\n" ++
  "                 [FILE ...]"

/-- The status that a run ends with, its message written first. -/
def finish : Ending → IO UInt32
  | .status n => pure n.toUInt32
  | .interrupted .help => do
    IO.println usage
    return 0
  | .interrupted (.fault f) => do
    IO.eprintln ("metrology: error: " ++ f.message)
    return 2
  | .interrupted (.empty e) => do
    IO.eprintln e.message
    return 1
  | .fault f => do
    IO.eprintln f.message
    return 1

/-- Run the command line on real files. -/
def execute (arguments : List String) : IO UInt32 := do
  let host := Host.plain
  let o := (Settings.read host.emptyValue? arguments).toOption.getD .default
  let paths := o.files ++ (named o.report).toList ++ (named o.csv).toList ++
    (named o.generate).toList
  let files ← paths.foldlM loadPath .empty
  let outcome := run host arguments files (← source o)
  outcome.run.notices.forM fun n => IO.eprintln (n.level.name ++ " " ++ n.message)
  outcome.run.shown.forM fun s => s.lines.forM IO.println
  save files outcome.run.files
  finish outcome.ending

end Metrology.CommandLine

def main (arguments : List String) : IO UInt32 := Metrology.CommandLine.execute arguments
