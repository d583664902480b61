import Metrology.Decimal.Literal
import Metrology.Generator
import Metrology.Notice
import Metrology.Text.Quoted
import Metrology.Text.Upper

/-!
# Settings from arguments

The arguments of the command line are files and options. An option starts with a hyphen; it may be
shortened as long as no other option begins in the same way, and its value may follow an equals
sign or be the next argument. There may be a value that leaves an option empty if it stands behind
an equals sign. Negative numbers, arguments with a space in them and everything behind a lone `--`
are never options. All files have to stand together.
-/

namespace Metrology.CommandLine

inductive Flag where
  | help
  | sorted
  | stats
  | csv
  | report
  | strict
  | logLevel
  | generate
  | lines
  | seed
deriving DecidableEq, Repr

inductive Arity where
  | none
  | optional
  | one
deriving DecidableEq, Repr

namespace Flag

def all : List Flag :=
  [.help, .sorted, .stats, .csv, .report, .strict, .logLevel, .generate, .lines, .seed]

/-- The ways in which an option is written in full. -/
def names : Flag → List String
  | .help => ["-h", "--help"]
  | .sorted => ["--sorted"]
  | .stats => ["--stats"]
  | .csv => ["--csv"]
  | .report => ["--report"]
  | .strict => ["--strict"]
  | .logLevel => ["--log-level"]
  | .generate => ["--generate"]
  | .lines => ["--lines"]
  | .seed => ["--seed"]

def arity : Flag → Arity
  | .help | .sorted | .stats | .strict => .none
  | .report => .optional
  | .csv | .logLevel | .generate | .lines | .seed => .one

def table : List (String × Flag) := all.flatMap fun f => f.names.map fun n => (n, f)

end Flag

/-! ### Wrong usage -/

inductive UsageFault where
  /-- The beginning of an option fits several. -/
  | ambiguous (argument : String) (fits : List String)
  | valueExpected (flag : Flag)
  /-- An option is given a value that it does not take. -/
  | valueIgnored (flag : Flag) (value : String)
  /-- A value is not a whole number. -/
  | notAnInteger (flag : Flag) (value : String)
  /-- A value is not the name of a level. -/
  | notALevel (value : String)
  | unrecognized (arguments : List String)
  | noFiles
  /-- A negative number of lines is asked for. -/
  | negativeLines
deriving DecidableEq, Repr

private def UsageFault.about (f : Flag) (s : String) : String :=
  "argument " ++ String.intercalate "/" f.names ++ ": " ++ s

def UsageFault.message : UsageFault → String
  | .ambiguous argument fits =>
    "ambiguous option: " ++ argument ++ " could match " ++ String.intercalate ", " fits
  | .valueExpected f => about f "expected one argument"
  | .valueIgnored f value => about f ("ignored explicit argument " ++ Text.quoted value)
  | .notAnInteger f value => about f ("invalid int value: " ++ Text.quoted value)
  | .notALevel value =>
    about .logLevel ("invalid choice: " ++ Text.quoted value ++ " (choose from " ++
      String.intercalate ", " (Level.all.map fun l => Text.quoted l.name) ++ ")")
  | .unrecognized arguments => "unrecognized arguments: " ++ String.intercalate " " arguments
  | .noFiles => "at least one FILE is required unless --generate is given"
  | .negativeLines => "--lines must be non-negative"

/-- A setting that is needed but was left empty. -/
inductive EmptySetting where
  | level
  | lines
deriving DecidableEq, Repr

/-- What cannot be done with a setting that is empty. -/
def EmptySetting.message : EmptySetting → String
  | .level => "'list' object has no attribute 'upper'"
  | .lines => "'<' not supported between instances of 'list' and 'int'"

/-- Why a run does not begin. -/
inductive Interruption where
  | help
  | fault (f : UsageFault)
  | empty (e : EmptySetting)
deriving DecidableEq, Repr

/-! ### Kinds of arguments -/

inductive Argument where
  | plain (s : String)
  /-- The `--` that ends the options. -/
  | endOfOptions
  /-- An option, perhaps with a value behind an equals sign. -/
  | option (f : Flag) (value : Option String)
  /-- A run of one-letter options, or one with a value: what follows the letter for help. -/
  | cluster (rest : String)
  /-- Something that looks like an option but is none. -/
  | unknown (s : String)
deriving DecidableEq, Repr

/-- Split a text at its first equals sign. -/
def splitEquals (s : String) : String × Option String :=
  let cs := s.toList
  (String.ofList (cs.takeWhile (· != '=')), match cs.dropWhile (· != '=') with
    | [] => none
    | _ :: v => some (String.ofList v))

/-- Is this a negative number: a hyphen, digits, and perhaps a point with digits behind it? One line
break may follow. -/
def isNegativeNumber (s : String) : Bool :=
  match s.toList with
  | '-' :: r =>
    let r := if r.getLast? = some '\n' then r.dropLast else r
    let behind := r.dropWhile Decimal.isDigit
    (behind.isEmpty && !r.isEmpty) || match behind with
      | '.' :: d :: ds => (d :: ds).all Decimal.isDigit
      | _ => false
  | _ => false

/-- What an argument with a hyphen in front is if it is not written out in full. -/
def Argument.ofAbbreviation (s : String) : Except UsageFault Argument :=
  let (name, value) := splitEquals s
  let fits :=
    if s.startsWith "--" then Flag.table.filter fun p => p.1.startsWith name else []
  match fits with
  | _ :: _ :: _ => throw (.ambiguous s (fits.map Prod.fst))
  | [p] => pure (.option p.2 value)
  | [] =>
    if s.startsWith "-h" then pure (.cluster (String.ofList (s.toList.drop 2)))
    else if isNegativeNumber s || s.toList.contains ' ' then pure (.plain s)
    else pure (.unknown s)

/-- What an argument in front of `--` is. -/
def Argument.of (s : String) : Except UsageFault Argument :=
  if !s.startsWith "-" then pure (.plain s)
  else match Flag.table.lookup s with
    | some f => pure (.option f none)
    | none =>
      if s == "-" then pure (.plain s)
      else match splitEquals s with
        | (name, some value) =>
          match Flag.table.lookup name with
          | some f => pure (if name.startsWith "--" then .option f (some value) else .cluster value)
          | none => ofAbbreviation s
        | _ => ofAbbreviation s

def classify : List String → Except UsageFault (List Argument)
  | [] => pure []
  | s :: rest =>
    if s = "--" then pure (.endOfOptions :: rest.map .plain)
    else do
      let a ← Argument.of s
      return a :: (← classify rest)

/-! ### Settings -/

/-- What the random numbers of a run start from. -/
inductive Seed where
  /-- Something else in every run. -/
  | fresh
  | number (n : Int)
  /-- A seed without any number in it. -/
  | empty
deriving DecidableEq, Repr

/-- The settings of a run. The level and the number of lines may have been left empty. -/
structure Settings where
  files : List String
  sorted : Bool
  stats : Bool
  strict : Bool
  csv : Option String
  report : Option String
  generate : Option String
  level : Option Level
  lines : Option Int
  seed : Seed
deriving DecidableEq, Repr

namespace Settings

/-- The settings of a run without arguments. -/
def default : Settings where
  files := []
  sorted := false
  stats := false
  strict := false
  csv := none
  report := none
  generate := none
  level := some .warning
  lines := some Generator.defaultCount
  seed := .fresh

/-- The file that a report goes to if no other is named. -/
def defaultReport : String := "measurement_report.txt"

/-- The whole number that is the value of an option. -/
def readInt (f : Flag) (value : String) : Except Interruption Int :=
  match Decimal.readInt? value with
  | some n => pure n
  | none => throw (.fault (.notAnInteger f value))

/-- The level that is the value of an option, in either case. -/
def readLevel (value : String) : Except Interruption Level :=
  match Level.ofName? (Text.upper value) with
  | some l => pure l
  | none => throw (.fault (.notALevel (Text.upper value)))

/-- Set an option that has no value, or whose value is left out. -/
def setFlag (o : Settings) : Flag → Except Interruption Settings
  | .help => throw .help
  | .sorted => pure { o with sorted := true }
  | .stats => pure { o with stats := true }
  | .strict => pure { o with strict := true }
  | .report => pure { o with report := some defaultReport }
  | f => throw (.fault (.valueExpected f))

def setValue (o : Settings) (value : String) : Flag → Except Interruption Settings
  | .csv => pure { o with csv := some value }
  | .report => pure { o with report := some value }
  | .generate => pure { o with generate := some value }
  | .logLevel => do return { o with level := some (← readLevel value) }
  | .lines => do return { o with lines := some (← readInt .lines value) }
  | .seed => do return { o with seed := .number (← readInt .seed value) }
  | f => throw (.fault (.valueIgnored f value))

/-- Set an option that the value leaves empty. -/
def setEmpty (o : Settings) (value : String) : Flag → Except Interruption Settings
  | .csv => pure { o with csv := none }
  | .report => pure { o with report := some defaultReport }
  | .generate => pure { o with generate := none }
  | .logLevel => pure { o with level := none }
  | .lines => pure { o with lines := none }
  | .seed => pure { o with seed := .empty }
  | f => throw (.fault (.valueIgnored f value))

end Settings

/-! ### Reading the arguments -/

/-- Where reading stands with the files. -/
inductive FilesSeen where
  | notYet
  /-- The last argument was one of them. -/
  | atThem
  | before
deriving DecidableEq, Repr

/-- How far the arguments have been read. -/
structure Progress where
  settings : Settings
  seen : FilesSeen
  extras : List String

namespace Progress

def start : Progress := ⟨.default, .notYet, []⟩

/-- The files that were being read, if any, are complete. -/
def leaveFiles (p : Progress) : Progress :=
  match p.seen with
  | .atThem => { p with seen := .before }
  | _ => p

/-- Take in a file. It is left over if the files were complete already. -/
def takeFile (p : Progress) (s : String) : Progress :=
  match p.seen with
  | .before => { p with extras := p.extras ++ [s] }
  | _ => { p with settings.files := p.settings.files ++ [s], seen := .atThem }

/-- Take in the end of options. It is left over if the files were complete already. -/
def takeEnd (p : Progress) : Progress :=
  match p.seen with
  | .before => { p with extras := p.extras ++ ["--"] }
  | _ => { p with seen := .atThem }

/-- What a run of one-letter options behind the letter for help leads to. The letter for help may
be repeated; nothing else may follow it. -/
def cluster (rest : String) : Interruption :=
  let value := rest.toList.dropWhile (· == 'h')
  if value.isEmpty && !rest.isEmpty then .help
  else .fault (.valueIgnored .help (String.ofList value))

/-- Take in the arguments. The given value, if there is one, leaves an option empty behind an equals
sign. -/
def read (emptyValue? : Option String) (p : Progress) :
    List Argument → Except Interruption Progress
  | [] => pure p
  | .plain s :: rest => read emptyValue? (p.takeFile s) rest
  | .endOfOptions :: rest => read emptyValue? p.takeEnd rest
  | .unknown s :: rest =>
    let p := p.leaveFiles
    read emptyValue? { p with extras := p.extras ++ [s] } rest
  | .cluster r :: _ => throw (cluster r)
  | .option f (some value) :: rest => do
    let settings ←
      if some value = emptyValue? then p.settings.setEmpty value f else p.settings.setValue value f
    read emptyValue? { p.leaveFiles with settings } rest
  | .option f none :: .plain value :: rest =>
    if f.arity = .none then do
      let settings ← p.settings.setFlag f
      read emptyValue? ({ p.leaveFiles with settings }.takeFile value) rest
    else do
      read emptyValue? { p.leaveFiles with settings := ← p.settings.setValue value f } rest
  | .option f none :: rest => do
    read emptyValue? { p.leaveFiles with settings := ← p.settings.setFlag f } rest

end Progress

/-- The settings that the arguments ask for. -/
def Settings.read (emptyValue? : Option String) (arguments : List String) :
    Except Interruption Settings := do
  let classified ← (classify arguments).mapError .fault
  let p ← Progress.start.read emptyValue? classified
  if p.extras.isEmpty then pure p.settings else throw (.fault (.unrecognized p.extras))

end Metrology.CommandLine
