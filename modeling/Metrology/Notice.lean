/-!
# Notices

What the library reports on the side while it works: a text, how important it is, and which part
of the library reports it.
-/

namespace Metrology

/-- How important a notice is. -/
inductive Level where
  | debug
  | info
  | warning
  | error
deriving DecidableEq, Repr

namespace Level

def rank : Level → Nat
  | .debug => 0
  | .info => 1
  | .warning => 2
  | .error => 3

def name : Level → String
  | .debug => "DEBUG"
  | .info => "INFO"
  | .warning => "WARNING"
  | .error => "ERROR"

/-- All levels, the least important first. -/
def all : List Level := [.debug, .info, .warning, .error]

def ofName? (s : String) : Option Level := all.find? fun l => l.name == s

@[simp] theorem ofName?_name (l : Level) : ofName? l.name = some l := by
  cases l <;> decide

end Level

/-- The part of the library that reports. -/
inductive Origin where
  /-- Reading sheets of expressions. -/
  | reader
  /-- Writing random sheets. -/
  | generator
  /-- The command line. -/
  | commandLine
deriving DecidableEq, Repr

/-- A report on the side. -/
structure Notice where
  level : Level
  origin : Origin
  message : String
deriving DecidableEq, Repr

end Metrology
