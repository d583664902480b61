import Metrology.Fault
import Metrology.Storage.Decoding
import Metrology.Storage.Path

/-!
# Storage

The files that the library reads and writes, as a value. A place is the list of names that lead to
it from the current directory. The directories above that one are reached by names `..`, and the top
of all files by the name `/`.
-/

namespace Metrology

/-- What a name in a directory stands for. -/
inductive Node where
  | directory
  | file (content : ByteArray)

/-- Files and directories by the names that lead to them. -/
structure Storage where
  entries : List (List String × Node)

namespace Storage

def empty : Storage := ⟨[]⟩

/-- What stands at a place. The directories that lead to an entry exist along with it. -/
def node? (s : Storage) (place : List String) : Option Node :=
  match s.entries.lookup place with
  | some n => some n
  | none => if s.entries.any fun e => place.isPrefixOf e.1 then some .directory else none

/-- Is this the current directory or one above it? -/
def isAbove (place : List String) : Bool := place.all (· == "..") || place == ["/"]

/-- Is there a directory at a place? The current directory and those above it always exist. -/
def isDirectory (s : Storage) (place : List String) : Bool :=
  isAbove place || match s.node? place with
    | some .directory => true
    | _ => false

/-- The place that a name leads to from a directory. -/
def step (place : List String) (name : String) : List String :=
  if name == "." then place
  else if name != ".." then place ++ [name]
  else if place == ["/"] then place
  else if isAbove place then place ++ [name]
  else place.dropLast

def put (s : Storage) (place : List String) (n : Node) : Storage :=
  if s.entries.any fun e => e.1 == place then
    ⟨s.entries.map fun e => if e.1 == place then (place, n) else e⟩
  else ⟨s.entries ++ [(place, n)]⟩

/-! ### Following a path -/

/-- How many bytes a name may have. -/
def nameLimit : Nat := 255

/-- How many bytes a path may have. -/
def pathLimit : Nat := 4095

/-- Follow names from a place; every place on the way has to be a directory. The fault shows the
path as it was given. -/
def follow (s : Storage) (path : String) (place : List String) :
    List String → Except FileFault (List String)
  | [] => pure place
  | name :: rest =>
    match s.isDirectory place, s.node? place with
    | true, _ =>
      if nameLimit < name.utf8ByteSize then throw (.nameTooLong path)
      else s.follow path (step place name) rest
    | false, some _ => throw (.notADirectory path)
    | false, none => throw (.notFound path)

/-- Refuse a path that no file can have. -/
def checkPath (path : String) : Except FileFault PUnit :=
  if path.toList.contains '\x00' then throw .notAPath
  else if path.isEmpty then throw (.notFound path)
  else if pathLimit < path.utf8ByteSize then throw (.nameTooLong path)
  else pure ⟨⟩

/-- The place that some names on a path lead to. -/
def locate (s : Storage) (path : String) (names : List String) :
    Except FileFault (List String) := do
  checkPath path
  s.follow path (if Path.isAbsolute path then ["/"] else []) names

/-! ### Reading and writing -/

def read (s : Storage) (path : String) : Except FileFault ByteArray := do
  let place ← s.locate path (Path.toOpen path)
  match s.isDirectory place, s.node? place with
  | true, _ => throw (.isDirectory path)
  | false, some (.file content) => pure content
  | false, _ => throw (.notFound path)

def readText (s : Storage) (path : String) : Result Float String :=
  match s.read path with
  | .error f => throw (.file f)
  | .ok content =>
    match String.fromUTF8? content with
    | some text => pure text
    | none => throw .undecodable

/-- The lines of a file that are read before it is found to hold no text. -/
def linesBeforeFault (s : Storage) (path : String) : List String :=
  match s.read path with
  | .error _ => []
  | .ok content => Decoding.linesBeforeFault content

/-- Write a text to a file, which is replaced if it exists. -/
def write (s : Storage) (path text : String) : Except FileFault Storage := do
  let place ← s.locate path (Path.toCreate path)
  if s.isDirectory place then throw (.isDirectory path)
  else pure (s.put place (.file text.toUTF8))

end Storage

end Metrology
