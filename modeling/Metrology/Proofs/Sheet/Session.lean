import Metrology.Proofs.Sheet.Faults

/-!
# Sessions with a reader

A reader is asked to read and asked for what it has read, while the files change. Whatever the order
of these steps, the reader knows the sheet that the last successful reading came to, and nothing
before there is one. A reading that fails leaves no trace.
-/

namespace Metrology

/-! ### Steps -/

/-- A reader and the files as they are. -/
structure Session where
  files : Storage
  reader : Reader

/-- What happens in a session. -/
inductive Step where
  /-- The files are replaced by others. -/
  | change (files : Storage)
  | read
  | view (v : View)

namespace Session

def step (s : Session) : Step → Session
  | .change files => { s with files := files }
  | .read => { s with reader := (s.reader.read s.files).2 }
  | .view _ => s

def run (s : Session) (steps : List Step) : Session := steps.foldl step s

/-! ### Readings -/

/-- The sheet that a file comes to, if it can be read. -/
def sheetOf? (strict : Bool) (path : String) (files : Storage) : Option Sheet :=
  match files.readText path with
  | .ok text => (Sheet.ofText strict path text).outcome.toOption
  | .error _ => none

/-- The sheets that the file comes to at each reading, without those readings that fail. -/
def sheetsRead (strict : Bool) (path : String) : Storage → List Step → List Sheet
  | _, [] => []
  | _, .change files :: steps => sheetsRead strict path files steps
  | files, .read :: steps =>
    (sheetOf? strict path files).toList ++ sheetsRead strict path files steps
  | files, .view _ :: steps => sheetsRead strict path files steps

lemma toOption_outcome_read (r : Reader) (files : Storage) :
    (r.read files).1.outcome.toOption = sheetOf? r.strict r.path files := by
  rw [sheetOf?]
  cases htext : files.readText r.path with
  | error f =>
    cases hread : (r.read files).1.outcome with
    | ok s => exact absurd hread (Reader.outcome_read_ne_ok_of_error htext)
    | error g => rfl
  | ok text => rw [Reader.outcome_read htext]

/-- A reading replaces the sheet if the file comes to one. -/
lemma read_snd_eq (r : Reader) (files : Storage) :
    (r.read files).2 = ⟨r.path, r.strict, (sheetOf? r.strict r.path files).or r.sheet?⟩ := by
  rw [← toOption_outcome_read]
  cases hread : (r.read files).1.outcome with
  | ok s =>
    rw [Reader.read_snd_of_ok hread]
    rfl
  | error f =>
    rw [Reader.read_snd_of_error hread]
    rfl

/-- After some steps the reader knows the last sheet that was read, or what it knew before. -/
lemma reader_run (s : Session) (steps : List Step) :
    (s.run steps).reader = ⟨s.reader.path, s.reader.strict,
      (sheetsRead s.reader.strict s.reader.path s.files steps).getLast?.or s.reader.sheet?⟩ := by
  -- what the reader knows is carried along, until another sheet takes its place
  induction steps generalizing s with
  | nil => rfl
  | cons st steps ih =>
    have hcons : s.run (st :: steps) = (s.step st).run steps := rfl
    rw [hcons, ih]
    cases st with
    | change files => rfl
    | view v => rfl
    | read =>
      have hlast : ∀ o : Option Sheet, o.toList.getLast? = o := by
        intro o
        cases o <;> rfl
      rw [step, sheetsRead, read_snd_eq, List.getLast?_append, Option.or_assoc, hlast]

/-! ### What is shown -/

lemma exists_ofText_of_sheetOf? {strict : Bool} {path : String} {files : Storage} {s : Sheet}
    (h : sheetOf? strict path files = some s) :
    ∃ text, (Sheet.ofText strict path text).outcome = .ok s := by
  rw [sheetOf?] at h
  split at h
  · next text _ => exact ⟨text, eq_ok_of_toOption_eq_some h⟩
  · cases h

lemma exists_ofText_of_mem_sheetsRead {strict : Bool} {path : String} {files : Storage}
    {steps : List Step} {s : Sheet} (h : s ∈ sheetsRead strict path files steps) :
    ∃ text, (Sheet.ofText strict path text).outcome = .ok s := by
  induction steps generalizing files with
  | nil => cases h
  | cons st steps ih =>
    cases st with
    | change files' => exact ih h
    | view v => exact ih h
    | read =>
      rw [sheetsRead, List.mem_append, Option.mem_toList] at h
      rcases h with h | h
      · exact exists_ofText_of_sheetOf? h
      · exact ih h

end Session

end Metrology
