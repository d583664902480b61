import Metrology.Proofs.Result
import Metrology.Storage.Basic

/-!
# What can go wrong with files

A file that is not there, or not where its path leads, is a fault of the files. Two faults are not:
a path that no file can have, and bytes that are no text.
-/

namespace Metrology.Storage

variable {s : Storage} {path : String}

lemma yields_follow (place names : List String) :
    Yields (fun f => f ≠ .notAPath) (fun _ => True) (s.follow path place names) := by
  induction names generalizing place with
  | nil => exact yields_ok.mpr trivial
  | cons name names ih =>
    unfold follow
    split
    · split
      · exact yields_error.mpr nofun
      · exact ih _
    · exact yields_error.mpr nofun
    · exact yields_error.mpr nofun

lemma yields_checkPath (h : '\x00' ∉ path.toList) :
    Yields (fun f => f ≠ .notAPath) (fun _ => True) (checkPath path) := by
  have hcontains : path.toList.contains '\x00' = false := by simpa using h
  rw [checkPath, hcontains, if_neg Bool.false_ne_true]
  split
  · exact yields_error.mpr nofun
  · split
    · exact yields_error.mpr nofun
    · exact yields_ok.mpr trivial

lemma yields_read (h : '\x00' ∉ path.toList) :
    Yields (fun f => f ≠ .notAPath) (fun _ => True) (s.read path) := by
  have hlocate : Yields (fun f => f ≠ .notAPath) (fun _ => True)
      (s.locate path (Path.toOpen path)) :=
    (yields_checkPath h).bind fun _ _ _ => yields_follow _ _
  refine hlocate.bind fun place _ _ => ?_
  split
  · exact yields_error.mpr nofun
  · exact yields_ok.mpr trivial
  · exact yields_error.mpr nofun

lemma readText_eq_error {f : FileFault} (h : s.read path = .error f) :
    s.readText path = .error (.file f) := by
  rw [readText, h]
  rfl

/-- If the bytes of a file are a text, it can be read unless it cannot be opened. -/
lemma exists_of_readText_eq_error {f : Fault Float}
    (hbytes : ∀ content, s.read path = .ok content → content.IsValidUTF8)
    (h : s.readText path = .error f) : ∃ why, s.read path = .error why ∧ f = .file why := by
  cases hread : s.read path with
  | error why =>
    rw [readText_eq_error hread] at h
    exact ⟨why, rfl, (Except.error.inj h).symm⟩
  | ok content =>
    rw [readText, hread] at h
    simp [String.fromUTF8?, hbytes content hread] at h

/-- A file with a path and bytes that make sense is read, unless the files stand against it. -/
lemma yields_readText (hpath : '\x00' ∉ path.toList)
    (hbytes : ∀ content, s.read path = .ok content → content.IsValidUTF8) :
    Yields (fun f => f.isFile = true) (fun _ => True) (s.readText path) := by
  refine ⟨fun _ _ => trivial, fun f hf => ?_⟩
  obtain ⟨why, hread, rfl⟩ := exists_of_readText_eq_error hbytes hf
  have hne : why ≠ .notAPath := (yields_read hpath).fault why hread
  cases why with
  | notAPath => exact absurd rfl hne
  | notFound path | isDirectory path | notADirectory path | nameTooLong path => rfl

/-! ### Files that are there -/

lemma read_eq_ok (place : List String) {content : ByteArray}
    (hlocate : s.locate path (Path.toOpen path) = .ok place)
    (hdirectory : s.isDirectory place = false) (hnode : s.node? place = some (.file content)) :
    s.read path = .ok content := by
  rw [read, hlocate, ok_bind, hdirectory, hnode]
  rfl

lemma read_eq_notFound (place : List String)
    (hlocate : s.locate path (Path.toOpen path) = .ok place)
    (hdirectory : s.isDirectory place = false) (hnode : s.node? place = none) :
    s.read path = .error (.notFound path) := by
  rw [read, hlocate, ok_bind, hdirectory, hnode]
  rfl

lemma readText_eq_ok {text : String} (h : s.read path = .ok text.toUTF8) :
    s.readText path = .ok text := by
  have hvalid : text.toUTF8.IsValidUTF8 := text.isValidUTF8
  have hdecode : String.fromUTF8? text.toUTF8 = some text := by
    rw [String.fromUTF8?, dif_pos hvalid]
    rfl
  rw [readText, h]
  simp only [hdecode, pure_eq_ok]

/-- A directory with the file `a.txt` and nothing else. -/
def oneFile (text : String) : Storage := ⟨[(["a.txt"], .file text.toUTF8)]⟩

lemma readText_oneFile (text : String) : (oneFile text).readText "a.txt" = .ok text := by
  have hopen : Path.toOpen "a.txt" = ["a.txt"] := by decide +kernel
  exact readText_eq_ok (read_eq_ok ["a.txt"] (by rw [hopen]; rfl) rfl rfl)

end Metrology.Storage
