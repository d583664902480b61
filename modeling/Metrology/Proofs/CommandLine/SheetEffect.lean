import Metrology.Proofs.CommandLine.Effect
import Metrology.Proofs.Sheet.Faults

/-!
# Effects of sheets

What a sheet adds to a run: its tables, its sections and its results if it can be read, or the panel
that shows it as failed. A sheet that cannot be read adds no section and no result, and one whose
results have no order or no statistics adds no result either.
-/

namespace Metrology.CommandLine

open Work

/-! ### The parts of a sheet -/

/-- The results of a sheet in their own order. -/
def originalEffect (name : String) (s : Sheet) : Effect where
  shown := [.table (Report.table s.values (name ++ " (original order)"))]
  entries := [(name ++ ": original order", Sheet.numbered s.values)]

/-- The results of a sheet in order of size. -/
def sortedEffect (name : String) (ordered : List (Measurement Float)) : Effect where
  shown := [.table (Report.table ordered (name ++ " (sorted order)"))]
  entries := [(name ++ ": sorted order", Sheet.numbered ordered)]

def skippedEffect (name : String) (s : Sheet) : Effect where
  entries := [(name ++ ": skipped lines", s.skipped.map skippedText)]

def statisticsEffect (lib : Statistics.Numerics Float) (name : String) (s : Sheet) : Effect :=
  match s.statistics lib with
  | .ok stats =>
    { shown := [.panel (Report.statisticsPanel stats (name ++ " statistics"))]
      entries := [(name ++ ": statistics", Report.statisticsLines stats)] }
  | .error _ =>
    { notices := [⟨.warning, .commandLine, "No results in " ++ name ++ " to compute statistics"⟩] }

/-- Everything that is shown of a sheet. -/
def sheetEffect (lib : Statistics.Numerics Float) (o : Settings) (name : String) (s : Sheet)
    (ordered : List (Measurement Float)) : Effect :=
  .join [originalEffect name s, if o.sorted then sortedEffect name ordered else {},
    if !s.skipped.isEmpty then skippedEffect name s else {},
    if o.stats then statisticsEffect lib name s else {}]

/-- What is reported of a file whose processing ended with a fault. -/
def failureNotice (path : String) (f : Fault Float) : Notice :=
  ⟨.error, .commandLine,
    (if f.isFile then "Cannot read" else "Stopped processing") ++ " " ++ path ++ ": " ++ f.message⟩

def failurePanel (path : String) (f : Fault Float) : Report.Shown :=
  .panel ⟨"Failed: " ++ path, .line ("[red]" ++ f.message)⟩

def failureEffect (path : String) (f : Fault Float) : Effect where
  shown := [failurePanel path f]
  notices := [failureNotice path f]
  failed := true

section Parts

variable (lib : Statistics.Numerics Float) (o : Settings) (name : String) (s : Sheet)
  (ordered : List (Measurement Float))

@[simp] lemma results_statisticsEffect : (statisticsEffect lib name s).results = [] := by
  unfold statisticsEffect
  split <;> rfl

@[simp] lemma failed_statisticsEffect : (statisticsEffect lib name s).failed = false := by
  unfold statisticsEffect
  split <;> rfl

/-- Showing a sheet is not yet having its results. -/
lemma results_sheetEffect : (sheetEffect lib o name s ordered).results = [] := by
  simp only [sheetEffect, Effect.join_cons, Effect.join_nil, Effect.results_append]
  split <;> split <;> split <;> simp [originalEffect, sortedEffect, skippedEffect]

lemma failed_sheetEffect : (sheetEffect lib o name s ordered).failed = false := by
  simp only [sheetEffect, Effect.join_cons, Effect.join_nil, Effect.failed_append]
  split <;> split <;> split <;> simp [originalEffect, sortedEffect, skippedEffect]

end Parts

/-! ### Showing a sheet -/

variable {host : Host} {files : Storage} {f : Fault Float}

lemma adds_showSorted {name : String} {s : Sheet} {ordered : List (Measurement Float)}
    (h : s.sortedValues = .ok ordered) :
    Adds host.console files (showSorted host name s) (.ok ⟨⟩) (sortedEffect name ordered) := by
  rw [showSorted, h]
  exact Adds.congr (Adds.bind (adds_ofResult _) (Adds.bind (adds_display _) (adds_enter _ _))) rfl

lemma adds_showStatistics {s : Sheet} (name : String)
    (h : s.values.isEmpty = false → ∃ stats, s.statistics host.numerics = .ok stats) :
    Adds host.console files (showStatistics host name s) (.ok ⟨⟩)
      (statisticsEffect host.numerics name s) := by
  rw [showStatistics, statisticsEffect]
  cases hempty : s.values.isEmpty with
  | true =>
    rw [Sheet.statistics_of_isEmpty hempty, if_pos rfl]
    exact adds_notify _
  | false =>
    obtain ⟨stats, hstats⟩ := h hempty
    rw [hstats, if_neg Bool.false_ne_true]
    exact Adds.congr (Adds.bind (adds_ofResult _) (Adds.bind (adds_display _) (adds_enter _ _))) rfl

/-- What is shown of a sheet after its results in their own order. -/
def showRest (host : Host) (o : Settings) (name : String) (s : Sheet) :
    Work (List (Measurement Float)) := do
  if o.sorted then showSorted host name s
  if !s.skipped.isEmpty then
    enter (name ++ ": skipped lines") (s.skipped.map skippedText)
  if o.stats then showStatistics host name s
  return s.values

variable {o : Settings} {path : String}

section Read

variable {s : Sheet} {ordered : List (Measurement Float)}
  (hread : ((Reader.new path o.strict).read files).1.outcome = .ok s)
include hread

/-- The results of a sheet that can be read are shown, whatever comes of the rest. -/
lemma adds_processSheet_of_rest {out : Result Float (List (Measurement Float))} {e : Effect}
    (h : Adds host.console files (showRest host o (Path.shown path) s) out e) :
    Adds host.console files (processSheet host o path) out
      ({ notices := ((Reader.new path o.strict).read files).1.notices } ++
        (originalEffect (Path.shown path) s ++ e)) := by
  have heffect : originalEffect (Path.shown path) s ++ e =
      {} ++ ({ shown := (originalEffect (Path.shown path) s).shown } ++
        ({ entries := (originalEffect (Path.shown path) s).entries } ++ e)) := rfl
  unfold processSheet
  refine adds_get fun r hr => ?_
  rw [hr, heffect]
  dsimp only
  rw [hread]
  refine Adds.bind (adds_notify _) (Adds.bind (adds_ofResult _) ?_)
  exact Adds.bind (adds_display _) (Adds.bind (adds_enter _ _) h)

/-- A sheet that can be read and put in order has its values as results, if it has statistics where
they are asked for. -/
lemma adds_processSheet (hsorted : o.sorted = true → s.sortedValues = .ok ordered)
    (hstatistics : o.stats = true → s.values.isEmpty = false →
      ∃ stats, s.statistics host.numerics = .ok stats) :
    Adds host.console files (processSheet host o path) (.ok s.values)
      ({ notices := ((Reader.new path o.strict).read files).1.notices } ++
        sheetEffect host.numerics o (Path.shown path) s ordered) := by
  refine adds_processSheet_of_rest hread ?_
  unfold showRest
  refine Adds.when (fun h => adds_showSorted (hsorted h)) ?_
  refine Adds.when (fun _ => adds_enter _ _) ?_
  exact Adds.when (fun h => adds_showStatistics _ (hstatistics h)) (adds_pure _)

end Read

/-- A sheet that cannot be read only has what was reported while it was read. -/
lemma adds_processSheet_error
    (hread : ((Reader.new path o.strict).read files).1.outcome = .error f) :
    Adds host.console files (processSheet host o path) (.error f)
      { notices := ((Reader.new path o.strict).read files).1.notices } := by
  unfold processSheet
  refine adds_get fun r hr => ?_
  rw [hr]
  dsimp only
  rw [hread]
  refine Adds.congr (Adds.bind (adds_notify _) (Adds.bind_error (adds_ofResult _))) ?_
  exact Effect.append_empty _

/-! ### Processing a file -/

lemma adds_processFile {ms : List (Measurement Float)} {e : Effect}
    (h : Adds host.console files (processSheet host o path) (.ok ms) e) :
    Adds host.console files (processFile host o path) (.ok ⟨⟩) (e ++ { results := ms }) := by
  refine Adds.tryCatch_ok ?_ (Adds.bind h (adds_modify rfl fun r => ?_))
  · exact fun why => rfl
  · simp [Effect.addTo]

lemma adds_showFailure (what : String) (f : Fault Float) :
    Adds host.console files (showFailure host path what f) (.ok ⟨⟩)
      { shown := [failurePanel path f]
        notices := [⟨.error, .commandLine, what ++ " " ++ path ++ ": " ++ f.message⟩]
        failed := true } := by
  refine Adds.congr (Adds.bind (adds_notify _) (Adds.bind (adds_display _)
    (adds_modify (e := { failed := true }) rfl fun r => ?_))) rfl
  simp [Effect.addTo]

/-- A fault of the files or of measuring is reported, and the run goes on. -/
lemma adds_processFile_of_error {e : Effect}
    (h : Adds host.console files (processSheet host o path) (.error f) e)
    (hf : f.isFile = true ∨ f.isMeasuring = true) :
    Adds host.console files (processFile host o path) (.ok ⟨⟩) (e ++ failureEffect path f) := by
  refine Adds.tryCatch_error ?_ (Adds.bind_error h) ?_
  · exact fun why => rfl
  unfold failureEffect failureNotice
  cases hfile : f.isFile with
  | true => exact adds_showFailure "Cannot read" f
  | false =>
    have hmeasuring : f.isMeasuring = true := hf.resolve_left (by simp [hfile])
    rw [if_neg Bool.false_ne_true, if_pos hmeasuring]
    exact adds_showFailure "Stopped processing" f

/-- Any other fault ends the run. -/
lemma adds_processFile_escaping {e : Effect}
    (h : Adds host.console files (processSheet host o path) (.error f) e)
    (hfile : f.isFile = false) (hmeasuring : f.isMeasuring = false) :
    Adds host.console files (processFile host o path) (.error f) e := by
  refine Adds.congr (Adds.tryCatch_error ?_ (Adds.bind_error h) ?_) (Effect.append_empty e)
  · exact fun why => rfl
  · rw [hfile, hmeasuring]
    exact adds_throw f

end Metrology.CommandLine
