import Metrology.Proofs.CommandLine.SheetEffect
import Metrology.Proofs.Statistics.Plain

/-!
# Files are processed apart from each other

A run over several files comes to what each of them comes to alone. A file that fails is reported,
and the run goes on as if it had not been listed, except that its status is one. That holds of every
file but three kinds: one whose path no file can have, one whose bytes are no text, and one with a
line that divides by a unit that vanishes. The fault of such a file may end the run. So does
anything that the console refuses to show, be it of a file that is read or of one that fails.
-/

namespace Metrology

lemma Level.rank_le_rank_error (l : Level) : l.rank ≤ Level.error.rank := by
  cases l <;> decide

/-! ### Faults of a file -/

/-- The path may be that of a file, what can be read there is a text, and no line of the text
divides by a unit that vanishes. -/
structure Storage.IsPlain (files : Storage) (path : String) : Prop where
  possible : '\x00' ∉ (Path.shown path).toList
  decodable : ∀ content, files.read (Path.shown path) = .ok content → content.IsValidUTF8
  lines : ∀ text, files.readText (Path.shown path) = .ok text →
    ¬ Sheet.DividesByVanishing (Text.lines text)

lemma Storage.isPlain_of_read_error {files : Storage} {path : String} {f : FileFault}
    (hpossible : '\x00' ∉ (Path.shown path).toList)
    (h : files.read (Path.shown path) = .error f) : files.IsPlain path where
  possible := hpossible
  decodable content hcontent := by
    rw [h] at hcontent
    cases hcontent
  lines text htext := by
    rw [readText, h] at htext
    cases htext

lemma Storage.isPlain_of_read {files : Storage} {path text : String}
    (hpossible : '\x00' ∉ (Path.shown path).toList)
    (h : files.read (Path.shown path) = .ok text.toUTF8)
    (hlines : ¬ Sheet.DividesByVanishing (Text.lines text)) : files.IsPlain path where
  possible := hpossible
  decodable content hcontent := by
    rw [h] at hcontent
    cases hcontent
    exact text.isValidUTF8
  lines text' htext := by
    rw [readText_eq_ok h] at htext
    cases htext
    exact hlines

lemma Sheet.yields_ofText (strict : Bool) (path : String) {text : String}
    (h : ¬ DividesByVanishing (Text.lines text)) :
    Yields (fun f => f.isMeasuring = true) (fun s => ∀ m ∈ s.values, m.unit.IsProperOr False)
      (ofText strict path text).outcome := by
  rw [outcome_ofText]
  refine (yields_ofLines strict path 1 (Text.lines text)).mono ?_ ?_
  · intro f hf
    exact hf.resolve_right fun hzero => h hzero.1
  · intro s hs m hm
    exact (hs m hm).mono h

lemma Reader.yields_read {files : Storage} {path : String} (h : files.IsPlain path)
    (strict : Bool) :
    Yields (fun f => f.isFile = true ∨ f.isMeasuring = true)
      (fun s => ∀ m ∈ s.values, m.unit.IsProperOr False)
      ((new path strict).read files).1.outcome := by
  cases htext : files.readText (Path.shown path) with
  | error f =>
    have hf := (Storage.yields_readText h.possible h.decodable).fault f htext
    obtain ⟨why, hread, rfl⟩ := Storage.exists_of_readText_eq_error h.decodable htext
    rw [read_of_read_error (r := new path strict) hread]
    exact yields_error.mpr (.inl hf)
  | ok text =>
    rw [outcome_read (r := new path strict) htext]
    exact (Sheet.yields_ofText strict _ (h.lines text htext)).mono (fun f hf => .inr hf)
      fun s hs => hs

lemma Sheet.exists_sortedValues {s : Sheet} (h : ∀ m ∈ s.values, m.unit.IsProperOr False) :
    ∃ ordered, s.sortedValues = .ok ordered := by
  cases hsorted : s.sortedValues with
  | ok ordered => exact ⟨ordered, rfl⟩
  | error f => exact ((yields_sortedValues h).fault f hsorted).1.elim

namespace CommandLine

open Work

/-! ### One file -/

/-- The start of a run. -/
def Run.idle (files : Storage) : Run := ⟨[], [], files, [], [], false, none⟩

/-- What a file comes to alone. -/
def sheetOutcome (host : Host) (o : Settings) (files : Storage) (path : String) :
    Result Float (List (Measurement Float)) :=
  ((ExceptT.run (processSheet host o path)).run (.idle files)).1

/-- Does a file end in a fault? -/
def fails (host : Host) (o : Settings) (files : Storage) (path : String) : Bool :=
  !(sheetOutcome host o files path).isOk

/-- What is shown of a file, its report included if it fails, on a console that refuses nothing. -/
def showings (host : Host) (o : Settings) (files : Storage) (path : String) : List Report.Shown :=
  ((ExceptT.run (processFile { host with console := .plain } o path)).run (.idle files)).2.shown

/-- The effect of a file with the given outcome: its results, or a report of its fault. -/
structure Effect.Accounts (e : Effect) (path : String)
    (outcome : Result Float (List (Measurement Float))) : Prop where
  results : e.results = outcome.toOption.getD []
  failed : e.failed = !outcome.isOk
  entries : ∀ f, outcome = .error f → e.entries = []
  report : ∀ f, outcome = .error f →
    failureNotice path f ∈ e.notices ∧ failurePanel path f ∈ e.shown

variable {host : Host} {o : Settings} {files : Storage} {path : String}

lemma sheetOutcome_eq {out : Result Float (List (Measurement Float))} {e : Effect}
    (h : Adds host.console files (processSheet host o path) out e)
    (hshown : host.console.Shows e.shown) : sheetOutcome host o files path = out := by
  rw [sheetOutcome, h.shown hshown (.idle files) rfl]

lemma showings_eq {out : Result Float PUnit} {e : Effect}
    (h : ∀ c, Adds c files (processFile { host with console := c } o path) out e) :
    showings host o files path = e.shown := by
  rw [showings, (h .plain).shown (Report.Console.shows_plain _) (.idle files) rfl]
  rfl

lemma accounts_sheetEffect (lib : Statistics.Numerics Float) (ns : List Notice) (name : String)
    (s : Sheet) (ordered : List (Measurement Float)) :
    ({ notices := ns } ++ sheetEffect lib o name s ordered ++
      { results := s.values } : Effect).Accounts path (.ok s.values) where
  results := by simp [results_sheetEffect, Except.toOption]
  failed := by simp [failed_sheetEffect, Except.isOk, Except.toBool]
  entries f hf := by cases hf
  report f hf := by cases hf

lemma accounts_failureEffect (ns : List Notice) (f : Fault Float) :
    ({ notices := ns } ++ failureEffect path f : Effect).Accounts path (.error f) where
  results := rfl
  failed := rfl
  entries _ _ := rfl
  report f' hf := by
    cases hf
    simp [failureEffect]

/-- Statistics are found if the numerical functions are sound. -/
lemma exists_statistics (hlib : host.numerics.IsSound) {s : Sheet}
    (hvalues : s.values.isEmpty = false) : ∃ stats, s.statistics host.numerics = .ok stats := by
  have hne : s.values ≠ [] := List.isEmpty_eq_false_iff.mp hvalues
  have hmagnitudes : s.values.map Measurement.magnitude ≠ [] := mt List.map_eq_nil_iff.mp hne
  have hfinite : Statistics.AllFinite (s.values.map Measurement.magnitude) := by
    intro x hx
    obtain ⟨m, -, rfl⟩ := List.mem_map.mp hx
    exact m.finite
  obtain ⟨r, -, -, hr, -⟩ := Statistics.exists_mode_eq hlib hfinite hmagnitudes
  rw [Sheet.statistics, Statistics.summarize, Statistics.magnitudes, hvalues]
  simp [hr]

/-- A plain file has one effect on all consoles that show what belongs to it. -/
lemma exists_accounts (hlib : host.numerics.IsSound) (o : Settings) (h : files.IsPlain path) :
    ∃ e, (∀ c, Adds c files (processFile { host with console := c } o path) (.ok ⟨⟩) e) ∧
      (host.console.Shows e.shown → e.Accounts path (sheetOutcome host o files path)) := by
  have hyields := Reader.yields_read h o.strict
  cases hread : ((Reader.new path o.strict).read files).1.outcome with
  | ok s =>
    obtain ⟨ordered, hsorted⟩ := Sheet.exists_sortedValues (hyields.value s hread)
    have hsheet (c : Report.Console) := @adds_processSheet { host with console := c } files o path s
      ordered hread (fun _ => hsorted) fun _ => exists_statistics hlib
    have haccounts := @accounts_sheetEffect o path host.numerics
      ((Reader.new path o.strict).read files).1.notices (Path.shown path) s ordered
    refine ⟨{ notices := ((Reader.new path o.strict).read files).1.notices } ++
      sheetEffect host.numerics o (Path.shown path) s ordered ++ { results := s.values },
      fun c => adds_processFile (hsheet c), fun hshown => ?_⟩
    rwa [sheetOutcome_eq (hsheet host.console) (Report.Console.shows_append.mp hshown).1]
  | error f =>
    have hsheet (c : Report.Console) := @adds_processSheet_error { host with console := c } files f
      o path hread
    refine ⟨_, fun c => adds_processFile_of_error (hsheet c) (hyields.fault f hread), fun _ => ?_⟩
    rw [sheetOutcome_eq (hsheet host.console) host.console.shows_nil]
    exact accounts_failureEffect _ f

/-- A file that fails adds no results and no sections. -/
lemma Effect.Accounts.silent {e : Effect} (h : e.Accounts path (sheetOutcome host o files path))
    (hfails : fails host o files path = true) : e.results = [] ∧ e.entries = [] := by
  rw [fails] at hfails
  cases hout : sheetOutcome host o files path with
  | ok ms => simp [hout, Except.isOk, Except.toBool] at hfails
  | error f =>
    rw [h.results, h.entries f hout, hout]
    exact ⟨rfl, rfl⟩

/-! ### All files -/

/-- The settings ask for nothing but to process files. -/
structure Settings.OnlyReads (o : Settings) : Prop where
  files : o.files ≠ []
  generate : named o.generate = none
  report : named o.report = none
  csv : named o.csv = none

section ProcessAll

variable {e : Effect} (h : Adds host.console files (o.files.forM (processFile host o)) (.ok ⟨⟩) e)
include h

lemma run_processAll (hreport : named o.report = none) (hcsv : named o.csv = none)
    (hshown : host.console.Shows e.shown) :
    (ExceptT.run (processAll host o)).run (.idle files) =
      (.ok (if e.failed then 1 else 0), e.addTo (.idle files)) := by
  rw [processAll, run_bind, h.shown hshown _ rfl]
  dsimp only
  rw [writeReport, writeCsv, hreport, hcsv]
  rfl

/-- What the console refuses to show of the files ends the run. -/
lemma run_processAll_of_refused (hnot : ¬ host.console.Shows e.shown) :
    ∃ why r, (ExceptT.run (processAll host o)).run (.idle files) = (.error (.notShown why), r) := by
  obtain ⟨why, r, hrun⟩ := h.refused hnot (.idle files) rfl
  rw [processAll, run_bind, hrun]
  exact ⟨why, r, rfl⟩

end ProcessAll

section Run

variable {arguments : List String} {source : RandomSource} {level : Level} {r : Run}
  (hread : Settings.read host.emptyValue? arguments = .ok o) (hlevel : o.level = some level)

include hread hlevel

lemma plan_eq (hfiles : o.files ≠ []) (hgenerate : named o.generate = none) :
    plan host arguments source = .ok (level, processAll host o) := by
  have htask : task host o source = .ok (processAll host o) := by
    rw [task, hgenerate]
    simp [hfiles]
  rw [plan, hread, ok_bind, hlevel]
  dsimp only
  rw [htask]
  rfl

lemma run_eq_status {n : Nat} (hfiles : o.files ≠ []) (hgenerate : named o.generate = none)
    (hrun : (ExceptT.run (processAll host o)).run (.idle files) = (.ok n, r)) :
    run host arguments files source = ⟨r.filterNotices level, .status n⟩ := by
  rw [Run.idle] at hrun
  simp only [run, plan_eq hread hlevel hfiles hgenerate, hrun]

lemma run_eq_fault {f : Fault Float} (hfiles : o.files ≠ []) (hgenerate : named o.generate = none)
    (hrun : (ExceptT.run (processAll host o)).run (.idle files) = (.error f, r)) :
    run host arguments files source = ⟨r.filterNotices level, .fault f⟩ := by
  rw [Run.idle] at hrun
  simp only [run, plan_eq hread hlevel hfiles hgenerate, hrun]

end Run

/-- Effects added to the start of a run, one for each file. -/
lemma join_addTo_idle (e : String → Effect) (kept : List String) :
    (Effect.join (kept.map e)).addTo (.idle files) =
      ⟨kept.flatMap fun p => (e p).shown, kept.flatMap fun p => (e p).notices, files,
        .ofList (kept.flatMap fun p => (e p).entries), kept.flatMap fun p => (e p).results,
        kept.any fun p => (e p).failed, none⟩ := by
  rw [← Effect.apply_join kept e Effect.shown rfl Effect.shown_append,
    ← Effect.apply_join kept e Effect.notices rfl Effect.notices_append,
    ← Effect.apply_join kept e Effect.entries rfl Effect.entries_append,
    ← Effect.apply_join kept e Effect.results rfl Effect.results_append, ← Effect.failed_join]
  rfl

/-- The effects of several files are shown if each of them is. -/
lemma shows_join {c : Report.Console} {e : String → Effect} {kept : List String} :
    c.Shows (Effect.join (kept.map e)).shown ↔ ∀ p ∈ kept, c.Shows (e p).shown := by
  rw [Effect.apply_join kept e Effect.shown rfl Effect.shown_append]
  exact List.forall_mem_flatMap

/-- What is done with one file does not depend on the others. -/
lemma processFile_with_files (kept : List String) :
    processFile host { o with files := kept } = processFile host o := by
  funext p
  simp only [processFile, processSheet]

/-- Files whose effects are known are processed one after another. -/
lemma run_processAll_of_accounts {e : String → Effect} {kept : List String}
    (hreport : named o.report = none) (hcsv : named o.csv = none)
    (hadds : ∀ p ∈ kept, Adds host.console files (processFile host o p) (.ok ⟨⟩) (e p))
    (hshown : ∀ p ∈ kept, host.console.Shows (e p).shown)
    (haccounts : ∀ p ∈ kept, (e p).Accounts p (sheetOutcome host o files p)) :
    (ExceptT.run (processAll host { o with files := kept })).run (.idle files) =
      (.ok (if kept.any (fails host o files) then 1 else 0),
        (Effect.join (kept.map e)).addTo (.idle files)) := by
  have hloop : Adds host.console files (kept.forM (processFile host { o with files := kept }))
      (.ok ⟨⟩) (.join (kept.map e)) := by
    rw [processFile_with_files]
    exact adds_forM hadds
  have hfailed : (Effect.join (kept.map e)).failed = kept.any (fails host o files) := by
    rw [Effect.failed_join, Bool.eq_iff_iff, List.any_eq_true, List.any_eq_true]
    refine exists_congr fun p => and_congr_right fun hp => ?_
    rw [(haccounts p hp).failed, fails]
  rw [@run_processAll host { o with files := kept } files _ hloop hreport hcsv
    (shows_join.mpr hshown), hfailed]

/-- If nothing is read of the first file, its fault ends the run at once, unless it lies in the
files. -/
lemma run_processAll_of_read {p : String} {rest : List String} {f : Fault Float}
    (hlisted : o.files = p :: rest)
    (hread : ((Reader.new p o.strict).read files).1 = ⟨[], .error f⟩)
    (hfile : f.isFile = false) (hmeasuring : f.isMeasuring = false) :
    (ExceptT.run (processAll host o)).run (.idle files) = (.error f, .idle files) := by
  have hsheet := @adds_processSheet_error host files f o p (by rw [hread])
  rw [hread] at hsheet
  have hfirst : Adds host.console files (processFile host o p) (.error f) {} :=
    adds_processFile_escaping hsheet hfile hmeasuring
  have hloop : Adds host.console files (o.files.forM (processFile host o)) (.error f) {} := by
    rw [hlisted]
    exact Adds.bind_error hfirst
  have hall : Adds host.console files (processAll host o) (.error f) {} := Adds.bind_error hloop
  rw [hall.shown host.console.shows_nil _ rfl, Effect.empty_addTo]

/-- A sheet with one measurement divides by nothing. -/
lemma not_dividesByVanishing_kilogram : ¬ Sheet.DividesByVanishing (Text.lines "1 kg\n") := by
  have hstrip : (Text.lines "1 kg\n").map Text.strip = ["1 kg"] := by decide +kernel
  have hwords : Text.words "1 kg" = ["1", "kg"] := by decide +kernel
  have hunit : Unit.read "kg" = .ok (.simple .kilogram : Unit Float) := rfl
  have hoperand := Line.readOperand_one "1 kg" 1 (by decide) hunit
  have hline : Line.read "1 kg" = .ok ([.one (.simple .kilogram)], []) := by
    rw [Line.read, hwords]
    simp [Line.readWords, hoperand]
  rintro ⟨raw, hraw, -, hdiv⟩
  have hmem : Text.strip raw ∈ ["1 kg"] := hstrip ▸ List.mem_map_of_mem hraw
  rw [List.mem_singleton.mp hmem] at hdiv
  exact Line.not_dividesByVanishing hline List.not_mem_nil hdiv

/-- Plain files are processed one by one, each as if it were alone, if the console shows all that is
shown of them: all results are those of the files that succeed, each file that fails is reported,
and the status is one if there is any. Files that fail can be left out without a change to the
results and sections of the others. If the console refuses to show something of a file, that ends
the run. -/
theorem run_of_isPlain {arguments : List String} (source : RandomSource) {level : Level}
    (hlib : host.numerics.IsSound) (hread : Settings.read host.emptyValue? arguments = .ok o)
    (hlevel : o.level = some level) (ho : o.OnlyReads) (hplain : ∀ p ∈ o.files, files.IsPlain p) :
    ((∀ p ∈ o.files, host.console.Shows (showings host o files p)) →
      ∃ r : Run, run host arguments files source =
          ⟨r.filterNotices level, .status (if o.files.any (fails host o files) then 1 else 0)⟩ ∧
        r.results = o.files.flatMap (fun p => (sheetOutcome host o files p).toOption.getD []) ∧
        (∀ p ∈ o.files, ∀ f, sheetOutcome host o files p = .error f →
          failureNotice p f ∈ (r.filterNotices level).notices ∧ failurePanel p f ∈ r.shown) ∧
        ∀ keep : String → Bool, (∀ p ∈ o.files, keep p = false → fails host o files p = true) →
          ∃ n, ∃ r' : Run,
            (ExceptT.run (processAll host { o with files := o.files.filter keep })).run
              (.idle files) = (.ok n, r') ∧
            r'.results = r.results ∧ r'.sections = r.sections ∧
            r'.shown.Sublist r.shown ∧ r'.notices.Sublist r.notices) ∧
    ((∃ p ∈ o.files, ¬ host.console.Shows (showings host o files p)) →
      ∃ (r : Run) (why : String),
        run host arguments files source = ⟨r, .fault (.notShown why)⟩) := by
  choose! e hall haccounts using fun p (hp : p ∈ o.files) => exists_accounts hlib o (hplain p hp)
  have hadds : ∀ p ∈ o.files, Adds host.console files (processFile host o p) (.ok ⟨⟩) (e p) :=
    fun p hp => hall p hp host.console
  have hshowings : ∀ p ∈ o.files, showings host o files p = (e p).shown :=
    fun p hp => showings_eq (hall p hp)
  constructor
  · intro hshown
    replace hshown : ∀ p ∈ o.files, host.console.Shows (e p).shown :=
      fun p hp => hshowings p hp ▸ hshown p hp
    replace haccounts := fun p hp => haccounts p hp (hshown p hp)
    have hrun := run_processAll_of_accounts ho.report ho.csv hadds hshown haccounts
    rw [join_addTo_idle] at hrun
    refine ⟨_, run_eq_status hread hlevel ho.files ho.generate hrun, ?_, ?_, ?_⟩
    · exact List.flatMap_congr fun p hp => (haccounts p hp).results
    · intro p hp f hf
      obtain ⟨hnotice, hpanel⟩ := (haccounts p hp).report f hf
      constructor
      · refine List.mem_filter.mpr ⟨?_, decide_eq_true (Level.rank_le_rank_error level)⟩
        exact List.mem_flatMap.mpr ⟨p, hp, hnotice⟩
      · exact List.mem_flatMap.mpr ⟨p, hp, hpanel⟩
    · intro keep hkeep
      have hkept : ∀ p ∈ o.files.filter keep, p ∈ o.files := fun p hp => (List.mem_filter.mp hp).1
      have hrun' := run_processAll_of_accounts ho.report ho.csv
        (fun p hp => hadds p (hkept p hp)) (fun p hp => hshown p (hkept p hp))
        fun p hp => haccounts p (hkept p hp)
      rw [join_addTo_idle] at hrun'
      have hsilent : ∀ p ∈ o.files, keep p = false → (e p).results = [] ∧ (e p).entries = [] :=
        fun p hp hdrop => (haccounts p hp).silent (hkeep p hp hdrop)
      refine ⟨_, _, hrun', ?_, ?_, ?_, ?_⟩
      · exact Effect.flatMap_filter fun p hp hdrop => (hsilent p hp hdrop).1
      · exact congrArg Report.Sections.ofList
          (Effect.flatMap_filter fun p hp hdrop => (hsilent p hp hdrop).2)
      · exact List.filter_sublist.flatMap _
      · exact List.filter_sublist.flatMap _
  · rintro ⟨p, hp, hrefused⟩
    rw [hshowings p hp] at hrefused
    have hnot : ¬ host.console.Shows (Effect.join (o.files.map e)).shown :=
      fun hshown => hrefused (shows_join.mp hshown p hp)
    obtain ⟨why, r, hrun⟩ := run_processAll_of_refused (adds_forM hadds) hnot
    exact ⟨_, why, run_eq_fault hread hlevel ho.files ho.generate hrun⟩

/-- A file is missing, and the one behind it is read. -/
theorem run_missing_file :
    ∃ (files : Storage) (source : RandomSource) (r : Run),
      files.readText "missing.txt" = .error (.file (.notFound "missing.txt")) ∧
      files.readText "a.txt" = .ok "1 kg\n" ∧
      run .plain ["missing.txt", "a.txt", "--stats", "--sorted"] files source =
        ⟨r.filterNotices .warning, .status 1⟩ ∧
      failurePanel "missing.txt" (.file (.notFound "missing.txt")) ∈ r.shown := by
  have hopen : Path.toOpen "a.txt" = ["a.txt"] := by decide +kernel
  have hopen' : Path.toOpen "missing.txt" = ["missing.txt"] := by decide +kernel
  have hshown : Path.shown "a.txt" = "a.txt" := by decide +kernel
  have hshown' : Path.shown "missing.txt" = "missing.txt" := by decide +kernel
  obtain ⟨files, hfiles⟩ : ∃ files : Storage, files = ⟨[(["a.txt"], .file "1 kg\n".toUTF8)]⟩ :=
    ⟨_, rfl⟩
  have hread : files.read (Path.shown "a.txt") = .ok "1 kg\n".toUTF8 := by
    rw [hshown, hfiles]
    exact Storage.read_eq_ok ["a.txt"] (by rw [hopen]; rfl) rfl rfl
  have hread' : files.read (Path.shown "missing.txt") = .error (.notFound "missing.txt") := by
    rw [hshown', hfiles]
    exact Storage.read_eq_notFound ["missing.txt"] (by rw [hopen']; rfl) rfl rfl
  have hplain : ∀ p ∈ ["missing.txt", "a.txt"], files.IsPlain p := by
    rw [List.forall_mem_cons, List.forall_mem_singleton]
    constructor
    · exact Storage.isPlain_of_read_error (by rw [hshown']; decide) hread'
    · exact Storage.isPlain_of_read (by rw [hshown]; decide) hread not_dividesByVanishing_kilogram
  obtain ⟨o, harguments, hlisted, hlevel, ho⟩ :
      ∃ o, Settings.read Host.plain.emptyValue? ["missing.txt", "a.txt", "--stats", "--sorted"] =
          .ok o ∧ o.files = ["missing.txt", "a.txt"] ∧ o.level = some .warning ∧ o.OnlyReads :=
    ⟨{ Settings.default with files := ["missing.txt", "a.txt"], sorted := true, stats := true },
      by decide +kernel, rfl, rfl, ⟨List.cons_ne_nil _ _, rfl, rfl, rfl⟩⟩
  have hfails : sheetOutcome .plain o files "missing.txt" =
      .error (.file (.notFound "missing.txt")) := by
    have hmissing := @Reader.read_of_read_error (.new "missing.txt" o.strict) files _ hread'
    exact sheetOutcome_eq (adds_processSheet_error (congrArg (fun q => q.1.outcome) hmissing))
      (Report.Console.shows_plain _)
  have hlib : Host.plain.numerics.IsSound := Statistics.isSound_plain_float
  obtain ⟨r, hrun, -, hreport, -⟩ := (run_of_isPlain ⟨fun _ => 0, fun _ => 0.0, 0, 0⟩ hlib
    harguments hlevel ho (hlisted ▸ hplain)).1 fun p hp => Report.Console.shows_plain _
  refine ⟨files, ⟨fun _ => 0, fun _ => 0.0, 0, 0⟩, r,
    hshown' ▸ Storage.readText_eq_error hread', hshown ▸ Storage.readText_eq_ok hread, ?_, ?_⟩
  · rw [hrun, hlisted, List.any_cons, fails, hfails]
    rfl
  · have hmem : "missing.txt" ∈ o.files := by simp [hlisted]
    exact (hreport _ hmem _ hfails).2

/-- A file is no text: it is not reported, and the one behind it is not read. -/
theorem run_undecodable :
    ∃ (files : Storage) (source : RandomSource),
      files.read "bad.txt" = .ok ⟨#[0xff]⟩ ∧ files.readText "good.txt" = .ok "1 g\n" ∧
      run .plain ["bad.txt", "good.txt"] files source = ⟨.idle files, .fault .undecodable⟩ := by
  have hopen : Path.toOpen "bad.txt" = ["bad.txt"] := by decide +kernel
  have hopen' : Path.toOpen "good.txt" = ["good.txt"] := by decide +kernel
  have hshown : Path.shown "bad.txt" = "bad.txt" := by decide +kernel
  obtain ⟨files, hfiles⟩ : ∃ files : Storage,
      files = ⟨[(["bad.txt"], .file ⟨#[0xff]⟩), (["good.txt"], .file "1 g\n".toUTF8)]⟩ := ⟨_, rfl⟩
  have hread : files.read "bad.txt" = .ok ⟨#[0xff]⟩ := by
    rw [hfiles]
    exact Storage.read_eq_ok ["bad.txt"] (by rw [hopen]; rfl) rfl rfl
  have hread' : files.read "good.txt" = .ok "1 g\n".toUTF8 := by
    rw [hfiles]
    exact Storage.read_eq_ok ["good.txt"] (by rw [hopen']; rfl) rfl rfl
  have htext : files.readText (Path.shown "bad.txt") = .error .undecodable := by
    have hdecode : String.fromUTF8? ⟨#[0xff]⟩ = none := by decide +kernel
    rw [hshown, Storage.readText, hread]
    simp only [hdecode, throw_eq_error]
  have hlines : files.linesBeforeFault (Path.shown "bad.txt") = [] := by
    have hbefore : Decoding.linesBeforeFault ⟨#[0xff]⟩ = [] := by decide +kernel
    rw [hshown, Storage.linesBeforeFault, hread]
    exact hbefore
  obtain ⟨o, harguments, hlisted, hlevel, ho⟩ :
      ∃ o, Settings.read Host.plain.emptyValue? ["bad.txt", "good.txt"] = .ok o ∧
        o.files = ["bad.txt", "good.txt"] ∧ o.level = some .warning ∧ o.OnlyReads :=
    ⟨{ Settings.default with files := ["bad.txt", "good.txt"] }, by decide +kernel, rfl, rfl,
      ⟨List.cons_ne_nil _ _, rfl, rfl, rfl⟩⟩
  have hnothing := @Reader.read_of_error (.new "bad.txt" o.strict) files _ htext hlines
  have hrun := @run_processAll_of_read .plain o files _ _ _ hlisted (congrArg Prod.fst hnothing)
    rfl rfl
  refine ⟨files, ⟨fun _ => 0, fun _ => 0.0, 0, 0⟩, hread, Storage.readText_eq_ok hread', ?_⟩
  rw [run_eq_fault harguments hlevel ho.files ho.generate hrun]
  rfl

end CommandLine

end Metrology
