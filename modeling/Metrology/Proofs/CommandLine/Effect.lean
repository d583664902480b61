import Metrology.CommandLine.Run
import Metrology.Proofs.Result

/-!
# Effects of work in a run

A piece of work adds to a run: it shows and reports something, gives sections of the report their
lines, has results, or fails. It takes nothing back and looks at nothing but the files, so it adds
the same to every run with the same files. What several pieces of work add is appended. All this
holds where the console shows what it is given; the work ends with the first thing that it refuses.
-/

namespace Metrology

/-! ### Consoles -/

/-- The console refuses none of these. -/
def Report.Console.Shows (c : Report.Console) (ss : List Report.Shown) : Prop :=
  ∀ s ∈ ss, c.refusal? s = none

lemma Report.Console.shows_append {c : Report.Console} {ss ts : List Report.Shown} :
    c.Shows (ss ++ ts) ↔ c.Shows ss ∧ c.Shows ts := List.forall_mem_append

lemma Report.Console.shows_nil (c : Report.Console) : c.Shows [] := List.forall_mem_nil _

lemma Report.Console.shows_plain (ss : List Report.Shown) : Console.plain.Shows ss :=
  fun _ _ => rfl

namespace CommandLine

/-! ### Effects -/

/-- What a piece of work adds to a run. -/
structure Effect where
  shown : List Report.Shown := []
  notices : List Notice := []
  /-- The sections that are given lines, in the order in which they are. -/
  entries : List Report.Section := []
  results : List (Measurement Float) := []
  failed : Bool := false
deriving Inhabited

namespace Effect

def append (e f : Effect) : Effect :=
  ⟨e.shown ++ f.shown, e.notices ++ f.notices, e.entries ++ f.entries, e.results ++ f.results,
    e.failed || f.failed⟩

instance : Append Effect := ⟨append⟩

/-- The effects of several pieces of work, one after another. -/
def join (es : List Effect) : Effect := es.foldr (· ++ ·) {}

variable (e f : Effect)

@[simp] lemma shown_append : (e ++ f).shown = e.shown ++ f.shown := rfl

@[simp] lemma notices_append : (e ++ f).notices = e.notices ++ f.notices := rfl

@[simp] lemma entries_append : (e ++ f).entries = e.entries ++ f.entries := rfl

@[simp] lemma results_append : (e ++ f).results = e.results ++ f.results := rfl

@[simp] lemma failed_append : (e ++ f).failed = (e.failed || f.failed) := rfl

@[simp] lemma append_empty : e ++ {} = e := by
  change Effect.mk _ _ _ _ _ = e
  simp

@[simp] lemma join_nil : join [] = {} := rfl

@[simp] lemma join_cons (es : List Effect) : join (e :: es) = e ++ join es := rfl

section Join

variable {β : Type} (l : List β) (g : β → Effect)

/-- What is appended in effects is appended in all of them together. -/
lemma apply_join {γ : Type} (part : Effect → List γ) (hempty : part {} = [])
    (happend : ∀ e f, part (e ++ f) = part e ++ part f) :
    part (join (l.map g)) = l.flatMap fun x => part (g x) := by
  induction l with
  | nil => exact hempty
  | cons x l ih => rw [List.map_cons, join_cons, happend, ih, List.flatMap_cons]

lemma failed_join : (join (l.map g)).failed = l.any fun x => (g x).failed := by
  induction l with
  | nil => rfl
  | cons x l ih => simp [ih]

/-- Leaving out what adds nothing of a kind leaves all that is added of it. -/
lemma flatMap_filter {γ : Type} {l : List β} {keep : β → Bool} {g : β → List γ}
    (h : ∀ x ∈ l, keep x = false → g x = []) : (l.filter keep).flatMap g = l.flatMap g := by
  induction l with
  | nil => rfl
  | cons x l ih =>
    obtain ⟨hx, hl⟩ := List.forall_mem_cons.mp h
    cases hkeep : keep x with
    | true => rw [List.filter_cons_of_pos hkeep, List.flatMap_cons, List.flatMap_cons, ih hl]
    | false =>
      rw [List.filter_cons_of_neg (by simp [hkeep]), List.flatMap_cons, hx hkeep, ih hl]
      rfl

end Join

/-- The run with an effect added. -/
def addTo (r : Run) : Run where
  shown := r.shown ++ e.shown
  notices := r.notices ++ e.notices
  files := r.files
  sections := e.entries.foldl (fun ss s => ss.put s.1 s.2) r.sections
  results := r.results ++ e.results
  failed := r.failed || e.failed
  seed := r.seed

@[simp] lemma files_addTo (r : Run) : (e.addTo r).files = r.files := rfl

@[simp] lemma empty_addTo (r : Run) : ({} : Effect).addTo r = r := by
  simp [addTo]

@[simp] lemma append_addTo (r : Run) : (e ++ f).addTo r = f.addTo (e.addTo r) := by
  simp [addTo, Bool.or_assoc]

end Effect

/-! ### Runs of work -/

namespace Work

variable {β γ : Type}

lemma run_modify (g : Run → Run) (r : Run) :
    (ExceptT.run (modify g : Work PUnit)).run r = (.ok ⟨⟩, g r) := rfl

lemma run_bind (w : Work β) (k : β → Work γ) (r : Run) :
    (ExceptT.run (w >>= k)).run r = match (ExceptT.run w).run r with
      | (.ok b, r') => (ExceptT.run (k b)).run r'
      | (.error f, r') => (.error f, r') := by
  rw [ExceptT.run_bind, StateT.run_bind]
  rcases (ExceptT.run w).run r with ⟨f | b, r'⟩ <;> rfl

lemma run_tryCatch (w : Work β) (h : Fault Float → Work β) (r : Run) :
    (ExceptT.run (tryCatch w h)).run r = match (ExceptT.run w).run r with
      | (.ok b, r') => (.ok b, r')
      | (.error f, r') => (ExceptT.run (h f)).run r' := by
  have hrun : StateT.run w r = (ExceptT.run w).run r := rfl
  simp only [tryCatch, tryCatchThe, MonadExceptOf.tryCatch, ExceptT.tryCatch, ExceptT.run_mk,
    StateT.run_bind, hrun]
  rcases (ExceptT.run w).run r with ⟨f | b, r'⟩ <;> rfl

/-! ### Work that only adds -/

/-- In every run with the files, the work comes to the outcome and adds the effect, if the console
shows all that belongs to it. Otherwise the work ends with something that is not shown. -/
structure Adds (c : Report.Console) (files : Storage) (w : Work β) (out : Result Float β)
    (e : Effect) : Prop where
  shown : c.Shows e.shown →
    ∀ r : Run, r.files = files → (ExceptT.run w).run r = (out, e.addTo r)
  refused : ¬ c.Shows e.shown →
    ∀ r : Run, r.files = files → ∃ why r', (ExceptT.run w).run r = (.error (.notShown why), r')

variable {c : Report.Console} {files : Storage} {w : Work β} {k : β → Work γ} {b : β}
  {f : Fault Float} {out : Result Float γ} {e e' : Effect}

/-- Work that shows nothing is not refused. -/
lemma Adds.of_silent {w : Work β} {out : Result Float β} (hsilent : e.shown = [])
    (h : ∀ r : Run, r.files = files → (ExceptT.run w).run r = (out, e.addTo r)) :
    Adds c files w out e :=
  ⟨fun _ => h, fun hnot => absurd (hsilent ▸ c.shows_nil) hnot⟩

lemma adds_ofResult (x : Result Float β) : Adds c files (ofResult x) x {} := by
  refine .of_silent rfl fun r hr => ?_
  rw [Effect.empty_addTo]
  rfl

lemma adds_pure (b : β) : Adds c files (pure b) (.ok b) {} := adds_ofResult (.ok b)

lemma adds_throw (f : Fault Float) : Adds c files (throw f : Work β) (.error f) {} :=
  adds_ofResult (.error f)

lemma adds_modify {g : Run → Run} (hsilent : e.shown = []) (h : ∀ r, g r = e.addTo r) :
    Adds c files (modify g) (.ok ⟨⟩) e := by
  refine .of_silent hsilent fun r hr => ?_
  rw [run_modify, h]

lemma adds_display (s : Report.Shown) :
    Adds c files (display c s) (.ok ⟨⟩) { shown := [s] } where
  shown h r hr := by
    rw [display, h s List.mem_cons_self, run_modify]
    simp [Effect.addTo]
  refused h r hr := by
    obtain ⟨why, hwhy⟩ : ∃ why, c.refusal? s = some why := by
      refine Option.ne_none_iff_exists'.mp fun hnone => h ?_
      exact List.forall_mem_singleton.mpr hnone
    refine ⟨why, r, ?_⟩
    rw [display, hwhy]
    rfl

lemma adds_notify (ns : List Notice) : Adds c files (notify ns) (.ok ⟨⟩) { notices := ns } :=
  adds_modify rfl fun r => by simp [Effect.addTo]

lemma adds_enter (title : String) (ls : List String) :
    Adds c files (enter title ls) (.ok ⟨⟩) { entries := [(title, ls)] } :=
  adds_modify rfl fun r => by simp [Effect.addTo]

lemma adds_get {k : Run → Work γ} (h : ∀ r : Run, r.files = files → Adds c files (k r) out e) :
    Adds c files (get >>= k) out e :=
  ⟨fun hshown r hr => (h r hr).shown hshown r hr, fun hnot r hr => (h r hr).refused hnot r hr⟩

lemma Adds.congr {w : Work β} {out : Result Float β} (h : Adds c files w out e) (he : e = e') :
    Adds c files w out e' := he ▸ h

lemma Adds.bind (hw : Adds c files w (.ok b) e) (hk : Adds c files (k b) out e') :
    Adds c files (w >>= k) out (e ++ e') where
  shown h r hr := by
    obtain ⟨hfirst, hrest⟩ := Report.Console.shows_append.mp h
    have hr' : (e.addTo r).files = files := hr
    rw [run_bind, hw.shown hfirst r hr, Effect.append_addTo]
    exact hk.shown hrest _ hr'
  refused h r hr := by
    rw [run_bind]
    by_cases hfirst : c.Shows e.shown
    · have hr' : (e.addTo r).files = files := hr
      rw [hw.shown hfirst r hr]
      exact hk.refused (fun hrest => h (Report.Console.shows_append.mpr ⟨hfirst, hrest⟩)) _ hr'
    · obtain ⟨why, r', hrun⟩ := hw.refused hfirst r hr
      rw [hrun]
      exact ⟨why, r', rfl⟩

/-- Work that is only done under a condition. -/
lemma Adds.when {p : Bool} {w : Work PUnit} {k : PUnit → Work γ}
    (hw : p = true → Adds c files w (.ok ⟨⟩) e) (hk : Adds c files (k ⟨⟩) out e') :
    Adds c files (if p = true then w >>= k else k ⟨⟩) out ((if p = true then e else {}) ++ e') := by
  cases p with
  | true => exact Adds.bind (hw rfl) hk
  | false => exact hk

lemma Adds.bind_error (hw : Adds c files w (.error f) e) :
    Adds c files (w >>= k) (.error f) e where
  shown h r hr := by rw [run_bind, hw.shown h r hr]
  refused h r hr := by
    obtain ⟨why, r', hrun⟩ := hw.refused h r hr
    rw [run_bind, hrun]
    exact ⟨why, r', rfl⟩

section TryCatch

variable {h : Fault Float → Work β} (hpass : ∀ why, h (.notShown why) = throw (.notShown why))
include hpass

lemma Adds.tryCatch_ok (hw : Adds c files w (.ok b) e) :
    Adds c files (tryCatch w h) (.ok b) e where
  shown hshown r hr := by rw [run_tryCatch, hw.shown hshown r hr]
  refused hnot r hr := by
    obtain ⟨why, r', hrun⟩ := hw.refused hnot r hr
    rw [run_tryCatch, hrun]
    dsimp only
    rw [hpass]
    exact ⟨why, r', rfl⟩

lemma Adds.tryCatch_error {out : Result Float β} (hw : Adds c files w (.error f) e)
    (hh : Adds c files (h f) out e') : Adds c files (tryCatch w h) out (e ++ e') where
  shown hshown r hr := by
    obtain ⟨hfirst, hrest⟩ := Report.Console.shows_append.mp hshown
    have hr' : (e.addTo r).files = files := hr
    rw [run_tryCatch, hw.shown hfirst r hr, Effect.append_addTo]
    exact hh.shown hrest _ hr'
  refused hnot r hr := by
    rw [run_tryCatch]
    by_cases hfirst : c.Shows e.shown
    · have hr' : (e.addTo r).files = files := hr
      rw [hw.shown hfirst r hr]
      exact hh.refused (fun hrest => hnot (Report.Console.shows_append.mpr ⟨hfirst, hrest⟩)) _ hr'
    · obtain ⟨why, r', hrun⟩ := hw.refused hfirst r hr
      rw [hrun]
      dsimp only
      rw [hpass]
      exact ⟨why, r', rfl⟩

end TryCatch

/-- If no step of a loop fails, its steps add their effects one after another. -/
lemma adds_forM {w : β → Work PUnit} {g : β → Effect} {l : List β}
    (h : ∀ x ∈ l, Adds c files (w x) (.ok ⟨⟩) (g x)) :
    Adds c files (l.forM w) (.ok ⟨⟩) (Effect.join (l.map g)) := by
  induction l with
  | nil => exact adds_pure PUnit.unit
  | cons x l ih =>
    obtain ⟨hx, hl⟩ := List.forall_mem_cons.mp h
    exact hx.bind (ih hl)

end Work

end CommandLine

end Metrology
