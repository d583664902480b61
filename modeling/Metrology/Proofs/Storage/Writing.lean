import Metrology.Proofs.Storage.Faults

/-!
# Files that are written

A file is written where its path leads through directories. It replaces no directory, and makes
none that was not there, so that all other paths lead where they did before. What is written is
what is read back, also after a file has been written at another place.
-/

namespace Metrology.Storage

variable {s t : Storage} {path : String} {place : List String}

/-- A file can be written at the path, and this is its place. -/
structure IsWritable (s : Storage) (path : String) (place : List String) : Prop where
  locate : s.locate path (Path.toCreate path) = .ok place
  notDirectory : s.isDirectory place = false

lemma IsWritable.write_eq_ok (h : s.IsWritable path place) (text : String) :
    s.write path text = .ok (s.put place (.file text.toUTF8)) := by
  rw [write, h.locate, ok_bind, h.notDirectory]
  rfl

/-- Where no file can be written, nothing is. -/
lemma exists_write_eq_error (h : ∀ place, ¬ s.IsWritable path place) (text : String) :
    ∃ f, s.write path text = .error f := by
  cases hlocate : s.locate path (Path.toCreate path) with
  | error f => exact ⟨f, by rw [write, hlocate]; rfl⟩
  | ok place =>
    have hdirectory : s.isDirectory place = true :=
      eq_true_of_ne_false fun hnot => h place ⟨hlocate, hnot⟩
    exact ⟨.isDirectory path, by rw [write, hlocate, ok_bind, if_pos hdirectory]; rfl⟩

/-! ### Entries -/

section Entries

variable (n : Node)

lemma lookup_map_self {es : List (List String × Node)} (h : es.any (fun e => e.1 == place) = true) :
    (es.map fun e => if e.1 == place then (place, n) else e).lookup place = some n := by
  induction es with
  | nil => simp at h
  | cons e es ih =>
    obtain ⟨q, m⟩ := e
    by_cases hq : q = place
    · simp [hq]
    · have hne : (place == q) = false := beq_eq_false_iff_ne.mpr (Ne.symm hq)
      rw [List.any_cons, beq_eq_false_iff_ne.mpr hq, Bool.false_or] at h
      simpa [hq, List.lookup_cons, hne] using ih h

lemma lookup_map_of_ne {q : List String} (es : List (List String × Node)) (hq : q ≠ place) :
    (es.map fun e => if e.1 == place then (place, n) else e).lookup q = es.lookup q := by
  induction es with
  | nil => rfl
  | cons e es ih =>
    obtain ⟨k, m⟩ := e
    by_cases hk : k = place
    · have hne : (q == place) = false := beq_eq_false_iff_ne.mpr hq
      simpa [hk, List.lookup_cons, hne] using ih
    · cases hqk : q == k with
      | true => simp [hk, List.lookup_cons, hqk]
      | false => simpa [hk, List.lookup_cons, hqk] using ih

lemma lookup_put_self (s : Storage) : (s.put place n).entries.lookup place = some n := by
  unfold put
  split
  · next h => exact lookup_map_self n h
  · next h =>
    have hnone : s.entries.lookup place = none := by
      rw [List.lookup_eq_none_iff]
      intro e he
      have hne : ¬ e.1 = place := fun heq => h (List.any_eq_true.mpr ⟨e, he, by simp [heq]⟩)
      simpa using Ne.symm hne
    simp [List.lookup_append, hnone]

lemma lookup_put_of_ne {q : List String} (s : Storage) (hq : q ≠ place) :
    (s.put place n).entries.lookup q = s.entries.lookup q := by
  have hne : (q == place) = false := by simpa using hq
  unfold put
  split
  · exact lookup_map_of_ne n _ hq
  · simp [List.lookup_append, List.lookup_cons, hne]

/-- The names of the other entries stay. -/
lemma any_put (s : Storage) (p : List String → Bool) :
    ((s.put place n).entries.any fun e => p e.1) = (s.entries.any (fun e => p e.1) || p place) := by
  unfold put
  split
  · next h =>
    have hkeys : ∀ e : List String × Node,
        p (if e.1 == place then (place, n) else e).1 = p e.1 := by
      intro e
      by_cases he : e.1 = place <;> simp [he]
    have hplace : p place = true → s.entries.any (fun e => p e.1) = true := by
      intro hp
      obtain ⟨e, he, heq⟩ := List.any_eq_true.mp h
      exact List.any_eq_true.mpr ⟨e, he, by simpa [eq_of_beq heq] using hp⟩
    rw [List.any_map]
    simp only [Function.comp_def, hkeys]
    cases hp : p place with
    | false => simp
    | true => simp [hplace hp]
  · simp

end Entries

/-! ### Paths that are followed -/

lemma follow_cons_eq_ok {name : String} {names target : List String} :
    s.follow path place (name :: names) = .ok target ↔ s.isDirectory place = true ∧
      ¬ nameLimit < name.utf8ByteSize ∧ s.follow path (step place name) names = .ok target := by
  cases hd : s.isDirectory place with
  | true =>
    by_cases hlong : nameLimit < name.utf8ByteSize <;> simp [follow, hd, hlong]
  | false =>
    cases hn : s.node? place <;> simp [follow, hd, hn]

/-- Is there a directory at every place above this one? -/
def IsReached (s : Storage) (place : List String) : Prop :=
  ∀ q, q <+: place → q ≠ place → s.isDirectory q = true

lemma IsReached.step (hd : s.isDirectory place = true) (h : s.IsReached place) (name : String) :
    s.IsReached (step place name) := by
  have hconcat : s.IsReached (place ++ [name]) := by
    intro q hq hne
    rcases List.prefix_concat_iff.mp hq with rfl | hq
    · exact absurd rfl hne
    · by_cases heq : q = place
      · exact heq ▸ hd
      · exact h q hq heq
  unfold Storage.step
  split
  · exact h
  · split
    · exact hconcat
    · split
      · exact h
      · split
        · exact hconcat
        · intro q hq hne
          refine h q (hq.trans (List.dropLast_prefix place)) ?_
          rintro rfl
          exact hne (hq.eq_of_length_le (by simp))

lemma isReached_of_follow {names target : List String} (h : s.follow path place names = .ok target)
    (hp : s.IsReached place) : s.IsReached target := by
  induction names generalizing place with
  | nil =>
    cases h
    exact hp
  | cons name names ih =>
    obtain ⟨hd, -, h⟩ := follow_cons_eq_ok.mp h
    exact ih h (hp.step hd name)

lemma IsWritable.isReached (h : s.IsWritable path place) : s.IsReached place := by
  obtain ⟨_, -, hfollow⟩ := bind_eq_ok.mp h.locate
  refine isReached_of_follow hfollow ?_
  have hnil : s.IsReached [] := fun q hq hne => absurd (List.prefix_nil.mp hq) hne
  split
  · exact hnil.step rfl "/"
  · exact hnil

/-- Paths lead where they did, as long as the directories are the same. -/
lemma follow_congr {names target : List String} (hst : ∀ q, t.isDirectory q = s.isDirectory q)
    (h : s.follow path place names = .ok target) : t.follow path place names = .ok target := by
  induction names generalizing place with
  | nil => exact h
  | cons name names ih =>
    obtain ⟨hd, hshort, h⟩ := follow_cons_eq_ok.mp h
    exact follow_cons_eq_ok.mpr ⟨(hst place).trans hd, hshort, ih h⟩

lemma IsWritable.congr (h : s.IsWritable path place)
    (hst : ∀ q, t.isDirectory q = s.isDirectory q) : t.IsWritable path place := by
  obtain ⟨_, hcheck, hfollow⟩ := bind_eq_ok.mp h.locate
  exact ⟨bind_eq_ok.mpr ⟨_, hcheck, follow_congr hst hfollow⟩, (hst place).trans h.notDirectory⟩

/-- A name `.` at the end asks for a directory. -/
lemma isDirectory_of_follow_dot {names target : List String}
    (h : s.follow path place (names ++ ["."]) = .ok target) : s.isDirectory target = true := by
  induction names generalizing place with
  | nil =>
    obtain ⟨hd, -, h⟩ := follow_cons_eq_ok.mp h
    cases h
    exact hd
  | cons name names ih =>
    rw [List.cons_append, follow_cons_eq_ok] at h
    exact ih h.2.2

/-- A path at which a file can be written does not end with a slash. -/
lemma IsWritable.endsWith_eq (h : s.IsWritable path place) : path.endsWith "/" = false := by
  obtain ⟨_, -, hfollow⟩ := bind_eq_ok.mp h.locate
  cases hslash : path.endsWith "/" with
  | false => rfl
  | true =>
    rw [Path.toCreate, hslash, if_pos rfl] at hfollow
    have hd := isDirectory_of_follow_dot hfollow
    rw [h.notDirectory] at hd
    cases hd

lemma IsWritable.toOpen_eq (h : s.IsWritable path place) :
    Path.toOpen path = Path.toCreate path := by
  rw [Path.toOpen, Path.toCreate, h.endsWith_eq]
  rfl

/-! ### After writing -/

/-- Writing a file leaves all directories as they were. -/
lemma IsWritable.isDirectory_put (h : s.IsWritable path place) (content : ByteArray)
    (q : List String) : (s.put place (.file content)).isDirectory q = s.isDirectory q := by
  unfold isDirectory
  cases habove : isAbove q with
  | true => rfl
  | false =>
    by_cases hq : q = place
    · have hnot := h.notDirectory
      rw [isDirectory, ← hq, habove] at hnot
      rw [node?, hq, lookup_put_self, ← hq]
      simpa using hnot.symm
    · rw [node?, node?, lookup_put_of_ne _ s hq, any_put _ s fun e => q.isPrefixOf e]
      cases hprefix : q.isPrefixOf place with
      | false => rw [Bool.or_false]
      | true =>
        have hd := h.isReached q (List.isPrefixOf_iff_prefix.mp hprefix) hq
        rw [isDirectory, habove, node?] at hd
        cases hlookup : s.entries.lookup q with
        | some n => rfl
        | none =>
          rw [hlookup] at hd
          simpa using hd

lemma IsWritable.put {path' : String} {place' : List String} (h : s.IsWritable path place)
    (h' : s.IsWritable path' place') (content : ByteArray) :
    (s.put place (.file content)).IsWritable path' place' :=
  h'.congr (h.isDirectory_put content)

lemma IsWritable.readText_eq_ok {text : String} (h : s.IsWritable path place)
    (hlookup : s.entries.lookup place = some (.file text.toUTF8)) : s.readText path = .ok text := by
  refine Storage.readText_eq_ok (read_eq_ok place ?_ h.notDirectory ?_)
  · rw [h.toOpen_eq, h.locate]
  · rw [node?, hlookup]

lemma lookup_of_node?_eq_file {content : ByteArray} (h : s.node? place = some (.file content)) :
    s.entries.lookup place = some (.file content) := by
  unfold node? at h
  split at h
  · next n hlookup => rw [hlookup, h]
  · split at h <;> cases h

/-- A storage in which a file is written is the same as before exactly if the file had this content
before. -/
lemma node?_put_eq_iff {content : ByteArray} :
    (∀ q, (s.put place (.file content)).node? q = s.node? q) ↔
      s.node? place = some (.file content) := by
  constructor
  · intro h
    rw [← h place, node?, lookup_put_self]
  · intro h q
    have hlookup := lookup_of_node?_eq_file h
    have hentries : (s.put place (.file content)).entries.lookup q = s.entries.lookup q := by
      by_cases hq : q = place
      · rw [hq, lookup_put_self, hlookup]
      · exact lookup_put_of_ne _ s hq
    have hplace : q.isPrefixOf place = true → (s.entries.any fun e => q.isPrefixOf e.1) = true := by
      intro hprefix
      obtain ⟨l, r, hlr, -⟩ := List.lookup_eq_some_iff.mp hlookup
      refine List.any_eq_true.mpr ⟨(place, .file content), ?_, hprefix⟩
      simp [hlr]
    rw [node?, node?, hentries, any_put _ s fun e => q.isPrefixOf e]
    cases hprefix : q.isPrefixOf place with
    | false => rw [Bool.or_false]
    | true => rw [hplace hprefix, Bool.or_true]

end Metrology.Storage
