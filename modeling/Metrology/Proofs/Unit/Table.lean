import Mathlib.Data.List.Nodup
import Mathlib.Data.Set.List
import Metrology.Proofs.Result
import Metrology.Unit.Table

/-!
# Tables of units from kinds

A table is made from concrete kinds, one after another, unless one of their names is repeated. It
then holds all names in order, each with the unit of its kind; otherwise the fault shows the first
name that has occurred before.
-/

namespace Metrology

/-- The name is the first one of the list that has occurred before. -/
def IsFirstRepeated (name : String) (names : List String) : Prop :=
  ∃ before after, names = before ++ name :: after ∧ before.Nodup ∧ name ∈ before

/-- Read from the left, names are all different up to the first repetition, if there is one. -/
lemma nodup_append_or_isFirstRepeated {front : List String} (hfront : front.Nodup)
    (names : List String) :
    (front ++ names).Nodup ∨ ∃ name, IsFirstRepeated name (front ++ names) := by
  induction names generalizing front with
  | nil => exact .inl (by rwa [List.append_nil])
  | cons name names ih =>
    by_cases hmem : name ∈ front
    · exact .inr ⟨name, front, names, rfl, hfront, hmem⟩
    · rw [List.append_cons]
      exact ih (List.concat_eq_append ▸ List.Nodup.concat hmem hfront)

variable {α : Type}

/-- Can the kind be used as a unit? -/
def Kind.IsConcrete (k : Kind α) : Prop :=
  k.profile.symbol.isEmpty = false ∧ k.profile.dimension.isSome

instance (k : Kind α) : Decidable k.IsConcrete := inferInstanceAs (Decidable (_ ∧ _))

/-- All names under which the unit of a kind can be looked up: its symbol, then the aliases. -/
def Kind.names (k : Kind α) : List String := k.profile.symbol :: k.profile.aliases

/-- Concrete kinds are the kinds of units. -/
lemma Kind.exists_map_kind {ks : List (Kind α)} (hks : ∀ k ∈ ks, k.IsConcrete) :
    ∃ us : List (SimpleUnit α), us.map SimpleUnit.kind = ks := by
  have hrange : ks ∈ { l | ∀ k ∈ l, k ∈ Set.range (SimpleUnit.kind (α := α)) } := by
    intro k hk
    obtain ⟨hnamed, hmeasured⟩ := hks k hk
    exact ⟨⟨k, hnamed, hmeasured⟩, rfl⟩
  rwa [← Set.range_list_map] at hrange

/-- Each unit under all of its names. -/
def UnitTable.entriesOf (us : List (SimpleUnit α)) : UnitTable α :=
  us.flatMap fun u => u.names.map fun name => (name, u)

lemma UnitTable.names_append (t entries : UnitTable α) :
    names (t ++ entries) = t.names ++ entries.names := List.map_append

lemma UnitTable.names_entriesOf (us : List (SimpleUnit α)) :
    names (entriesOf us) = (us.map SimpleUnit.kind).flatMap Kind.names := by
  have hkind : ∀ u : SimpleUnit α, names (u.names.map fun name => (name, u)) = u.kind.names := by
    intro u
    rw [names, List.map_map]
    exact List.map_id _
  rw [names, entriesOf, List.map_flatMap, List.flatMap_map]
  exact congrArg (us.flatMap ·) (funext hkind)

/-- A table with one entry for each name finds the unit of every entry. -/
lemma UnitTable.find?_of_mem {t : UnitTable α} {name : String} {u : SimpleUnit α}
    (hnodup : t.names.Nodup) (hmem : (name, u) ∈ t) : t.find? name = some u := by
  obtain ⟨front, rest, rfl⟩ := List.append_of_mem hmem
  refine List.lookup_eq_some_iff.mpr ⟨front, rest, rfl, fun e he => ?_⟩
  rw [names_append] at hnodup
  have hne := (List.nodup_append.mp hnodup).2.2 e.1 (List.mem_map_of_mem he) name
    List.mem_cons_self
  exact bne_iff_ne.mpr hne.symm

variable [Magnitude α]

lemma SimpleUnit.ofKind_kind (u : SimpleUnit α) : ofKind u.kind = .ok u := by
  have hsome : ofKind? u.kind = some u := dif_pos ⟨u.named, u.measured⟩
  rw [ofKind, hsome]
  rfl

namespace UnitTable

variable {t : UnitTable α} {name : String} {u : SimpleUnit α}

/-! ### One entry after another -/

/-- Enter units under further names, one after another. -/
def insertAll (t : UnitTable α) (entries : UnitTable α) : Result α (UnitTable α) :=
  entries.foldlM (fun t e => t.insert e.1 e.2) t

lemma insert_of_notMem (h : name ∉ t.names) : t.insert name u = .ok (t ++ [(name, u)]) := if_neg h

lemma insert_of_mem (h : name ∈ t.names) : t.insert name u = .error (.nameTaken name) := if_pos h

/-- New names are entered in order. -/
lemma insertAll_of_nodup {entries : UnitTable α} (h : (t.names ++ entries.names).Nodup) :
    t.insertAll entries = .ok (t ++ entries) := by
  induction entries generalizing t with
  | nil => rw [insertAll, List.foldlM_nil, List.append_nil, pure_eq_ok]
  | cons e entries ih =>
    have hnew : e.1 ∉ t.names := by
      intro hmem
      exact (List.nodup_append.mp h).2.2 e.1 hmem e.1 List.mem_cons_self rfl
    rw [insertAll, List.foldlM_cons, insert_of_notMem hnew, ok_bind,
      List.append_cons t e entries]
    refine ih ?_
    rw [names_append, List.append_assoc]
    exact h

lemma insertAll_append (t entries entries' : UnitTable α) :
    t.insertAll (entries ++ entries') = t.insertAll entries >>= fun t => t.insertAll entries' :=
  List.foldlM_append

/-- The first repeated name is the one that is refused. -/
lemma insertAll_of_isFirstRepeated {entries : UnitTable α}
    (h : IsFirstRepeated name entries.names) :
    insertAll [] entries = .error (.nameTaken name) := by
  obtain ⟨before, after, hnames, hnodup, hmem⟩ := h
  obtain ⟨front, rest, rfl, rfl, hrest⟩ := List.map_eq_append_iff.mp hnames
  obtain ⟨e, rest, rfl, rfl, -⟩ := List.map_eq_cons_iff.mp hrest
  have hfront : insertAll [] front = .ok front := insertAll_of_nodup hnodup
  rw [insertAll_append, hfront, ok_bind, insertAll, List.foldlM_cons, insert_of_mem hmem,
    error_bind]

/-! ### All kinds -/

/-- A kind is entered by way of its names, and kinds one after another by way of all names. -/
lemma ofKinds_map_kind (us : List (SimpleUnit α)) :
    ofKinds (us.map SimpleUnit.kind) = insertAll [] (entriesOf us) := by
  have hall : ∀ t, (us.map SimpleUnit.kind).foldlM insertKind t = insertAll t (entriesOf us) := by
    induction us with
    | nil => exact fun t => rfl
    | cons u us ih =>
      intro t
      have hkind : t.insertKind u.kind = t.insertAll (u.names.map fun name => (name, u)) := by
        rw [insertKind, SimpleUnit.ofKind_kind, ok_bind, insertAll, List.foldlM_map]
      rw [List.map_cons, List.foldlM_cons, hkind, entriesOf, List.flatMap_cons, insertAll_append]
      exact bind_congr ih
  exact hall []

/-- The table of concrete kinds is made exactly if no name is repeated, within one kind or across
kinds. It then has all names in order, and finds for each name the unit of the kind that lists it.
Otherwise the fault shows the first name that has occurred before. -/
theorem ofKinds_eq_ok_iff_nodup {ks : List (Kind α)} (hks : ∀ k ∈ ks, k.IsConcrete) :
    ((∃ t, ofKinds ks = .ok t) ↔ (ks.flatMap Kind.names).Nodup) ∧
      (∀ t, ofKinds ks = .ok t →
        t.names = ks.flatMap Kind.names ∧
          ∀ k ∈ ks, ∀ name ∈ k.names, ∃ u, t.find? name = some u ∧ u.kind = k) ∧
      ∀ f, ofKinds ks = .error f ↔
        ∃ name, f = .nameTaken name ∧ IsFirstRepeated name (ks.flatMap Kind.names) := by
  obtain ⟨us, rfl⟩ := Kind.exists_map_kind hks
  have hnames := names_entriesOf us
  rw [ofKinds_map_kind, ← hnames]
  obtain ⟨hok, herror⟩ := eq_ok_iff_and_eq_error_iff (x := insertAll [] (entriesOf us))
    (P := fun t => t = entriesOf us ∧ (entriesOf us).names.Nodup)
    (E := fun f => ∃ name, f = .nameTaken name ∧ IsFirstRepeated name (entriesOf us).names)
    (by
      rintro t ⟨rfl, hnodup⟩
      exact insertAll_of_nodup hnodup)
    (by
      rintro f ⟨name, rfl, hrepeated⟩
      exact insertAll_of_isFirstRepeated hrepeated)
    (by
      rcases nodup_append_or_isFirstRepeated List.nodup_nil (entriesOf us).names with h | ⟨name, h⟩
      · exact .inl ⟨_, rfl, h⟩
      · exact .inr ⟨_, name, rfl, h⟩)
  refine ⟨?_, fun t ht => ?_, herror⟩
  · constructor
    · rintro ⟨t, ht⟩
      exact ((hok t).mp ht).2
    · intro hnodup
      exact ⟨_, (hok _).mpr ⟨rfl, hnodup⟩⟩
  · obtain ⟨rfl, hnodup⟩ := (hok t).mp ht
    refine ⟨rfl, fun k hk name hname => ?_⟩
    obtain ⟨u, hu, rfl⟩ := List.mem_map.mp hk
    refine ⟨u, find?_of_mem hnodup ?_, rfl⟩
    exact List.mem_flatMap.mpr ⟨u, hu, List.mem_map.mpr ⟨name, hname, rfl⟩⟩

/-- Grams and liters make a table of five names. A kind that is listed twice repeats its symbol,
behind all of its names and those of the kind in between. -/
theorem ofKinds_of_two_lists :
    ∃ t : UnitTable Float,
      (∀ k ∈ [Kind.gram (α := Float), .liter], k.IsConcrete) ∧
      ofKinds [.gram, .liter] = .ok t ∧ t.names = ["g", "grams", "L", "l", "liters"] ∧
      (∀ k ∈ [Kind.meter (α := Float), .second, .meter], k.IsConcrete) ∧
      ofKinds [Kind.meter (α := Float), .second, .meter] = .error (.nameTaken "m") := by
  have hconcrete : ∀ k ∈ [Kind.gram (α := Float), .liter], k.IsConcrete := by decide
  have hconcrete' : ∀ k ∈ [Kind.meter (α := Float), .second, .meter], k.IsConcrete := by decide
  obtain ⟨hiff, hnames, -⟩ := ofKinds_eq_ok_iff_nodup hconcrete
  obtain ⟨-, -, hfault⟩ := ofKinds_eq_ok_iff_nodup hconcrete'
  obtain ⟨t, ht⟩ := hiff.mpr (by decide)
  refine ⟨t, hconcrete, ht, (hnames t ht).1, hconcrete', (hfault _).mpr ⟨"m", rfl, ?_⟩⟩
  exact ⟨["m", "meters", "s", "seconds"], ["meters"], rfl, by decide, by decide⟩

end UnitTable

end Metrology
