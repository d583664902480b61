import Metrology.Proofs.Unit.Catalog

/-!
# Families along a lineage

A kind inherits from the kind that its definition names, which inherits from another one, and so on
up to the kind that all inherit from. Where no definition gives a family outright, a kind belongs to
the nearest kind of this lineage, itself first, whose own definition declares it a root, and to
itself if there is none. So the root of a family is the root of its own family, and a base unit is
its own base unit.
-/

namespace Metrology

variable {α : Type}

/-! ### Lineages -/

/-- A kind with all kinds that it inherits from. -/
inductive Lineage (α : Type) where
  /-- The kind that all others inherit from, which is not declared a root. -/
  | top (entry : Entry α)
  /-- A kind, whether its own definition declares it a root, and the kind that it names. -/
  | heir (entry : Entry α) (isRoot : Bool) (base : Lineage α)

namespace Lineage

def entry : Lineage α → Entry α
  | .top e => e
  | .heir e _ _ => e

/-- Does the kind's own definition declare it a root? -/
def isRoot : Lineage α → Bool
  | .top _ => false
  | .heir _ isRoot _ => isRoot

def kind (l : Lineage α) : Kind α := l.entry.kind

/-- The nearest kind, from this one upwards, whose own definition declares it a root. -/
def nearestRoot? : Lineage α → Option (Kind α)
  | .top _ => none
  | .heir e true _ => some e.kind
  | .heir _ false base => base.nearestRoot?

/-- Is the first lineage that of the other kind, or of one below it, where neither this one nor any
kind in between is declared a root? -/
inductive IsUnder : Lineage α → Lineage α → Prop where
  | refl (r : Lineage α) : IsUnder r r
  | heir {l r : Lineage α} (e : Entry α) (h : IsUnder l r) : IsUnder (.heir e false l) r

lemma nearestRoot?_of_isRoot {r : Lineage α} (h : r.isRoot = true) :
    r.nearestRoot? = some r.kind := by
  cases r with
  | top e => cases h
  | heir e isRoot base =>
    obtain rfl : isRoot = true := h
    rfl

lemma IsUnder.nearestRoot?_eq {l r : Lineage α} (h : l.IsUnder r) :
    l.nearestRoot? = r.nearestRoot? := by
  induction h with
  | refl => rfl
  | heir e _ ih => exact ih

end Lineage

/-! ### Families -/

/-- A kind without a given family belongs to the nearest declared root that its entry knows of, or
to itself. -/
lemma Entry.family_below_none (base : Entry α) (d : Definition α) (serial : Nat) :
    (base.below d none serial).kind.family =
      (base.below d none serial).nearestRoot.getD (base.below d none serial).kind := by
  unfold below kindBelow
  cases d.isRoot with
  | true => rfl
  | false => cases base.nearestRoot <;> rfl

namespace Lineage

/-- Does the entry know of the nearest declared root of its lineage, and does the kind belong to it,
or to itself if there is none? -/
structure IsTraced (l : Lineage α) : Prop where
  nearestRoot : l.entry.nearestRoot = l.nearestRoot?
  family : l.kind.family = l.nearestRoot?.getD l.kind

/-- A definition that gives no family continues the lineage of the kind that it names. -/
lemma IsTraced.heir {base : Lineage α} (h : base.IsTraced) (d : Definition α) (serial : Nat) :
    (Lineage.heir (base.entry.below d none serial) d.isRoot base).IsTraced := by
  -- only the definition's own declaration counts; without one the entry passes on what it was told
  have hnearest : (base.entry.below d none serial).nearestRoot =
      (Lineage.heir (base.entry.below d none serial) d.isRoot base).nearestRoot? := by
    unfold Entry.below
    cases d.isRoot with
    | true => rfl
    | false => exact h.nearestRoot
  refine ⟨hnearest, ?_⟩
  rw [← hnearest]
  exact base.entry.family_below_none d serial

end Lineage

/-! ### Sequences of definitions -/

variable [Magnitude α]

/-- The lineage of a built-in unit's kind: it is declared a root, or inherits from one that is. -/
def Lineage.ofBuiltIn (u : SimpleUnit α) : Lineage α :=
  match u.kind with
  | .root p => .heir ⟨.root p, some (.root p)⟩ true (.top ⟨.abstract, none⟩)
  | .member p f =>
    .heir ⟨.member p f, some f⟩ false (.heir ⟨f, some f⟩ true (.top ⟨.abstract, none⟩))

namespace Lineage

lemma entry_ofBuiltIn (u : SimpleUnit α) : (ofBuiltIn u).entry = ⟨u.kind, some u.kind.family⟩ := by
  unfold ofBuiltIn
  cases u.kind <;> rfl

lemma isTraced_ofBuiltIn (u : SimpleUnit α) : (ofBuiltIn u).IsTraced := by
  unfold ofBuiltIn
  cases u.kind <;> exact ⟨rfl, rfl⟩

/-- A built-in member of a family inherits from the family's root. -/
lemma ofBuiltIn_root {u : SimpleUnit α} (hu : u ∈ SimpleUnit.builtIn) {p : Profile α}
    {f : Kind α} (h : u.kind = .member p f) :
    ofBuiltIn u.root = .heir ⟨f, some f⟩ true (.top ⟨.abstract, none⟩) := by
  have hroot : u.root.kind = f := by
    rw [SimpleUnit.kind_of_base (SimpleUnit.root_of_mem_builtIn hu).1, h, Kind.family_member]
  have hown : f.family = f := by
    have hfamily := (Catalog.family_of_mem_builtIn hu).1
    rwa [h, Kind.family_member] at hfamily
  unfold ofBuiltIn
  rw [hroot]
  cases f with
  | root q => rfl
  | member q g => cases hown

end Lineage

namespace Catalog

variable {c : Catalog α} {ls : List (Lineage α)}

/-- The catalogs that definitions without a given family lead to, with the lineage of each kind in
them. A definition names a kind that is there. -/
inductive Inherits : Catalog α → List (Lineage α) → Prop where
  | start : Inherits builtIn
      (.top ⟨.abstract, none⟩ :: SimpleUnit.builtIn.map Lineage.ofBuiltIn)
  | step {c c' : Catalog α} {ls : List (Lineage α)} {base : Lineage α} {d : Definition α}
      {e : Entry α} (hc : Inherits c ls) (hbase : base ∈ ls)
      (h : c.define base.entry d none = .ok (e, c')) :
      Inherits c' (.heir e d.isRoot base :: ls)

/-- Every kind of the catalog has its lineage. -/
lemma Inherits.map_entry (h : c.Inherits ls) : ls.map Lineage.entry = c.entries := by
  induction h with
  | start =>
    have hunits : SimpleUnit.builtIn.map (Lineage.entry ∘ Lineage.ofBuiltIn (α := α)) =
        SimpleUnit.builtIn.map fun u => ⟨u.kind, some u.kind.family⟩ :=
      List.map_congr_left fun u _ => Lineage.entry_ofBuiltIn u
    rw [List.map_cons, List.map_map, hunits]
    rfl
  | step _ _ hdefine ih =>
    obtain ⟨-, -, rfl⟩ := define_eq_ok.mp hdefine
    rw [List.map_cons, ih]
    rfl

lemma Inherits.entry_mem (h : c.Inherits ls) {l : Lineage α} (hl : l ∈ ls) :
    l.entry ∈ c.entries := by
  rw [← h.map_entry]
  exact List.mem_map_of_mem hl

/-- A kind that another one inherits from is in the catalog too. -/
lemma Inherits.base_mem (h : c.Inherits ls) {e : Entry α} {isRoot : Bool} {base : Lineage α}
    (hl : .heir e isRoot base ∈ ls) : base ∈ ls := by
  induction h with
  | start =>
    have hmem : .heir e isRoot base ∈ SimpleUnit.builtIn.map Lineage.ofBuiltIn := by
      simpa using hl
    obtain ⟨u, hu, hl⟩ := List.mem_map.mp hmem
    unfold Lineage.ofBuiltIn at hl
    cases hk : u.kind with
    | root p =>
      rw [hk] at hl
      cases hl
      exact List.mem_cons_self
    | member p f =>
      rw [hk] at hl
      cases hl
      -- the base is the lineage of the family's root, which is built in as well
      rw [← Lineage.ofBuiltIn_root hu hk]
      exact List.mem_cons_of_mem _ (List.mem_map_of_mem (SimpleUnit.root_mem_builtIn hu))
  | step _ hbase _ ih =>
    rcases List.mem_cons.mp hl with hl | hl
    · cases hl
      exact List.mem_cons_of_mem _ hbase
    · exact List.mem_cons_of_mem _ (ih hl)

lemma Inherits.defined (h : c.Inherits ls) : c.Defined Entry.KeepsRoots := by
  induction h with
  | start => exact .start
  | step hc hbase hdefine ih =>
    exact .step ih (hc.entry_mem hbase) (by simp) (fun _ => rfl) hdefine

lemma Inherits.isTraced (h : c.Inherits ls) : ∀ l ∈ ls, l.IsTraced := by
  induction h with
  | start =>
    refine List.forall_mem_cons.mpr ⟨⟨rfl, rfl⟩, List.forall_mem_map.mpr fun u _ => ?_⟩
    exact Lineage.isTraced_ofBuiltIn u
  | step _ hbase hdefine ih =>
    obtain ⟨-, rfl, -⟩ := define_eq_ok.mp hdefine
    exact List.forall_mem_cons.mpr ⟨(ih _ hbase).heir _ _, ih⟩

/-- The family's root is the root of its own family. -/
lemma Inherits.family_family (h : c.Inherits ls) {l : Lineage α} (hl : l ∈ ls) :
    l.kind.family.family = l.kind.family := by
  obtain ⟨hnearest, hfamily⟩ := h.isTraced l hl
  rw [hfamily]
  cases hk : l.nearestRoot? with
  | none => rw [Option.getD_none, hfamily, hk, Option.getD_none]
  | some k => exact h.defined.hasOwnRoot _ (h.entry_mem hl) k (hnearest.trans hk)

/-! ### Kinds are told apart -/

/-- The places of the kinds in the order of definitions. -/
def serials (c : Catalog α) : List Nat := c.entries.map fun e => e.kind.profile.serial

lemma serials_builtIn :
    (builtIn : Catalog α).serials = [0, 2, 3, 1, 4, 6, 7, 5, 8, 9, 10, 11, 13, 14, 12, 15] := rfl

lemma serials_of_define {c' : Catalog α} {base e : Entry α} {d : Definition α}
    {family : Option (Kind α)} (h : c.define base d family = .ok (e, c')) :
    c'.serials = c.nextSerial :: c.serials ∧ c'.nextSerial = c.nextSerial + 1 := by
  obtain ⟨-, rfl, rfl⟩ := define_eq_ok.mp h
  refine ⟨?_, rfl⟩
  rw [serials, List.map_cons, Entry.profile_below]
  rfl

/-- Each definition makes a kind of its own, which none of the kinds before it equals. -/
lemma Defined.nodup_serials {rule : Entry.Rule α} (h : c.Defined rule) : c.serials.Nodup := by
  have hall : c.serials.Nodup ∧ ∀ n ∈ c.serials, n < c.nextSerial := by
    induction h with
    | start =>
      rw [serials_builtIn]
      have hlt : ∀ n ∈ [0, 2, 3, 1, 4, 6, 7, 5, 8, 9, 10, 11, 13, 14, 12, 15], n < 16 := by decide
      exact ⟨by decide, hlt⟩
    | step _ _ _ _ hdefine ih =>
      obtain ⟨hserials, hnext⟩ := serials_of_define hdefine
      obtain ⟨hnodup, hlt⟩ := ih
      rw [hserials, hnext]
      constructor
      · exact List.nodup_cons.mpr ⟨fun hmem => Nat.lt_irrefl _ (hlt _ hmem), hnodup⟩
      · exact List.forall_mem_cons.mpr
          ⟨Nat.lt_succ_self _, fun n hn => Nat.lt_succ_of_lt (hlt n hn)⟩
  exact hall.1

end Catalog

/-! ### Base units -/

/-- If the family's root is the root of its own family, the base unit is its own base unit, if there
is one. -/
lemma SimpleUnit.bind_base {u : SimpleUnit α} (h : u.kind.family.family = u.kind.family) :
    (u.base >>= SimpleUnit.base) = u.base := by
  cases hb : u.base with
  | error f => rfl
  | ok b => exact base_of_base hb h

namespace Catalog

/-- Every kind of the catalog has a lineage of kinds in the catalog, no two of which share a serial.
A kind belongs to the nearest kind of its lineage, itself first, whose own definition declares it a
root, and to itself if there is none. The root of its family is the root of its own family, and the
base unit of a base unit is that base unit. All kinds below a declared root, with no other one on
the way, have its unit as their base unit. -/
theorem family_eq_nearestRoot {c : Catalog α} {ls : List (Lineage α)} (h : c.Inherits ls) :
    ls.map Lineage.entry = c.entries ∧ c.serials.Nodup ∧
    (∀ e isRoot base, .heir e isRoot base ∈ ls → base ∈ ls) ∧
    ∀ l ∈ ls,
      l.kind.family = l.nearestRoot?.getD l.kind ∧
      l.kind.family.family = l.kind.family ∧
      (∀ u, SimpleUnit.ofKind l.kind = .ok u → (u.base >>= SimpleUnit.base) = u.base) ∧
      ∀ r : Lineage α, l.IsUnder r → r.isRoot = true →
        l.kind.family = r.kind ∧
        ∀ u, SimpleUnit.ofKind l.kind = .ok u → u.base = SimpleUnit.ofKind r.kind := by
  refine ⟨h.map_entry, h.defined.nodup_serials, fun _ _ _ => h.base_mem, fun l hl => ?_⟩
  have hfamily := (h.isTraced l hl).family
  refine ⟨hfamily, h.family_family hl, fun u hu => ?_, fun r hunder hroot => ?_⟩
  · refine SimpleUnit.bind_base ?_
    rw [SimpleUnit.kind_of_ofKind hu]
    exact h.family_family hl
  · have hr : l.kind.family = r.kind := by
      rw [hfamily, hunder.nearestRoot?_eq, Lineage.nearestRoot?_of_isRoot hroot, Option.getD_some]
    refine ⟨hr, fun u hu => ?_⟩
    rw [SimpleUnit.base, SimpleUnit.kind_of_ofKind hu, hr]

def pound : Definition Float := ⟨"Pound", some "lb", none, none, some .mass, true⟩

def stone : Definition Float := ⟨"Stone", some "st", none, some 14.0, none, false⟩

def hundredweight : Definition Float := ⟨"Hundredweight", some "cwt", none, some 112.0, none, false⟩

/-- A hundredweight is defined below a stone, and that below a pound, which is declared a root. -/
theorem family_of_hundredweight :
    ∃ (c : Catalog Float) (ls : List (Lineage Float)) (lb cwt : Lineage Float)
      (u v : SimpleUnit Float), c.Inherits ls ∧ lb ∈ ls ∧ cwt ∈ ls ∧ cwt.IsUnder lb ∧
      lb.isRoot = true ∧ u.symbol = "cwt" ∧ v.symbol = "lb" ∧
      SimpleUnit.ofKind cwt.kind = .ok u ∧ SimpleUnit.ofKind lb.kind = .ok v ∧
      cwt.kind.family = lb.kind ∧ cwt.kind.family.family = cwt.kind.family ∧ u.base = .ok v ∧
      (u.base >>= SimpleUnit.base) = u.base := by
  have hpos : (0.0 : Float) < 1.0 ∧ (0.0 : Float) < 14.0 ∧ (0.0 : Float) < 112.0 := by
    decide +kernel
  let top : Lineage Float := .top ⟨.abstract, none⟩
  let lb : Lineage Float := .heir (top.entry.below pound none 16) true top
  let st : Lineage Float := .heir (lb.entry.below stone none 17) false lb
  let cwt : Lineage Float := .heir (st.entry.below hundredweight none 18) false st
  let u : SimpleUnit Float := ⟨cwt.kind, rfl, rfl⟩
  let v : SimpleUnit Float := ⟨lb.kind, rfl, rfl⟩
  have htop : top ∈ top :: SimpleUnit.builtIn.map Lineage.ofBuiltIn := List.mem_cons_self
  have hlb : Inherits _ (lb :: _) := .step (d := pound) .start htop
    (define_eq_ok.mpr ⟨hpos.1, rfl, rfl⟩)
  have hst : Inherits _ (st :: _) := .step (d := stone) hlb List.mem_cons_self
    (define_eq_ok.mpr ⟨hpos.2.1, rfl, rfl⟩)
  have hcwt : Inherits _ (cwt :: _) := .step (d := hundredweight) hst List.mem_cons_self
    (define_eq_ok.mpr ⟨hpos.2.2, rfl, rfl⟩)
  have hunder : cwt.IsUnder lb := .heir _ (.heir _ (.refl lb))
  have hu : SimpleUnit.ofKind cwt.kind = .ok u := by rfl
  have hv : SimpleUnit.ofKind lb.kind = .ok v := by rfl
  obtain ⟨-, -, -, hlineages⟩ := family_eq_nearestRoot hcwt
  obtain ⟨-, hfamily, hbase, hroot⟩ := hlineages cwt List.mem_cons_self
  obtain ⟨hkind, hshared⟩ := hroot lb hunder rfl
  exact ⟨_, _, lb, cwt, u, v, hcwt, by simp, List.mem_cons_self, hunder, rfl, rfl, rfl, hu, hv,
    hkind, hfamily, (hshared u hu).trans hv, hbase u hu⟩

end Catalog

end Metrology
