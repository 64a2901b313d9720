import Tournament.Proofs.Splitting
import Tournament.Requirement
import Mathlib.Data.List.Forall2
import Mathlib.Data.List.Induction
import Mathlib.Data.List.Pairwise
import Mathlib.Tactic.SplitIfs

/-!
# What the clauses of a slot add up to

Each clause is read by itself, whatever came before it (`exists_clause`), and changes one thing about
the requirement (`Clause.add`).  A slot demands all that its clauses say, but only items and
attributes pile up: genders are alternatives also over several clauses, and of the clauses that set
one bound only the last one counts.  So a player fits the whole suffix who fits each clause, and the
other way round where no two clauses are of one kind, items and attributes apart
(`admits_of_clauses`).
-/

namespace Tournament

inductive Clause where
  | blank
  | shorter (l : Length)
  | taller (l : Length)
  | fewer (n : Nat)
  | more (n : Nat)
  | exactly (n : Nat)
  | team (letter : Char)
  | genders (gs : List Gender)
  | item (name : String)
  | attribute (name : String)

def admitGender (admitted : List Gender) (g : Gender) : List Gender :=
  if g ∈ admitted then admitted else admitted ++ [g]

def Clause.add : Clause → Requirement → Requirement
  | .blank, r => r
  | .shorter l, r => { r with shorterThan := some l }
  | .taller l, r => { r with tallerThan := some l }
  | .fewer n, r => { r with fewerEliminationsThan := some n }
  | .more n, r => { r with moreEliminationsThan := some n }
  | .exactly n, r => { r with eliminations := some n }
  | .team letter, r => { r with team := some letter }
  | .genders gs, r => { r with genders := gs.foldl admitGender r.genders }
  | .item name, r => { r with items := r.items ++ [name] }
  | .attribute name, r => { r with attributes := r.attributes ++ [name] }

def Clause.slot (c : Clause) : Requirement :=
  c.add {}

/-! ## Reading clauses -/

namespace Requirement

variable {r r' : Requirement} {letters : String} {cs text body bound : List Char}

theorem exists_genders {admitted gs : List Gender} (h : readGenders letters admitted cs = .ok gs) :
    ∃ read : List Gender, ∀ admitted,
      readGenders letters admitted cs = .ok (read.foldl admitGender admitted) := by
  induction cs generalizing admitted with
  | nil => exact ⟨[], fun _ => rfl⟩
  | cons c cs ih =>
      rw [readGenders] at h
      cases hc : Gender.ofLetter? c with
      | none => simp [hc] at h
      | some g =>
          rw [hc] at h
          obtain ⟨read, hread⟩ := ih h
          refine ⟨g :: read, fun admitted => ?_⟩
          rw [readGenders, hc]
          exact hread _

theorem exists_elimination_clause (h : r.addEliminations bound = .ok r') :
    ∃ c : Clause, ∀ q : Requirement, q.addEliminations bound = .ok (c.add q) := by
  unfold addEliminations at h
  dsimp only at h
  split at h
  · cases h
  · next sign number =>
    split at h
    · cases h
    · next n hn =>
      split at h
      · exact ⟨.fewer n, fun q => by simp only [addEliminations, hn]; rfl⟩
      · exact ⟨.more n, fun q => by simp only [addEliminations, hn]; rfl⟩
      · exact ⟨.exactly n, fun q => by simp only [addEliminations, hn]; rfl⟩
      · cases h

theorem exists_tagged_clause (h : r.addTagged text body = .ok r') :
    ∃ c : Clause, ∀ q : Requirement, q.addTagged text body = .ok (c.add q) := by
  unfold addTagged at h
  dsimp only at h
  split at h
  · next hcut =>
    obtain ⟨letter, hletter, -⟩ := map_eq_ok.mp h
    exact ⟨.team letter, fun q => by simp only [addTagged, hcut, hletter]; rfl⟩
  · next kind value hcut =>
    split at h
    · next hkind =>
      split_ifs at h with hvalue
      obtain ⟨gs, hgs, -⟩ := map_eq_ok.mp h
      obtain ⟨read, hread⟩ := exists_genders hgs
      refine ⟨.genders read, fun q => ?_⟩
      simp only [addTagged, hcut, hkind, if_neg hvalue, hread]
      rfl
    · next hkind =>
      split_ifs at h with hvalue
      exact ⟨.item (String.ofList value), fun q => by
        simp only [addTagged, hcut, hkind, if_neg hvalue]; rfl⟩
    · next hkind =>
      split_ifs at h with hvalue
      exact ⟨.attribute (String.ofList value), fun q => by
        simp only [addTagged, hcut, hkind, if_neg hvalue]; rfl⟩
    · next hkind =>
      obtain ⟨c, hc⟩ := exists_elimination_clause h
      exact ⟨c, fun q => by simp only [addTagged, hcut, hkind, hc]⟩
    · cases h

theorem exists_clause (h : r.addClause text = .ok r') :
    ∃ c : Clause, ∀ q : Requirement, q.addClause text = .ok (c.add q) := by
  unfold addClause at h
  split at h
  · exact ⟨.blank, fun q => rfl⟩
  · next height =>
    obtain ⟨l, hl, -⟩ := map_eq_ok.mp h
    exact ⟨.shorter l, fun q => by simp only [addClause, hl]; rfl⟩
  · next height =>
    obtain ⟨l, hl, -⟩ := map_eq_ok.mp h
    exact ⟨.taller l, fun q => by simp only [addClause, hl]; rfl⟩
  · next body => exact exists_tagged_clause h
  · cases h

/-! ## What is demanded -/

end Requirement

inductive Bound where
  | shorter
  | taller
  | fewer
  | more
  | exactly
  deriving DecidableEq

namespace Requirement

def bound (r : Requirement) : Bound → Option (Player → Bool)
  | .shorter => r.shorterThan.map fun l p => !decide (p.height.metres ≥ l.metres)
  | .taller => r.tallerThan.map fun l p => !decide (p.height.metres ≤ l.metres)
  | .fewer => r.fewerEliminationsThan.map fun n p => decide (p.eliminations.toNat < n)
  | .more => r.moreEliminationsThan.map fun n p => decide (n < p.eliminations.toNat)
  | .exactly => r.eliminations.map fun n p => decide (p.eliminations.toNat = n)

structure Accepts (r : Requirement) (team : Option Char) (p : Player) : Prop where
  bounds : ∀ b, ∀ f ∈ r.bound b, f p = true
  gender : r.genders ≠ [] → p.gender ∈ r.genders
  items : ∀ x ∈ r.items, p.holds x = true
  attributes : ∀ x ∈ r.attributes, p.hasAttribute x = true
  team : ∀ letter ∈ team, p.team = some letter

theorem forall_bound_iff (r : Requirement) (p : Player) :
    (∀ b, ∀ f ∈ r.bound b, f p = true) ↔
      (r.shorterThan.all fun l => !(p.height.metres ≥ l.metres)) = true ∧
      (r.tallerThan.all fun l => !(p.height.metres ≤ l.metres)) = true ∧
      (r.fewerEliminationsThan.all fun n => p.eliminations.toNat < n) = true ∧
      (r.moreEliminationsThan.all fun n => n < p.eliminations.toNat) = true ∧
      (r.eliminations.all fun n => p.eliminations.toNat = n) = true := by
  have hmap : ∀ {α : Type} (o : Option α) (f : α → Player → Bool),
      (∀ g ∈ o.map f, g p = true) ↔ (o.all fun a => f a p) = true := by
    intro α o f
    cases o <;> simp
  constructor
  · intro h
    exact ⟨(hmap _ _).mp (h .shorter), (hmap _ _).mp (h .taller), (hmap _ _).mp (h .fewer),
      (hmap _ _).mp (h .more), (hmap _ _).mp (h .exactly)⟩
  · rintro ⟨hshorter, htaller, hfewer, hmore, hexactly⟩ b
    cases b with
    | shorter => exact (hmap _ _).mpr hshorter
    | taller => exact (hmap _ _).mpr htaller
    | fewer => exact (hmap _ _).mpr hfewer
    | more => exact (hmap _ _).mpr hmore
    | exactly => exact (hmap _ _).mpr hexactly

theorem admits_iff_accepts (r : Requirement) (team : Option Char) (p : Player) :
    r.admits team p = true ↔ r.Accepts team p := by
  have hteam : (team.isNone || decide (p.team = team)) = true ↔
      ∀ letter ∈ team, p.team = some letter := by
    cases team <;> simp
  have hgender : (r.genders.isEmpty || r.genders.contains p.gender) = true ↔
      (r.genders ≠ [] → p.gender ∈ r.genders) := by
    simp [or_iff_not_imp_left]
  unfold admits
  simp only [Bool.and_eq_true, List.all_eq_true, hteam, hgender]
  constructor
  · rintro ⟨⟨⟨⟨⟨⟨⟨⟨hshorter, htaller⟩, hfewer⟩, hmore⟩, hexactly⟩, hgender⟩, hitems⟩,
      hattributes⟩, hteam⟩
    exact ⟨(r.forall_bound_iff p).mpr ⟨hshorter, htaller, hfewer, hmore, hexactly⟩, hgender, hitems,
      hattributes, hteam⟩
  · intro h
    obtain ⟨hshorter, htaller, hfewer, hmore, hexactly⟩ := (r.forall_bound_iff p).mp h.bounds
    exact ⟨⟨⟨⟨⟨⟨⟨⟨hshorter, htaller⟩, hfewer⟩, hmore⟩, hexactly⟩, h.gender⟩, h.items⟩,
      h.attributes⟩, h.team⟩

def SharesBound (r s : Requirement) : Prop :=
  ∃ b, r.bound b ≠ none ∧ s.bound b ≠ none

/-- The two are of one kind, and not of a kind that piles up. -/
def Clashes (r s : Requirement) : Prop :=
  r.SharesBound s ∨ r.genders ≠ [] ∧ s.genders ≠ []

theorem Clashes.symm {r s : Requirement} (h : r.Clashes s) : s.Clashes r := by
  obtain ⟨b, hr, hs⟩ | ⟨hr, hs⟩ := h
  · exact .inl ⟨b, hs, hr⟩
  · exact .inr ⟨hs, hr⟩

end Requirement

/-- One of the slots sets no bound that one after it sets again. -/
def Lasts (slots : List Requirement) (s : Requirement) : Prop :=
  ∃ before after, slots = before ++ s :: after ∧ ∀ s' ∈ after, ¬ s.SharesBound s'

/-! ## One clause -/

namespace Clause

theorem bound_add (c : Clause) (r : Requirement) (b : Bound) :
    (c.add r).bound b = (c.slot.bound b).or (r.bound b) := by
  cases c <;> cases b <;> rfl

theorem team_add (c : Clause) (r : Requirement) : (c.add r).team = c.slot.team.or r.team := by
  cases c <;> rfl

theorem piled_add (c : Clause) (r : Requirement) :
    (c.add r).items = r.items ++ c.slot.items ∧
      (c.add r).attributes = r.attributes ++ c.slot.attributes := by
  cases c <;> simp [add, slot]

theorem mem_foldl_admitGender {gs admitted : List Gender} {g : Gender} :
    g ∈ gs.foldl admitGender admitted ↔ g ∈ admitted ∨ g ∈ gs := by
  induction gs generalizing admitted with
  | nil => simp
  | cons g' gs ih =>
      rw [List.foldl_cons, ih, List.mem_cons, ← or_assoc]
      refine or_congr_left ?_
      unfold admitGender
      split_ifs with hmem
      · constructor
        · exact .inl
        · rintro (h | rfl)
          · exact h
          · exact hmem
      · rw [List.mem_append, List.mem_singleton]

theorem mem_genders_add (c : Clause) (r : Requirement) {g : Gender} :
    g ∈ (c.add r).genders ↔ g ∈ r.genders ∨ g ∈ c.slot.genders := by
  cases c <;> simp [add, slot, mem_foldl_admitGender]

/-! A clause is of one kind. -/

theorem only_bound {c : Clause} {b : Bound} (h : c.slot.bound b ≠ none) :
    c.slot.genders = [] ∧ ∀ b', c.slot.bound b' ≠ none → b' = b := by
  cases c <;> cases b <;> first
    | exact absurd rfl h
    | refine ⟨rfl, fun b' hb' => ?_⟩
      cases b' <;> first
        | rfl
        | exact absurd rfl hb'

theorem only_genders {c : Clause} (h : c.slot.genders ≠ []) :
    (∀ b, c.slot.bound b = none) ∧ c.slot.items = [] ∧ c.slot.attributes = [] ∧
      c.slot.team = none := by
  cases c <;> first
    | exact absurd rfl h
    | refine ⟨fun b => ?_, rfl, rfl, rfl⟩
      cases b <;> rfl

theorem only_piled {c : Clause} (h : c.slot.items ++ c.slot.attributes ≠ []) :
    (∀ b, c.slot.bound b = none) ∧ c.slot.genders = [] := by
  cases c <;> first
    | exact absurd rfl h
    | refine ⟨fun b => ?_, rfl⟩
      cases b <;> rfl

end Clause

/-! ## All clauses -/

def total (clauses : List Clause) : Requirement :=
  clauses.foldl (fun r c => c.add r) {}

section

variable {clauses : List Clause} {slots : List Requirement}

theorem total_concat (clauses : List Clause) (c : Clause) :
    total (clauses ++ [c]) = c.add (total clauses) := by
  rw [total, List.foldl_append]
  rfl

/-- Where a clause sets a field anew, the last one that sets it is the one that counts. -/
theorem last_total_eq_some_iff {α : Type} {field : Requirement → Option α}
    (hnone : field {} = none)
    (hadd : ∀ (c : Clause) r, field (c.add r) = (field c.slot).or (field r)) {a : α} :
    field (total clauses) = some a ↔ ∃ before s after,
      clauses.map Clause.slot = before ++ s :: after ∧ field s = some a ∧
        ∀ s' ∈ after, field s' = none := by
  have hlast : field (total clauses) = (clauses.map Clause.slot).reverse.findSome? field := by
    induction clauses using List.reverseRecOn with
    | nil => exact hnone
    | append_singleton clauses c ih =>
        rw [total_concat, hadd, ih, List.map_append, List.reverse_append]
        cases hc : field c.slot <;> simp [hc]
  rw [hlast, List.findSome?_eq_some_iff]
  constructor
  · rintro ⟨after, s, before, hslots, hs, hafter⟩
    refine ⟨before.reverse, s, after.reverse, ?_, hs, ?_⟩
    · rw [List.reverse_eq_iff] at hslots
      simpa using hslots
    · exact fun s' hs' => hafter s' (List.mem_reverse.mp hs')
  · rintro ⟨before, s, after, hslots, hs, hafter⟩
    refine ⟨after.reverse, s, before.reverse, ?_, hs, ?_⟩
    · simp [hslots]
    · exact fun s' hs' => hafter s' (List.mem_reverse.mp hs')

theorem bound_total_eq_some_iff {b : Bound} {f : Player → Bool} :
    (total clauses).bound b = some f ↔ ∃ before s after,
      clauses.map Clause.slot = before ++ s :: after ∧ s.bound b = some f ∧
        ∀ s' ∈ after, s'.bound b = none :=
  @last_total_eq_some_iff clauses _ (·.bound b) (by cases b <;> rfl) (fun c r => c.bound_add r b) f

theorem piled_total {α : Type} {field : Requirement → List α} (hnil : field {} = [])
    (hadd : ∀ (c : Clause) r, field (c.add r) = field r ++ field c.slot) (clauses : List Clause) :
    field (total clauses) = (clauses.map Clause.slot).flatMap field := by
  induction clauses using List.reverseRecOn with
  | nil => exact hnil
  | append_singleton clauses c ih =>
      rw [total_concat, hadd, ih, List.map_append, List.flatMap_append]
      simp

theorem items_total (clauses : List Clause) :
    (total clauses).items = (clauses.map Clause.slot).flatMap (·.items) :=
  @piled_total _ (·.items) rfl (fun c r => (c.piled_add r).1) clauses

theorem attributes_total (clauses : List Clause) :
    (total clauses).attributes = (clauses.map Clause.slot).flatMap (·.attributes) :=
  @piled_total _ (·.attributes) rfl (fun c r => (c.piled_add r).2) clauses

theorem mem_genders_total {g : Gender} :
    g ∈ (total clauses).genders ↔ ∃ s ∈ clauses.map Clause.slot, g ∈ s.genders := by
  induction clauses using List.reverseRecOn with
  | nil => simp [total]
  | append_singleton clauses c ih =>
      rw [total_concat, c.mem_genders_add, ih, List.map_append, List.map_singleton]
      simp only [List.mem_append, List.mem_singleton, or_and_right, exists_or, exists_eq_left]

/-! ## Who fits -/

variable {team : Option Char} {p : Player}

open Requirement (Accepts Clashes SharesBound)

theorem accepts_of_lasts (h : (total clauses).Accepts team p) {s : Requirement}
    (hs : Lasts (clauses.map Clause.slot) s) (hgenders : s.genders = []) : s.Accepts team p := by
  obtain ⟨before, after, hslots, hlast⟩ := hs
  have hmem : s ∈ clauses.map Clause.slot := by simp [hslots]
  refine ⟨?_, fun hne => absurd hgenders hne, ?_, ?_, h.team⟩
  · intro b f hf
    have hafter : ∀ s' ∈ after, s'.bound b = none := by
      intro s' hs'
      by_contra hset
      exact hlast s' hs' ⟨b, by simp [Option.mem_def.mp hf], hset⟩
    exact h.bounds b f (bound_total_eq_some_iff.mpr ⟨before, s, after, hslots, hf, hafter⟩)
  · intro x hx
    exact h.items x (items_total clauses ▸ List.mem_flatMap.mpr ⟨s, hmem, hx⟩)
  · intro x hx
    exact h.attributes x (attributes_total clauses ▸ List.mem_flatMap.mpr ⟨s, hmem, hx⟩)

theorem exists_accepts_of_genders (h : (total clauses).Accepts team p)
    (hgenders : ∃ s ∈ clauses.map Clause.slot, s.genders ≠ []) :
    ∃ s ∈ clauses.map Clause.slot, s.genders ≠ [] ∧ s.Accepts team p := by
  obtain ⟨s, hs, hne⟩ := hgenders
  obtain ⟨g, hg⟩ := List.exists_mem_of_ne_nil _ hne
  have hadmitted : p.gender ∈ (total clauses).genders :=
    h.gender (List.ne_nil_of_mem (mem_genders_total.mpr ⟨s, hs, hg⟩))
  obtain ⟨s', hs', hgender⟩ := mem_genders_total.mp hadmitted
  obtain ⟨c, -, rfl⟩ := List.mem_map.mp hs'
  have hne' : c.slot.genders ≠ [] := List.ne_nil_of_mem hgender
  obtain ⟨hbounds, hitems, hattributes, -⟩ := Clause.only_genders hne'
  refine ⟨_, hs', hne', ?_, fun _ => hgender, ?_, ?_, h.team⟩
  · simp [hbounds]
  · simp [hitems]
  · simp [hattributes]

/-- The whole is accepted where the slots that count are, and one of those with genders. -/
theorem accepts_total (hclauses : clauses ≠ [])
    (hlasts : ∀ s, Lasts (clauses.map Clause.slot) s → s.genders = [] → s.Accepts team p)
    (hgenders : (∃ s ∈ clauses.map Clause.slot, s.genders ≠ []) →
      ∃ s ∈ clauses.map Clause.slot, s.genders ≠ [] ∧ s.Accepts team p) :
    (total clauses).Accepts team p := by
  have hpiled : ∀ s ∈ clauses.map Clause.slot, s.items ++ s.attributes ≠ [] → s.Accepts team p := by
    intro s hs hne
    obtain ⟨before, after, hslots⟩ := List.append_of_mem hs
    obtain ⟨c, -, rfl⟩ := List.mem_map.mp hs
    obtain ⟨hbounds, hnone⟩ := Clause.only_piled hne
    exact hlasts _ ⟨before, after, hslots, fun s' _ ⟨b, hb, _⟩ => hb (hbounds b)⟩ hnone
  refine ⟨?bounds, ?gender, ?items, ?attributes, ?team⟩
  case bounds =>
    intro b f hf
    obtain ⟨before, s, after, hslots, hs, hafter⟩ := bound_total_eq_some_iff.mp hf
    have hmem : s ∈ clauses.map Clause.slot := by simp [hslots]
    obtain ⟨c, -, rfl⟩ := List.mem_map.mp hmem
    obtain ⟨hnone, honly⟩ := Clause.only_bound (c := c) (b := b) (by simp [hs])
    have hlast : Lasts (clauses.map Clause.slot) c.slot := by
      refine ⟨before, after, hslots, ?_⟩
      rintro s' hs' ⟨b', hb', hset⟩
      obtain rfl := honly b' hb'
      exact hset (hafter s' hs')
    exact (hlasts _ hlast hnone).bounds b f hs
  case gender =>
    intro hne
    obtain ⟨g, hg⟩ := List.exists_mem_of_ne_nil _ hne
    obtain ⟨s, hs, hgs⟩ := mem_genders_total.mp hg
    obtain ⟨s', hs', hne', haccepts⟩ := hgenders ⟨s, hs, List.ne_nil_of_mem hgs⟩
    exact mem_genders_total.mpr ⟨s', hs', haccepts.gender hne'⟩
  case items =>
    intro x hx
    rw [items_total] at hx
    obtain ⟨s, hs, hxs⟩ := List.mem_flatMap.mp hx
    exact (hpiled s hs (List.ne_nil_of_mem (List.mem_append_left _ hxs))).items x hxs
  case attributes =>
    intro x hx
    rw [attributes_total] at hx
    obtain ⟨s, hs, hxs⟩ := List.mem_flatMap.mp hx
    exact (hpiled s hs (List.ne_nil_of_mem (List.mem_append_right _ hxs))).attributes x hxs
  case team =>
    -- the last clause counts for all it demands, and every clause asks for the team
    obtain ⟨before, c, rfl⟩ := (List.eq_nil_or_concat' clauses).resolve_left hclauses
    have hlast : Lasts ((before ++ [c]).map Clause.slot) c.slot :=
      ⟨before.map Clause.slot, [], by simp, by simp⟩
    by_cases hnone : c.slot.genders = []
    · exact (hlasts _ hlast hnone).team
    · obtain ⟨s, -, -, haccepts⟩ := hgenders ⟨c.slot, by simp, hnone⟩
      exact haccepts.team

theorem accepts_total_iff (hclauses : clauses ≠ []) :
    (total clauses).Accepts team p ↔
      (∀ s, Lasts (clauses.map Clause.slot) s → s.genders = [] → s.Accepts team p) ∧
      ((∃ s ∈ clauses.map Clause.slot, s.genders ≠ []) →
        ∃ s ∈ clauses.map Clause.slot, s.genders ≠ [] ∧ s.Accepts team p) := by
  constructor
  · intro h
    exact ⟨fun s hs => accepts_of_lasts h hs, exists_accepts_of_genders h⟩
  · rintro ⟨hlasts, hgenders⟩
    exact accepts_total hclauses hlasts hgenders

theorem accepts_total_of_forall (hclauses : clauses ≠ [])
    (h : ∀ s ∈ clauses.map Clause.slot, s.Accepts team p) : (total clauses).Accepts team p := by
  refine accepts_total hclauses ?_ ?_
  · rintro s ⟨before, after, hslots, -⟩ -
    exact h s (by simp [hslots])
  · rintro ⟨s, hs, hgenders⟩
    exact ⟨s, hs, hgenders, h s hs⟩

theorem accepts_of_pairwise (h : (total clauses).Accepts team p)
    (hpairwise : (clauses.map Clause.slot).Pairwise fun s s' => ¬ s.Clashes s') :
    ∀ s ∈ clauses.map Clause.slot, s.Accepts team p := by
  intro s hs
  by_cases hnone : s.genders = []
  · obtain ⟨before, after, hslots⟩ := List.append_of_mem hs
    rw [hslots, List.pairwise_append] at hpairwise
    have hafter := (List.pairwise_cons.mp hpairwise.2.1).1
    exact accepts_of_lasts h
      ⟨before, after, hslots, fun s' hs' hshares => hafter s' hs' (.inl hshares)⟩ hnone
  · obtain ⟨s', hs', hgenders, haccepts⟩ := exists_accepts_of_genders h ⟨s, hs, hnone⟩
    -- there is one slot with genders only
    obtain rfl : s = s' := by
      by_contra hne
      have hsymm : Std.Symm fun r s : Requirement => ¬ r.Clashes s := ⟨fun _ _ => mt Clashes.symm⟩
      exact hpairwise.forall hs hs' hne (.inr ⟨hnone, hgenders⟩)
    exact haccepts

end

/-! ## The text of a slot -/

namespace Requirement

variable {suffix : List Char}

theorem parse_clause {part : List Char} (hpart : part ∈ Text.splitBy (· = '&') suffix) :
    parse part = ({} : Requirement).addClause part := by
  rw [parse, Text.splitBy_eq_singleton (Text.eq_false_of_mem_splitBy hpart), addClauses]
  cases ({} : Requirement).addClause part <;> rfl

theorem exists_clauses {parts : List (List Char)} {slots : List Requirement}
    (h : List.Forall₂ (fun part s => ({} : Requirement).addClause part = .ok s) parts slots) :
    ∃ clauses : List Clause, slots = clauses.map Clause.slot ∧
      ∀ r : Requirement, r.addClauses parts = .ok (clauses.foldl (fun r c => c.add r) r) := by
  induction h with
  | nil => exact ⟨[], rfl, fun _ => rfl⟩
  | @cons part s parts slots hpart _ ih =>
      obtain ⟨c, hc⟩ := exists_clause hpart
      obtain ⟨clauses, rfl, hclauses⟩ := ih
      obtain rfl : c.slot = s := Except.ok.inj ((hc {}).symm.trans hpart)
      refine ⟨c :: clauses, rfl, fun r => ?_⟩
      rw [addClauses, hc]
      exact hclauses _

/-- Read together, clauses admit whoever fits those that count, which are all but those that set a
bound again that a later one sets, and of those with genders at least one.  Where no two clauses are
of one kind, items and attributes apart, this is whoever fits all of them. -/
theorem admits_of_clauses {slots : List Requirement}
    (h : List.Forall₂ (fun part s => parse part = .ok s) (Text.splitBy (· = '&') suffix) slots) :
    ∃ r, parse suffix = .ok r ∧ ∀ team p,
      (r.admits team p = true ↔
        (∀ s, Lasts slots s → s.genders = [] → s.admits team p = true) ∧
        ((∃ s ∈ slots, s.genders ≠ []) → ∃ s ∈ slots, s.genders ≠ [] ∧ s.admits team p = true)) ∧
      ((∀ s ∈ slots, s.admits team p = true) → r.admits team p = true) ∧
      (slots.Pairwise (fun s s' => ¬ s.Clashes s') →
        (r.admits team p = true ↔ ∀ s ∈ slots, s.admits team p = true)) := by
  have hparts : List.Forall₂ (fun part s => ({} : Requirement).addClause part = .ok s)
      (Text.splitBy (· = '&') suffix) slots := by
    have hboth := (List.forall₂_and_left (p := (· ∈ Text.splitBy (· = '&') suffix)) _ _).mpr
      ⟨fun _ hpart => hpart, h⟩
    exact hboth.imp fun part s hs => (parse_clause hs.1).symm.trans hs.2
  obtain ⟨clauses, rfl, hclauses⟩ := exists_clauses hparts
  have hne : clauses ≠ [] := by
    rintro rfl
    exact Text.splitBy_ne_nil (List.forall₂_nil_right_iff.mp hparts)
  refine ⟨total clauses, hclauses {}, fun team p => ?_⟩
  simp only [admits_iff_accepts]
  exact ⟨accepts_total_iff hne, accepts_total_of_forall hne, fun hpairwise =>
    ⟨fun haccepts => accepts_of_pairwise haccepts hpairwise, accepts_total_of_forall hne⟩⟩

/-- Items pile up, next to a bound. -/
theorem admits_of_bearer :
    ∃ s₁ s₂ s₃ r, parse "<3m".toList = .ok s₁ ∧ parse ":inv:rope".toList = .ok s₂ ∧
      parse ":inv:map".toList = .ok s₃ ∧ parse "<3m&:inv:rope&:inv:map".toList = .ok r ∧
      ∀ team p, r.admits team p = true ↔
        s₁.admits team p = true ∧ s₂.admits team p = true ∧ s₃.admits team p = true := by
  obtain ⟨s₁, h₁, -⟩ := exists_of_any (x := parse "<3m".toList) (P := fun _ => true)
    (by decide +kernel)
  have h₂ : parse ":inv:rope".toList = .ok { items := ["rope"] } := by decide +kernel
  have h₃ : parse ":inv:map".toList = .ok { items := ["map"] } := by decide +kernel
  have hparts : Text.splitBy (· = '&') "<3m&:inv:rope&:inv:map".toList =
      ["<3m".toList, ":inv:rope".toList, ":inv:map".toList] := by decide +kernel
  obtain ⟨r, hr, hadmits⟩ := @admits_of_clauses "<3m&:inv:rope&:inv:map".toList
    [s₁, { items := ["rope"] }, { items := ["map"] }]
    (by rw [hparts]; exact .cons h₁ (.cons h₂ (.cons h₃ .nil)))
  have hitem : ∀ (s : Requirement) (x : String), ¬ s.Clashes { items := [x] } := by
    rintro s x (⟨b, -, hb⟩ | ⟨-, hgenders⟩)
    · cases b <;> exact hb rfl
    · exact hgenders rfl
  refine ⟨s₁, _, _, r, h₁, h₂, h₃, hr, fun team p => ?_⟩
  rw [(hadmits team p).2.2 (by simp [hitem])]
  simp

/-- The later of two bounds counts also where it is the weaker one, and someone of either gender
fits two clauses that ask for one each. -/
theorem admits_despite_clause :
    ∃ s s' r r' g g' q p, parse "<1m".toList = .ok s ∧ parse "<2m".toList = .ok s' ∧
      parse "<1m&<2m".toList = .ok r ∧ parse "<2m&<1m".toList = .ok r' ∧
      parse ":g:M".toList = .ok g ∧ parse ":g:F".toList = .ok g' ∧
      parse ":g:M&:g:F".toList = .ok q ∧ Player.parse "Ann" "gender:F, height:1.5m" = .ok p ∧
      s.admits none p = false ∧ s'.admits none p = true ∧
      r.admits none p = true ∧ r'.admits none p = false ∧
      g.admits none p = false ∧ g'.admits none p = true ∧ q.admits none p = true := by
  have hevaluated : (parse "<1m".toList).toOption.any fun s =>
      (parse "<2m".toList).toOption.any fun s' =>
      (parse "<1m&<2m".toList).toOption.any fun r =>
      (parse "<2m&<1m".toList).toOption.any fun r' =>
      (parse ":g:M".toList).toOption.any fun g =>
      (parse ":g:F".toList).toOption.any fun g' =>
      (parse ":g:M&:g:F".toList).toOption.any fun q =>
      (Player.parse "Ann" "gender:F, height:1.5m").toOption.any fun p =>
        s.admits none p = false ∧ s'.admits none p = true ∧
        r.admits none p = true ∧ r'.admits none p = false ∧
        g.admits none p = false ∧ g'.admits none p = true ∧ q.admits none p = true := by
    decide +kernel
  obtain ⟨s, hs, hevaluated⟩ := exists_of_any hevaluated
  obtain ⟨s', hs', hevaluated⟩ := exists_of_any hevaluated
  obtain ⟨r, hr, hevaluated⟩ := exists_of_any hevaluated
  obtain ⟨r', hr', hevaluated⟩ := exists_of_any hevaluated
  obtain ⟨g, hg, hevaluated⟩ := exists_of_any hevaluated
  obtain ⟨g', hg', hevaluated⟩ := exists_of_any hevaluated
  obtain ⟨q, hq, hevaluated⟩ := exists_of_any hevaluated
  obtain ⟨p, hp, hevaluated⟩ := exists_of_any hevaluated
  exact ⟨s, s', r, r', g, g', q, p, hs, hs', hr, hr', hg, hg', hq, hp,
    of_decide_eq_true hevaluated⟩

end Requirement
end Tournament
