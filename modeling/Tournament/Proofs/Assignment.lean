import Tournament.Casting
import Mathlib.Data.Char
import Mathlib.Data.List.Forall2
import Mathlib.Data.List.Nodup

/-!
# Who plays an event

Casting gives the abstract teams of an event different real teams (`Event.Assigns`) and each slot a
player who passes its check (`Requirement.Passed`), so that an event is cast only with players who
can play it (`exists_players_of_cast`).  The check is not quite what is demanded
(`Requirement.Met`): it asks whether a height is at or beyond a bound, and not whether it is within.
-/

namespace Tournament

open Draw (Source)

variable {σ : Type}

/-! ## What is demanded -/

/-- The height of a player is strictly within the bounds of a slot. -/
structure Requirement.HeightMet (r : Requirement) (p : Player) : Prop where
  shorter : ∀ l ∈ r.shorterThan, p.height.metres < l.metres
  taller : ∀ l ∈ r.tallerThan, l.metres < p.height.metres

/-- The player meets all other demands of a slot, the abstract teams standing for real ones. -/
structure Requirement.OthersMet (r : Requirement) (real : Char → Char) (p : Player) : Prop where
  fewer : ∀ n ∈ r.fewerEliminationsThan, p.eliminations.toNat < n
  more : ∀ n ∈ r.moreEliminationsThan, n < p.eliminations.toNat
  eliminations : ∀ n ∈ r.eliminations, p.eliminations.toNat = n
  gender : r.genders ≠ [] → p.gender ∈ r.genders
  items : ∀ item ∈ r.items, item ∈ p.items
  attributes : ∀ name ∈ r.attributes, name ∈ p.attributes
  team : ∀ letter ∈ r.team, p.team = some (real letter)

structure Requirement.Met (r : Requirement) (real : Char → Char) (p : Player) : Prop where
  height : r.HeightMet p
  others : r.OthersMet real p

/-- The height of a player is not at or beyond a bound of a slot. -/
structure Requirement.HeightPassed (r : Requirement) (p : Player) : Prop where
  shorter : ∀ l ∈ r.shorterThan, ¬ p.height.metres ≥ l.metres
  taller : ∀ l ∈ r.tallerThan, ¬ p.height.metres ≤ l.metres

structure Requirement.Passed (r : Requirement) (real : Char → Char) (p : Player) : Prop where
  height : r.HeightPassed p
  others : r.OthersMet real p

def Event.letters (e : Event) : List Char :=
  e.slots.filterMap (·.team)

/-- The abstract teams of the event stand for different teams, each with a living player. -/
structure Event.Assigns (e : Event) (c : Contest) (real : Char → Char) : Prop where
  alive : ∀ letter ∈ e.letters, ∃ p ∈ c.alivePlayers, p.team = some (real letter)
  inj : ∀ l ∈ e.letters, ∀ l' ∈ e.letters, real l = real l' → l = l'

/-- The players can play the event in a contest: there is one for every slot, in slot order, who
passes its check. -/
def Event.PlayableBy (e : Event) (c : Contest) (players : List Player) : Prop :=
  ∃ real, e.Assigns c real ∧ List.Forall₂ (fun r p => r.Passed real p) e.slots players

theorem Requirement.passed_of_admits {r : Requirement} {real : Char → Char} {p : Player}
    {team : Option Char} (h : r.admits team p = true)
    (hteam : ∀ letter ∈ r.team, team = some (real letter)) : r.Passed real p := by
  unfold admits at h
  simp only [Bool.and_eq_true, Option.all_eq_true, List.all_eq_true, Bool.or_eq_true,
    Bool.not_eq_true', decide_eq_true_eq, decide_eq_false_iff_not, List.isEmpty_iff,
    List.contains_iff_mem, Option.isNone_iff_eq_none] at h
  obtain ⟨⟨⟨⟨⟨⟨⟨⟨hshorter, htaller⟩, hfewer⟩, hmore⟩, helims⟩, hgender⟩, hitems⟩, hattributes⟩,
    hbound⟩ := h
  refine ⟨⟨hshorter, htaller⟩, hfewer, hmore, helims, ?_, ?_, ?_, ?_⟩
  · exact fun hne => hgender.resolve_left hne
  · simpa [Player.holds] using hitems
  · simpa [Player.hasAttribute] using hattributes
  · intro letter hletter
    rw [hteam letter hletter] at hbound
    simpa using hbound

theorem Requirement.admits_iff_passed (r : Requirement) (real : Char → Char) (p : Player) :
    r.admits (r.team.map real) p = true ↔ r.Passed real p := by
  constructor
  · intro h
    exact passed_of_admits h fun letter hletter => by
      rw [Option.mem_def.mp hletter, Option.map_some]
  · intro h
    simp only [admits, Bool.and_eq_true, Option.all_eq_true, List.all_eq_true, Bool.or_eq_true,
      Bool.not_eq_true', decide_eq_true_eq, decide_eq_false_iff_not, List.isEmpty_iff,
      List.contains_iff_mem, Option.isNone_iff_eq_none, Player.holds, Player.hasAttribute]
    refine ⟨⟨⟨⟨⟨⟨⟨⟨h.height.shorter, h.height.taller⟩, h.others.fewer⟩, h.others.more⟩,
      h.others.eliminations⟩, ?_⟩, h.others.items⟩, h.others.attributes⟩, ?_⟩
    · exact or_iff_not_imp_left.mpr h.others.gender
    · cases hletter : r.team with
      | none => exact .inl rfl
      | some letter => exact .inr (h.others.team letter hletter)

/-! ## Teams -/

theorem Contest.mem_insertLetter {c d : Char} {cs : List Char} :
    d ∈ insertLetter c cs ↔ d = c ∨ d ∈ cs := by
  induction cs with
  | nil => simp [insertLetter]
  | cons e cs ih =>
      unfold insertLetter
      split_ifs with hlt heq
      · simp
      · subst heq
        simp
      · rw [List.mem_cons, ih, List.mem_cons]
        tauto

theorem Contest.pairwise_insertLetter {c : Char} {cs : List Char} (h : cs.Pairwise (· < ·)) :
    (insertLetter c cs).Pairwise (· < ·) := by
  induction cs with
  | nil => simp [insertLetter]
  | cons d cs ih =>
      obtain ⟨hd, hcs⟩ := List.pairwise_cons.mp h
      unfold insertLetter
      split_ifs with hlt heq
      · refine List.pairwise_cons.mpr ⟨?_, h⟩
        intro e he
        rcases List.mem_cons.mp he with rfl | he
        · exact hlt
        · exact lt_trans hlt (hd e he)
      · exact h
      · refine List.pairwise_cons.mpr ⟨?_, ih hcs⟩
        intro e he
        rcases mem_insertLetter.mp he with rfl | he
        · exact lt_of_le_of_ne (not_lt.mp hlt) (Ne.symm heq)
        · exact hd e he

theorem Contest.mem_aliveTeams {c : Contest} {team : Char} :
    team ∈ c.aliveTeams ↔ ∃ p ∈ c.alivePlayers, p.team = some team := by
  have hfoldr : ∀ teams : List Char, team ∈ teams.foldr insertLetter [] ↔ team ∈ teams := by
    intro teams
    induction teams with
    | nil => simp
    | cons d teams ih => rw [List.foldr_cons, mem_insertLetter, ih, List.mem_cons]
  rw [aliveTeams, hfoldr, List.mem_filterMap]

theorem Contest.nodup_aliveTeams (c : Contest) : c.aliveTeams.Nodup := by
  have hfoldr : ∀ teams : List Char, (teams.foldr insertLetter []).Pairwise (· < ·) := by
    intro teams
    induction teams with
    | nil => exact .nil
    | cons d teams ih => exact pairwise_insertLetter ih
  exact (hfoldr _).imp ne_of_lt

/-- The abstract teams bound so far stand for different teams of `teams`, the others of which are
`free`. -/
structure Binding (teams free : List Char) (bound : List (Char × Char)) : Prop where
  mem : ∀ letter team, bound.lookup letter = some team → team ∈ teams ∧ team ∉ free
  inj : ∀ l l' team, bound.lookup l = some team → bound.lookup l' = some team → l = l'
  subset : ∀ team ∈ free, team ∈ teams
  nodup : free.Nodup

theorem lookup_concat {bound : List (Char × Char)} {letter : Char} (team : Char)
    (hnew : bound.lookup letter = none) (l t : Char) :
    (bound ++ [(letter, team)]).lookup l = some t ↔
      bound.lookup l = some t ∨ l = letter ∧ t = team := by
  rw [List.lookup_append]
  by_cases hl : l = letter
  · subst hl
    simp [hnew, eq_comm]
  · simp only [List.lookup_cons, beq_eq_false_iff_ne.mpr hl, List.lookup_nil, Option.or_none, hl,
      false_and, or_false]

theorem binding_nil {teams : List Char} (h : teams.Nodup) : Binding teams teams [] :=
  ⟨by simp, by simp, fun _ ht => ht, h⟩

theorem Binding.concat {teams free : List Char} {bound : List (Char × Char)}
    (h : Binding teams free bound) {i : Nat} (hi : i < free.length) {letter : Char}
    (hnew : bound.lookup letter = none) :
    Binding teams (free.eraseIdx i) (bound ++ [(letter, free[i])]) := by
  have hi_mem : free[i] ∈ free := List.getElem_mem hi
  have hi_erased : free[i] ∉ free.eraseIdx i := by
    intro hmem
    obtain ⟨j, hj, hne, heq⟩ := List.mem_eraseIdx_iff_getElem.mp hmem
    exact hne (h.nodup.getElem_inj_iff.mp heq)
  refine ⟨?_, ?_, ?_, ?_⟩
  · intro l t hl
    rcases (lookup_concat _ hnew l t).mp hl with hl | ⟨rfl, rfl⟩
    · obtain ⟨hmem, hfree⟩ := h.mem l t hl
      exact ⟨hmem, fun ht => hfree (List.mem_of_mem_eraseIdx ht)⟩
    · exact ⟨h.subset _ hi_mem, hi_erased⟩
  · intro l l' t hl hl'
    rcases (lookup_concat _ hnew l t).mp hl with hl | ⟨hl, ht⟩ <;>
      rcases (lookup_concat _ hnew l' t).mp hl' with hl' | ⟨hl', ht'⟩
    · exact h.inj l l' t hl hl'
    · exact absurd (ht' ▸ hi_mem) (h.mem l t hl).2
    · exact absurd (ht ▸ hi_mem) (h.mem l' t hl').2
    · exact hl.trans hl'.symm
  · exact fun t ht => h.subset t (List.mem_of_mem_eraseIdx ht)
  · exact h.nodup.sublist (List.eraseIdx_sublist free i)

/-- Binding the abstract teams of slots gives each of them a team and takes none away. -/
theorem bindTeams_spec {src : Source σ} {teams : List Char} {slots : List Requirement}
    {free : List Char} {bound bound' : List (Char × Char)} {s s' : σ}
    (h : bindTeams src slots free bound s = (.ok bound', s'))
    (hbinding : Binding teams free bound) :
    (∃ free', Binding teams free' bound') ∧
      (∀ letter team, bound.lookup letter = some team → bound'.lookup letter = some team) ∧
      ∀ r ∈ slots, ∀ letter ∈ r.team, ∃ team, bound'.lookup letter = some team := by
  induction slots generalizing free bound s with
  | nil =>
      cases h
      exact ⟨⟨free, hbinding⟩, fun _ _ h => h, by simp⟩
  | cons r rest ih =>
      unfold bindTeams at h
      cases hteam : r.team with
      | none =>
          rw [hteam] at h
          obtain ⟨hfree, hkept, hrest⟩ := ih h hbinding
          refine ⟨hfree, hkept, ?_⟩
          simpa [hteam] using hrest
      | some letter =>
          simp only [hteam] at h
          split_ifs at h with hbound hpos
          · obtain ⟨hfree, hkept, hrest⟩ := ih h hbinding
            refine ⟨hfree, hkept, ?_⟩
            obtain ⟨team, hlookup⟩ := Option.isSome_iff_exists.mp hbound
            simpa [hteam] using ⟨⟨team, hkept letter team hlookup⟩, hrest⟩
          · have hnew : bound.lookup letter = none := Option.not_isSome_iff_eq_none.mp hbound
            obtain ⟨hfree, hkept, hrest⟩ :=
              ih h (hbinding.concat (src.index free.length hpos s).1.isLt hnew)
            refine ⟨hfree, ?_, ?_⟩
            · intro l t hl
              exact hkept l t ((lookup_concat _ hnew l t).mpr (.inl hl))
            · have hletter := hkept letter _ ((lookup_concat _ hnew letter _).mpr (.inr ⟨rfl, rfl⟩))
              simpa [hteam] using ⟨⟨_, hletter⟩, hrest⟩
          · cases h

def realTeam (bound : List (Char × Char)) (letter : Char) : Char :=
  (bound.lookup letter).getD letter

theorem lookup_realTeam {bound : List (Char × Char)} {slots : List Requirement}
    (hbound : ∀ r ∈ slots, ∀ letter ∈ r.team, ∃ team, bound.lookup letter = some team) :
    ∀ r ∈ slots, ∀ letter ∈ r.team, bound.lookup letter = some (realTeam bound letter) := by
  intro r hr letter hletter
  obtain ⟨team, hteam⟩ := hbound r hr letter hletter
  rw [realTeam, hteam, Option.getD_some]

theorem assigns_realTeam {c : Contest} {e : Event} {free : List Char} {bound : List (Char × Char)}
    (hbinding : Binding c.aliveTeams free bound)
    (hbound : ∀ r ∈ e.slots, ∀ letter ∈ r.team, ∃ team, bound.lookup letter = some team) :
    e.Assigns c (realTeam bound) := by
  have hlookup : ∀ letter ∈ e.letters, bound.lookup letter = some (realTeam bound letter) := by
    intro letter hletter
    obtain ⟨r, hr, hteam⟩ := List.mem_filterMap.mp hletter
    exact lookup_realTeam hbound r hr letter hteam
  constructor
  · intro letter hletter
    exact Contest.mem_aliveTeams.mp (hbinding.mem letter _ (hlookup letter hletter)).1
  · intro l hl l' hl' heq
    exact hbinding.inj l l' _ (hlookup l hl) (heq ▸ hlookup l' hl')

/-! ## Players -/

/-- The players at some places, of which there is one at each. -/
def Contest.PlayersAt (c : Contest) (ids : List Nat) (players : List Player) : Prop :=
  List.Forall₂ (fun id p => c.roster[id]? = some p) ids players

theorem Contest.PlayersAt.filterMap_eq {c : Contest} {ids : List Nat} {players : List Player}
    (h : c.PlayersAt ids players) : ids.filterMap (c.roster[·]?) = players := by
  induction h with
  | nil => rfl
  | cons hp _ ih => rw [List.filterMap_cons_some hp, ih]

theorem Contest.exists_playersAt_of_fill {c : Contest} {bound : List (Char × Char)}
    {slots : List Requirement} {candidates ids : List Nat} {real : Char → Char}
    (h : c.fill bound slots candidates = some ids)
    (hreal : ∀ r ∈ slots, ∀ letter ∈ r.team, bound.lookup letter = some (real letter)) :
    ∃ players, c.PlayersAt ids players ∧
      List.Forall₂ (fun r p => r.Passed real p) slots players := by
  induction slots generalizing candidates ids with
  | nil =>
      obtain rfl : [] = ids := Option.some.inj h
      exact ⟨[], .nil, .nil⟩
  | cons r rest ih =>
      rw [fill] at h
      cases hfind : candidates.find? (c.fits bound r) with
      | none => simp [hfind] at h
      | some id =>
          rw [hfind] at h
          obtain ⟨more, hmore, rfl⟩ := Option.map_eq_some_iff.mp h
          obtain ⟨players, hplayers, hpassed⟩ :=
            ih hmore fun r hr => hreal r (List.mem_cons_of_mem _ hr)
          have hfits : c.fits bound r id = true := List.find?_some hfind
          obtain ⟨p, hp, hadmits⟩ := (Option.any_eq_true _ _).mp hfits
          refine ⟨p :: players, .cons hp hplayers, .cons ?_ hpassed⟩
          apply Requirement.passed_of_admits hadmits
          intro letter hletter
          rw [Requirement.boundTeam, Option.mem_def.mp hletter]
          exact hreal r List.mem_cons_self letter hletter

theorem Contest.exists_players_of_cast {c : Contest} {src : Source σ} {e : Event}
    {pool ids : List Nat} {s s' : σ} (h : c.cast src e pool s = (.cast ids, s')) :
    ∃ players, c.PlayersAt ids players ∧ e.PlayableBy c players := by
  obtain ⟨bound, hbind, hfill⟩ := fill_of_cast h
  obtain ⟨⟨free, hbinding⟩, -, hbound⟩ := bindTeams_spec hbind (binding_nil c.nodup_aliveTeams)
  obtain ⟨players, hplayers, hpassed⟩ := exists_playersAt_of_fill hfill (lookup_realTeam hbound)
  exact ⟨players, hplayers, realTeam bound, assigns_realTeam hbinding hbound, hpassed⟩

end Tournament
