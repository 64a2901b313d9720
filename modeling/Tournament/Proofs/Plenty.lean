import Mathlib.Data.List.Count
import Tournament.Proofs.Fitting
import Tournament.Proofs.Recording

/-!
# When casting cannot fail

Slots are filled in turn, each with the first candidate that fits, and no choice is taken back.  This
never goes wrong where each slot has more players to choose from than there are slots before it
(`exists_fill`), whatever the order of the candidates; and teams are found for the abstract teams if
and only if there are as many (`exists_bindTeams_iff`).
-/

namespace Tournament

open Draw (Source)

variable {σ : Type}

/-! ## What is enough -/

instance (r : Requirement) (real : Char → Char) (p : Player) : Decidable (r.Passed real p) :=
  decidable_of_iff _ (r.admits_iff_passed real p)

/-- Those of a pool who could fill a slot, the abstract teams standing for real ones. -/
def Contest.suitable (c : Contest) (real : Char → Char) (r : Requirement) (pool : List Nat) :
    List Nat :=
  pool.filter fun id => (c.roster[id]?).any fun p => r.Passed real p

/-- Whatever teams the abstract teams stand for, each slot has more players to choose from than
there are slots before it. -/
def Event.Plentiful (e : Event) (c : Contest) (pool : List Nat) : Prop :=
  ∀ real, e.Assigns c real → ∀ k (hk : k < e.slots.length),
    k < (c.suitable real e.slots[k] pool).length

theorem Contest.suitable_congr (c : Contest) {r : Requirement} {real real' : Char → Char}
    (h : r.team.map real = r.team.map real') (pool : List Nat) :
    c.suitable real r pool = c.suitable real' r pool := by
  unfold suitable
  congr 1
  funext id
  congr 1
  funext p
  rw [decide_eq_decide, ← r.admits_iff_passed, h, r.admits_iff_passed]

theorem Event.Plentiful.of_teams {e : Event} {c : Contest} {pool : List Nat}
    (hteams : c.aliveTeams ≠ [])
    (h : ∀ slot ∈ e.slots.zipIdx, ∀ team ∈ c.aliveTeams,
      slot.2 < (c.suitable (fun _ => team) slot.1 pool).length) : e.Plentiful c pool := by
  intro real hreal k hk
  have hslot : (e.slots[k], k) ∈ e.slots.zipIdx :=
    List.mk_mem_zipIdx_iff_getElem?.mpr (List.getElem?_eq_getElem hk)
  cases hletter : e.slots[k].team with
  | none =>
      obtain ⟨team, hteam⟩ := List.exists_mem_of_ne_nil _ hteams
      have hsame : e.slots[k].team.map real = e.slots[k].team.map fun _ => team := by
        simp [hletter]
      rw [c.suitable_congr hsame]
      exact h _ hslot team hteam
  | some letter =>
      have hmem : letter ∈ e.letters :=
        List.mem_filterMap.mpr ⟨_, List.getElem_mem hk, hletter⟩
      have hsame : e.slots[k].team.map real = e.slots[k].team.map fun _ => real letter := by
        simp [hletter]
      rw [c.suitable_congr hsame]
      exact h _ hslot _ (Contest.mem_aliveTeams.mpr (hreal.alive letter hmem))

/-! ## Teams -/

theorem exists_bindTeams_iff (src : Source σ) (slots : List Requirement) (free : List Char)
    (bound : List (Char × Char)) (s : σ) :
    (∃ bound', (bindTeams src slots free bound s).1 = .ok bound') ↔
      (unboundLetters slots bound).length ≤ free.length := by
  induction slots generalizing free bound s with
  | nil => simp [bindTeams, unboundLetters]
  | cons r rest ih =>
      unfold bindTeams
      cases hteam : r.team with
      | none =>
          rw [unboundLetters_cons_of_bound (by simp [hteam])]
          exact ih free bound s
      | some letter =>
          dsimp only
          split_ifs with hbound hfree
          · rw [unboundLetters_cons_of_bound (by simpa [hteam] using hbound)]
            exact ih free bound s
          · have hnew := Option.not_isSome_iff_eq_none.mp hbound
            cases src.index free.length hfree s with
            | mk i s' =>
            dsimp only
            have hlength : (free.eraseIdx i).length + 1 = free.length := by
              rw [List.length_eraseIdx_of_lt i.isLt]
              omega
            rw [unboundLetters_cons_of_new hteam hnew free[i], List.length_cons]
            exact (ih _ _ s').trans (by omega)
          · have hnew := Option.not_isSome_iff_eq_none.mp hbound
            rw [unboundLetters_cons_of_new hteam hnew letter]
            simp
            omega

/-! ## Players -/

/-- Filling the slots in turn succeeds where each has more candidates than there are slots before
it. -/
theorem Contest.exists_fill {c : Contest} {bound : List (Char × Char)} {slots : List Requirement}
    {candidates : List Nat}
    (h : ∀ k (hk : k < slots.length), k < candidates.countP (c.fits bound slots[k])) :
    ∃ ids, c.fill bound slots candidates = some ids := by
  induction slots generalizing candidates with
  | nil => exact ⟨[], rfl⟩
  | cons r rest ih =>
      have hfirst := h 0 (Nat.zero_lt_succ _)
      rw [List.getElem_cons_zero, List.countP_pos_iff] at hfirst
      cases hfind : candidates.find? (c.fits bound r) with
      | none =>
          obtain ⟨id, hid, hfits⟩ := hfirst
          exact absurd hfits (List.find?_eq_none.mp hfind id hid)
      | some id =>
          -- who is taken was at most one of the candidates for each of the other slots
          obtain ⟨ids, hids⟩ : ∃ ids, c.fill bound rest (candidates.erase id) = some ids := by
            apply ih
            intro k hk
            have hnext := h (k + 1) (Nat.succ_lt_succ hk)
            rw [List.getElem_cons_succ] at hnext
            rw [List.countP_erase]
            split_ifs <;> omega
          rw [fill, hfind]
          exact ⟨id :: ids, by simp only [hids, Option.map_some]⟩

theorem Contest.countP_fits {c : Contest} {bound : List (Char × Char)} {r : Requirement}
    (hbound : ∀ letter ∈ r.team, bound.lookup letter = some (realTeam bound letter))
    (pool : List Nat) :
    pool.countP (c.fits bound r) = (c.suitable (realTeam bound) r pool).length := by
  have hteam : r.boundTeam bound = r.team.map (realTeam bound) := by
    unfold Requirement.boundTeam
    cases hletter : r.team with
    | none => rfl
    | some letter => exact hbound letter hletter
  rw [suitable, ← List.countP_eq_length_filter]
  congr 1
  funext id
  unfold fits
  rw [hteam]
  congr 1
  funext p
  rw [Bool.eq_iff_iff, r.admits_iff_passed, decide_eq_true_eq]

/-! ## Casting -/

/-- An event is cast if and only if teams are found for its abstract teams and players for its
slots. -/
theorem Contest.cast_fst (c : Contest) (src : Source σ) (e : Event) (pool : List Nat) (s : σ) :
    (c.cast src e pool s).1 =
      match (bindTeams src e.slots c.aliveTeams [] (src.shuffle pool s).2).1 with
      | .error letter => .noTeam letter
      | .ok bound =>
        match c.fill bound e.slots (src.shuffle pool s).1 with
        | none => .noPlayer
        | some ids => .cast ids := by
  unfold cast
  dsimp only
  cases bindTeams src e.slots c.aliveTeams [] (src.shuffle pool s).2 with
  | mk teams s' =>
  cases teams with
  | error letter => rfl
  | ok bound =>
      dsimp only
      cases c.fill bound e.slots (src.shuffle pool s).1 <;> rfl

theorem Contest.exists_cast_of_plentiful {c : Contest} {e : Event} {pool : List Nat}
    (hteams : e.letters.eraseDups.length ≤ c.aliveTeams.length) (hplenty : e.Plentiful c pool)
    (src : Source σ) (s : σ) : ∃ ids, (c.cast src e pool s).1 = .cast ids := by
  rw [Event.letters, ← unboundLetters_nil,
    ← exists_bindTeams_iff src _ _ _ (src.shuffle pool s).2] at hteams
  obtain ⟨bound, hbind⟩ := hteams
  obtain ⟨⟨free, hbinding⟩, -, hbound⟩ :=
    bindTeams_spec (Prod.ext hbind rfl) (binding_nil c.nodup_aliveTeams)
  obtain ⟨ids, hids⟩ : ∃ ids, c.fill bound e.slots (src.shuffle pool s).1 = some ids := by
    apply exists_fill
    intro k hk
    -- the order of the candidates does not matter, and the teams are as good as any others
    rw [(src.shuffle_perm pool s).countP_eq,
      countP_fits (lookup_realTeam hbound _ (List.getElem_mem hk))]
    exact hplenty _ (assigns_realTeam hbinding hbound) k hk
  exact ⟨ids, by rw [cast_fst, hbind]; simp only [hids]⟩

theorem Contest.exists_noTeam {c : Contest} {e : Event}
    (hteams : c.aliveTeams.length < e.letters.eraseDups.length) (src : Source σ) (pool : List Nat)
    (s : σ) : ∃ letter, (c.cast src e pool s).1 = .noTeam letter := by
  rw [Event.letters, ← unboundLetters_nil, ← Nat.not_le,
    ← exists_bindTeams_iff src _ _ _ (src.shuffle pool s).2] at hteams
  rw [cast_fst]
  cases hbind : (bindTeams src e.slots c.aliveTeams [] (src.shuffle pool s).2).1 with
  | error letter => exact ⟨letter, rfl⟩
  | ok bound => exact absurd ⟨bound, hbind⟩ hteams

/-- Whatever the draws, an event is cast if there are enough teams for its abstract teams and, with
any teams standing for them, enough players to choose from for each slot; and it finds no players if
there are not enough teams. -/
theorem Contest.cast_of_plenty (c : Contest) (e : Event) (pool : List Nat) :
    (e.letters.eraseDups.length ≤ c.aliveTeams.length → e.Plentiful c pool →
      ∀ {σ : Type} (src : Source σ) (s : σ), ∃ ids, (c.cast src e pool s).1 = .cast ids) ∧
    (c.aliveTeams.length < e.letters.eraseDups.length →
      ∀ {σ : Type} (src : Source σ) (s : σ), ∃ letter,
        (c.cast src e pool s).1 = .noTeam letter) :=
  ⟨fun hteams hplenty _ => exists_cast_of_plentiful hteams hplenty,
    fun hteams _ src => exists_noTeam hteams src pool⟩

def relaySpec : String :=
  "[players]\n\"Ann\"\ngender:F, height:1m, team:A\n\"Bo\"\ngender:M, height:1m, team:B\n"

/-- Whatever the draws, someone of a team can outrun someone, but two teams do not suffice for a race
of three. -/
theorem cast_of_relay :
    ∃ reading run race, Spec.parse relaySpec = .ok reading ∧
      Event.parse "%1:A% outruns %2%." "tributes:2" = .ok run ∧
      Event.parse "%1:A%, %2:B% and %3:C% race." "tributes:3" = .ok race ∧
      (∀ {σ : Type} (src : Source σ) (s : σ), ∃ ids,
        (reading.contest.cast src run [0, 1] s).1 = .cast ids) ∧
      ∀ {σ : Type} (src : Source σ) (s : σ), ∃ letter,
        (reading.contest.cast src race [0, 1] s).1 = .noTeam letter := by
  obtain ⟨reading, hspec, hreading⟩ :=
    Spec.exists_of_parse relaySpec
      (P := fun reading =>
        (Event.parse "%1:A% outruns %2%." "tributes:2").toOption.any fun run =>
          (Event.parse "%1:A%, %2:B% and %3:C% race." "tributes:3").toOption.any fun race =>
            run.letters.eraseDups.length ≤ reading.contest.aliveTeams.length ∧
              reading.contest.aliveTeams ≠ [] ∧
              (∀ slot ∈ run.slots.zipIdx, reading.contest.aliveTeams.all fun team =>
                slot.2 < (reading.contest.suitable (fun _ => team) slot.1 [0, 1]).length) ∧
              reading.contest.aliveTeams.length < race.letters.eraseDups.length)
      (by decide +kernel)
  obtain ⟨run, hrun, hreading⟩ := exists_of_any hreading
  obtain ⟨race, hrace, hreading⟩ := exists_of_any hreading
  obtain ⟨hletters, hteams, hplenty, hmore⟩ := of_decide_eq_true hreading
  simp only [List.all_eq_true, decide_eq_true_eq] at hplenty
  exact ⟨reading, run, race, hspec, hrun, hrace,
    (Contest.cast_of_plenty _ run _).1 hletters (.of_teams hteams hplenty),
    (Contest.cast_of_plenty _ race _).2 hmore⟩

end Tournament
