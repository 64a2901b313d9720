import Tournament.Contest
import Tournament.Draw.Source

/-!
# Casting an event

Casting finds a player for every slot of an event. The candidates are shuffled; each abstract team
of the event gets a real team with a living player, no two the same; then every slot in turn takes
the first candidate left who meets its demands. One slot that finds nobody fails the whole event.
-/

namespace Tournament

open Draw (Source)

inductive Casting where
  /-- A player for every slot, in slot order. -/
  | cast (ids : List Nat)
  /-- No team is left for an abstract team. -/
  | noTeam (letter : Char)
  | noPlayer
  deriving DecidableEq, Repr

variable {σ : Type}

/-- Gives every abstract team of the slots a team out of `free`, `bound` being the teams given so
far; or names the first abstract team that no team is left for. -/
def bindTeams (src : Source σ) : List Requirement → (free : List Char) →
    (bound : List (Char × Char)) → σ → Except Char (List (Char × Char)) × σ
  | [], _, bound, s => (.ok bound, s)
  | r :: rest, free, bound, s =>
    match r.team with
    | none => bindTeams src rest free bound s
    | some letter =>
      if (bound.lookup letter).isSome then bindTeams src rest free bound s
      else if h : 0 < free.length then
        let (i, s) := src.index free.length h s
        bindTeams src rest (free.eraseIdx i) (bound ++ [(letter, free[i])]) s
      else (.error letter, s)

def Requirement.boundTeam (r : Requirement) (bound : List (Char × Char)) : Option Char :=
  r.team.bind fun letter => bound.lookup letter

/-- Whether the player at a place meets the demands of a slot. -/
def Contest.fits (c : Contest) (bound : List (Char × Char)) (r : Requirement) (id : Nat) : Bool :=
  (c.roster[id]?).any fun p => r.admits (r.boundTeam bound) p

/-- Fills the slots in turn, each with the first candidate that fits; who is taken is a candidate
no longer. -/
def Contest.fill (c : Contest) (bound : List (Char × Char)) :
    List Requirement → (candidates : List Nat) → Option (List Nat)
  | [], _ => some []
  | r :: rest, candidates =>
    match candidates.find? (c.fits bound r) with
    | none => none
    | some id => (c.fill bound rest (candidates.erase id)).map (id :: ·)

def Contest.cast (c : Contest) (src : Source σ) (e : Event) (pool : List Nat) (s : σ) :
    Casting × σ :=
  let (candidates, s) := src.shuffle pool s
  match bindTeams src e.slots c.aliveTeams [] s with
  | (.error letter, s) => (.noTeam letter, s)
  | (.ok bound, s) =>
    match c.fill bound e.slots candidates with
    | none => (.noPlayer, s)
    | some ids => (.cast ids, s)

theorem Contest.fill_subset (c : Contest) (bound : List (Char × Char)) :
    ∀ (slots : List Requirement) (candidates ids : List Nat),
      c.fill bound slots candidates = some ids → ∀ id ∈ ids, id ∈ candidates
  | [], _, ids, h => by simp_all [Contest.fill]
  | r :: rest, candidates, ids, h => by
    simp only [Contest.fill] at h
    split at h
    · simp at h
    · next id hid =>
      obtain ⟨more, hmore, rfl⟩ := Option.map_eq_some_iff.mp h
      intro i hi
      rcases List.mem_cons.mp hi with rfl | hi
      · exact List.mem_of_find?_eq_some hid
      · exact List.mem_of_mem_erase (fill_subset c bound rest _ more hmore i hi)

theorem Contest.fill_length (c : Contest) (bound : List (Char × Char)) :
    ∀ (slots : List Requirement) (candidates ids : List Nat),
      c.fill bound slots candidates = some ids → ids.length = slots.length
  | [], _, ids, h => by simp_all [Contest.fill]
  | r :: rest, candidates, ids, h => by
    simp only [Contest.fill] at h
    split at h
    · simp at h
    · obtain ⟨more, hmore, rfl⟩ := Option.map_eq_some_iff.mp h
      simp [fill_length c bound rest _ more hmore]

/-- An event that is cast has had its teams bound and its slots filled from the shuffled pool. -/
theorem Contest.fill_of_cast {c : Contest} {src : Source σ} {e : Event} {pool ids : List Nat}
    {s s' : σ} (h : c.cast src e pool s = (.cast ids, s')) :
    ∃ bound, bindTeams src e.slots c.aliveTeams [] (src.shuffle pool s).2 = (.ok bound, s') ∧
      c.fill bound e.slots (src.shuffle pool s).1 = some ids := by
  simp only [Contest.cast] at h
  split at h
  · simp at h
  · next hbind =>
    split at h
    · simp at h
    · next hfill =>
      simp only [Prod.mk.injEq, Casting.cast.injEq] at h
      obtain ⟨rfl, rfl⟩ := h
      exact ⟨_, hbind, hfill⟩

theorem Contest.mem_pool_of_cast {c : Contest} {src : Source σ} {e : Event} {pool ids : List Nat}
    {s s' : σ} (h : c.cast src e pool s = (.cast ids, s')) : ∀ id ∈ ids, id ∈ pool := by
  obtain ⟨bound, -, hfill⟩ := fill_of_cast h
  intro id hid
  exact (src.shuffle_perm pool s).mem_iff.mp (c.fill_subset _ _ _ _ hfill id hid)

theorem Contest.length_of_cast {c : Contest} {src : Source σ} {e : Event} {pool ids : List Nat}
    {s s' : σ} (h : c.cast src e pool s = (.cast ids, s')) : ids.length = e.tributes := by
  obtain ⟨bound, -, hfill⟩ := fill_of_cast h
  exact c.fill_length _ _ _ _ hfill

end Tournament
