import Tournament.Proofs.Evaluation
import Tournament.Proofs.Roster
import Mathlib.Data.Char
import Mathlib.Data.Finset.Sort
import Mathlib.Data.String.Basic

/-!
# The sides of a contest

The sides with a living player, each once and in order (`Contest.sides`), decide a contest: it has
no winner while there is a second side, and else the winner is the side that is left, or nobody
(`winner?_eq_ofSides?`).  Two living players are on one side just if they are teammates, as long as
names are distinct.
-/

namespace Tournament

/-! ## The order of sides -/

/-- Teams stand before players without one; teams by letter, these players by name. -/
def Side.NotAfter : Side → Side → Prop
  | .team letter, .team letter' => letter ≤ letter'
  | .team _, .solo _ => True
  | .solo _, .team _ => False
  | .solo name, .solo name' => name ≤ name'

instance : DecidableRel Side.NotAfter
  | .team letter, .team letter' => inferInstanceAs (Decidable (letter ≤ letter'))
  | .team _, .solo _ => inferInstanceAs (Decidable True)
  | .solo _, .team _ => inferInstanceAs (Decidable False)
  | .solo name, .solo name' => inferInstanceAs (Decidable (name ≤ name'))

instance : IsTrans Side Side.NotAfter where
  trans
    | .team _, .team _, .team _, h, h' => le_trans h h'
    | .team _, _, .solo _, _, _ => trivial
    | .solo _, .solo _, .solo _, h, h' => le_trans h h'

instance : Std.Antisymm Side.NotAfter where
  antisymm
    | .team _, .team _, h, h' => congrArg Side.team (le_antisymm h h')
    | .solo _, .solo _, h, h' => congrArg Side.solo (le_antisymm h h')

instance : Std.Total Side.NotAfter where
  total
    | .team letter, .team letter' => le_total letter letter'
    | .team _, .solo _ => .inl trivial
    | .solo _, .team _ => .inr trivial
    | .solo name, .solo name' => le_total name name'

/-! ## What the sides decide -/

def Winner.ofSides? : List Side → Option Winner
  | [] => some .nobody
  | [side] => some side.asWinner
  | _ :: _ :: _ => none

namespace Winner

variable {sides : List Side}

theorem ofSides?_eq_none_iff (h : sides.Nodup) :
    ofSides? sides = none ↔ ∃ s ∈ sides, ∃ t ∈ sides, s ≠ t := by
  match sides, h with
  | [], _ => simp [ofSides?]
  | [side], _ => simp [ofSides?]
  | first :: second :: rest, h =>
      have hne : first ≠ second := by
        rintro rfl
        simp at h
      simp only [ofSides?, true_iff]
      exact ⟨first, by simp, second, by simp, hne⟩

theorem ofSides?_eq_nobody_iff : ofSides? sides = some .nobody ↔ sides = [] := by
  match sides with
  | [] => simp [ofSides?]
  | [.team _] | [.solo _] => simp [ofSides?, Side.asWinner]
  | _ :: _ :: _ => simp [ofSides?]

theorem ofSides?_eq_team_iff {letter : Char} :
    ofSides? sides = some (.team letter) ↔ sides = [.team letter] := by
  match sides with
  | [] => simp [ofSides?]
  | [.team _] | [.solo _] => simp [ofSides?, Side.asWinner]
  | _ :: _ :: _ => simp [ofSides?]

theorem ofSides?_eq_player_iff {name : String} :
    ofSides? sides = some (.player name) ↔ sides = [.solo name] := by
  match sides with
  | [] => simp [ofSides?]
  | [.team _] | [.solo _] => simp [ofSides?, Side.asWinner]
  | _ :: _ :: _ => simp [ofSides?]

end Winner

namespace Contest

variable {c : Contest} {s : Side}

def sides (c : Contest) : List Side :=
  (c.alivePlayers.map Player.side).toFinset.sort Side.NotAfter

theorem mem_sides : s ∈ c.sides ↔ ∃ p ∈ c.alivePlayers, p.side = s := by
  rw [sides, Finset.mem_sort, List.mem_toFinset, List.mem_map]

theorem nodup_sides (c : Contest) : c.sides.Nodup :=
  Finset.sort_nodup _ _

theorem sides_eq_nil_iff : c.sides = [] ↔ c.alivePlayers = [] := by
  simp only [List.eq_nil_iff_forall_not_mem, mem_sides, not_exists, not_and]
  exact ⟨fun h p hp => h _ p hp rfl, fun h _ p hp _ => h p hp⟩

theorem sides_eq_singleton_iff :
    c.sides = [s] ↔ c.alivePlayers ≠ [] ∧ ∀ p ∈ c.alivePlayers, p.side = s := by
  constructor
  · intro h
    have hmem : ∀ t, t ∈ c.sides ↔ t = s := by simp [h]
    refine ⟨fun hnone => ?_, fun p hp => (hmem _).mp (mem_sides.mpr ⟨p, hp, rfl⟩)⟩
    simp [sides_eq_nil_iff.mpr hnone] at h
  · rintro ⟨hne, hall⟩
    have hset : (c.alivePlayers.map Player.side).toFinset = {s} := by
      refine Finset.eq_singleton_iff_nonempty_unique_mem.mpr ⟨?_, ?_⟩
      · simpa [List.toFinset_nonempty_iff] using hne
      · simpa using hall
    rw [sides, hset, Finset.sort_singleton]

theorem winner?_eq_ofSides? (c : Contest) : c.winner? = Winner.ofSides? c.sides := by
  unfold winner?
  cases hsides : c.alivePlayers.map Player.side with
  | nil =>
      rw [sides_eq_nil_iff.mpr (List.map_eq_nil_iff.mp hsides)]
      rfl
  | cons side others =>
      have hne : c.alivePlayers ≠ [] := by
        intro hnone
        simp [hnone] at hsides
      have hmem : ∀ t, t ∈ c.sides ↔ t = side ∨ t ∈ others := by
        intro t
        rw [mem_sides, ← List.mem_map, hsides, List.mem_cons]
      by_cases hall : ∀ t ∈ others, t = side
      · have hsingle : c.sides = [side] := by
          refine sides_eq_singleton_iff.mpr ⟨hne, ?_⟩
          intro p hp
          rcases (hmem p.side).mp (mem_sides.mpr ⟨p, hp, rfl⟩) with h | h
          · exact h
          · exact hall _ h
        simpa [hsingle, Winner.ofSides?] using hall
      · have hsecond : ∃ t ∈ others, t ≠ side := by simpa using hall
        obtain ⟨t, ht, hdiffers⟩ := hsecond
        have hnone : Winner.ofSides? c.sides = none :=
          (Winner.ofSides?_eq_none_iff c.nodup_sides).mpr
            ⟨t, (hmem t).mpr (.inr ht), side, (hmem side).mpr (.inl rfl), hdiffers⟩
        simpa [hnone] using hall

end Contest

/-! ## Teammates -/

def Player.Teammates (p q : Player) : Prop :=
  ∃ letter, p.team = some letter ∧ q.team = some letter

theorem Player.side_eq_team_iff {p : Player} {letter : Char} :
    p.side = .team letter ↔ p.team = some letter := by
  cases hteam : p.team <;> simp [side, hteam]

theorem Player.side_eq_solo_iff {p : Player} {name : String} :
    p.side = .solo name ↔ p.team = none ∧ p.name = name := by
  cases hteam : p.team <;> simp [side, hteam]

theorem Player.side_eq_iff {p q : Player} (hname : p.name ≠ q.name) :
    p.side = q.side ↔ p.Teammates q := by
  constructor
  · intro hside
    cases hteam : q.team with
    | some letter =>
        exact ⟨letter, side_eq_team_iff.mp (hside.trans (side_eq_team_iff.mpr hteam)), hteam⟩
    | none =>
        have hsolo := side_eq_solo_iff.mp (hside.trans (side_eq_solo_iff.mpr ⟨hteam, rfl⟩))
        exact absurd hsolo.2 hname
  · rintro ⟨letter, hp, hq⟩
    rw [side_eq_team_iff.mpr hp, side_eq_team_iff.mpr hq]

namespace Contest

variable {c : Contest}

theorem DistinctNames.side_eq_iff (h : c.DistinctNames) {p q : Player} (hp : p ∈ c.alivePlayers)
    (hq : q ∈ c.alivePlayers) (hne : p ≠ q) : p.side = q.side ↔ p.Teammates q := by
  refine Player.side_eq_iff fun hname => hne ?_
  exact List.inj_on_of_nodup_map h (List.mem_of_mem_filter hp) (List.mem_of_mem_filter hq) hname

theorem winner?_eq_none_iff (h : c.DistinctNames) :
    c.winner? = none ↔ ∃ p ∈ c.alivePlayers, ∃ q ∈ c.alivePlayers, p ≠ q ∧ ¬ p.Teammates q := by
  rw [winner?_eq_ofSides?, Winner.ofSides?_eq_none_iff c.nodup_sides]
  simp only [mem_sides]
  constructor
  · rintro ⟨_, ⟨p, hp, rfl⟩, _, ⟨q, hq, rfl⟩, hside⟩
    have hne : p ≠ q := fun hpq => hside (congrArg Player.side hpq)
    exact ⟨p, hp, q, hq, hne, (h.side_eq_iff hp hq hne).not.mp hside⟩
  · rintro ⟨p, hp, q, hq, hne, hteam⟩
    exact ⟨_, ⟨p, hp, rfl⟩, _, ⟨q, hq, rfl⟩, (h.side_eq_iff hp hq hne).not.mpr hteam⟩

theorem winner?_eq_nobody_iff :
    c.winner? = some .nobody ↔ ∀ p ∈ c.roster, c.isAlive p = false := by
  rw [winner?_eq_ofSides?, Winner.ofSides?_eq_nobody_iff, sides_eq_nil_iff, alivePlayers,
    List.filter_eq_nil_iff]
  simp only [Bool.not_eq_true]

theorem winner?_eq_team_iff {letter : Char} :
    c.winner? = some (.team letter) ↔ (∃ p ∈ c.roster, c.isAlive p = true) ∧
      ∀ p ∈ c.roster, c.isAlive p = true → p.team = some letter := by
  have hsome : c.alivePlayers ≠ [] ↔ ∃ p ∈ c.roster, c.isAlive p = true := by
    simp [alivePlayers, List.filter_eq_nil_iff]
  rw [winner?_eq_ofSides?, Winner.ofSides?_eq_team_iff, sides_eq_singleton_iff, hsome]
  simp only [alivePlayers, List.mem_filter, Player.side_eq_team_iff, and_imp]

/-- Without a team a player is a side alone, so the last side is the last player. -/
theorem winner?_eq_player_iff (h : c.DistinctNames) {name : String} :
    c.winner? = some (.player name) ↔
      ∃ p, c.alivePlayers = [p] ∧ p.team = none ∧ p.name = name := by
  rw [winner?_eq_ofSides?, Winner.ofSides?_eq_player_iff, sides_eq_singleton_iff]
  simp only [Player.side_eq_solo_iff]
  constructor
  · rintro ⟨hne, hall⟩
    have hnames : (c.alivePlayers.map (·.name)).Nodup := h.sublist (List.filter_sublist.map _)
    match halive : c.alivePlayers with
    | [] => exact absurd halive hne
    | [p] => exact ⟨p, rfl, hall p (by simp [halive])⟩
    | p :: q :: rest =>
        -- two players of the same name
        have hp := hall p (by simp [halive])
        have hq := hall q (by simp [halive])
        simp [halive, hp.2, hq.2] at hnames
  · rintro ⟨p, hone, hp⟩
    simp [hone, hp]

/-- There is no winner just while two living players are not teammates; the winner is nobody just
if no player is alive, a team just if all living players are on it, and a player just if this one,
without a team, is the only one alive. -/
theorem winner_of_last_side (h : c.DistinctNames) :
    (c.winner? = none ↔
      ∃ p ∈ c.alivePlayers, ∃ q ∈ c.alivePlayers, p ≠ q ∧ ¬ p.Teammates q) ∧
    (c.winner? = some .nobody ↔ ∀ p ∈ c.roster, c.isAlive p = false) ∧
    (∀ letter, c.winner? = some (.team letter) ↔
      (∃ p ∈ c.roster, c.isAlive p = true) ∧
        ∀ p ∈ c.roster, c.isAlive p = true → p.team = some letter) ∧
    ∀ name, c.winner? = some (.player name) ↔
      ∃ p, c.alivePlayers = [p] ∧ p.team = none ∧ p.name = name :=
  ⟨winner?_eq_none_iff h, winner?_eq_nobody_iff, fun _ => winner?_eq_team_iff,
    fun _ => winner?_eq_player_iff h⟩

/-- One team of two is left, whose third rival is too small. -/
def crewSpec : String :=
  "[setup]\nminsize:1m, maxsize:10m\n[players]\n\"Ann\"\nteam:A, gender:F, height:2m\n" ++
    "\"Bo\"\nteam:A, gender:M, height:2m\n\"Cy\"\ngender:X, height:0.5m\n"

theorem winner_of_crew :
    ∃ reading, Spec.parse crewSpec = .ok reading ∧ reading.contest.DistinctNames ∧
      reading.contest.remaining = 2 ∧ reading.contest.winner? = some (.team 'A') := by
  obtain ⟨reading, hparse, hreading⟩ :=
    Spec.exists_of_parse crewSpec
      (P := fun reading => (reading.contest.roster.map (·.name)).Nodup ∧
        reading.contest.remaining = 2 ∧
        (∃ p ∈ reading.contest.roster, reading.contest.isAlive p = true) ∧
        ∀ p ∈ reading.contest.roster, reading.contest.isAlive p = true → p.team = some 'A')
      (by decide +kernel)
  obtain ⟨hnames, hremaining, hteam⟩ := of_decide_eq_true hreading
  exact ⟨reading, hparse, hnames, hremaining, ((winner_of_last_side hnames).2.2.1 'A').mpr hteam⟩

end Contest
end Tournament
