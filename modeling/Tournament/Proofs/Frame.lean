import Tournament.Proofs.Advance
import Tournament.Proofs.Changes

/-!
# What playing leaves alone

A spec fixes the rules, the arenas, the pools and who the players are; playing changes only how the
players fare.  `Persists` states this of a contest and of the contest at any later time, also after
calls that fail.  Within one call only players who were alive when it was made can fare differently
afterwards, and of those only the ones whom the report names, if there is one (`CallFrame`).
-/

namespace Tournament

open Draw (Source)

variable {σ : Type}

/-! ## Players -/

structure Identity where
  name : String
  team : Option Char
  gender : Gender
  picture : Option String
  attributes : List String
  deriving DecidableEq

def Player.identity (p : Player) : Identity where
  name := p.name
  team := p.team
  gender := p.gender
  picture := p.picture
  attributes := p.attributes

/-- `q` is the player `p` at a later time. -/
structure Player.Persists (p q : Player) : Prop where
  identity_eq : q.identity = p.identity
  dead : p.dead = true → q.dead = true

theorem Player.Persists.refl (p : Player) : p.Persists p :=
  ⟨rfl, id⟩

theorem Player.Persists.act {p q : Player} (h : p.Persists q) (x : Change) :
    p.Persists (x.act q) := by
  refine ⟨?_, ?_⟩
  · rw [← h.identity_eq]
    cases x <;> rfl
  · intro hdead
    have hq : q.dead = true := h.dead hdead
    cases x with
    | death => rfl
    | resize | credit | gift | loss => exact hq

/-! ## Contests -/

/-- `d` is the contest `c` at a later time. -/
structure Contest.Persists (c d : Contest) : Prop where
  rules : d.rules = c.rules
  arenas : d.arenas = c.arenas
  pools : d.pools = c.pools
  roster : List.Forall₂ Player.Persists c.roster d.roster

variable {c d : Contest}

theorem Contest.Persists.refl (c : Contest) : c.Persists c :=
  ⟨rfl, rfl, rfl, List.forall₂_same.mpr fun p _ => .refl p⟩

theorem Contest.Persists.applyEffects (h : c.Persists d) (e : Event) (ids : List Nat) :
    c.Persists (d.applyEffects e ids) := by
  have hkeeps : d.Keeps (d.applyEffects e ids) := (actsOn_applyEffects d e ids).toKeeps
  refine ⟨hkeeps.rules.trans h.rules, hkeeps.arenas.trans h.arenas, hkeeps.pools.trans h.pools, ?_⟩
  exact forall₂_applyEffects_right (fun x p q hpq => hpq.act x) h.roster e ids

/-! ## The turns of a round -/

theorem Contest.ActsOn.mono {ids ids' : List Nat} (h : ActsOn ids c d)
    (hids : ∀ i ∈ ids, i ∈ ids') : ActsOn ids' c d := by
  refine ⟨h.toKeeps, ?_⟩
  intro i hi
  exact h.untouched i fun hmem => hi (hids i hmem)

namespace Placing

variable {pool : List Nat} {turns : List Turn} {failure? : Option GameError}

theorem persists {c₀ : Contest} (h : Placing pool c turns failure? d) (h₀ : c₀.Persists c) :
    c₀.Persists d := by
  induction h with
  | finished => exact h₀
  | failed => exact h₀
  | turn t _ _ _ _ ih => exact ih (h₀.applyEffects t.event t.ids)

theorem actsOn_ids (h : Placing pool c turns failure? d) :
    Contest.ActsOn (turns.flatMap Turn.ids) c d := by
  induction h with
  | finished => exact .refl _ _
  | failed => exact .refl _ _
  | @turn pool turns failure? d t _ _ _ _ ih =>
      have hfirst : Contest.ActsOn ((t :: turns).flatMap Turn.ids) t.before t.after :=
        t.actsOn.mono fun i hi => by
          rw [List.flatMap_cons]
          exact List.mem_append_left _ hi
      have hrest : Contest.ActsOn ((t :: turns).flatMap Turn.ids) t.after d :=
        ih.mono fun i hi => by
          rw [List.flatMap_cons]
          exact List.mem_append_right _ hi
      exact hfirst.trans hrest

end Placing

namespace Game

/-! ## Calls -/

/-- Whose state a call on `g` with this result can change, `g'` being the game after it. -/
structure CallFrame (g : Game σ) (result : Except GameError RoundReport) (g' : Game σ) : Prop where
  alive : ∀ (i : Nat) (p q : Player), g.contest.roster[i]? = some p → g'.contest.roster[i]? = some q →
    q ≠ p → g.contest.isAlive p = true
  reported : ∀ report, result = .ok report → ∀ (i : Nat) (p q : Player),
    g.contest.roster[i]? = some p → g'.contest.roster[i]? = some q →
    q ≠ p → ∃ e ∈ report.events, p.name ∈ e.players

variable {src : Source σ} {g g' : Game σ} {turns : List Turn}
  {result : Except GameError RoundReport}

/-- A player who is not among those that something acted on is the same player before and after. -/
theorem mem_of_actsOn {ids : List Nat} (h : Contest.ActsOn ids c d) {i : Nat} {p q : Player}
    (hp : c.roster[i]? = some p) (hq : d.roster[i]? = some q) (hne : q ≠ p) : i ∈ ids := by
  by_contra hi
  have hsame : some q = some p := by rw [← hq, ← hp, h.untouched i hi]
  exact hne (Option.some.inj hsame)

theorem Advances.callFrame (h : Advances src g turns result g') : CallFrame g result g' := by
  have hplacing := h.placing
  refine ⟨?_, ?_⟩
  · intro i p q hp hq hne
    have hi : i ∈ g.contest.aliveIds := mem_of_actsOn hplacing.actsOn hp hq hne
    have halive : g.contest.isAliveAt i = true := Contest.mem_aliveIds.mp hi
    simpa [Contest.isAliveAt, hp] using halive
  · rintro report rfl i p q hp hq hne
    have hi : i ∈ turns.flatMap Turn.ids := mem_of_actsOn hplacing.actsOn_ids hp hq hne
    have hname : g.contest.nameAt? i = some p.name := by rw [Contest.nameAt?, hp]; rfl
    have hplayers : p.name ∈ report.events.flatMap (·.players) := by
      rw [h.report_eq.2.1, hplacing.flatMap_players]
      exact List.mem_filterMap.mpr ⟨i, hi, hname⟩
    exact List.mem_flatMap.mp hplayers

theorem persists_advance {c₀ : Contest} (src : Source σ) (g : Game σ) (h₀ : c₀.Persists g.contest) :
    c₀.Persists (g.advance src).2.contest := by
  obtain ⟨turns, h⟩ := exists_advances src g
  exact h.placing.persists h₀

theorem persists_later (src : Source σ) (g : Game σ) (n : Nat) :
    g.contest.Persists (g.later src n).contest := by
  induction n with
  | zero => exact .refl _
  | succ n ih =>
      rw [later_succ]
      exact persists_advance src _ ih

/-- Whatever calls return, a game on a parsed spec keeps what the spec has fixed and gives nobody
back who is dead, and each call leaves alone who is out and, if it reports a round, who is not named
in the report; the names tell the players apart. -/
theorem frame_of_calls {input : String} {reading : Spec.Reading}
    (hparse : Spec.parse input = .ok reading) (src : Source σ) (seed : String) (dice : σ)
    (n : Nat) :
    reading.contest.DistinctNames ∧
      reading.contest.Persists ((start reading.contest seed dice).later src n).contest ∧
      (∀ k, ((start reading.contest seed dice).later src n).contest.Persists
        ((start reading.contest seed dice).later src (n + k)).contest) ∧
      CallFrame ((start reading.contest seed dice).later src n)
        (((start reading.contest seed dice).later src n).advance src).1
        ((start reading.contest seed dice).later src (n + 1)) := by
  refine ⟨Spec.distinctNames_of_parse hparse, ?_, ?_, ?_⟩
  · exact persists_later src (start reading.contest seed dice) n
  · intro k
    rw [later_add]
    exact persists_later src _ k
  · obtain ⟨turns, h⟩ := exists_advances src ((start reading.contest seed dice).later src n)
    rw [later_succ]
    exact h.callFrame

/-- Two of three players drown in the bloodbath, and the third, whom the report does not name, is as
he was. -/
theorem frame_of_drowning :
    ∃ (reading : Spec.Reading) (report : RoundReport),
      ((start reading.contest "" ()).advance .first).1 = .ok report ∧
      report.events.map (·.players) = [["Bo"], ["Cy"]] ∧
      reading.contest.roster.map (·.name) = ["Ann", "Bo", "Cy"] ∧
      ∀ p q, reading.contest.roster[0]? = some p →
        ((start reading.contest "" ()).later .first 1).contest.roster[0]? = some q → q = p := by
  obtain ⟨reading, hparse, hreading⟩ :=
    Spec.exists_of_parse
      ("[players]\n\"Ann\"\ngender:F, height:1m\n\"Bo\"\ngender:M, height:1m\n" ++
        "\"Cy\"\ngender:M, height:1m\n[bloodbath]\n\"%1% drowns.\"\ntributes:1, elim:1\n")
      (P := fun reading =>
        ((start reading.contest "" ()).advance .first).1.toOption.map
            (fun report => report.events.map (·.players)) = some [["Bo"], ["Cy"]] ∧
          reading.contest.roster.map (·.name) = ["Ann", "Bo", "Cy"])
      (by decide +kernel)
  obtain ⟨hreport, hnames⟩ := of_decide_eq_true hreading
  obtain ⟨-, -, -, hframe⟩ := frame_of_calls hparse .first "" () 0
  cases hresult : ((start reading.contest "" ()).advance .first).1 with
  | error e => simp [hresult, Except.toOption] at hreport
  | ok report =>
      have hplayers : report.events.map (·.players) = [["Bo"], ["Cy"]] := by
        simpa [hresult, Except.toOption] using hreport
      refine ⟨reading, report, hresult, hplayers, hnames, ?_⟩
      intro p q hp hq
      by_contra hne
      obtain ⟨e, he, hmem⟩ := hframe.reported report hresult 0 p q hp hq hne
      have hname : p.name = "Ann" := by
        have hhead : (reading.contest.roster.map (·.name))[0]? = some "Ann" := by rw [hnames]; rfl
        simpa [hp] using hhead
      have hnamed : e.players ∈ [["Bo"], ["Cy"]] := hplayers ▸ List.mem_map_of_mem he
      rcases List.mem_pair.mp hnamed with heq | heq
      · simp [hname, heq] at hmem
      · simp [hname, heq] at hmem

end Game
end Tournament
