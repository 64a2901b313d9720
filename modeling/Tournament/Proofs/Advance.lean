import Tournament.Proofs.Boundary
import Tournament.Proofs.Draft
import Tournament.Proofs.Placing

/-!
# Calls of `advance`

`Advances` lists what one call can do, from the check that the contest is still open to the report;
`advance` is an instance of it (`exists_advances`).  Whatever it returns, a call places some of the
living players (`Advances.placing`).  `later` is the game after a number of calls, failed ones
included, and the `Reachable` games are those that calls lead to from a game on a parsed spec.
-/

namespace Tournament

open Draw (Source)

variable {σ : Type}

namespace Game

/-- The game when the events of a round begin: the arena is entered and the round announced. -/
def opening (src : Source σ) (round : RoundKind) (g : Game σ) : Game σ :=
  (g.enterArena src round).announce round

/-- The game when a round is over: the arena is left and the winner proclaimed. -/
def closing (round : RoundKind) (g : Game σ) : Game σ :=
  (g.leaveArena round).proclaim

/-- The report of a round that began at `opened`, took `turns` and ended at `closed`. -/
def roundReport (round : RoundKind) (opened closed : Game σ) (turns : List Turn) : RoundReport where
  day := closed.day
  round := round
  arena := opened.currentArena?.map (·.name)
  events := turns.map Turn.report
  winner := closed.contest.winner?

/-- `Advances src g turns result g'`: a call of `advance` on `g` plays `turns`, returns `result`
and leaves `g'` behind. -/
inductive Advances (src : Source σ) (g : Game σ) :
    List Turn → Except GameError RoundReport → Game σ → Prop where
  | decided (hover : g.contest.isOver = true) : Advances src g [] (.error .over) g
  | noRound {g₁ : Game σ} {e : GameError} (hopen : g.contest.isOver = false)
      (hnext : g.nextRound src = (.error e, g₁)) : Advances src g [] (.error e) g₁
  /-- The round has no events to draw from. -/
  | noDeck {g₁ : Game σ} {round : RoundKind} {e : GameError} (hopen : g.contest.isOver = false)
      (hnext : g.nextRound src = (.ok round, g₁))
      (hdeck : (g₁.opening src round).deck round = .error e) :
      Advances src g [] (.error e) (g₁.opening src round)
  | broken {g₁ g₂ : Game σ} {round : RoundKind} {deck : Deck} {turns : List Turn} {e : GameError}
      (hopen : g.contest.isOver = false) (hnext : g.nextRound src = (.ok round, g₁))
      (hdeck : (g₁.opening src round).deck round = .ok deck)
      (hplays : Plays src round deck g.contest.aliveIds (g₁.opening src round) turns (some e) g₂) :
      Advances src g turns (.error e) g₂
  | finished {g₁ g₂ : Game σ} {round : RoundKind} {deck : Deck} {turns : List Turn}
      (hopen : g.contest.isOver = false) (hnext : g.nextRound src = (.ok round, g₁))
      (hdeck : (g₁.opening src round).deck round = .ok deck)
      (hplays : Plays src round deck g.contest.aliveIds (g₁.opening src round) turns none g₂) :
      Advances src g turns (.ok (roundReport round (g₁.opening src round) g₂ turns))
        (g₂.closing round)

/-! ## The stages of a call -/

theorem opening_contest (src : Source σ) (round : RoundKind) (g : Game σ) :
    (g.opening src round).contest = g.contest := by
  unfold opening announce enterArena
  dsimp only
  split_ifs <;> split <;> rfl

theorem opening_standing (src : Source σ) (round : RoundKind) (g : Game σ) :
    (g.opening src round).standing =
      { g.standing with arena := (g.enterArena src round).arena } := by
  unfold opening announce enterArena
  dsimp only
  split_ifs <;> split <;> rfl

theorem opening_currentArena? (src : Source σ) (round : RoundKind) (g : Game σ) :
    (g.opening src round).currentArena? = (g.enterArena src round).currentArena? := by
  unfold opening announce
  dsimp only
  split <;> rfl

theorem closing_contest (round : RoundKind) (g : Game σ) :
    (g.closing round).contest = g.contest := by
  unfold closing proclaim leaveArena
  split_ifs <;> split <;> rfl

theorem closing_standing (round : RoundKind) (g : Game σ) :
    (g.closing round).standing =
      { g.standing with arena := if round = .arena then none else g.arena } := by
  unfold closing proclaim leaveArena
  split_ifs <;> split <;> rfl

theorem closing_day (round : RoundKind) (g : Game σ) : (g.closing round).day = g.day :=
  congrArg Standing.day (closing_standing round g)

theorem opening_contest_of_nextRound {src : Source σ} {g g₁ : Game σ} {round : RoundKind}
    (hnext : g.nextRound src = (.ok round, g₁)) :
    (g₁.opening src round).contest = g.contest := by
  rw [opening_contest, (follows_of_nextRound hnext).contest_eq]

theorem exists_advances (src : Source σ) (g : Game σ) :
    ∃ turns, Advances src g turns (g.advance src).1 (g.advance src).2 := by
  unfold advance
  cases hover : g.contest.isOver with
  | true => exact ⟨[], .decided hover⟩
  | false =>
      rw [if_neg Bool.false_ne_true]
      cases hnext : g.nextRound src with
      | mk next g₁ =>
      cases next with
      | error e => exact ⟨[], .noRound hover hnext⟩
      | ok round =>
      have hcontest : (g₁.opening src round).contest = g.contest :=
        opening_contest_of_nextRound hnext
      dsimp only
      rw [← opening, ← opening_currentArena?, hcontest]
      cases hdeck : (g₁.opening src round).deck round with
      | error e => exact ⟨[], .noDeck hover hnext hdeck⟩
      | ok deck =>
      obtain ⟨turns, failure?, hout, hplays⟩ :=
        exists_plays src round deck g.contest.aliveIds (g₁.opening src round)
      dsimp only
      refine ⟨turns, ?_⟩
      cases hround : playEvents src round deck g.contest.aliveIds (g₁.opening src round) with
      | mk result g₂ =>
      rw [hround] at hout hplays
      cases failure? with
      | some e =>
          cases hout
          exact .broken hover hnext hdeck hplays
      | none =>
          cases hout
          dsimp only
          rw [← closing, closing_day, closing_contest]
          exact .finished hover hnext hdeck hplays

/-! ## What a call does to the contest -/

def failure? : Except GameError RoundReport → Option GameError
  | .ok _ => none
  | .error e => some e

theorem Advances.placing {src : Source σ} {g g' : Game σ} {turns : List Turn}
    {result : Except GameError RoundReport} (h : Advances src g turns result g') :
    Placing g.contest.aliveIds g.contest turns (failure? result) g'.contest := by
  cases h with
  | decided => exact .failed _ _ _
  | noRound hopen hnext =>
      rw [(follows_of_nextRound hnext).contest_eq]
      exact .failed _ _ _
  | noDeck hopen hnext hdeck =>
      rw [opening_contest_of_nextRound hnext]
      exact .failed _ _ _
  | broken hopen hnext hdeck hplays =>
      have hplacing := hplays.placing g.contest.nodup_aliveIds
      rwa [opening_contest_of_nextRound hnext] at hplacing
  | finished hopen hnext hdeck hplays =>
      have hplacing := hplays.placing g.contest.nodup_aliveIds
      rw [opening_contest_of_nextRound hnext] at hplacing
      rw [closing_contest]
      exact hplacing

theorem Advances.fits {src : Source σ} {g g' : Game σ} {turns : List Turn}
    {result : Except GameError RoundReport} (h : Advances src g turns result g') :
    ∀ t ∈ turns, t.Fits := by
  cases h with
  | decided | noRound | noDeck => simp
  | broken _ _ _ hplays | finished _ _ _ hplays => exact hplays.fits

/-- A call that returns a report is made on an open contest, and the report is that of its turns
and of the contest it leaves. -/
theorem Advances.report_eq {src : Source σ} {g g' : Game σ} {turns : List Turn}
    {report : RoundReport} (h : Advances src g turns (.ok report) g') :
    g.contest.isOver = false ∧ report.events = turns.map Turn.report ∧
      report.winner = g'.contest.winner? := by
  cases h with
  | finished hopen => exact ⟨hopen, rfl, by rw [closing_contest]; rfl⟩

theorem keeps_advance (src : Source σ) (g : Game σ) :
    g.contest.Keeps (g.advance src).2.contest := by
  obtain ⟨turns, h⟩ := exists_advances src g
  exact h.placing.actsOn.toKeeps

/-! ## Any number of calls -/

/-- The game after `n` calls, whatever they return. -/
def later (src : Source σ) : Nat → Game σ → Game σ
  | 0, g => g
  | n + 1, g => (g.advance src).2.later src n

theorem later_succ (src : Source σ) (n : Nat) (g : Game σ) :
    g.later src (n + 1) = ((g.later src n).advance src).2 := by
  induction n generalizing g with
  | zero => rfl
  | succ n ih => exact ih (g.advance src).2

theorem later_add (src : Source σ) (m n : Nat) (g : Game σ) :
    g.later src (m + n) = (g.later src m).later src n := by
  induction m generalizing g with
  | zero => rw [Nat.zero_add]; rfl
  | succ m ih => rw [Nat.succ_add]; exact ih _

/-! ## Games on a parsed spec -/

/-- The games that calls lead to from the start of a game on a parsed spec, whatever the seed and
whatever the calls return. -/
inductive Reachable (src : Source σ) : Game σ → Prop where
  | start {input : String} {reading : Spec.Reading} (hparse : Spec.parse input = .ok reading)
      (seed : String) (dice : σ) : Reachable src (start reading.contest seed dice)
  | advance {g : Game σ} (hg : Reachable src g) : Reachable src (g.advance src).2

theorem Reachable.distinctNames {src : Source σ} {g : Game σ} (hg : Reachable src g) :
    g.contest.DistinctNames := by
  induction hg with
  | start hparse => exact Spec.distinctNames_of_parse hparse
  | advance _ ih => exact (keeps_advance src _).distinctNames ih

end Game

/-- The source that answers every request with the first choice. -/
def Draw.Source.first : Source Unit where
  below _ _ _ := (0, ())
  weighted _ _ := (0, ())
  below_lt _ _ _ h := h
  weighted_lt _ _ h := List.length_pos_iff.mpr h

theorem Game.exists_of_advance (src : Source σ) (input seed : String) (dice : σ) (n : Nat)
    (P : RoundReport → Bool)
    (h : ((Spec.readChars (Text.chars input)).toOption.any fun reading =>
      (((start reading.contest seed dice).later src n).advance src).1.toOption.any P) = true) :
    ∃ reading report g', Spec.parse input = .ok reading ∧
      ((start reading.contest seed dice).later src n).advance src = (.ok report, g') ∧
      P report = true := by
  obtain ⟨reading, hparse, hreport⟩ := Spec.exists_of_parse input h
  cases hadvance : ((start reading.contest seed dice).later src n).advance src with
  | mk result g' =>
  cases result with
  | error e => simp [hadvance, Except.toOption] at hreport
  | ok report =>
      exact ⟨reading, report, g', hparse, hadvance,
        by simpa [hadvance, Except.toOption] using hreport⟩

end Tournament
