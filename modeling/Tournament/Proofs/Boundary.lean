import Tournament.Game.Basic
import Tournament.Proofs.Roster

/-!
# The boundary between two rounds

`Follows` lists what can happen when a round is over and the next one is due, with the guards of
each case and the game that results; `nextRound` is an instance of it (`follows_nextRound`).  In
every case the contest and the arena in use are left alone.
-/

namespace Tournament.Game

open Draw (Source)

variable {σ : Type}

/-- `Follows src g next g'`: at the boundary that `g` stands at, `next` comes next and the game is
then `g'`. -/
inductive Follows (src : Source σ) (g : Game σ) : Except GameError RoundKind → Game σ → Prop where
  | bloodbath (hlast : g.lastRound = none) (hday : g.day = 0) :
      Follows src g (.ok .bloodbath) { g with day := 1, lastRound := some .bloodbath }
  | dayWithoutRound (hlast : g.lastRound = none) (hday : g.day ≠ 0) :
      Follows src g (.error (.inconsistent s!"no previous round on day {g.day}")) g
  | firstDay (hlast : g.lastRound = some .bloodbath) :
      Follows src g (.ok .day) { g with lastRound := some .day }
  | feast {previous : RoundKind} (hlast : g.lastRound = some previous)
      (hprevious : previous ≠ .bloodbath) (hfeast : g.feastDue = true) :
      Follows src g (.ok .feast) { g with feastUsed := true, lastRound := some .feast }
  | arena {previous : RoundKind} (hlast : g.lastRound = some previous)
      (hprevious : previous ≠ .bloodbath) (hfeast : g.feastDue = false)
      (hroll : (g.rollArena src).1 = true) :
      Follows src g (.ok .arena) { (g.rollArena src).2 with lastRound := some .arena }
  | night (hlast : g.lastRound = some .day) (hfeast : g.feastDue = false)
      (hroll : (g.rollArena src).1 = false) :
      Follows src g (.ok .night) { (g.rollArena src).2 with lastRound := some .night }
  | newDay {previous : RoundKind} (hlast : g.lastRound = some previous)
      (hprevious : previous = .night ∨ previous = .arena ∨ previous = .feast)
      (hfeast : g.feastDue = false) (hroll : (g.rollArena src).1 = false) :
      Follows src g (.ok .day)
        { (g.rollArena src).2 with day := g.day + 1, lastRound := some .day }
  /-- The last round was of a deadly kind, which no round is. -/
  | deadly {previous : RoundKind} (hlast : g.lastRound = some previous)
      (hprevious : previous = .fatalDay ∨ previous = .fatalNight)
      (hfeast : g.feastDue = false) (hroll : (g.rollArena src).1 = false) :
      Follows src g
        (.error (.inconsistent s!"no round follows a {previous.name} round")) (g.rollArena src).2

/-- After every round but the bloodbath the feast and the arena come before what the kind of the
last round asks for. -/
private theorem follows_of_lastRound {src : Source σ} {g g' : Game σ} {previous : RoundKind}
    {next : Except GameError RoundKind} (hlast : g.lastRound = some previous)
    (hprevious : previous ≠ .bloodbath)
    (hnext : g.nextRound src =
      if g.feastDue then { g with feastUsed := true }.begin .feast
      else if (g.rollArena src).1 then (g.rollArena src).2.begin .arena
      else (next, g'))
    (hother : g.feastDue = false → (g.rollArena src).1 = false → Follows src g next g') :
    Follows src g (g.nextRound src).1 (g.nextRound src).2 := by
  rw [hnext]
  cases hfeast : g.feastDue with
  | true => exact .feast hlast hprevious hfeast
  | false =>
      cases hroll : (g.rollArena src).1 with
      | true => exact .arena hlast hprevious hfeast hroll
      | false => exact hother hfeast hroll

theorem follows_nextRound (src : Source σ) (g : Game σ) :
    Follows src g (g.nextRound src).1 (g.nextRound src).2 := by
  cases hlast : g.lastRound with
  | none =>
      unfold nextRound
      rw [hlast]
      by_cases hday : g.day = 0
      · rw [if_pos hday]
        exact .bloodbath hlast hday
      · rw [if_neg hday]
        exact .dayWithoutRound hlast hday
  | some previous =>
      cases previous with
      | bloodbath =>
          unfold nextRound
          rw [hlast]
          exact .firstDay hlast
      | day =>
          exact follows_of_lastRound hlast (by decide) (by unfold nextRound; rw [hlast]; rfl)
            (.night hlast)
      | night =>
          exact follows_of_lastRound hlast (by decide) (by unfold nextRound; rw [hlast]; rfl)
            (.newDay hlast (.inl rfl))
      | arena =>
          exact follows_of_lastRound hlast (by decide) (by unfold nextRound; rw [hlast]; rfl)
            (.newDay hlast (.inr (.inl rfl)))
      | feast =>
          exact follows_of_lastRound hlast (by decide) (by unfold nextRound; rw [hlast]; rfl)
            (.newDay hlast (.inr (.inr rfl)))
      | fatalDay =>
          exact follows_of_lastRound hlast (by decide) (by unfold nextRound; rw [hlast])
            (.deadly hlast (.inl rfl))
      | fatalNight =>
          exact follows_of_lastRound hlast (by decide) (by unfold nextRound; rw [hlast])
            (.deadly hlast (.inr rfl))

theorem follows_of_nextRound {src : Source σ} {g g' : Game σ} {next : Except GameError RoundKind}
    (hnext : g.nextRound src = (next, g')) : Follows src g next g' := by
  have hfollows := follows_nextRound src g
  rwa [hnext] at hfollows

theorem Follows.contest_eq {src : Source σ} {g g' : Game σ} {next : Except GameError RoundKind}
    (h : Follows src g next g') : g'.contest = g.contest := by
  cases h <;> rfl

theorem Follows.arena_eq {src : Source σ} {g g' : Game σ} {next : Except GameError RoundKind}
    (h : Follows src g next g') : g'.arena = g.arena := by
  cases h <;> rfl

end Tournament.Game
