import Tournament.Casting
import Tournament.Effects
import Tournament.GameError
import Tournament.Report

/-!
# The state of a game

A game is a contest being played: the contest as it stands, a source of draws, the day, the last
round and the arena in use. What it tells is kept in its chronicle.
-/

namespace Tournament

open Draw (Source)

/-- A game, with draws from a source whose states are of type `σ`. -/
structure Game (σ : Type) where
  contest : Contest
  seed : String
  dice : σ
  day : UInt32 := 0
  lastRound : Option RoundKind := none
  arena : Option Nat := none
  feastUsed : Bool := false
  entrants : Nat
  chronicle : Array Record := #[]

namespace Game

variable {σ : Type}

def start (contest : Contest) (seed : String) (dice : σ) : Game σ where
  contest
  seed
  dice
  entrants := contest.roster.length
  chronicle := #[⟨.narrative, s!"seed = {seed}"⟩]

def tell (g : Game σ) (channel : Channel) (text : String) : Game σ :=
  { g with chronicle := g.chronicle.push ⟨channel, text⟩ }

def tellAll (g : Game σ) (records : List Record) : Game σ :=
  { g with chronicle := g.chronicle ++ records }

def currentArena? (g : Game σ) : Option Arena :=
  g.arena.bind (g.contest.arenas[·]?)

/-- Whether the feast is held now: once, when half of the players or more are out. -/
def feastDue (g : Game σ) : Bool :=
  !g.feastUsed && !g.contest.pools.feast.isEmpty && g.contest.remaining * 2 ≤ g.entrants

/-- Rolls for an arena round. The roll is made even where there are no arenas. -/
def rollArena (src : Source σ) (g : Game σ) : Bool × Game σ :=
  let (roll, dice) := src.roll g.contest.rules.arenaFrequency g.dice
  (roll == 1 && !g.contest.arenas.isEmpty, { g with dice })

def begin (g : Game σ) (kind : RoundKind) : Except GameError RoundKind × Game σ :=
  (.ok kind, { g with lastRound := some kind })

/-- The kind of the next round: the bloodbath opens the game and the first day follows. From then
on the feast comes when it is due; else the roll decides about an arena; else night follows day,
and a new day follows anything else. -/
def nextRound (src : Source σ) (g : Game σ) : Except GameError RoundKind × Game σ :=
  match g.lastRound with
  | none =>
    if g.day = 0 then { g with day := 1 }.begin .bloodbath
    else (.error (.inconsistent s!"no previous round on day {g.day}"), g)
  | some .bloodbath => g.begin .day
  | some previous =>
    if g.feastDue then { g with feastUsed := true }.begin .feast
    else
      let (hit, g) := g.rollArena src
      if hit then g.begin .arena
      else
        match previous with
        | .day => g.begin .night
        | .night => { g with day := g.day + 1 }.begin .day
        | .arena => { g with day := g.day + 1 }.begin .day
        | .feast => { g with day := g.day + 1 }.begin .day
        | other => (.error (.inconsistent s!"no round follows a {other.name} round"), g)

/-- Picks the arena of an arena round, unless one is in use. -/
def enterArena (src : Source σ) (round : RoundKind) (g : Game σ) : Game σ :=
  if round = .arena ∧ g.arena.isNone then
    if h : 0 < g.contest.arenas.length then
      let (i, dice) := src.index g.contest.arenas.length h g.dice
      { g with dice, arena := some i.val }
    else g
  else g

def leaveArena (round : RoundKind) (g : Game σ) : Game σ :=
  if round = .arena then { g with arena := none } else g

def announce (round : RoundKind) (g : Game σ) : Game σ :=
  let g := g.tell .info s!"Day {g.day}: {round.title} round ({g.contest.remaining} alive)"
  match g.currentArena? with
  | none => g
  | some arena => g.tell .narrative arena.description

def proclaim (g : Game σ) : Game σ :=
  match g.contest.winner? with
  | none => g
  | some winner => g.tell .narrative s!"The winner is {winner.text}!"

end Game

end Tournament
