import Tournament.Event
import Tournament.RoundKind
import Tournament.Rules

/-!
# Contests

Everything a spec defines: rules, players, arenas and pools of events. A player is alive who is
not dead and, under automatic elimination, is within the bounds. The contest is decided once fewer
than two sides have a living player, a side being a team or a player without one.
-/

namespace Tournament

/-- A place with events of its own, which for one round take the place of the pools. -/
structure Arena where
  name : String
  description : String
  events : List Event := []
  deriving DecidableEq

/-- The events of each kind of round but the arena rounds, whose events belong to the arenas. -/
structure Pools where
  bloodbath : List Event := []
  day : List Event := []
  night : List Event := []
  fatalDay : List Event := []
  fatalNight : List Event := []
  feast : List Event := []
  deriving DecidableEq

def Pools.of (p : Pools) : RoundKind → List Event
  | .bloodbath => p.bloodbath
  | .day => p.day
  | .night => p.night
  | .fatalDay => p.fatalDay
  | .fatalNight => p.fatalNight
  | .feast => p.feast
  | .arena => []

/-- The pools with one more event of a kind, after those there are. -/
def Pools.add (p : Pools) (kind : RoundKind) (e : Event) : Pools :=
  match kind with
  | .bloodbath => { p with bloodbath := p.bloodbath ++ [e] }
  | .day => { p with day := p.day ++ [e] }
  | .night => { p with night := p.night ++ [e] }
  | .fatalDay => { p with fatalDay := p.fatalDay ++ [e] }
  | .fatalNight => { p with fatalNight := p.fatalNight ++ [e] }
  | .feast => { p with feast := p.feast ++ [e] }
  | .arena => p

theorem Pools.of_add (p : Pools) (kind : RoundKind) (e : Event) (other : RoundKind) :
    (p.add kind e).of other =
      if other = kind ∧ other ≠ .arena then p.of other ++ [e] else p.of other := by
  cases kind <;> cases other <;> rfl

inductive Winner where
  | team (letter : Char)
  | player (name : String)
  | nobody
  deriving DecidableEq, Repr

def Winner.text : Winner → String
  | .team letter => s!"Team {letter}"
  | .player name => name
  | .nobody => "Nobody"

inductive Side where
  | team (letter : Char)
  | solo (name : String)
  deriving DecidableEq, Repr

def Side.asWinner : Side → Winner
  | .team letter => .team letter
  | .solo name => .player name

def Player.side (p : Player) : Side :=
  match p.team with
  | some letter => .team letter
  | none => .solo p.name

/-- Everything a spec defines. Players are known by their place in the roster, from 0. -/
structure Contest where
  rules : Rules
  roster : List Player
  arenas : List Arena
  pools : Pools
  deriving DecidableEq

namespace Contest

def isAlive (c : Contest) (p : Player) : Bool :=
  !p.dead && (!c.rules.autoElimination || c.rules.inBounds p.height)

def alivePlayers (c : Contest) : List Player :=
  c.roster.filter c.isAlive

def deadPlayers (c : Contest) : List Player :=
  c.roster.filter fun p => !c.isAlive p

def remaining (c : Contest) : Nat :=
  c.alivePlayers.length

def isAliveAt (c : Contest) (i : Nat) : Bool :=
  (c.roster[i]?).any c.isAlive

def aliveIds (c : Contest) : List Nat :=
  (List.range c.roster.length).filter c.isAliveAt

/-- Puts a letter into its place in a rising list, unless it is there already. -/
def insertLetter (c : Char) : List Char → List Char
  | [] => [c]
  | d :: ds => if c < d then c :: d :: ds else if c = d then d :: ds else d :: insertLetter c ds

def aliveTeams (c : Contest) : List Char :=
  (c.alivePlayers.filterMap Player.team).foldr insertLetter []

def idOf? (c : Contest) (name : String) : Option Nat :=
  c.roster.findIdx? fun p => p.name = name

def modify (c : Contest) (i : Nat) (f : Player → Player) : Contest :=
  { c with roster := c.roster.modify i f }

/-- The winner: nobody without a living player, the last side if all living players are on it,
and none yet otherwise. -/
def winner? (c : Contest) : Option Winner :=
  match c.alivePlayers.map Player.side with
  | [] => some .nobody
  | side :: others => if others.all (· = side) then some side.asWinner else none

def isOver (c : Contest) : Bool :=
  c.winner?.isSome

def currentPlayers (c : Contest) : String :=
  "\n".intercalate (c.alivePlayers.map Player.text)

def indented (depth : Nat) (text : String) : String :=
  String.ofList (List.replicate (2 * depth) ' ') ++ text ++ "\n"

def description (c : Contest) : String :=
  let r := c.rules
  s!"Autoelim: {r.autoElimination}, Death Rate: {r.deathRate}, " ++
    s!"Arena Frequency: {r.arenaFrequency}, Max Size: {r.maxSize.text}, " ++
    s!"Min Size: {r.minSize.text}\n" ++
    "Players:\n" ++ String.join (c.roster.map fun p => indented 1 p.text) ++
    "Arenas:\n" ++ String.join (c.arenas.map fun a =>
      indented 1 s!"{a.name}: {a.description}" ++
        String.join (a.events.map fun e => indented 2 e.description)) ++
    "Events:\n" ++ String.join (RoundKind.pooled.map fun k =>
      indented 1 s!"{k.title}:" ++
        String.join ((c.pools.of k).map fun e => indented 2 e.description))

end Contest

end Tournament
