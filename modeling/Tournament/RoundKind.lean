/-!
# Kinds of rounds
-/

namespace Tournament

/-- The kind of a round, and of the events played in it. The two deadly kinds are kinds of events
only: single events of a day or a night are drawn from them. -/
inductive RoundKind where
  | bloodbath
  | day
  | night
  | fatalDay
  | fatalNight
  | arena
  | feast
  deriving DecidableEq, Repr

namespace RoundKind

def pooled : List RoundKind :=
  [.bloodbath, .day, .night, .fatalDay, .fatalNight, .feast]

/-- The name of a kind, which also heads its section of a spec. -/
def name : RoundKind → String
  | .bloodbath => "bloodbath"
  | .day => "day"
  | .night => "night"
  | .fatalDay => "fatalday"
  | .fatalNight => "fatalnight"
  | .arena => "arena"
  | .feast => "feast"

def title : RoundKind → String
  | .bloodbath => "Bloodbath"
  | .day => "Day"
  | .night => "Night"
  | .fatalDay => "Fatal Day"
  | .fatalNight => "Fatal Night"
  | .arena => "Arena"
  | .feast => "Feast"

def ofPoolName? (s : String) : Option RoundKind :=
  pooled.find? fun k => k.name = s

def fatal? : RoundKind → Option RoundKind
  | .day => some .fatalDay
  | .night => some .fatalNight
  | _ => none

end RoundKind

end Tournament
