/-!
# Log records

What the simulation reports while it works: diagnostics by weight, and the narrative of a game.
-/

namespace Tournament

inductive Channel where
  | debug
  | info
  | warning
  /-- The story of the game: texts of events, arenas and the winner. -/
  | narrative
  deriving DecidableEq, Repr

structure Record where
  channel : Channel
  text : String
  deriving DecidableEq, Repr

end Tournament
