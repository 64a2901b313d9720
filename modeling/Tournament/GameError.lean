import Tournament.RoundKind

/-!
# Why a game cannot go on
-/

namespace Tournament

/-- Why a round is not played to its end. -/
inductive GameError where
  /-- No event of the round is left that finds players. -/
  | outOfEvents (round : RoundKind) (unplaced : Nat)
  | inconsistent (detail : String)
  | over
  /-- The rarities of the events left have no finite sum, so that none can be drawn. -/
  | unbounded
  /-- What a player is credited with makes the count of eliminations too large. -/
  | overflow
  deriving DecidableEq, Repr

/-- Whether an error is a fault of the engine and not of the spec. -/
def GameError.isEngineBug : GameError → Bool
  | .inconsistent _ => true
  | _ => false

/-- Whether an error ends the program and is not returned to anyone. -/
def GameError.endsProgram : GameError → Bool
  | .unbounded | .overflow => true
  | _ => false

def GameError.message : GameError → String
  | .outOfEvents round unplaced =>
    s!"Out of events for a {round.name} round with {unplaced} player(s) left to place."
  | .inconsistent detail => s!"Internal invariant violated: {detail}"
  | .over => "The game is already over."
  | .unbounded => "The weights have no finite sum"
  | .overflow => "attempt to add with overflow"

end Tournament
