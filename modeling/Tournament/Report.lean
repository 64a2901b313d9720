import Tournament.Contest

/-!
# Reports

What one round brought: its events, who took part in them and who went out, and the winner if the
contest was decided.
-/

namespace Tournament

structure EventReport where
  kind : RoundKind
  text : String
  /-- The names of those who took part, in slot order. -/
  players : List String
  /-- The names of those who were out after the event. -/
  eliminated : List String
  deriving DecidableEq, Repr

structure RoundReport where
  day : UInt32
  round : RoundKind
  arena : Option String
  events : List EventReport
  winner : Option Winner
  deriving DecidableEq, Repr

def RoundReport.heading (r : RoundReport) : String :=
  match r.round, r.arena with
  | .arena, some name => s!"Day {r.day}: {r.round.title} ({name})"
  | _, _ => s!"Day {r.day}: {r.round.title}"

end Tournament
