/-!
# Genders and pronouns
-/

namespace Tournament

/-- The gender of a player, by which the player is spoken of. -/
inductive Gender where
  | male
  | female
  | nonbinary
  deriving DecidableEq, Repr

namespace Gender

def ofLetter? : Char → Option Gender
  | 'M' => some .male
  | 'F' => some .female
  | 'X' => some .nonbinary
  | _ => none

def letter : Gender → Char
  | .male => 'M'
  | .female => 'F'
  | .nonbinary => 'X'

inductive Case where
  | subject
  | object
  | possessive
  | independent
  | reflexive
  deriving DecidableEq, Repr

def pronoun : Gender → Case → String
  | .male, .subject => "he"
  | .male, .object => "him"
  | .male, .possessive => "his"
  | .male, .independent => "his"
  | .male, .reflexive => "himself"
  | .female, .subject => "she"
  | .female, .object => "her"
  | .female, .possessive => "her"
  | .female, .independent => "hers"
  | .female, .reflexive => "herself"
  | .nonbinary, .subject => "they"
  | .nonbinary, .object => "them"
  | .nonbinary, .possessive => "their"
  | .nonbinary, .independent => "theirs"
  | .nonbinary, .reflexive => "themself"

end Gender

end Tournament
