import Tournament.Number.Natural
import Tournament.Player

/-!
# Requirements

What a slot of an event demands of the player who fills it. A requirement is written as clauses
with `&` between them, and is to be met as a whole; but the record that they are read into has one
place for a bound of a kind, and of two such bounds only the later is checked.
-/

namespace Tournament

/-- The demands of a slot. What is not set demands nothing. -/
structure Requirement where
  shorterThan : Option Length := none
  tallerThan : Option Length := none
  fewerEliminationsThan : Option Nat := none
  moreEliminationsThan : Option Nat := none
  eliminations : Option Nat := none
  /-- An abstract team: slots with one letter are filled from one team, slots with different
  letters from different teams. -/
  team : Option Char := none
  /-- The genders that are admitted; none stands for all. -/
  genders : List Gender := []
  items : List String := []
  attributes : List String := []
  deriving DecidableEq

namespace Requirement

/-- The genders of a list of letters, added to those already admitted. -/
def readGenders (letters : String) : List Gender → List Char → Except SpecError (List Gender)
  | admitted, [] => .ok admitted
  | admitted, c :: rest =>
    match Gender.ofLetter? c with
    | none => .error (.invalidValue "gender" letters "expected M, F or X")
    | some g => readGenders letters (if g ∈ admitted then admitted else admitted ++ [g]) rest

/-- Adds a bound on the eliminations: `<`, `>` or `=` and a number. -/
def addEliminations (r : Requirement) (bound : List Char) : Except SpecError Requirement :=
  let invalid := SpecError.invalidValue "elims" (String.ofList bound) "expected <N, >N or =N"
  match bound with
  | [] => .error invalid
  | sign :: number =>
    match Number.readNatural UInt32.size number with
    | none => .error invalid
    | some n =>
      match sign with
      | '<' => .ok { r with fewerEliminationsThan := some n }
      | '>' => .ok { r with moreEliminationsThan := some n }
      | '=' => .ok { r with eliminations := some n }
      | _ => .error invalid

/-- Adds a clause of the form `:body`, `clause` being its whole text: a team letter, or a kind
and a value with a colon between them. -/
def addTagged (r : Requirement) (clause body : List Char) : Except SpecError Requirement :=
  let unknown := SpecError.malformed (.clause (String.ofList clause))
  match Text.cut ':' body with
  | none => (Player.parseTeam (String.ofList body)).map fun c => { r with team := some c }
  | some (kind, value) =>
    match String.ofList kind with
    | "g" =>
      if value = [] then .error unknown
      else (readGenders (String.ofList value) r.genders value).map fun gs => { r with genders := gs }
    | "inv" =>
      if value = [] then .error unknown
      else .ok { r with items := r.items ++ [String.ofList value] }
    | "attr" =>
      if value = [] then .error unknown
      else .ok { r with attributes := r.attributes ++ [String.ofList value] }
    | "e" => addEliminations r value
    | _ => .error unknown

def addClause (r : Requirement) (clause : List Char) : Except SpecError Requirement :=
  match clause with
  | [] => .ok r
  | '<' :: height =>
    (Length.parse (String.ofList height)).map fun l => { r with shorterThan := some l }
  | '>' :: height =>
    (Length.parse (String.ofList height)).map fun l => { r with tallerThan := some l }
  | ':' :: body => r.addTagged clause body
  | _ => .error (.malformed (.clause (String.ofList clause)))

def addClauses : Requirement → List (List Char) → Except SpecError Requirement
  | r, [] => .ok r
  | r, clause :: rest =>
    match r.addClause clause with
    | .error e => .error e
    | .ok r => r.addClauses rest

def parse (suffix : List Char) : Except SpecError Requirement :=
  ({} : Requirement).addClauses (Text.splitBy (· = '&') suffix)

/-- The check that a player has to pass, the abstract team standing for `team`, if for any. -/
def admits (r : Requirement) (team : Option Char) (p : Player) : Bool :=
  (r.shorterThan.all fun l => !(p.height.metres ≥ l.metres)) &&
  (r.tallerThan.all fun l => !(p.height.metres ≤ l.metres)) &&
  (r.fewerEliminationsThan.all fun n => p.eliminations.toNat < n) &&
  (r.moreEliminationsThan.all fun n => n < p.eliminations.toNat) &&
  (r.eliminations.all fun n => p.eliminations.toNat = n) &&
  (r.genders.isEmpty || r.genders.contains p.gender) &&
  r.items.all p.holds &&
  r.attributes.all p.hasAttribute &&
  (team.isNone || p.team = team)

end Requirement

end Tournament
