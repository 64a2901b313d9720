import Tournament.Length
import Tournament.Number.Natural
import Tournament.Tags

/-!
# Rules

The rules of a contest: whether players out of bounds are out, the bounds themselves, and how
often deadly events and arenas come up. A spec gives them key by key; a later line wins over an
earlier one, and what no line sets has a default.
-/

namespace Tournament

structure RuleChanges where
  autoElimination : Option Bool := none
  deathRate : Option Nat := none
  minSize : Option Length := none
  maxSize : Option Length := none
  arenaFrequency : Option Nat := none
  deriving DecidableEq

structure Rules where
  /-- Whether a player whose height is out of bounds is out of the contest. -/
  autoElimination : Bool
  /-- One in so many events of a day or night is deadly. -/
  deathRate : Nat
  minSize : Length
  maxSize : Length
  /-- One in so many rounds is played in an arena. -/
  arenaFrequency : Nat
  deriving DecidableEq

def RuleChanges.schema : Schema where
  entity := "Setup"
  keys := [("autoelim", .one), ("deathrate", .one), ("maxsize", .one), ("minsize", .one),
    ("arenafreq", .one)]

def readSwitch (s : String) : Option Bool :=
  match String.ofList (Text.lowerAscii s.toList) with
  | "true" => some true
  | "yes" => some true
  | "on" => some true
  | "1" => some true
  | "false" => some false
  | "no" => some false
  | "off" => some false
  | "0" => some false
  | _ => none

namespace RuleChanges

/-- The value of a key, read by `f`; nothing where the key is unset. -/
def setting {α : Type} (t : Tags) (key : String) (f : String → Except SpecError α) :
    Except SpecError (Option α) :=
  match t.one? key with
  | none => .ok none
  | some value => (f value).map some

def parseSwitch (s : String) : Except SpecError Bool :=
  match readSwitch s with
  | some b => .ok b
  | none => .error (.invalidValue "autoelim" s "expected true or false")

def parseRate (key s : String) : Except SpecError Nat :=
  match Number.readPositive32 s with
  | some n => .ok n
  | none => .error (.invalidValue key s "expected a positive integer")

def ofTags (t : Tags) : Except SpecError RuleChanges := do
  let autoElimination ← setting t "autoelim" parseSwitch
  let deathRate ← setting t "deathrate" (parseRate "deathrate")
  let minSize ← setting t "minsize" Length.parse
  let maxSize ← setting t "maxsize" Length.parse
  let arenaFrequency ← setting t "arenafreq" (parseRate "arenafreq")
  return { autoElimination, deathRate, minSize, maxSize, arenaFrequency }

def parse (s : String) : Except SpecError RuleChanges := do
  let t ← Tags.read schema s
  ofTags t

def remarks (s : String) : List Record :=
  Tags.remarks schema s

def merge (earlier later : RuleChanges) : RuleChanges where
  autoElimination := later.autoElimination.or earlier.autoElimination
  deathRate := later.deathRate.or earlier.deathRate
  minSize := later.minSize.or earlier.minSize
  maxSize := later.maxSize.or earlier.maxSize
  arenaFrequency := later.arenaFrequency.or earlier.arenaFrequency

end RuleChanges

namespace Rules

/-- The rules where a spec sets none: bounds of one millimetre and four miles. -/
def standard : Rules where
  autoElimination := true
  deathRate := 10
  minSize := ⟨LengthUnit.millimetre.metres⟩
  maxSize := ⟨4.0 * LengthUnit.mile.metres⟩
  arenaFrequency := 10

/-- The rules with the changes made. The lower bound must stay below the upper one. -/
def ofChanges (c : RuleChanges) : Except SpecError Rules :=
  let minSize := c.minSize.getD standard.minSize
  let maxSize := c.maxSize.getD standard.maxSize
  if minSize.metres ≥ maxSize.metres then
    .error (.invalidValue "minsize" minSize.text s!"must be below maxsize {maxSize.text}")
  else
    .ok {
      autoElimination := c.autoElimination.getD standard.autoElimination
      deathRate := c.deathRate.getD standard.deathRate
      minSize
      maxSize
      arenaFrequency := c.arenaFrequency.getD standard.arenaFrequency }

def inBounds (r : Rules) (height : Length) : Bool :=
  height.metres > r.minSize.metres && height.metres < r.maxSize.metres

end Rules

end Tournament
