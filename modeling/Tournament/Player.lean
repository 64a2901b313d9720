import Tournament.Address
import Tournament.Gender
import Tournament.Resize
import Tournament.Tags

/-!
# Players
-/

namespace Tournament

/-- A contestant. After the spec is read only the effects of events change a player. -/
structure Player where
  name : String
  /-- The letter of the team, if the player belongs to one. -/
  team : Option Char
  gender : Gender
  height : Length
  picture : Option String
  /-- The items held, in the order in which they came. -/
  items : List String
  attributes : List String
  /-- The number of eliminations that count for the player. -/
  eliminations : UInt32
  dead : Bool
  deriving DecidableEq

namespace Player

def schema : Schema where
  entity := "Player"
  keys := [("team", .one), ("gender", .one), ("height", .one), ("url", .one), ("attr", .words),
    ("inv", .words)]

def parseTeam (s : String) : Except SpecError Char :=
  match s.toList with
  | [c] => if c.isUpper then .ok c else .error (.invalidValue "team" s "expected one letter A-Z")
  | _ => .error (.invalidValue "team" s "expected one letter A-Z")

def parseGender (s : String) : Except SpecError Gender :=
  let gender? :=
    match s.toList with
    | [c] => Gender.ofLetter? c
    | _ => none
  match gender? with
  | some g => .ok g
  | none => .error (.invalidValue "gender" s "expected M, F or X")

/-- Reads the address of a picture; it must be a valid absolute one. -/
def parsePicture (s : String) : Except SpecError String :=
  if Address.isValid s then .ok s else .error (.invalidAddress s)

def optional {α : Type} (value : Option String) (f : String → Except SpecError α) :
    Except SpecError (Option α) :=
  match value with
  | none => .ok none
  | some s => (f s).map some

def required {α : Type} (value : Option String) (missing : Malformed)
    (f : String → Except SpecError α) : Except SpecError α :=
  match value with
  | none => .error (.malformed missing)
  | some s => f s

def ofTags (name : String) (t : Tags) : Except SpecError Player := do
  let team ← optional (t.one? "team") parseTeam
  let gender ← required (t.one? "gender") (.noGender name) parseGender
  let height ← required (t.one? "height") (.noHeight name) Length.parse
  let picture ← optional (t.one? "url") parsePicture
  return {
    name, team, gender, height, picture
    items := t.words "inv"
    attributes := t.words "attr"
    eliminations := 0
    dead := false }

def parse (name metadata : String) : Except SpecError Player :=
  match Text.trim name.toList with
  | [] => .error (.malformed .namelessPlayer)
  | cs => do
    let t ← Tags.read schema metadata
    ofTags (String.ofList cs) t

def remarks (name metadata : String) : List Record :=
  if Text.trim name.toList = [] then [] else Tags.remarks schema metadata

def give (p : Player) (item : String) : Player :=
  { p with items := p.items ++ [item] }

def holds (p : Player) (item : String) : Bool :=
  p.items.contains item

def take (p : Player) (item : String) : Player :=
  { p with items := p.items.erase item }

def hasAttribute (p : Player) (name : String) : Bool :=
  p.attributes.contains name

def resize (p : Player) (r : Resize) : Player :=
  { p with height := r.apply p.height }

def text (p : Player) : String :=
  let team := (p.team.map toString).getD "None"
  let items := if p.items = [] then "Empty" else ", ".intercalate p.items
  let state := if p.dead then "Dead." else "Alive."
  s!"**{p.name}**: Team {team}, Gender {p.gender.letter}, Height {p.height.text}, " ++
    s!"Eliminations: {p.eliminations}, Inventory: {items}. *{state}*"

end Player

end Tournament
