import Tournament.Requirement
import Tournament.Template

/-!
# Events

An event is a text with slots for players, the demands of each slot, and what happens to the
players who fill them. Its metadata names slots by their numbers; reading an event checks that the
text has the slots from 1 up to the declared number of tributes and that nothing refers to another.
-/

namespace Tournament

structure Event where
  text : String
  /-- The demands of the slots 1, 2, …, in order. -/
  slots : List Requirement
  slots_ne_nil : slots ≠ []
  resizes : List (Nat × Resize)
  eliminated : List Nat
  /-- The slots whose players get the credit for the eliminations. -/
  credited : List Nat
  gives : List (Nat × String)
  takes : List (Nat × String)
  /-- The weight of the event among those that may be drawn with it. -/
  rarity : Float
  deriving DecidableEq

namespace Event

def schema : Schema where
  entity := "Event"
  keys := [("tributes", .one), ("size", .pairs), ("elim", .words), ("perp", .words),
    ("give", .pairs), ("remove", .pairs), ("rarity", .one)]

def tributes (e : Event) : Nat :=
  e.slots.length

def isLethal (e : Event) : Bool :=
  !e.eliminated.isEmpty

/-- The text with the names and pronouns of the players who fill the slots, in order. -/
def render (e : Event) (players : List Player) : String :=
  renderText e.text players

def parseSlot (key value : String) : Except SpecError Nat :=
  match Number.readPositive64 (String.ofList (Text.trim value.toList)) with
  | some n => .ok n
  | none => .error (.invalidValue key value "expected a slot number")

/-- Reads every element of a list, up to the first that cannot be read. -/
def parseEach {α β : Type} (f : α → Except SpecError β) : List α → Except SpecError (List β)
  | [] => .ok []
  | a :: rest =>
    match f a with
    | .error e => .error e
    | .ok b =>
      match parseEach f rest with
      | .error e => .error e
      | .ok bs => .ok (b :: bs)

def parseResize (entry : String × String) : Except SpecError (Nat × Resize) := do
  let slot ← parseSlot "size" entry.1
  let resize ← Resize.parse entry.2
  return (slot, resize)

def parseItem (key : String) (entry : String × String) : Except SpecError (Nat × String) :=
  (parseSlot key entry.1).map fun slot => (slot, entry.2)

def parseTributes (value : Option String) : Except SpecError Nat :=
  match value with
  | none => .error (.malformed .noTributes)
  | some s =>
    match Number.readPositive64 s with
    | some n => .ok n
    | none => .error (.invalidValue "tributes" s "expected a positive integer")

/-- Reads a rarity: finite and above zero, and 1 where none is set. -/
def parseRarity (value : Option String) : Except SpecError Float :=
  match value with
  | none => .ok 1.0
  | some s =>
    let invalid := SpecError.invalidValue "rarity" s "expected a positive number"
    match Number.readFloat s.toList with
    | none => .error invalid
    | some r => if r.isFinite && r > 0.0 then .ok r else .error invalid

/-- The slots that a text names: those of its slot tokens with their suffixes, by rising number,
and those of its pronouns as they come. -/
structure SlotScan where
  suffixes : List (Nat × List Char) := []
  pronouns : List Nat := []
  deriving DecidableEq, Repr

def insertSlot (slot : Nat) (suffix : List Char) :
    List (Nat × List Char) → List (Nat × List Char)
  | [] => [(slot, suffix)]
  | s :: rest => if slot < s.1 then (slot, suffix) :: s :: rest else s :: insertSlot slot suffix rest

/-- Takes in one piece of a text. The tokens of one slot must have the same suffix. -/
def SlotScan.add (scan : SlotScan) (p : Piece) : Except SpecError SlotScan :=
  match p with
  | .letter _ => .ok scan
  | .slot number suffix =>
    match parseSlot "slot" (String.ofList number) with
    | .error e => .error e
    | .ok slot =>
      match scan.suffixes.lookup slot with
      | none => .ok { scan with suffixes := insertSlot slot suffix scan.suffixes }
      | some other => if other = suffix then .ok scan else .error (.conflictingSlot slot)
  | .pronoun _ body =>
    match readPronoun body with
    | none => .error (.malformed (.pronoun (String.ofList p.raw)))
    | some (number, _) =>
      (parseSlot "pronoun" (String.ofList number)).map fun slot =>
        { scan with pronouns := scan.pronouns ++ [slot] }

def SlotScan.addAll : SlotScan → List Piece → Except SpecError SlotScan
  | scan, [] => .ok scan
  | scan, p :: rest =>
    match scan.add p with
    | .error e => .error e
    | .ok scan => scan.addAll rest

/-- What the metadata of an event says, before it is compared with the text. -/
structure Directives where
  tributes : Nat
  rarity : Float
  resizes : List (Nat × Resize)
  eliminated : List Nat
  credited : List Nat
  gives : List (Nat × String)
  takes : List (Nat × String)

def Directives.ofTags (t : Tags) : Except SpecError Directives := do
  let tributes ← parseTributes (t.one? "tributes")
  let rarity ← parseRarity (t.one? "rarity")
  let resizes ← parseEach parseResize (t.pairs "size")
  let eliminated ← parseEach (parseSlot "elim") (t.words "elim")
  let credited ← parseEach (parseSlot "perp") (t.words "perp")
  let gives ← parseEach (parseItem "give") (t.pairs "give")
  let takes ← parseEach (parseItem "remove") (t.pairs "remove")
  return { tributes, rarity, resizes, eliminated, credited, gives, takes }

/-- Every slot that the metadata or a pronoun refers to, with the key that does. -/
def references (d : Directives) (pronouns : List Nat) : List (String × Nat) :=
  d.resizes.map (fun r => ("size", r.1)) ++ d.eliminated.map (("elim", ·)) ++
    d.credited.map (("perp", ·)) ++ d.gives.map (fun g => ("give", g.1)) ++
    d.takes.map (fun g => ("remove", g.1)) ++ pronouns.map (("pronoun", ·))

def ofDirectives (text : String) (d : Directives) : Except SpecError Event :=
  match ({} : SlotScan).addAll (pieces text.toList) with
  | .error e => .error e
  | .ok scan =>
    match parseEach (fun s => Requirement.parse s.2) scan.suffixes with
    | .error e => .error e
    | .ok slots =>
      let numbers := scan.suffixes.map (·.1)
      if numbers ≠ List.range' 1 numbers.length then .error (.slotGap numbers)
      else
        match slots with
        | [] => .error (.tributeMismatch d.tributes 0)
        | slot :: more =>
          if d.tributes ≠ (slot :: more).length then
            .error (.tributeMismatch d.tributes (slot :: more).length)
          else
            match (references d scan.pronouns).find? fun r => d.tributes < r.2 with
            | some (key, n) =>
              .error (.invalidValue key (toString n) s!"event only has {d.tributes} tribute(s)")
            | none =>
              .ok {
                text
                slots := slot :: more
                slots_ne_nil := List.cons_ne_nil slot more
                resizes := d.resizes
                eliminated := d.eliminated
                credited := d.credited
                gives := d.gives
                takes := d.takes
                rarity := d.rarity }

def parse (text metadata : String) : Except SpecError Event := do
  let t ← Tags.read schema metadata
  let d ← Directives.ofTags t
  ofDirectives text d

def remarks (metadata : String) : List Record :=
  Tags.remarks schema metadata

def itemsText (entries : List (Nat × String)) : String :=
  "[" ++ ", ".intercalate (entries.map fun e => s!"({e.1}, {Text.quoted e.2})") ++ "]"

/-- A named list at the end of a description; an empty one is left out. -/
def listed {α : Type} (name : String) (entries : List α) (text : List α → String) : String :=
  if entries.isEmpty then "" else s!", {name}: " ++ text entries

/-- The description of an event: its text, the number of tributes, what happens, and the rarity. -/
def description (e : Event) : String :=
  s!"{e.text} [tributes: {e.tributes}" ++
    listed "sizes" e.resizes
      (fun rs => " ".intercalate (rs.map fun r => s!"{r.1}:{r.2.text}")) ++
    listed "elims" e.eliminated slotsText ++
    listed "perps" e.credited slotsText ++
    listed "gives" e.gives itemsText ++
    listed "removes" e.takes itemsText ++
    ", rarity: " ++ String.ofList (Number.shortestText e.rarity) ++ "]"

end Event

end Tournament
