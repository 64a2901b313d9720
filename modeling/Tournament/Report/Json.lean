import Tournament.Json.Reader
import Tournament.Number.Natural
import Tournament.Report

/-!
# Reports as JSON

A report is written as an object with its fields in order. A reader takes an object with the
fields in any order, others among them ignored, or a list of the fields in order. In an object an
arena or a winner may be missing; a field may not come twice.
-/

namespace Tournament

def RoundKind.tag : RoundKind → String
  | .bloodbath => "Bloodbath"
  | .day => "Day"
  | .night => "Night"
  | .fatalDay => "FatalDay"
  | .fatalNight => "FatalNight"
  | .arena => "Arena"
  | .feast => "Feast"

def RoundKind.ofTag? (s : String) : Option RoundKind :=
  [.bloodbath, .day, .night, .fatalDay, .fatalNight, .arena, .feast].find? fun k => k.tag = s

namespace Json

def member (name : String) (v : Json) : Option String × Json :=
  (some name, v)

def ofTexts (ss : List String) : Json :=
  .list (ss.map .text)

def ofRoundKind (k : RoundKind) : Json :=
  .text k.tag

/-- A winner: a team or a player with the kind of winner as the only member's name, or just the
word for nobody. -/
def ofWinner : Winner → Json
  | .team letter => .object [member "Team" (.text (String.singleton letter))]
  | .player name => .object [member "Player" (.text name)]
  | .nobody => .text "Nobody"

def ofEventReport (e : EventReport) : Json :=
  .object [
    member "event_type" (ofRoundKind e.kind),
    member "text" (.text e.text),
    member "players" (ofTexts e.players),
    member "eliminated" (ofTexts e.eliminated)]

def ofRoundReport (r : RoundReport) : Json :=
  .object [
    member "day" (ofNat r.day.toNat),
    member "round" (ofRoundKind r.round),
    member "arena" (ofOption .text r.arena),
    member "events" (.list (r.events.map ofEventReport)),
    member "game_over" (ofOption ofWinner r.winner)]

def toText? : Json → Option String
  | .text s => some s
  | _ => none

def readEach {α : Type} (f : Json → Option α) : List Json → Option (List α)
  | [] => some []
  | v :: vs => do
    let a ← f v
    let as ← readEach f vs
    return a :: as

def toList? {α : Type} (f : Json → Option α) : Json → Option (List α)
  | .list vs => readEach f vs
  | _ => none

def toOption? {α : Type} (f : Json → Option α) : Json → Option (Option α)
  | .null => some none
  | v => (f v).map some

def toUInt32? : Json → Option UInt32
  | .number literal =>
    if literal.all Char.isDigit then (Number.readNatural UInt32.size literal).map UInt32.ofNat
    else none
  | _ => none

/-- Reads a name that stands for itself: a text, or an object whose only member has that name and
is null. -/
def toPlainName? : Json → Option String
  | .text s => some s
  | .object [(some s, .null)] => some s
  | _ => none

def toRoundKind? (v : Json) : Option RoundKind :=
  v.toPlainName?.bind RoundKind.ofTag?

def toChar? : Json → Option Char
  | .text s =>
    match s.toList with
    | [c] => some c
    | _ => none
  | _ => none

def toWinner? : Json → Option Winner
  | .object [(some "Team", v)] => v.toChar?.map .team
  | .object [(some "Player", v)] => v.toText?.map .player
  | v => if v.toPlainName? = some "Nobody" then some .nobody else none

/-- The values of the fields with the given names: those of a list of just as many values, or the
members of an object by name. Every name of the object must spell a text, and a field may come
only once; a missing field has no value. -/
def fields? (names : List String) : Json → Option (List (Option Json))
  | .list vs => if vs.length = names.length then some (vs.map some) else none
  | .object members =>
    if members.all (·.1.isSome) ∧
        names.all fun n => (members.filter fun m => m.1 = some n).length ≤ 1 then
      some (names.map fun n => members.lookup (some n))
    else none
  | _ => none

def toEventReport? (v : Json) : Option EventReport := do
  match ← v.fields? ["event_type", "text", "players", "eliminated"] with
  | [some kind, some words, some players, some eliminated] =>
    return {
      kind := ← kind.toRoundKind?
      text := ← words.toText?
      players := ← players.toList? toText?
      eliminated := ← eliminated.toList? toText? }
  | _ => none

def toRoundReport? (v : Json) : Option RoundReport := do
  match ← v.fields? ["day", "round", "arena", "events", "game_over"] with
  | [some day, some round, arena, some events, winner] =>
    return {
      day := ← day.toUInt32?
      round := ← round.toRoundKind?
      arena := ← (arena.getD .null).toOption? toText?
      events := ← events.toList? toEventReport?
      winner := ← (winner.getD .null).toOption? toWinner? }
  | _ => none

end Json

def RoundReport.print (r : RoundReport) : String :=
  (Json.ofRoundReport r).compact

def RoundReport.read (s : String) : Option RoundReport :=
  (Json.read s).bind Json.toRoundReport?

/-- The transcript of a game: its seed, the rounds played, and the winner. -/
def transcript (seed : String) (rounds : List RoundReport) (winner : Option Winner) : String :=
  (Json.object [
    Json.member "seed" (.text seed),
    Json.member "rounds" (.list (rounds.map Json.ofRoundReport)),
    Json.member "winner" (Json.ofOption Json.ofWinner winner)]).pretty

end Tournament
