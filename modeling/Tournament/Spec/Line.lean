import Tournament.RoundKind
import Tournament.Text.Blank

/-!
# The lines of a spec

A spec is read line by line. Blank lines count for nothing but keep their numbers; the others lose
the blanks around them, and typographic quotation marks become plain ones.
-/

namespace Tournament.Spec

/-- A line that is not blank, with its number counted from 1. -/
structure Line where
  number : Nat
  text : List Char
  deriving DecidableEq, Repr

def plainQuote (c : Char) : Char :=
  if c = '\u201C' || c = '\u201D' || c = '\u201E' then '"'
  else if c = '\u2018' || c = '\u2019' then '\x27'
  else c

/-- A line without the blanks around it and with plain quotation marks. -/
def normalize (cs : List Char) : List Char :=
  (Text.trim cs).map plainQuote

/-- Numbers the texts from `n` up and keeps those that are not blank. -/
def numberFrom : Nat → List (List Char) → List Line
  | _, [] => []
  | n, raw :: rest =>
    match normalize raw with
    | [] => numberFrom (n + 1) rest
    | text => ⟨n, text⟩ :: numberFrom (n + 1) rest

/-- The lines of a spec. They end at line feeds; a carriage return at an end is a blank. -/
def lines (input : String) : List Line :=
  numberFrom 1 (Text.splitBy (· = '\n') input.toList)

def isComment (text : List Char) : Bool :=
  text.head? = some '#'

/-- The name in a header line: what stands between the brackets around the line, if it is not
empty and holds no other bracket. -/
def headerName? (text : List Char) : Option (List Char) :=
  match text with
  | '[' :: rest =>
    if rest.getLast? = some ']' ∧ rest.dropLast ≠ [] ∧
        rest.dropLast.all (fun c => c ≠ '[' && c ≠ ']') then
      some rest.dropLast
    else none
  | _ => none

def quotedText? (text : List Char) : Option (List Char) :=
  match text with
  | '"' :: rest => if rest.getLast? = some '"' then some rest.dropLast else none
  | _ => none

/-- The name and the description of an arena, from a line `Name "Description"`: the name ends at
the first quotation mark, the description at the end of the line. -/
def arenaOpening? (text : List Char) : Option (List Char × List Char) :=
  match Text.cut '"' text with
  | some (name, rest) =>
    if name ≠ [] ∧ rest.getLast? = some '"' then some (Text.trim name, rest.dropLast) else none
  | none => none

inductive Section where
  | start
  | rules
  | players
  | events (kind : RoundKind)
  | arenas
  /-- A section whose name is not known. Its lines count for nothing. -/
  | unknown
  deriving DecidableEq, Repr

def Section.named (name : List Char) : Section :=
  match String.ofList (Text.lowerAscii name) with
  | "setup" => .rules
  | "players" => .players
  | "arena" => .arenas
  | other =>
    match RoundKind.ofPoolName? other with
    | some kind => .events kind
    | none => .unknown

/-- Whether the entries of a section are pairs of a quoted line and a metadata line. -/
def Section.hasEntries : Section → Bool
  | .players => true
  | .events _ => true
  | .arenas => true
  | _ => false

end Tournament.Spec
