import Tournament.Contest
import Tournament.Spec.Item

/-!
# Building a contest from a spec

The items of a spec are taken in one after the other. An item that cannot be taken in is noted as
a problem with its line and changes nothing else; only a spec without any line is refused as a
whole.
-/

namespace Tournament.Spec

structure Problem where
  line : Nat
  error : SpecError
  deriving DecidableEq, Repr

def Problem.text (p : Problem) : String :=
  s!"line {p.line}: {p.error.message}"

structure Draft where
  changes : RuleChanges := {}
  /-- The number of the last rule line that was taken in; 0 before the first. -/
  lastRuleLine : Nat := 0
  players : List Player := []
  /-- The arenas opened so far. New arena events go to the last. -/
  arenas : List Arena := []
  pools : Pools := {}
  deriving DecidableEq

def addToLast (e : Event) : List Arena → Option (List Arena)
  | [] => none
  | [a] => some [{ a with events := a.events ++ [e] }]
  | a :: rest => (addToLast e rest).map (a :: ·)

def Draft.take (d : Draft) (i : Numbered) : Except SpecError Draft :=
  match i.item with
  | .comment => .ok d
  | .header _ => .ok d
  | .ignored => .ok d
  | .rules text =>
    (RuleChanges.parse (String.ofList text)).map fun changes =>
      { d with changes := d.changes.merge changes, lastRuleLine := i.line }
  | .player name metadata =>
    match Player.parse (String.ofList name) (String.ofList metadata) with
    | .error e => .error e
    | .ok p =>
      if d.players.any (·.name = p.name) then .error (.duplicatePlayer p.name)
      else .ok { d with players := d.players ++ [p] }
  | .event kind text metadata =>
    (Event.parse (String.ofList text) (String.ofList metadata)).map fun e =>
      { d with pools := d.pools.add kind e }
  | .arenaEvent text metadata =>
    match Event.parse (String.ofList text) (String.ofList metadata) with
    | .error e => .error e
    | .ok e =>
      match addToLast e d.arenas with
      | none => .error (.malformed .strayEvent)
      | some arenas => .ok { d with arenas }
  | .arenaOpening text =>
    match arenaOpening? text with
    | none => .error (.malformed (.arenaOpening (String.ofList text)))
    | some (name, description) =>
      .ok { d with arenas := d.arenas ++ [⟨String.ofList name, String.ofList description, []⟩] }
  | .unpairedQuote text => .error (.malformed (.unpairedQuote (String.ofList text)))
  | .unquoted text => .error (.malformed (.unquoted (String.ofList text)))
  | .outside text => .error (.malformed (.outsideSection (String.ofList text)))

def Item.remarks : Item → List Record
  | .header name =>
    match Section.named name with
    | .unknown => [⟨.warning, s!"ignoring unknown section [{String.ofList name}]"⟩]
    | _ => []
  | .rules text => RuleChanges.remarks (String.ofList text)
  | .player name metadata => Player.remarks (String.ofList name) (String.ofList metadata)
  | .event _ _ metadata => Event.remarks (String.ofList metadata)
  | .arenaEvent _ metadata => Event.remarks (String.ofList metadata)
  | _ => []

/-- Takes in the items from left to right: what is built, and the problems met. -/
def Draft.takeAll : Draft → List Numbered → Draft × List Problem
  | d, [] => (d, [])
  | d, i :: rest =>
    match d.take i with
    | .ok d => d.takeAll rest
    | .error e =>
      let (d, problems) := d.takeAll rest
      (d, ⟨i.line, e⟩ :: problems)

/-- What taking in the items reports: the remarks on each, and each problem. -/
def Draft.remarksFrom : Draft → List Numbered → List Record
  | _, [] => []
  | d, i :: rest =>
    i.item.remarks ++
      match d.take i with
      | .ok d => d.remarksFrom rest
      | .error e =>
        ⟨.debug, s!"spec error at line {i.line}: {e.message}"⟩ :: d.remarksFrom rest

/-- A contest read from a spec, with the problems met on the way. -/
structure Reading where
  contest : Contest
  problems : List Problem
  deriving DecidableEq

/-- Turns a draft into a contest. Bounds that contradict each other are a problem of the last
rule line, and the standard rules stand in for them. -/
def Draft.finish (d : Draft) (problems : List Problem) : Reading :=
  match Rules.ofChanges d.changes with
  | .ok rules => ⟨⟨rules, d.players, d.arenas, d.pools⟩, problems⟩
  | .error e =>
    ⟨⟨.standard, d.players, d.arenas, d.pools⟩, problems ++ [⟨d.lastRuleLine, e⟩]⟩

def parse (input : String) : Except SpecError Reading :=
  if lines input = [] then .error .emptySpec
  else
    let (d, problems) := ({} : Draft).takeAll (items input)
    .ok (d.finish problems)

def remarks (input : String) : List Record :=
  match parse input with
  | .error _ => []
  | .ok r =>
    ({} : Draft).remarksFrom (items input) ++
      [⟨.debug, s!"parsed {r.contest.roster.length} player(s), {r.contest.arenas.length} " ++
        s!"arena(s), {r.problems.length} error(s)"⟩]

end Tournament.Spec
