import Tournament.Console.Options
import Tournament.Draw.Seeded
import Tournament.Game.Round
import Tournament.Report.Json
import Tournament.Spec.Draft

/-!
# A session at the console

A session reads a spec, shows the players, plays rounds until someone wins, and says what came of
it. It is a function of the arguments and of the files it may read; what it prints and writes is
its result.
-/

namespace Tournament.Console

open Draw (Keystream Source seeded)

structure Surroundings where
  /-- The bytes of a file, or why it cannot be read. -/
  contents : String → Except String ByteArray
  /-- The seed of a game for which none is given. -/
  freshSeed : String
  /-- The name of the file for the transcript. -/
  transcriptName : String
  /-- Why that file cannot be written, if it cannot. -/
  writeFailure : Option String := none

structure Session where
  code : Nat := 0
  stdout : String := ""
  stderr : String := ""
  saved : Option String := none
  deriving DecidableEq, Repr

namespace Session

def print (s : Session) (line : String) : Session :=
  { s with stdout := s.stdout ++ line ++ "\n" }

def complain (s : Session) (line : String) : Session :=
  { s with stderr := s.stderr ++ line ++ "\n" }

def printAll (s : Session) (lines : List String) : Session :=
  lines.foldl print s

def complainAll (s : Session) (lines : List String) : Session :=
  lines.foldl complain s

def save (w : Surroundings) (s : Session) (text : String) : Session :=
  match w.writeFailure with
  | none => { s.print s!"Transcript saved to: {w.transcriptName}" with saved := some text }
  | some reason => s.complain s!"Failed to write {w.transcriptName}: {reason}"

end Session

def helpLines : List String :=
  ["Size Royale",
    "",
    "USAGE:",
    "    cargo run --bin royale -- [OPTIONS] [SPEC]",
    "",
    "ARGS:",
    "    SPEC                  Spec file (default: data/royale-spec.txt)",
    "",
    "OPTIONS:",
    "    -s, --seed <S>        Seed string for reproducibility",
    "    -r, --max-rounds <N>  Stop after N rounds (default: 500)",
    "    --strict              Abort if the spec has any errors",
    "    --json                Save the transcript as JSON",
    "    -v, --verbose         Dump the parsed royale and engine debug logs",
    "    -q, --quiet           Only log warnings",
    "    --version             Show version and build info",
    "    -h, --help            Show this help",
    "",
    "Logging honours RUST_LOG; narrative lines use the \"narrative\" target."]

/-- The text of `--version`: name, version, and the stamp of the build. -/
def versionLine : String :=
  "sizeroyale 0.1.0 (0123abc 2020-01-02)"

def loadSpec (w : Surroundings) (path : String) : Except SpecError Spec.Reading :=
  match w.contents path with
  | .error reason => .error (.unreadable reason)
  | .ok bytes =>
    match String.fromUTF8? bytes with
    | none => .error (.unreadable "stream did not contain valid UTF-8")
    | some input => Spec.parse input

inductive Ending where
  | decided
  /-- The greatest number of rounds was played without a winner. -/
  | stopped
  | failed (e : GameError)
  deriving DecidableEq, Repr

def Ending.endsProgram : Ending → Bool
  | .failed e => e.endsProgram
  | _ => false

variable {σ : Type}

/-- Plays rounds until there is a winner, a round fails, or `n` rounds are played. -/
def playRounds (src : Source σ) : (n : Nat) → Game σ → List RoundReport × Ending × Game σ
  | 0, g => if g.contest.winner?.isSome then ([], .decided, g) else ([], .stopped, g)
  | n + 1, g =>
    if g.contest.winner?.isSome then ([], .decided, g)
    else
      match g.advance src with
      | (.error e, g) => ([], .failed e, g)
      | (.ok report, g) =>
        let (reports, ending, g) := playRounds src n g
        (report :: reports, ending, g)

def roundLines (r : RoundReport) : List String :=
  ["", s!"=== {r.heading} ==="] ++ r.events.map (·.text)

def winnerLines : Option Winner → List String
  | none => []
  | some .nobody => ["Nobody survived."]
  | some winner => [s!"The winner is {winner.text}!"]

def failureLines (e : GameError) : List String :=
  if e.isEngineBug then [s!"Engine bug: {e.message}"]
  else
    [s!"The spec cannot continue: {e.message}",
      "Add events with fewer constraints to that round's section."]

/-- Plays a game with the given contest and says what came of it. -/
def playContest (w : Surroundings) (o : Options) (c : Contest) (s : Session) : Session :=
  let seed := o.seed.getD w.freshSeed
  let s := if o.verbosity > 1 then s.print c.description else s
  let game := Game.start c seed (Keystream.ofSeed seed)
  let s := s.printAll [s!"Seed: {seed}", "", game.contest.currentPlayers]
  let (reports, ending, game) := playRounds seeded o.maxRounds game
  let s := s.printAll (reports.flatMap roundLines)
  if ending.endsProgram then { s with code := 101 }
  else
    let s :=
      if ending = .stopped then
        s.complain s!"Stopped after {o.maxRounds} rounds without a winner."
      else s
    let winner := game.contest.winner?
    let s := s.printAll (winnerLines winner)
    let s := if o.json then s.save w (transcript seed reports winner) else s
    match ending with
    | .failed e => { s.complainAll (failureLines e) with code := 1 }
    | _ => s

def playSpec (w : Surroundings) (o : Options) (s : Session) : Session :=
  match loadSpec w o.specPath with
  | .error e => { s.complain s!"Could not load {o.specPath}: {e.message}" with code := 1 }
  | .ok r =>
    if r.problems = [] then playContest w o r.contest s
    else
      let s := s.complain s!"{r.problems.length} problem(s) in {o.specPath}:"
      let s := s.complainAll (r.problems.map fun p => "  " ++ p.text)
      if o.strict then { s.complain "Aborting (--strict)." with code := 1 }
      else playContest w o r.contest (s.complain "")

def session (w : Surroundings) (args : List String) : Session :=
  let (request, unknown) := readArguments args
  let s := ({} : Session).complainAll (unknown.map fun arg => s!"Ignoring unknown option {arg}")
  match request with
  | .help => s.printAll helpLines
  | .version => s.print versionLine
  | .play o => playSpec w o s

end Tournament.Console
