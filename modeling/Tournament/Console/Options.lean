import Tournament.Number.Natural

/-!
# Options of the console program
-/

namespace Tournament.Console

structure Options where
  specPath : String := "data/royale-spec.txt"
  /-- The seed; a fresh one is made up where none is given. -/
  seed : Option String := none
  /-- The number of rounds after which a game without a winner is given up. -/
  maxRounds : Nat := 500
  /-- Whether any problem in the spec stops the program. -/
  strict : Bool := false
  json : Bool := false
  /-- How much is told: 0 warnings only, 1 rounds as well, more everything. -/
  verbosity : Nat := 1
  deriving DecidableEq, Repr

def Options.logFilter (o : Options) : String :=
  match o.verbosity with
  | 0 => "warn"
  | 1 => "info,narrative=off"
  | _ => "debug"

inductive Flag where
  | seed (value : String)
  | maxRounds (value : String)
  /-- An option at the end of the line that lacks its value. -/
  | incomplete
  | strict
  | json
  | verbose
  | quiet
  | help
  | version
  | spec (path : String)
  | unknown (arg : String)
  deriving DecidableEq, Repr

def Flag.single (arg : String) : Flag :=
  match arg with
  | "-s" => .incomplete
  | "--seed" => .incomplete
  | "-r" => .incomplete
  | "--max-rounds" => .incomplete
  | "--strict" => .strict
  | "--json" => .json
  | "-v" => .verbose
  | "--verbose" => .verbose
  | "-q" => .quiet
  | "--quiet" => .quiet
  | "-h" => .help
  | "--help" => .help
  | "--version" => .version
  | _ => if arg.toList.head? = some '-' then .unknown arg else .spec arg

/-- The flag that an argument is with the one after it as its value. -/
def Flag.valued? (arg value : String) : Option Flag :=
  match arg with
  | "-s" => some (.seed value)
  | "--seed" => some (.seed value)
  | "-r" => some (.maxRounds value)
  | "--max-rounds" => some (.maxRounds value)
  | _ => none

def flags : List String → List Flag
  | [] => []
  | [arg] => [.single arg]
  | arg :: value :: rest =>
    match Flag.valued? arg value with
    | some flag => flag :: flags rest
    | none => .single arg :: flags (value :: rest)

inductive Request where
  | play (options : Options)
  | help
  | version
  deriving DecidableEq, Repr

/-- Follows the flags from left to right: what is asked for, and the unknown options on the way. A
number of rounds that cannot be read changes nothing; help and version end the line. -/
def follow : Options → List Flag → Request × List String
  | o, [] => (.play o, [])
  | o, flag :: rest =>
    match flag with
    | .seed value => follow { o with seed := some value } rest
    | .maxRounds value =>
      follow { o with maxRounds := (Number.readNatural32 value).getD o.maxRounds } rest
    | .incomplete => follow o rest
    | .strict => follow { o with strict := true } rest
    | .json => follow { o with json := true } rest
    | .verbose => follow { o with verbosity := 2 } rest
    | .quiet => follow { o with verbosity := 0 } rest
    | .help => (.help, [])
    | .version => (.version, [])
    | .spec path => follow { o with specPath := path } rest
    | .unknown arg =>
      let (request, unknown) := follow o rest
      (request, arg :: unknown)

def readArguments (args : List String) : Request × List String :=
  follow {} (flags args)

end Tournament.Console
