import Std.Time.Date.PlainDate
import Std.Time.DateTime.Timestamp
import Tournament.Console.Session

/-!
# The program

Gathers what a session needs from outside, runs it, and passes on what it prints and writes.
-/

namespace Tournament.Console

/-- What the operating system says for the numbers of the errors that files meet with. -/
def systemWords : List (Nat × String) :=
  [(1, "Operation not permitted"), (2, "No such file or directory"), (5, "Input/output error"),
    (13, "Permission denied"), (20, "Not a directory"), (21, "Is a directory"),
    (22, "Invalid argument"), (23, "Too many open files in system"), (24, "Too many open files"),
    (27, "File too large"), (28, "No space left on device"), (30, "Read-only file system"),
    (36, "File name too long"), (40, "Too many levels of symbolic links")]

/-- A failure by its number, which may come with its sign turned, and by other words for it. -/
def numberedFailure (code : UInt32) (words : String) : String :=
  let number := code.toInt32.toInt.natAbs
  s!"{(systemWords.lookup number).getD words} (os error {number})"

def failureText : IO.Error → String
  | .alreadyExists _ code words => numberedFailure code words
  | .otherError code words => numberedFailure code words
  | .resourceBusy code words => numberedFailure code words
  | .resourceVanished code words => numberedFailure code words
  | .unsupportedOperation code words => numberedFailure code words
  | .hardwareFault code words => numberedFailure code words
  | .unsatisfiedConstraints code words => numberedFailure code words
  | .illegalOperation code words => numberedFailure code words
  | .protocolError code words => numberedFailure code words
  | .timeExpired code words => numberedFailure code words
  | .interrupted _ code words => numberedFailure code words
  | .noFileOrDirectory _ code words => numberedFailure code words
  | .invalidArgument _ code words => numberedFailure code words
  | .permissionDenied _ code words => numberedFailure code words
  | .resourceExhausted _ code words => numberedFailure code words
  | .inappropriateType _ code words => numberedFailure code words
  | .noSuchThing _ code words => numberedFailure code words
  | .unexpectedEof => "unexpected end of file"
  | .userError words => words

def seedLetters : List Char :=
  "ABCDEFGHIJKLMNOPQRSTUVWXYZabcdefghijklmnopqrstuvwxyz0123456789".toList

/-- A seed of eight letters and digits. The bytes from four times 62 up are passed over, so that
every letter is equally likely. -/
def seedOfBytes (bytes : ByteArray) : String :=
  let places := (bytes.toList.map UInt8.toNat).filter (· < 4 * seedLetters.length)
  String.ofList ((places.take 8).map fun i => seedLetters.getD (i % seedLetters.length) 'A')

def twoDigits (n : Nat) : String :=
  String.ofList (Number.digits (n / 10) ++ Number.digits (n % 10))

/-- The date and the time of day, as they stand in the name of a transcript. -/
def stampText (now : Std.Time.Timestamp) : String :=
  let date := Std.Time.PlainDate.ofEpochDay now.toDaysSinceUnixEpoch
  let second := now.toSecondsSinceUnixEpoch.val.toNat % 86400
  s!"{date.year.toInt}{twoDigits date.month.val.toNat}{twoDigits date.day.val.toNat}_" ++
    twoDigits (second / 3600) ++ twoDigits (second / 60 % 60) ++ twoDigits (second % 60)

def bytesOf (path : String) : IO (Except String ByteArray) := do
  try
    return .ok (← IO.FS.readBinFile path)
  catch e =>
    return .error (failureText e)

def surroundings (args : List String) : IO Surroundings := do
  let seed := seedOfBytes (← IO.getRandomBytes 64)
  let stamp := stampText (← Std.Time.Timestamp.now)
  let answer ←
    match (readArguments args).1 with
    | .play o => bytesOf o.specPath
    | _ => pure (.error "not asked for")
  return {
    contents := fun _ => answer
    freshSeed := seed
    transcriptName := s!"royale_{stamp}.json" }

/-- Runs a session and writes the transcript it leaves; where that fails, the session is the one
that knows it. -/
def perform (args : List String) : IO Session := do
  let w ← surroundings args
  let s := session w args
  match s.saved with
  | none => return s
  | some text =>
    try
      IO.FS.writeFile w.transcriptName text
      return s
    catch e =>
      return session { w with writeFailure := some (failureText e) } args

end Tournament.Console

def main (args : List String) : IO UInt32 := do
  let s ← Tournament.Console.perform args
  IO.print s.stdout
  IO.eprint s.stderr
  return UInt32.ofNat s.code
