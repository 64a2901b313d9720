import Tournament.Number.Natural

/-!
# Numeric hosts

Hosts that are addresses of the Internet Protocol: version 4 as up to four numbers with points
between them, each decimal, octal or hexadecimal; version 6 as eight groups of hexadecimal digits,
a run of zero groups left out once, the last two groups possibly as four decimal numbers.
-/

namespace Tournament.Address

def isHexDigit (c : Char) : Bool :=
  c.isDigit || ('a' ≤ c && c ≤ 'f') || ('A' ≤ c && c ≤ 'F')

def hexDigitValue (c : Char) : Nat :=
  if c.isDigit then c.toNat - '0'.toNat else c.toLower.toNat - 'a'.toNat + 10

def valueInBase (base : Nat) (ds : List Char) : Nat :=
  ds.foldl (fun n d => base * n + hexDigitValue d) 0

/-- Reads a number of a version 4 address: hexadecimal after `0x`, octal after a further `0`, else
decimal. Nothing after the mark of a base counts zero. -/
def readPart (cs : List Char) : Option Nat :=
  match cs with
  | [] => none
  | '0' :: 'x' :: ds => if ds.all isHexDigit then some (valueInBase 16 ds) else none
  | '0' :: 'X' :: ds => if ds.all isHexDigit then some (valueInBase 16 ds) else none
  | '0' :: d :: ds =>
    if (d :: ds).all fun c => '0' ≤ c && c ≤ '7' then some (valueInBase 8 (d :: ds)) else none
  | _ => if cs.all Char.isDigit then some (valueInBase 10 cs) else none

/-- The labels of a host without an empty one at the end. -/
def withoutRoot (labels : List (List Char)) : List (List Char) :=
  if labels.length > 1 ∧ labels.getLast? = some [] then labels.dropLast else labels

/-- Whether the last label of a host is a number, so that the host must be an address. -/
def endsInNumber (labels : List (List Char)) : Bool :=
  match (withoutRoot labels).getLast? with
  | none => false
  | some [] => false
  | some last => last.all Char.isDigit || (readPart last).isSome

/-- Whether the labels are a version 4 address: at most four numbers, the last filling the bytes
that are left, the others one byte each. -/
def isVersion4 (labels : List (List Char)) : Bool :=
  let parts := (withoutRoot labels).map readPart
  let leading := parts.dropLast
  parts.length ≤ 4 &&
    leading.all (fun p => p.any (· ≤ 255)) &&
    (parts.getLast?.join).any fun n => n < Nat.pow 256 (4 - leading.length)

def isByte (cs : List Char) : Bool :=
  cs ≠ [] && cs.all Char.isDigit && (cs.length = 1 || cs.head? ≠ some '0') &&
    Number.ofDigits cs ≤ 255

def splitPoints : List Char → List (List Char)
  | [] => [[]]
  | c :: cs =>
    match splitPoints cs with
    | [] => [[c]]
    | part :: parts => if c = '.' then [] :: part :: parts else (c :: part) :: parts

def isDottedBytes (cs : List Char) : Bool :=
  let parts := splitPoints cs
  parts.length = 4 && parts.all isByte

/-- Whether the groups that follow complete a version 6 address, after `seen` groups; `short` tells
that a run of groups was left out. -/
def groupsComplete (seen : Nat) (short : Bool) (cs : List Char) : Bool :=
  match cs with
  | [] => short || seen = 8
  | ':' :: rest => seen < 8 && !short && groupsComplete (seen + 1) true rest
  | c :: rest =>
    if seen ≥ 8 then false
    else
      let ds := ((c :: rest).take 4).takeWhile isHexDigit
      match _h : (c :: rest).drop ds.length with
      | [] => short || seen = 7
      | '.' :: _ =>
        ds ≠ [] && seen ≤ 6 && isDottedBytes (c :: rest) && (short || seen = 6)
      | [':'] => false
      | ':' :: next :: more => groupsComplete (seen + 1) short (next :: more)
      | _ => false
termination_by cs.length
decreasing_by
  · simp
  · have := congrArg List.length _h
    simp only [List.length_drop, List.length_cons] at this ⊢
    omega

def isVersion6 (cs : List Char) : Bool :=
  match cs with
  | ':' :: ':' :: rest => groupsComplete 1 true rest
  | ':' :: _ => false
  | [] => false
  | cs => groupsComplete 0 false cs

end Tournament.Address
