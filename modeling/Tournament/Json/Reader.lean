import Tournament.Json

/-!
# Reading JSON

The reader takes exactly the texts of the format: one value with blanks around it and nothing
else. Escapes of half characters are joined in pairs; a string in which one is left over spells no
text.
-/

namespace Tournament.Json

def isSpace (c : Char) : Bool :=
  c = ' ' || c = '\n' || c = '\t' || c = '\r'

def skip (cs : List Char) : List Char :=
  cs.dropWhile isSpace

def hexValue? (c : Char) : Option Nat :=
  if c.isDigit then some (c.toNat - '0'.toNat)
  else if 'a' ≤ c ∧ c ≤ 'f' then some (c.toNat - 'a'.toNat + 10)
  else if 'A' ≤ c ∧ c ≤ 'F' then some (c.toNat - 'A'.toNat + 10)
  else none

def hexUnit? (a b c d : Char) : Option Nat := do
  let a ← hexValue? a
  let b ← hexValue? b
  let c ← hexValue? c
  let d ← hexValue? d
  return ((a * 16 + b) * 16 + c) * 16 + d

/-- What a string is made of: characters, and escaped units of 16 bits. -/
inductive Sign where
  | char (c : Char)
  | unit (n : Nat)
  deriving DecidableEq, Repr

def shortEscape? : Char → Option Char
  | '"' => some '"'
  | '\\' => some '\\'
  | '/' => some '/'
  | 'b' => some '\x08'
  | 'f' => some '\x0c'
  | 'n' => some '\n'
  | 'r' => some '\r'
  | 't' => some '\t'
  | _ => none

/-- Reads a string up to its closing quotation mark: its signs, and what follows it. -/
def readSigns : List Char → Option (List Sign × List Char)
  | [] => none
  | '"' :: rest => some ([], rest)
  | '\\' :: 'u' :: a :: b :: c :: d :: rest => do
    let n ← hexUnit? a b c d
    let (signs, rest) ← readSigns rest
    return (.unit n :: signs, rest)
  | '\\' :: e :: rest => do
    let c ← shortEscape? e
    let (signs, rest) ← readSigns rest
    return (.char c :: signs, rest)
  | c :: rest =>
    if c = '\\' ∨ c.toNat < 0x20 then none
    else do
      let (signs, rest) ← readSigns rest
      return (.char c :: signs, rest)

/-- The text that signs spell. A first half must be followed by a second half, and a second half
may not stand alone. -/
def spell : List Sign → Option (List Char)
  | [] => some []
  | .char c :: rest => (spell rest).map (c :: ·)
  | .unit high :: .unit low :: rest =>
    if 0xD800 ≤ high ∧ high < 0xDC00 then
      if 0xDC00 ≤ low ∧ low < 0xE000 then
        (spell rest).map (Char.ofNat (0x10000 + (high - 0xD800) * 0x400 + (low - 0xDC00)) :: ·)
      else none
    else if 0xDC00 ≤ high ∧ high < 0xE000 then none
    else (spell (.unit low :: rest)).map (Char.ofNat high :: ·)
  | .unit n :: rest =>
    if 0xD800 ≤ n ∧ n < 0xE000 then none else (spell rest).map (Char.ofNat n :: ·)

/-- Reads a string after its opening quotation mark: its text if it spells one, and what follows. -/
def readText (cs : List Char) : Option (Option String × List Char) := do
  let (signs, rest) ← readSigns cs
  return ((spell signs).map String.ofList, rest)

def digitRun (cs : List Char) : List Char × List Char :=
  (cs.takeWhile Char.isDigit, cs.dropWhile Char.isDigit)

/-- The whole part of a number: no digit may follow a leading zero. -/
def wholePart (cs : List Char) : Option (List Char × List Char) :=
  match cs with
  | '0' :: rest => some (['0'], rest)
  | _ =>
    match digitRun cs with
    | ([], _) => none
    | run => some run

def fractionPart (cs : List Char) : Option (List Char × List Char) :=
  match cs with
  | '.' :: rest =>
    match digitRun rest with
    | ([], _) => none
    | (ds, rest) => some ('.' :: ds, rest)
  | _ => some ([], cs)

def exponentDigits (mark : List Char) (cs : List Char) : Option (List Char × List Char) :=
  match digitRun cs with
  | ([], _) => none
  | (ds, rest) => some (mark ++ ds, rest)

def exponentPart (cs : List Char) : Option (List Char × List Char) :=
  match cs with
  | e :: '+' :: rest => if e = 'e' ∨ e = 'E' then exponentDigits [e, '+'] rest else some ([], cs)
  | e :: '-' :: rest => if e = 'e' ∨ e = 'E' then exponentDigits [e, '-'] rest else some ([], cs)
  | e :: rest => if e = 'e' ∨ e = 'E' then exponentDigits [e] rest else some ([], cs)
  | [] => some ([], [])

def readUnsigned (cs : List Char) : Option (List Char × List Char) := do
  let (whole, rest) ← wholePart cs
  let (fraction, rest) ← fractionPart rest
  let (exponent, rest) ← exponentPart rest
  return (whole ++ fraction ++ exponent, rest)

def readNumber (cs : List Char) : Option (Json × List Char) :=
  match cs with
  | '-' :: rest => (readUnsigned rest).map fun (ds, rest) => (.number ('-' :: ds), rest)
  | _ => (readUnsigned cs).map fun (ds, rest) => (.number ds, rest)

mutual

/-- Reads a value at the front of a text. `fuel` bounds the number of values and members read; the
length of the text is always enough. -/
def readValue : (fuel : Nat) → List Char → Option (Json × List Char)
  | 0, _ => none
  | fuel + 1, cs =>
    match skip cs with
    | 'n' :: 'u' :: 'l' :: 'l' :: rest => some (.null, rest)
    | 't' :: 'r' :: 'u' :: 'e' :: rest => some (.bool true, rest)
    | 'f' :: 'a' :: 'l' :: 's' :: 'e' :: rest => some (.bool false, rest)
    | '"' :: rest =>
      match readText rest with
      | some (some s, rest) => some (.text s, rest)
      | some (none, rest) => some (.brokenText, rest)
      | none => none
    | '[' :: rest =>
      match skip rest with
      | ']' :: rest => some (.list [], rest)
      | rest => (readElements fuel rest).map fun (vs, rest) => (.list vs, rest)
    | '{' :: rest =>
      match skip rest with
      | '}' :: rest => some (.object [], rest)
      | rest => (readMembers fuel rest).map fun (ms, rest) => (.object ms, rest)
    | rest => readNumber rest

def readElements : (fuel : Nat) → List Char → Option (List Json × List Char)
  | 0, _ => none
  | fuel + 1, cs =>
    match readValue fuel cs with
    | none => none
    | some (v, rest) =>
      match skip rest with
      | ',' :: rest => (readElements fuel rest).map fun (vs, rest) => (v :: vs, rest)
      | ']' :: rest => some ([v], rest)
      | _ => none

def readMembers : (fuel : Nat) → List Char → Option (List (Option String × Json) × List Char)
  | 0, _ => none
  | fuel + 1, cs =>
    match skip cs with
    | '"' :: rest =>
      match readText rest with
      | none => none
      | some (name, rest) =>
        match skip rest with
        | ':' :: rest =>
          match readValue fuel rest with
          | none => none
          | some (v, rest) =>
            match skip rest with
            | ',' :: rest => (readMembers fuel rest).map fun (ms, rest) => ((name, v) :: ms, rest)
            | '}' :: rest => some ([(name, v)], rest)
            | _ => none
        | _ => none
    | _ => none

end

def read (s : String) : Option Json :=
  match readValue (2 * s.length + 1) s.toList with
  | some (v, rest) => if skip rest = [] then some v else none
  | none => none

end Tournament.Json
