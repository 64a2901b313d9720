import Tournament.Address.Host

/-!
# Addresses

When a text is a valid absolute address by the URL standard: it has a scheme, and what follows the
scheme has a host and a port where it must, both well formed. Paths, queries and fragments are never
wrong.
-/

namespace Tournament.Address

/-- The kinds of schemes: those with a network host, files, and all others. -/
inductive Scheme where
  | network
  | file
  | other
  deriving DecidableEq, Repr

def Scheme.named (name : List Char) : Scheme :=
  match String.ofList (Text.lowerAscii name) with
  | "http" => .network
  | "https" => .network
  | "ws" => .network
  | "wss" => .network
  | "ftp" => .network
  | "file" => .file
  | _ => .other

def isSchemeSign (c : Char) : Bool :=
  c.isAlphanum || c = '+' || c = '-' || c = '.'

/-- The scheme at the front of a text, and what follows its colon. -/
def readScheme (cs : List Char) : Option (Scheme × List Char) :=
  match Text.cut ':' cs with
  | none => none
  | some (name, rest) =>
    if name.head?.any Char.isAlpha && name.all isSchemeSign then some (.named name, rest) else none

/-- What counts of a text: no controls and blanks around it, no tabs and line ends within. -/
def significant (cs : List Char) : List Char :=
  let isOuter := fun c : Char => c.toNat ≤ 0x20
  (((cs.dropWhile isOuter).reverse.dropWhile isOuter).reverse).filter fun c =>
    c ≠ '\t' && c ≠ '\n' && c ≠ '\r'

def endsAuthority (s : Scheme) (c : Char) : Bool :=
  c = '/' || c = '?' || c = '#' || (s ≠ .other && c = '\\')

/-- The length of the host at the front of a text: a colon outside brackets ends it. -/
def hostLength (inBrackets : Bool) : List Char → Nat
  | [] => 0
  | c :: rest =>
    if c = ':' ∧ !inBrackets then 0
    else hostLength (if c = '[' then true else if c = ']' then false else inBrackets) rest + 1

/-- Whether what follows the colon after a host begins with a port. -/
def isPort (cs : List Char) : Bool :=
  let ds := cs.takeWhile Char.isDigit
  let rest := cs.dropWhile Char.isDigit
  Number.ofDigits ds ≤ 65535 && rest.head?.all fun c => c = '\\'

/-- Whether the end of an authority, from its host on, is valid; `named` tells that a user or a
password stands before it. -/
def isHostAndPort (s : Scheme) (named : Bool) (cs : List Char) : Bool :=
  let n := hostLength false cs
  let host := cs.take n
  let port := cs.drop n
  if host = [] then s = .other && !named && port = []
  else
    (if s = .other then isOpaqueHost host else isHost host) &&
      match port with
      | [] => true
      | _ :: ds => isPort ds

/-- Whether an authority is valid. A user and a password stand before the last `@`; they may be
missing, but then something must follow. `more` tells that the address goes on after the
authority. -/
def isAuthority (s : Scheme) (cs : List Char) (more : Bool) : Bool :=
  if '@' ∈ cs then
    let rest := (cs.reverse.takeWhile (· ≠ '@')).reverse
    let user := cs.take (cs.length - rest.length - 1)
    if user = [] ∧ rest = [] ∧ more then false
    else isHostAndPort s (user ≠ [] && user ≠ [':']) rest
  else isHostAndPort s false cs

def startsWithAuthority (s : Scheme) (cs : List Char) : Bool :=
  isAuthority s (cs.takeWhile fun c => !endsAuthority s c)
    !(cs.dropWhile fun c => !endsAuthority s c).isEmpty

/-- Whether a text is a drive, which counts as part of a path. -/
def isDrive (cs : List Char) : Bool :=
  match cs with
  | [c, mark] => c.isAlpha && (mark = ':' || mark = '|')
  | _ => false

/-- Whether what follows the scheme of a file is valid: its host may be missing. -/
def isFileRest (cs : List Char) : Bool :=
  match cs with
  | a :: b :: rest =>
    if (a = '/' || a = '\\') && (b = '/' || b = '\\') then
      let host := rest.takeWhile fun c => !endsAuthority .file c
      host = [] || isDrive host || isHost host
    else true
  | _ => true

def isValid (s : String) : Bool :=
  match readScheme (significant s.toList) with
  | none => false
  | some (.network, rest) =>
    startsWithAuthority .network (rest.dropWhile fun c => c = '/' || c = '\\')
  | some (.file, rest) => isFileRest rest
  | some (.other, rest) =>
    match rest with
    | '/' :: '/' :: authority => startsWithAuthority .other authority
    | _ => true

end Tournament.Address
