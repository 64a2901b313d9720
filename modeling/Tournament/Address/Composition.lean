import Tournament.Address.Composites

/-!
# Canonical composition

A name that looks the same may be written with composite characters or with their parts, and marks
on different sides of a letter may come in any order. The composed form settles both: composite
characters are taken apart, marks are put in order, and parts are joined again as far as they go. It
is made of mapped names, in which no character remains that stands for another.
-/

namespace Tournament.Address

/-- The combining class of a character: marks of different classes sit on different sides of their
letter, and class zero starts a new group. -/
def combiningClass (c : Char) : Nat :=
  match combiningClasses.find? fun r => r.1 ≤ c.toNat && c.toNat ≤ r.2.1 with
  | some (_, _, n) => n
  | none => 0

/-- The two parts of a syllable of the Korean script: a syllable without a final letter and the
letter, or an initial letter and a vowel. -/
def syllableParts? (c : Char) : Option (Char × Char) :=
  let n := c.toNat - 0xAC00
  if c.toNat < 0xAC00 || 0xD7A3 < c.toNat then none
  else if n % 28 ≠ 0 then some (Char.ofNat (c.toNat - n % 28), Char.ofNat (0x11A7 + n % 28))
  else some (Char.ofNat (0x1100 + n / 588), Char.ofNat (0x1161 + n % 588 / 28))

def syllable? (a b : Char) : Option Char :=
  let x := a.toNat
  let y := b.toNat
  if 0x1100 ≤ x && x ≤ 0x1112 && 0x1161 ≤ y && y ≤ 0x1175 then
    some (Char.ofNat (0xAC00 + (x - 0x1100) * 588 + (y - 0x1161) * 28))
  else if 0xAC00 ≤ x && x ≤ 0xD7A3 && (x - 0xAC00) % 28 = 0 && 0x11A8 ≤ y && y ≤ 0x11C2 then
    some (Char.ofNat (x + (y - 0x11A7)))
  else none

def parts? (c : Char) : Option (Char × Char) :=
  match composites.find? (·.1 = c.toNat) with
  | some (_, a, b) => some (Char.ofNat a, Char.ofNat b)
  | none => syllableParts? c

def whole? (a b : Char) : Option Char :=
  match composites.find? fun r => r.2.1 = a.toNat && r.2.2 = b.toNat with
  | some (n, _, _) => some (Char.ofNat n)
  | none => syllable? a b

def takeApart (cs : List Char) : List Char :=
  cs.flatMap fun c =>
    match parts? c with
    | some (a, b) => [a, b]
    | none => [c]

/-- Puts a character of class `n` before a text in order, behind the marks that it must follow. -/
def insertMark (c : Char) (n : Nat) : List (Char × Nat) → List (Char × Nat)
  | [] => [(c, n)]
  | (d, m) :: rest =>
    if m ≠ 0 && m < n then (d, m) :: insertMark c n rest else (c, n) :: (d, m) :: rest

/-- A text with its marks in the order of their classes, and the class of each character. Marks of
one class stay as they are, since they are on the same side of the letter. -/
def inOrder : List Char → List (Char × Nat)
  | [] => []
  | c :: cs => insertMark c (combiningClass c) (inOrder cs)

/-- Joins what follows `starter` to it. A mark joins only if no mark of its class or of a higher one
stands between; those that did not join are in `passed`, nearest first, the last of class `last`. -/
def joinAfter (starter : Char) (passed : List Char) (last : Nat) :
    List (Char × Nat) → List Char
  | [] => starter :: passed.reverse
  | (c, n) :: rest =>
    match if passed = [] || last < n then whole? starter c else none with
    | some whole => joinAfter whole passed last rest
    | none =>
      if n = 0 then starter :: passed.reverse ++ joinAfter c [] 0 rest
      else joinAfter starter (c :: passed) n rest

def join : List (Char × Nat) → List Char
  | [] => []
  | (c, n) :: rest => if n = 0 then joinAfter c [] 0 rest else c :: join rest

/-- The composed form of a text. Composite characters nest two deep at most. -/
def composed (cs : List Char) : List Char :=
  join (inOrder (takeApart (takeApart cs)))

end Tournament.Address
