import Tournament.Address.Composition
import Tournament.Address.Mapping
import Tournament.Address.Numeric
import Tournament.Address.Properties
import Tournament.Address.Punycode
import Tournament.Text.Blank

/-!
# Hosts

A host is a domain name, a numeric address, or in brackets an address of version 6. The characters
of a domain name are first unescaped, mapped and composed; then every label must be well formed, and
a name whose last label is a number must be an address.
-/

namespace Tournament.Address

open Text (inRanges)

/-! ## Unescaping and mapping -/

/-- Puts bytes in the place of the escapes `%` and two hexadecimal digits. -/
def unescape : List Char → List UInt8
  | [] => []
  | '%' :: a :: b :: rest =>
    if isHexDigit a && isHexDigit b then
      UInt8.ofNat (16 * hexDigitValue a + hexDigitValue b) :: unescape rest
    else (String.singleton '%').toUTF8.toList ++ unescape (a :: b :: rest)
  | c :: rest => (String.singleton c).toUTF8.toList ++ unescape rest

/-- What the character with code point `n` stands for, as a member of a run. -/
def ImageRun.image? (r : ImageRun) (n : Nat) : Option Char :=
  if r.first ≤ n && n ≤ r.last && (n - r.first) % r.step = 0 then
    some (Char.ofNat (r.target + (n - r.first)))
  else none

/-- What the character with code point `n` stands for, `targets` being what the characters from
`first` on stand for. -/
def targetOf? {α : Type} (n first : Nat) (targets : List α) : Option α :=
  if first ≤ n then targets[n - first]? else none

/-- What the character with code point `n`, beyond ASCII, stands for, if not for itself. -/
def image? (n : Nat) : Option (List Char) :=
  match imageRuns.findSome? (·.image? n) with
  | some c => some [c]
  | none =>
    match imageLetters.findSome? fun (first, s) => targetOf? n first s.toList with
    | some c => some [c]
    | none =>
      (imageTexts.findSome? fun (first, ss) => targetOf? n first ss).map String.toList

/-- What a character stands for in a host name; nothing if it may not occur. -/
def image (c : Char) : Option (List Char) :=
  if c.toNat < 0x80 then some [c.toLower]
  else if inRanges forbiddenRanges c then none
  else if inRanges droppedRanges c then some []
  else some ((image? c.toNat).getD [c])

/-- What the characters of a text stand for in a host name. -/
def imageAll : List Char → Option (List Char)
  | [] => some []
  | c :: rest => do
    let i ← image c
    let is ← imageAll rest
    return i ++ is

def mapped (cs : List Char) : Option (List Char) :=
  (imageAll cs).map composed

def isForbiddenInDomain (c : Char) : Bool :=
  c.toNat ≤ 0x20 || c.toNat = 0x7F || "%#/:<>?@[\\]^|".toList.contains c

/-! ## Labels -/

inductive Direction where
  | left
  | right
  | arabicDigit
  | europeanDigit
  | neutral
  | nonspacing
  deriving DecidableEq, Repr

def Direction.of (c : Char) : Direction :=
  if c.toNat < 0x80 then
    if c.isAlpha then .left else if c.isDigit then .europeanDigit else .neutral
  else if inRanges rightToLeftRanges c then .right
  else if inRanges arabicDigitRanges c then .arabicDigit
  else if inRanges europeanDigitRanges c then .europeanDigit
  else if inRanges nonspacingRanges c then .nonspacing
  else if inRanges neutralRanges c then .neutral
  else .left

/-- Whether a label has a character that makes the directions of the whole name matter. -/
def hasRightward (label : List Char) : Bool :=
  label.any fun c => Direction.of c = .right || Direction.of c = .arabicDigit

/-- Whether the directions within a label agree (RFC 5893): it begins with a letter, keeps to the
direction of that letter, and ends in a letter or digit of it, marks aside; European and Arabic
digits do not mix. -/
def directionsAgree (label : List Char) : Bool :=
  let ds := label.map Direction.of
  let lastOnes := ds.reverse.dropWhile (· = .nonspacing)
  match ds.head? with
  | none => true
  | some .left =>
    ds.all (fun d => d ≠ .right && d ≠ .arabicDigit) &&
      lastOnes.head?.any fun d => d = .left || d = .europeanDigit
  | some .right =>
    ds.all (· ≠ .left) &&
      lastOnes.head?.any (fun d => d = .right || d = .europeanDigit || d = .arabicDigit) &&
      !(ds.contains .europeanDigit && ds.contains .arabicDigit)
  | some _ => false

/-- Whether a joiner may stand between what comes before it, nearest first, and what comes after
it: after a virama, which is a mark of class 9, or, for the non-joiner, between two letters that
would join. -/
def joinerFits (c : Char) (before after : List Char) : Bool :=
  before.head?.any (combiningClass · = 9) ||
    (c.toNat = 0x200C &&
      (before.dropWhile (inRanges transparentRanges)).head?.any (inRanges joinsNextRanges) &&
      (after.dropWhile (inRanges transparentRanges)).head?.any (inRanges joinsPreviousRanges))

/-- Whether every joiner of a label may stand where it does, `before` being what was passed. -/
def joinersFit (before : List Char) : List Char → Bool
  | [] => true
  | c :: rest =>
    ((c.toNat ≠ 0x200C && c.toNat ≠ 0x200D) || joinerFits c before rest) &&
      joinersFit (c :: before) rest

def maxLabelLength : Nat := 1000

def maxCodeLength : Nat := 2000

def isAscii (cs : List Char) : Bool :=
  cs.all (·.toNat < 0x80)

/-- Whether a label is well formed by itself: it begins with no mark, its joiners fit, and it is not
too long. -/
def isWellFormed (label : List Char) : Bool :=
  !label.head?.any (inRanges markRanges) && joinersFit [] label &&
    (isAscii label || label.length ≤ maxLabelLength)

/-- The characters of a label that is written with the mark `xn--`. There must be one beyond
ASCII, and mapping must leave them as they are. -/
def decodeLabel (code : List Char) : Option (List Char) := do
  if !isAscii code || maxCodeLength < code.length then none
  else
    let label ← Punycode.decode code
    if mapped label = some label && !isAscii label then some label else none

def readLabel (label : List Char) : Option (List Char) :=
  match label with
  | 'x' :: 'n' :: '-' :: '-' :: code => decodeLabel code
  | _ => some label

def domainLabels (cs : List Char) : Option (List (List Char)) := do
  let name ← mapped cs
  if name.any isForbiddenInDomain then none
  else
    let labels := splitPoints name
    let decoded ← labels.mapM readLabel
    if decoded.all isWellFormed && (!decoded.any hasRightward || decoded.all directionsAgree) then
      some labels
    else none

/-! ## Hosts -/

/-- Whether a text in brackets is a version 6 address, the bracket before it being left out. -/
def isBracketed (cs : List Char) : Bool :=
  cs.getLast? = some ']' && isVersion6 cs.dropLast

/-- Whether a text is the host of an address whose scheme knows domain names. -/
def isHost (cs : List Char) : Bool :=
  match cs with
  | '[' :: rest => isBracketed rest
  | _ =>
    match String.fromUTF8? ⟨(unescape cs).toArray⟩ with
    | none => false
    | some s =>
      match domainLabels s.toList with
      | none => false
      | some labels =>
        labels ≠ [[]] && (!endsInNumber labels || isVersion4 labels)

/-- Whether a text is the host of an address of any other scheme. -/
def isOpaqueHost (cs : List Char) : Bool :=
  match cs with
  | '[' :: rest => isBracketed rest
  | _ => !cs.any fun c => "\x00\t\n\r #/:<>?@[\\]^|".toList.contains c

end Tournament.Address
