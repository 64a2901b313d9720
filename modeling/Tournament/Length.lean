import Tournament.Number.Fixed
import Tournament.Number.Reading
import Tournament.SpecError
import Tournament.Text.Blank
import Tournament.Text.Letter

/-!
# Lengths

A length is a number of metres. Its text is a sequence of parts, each a number and a unit, such
as `5ft 10in`; the parts are added up from left to right.
-/

namespace Tournament

inductive LengthUnit where
  | metre | millimetre | centimetre | kilometre | inch | foot | yard | mile
  deriving DecidableEq, Repr

def LengthUnit.metres : LengthUnit → Float
  | .metre => 1.0
  | .millimetre => 0.001
  | .centimetre => 0.01
  | .kilometre => 1000.0
  | .inch => 0.0254
  | .foot => 0.3048
  | .yard => 0.9144
  | .mile => 1609.344

/-- The names of a unit, in lower case. A number without a unit counts metres. -/
def LengthUnit.names : LengthUnit → List String
  | .metre => ["", "m", "meter", "meters", "metre", "metres"]
  | .millimetre => ["mm", "millimeter", "millimeters", "millimetre", "millimetres"]
  | .centimetre => ["cm", "centimeter", "centimeters", "centimetre", "centimetres"]
  | .kilometre => ["km", "kilometer", "kilometers", "kilometre", "kilometres"]
  | .inch => ["in", "inch", "inches", "\""]
  | .foot => ["ft", "foot", "feet", "\x27"]
  | .yard => ["yd", "yard", "yards"]
  | .mile => ["mi", "mile", "miles"]

def LengthUnit.all : List LengthUnit :=
  [.metre, .millimetre, .centimetre, .kilometre, .inch, .foot, .yard, .mile]

/-- The unit with a given name, whatever the case of its letters `A` to `Z`. -/
def LengthUnit.named? (name : List Char) : Option LengthUnit :=
  LengthUnit.all.find? fun u => u.names.contains (String.ofList (Text.lowerAscii name))

structure Length where
  metres : Float
  deriving DecidableEq, Inhabited

namespace Length

inductive Flaw where
  | empty
  | noNumber
  | badNumber
  | unknownUnit
  | notFinite
  deriving DecidableEq, Repr

def Flaw.reason : Flaw → String
  | .empty => "empty"
  | .noNumber => "expected a number"
  | .badNumber => "bad number"
  | .unknownUnit => "unknown unit"
  | .notFinite => "not finite"

def isNumeral (c : Char) : Bool :=
  c.isDigit || c = '.'

def isUnitSign (c : Char) : Bool :=
  Text.isLetter c || c = '\x27' || c = '"'

structure Part where
  number : Float
  unit : LengthUnit

def Part.metres (p : Part) : Float :=
  p.number * p.unit.metres

/-- Reads the part at the front of a text, and the blanks after it. The number and the unit reach
as far as they can. -/
def readPart (cs : List Char) : Except Flaw (Part × List Char) :=
  let numeral := cs.takeWhile isNumeral
  let afterNumeral := Text.trimStart (cs.dropWhile isNumeral)
  if numeral = [] then .error .noNumber
  else
    match Number.readFloat numeral with
    | none => .error .badNumber
    | some number =>
      match LengthUnit.named? (afterNumeral.takeWhile isUnitSign) with
      | none => .error .unknownUnit
      | some unit => .ok (⟨number, unit⟩, Text.trimStart (afterNumeral.dropWhile isUnitSign))

theorem readPart_length_lt {cs rest : List Char} {p : Part} (h : readPart cs = .ok (p, rest)) :
    rest.length < cs.length := by
  simp only [readPart] at h
  split at h
  · simp at h
  · next hne =>
    split at h
    · simp at h
    · split at h
      · simp at h
      · simp only [Except.ok.injEq, Prod.mk.injEq] at h
        obtain ⟨-, rfl⟩ := h
        have h₁ : (cs.takeWhile isNumeral).length + (cs.dropWhile isNumeral).length = cs.length := by
          rw [← List.length_append, List.takeWhile_append_dropWhile]
        have h₂ := List.length_pos_iff.mpr hne
        have h₃ := Text.trimStart_length_le (cs.dropWhile isNumeral)
        have h₄ := (List.dropWhile_suffix (l := Text.trimStart (cs.dropWhile isNumeral))
          isUnitSign).length_le
        have h₅ := Text.trimStart_length_le
          ((Text.trimStart (cs.dropWhile isNumeral)).dropWhile isUnitSign)
        omega

def readParts (cs : List Char) : Except Flaw (List Part) :=
  if cs = [] then .ok []
  else
    match _h : readPart cs with
    | .error flaw => .error flaw
    | .ok (part, rest) =>
      match readParts rest with
      | .error flaw => .error flaw
      | .ok parts => .ok (part :: parts)
termination_by cs.length
decreasing_by exact readPart_length_lt _h

def total (parts : List Part) : Float :=
  parts.foldl (fun sum p => sum + p.metres) 0.0

def read (s : String) : Except Flaw Length :=
  match Text.trim s.toList with
  | [] => .error .empty
  | cs =>
    match readParts cs with
    | .error flaw => .error flaw
    | .ok parts => if (total parts).isFinite then .ok ⟨total parts⟩ else .error .notFinite

def parse (s : String) : Except SpecError Length :=
  match read s with
  | .ok l => .ok l
  | .error flaw => .error (.invalidValue "length" s flaw.reason)

inductive System where
  | metric
  | customary
  deriving DecidableEq, Repr

/-- The units of a system with their marks, the largest first, each with the least number of
metres it is used for. Smaller lengths are shown in the last unit. -/
def System.scale : System → List (LengthUnit × String) × (LengthUnit × String)
  | .metric => ([(.kilometre, "km"), (.metre, "m"), (.centimetre, "cm")], (.millimetre, "mm"))
  | .customary => ([(.mile, "mi"), (.foot, "ft")], (.inch, "in"))

/-- The length in the largest unit of the system that keeps it at least 1, with up to two decimal
places. -/
def format (system : System) (l : Length) : String :=
  let (unit, mark) :=
    (system.scale.1.find? fun u => l.metres ≥ u.1.metres).getD system.scale.2
  String.ofList (Number.shortFixedText (l.metres / unit.metres)) ++ mark

def text (l : Length) : String :=
  l.format .metric

end Length

end Tournament
