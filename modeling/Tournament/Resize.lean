import Tournament.Length
import Tournament.Number.Shortest

/-!
# Changes of size

A change of size adds a signed length to a height or multiplies the height by a factor. It is
written as a sign and an operand: `+10cm`, `-1ft`, `x2`, `*0.5`, `/3`.
-/

namespace Tournament

inductive Resize where
  | shift (metres : Float)
  | scale (factor : Float)
  deriving DecidableEq

namespace Resize

inductive Flaw where
  | empty
  | badFactor
  | notPositive
  | badLength
  | unknownSign
  deriving DecidableEq, Repr

def Flaw.reason : Flaw → String
  | .empty => "empty"
  | .badFactor => "bad factor"
  | .notPositive => "factor must be positive"
  | .badLength => "bad length"
  | .unknownSign => "expected one of x * / + -"

def readFactor (cs : List Char) : Except Flaw Float :=
  match Number.readFloat cs with
  | none => .error .badFactor
  | some factor => if !factor.isFinite || factor ≤ 0.0 then .error .notPositive else .ok factor

def readShift (cs : List Char) : Except Flaw Float :=
  match Length.read (String.ofList cs) with
  | .ok l => .ok l.metres
  | .error _ => .error .badLength

/-- Reads a change of size from a text without blanks around it. -/
def read (cs : List Char) : Except Flaw Resize :=
  match cs with
  | [] => .error .empty
  | sign :: rest =>
    let operand := Text.trim rest
    if sign ∈ ['x', 'X', '*'] then (readFactor operand).map .scale
    else if sign = '/' then (readFactor operand).map fun factor => .scale (1.0 / factor)
    else if sign = '+' then (readShift operand).map fun metres => .shift (1.0 * metres)
    else if sign = '-' then (readShift operand).map fun metres => .shift (-1.0 * metres)
    else .error .unknownSign

def parse (s : String) : Except SpecError Resize :=
  let cs := Text.trim s.toList
  match read cs with
  | .ok r => .ok r
  | .error flaw => .error (.invalidValue "size" (String.ofList cs) flaw.reason)

def target (r : Resize) (height : Length) : Length :=
  match r with
  | .shift metres => ⟨height.metres + metres⟩
  | .scale factor => ⟨height.metres * factor⟩

def apply (r : Resize) (height : Length) : Length :=
  if (r.target height).metres < 0.0 then ⟨0.0⟩ else r.target height

def text : Resize → String
  | .shift metres =>
    if metres < 0.0 then "-" ++ Length.text ⟨-metres⟩ else "+" ++ Length.text ⟨metres⟩
  | .scale factor => "x" ++ String.ofList (Number.shortestText factor)

end Resize

end Tournament
