import Tournament.Number.Natural

/-!
# Reading decimal numbers

A number is an optional sign followed by digits with at most one point, at least one digit, and
an optional exponent; or, in any case of letters, by `inf`, `infinity` or `nan`. Its value is the
floating-point number nearest to the decimal, ties to even.
-/

namespace Tournament.Number

/-- The parts of an unsigned decimal: the digits before and after the point, and the exponent. -/
structure Numeral where
  whole : List Char
  fraction : List Char
  exponent : Int
  deriving DecidableEq, Repr

def readExponent (cs : List Char) : Option Int :=
  let negative := cs.head? = some '-'
  let ds := if negative ∨ cs.head? = some '+' then cs.tail else cs
  if ds ≠ [] ∧ ds.all Char.isDigit then
    some (if negative then -(ofDigits ds : Int) else ofDigits ds)
  else none

def Numeral.read (cs : List Char) : Option Numeral :=
  let whole := cs.takeWhile Char.isDigit
  let afterWhole := cs.dropWhile Char.isDigit
  let pointed := afterWhole.head? = some '.'
  let fraction := if pointed then afterWhole.tail.takeWhile Char.isDigit else []
  let rest := if pointed then afterWhole.tail.dropWhile Char.isDigit else afterWhole
  if whole = [] ∧ fraction = [] then none
  else
    match rest with
    | [] => some ⟨whole, fraction, 0⟩
    | c :: e =>
      if c = 'e' ∨ c = 'E' then (readExponent e).map fun x => ⟨whole, fraction, x⟩ else none

def Numeral.digits (n : Numeral) : Nat :=
  ofDigits (n.whole ++ n.fraction)

def Numeral.power (n : Numeral) : Int :=
  n.exponent - n.fraction.length

/-- The value of a numeral. The first digit decides at once where the value is beyond the largest
float or below half of the smallest one. -/
def Numeral.value (n : Numeral) : Float :=
  if n.digits = 0 then 0.0
  else
    let size := ((Number.digits n.digits).length : Int) + n.power
    if 310 < size then 1.0 / 0.0
    else if size < -330 then 0.0
    else
      match n.power with
      | .ofNat k => Float.ofScientific n.digits false k
      | .negSucc k => Float.ofScientific n.digits true (k + 1)

def readUnsigned (cs : List Char) : Option Float :=
  match Numeral.read cs with
  | some n => some n.value
  | none =>
    match String.ofList (cs.map Char.toLower) with
    | "inf" => some (1.0 / 0.0)
    | "infinity" => some (1.0 / 0.0)
    | "nan" => some (0.0 / 0.0)
    | _ => none

def readFloat (cs : List Char) : Option Float :=
  match cs with
  | '-' :: rest => (readUnsigned rest).map (-·)
  | '+' :: rest => readUnsigned rest
  | _ => readUnsigned cs

end Tournament.Number
