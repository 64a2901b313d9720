import Tournament.Number.Binary
import Tournament.Number.Natural

/-!
# The shortest decimal that reads back

A finite floating-point number stands for an interval of real numbers: those that round to it.
Its shortest text is the decimal with the fewest digits in that interval, the nearest of those to
the number itself.
-/

namespace Tournament.Number

structure Decimal where
  digits : Nat
  power : Int
  deriving DecidableEq, Repr

/-- The real numbers that round to a float, in units of a quarter of its last place: from `low` to
`high` around `value`, the ends included or not. -/
structure Interval where
  low : Ratio
  value : Ratio
  high : Ratio
  closed : Bool

/-- The interval of `m * 2 ^ q`. Below a power of two the neighbour is half as far away, except at
the smallest exponent; the ends belong to an even `m`. -/
def Interval.ofBinary (m : Nat) (q : Int) : Interval :=
  let below := if m = unit ∧ q ≠ -1074 then 1 else 2
  { low := .ofBinary (4 * m - below) (q - 2)
    value := .ofBinary (4 * m) (q - 2)
    high := .ofBinary (4 * m + 2) (q - 2)
    closed := m % 2 = 0 }

/-- Whether `r` is below `s`, or equal to it where that counts. -/
def Ratio.before (orEqual : Bool) (r s : Ratio) : Bool :=
  let left := r.num * s.den
  let right := s.num * r.den
  left < right || (orEqual && left == right)

/-- Whether the decimal `n * 10 ^ power` lies in the interval. -/
def Interval.contains (i : Interval) (n : Nat) (power : Int) : Bool :=
  let d := (Ratio.mk n 1).shift power
  i.low.before i.closed d && d.before i.closed i.high

/-- The multiple of `10 ^ power` in the interval that is nearest to its value, if one of the two
neighbours of the value lies there. Of two that are equally near the larger is taken. -/
def Interval.nearest? (i : Interval) (power : Int) : Option Nat :=
  let scaled := i.value.shift (-power)
  let down := scaled.num / scaled.den
  let rest := scaled.num % scaled.den
  match i.contains down power, i.contains (down + 1) power with
  | true, true => some (if 2 * rest < scaled.den then down else down + 1)
  | true, false => some down
  | false, true => some (down + 1)
  | false, false => none

/-- The first hit on the grids `10 ^ power`, `10 ^ (power - 1)`, … -/
def Interval.search (i : Interval) : Nat → Int → Decimal
  | 0, power => ⟨(i.value.shift (-power)).round, power⟩
  | n + 1, power =>
    match i.nearest? power with
    | some d => ⟨d, power⟩
    | none => i.search n (power - 1)

/-- A power of ten above the value of a ratio, by the lengths of its two numbers. -/
def Ratio.magnitude (r : Ratio) : Int :=
  ((digits r.num).length : Int) - (digits r.den).length + 1

/-- The shortest decimal that reads back as `m * 2 ^ q`. Twenty grids reach from above the first
digit down to the seventeenth, and seventeen digits always read back. -/
def shortest (m : Nat) (q : Int) : Decimal :=
  let i := Interval.ofBinary m q
  i.search 20 i.value.magnitude

/-- A decimal without an exponent: as many zeros as its power asks for. -/
def Decimal.positional (d : Decimal) : List Char :=
  let ds := (Number.digits d.digits).reverse.dropWhile (· = '0') |>.reverse
  let power := d.power + ((Number.digits d.digits).length - ds.length : Nat)
  match power with
  | .ofNat k => if ds = [] then ['0'] else ds ++ List.replicate k '0'
  | .negSucc k =>
    let places := k + 1
    let padded := List.replicate (places + 1 - ds.length) '0' ++ ds
    padded.take (padded.length - places) ++ ['.'] ++ padded.drop (padded.length - places)

/-- The shortest text of `x`, never with an exponent. A zero keeps its sign. -/
def shortestText (x : Float) : List Char :=
  match Binary.ofFloat x with
  | .notANumber => ['N', 'a', 'N']
  | .infinite negative => (if negative then ['-'] else []) ++ ['i', 'n', 'f']
  | .finite negative m q =>
    (if negative then ['-'] else []) ++ if m = 0 then ['0'] else (shortest m q).positional

end Tournament.Number
