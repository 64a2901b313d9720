import Tournament.Number.Binary
import Tournament.Number.Natural

/-!
# Numbers with two decimal places

The exact value is rounded to hundredths, a half going to the even neighbour.
-/

namespace Tournament.Number

/-- A whole number of hundredths with a point before its last two digits. -/
def hundredthsText (n : Nat) : List Char :=
  digits (n / 100) ++ ['.'] ++ digits (n % 100 / 10) ++ digits (n % 10)

/-- The text of `x` with two decimal places. A zero keeps its sign. -/
def fixedText (x : Float) : List Char :=
  match Binary.ofFloat x with
  | .notANumber => ['N', 'a', 'N']
  | .infinite negative => (if negative then ['-'] else []) ++ ['i', 'n', 'f']
  | .finite negative m q =>
    (if negative then ['-'] else []) ++ hundredthsText ((Ratio.ofBinary m q).shift 2).round

def dropTrailing (c : Char) (cs : List Char) : List Char :=
  (cs.reverse.dropWhile (· = c)).reverse

/-- The text of `x` with up to two decimal places: trailing zeros, and then a trailing point, are
left out. -/
def shortFixedText (x : Float) : List Char :=
  dropTrailing '.' (dropTrailing '0' (fixedText x))

end Tournament.Number
