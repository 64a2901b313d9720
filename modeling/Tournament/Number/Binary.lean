/-!
# Floating-point numbers as exact binary fractions

A finite floating-point number is `m * 2 ^ q` for a natural number `m` and an integer `q`, up to
its sign. Everything that is written or decided about its decimal digits goes through that form,
in exact arithmetic.
-/

namespace Tournament.Number

inductive Binary where
  | notANumber
  | infinite (negative : Bool)
  /-- The number `± m * 2 ^ q`. -/
  | finite (negative : Bool) (m : Nat) (q : Int)
  deriving DecidableEq, Repr

/-- The least `m` of a number with all its digits, `2 ^ 52`. -/
def unit : Nat :=
  4503599627370496

/-- Takes a floating-point number apart: sign, exponent of 11 bits, fraction of 52 bits. -/
def Binary.ofFloat (x : Float) : Binary :=
  let bits := x.toBits.toNat
  let negative := decide (2048 * unit ≤ bits)
  let exponent : Nat := bits / unit % 2048
  let fraction : Nat := bits % unit
  if exponent = 2047 then
    if fraction = 0 then .infinite negative else .notANumber
  else if exponent = 0 then .finite negative fraction (-1074)
  else .finite negative (unit + fraction) (Int.ofNat exponent - 1075)

structure Ratio where
  num : Nat
  den : Nat
  deriving DecidableEq, Repr

def Ratio.ofBinary (m : Nat) (q : Int) : Ratio :=
  match q with
  | .ofNat k => ⟨m <<< k, 1⟩
  | .negSucc k => ⟨m, 1 <<< (k + 1)⟩

def Ratio.shift (r : Ratio) (k : Int) : Ratio :=
  match k with
  | .ofNat k => ⟨r.num * Nat.pow 10 k, r.den⟩
  | .negSucc k => ⟨r.num, r.den * Nat.pow 10 (k + 1)⟩

/-- The whole number nearest to the quotient; of two, the even one. -/
def Ratio.round (r : Ratio) : Nat :=
  let whole := r.num / r.den
  let rest := r.num % r.den
  if r.den < 2 * rest ∨ (2 * rest = r.den ∧ whole % 2 = 1) then whole + 1 else whole

end Tournament.Number
