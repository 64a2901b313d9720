/-!
# Natural numbers as text

A counting number is written with the digits `0` to `9`; a plus sign may stand before it.
-/

namespace Tournament.Number

def ofDigits (ds : List Char) : Nat :=
  ds.foldl (fun n d => 10 * n + (d.toNat - '0'.toNat)) 0

/-- Reads a number below `bound`: at least one digit, after at most one plus sign. -/
def readNatural (bound : Nat) (cs : List Char) : Option Nat :=
  let ds := if cs.head? = some '+' then cs.tail else cs
  if ds ≠ [] ∧ ds.all Char.isDigit ∧ ofDigits ds < bound then some (ofDigits ds) else none

def readNatural32 (s : String) : Option Nat :=
  readNatural UInt32.size s.toList

def readNatural64 (s : String) : Option Nat :=
  readNatural UInt64.size s.toList

def readPositive32 (s : String) : Option Nat :=
  (readNatural32 s).filter (0 < ·)

def readPositive64 (s : String) : Option Nat :=
  (readNatural64 s).filter (0 < ·)

def digits (n : Nat) : List Char :=
  Nat.toDigits 10 n

end Tournament.Number
