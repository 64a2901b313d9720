/-!
# Punycode

Labels of host names beyond ASCII are written in ASCII after the mark `xn--`: first the ASCII
characters and a hyphen, then a row of numbers that say which other characters go in and where
(RFC 3492). Each number has as many digits to the base 36 as its thresholds ask for.
-/

namespace Tournament.Address.Punycode

/-- The value of a digit: letters from 0, then the digits from 26. -/
def digitValue? (c : Char) : Option Nat :=
  if 'a' ≤ c ∧ c ≤ 'z' then some (c.toNat - 'a'.toNat)
  else if 'A' ≤ c ∧ c ≤ 'Z' then some (c.toNat - 'A'.toNat)
  else if c.isDigit then some (c.toNat - '0'.toNat + 26)
  else none

/-- The threshold of the digit at place `k`, counted in steps of 36. -/
def threshold (k bias : Nat) : Nat :=
  if k ≤ bias then 1 else if bias + 26 ≤ k then 26 else k - bias

/-- Divides by 35 until at most 455 is left, and counts the divisions in steps of 36. -/
def damp (delta k : Nat) : Nat × Nat :=
  if 455 < delta then damp (delta / 35) (k + 36) else (delta, k)
termination_by delta
decreasing_by omega

/-- The bias for the next number, after a number `delta` that put in a character to make `count`. -/
def adapt (delta count : Nat) (first : Bool) : Nat :=
  let delta := if first then delta / 700 else delta / 2
  let (delta, k) := damp (delta + delta / count) 0
  k + 36 * delta / (delta + 38)

/-- Reads a number and adds it to `sum`, from place `k` on with a digit worth `weight`. Neither the
sum nor the worth of a place may reach 2 to the 32. -/
def readNumber (bias : Nat) : List Char → (k weight sum : Nat) → Option (Nat × List Char)
  | [], _, _, _ => none
  | c :: rest, k, weight, sum =>
    match digitValue? c with
    | none => none
    | some d =>
      let sum := sum + d * weight
      let next := weight * (36 - threshold k bias)
      if UInt32.size ≤ sum then none
      else if d < threshold k bias then some (sum, rest)
      else if UInt32.size ≤ next then none
      else readNumber bias rest (k + 36) next sum

theorem readNumber_length_lt {bias : Nat} : ∀ {cs : List Char} {k weight sum n : Nat}
    {rest : List Char}, readNumber bias cs k weight sum = some (n, rest) → rest.length < cs.length
  | [], _, _, _, _, _, h => by simp [readNumber] at h
  | c :: cs, k, weight, sum, n, rest, h => by
    rw [readNumber] at h
    split at h
    · simp at h
    · dsimp only at h
      split at h
      · simp at h
      · split at h
        · simp only [Option.some.injEq, Prod.mk.injEq] at h
          simp [← h.2]
        · split at h
          · simp at h
          · have := readNumber_length_lt h
            simp only [List.length_cons]
            omega

/-- Puts in the characters that the numbers ask for: `code` is the code point reached, `place` the
place in `output` where the count goes on. -/
def insertAll (bias code place : Nat) (output cs : List Char) : Option (List Char) :=
  match cs with
  | [] => some output
  | c :: rest =>
    match _h : readNumber bias (c :: rest) 36 1 place with
    | none => none
    | some (n, rest) =>
      let count := output.length + 1
      let code := code + n / count
      if Nat.isValidChar code then
        insertAll (adapt (n - place) count (place = 0)) code
          (n % count + 1) (output.insertIdx (n % count) (Char.ofNat code)) rest
      else none
termination_by cs.length
decreasing_by exact readNumber_length_lt _h

/-- Reads what follows the mark `xn--`. The last hyphen ends the ASCII characters, of which there
must then be some. -/
def decode (cs : List Char) : Option (List Char) :=
  let tail := (cs.reverse.takeWhile (· ≠ '-')).reverse
  let basic := cs.take (cs.length - tail.length - 1)
  if '-' ∈ cs ∧ basic = [] then none else insertAll 72 128 0 basic tail

end Tournament.Address.Punycode
