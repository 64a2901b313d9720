import Tournament.Draw.Keystream
import Tournament.Draw.Source

/-!
# Draws from a stream of random words

A bounded number is the high part of a random word times the bound; words whose product falls into
the last, incomplete share are passed over, so that every number is equally likely. A choice by
weight scales a random fraction to the sum of the weights and takes the first place whose running
sum lies above it.
-/

namespace Tournament.Draw

namespace Keystream

def nextWord (w : Width) (k : Keystream) : Nat × Keystream :=
  match w with
  | .narrow => (k.next.1.toNat, k.next.2)
  | .wide => (k.next64.1.toNat, k.next64.2)

/-- A number shifted up until it reaches the highest bit of a width. -/
def lift (w : Width) (n : Nat) : Nat :=
  n <<< (w.bits - (n.log2 + 1))

/-- Whether the product of a word and `n` lies in a complete share: its low part must stay below
the lifted `n`. -/
def accepts (w : Width) (n product : Nat) : Bool :=
  product % w.size < lift w n

/-- The product of `n` and the next word that is accepted. After `tries` words have been passed
over the next one is taken as it is; less than one word in two is passed over. -/
def product (w : Width) (n : Nat) : (tries : Nat) → Keystream → Nat × Keystream
  | 0, k => ((nextWord w k).1 % w.size * n, (nextWord w k).2)
  | tries + 1, k =>
    let p := (nextWord w k).1 % w.size * n
    if accepts w n p then (p, (nextWord w k).2) else product w n tries (nextWord w k).2

def below (w : Width) (n : Nat) (k : Keystream) : Nat × Keystream :=
  let (p, k) := product w n 1000 k
  (p / w.size, k)

theorem product_lt (w : Width) {n : Nat} (hn : 0 < n) :
    ∀ (tries : Nat) (k : Keystream), (product w n tries k).1 < n * w.size
  | 0, k => by
    rw [product, Nat.mul_comm n]
    exact Nat.mul_lt_mul_of_pos_right (Nat.mod_lt _ w.size_pos) hn
  | tries + 1, k => by
    simp only [product]
    split
    · rw [Nat.mul_comm n]
      exact Nat.mul_lt_mul_of_pos_right (Nat.mod_lt _ w.size_pos) hn
    · exact product_lt w hn tries _

theorem below_lt (w : Width) (n : Nat) (k : Keystream) (hn : 0 < n) : (below w n k).1 < n := by
  have := product_lt w hn 1000 k
  exact Nat.div_lt_of_lt_mul (by rwa [Nat.mul_comm] at this)

/-- One part in `2 ^ 52`. -/
def tick : Float :=
  Float.ofBits 0x3cb0000000000000

/-- The factor by which a fraction below 1 is brought below the sum of the weights: the sum, or
the float below it where the largest fraction times the sum would reach the sum. -/
def scaleTo (total : Float) : Float :=
  if total * (1.0 - tick) ≥ total then Float.ofBits (total.toBits - 1) else total

def nextFraction (k : Keystream) : Float × Keystream :=
  let (word, k) := k.next64
  ((word >>> 12).toFloat * tick, k)

/-- The first place whose running sum, `sum` being that of the weights before, lies above `x`; the
last place if there is none. -/
def placeOf (x : Float) : Float → List Float → Nat
  | _, [] => 0
  | _, [_] => 0
  | sum, w :: ws => if sum + w > x then 0 else placeOf x (sum + w) ws + 1

theorem placeOf_lt (x : Float) : ∀ (sum : Float) (ws : List Float), ws ≠ [] →
    placeOf x sum ws < ws.length
  | _, [], h => absurd rfl h
  | _, [_], _ => by simp [placeOf]
  | sum, w :: v :: ws, _ => by
    have := placeOf_lt x (sum + w) (v :: ws) (List.cons_ne_nil v ws)
    simp only [placeOf]
    split
    · simp
    · simpa using this

def weighted (ws : List Float) (k : Keystream) : Nat × Keystream :=
  let (fraction, k) := k.nextFraction
  (placeOf (fraction * scaleTo (totalWeight ws)) 0.0 ws, k)

end Keystream

/-- The stream of random words as a source of draws. -/
def seeded : Source Keystream where
  below := Keystream.below
  weighted := Keystream.weighted
  below_lt := Keystream.below_lt
  weighted_lt ws _ h := Keystream.placeOf_lt _ _ ws h

end Tournament.Draw
