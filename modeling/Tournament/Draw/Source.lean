/-!
# Draws

What the simulation asks of chance, apart from where chance comes from: a number below a bound, or
a choice by weight. Shuffles are made of such requests. A source may be a stream of random words or
any other thing that answers; its answers stay within what was asked for.
-/

namespace Tournament.Draw

/-- The number of bits from which a bounded number is drawn. -/
inductive Width where
  | narrow
  | wide
  deriving DecidableEq, Repr

def Width.bits : Width → Nat
  | .narrow => 32
  | .wide => 64

def Width.size : Width → Nat
  | .narrow => UInt32.size
  | .wide => UInt64.size

theorem Width.size_pos (w : Width) : 0 < w.size := by
  cases w <;> decide

/-- A source of draws, with states of type `σ`. -/
structure Source (σ : Type) where
  below : Width → Nat → σ → Nat × σ
  weighted : List Float → σ → Nat × σ
  below_lt : ∀ w n s, 0 < n → (below w n s).1 < n
  weighted_lt : ∀ ws s, ws ≠ [] → (weighted ws s).1 < ws.length

inductive WeightError where
  | noItem
  /-- A weight is negative or not a number. -/
  | invalidWeight
  | allWeightsZero
  | unbounded
  deriving DecidableEq, Repr

def WeightError.message : WeightError → String
  | .noItem => "No weights provided in distribution"
  | .invalidWeight => "A weight is invalid in distribution"
  | .allWeightsZero => "All weights are zero in distribution"
  | .unbounded => "The weights have no finite sum"

def totalWeight : List Float → Float
  | [] => 0.0
  | w :: ws => ws.foldl (· + ·) w

def weightError? (weights : List Float) : Option WeightError :=
  if weights = [] then some .noItem
  else if weights.any fun w => !(w ≥ 0.0) then some .invalidWeight
  else if totalWeight weights == 0.0 then some .allWeightsZero
  else if !(totalWeight weights).isFinite then some .unbounded
  else none

namespace Source

variable {σ : Type}

def index (src : Source σ) (n : Nat) (h : 0 < n) (s : σ) : Fin n × σ :=
  (⟨(src.below .wide n s).1, src.below_lt .wide n s h⟩, (src.below .wide n s).2)

def roll (src : Source σ) (faces : Nat) (s : σ) : Nat × σ :=
  let (i, s) := src.below .narrow faces s
  (i + 1, s)

/-- A place in a list of weights, or the reason why there is none; the reason costs no draw. -/
def choose (src : Source σ) (weights : List Float) (s : σ) :
    Except WeightError (Fin weights.length) × σ :=
  match weightError? weights with
  | some e => (.error e, s)
  | none =>
    if h : weights ≠ [] then
      (.ok ⟨(src.weighted weights s).1, src.weighted_lt weights s h⟩, (src.weighted weights s).2)
    else (.error .noItem, s)

/-- Exchanges, from place `i` down to place 1, the element there with one at or before it. -/
def shuffleFrom {α : Type} (src : Source σ) : Nat → Array α → σ → Array α × σ
  | 0, xs, s => (xs, s)
  | i + 1, xs, s =>
    let (j, s) := src.below .narrow (i + 2) s
    shuffleFrom src i (xs.swapIfInBounds (i + 1) j) s

def shuffle {α : Type} (src : Source σ) (xs : List α) (s : σ) : List α × σ :=
  let (shuffled, s) := src.shuffleFrom (xs.length - 1) xs.toArray s
  (shuffled.toList, s)

theorem shuffleFrom_perm {α : Type} (src : Source σ) : ∀ (i : Nat) (xs : Array α) (s : σ),
    (src.shuffleFrom i xs s).1.toList.Perm xs.toList
  | 0, _, _ => .refl _
  | i + 1, xs, s => by
    refine (shuffleFrom_perm src i _ _).trans ?_
    rw [Array.swapIfInBounds_def]
    split
    · split
      · exact Array.perm_iff_toList_perm.mp (Array.swap_perm _ _)
      · exact .refl _
    · exact .refl _

theorem shuffle_perm {α : Type} (src : Source σ) (xs : List α) (s : σ) :
    (src.shuffle xs s).1.Perm xs :=
  shuffleFrom_perm src (xs.length - 1) xs.toArray s

end Source

end Tournament.Draw
