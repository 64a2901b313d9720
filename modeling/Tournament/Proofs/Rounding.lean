import Tournament.Number.Binary
import Mathlib.Tactic.Ring

/-!
# Rounding to the nearest float

The floats that are not negative, infinity among them, are in the order of their bits, read as a
number: the `code` of the float.  Its `magnitude` is its value in units of the smallest float.  Any
magnitude is rounded to a code by `nearestCode`, which is monotone and leaves the magnitudes of
floats alone.  A magnitude that is a quotient is rounded by `Ratio.nearestCode`, which is monotone
too.
-/

namespace Tournament.Number

/-! ## Rounding a quotient -/

theorem Ratio.round_mono {n n' d : Nat} (h : n ≤ n') :
    (Ratio.mk n d).round ≤ (Ratio.mk n' d).round := by
  have hwhole : n / d ≤ n' / d := Nat.div_le_div_right h
  have hn := Nat.div_add_mod n d
  have hn' := Nat.div_add_mod n' d
  unfold Ratio.round
  dsimp only
  rcases Nat.lt_or_eq_of_le hwhole with hlt | heq
  · split_ifs <;> omega
  · rw [heq] at hn ⊢
    split_ifs <;> omega

theorem Ratio.div_le_round (n d : Nat) : n / d ≤ (Ratio.mk n d).round := by
  unfold Ratio.round
  dsimp only
  split_ifs <;> omega

theorem Ratio.round_le_of_le_mul {n d k : Nat} (hd : 0 < d) (h : n ≤ k * d) :
    (Ratio.mk n d).round ≤ k := by
  have hround := Ratio.round_mono (d := d) h
  have hexact : (Ratio.mk (k * d) d).round = k := by
    simp [Ratio.round, Nat.mul_div_cancel k hd]
    omega
  omega

theorem Ratio.round_mul (n d : Nat) {k : Nat} (hk : 0 < k) :
    (Ratio.mk (n * k) (d * k)).round = (Ratio.mk n d).round := by
  unfold Ratio.round
  dsimp only
  rw [Nat.mul_div_mul_right _ _ hk, Nat.mul_mod_mul_right, ← Nat.mul_assoc]
  simp only [Nat.mul_lt_mul_right hk, Nat.mul_right_cancel_iff hk]

theorem Ratio.round_le_round {n d n' d' : Nat} (hd : 0 < d) (hd' : 0 < d') (h : n * d' ≤ n' * d) :
    (Ratio.mk n d).round ≤ (Ratio.mk n' d').round :=
  calc (Ratio.mk n d).round = (Ratio.mk (n * d') (d * d')).round := (Ratio.round_mul n d hd').symm
    _ ≤ (Ratio.mk (n' * d) (d * d')).round := Ratio.round_mono h
    _ = (Ratio.mk (n' * d) (d' * d)).round := by rw [Nat.mul_comm d d']
    _ = (Ratio.mk n' d').round := Ratio.round_mul n' d' hd

theorem Ratio.round_one (n : Nat) : (Ratio.mk n 1).round = n := by
  simp [Ratio.round, Nat.mod_one]

/-! ## Codes and magnitudes -/

def code (x : Float) : Nat :=
  x.toBits.toNat

def infinityCode : Nat :=
  2047 * unit

/-- The value of the float with a given code, in units of the smallest float. -/
def magnitude (c : Nat) : Nat :=
  if c < unit then c else (unit + c % unit) * 2 ^ (c / unit - 1)

/-- How many low digits of a magnitude a float has no room for. -/
def dropped (n : Nat) : Nat :=
  n.log2 - 52

/-- The code of the float nearest to a magnitude, ties to even, or of infinity where the exponents
end. -/
def nearestCode (n : Nat) : Nat :=
  min (dropped n * unit + (Ratio.mk n (2 ^ dropped n)).round) infinityCode

def Ratio.nearestCode (r : Ratio) : Nat :=
  min (dropped (r.num / r.den) * unit +
    (Ratio.mk r.num (r.den * 2 ^ dropped (r.num / r.den))).round) infinityCode

theorem unit_eq : unit = 2 ^ 52 := by
  decide

theorem log2_mul_two_pow {m : Nat} (hm : 0 < m) (k : Nat) :
    (m * 2 ^ k).log2 = m.log2 + k := by
  have hne : m * 2 ^ k ≠ 0 := Nat.mul_ne_zero hm.ne' (Nat.two_pow_pos k).ne'
  rw [Nat.log2_eq_iff hne, Nat.add_right_comm, Nat.pow_add, Nat.pow_add]
  constructor
  · exact Nat.mul_le_mul_right _ (Nat.log2_self_le hm.ne')
  · exact Nat.mul_lt_mul_of_pos_right Nat.lt_log2_self (Nat.two_pow_pos k)

theorem log2_mul_two_pow_div {n d : Nat} (hle : d ≤ n) (hd : 0 < d) (k : Nat) :
    (n * 2 ^ k / d).log2 = (n / d).log2 + k := by
  have hwhole : 0 < n / d := Nat.div_pos hle hd
  have hlow : n / d * 2 ^ k ≤ n * 2 ^ k / d := by
    rw [Nat.le_div_iff_mul_le hd, Nat.mul_right_comm]
    exact Nat.mul_le_mul_right _ (Nat.div_mul_le_self n d)
  have hhigh : n * 2 ^ k / d < (n / d + 1) * 2 ^ k := by
    rw [Nat.div_lt_iff_lt_mul hd, Nat.mul_right_comm]
    have hlt : n < (n / d + 1) * d := (Nat.div_lt_iff_lt_mul hd).mp (Nat.lt_succ_self _)
    exact Nat.mul_lt_mul_of_pos_right hlt (Nat.two_pow_pos k)
  have hfirst : 2 ^ (n / d).log2 ≤ n / d := Nat.log2_self_le hwhole.ne'
  have hlast : n / d + 1 ≤ 2 ^ ((n / d).log2 + 1) := Nat.lt_log2_self
  rw [Nat.log2_eq_iff (by have := Nat.mul_pos hwhole (Nat.two_pow_pos k); omega),
    Nat.add_right_comm, Nat.pow_add, Nat.pow_add _ _ k]
  exact ⟨(Nat.mul_le_mul_right _ hfirst).trans hlow,
    hhigh.trans_le (Nat.mul_le_mul_right _ hlast)⟩

theorem lt_two_pow_dropped (n : Nat) : n < 2 * unit * 2 ^ dropped n := by
  have hlog : n < 2 ^ (n.log2 + 1) := Nat.lt_log2_self
  have hpow : 2 * unit * 2 ^ dropped n = 2 ^ (53 + dropped n) := by
    rw [unit_eq, ← Nat.pow_succ', ← Nat.pow_add]
  have hle : 2 ^ (n.log2 + 1) ≤ 2 ^ (53 + dropped n) :=
    Nat.pow_le_pow_right (by decide) (by unfold dropped; omega)
  omega

theorem unit_mul_two_pow_le {n : Nat} (h : 0 < dropped n) : unit * 2 ^ dropped n ≤ n := by
  have hlog : 52 + dropped n = n.log2 := by
    unfold dropped at h ⊢
    omega
  have hne : n ≠ 0 := by
    rintro rfl
    simp [dropped] at h
  rw [unit_eq, ← Nat.pow_add, hlog]
  exact Nat.log2_self_le hne

theorem dropped_le {m k : Nat} (hm : 0 < m) (hlt : m < 2 * unit) : dropped (m * 2 ^ k) ≤ k := by
  have hlog : m.log2 < 53 := (Nat.log2_lt hm.ne').mpr (by rw [unit_eq] at hlt; omega)
  have hmul := log2_mul_two_pow hm k
  unfold dropped
  omega

theorem dropped_mono {n n' : Nat} (h : n ≤ n') : dropped n ≤ dropped n' := by
  have hlog : n.log2 ≤ n'.log2 := by
    rcases Nat.eq_zero_or_pos n with rfl | hpos
    · simp
    · rw [Nat.le_log2 (by omega)]
      exact (Nat.log2_self_le (by omega)).trans h
  exact Nat.sub_le_sub_right hlog 52

theorem Ratio.round_dropped_le (n : Nat) {d : Nat} (hd : 0 < d) :
    (Ratio.mk n (d * 2 ^ dropped (n / d))).round ≤ 2 * unit := by
  have hlt := lt_two_pow_dropped (n / d)
  rw [Nat.div_lt_iff_lt_mul hd, Nat.mul_assoc, Nat.mul_comm (2 ^ _) d] at hlt
  exact Ratio.round_le_of_le_mul (Nat.mul_pos hd (Nat.two_pow_pos _)) hlt.le

theorem Ratio.unit_le_round_dropped {n d : Nat} (h : 0 < dropped (n / d)) :
    unit ≤ (Ratio.mk n (d * 2 ^ dropped (n / d))).round :=
  calc unit ≤ n / d / 2 ^ dropped (n / d) :=
        (Nat.le_div_iff_mul_le (Nat.two_pow_pos _)).mpr (unit_mul_two_pow_le h)
    _ = n / (d * 2 ^ dropped (n / d)) := Nat.div_div_eq_div_mul ..
    _ ≤ (Ratio.mk n (d * 2 ^ dropped (n / d))).round := Ratio.div_le_round _ _

theorem Ratio.nearestCode_mono {n d n' d' : Nat} (hd : 0 < d) (hd' : 0 < d')
    (h : n * d' ≤ n' * d) : (Ratio.mk n d).nearestCode ≤ (Ratio.mk n' d').nearestCode := by
  have hwhole : n / d ≤ n' / d' :=
    calc n / d = n * d' / (d * d') := (Nat.mul_div_mul_right n d hd').symm
      _ ≤ n' * d / (d * d') := Nat.div_le_div_right h
      _ = n' / d' := by rw [Nat.mul_comm d d', Nat.mul_div_mul_right n' d' hd]
  unfold Ratio.nearestCode
  dsimp only
  apply min_le_min_right
  rcases Nat.lt_or_eq_of_le (dropped_mono hwhole) with hlt | heq
  · -- the rounded digits of the first are at most twice the unit, those of the second at least one
    have hn := Ratio.round_dropped_le n hd
    have hn' := Ratio.unit_le_round_dropped (show 0 < dropped (n' / d') by omega)
    have hstep : (dropped (n / d) + 1) * unit ≤ dropped (n' / d') * unit :=
      Nat.mul_le_mul_right unit hlt
    rw [Nat.succ_mul] at hstep
    omega
  · rw [heq]
    refine Nat.add_le_add_left (Ratio.round_le_round (Nat.mul_pos hd (Nat.two_pow_pos _))
      (Nat.mul_pos hd' (Nat.two_pow_pos _)) ?_) _
    calc n * (d' * 2 ^ dropped (n' / d')) = n * d' * 2 ^ dropped (n' / d') := by ring
      _ ≤ n' * d * 2 ^ dropped (n' / d') := Nat.mul_le_mul_right _ h
      _ = n' * (d * 2 ^ dropped (n' / d')) := by ring

theorem Ratio.nearestCode_mul (n d : Nat) {k : Nat} (hk : 0 < k) :
    (Ratio.mk (n * k) (d * k)).nearestCode = (Ratio.mk n d).nearestCode := by
  unfold Ratio.nearestCode
  dsimp only
  rw [Nat.mul_div_mul_right n d hk, Nat.mul_right_comm d k, Ratio.round_mul _ _ hk]

theorem Ratio.nearestCode_one (n : Nat) : (Ratio.mk n 1).nearestCode = Number.nearestCode n := by
  unfold Ratio.nearestCode Number.nearestCode
  dsimp only
  rw [Nat.div_one, Nat.one_mul]

theorem nearestCode_mono {n n' : Nat} (h : n ≤ n') : nearestCode n ≤ nearestCode n' := by
  rw [← Ratio.nearestCode_one, ← Ratio.nearestCode_one]
  exact Ratio.nearestCode_mono Nat.one_pos Nat.one_pos (by omega)

theorem magnitude_mono {c c' : Nat} (h : c ≤ c') : magnitude c ≤ magnitude c' := by
  have hc := Nat.div_add_mod c unit
  have hc' := Nat.div_add_mod c' unit
  have hmod := Nat.mod_lt c (show 0 < unit by decide)
  have hdiv : c / unit ≤ c' / unit := Nat.div_le_div_right h
  unfold magnitude
  split_ifs with hlt hlt'
  · exact h
  · calc c ≤ unit + c' % unit := by omega
      _ ≤ (unit + c' % unit) * 2 ^ (c' / unit - 1) := Nat.le_mul_of_pos_right _ (Nat.two_pow_pos _)
  · omega
  · rcases Nat.lt_or_eq_of_le hdiv with hlt'' | heq
    · have hone : 1 ≤ c / unit := (Nat.one_le_div_iff (by decide)).mpr (by omega)
      have hexp : c / unit - 1 + 1 ≤ c' / unit - 1 := by omega
      calc (unit + c % unit) * 2 ^ (c / unit - 1) ≤ (unit * 2) * 2 ^ (c / unit - 1) :=
            Nat.mul_le_mul_right _ (by omega)
        _ = unit * 2 ^ (c / unit - 1 + 1) := by ring
        _ ≤ unit * 2 ^ (c' / unit - 1) :=
            Nat.mul_le_mul_left _ (Nat.pow_le_pow_right (by decide) hexp)
        _ ≤ (unit + c' % unit) * 2 ^ (c' / unit - 1) := Nat.mul_le_mul_right _ (by omega)
    · rw [heq]
      apply Nat.mul_le_mul_right
      rw [heq] at hc
      omega

theorem magnitude_pos {c : Nat} (h : 0 < c) : 0 < magnitude c :=
  (show 0 < magnitude 1 by decide).trans_le (magnitude_mono h)

theorem nearestCode_magnitude {c : Nat} (h : c ≤ infinityCode) :
    nearestCode (magnitude c) = c := by
  have hc := Nat.div_add_mod c unit
  have hmod := Nat.mod_lt c (show 0 < unit by decide)
  unfold magnitude
  split_ifs with hlt
  · have hlog : dropped c = 0 := by
      unfold dropped
      rcases Nat.eq_zero_or_pos c with rfl | hpos
      · simp
      · have := (Nat.log2_lt (by omega)).mpr (unit_eq ▸ hlt)
        omega
    rw [nearestCode, hlog, Nat.pow_zero, Ratio.round_one, Nat.zero_mul, Nat.zero_add]
    exact min_eq_left h
  · have hone : 1 ≤ c / unit := (Nat.one_le_div_iff (by decide)).mpr (by omega)
    generalize hk : c / unit - 1 = k
    have hlog : dropped ((unit + c % unit) * 2 ^ k) = k := by
      have hfull : (unit + c % unit).log2 = 52 :=
        (Nat.log2_eq_iff (by omega)).mpr ⟨by rw [← unit_eq]; omega, by rw [unit_eq] at *; omega⟩
      have hlog2 := log2_mul_two_pow (show 0 < unit + c % unit by omega) k
      unfold dropped
      omega
    have hexact : (Ratio.mk ((unit + c % unit) * 2 ^ k) (2 ^ k)).round = unit + c % unit := by
      rw [← Nat.one_mul (2 ^ k), ← Nat.mul_assoc, Nat.mul_one,
        Ratio.round_mul _ _ (Nat.two_pow_pos k),
        Ratio.round_one]
    have hsum : k * unit + (unit + c % unit) = c := by
      rw [show c / unit = k + 1 by omega, Nat.mul_succ, Nat.mul_comm] at hc
      omega
    rw [nearestCode, hlog, hexact, hsum]
    exact min_eq_left h

end Tournament.Number
