import Tournament.Proofs.Rounding

/-!
# Sums of floating-point numbers

The bits of a sum of floats that are not negative, computed from the bits of the summands: the code
of the sum is that of the float nearest to the exact sum (`code_add`).  So sums are monotone in what
is added, and none is smaller than what is added to.  Infinity is the largest of these floats, and
takes part in all of this.
-/

namespace Tournament.Number

open Float.Model (Format UnpackedFloat totalExponent)
open Float.Model.UnpackedFloat

/-! ## Shifting digits out -/

/-- A quotient cut down to a whole number, with its next binary digit and whether more follow. -/
def Ratio.extended (r : Ratio) : ExtendedMantissa :=
  ⟨r.num / r.den, r.den ≤ 2 * (r.num % r.den), 2 * (r.num % r.den) % r.den ≠ 0⟩

theorem ofMantissaAndAccuracy_exact (m : Nat) :
    ExtendedMantissa.ofMantissaAndAccuracy m .exact = (Ratio.mk m 1).extended := by
  simp [ExtendedMantissa.ofMantissaAndAccuracy, Ratio.extended, Nat.mod_one]

theorem Ratio.shiftRightOne_extended (n : Nat) {d : Nat} (hd : 0 < d) :
    (Ratio.mk n d).extended.shiftRightOne = (Ratio.mk n (d * 2)).extended := by
  have hrest : n % d < d := Nat.mod_lt _ hd
  have hbit : n / d % 2 < 2 := Nat.mod_lt _ (by decide)
  have hdouble : 2 * (n % d + d * (n / d % 2)) % (d * 2) = 2 * (n % d) := by
    rw [Nat.mul_add, ← Nat.mul_assoc, Nat.mul_comm 2 d, Nat.add_mul_mod_self_left]
    exact Nat.mod_eq_of_lt (by omega)
  unfold Ratio.extended
  dsimp only
  rw [ExtendedMantissa.shiftRightOne, Nat.mod_mul, hdouble]
  congr 1
  · rw [Nat.div_div_eq_div_mul]
  · rcases Nat.lt_succ_iff_lt_or_eq.mp hbit with hzero | hone
    · have hzero : n / d % 2 = 0 := by omega
      simp [hzero]
      omega
    · simp [hone]
      omega
  · by_cases hzero : n % d = 0
    · simp [hzero]
      omega
    · by_cases hhalf : d ≤ 2 * (n % d)
      · simp [hzero, hhalf]
      · simp [hzero, hhalf, Nat.mod_eq_of_lt (Nat.lt_of_not_le hhalf)]

theorem Ratio.shiftRight_extended (n : Nat) {d : Nat} (hd : 0 < d) (k : Nat) :
    (Ratio.mk n d).extended >>> k = (Ratio.mk n (d * 2 ^ k)).extended := by
  induction k with
  | zero => rw [Nat.pow_zero, Nat.mul_one]; rfl
  | succ k ih =>
      change ((Ratio.mk n d).extended >>> k).shiftRightOne = _
      rw [ih, Ratio.shiftRightOne_extended n (Nat.mul_pos hd (Nat.two_pow_pos k)), Nat.mul_assoc,
        ← Nat.pow_succ]

theorem double_mod_mod {n d : Nat} (hd : 0 < d) (h : d ≤ 2 * (n % d)) :
    2 * (n % d) % d = 2 * (n % d) - d := by
  have hrest : n % d < d := Nat.mod_lt _ hd
  rw [Nat.mod_eq_sub_mod h]
  exact Nat.mod_eq_of_lt (by omega)

theorem Ratio.roundedMantissa_extended (n : Nat) {d : Nat} (hd : 0 < d) :
    (Ratio.mk n d).extended.roundedMantissa = (Ratio.mk n d).round := by
  have hrest : n % d < d := Nat.mod_lt _ hd
  unfold Ratio.extended ExtendedMantissa.roundedMantissa Ratio.round
  dsimp only
  by_cases hhalf : d ≤ 2 * (n % d)
  · rw [double_mod_mod hd hhalf]
    by_cases htie : 2 * (n % d) = d
    · simp [ExtendedMantissa.accuracy, Accuracy.roundToNearestEven, htie]
      split_ifs <;> omega
    · have hne : 2 * (n % d) - d ≠ 0 := by omega
      simp [ExtendedMantissa.accuracy, Accuracy.roundToNearestEven, hhalf, hne]
      omega
  · have hlt : 2 * (n % d) < d := by omega
    rw [if_neg (by omega)]
    by_cases hzero : n % d = 0
    · have hnone : ¬ d ≤ 0 := by omega
      simp [ExtendedMantissa.accuracy, Accuracy.roundToNearestEven, hzero, hnone]
    · simp [ExtendedMantissa.accuracy, Accuracy.roundToNearestEven, hhalf, Nat.mod_eq_of_lt hlt,
        hzero]

/-! ## The fields of a float -/

theorem toNat_unpackExponent (b : BitVec 64) :
    (@unpackExponent Format.binary64 b).toNat = b.toNat / unit % 2048 := by
  simp [unpackExponent, BitVec.extractLsb, Nat.shiftRight_eq_div_pow, unit]

theorem toNat_unpackMantissa (b : BitVec 64) :
    (@unpackMantissa Format.binary64 b).toNat = b.toNat % unit := by
  simp [unpackMantissa, BitVec.extractLsb, unit]

theorem toNat_unpackSign (b : BitVec 64) :
    (@unpackSign Format.binary64 b).toNat = b.toNat / (2048 * unit) % 2 := by
  change (BitVec.extractLsb 63 63 b).toNat = _
  simp [BitVec.extractLsb, unit, Nat.shiftRight_eq_div_pow]

theorem unpackSign_eq {b : BitVec 64} (h : b.toNat ≤ infinityCode) :
    Sign.ofBitVec (@unpackSign Format.binary64 b) = .positive := by
  have hzero : @unpackSign Format.binary64 b = 0#1 := by
    apply BitVec.eq_of_toNat_eq
    rw [toNat_unpackSign, Nat.div_eq_of_lt]
    · rfl
    · unfold infinityCode at h
      have := show 0 < unit by decide
      omega
  rw [hzero]
  rfl

theorem toNat_unpackExponent_of_lt {b : BitVec 64} (h : b.toNat < infinityCode) :
    (@unpackExponent Format.binary64 b).toNat = b.toNat / unit := by
  have hfield : b.toNat / unit < 2047 := (Nat.div_lt_iff_lt_mul (by decide)).mpr h
  rw [toNat_unpackExponent, Nat.mod_eq_of_lt (by omega)]

theorem unpackExponent_ne {b : BitVec 64} (h : b.toNat < infinityCode) :
    @unpackExponent Format.binary64 b ≠ -1#_ := by
  intro hall
  have hfield : b.toNat / unit < 2047 := (Nat.div_lt_iff_lt_mul (by decide)).mpr h
  have hexponent := toNat_unpackExponent_of_lt h
  rw [hall] at hexponent
  change 2047 = _ at hexponent
  omega

theorem unpack_subnormal {b : BitVec 64} (hpos : 0 < b.toNat) (h : b.toNat < unit) :
    unpack Format.binary64 b = .finite .positive b.toNat (-1074) hpos := by
  have hlt : b.toNat < infinityCode := h.trans (by decide)
  have hexponent : @unpackExponent Format.binary64 b = 0#_ := by
    apply BitVec.eq_of_toNat_eq
    rw [toNat_unpackExponent_of_lt hlt, Nat.div_eq_of_lt h]
    rfl
  have hmantissa : (@unpackMantissa Format.binary64 b).toNat = b.toNat := by
    rw [toNat_unpackMantissa, Nat.mod_eq_of_lt h]
  have hne : @unpackMantissa Format.binary64 b ≠ 0#_ := by
    intro hnone
    rw [hnone] at hmantissa
    change 0 = _ at hmantissa
    omega
  unfold unpack
  dsimp only
  rw [if_neg (unpackExponent_ne hlt), if_pos hexponent, dif_neg hne, unpackSign_eq hlt.le,
    UnpackedFloat.finite.injEq, hexponent]
  exact ⟨rfl, hmantissa, rfl⟩

theorem toNat_one_append_unpackMantissa (b : BitVec 64) :
    (1#1 ++ @unpackMantissa Format.binary64 b).toNat = unit + b.toNat % unit := by
  rw [BitVec.toNat_append, ← Nat.shiftLeft_add_eq_or_of_lt (BitVec.isLt _),
    toNat_unpackMantissa]
  rfl

theorem unpack_normal {b : BitVec 64} (hge : unit ≤ b.toNat) (h : b.toNat < infinityCode)
    (hm : 0 < unit + b.toNat % unit) :
    unpack Format.binary64 b =
      .finite .positive (unit + b.toNat % unit) ((b.toNat / unit - 1 : Nat) - 1074 : Int) hm := by
  have hone : 1 ≤ b.toNat / unit := (Nat.one_le_div_iff (by decide)).mpr hge
  have hexponent := toNat_unpackExponent_of_lt h
  have hne : @unpackExponent Format.binary64 b ≠ 0#_ := by
    intro hzero
    rw [hzero] at hexponent
    change 0 = _ at hexponent
    omega
  unfold unpack
  dsimp only
  rw [if_neg (unpackExponent_ne h), if_neg hne, unpackSign_eq h.le, UnpackedFloat.finite.injEq,
    hexponent]
  refine ⟨rfl, toNat_one_append_unpackMantissa b, ?_⟩
  change (_ : Int) - (1023 + 52) = _
  omega

theorem exists_unpack {b : BitVec 64} (hpos : 0 < b.toNat) (h : b.toNat < infinityCode) :
    ∃ (m : Nat) (hm : 0 < m) (k : Nat),
      unpack Format.binary64 b = .finite .positive m (k - 1074 : Int) hm ∧
        m < 2 * unit ∧ (0 < k → unit ≤ m) ∧ k * unit + m = b.toNat ∧
        m * 2 ^ k = magnitude b.toNat := by
  have hunit : 0 < unit := by decide
  rcases Nat.lt_or_ge b.toNat unit with hlt | hge
  · refine ⟨b.toNat, hpos, 0, unpack_subnormal hpos hlt, by omega, by omega, by omega, ?_⟩
    rw [magnitude, if_pos hlt, Nat.pow_zero, Nat.mul_one]
  · have hrest : b.toNat % unit < unit := Nat.mod_lt _ hunit
    refine ⟨unit + b.toNat % unit, by omega, b.toNat / unit - 1, unpack_normal hge h _,
      by omega, by omega, ?_, ?_⟩
    · have hone : 1 ≤ b.toNat / unit := (Nat.one_le_div_iff hunit).mpr hge
      have hcode := Nat.div_add_mod' b.toNat unit
      have hfields : 1 * unit ≤ b.toNat / unit * unit := Nat.mul_le_mul_right unit hone
      rw [Nat.sub_mul]
      omega
    · rw [magnitude, if_neg (by omega)]

theorem unpack_zero {b : BitVec 64} (h : b.toNat = 0) :
    unpack Format.binary64 b = .zero .positive := by
  obtain rfl : b = 0#64 := BitVec.eq_of_toNat_eq h
  rfl

theorem unpack_infinity {b : BitVec 64} (h : b.toNat = infinityCode) :
    unpack Format.binary64 b = .infinity .positive := by
  obtain rfl : b = BitVec.ofNat 64 infinityCode := BitVec.eq_of_toNat_eq h
  rfl

theorem fields_of_unpack {b : BitVec 64} {m : Nat} {e : Int} {hm : 0 < m}
    (h : unpack Format.binary64 b = .finite .positive m e hm) :
    Sign.ofBitVec (@unpackSign Format.binary64 b) = .positive ∧
      @unpackExponent Format.binary64 b ≠ -1#_ := by
  unfold unpack at h
  dsimp only at h
  by_cases hall : @unpackExponent Format.binary64 b = -1#_
  · rw [if_pos hall] at h
    by_cases hmantissa : @unpackMantissa Format.binary64 b = 0#_
    · rw [if_pos hmantissa] at h
      cases h
    · rw [if_neg hmantissa] at h
      cases h
  · refine ⟨?_, hall⟩
    rw [if_neg hall] at h
    by_cases hsubnormal : @unpackExponent Format.binary64 b = 0#_
    · rw [if_pos hsubnormal] at h
      by_cases hmantissa : @unpackMantissa Format.binary64 b = 0#_
      · rw [dif_pos hmantissa] at h
        cases h
      · rw [dif_neg hmantissa, UnpackedFloat.finite.injEq] at h
        exact h.1
    · rw [if_neg hsubnormal, UnpackedFloat.finite.injEq] at h
      exact h.1

/-! ## Rounding to a float -/

theorem toNat_packComponents (e : BitVec 11) (m : BitVec 52) :
    (packComponents Format.binary64 .positive e m).toNat = e.toNat * unit + m.toNat := by
  change (0#1 ++ e ++ m).toNat = _
  rw [BitVec.toNat_append, BitVec.toNat_append, ← Nat.shiftLeft_add_eq_or_of_lt m.isLt,
    ← Nat.shiftLeft_add_eq_or_of_lt e.isLt]
  simp [Nat.shiftLeft_eq, unit]

theorem targetExponent_eq {m : Nat} (hm : 0 < m) (k : Nat) :
    Format.binary64.targetExponent (totalExponent m (k - 1074 : Int)) =
      (dropped (m * 2 ^ k) - 1074 : Int) := by
  have hlog := log2_mul_two_pow hm k
  unfold Format.targetExponent totalExponent dropped
  change max ((m.log2 + 1 + (k - 1074) : Int) - 53) (3 - 2 ^ 10 - 53) = _
  omega

theorem shiftToTargetExponent_eq {m : Nat} (hm : 0 < m) (k : Nat) (accuracy : Accuracy) :
    shiftToTargetExponent Format.binary64 m (k - 1074 : Int) accuracy =
      (ExtendedMantissa.ofMantissaAndAccuracy m accuracy >>> (dropped (m * 2 ^ k) - k),
        (max k (dropped (m * 2 ^ k)) - 1074 : Int)) := by
  have hshift : ((dropped (m * 2 ^ k) - 1074 : Int) - (k - 1074 : Int)).toNat =
      dropped (m * 2 ^ k) - k := by omega
  unfold shiftToTargetExponent shiftToExponent
  rw [targetExponent_eq hm]
  dsimp only
  rw [hshift]
  congr 1
  omega

theorem toNat_pack {q s : Nat} (hq : 0 < q) (hlt : q < 2 * unit) (hs : 0 < s → unit ≤ q) :
    (pack Format.binary64 (.finite .positive q (s - 1074 : Int) hq)).toNat =
      min (s * unit + q) infinityCode := by
  have hunit : 0 < unit := by decide
  have hbiased : ((s - 1074 : Int) + Format.binary64.exponentBias +
      Format.binary64.mantissaBitsWithoutImplicit).toNat = s + 1 := by
    change ((s - 1074 : Int) + 1023 + 52).toNat = s + 1
    omega
  unfold pack
  dsimp only
  rw [hbiased]
  split_ifs with hinfinite hnormal
  · change 2048 ≤ s + 1 + 1 at hinfinite
    have hfull : 2046 * unit ≤ s * unit := Nat.mul_le_mul_right _ (by omega)
    rw [min_eq_right (by unfold infinityCode; omega)]
    rfl
  · change ¬ 2048 ≤ s + 1 + 1 at hinfinite
    have hroom : s * unit ≤ 2045 * unit := Nat.mul_le_mul_right _ (by omega)
    have hlog : q.log2 = 52 := by
      change q.log2 + 1 = 1 + 52 at hnormal
      omega
    have hge : unit ≤ q := by
      rw [unit_eq, ← hlog]
      exact Nat.log2_self_le hq.ne'
    have hfraction : q % unit = q - unit := by
      rw [Nat.mod_eq_sub_mod hge, Nat.mod_eq_of_lt (by omega)]
    rw [toNat_packComponents, BitVec.toNat_ofNat, BitVec.toNat_ofNat, ← unit_eq, hfraction,
      Nat.mod_eq_of_lt (show s + 1 < 2 ^ 11 by omega), Nat.succ_mul, min_eq_left]
    · omega
    · unfold infinityCode
      omega
  · have hlt : q < unit := by
      by_contra hge
      apply hnormal
      change q.log2 + 1 = 1 + 52
      have : q.log2 = 52 := (Nat.log2_eq_iff hq.ne').mpr ⟨by rw [← unit_eq]; omega, by
        rw [Nat.pow_succ, ← unit_eq]; omega⟩
      omega
    have hzero : s = 0 := by
      by_contra hne
      have := hs (by omega)
      omega
    subst hzero
    rw [toNat_packComponents, BitVec.toNat_ofNat, BitVec.toNat_ofNat, ← unit_eq,
      Nat.mod_eq_of_lt hlt, min_eq_left]
    rw [infinityCode]
    omega

theorem toNat_pack_carry {q s : Nat} (hpos : 0 < q) (hle : q ≤ 2 * unit)
    (hge : 0 < s → unit ≤ q) :
    (pack Format.binary64
      (if h : q / 2 ^ (dropped (q * 2 ^ s) - s) = 0 then .zero .positive
        else .finite .positive (q / 2 ^ (dropped (q * 2 ^ s) - s))
          (max s (dropped (q * 2 ^ s)) - 1074 : Int) (Nat.pos_of_ne_zero h))).toNat =
      min (s * unit + q) infinityCode := by
  have hlog := log2_mul_two_pow hpos s
  rcases Nat.lt_or_eq_of_le hle with hlt | rfl
  · -- the rounded digits fit
    have hnone := dropped_le (k := s) hpos hlt
    rw [Nat.sub_eq_zero_of_le hnone, Nat.pow_zero, Nat.div_one, dif_neg hpos.ne',
      max_eq_left hnone]
    exact toNat_pack hpos hlt hge
  · -- rounding has carried into one more digit
    have hone : dropped (2 * unit * 2 ^ s) = s + 1 := by
      have hlog2 : (2 * unit).log2 = 53 := by decide
      unfold dropped
      omega
    rw [hone, Nat.add_sub_cancel_left, Nat.pow_one, Nat.mul_div_cancel_left _ (by decide),
      dif_neg (by decide), max_eq_right s.le_succ]
    rw [toNat_pack (by decide) (by decide) (fun _ => le_refl _), Nat.succ_mul, Nat.add_assoc,
      ← Nat.two_mul]

theorem toNat_pack_roundWithAccuracy {n d k : Nat} {accuracy : Accuracy} (hd : 0 < d) (hle : d ≤ n)
    (haccuracy : ExtendedMantissa.ofMantissaAndAccuracy (n / d) accuracy = (Ratio.mk n d).extended)
    (hk : k ≤ dropped (n / d * 2 ^ k)) :
    (pack Format.binary64
      (roundWithAccuracy Format.binary64 .positive (n / d) (k - 1074 : Int) accuracy)).toNat =
      (Ratio.mk (n * 2 ^ k) d).nearestCode := by
  have hwhole : 0 < n / d := Nat.div_pos hle hd
  have hdropped : dropped (n * 2 ^ k / d) = dropped (n / d * 2 ^ k) := by
    unfold dropped
    rw [log2_mul_two_pow hwhole, log2_mul_two_pow_div hle hd]
  generalize hs : dropped (n / d * 2 ^ k) = s at hk hdropped
  have hround :
      (Ratio.mk n (d * 2 ^ (s - k))).round = (Ratio.mk (n * 2 ^ k) (d * 2 ^ s)).round := by
    rw [← Ratio.round_mul n _ (Nat.two_pow_pos k), Nat.mul_assoc, ← Nat.pow_add,
      Nat.sub_add_cancel hk]
  generalize hq : (Ratio.mk (n * 2 ^ k) (d * 2 ^ s)).round = q at hround
  have hle : q ≤ 2 * unit := by
    rw [← hq, ← hdropped]
    exact Ratio.round_dropped_le _ hd
  have hge : 0 < s → unit ≤ q := by
    rw [← hq, ← hdropped]
    exact Ratio.unit_le_round_dropped
  have hpos : 0 < q := by
    rcases Nat.eq_zero_or_pos s with rfl | hspos
    · obtain rfl : k = 0 := Nat.le_zero.mp hk
      rw [← hq, Nat.pow_zero, Nat.mul_one, Nat.mul_one]
      exact hwhole.trans_le (Ratio.div_le_round n d)
    · have := hge hspos
      have := show 0 < unit by decide
      omega
  have hfirst := shiftToTargetExponent_eq hwhole k accuracy
  have hsecond := shiftToTargetExponent_eq hpos s .exact
  rw [hs, max_eq_right hk, haccuracy, Ratio.shiftRight_extended n hd] at hfirst
  have hnearest : (Ratio.mk (n * 2 ^ k) d).nearestCode = min (s * unit + q) infinityCode := by
    rw [Ratio.nearestCode, hdropped, hq]
  unfold roundWithAccuracy
  rw [hfirst]
  dsimp only
  rw [Ratio.roundedMantissa_extended n (Nat.mul_pos hd (Nat.two_pow_pos _)), hround, hsecond,
    hnearest]
  dsimp only
  rw [ofMantissaAndAccuracy_exact, Ratio.shiftRight_extended _ Nat.one_pos, Nat.one_mul]
  exact toNat_pack_carry hpos hle hge

theorem toNat_pack_roundWithAccuracy_exact {m k : Nat} (hm : 0 < m)
    (hk : k ≤ dropped (m * 2 ^ k)) :
    (pack Format.binary64
      (roundWithAccuracy Format.binary64 .positive m (k - 1074 : Int) .exact)).toNat =
      nearestCode (m * 2 ^ k) := by
  have hround := toNat_pack_roundWithAccuracy Nat.one_pos hm (k := k)
    (by rw [Nat.div_one]; exact ofMantissaAndAccuracy_exact m) (by rwa [Nat.div_one])
  rw [Nat.div_one] at hround
  rw [hround, Ratio.nearestCode_one]

theorem toNat_pack_round {m : Nat} (hm : 0 < m) (k : Nat) :
    (pack Format.binary64
      (UnpackedFloat.round Format.binary64 .positive m (k - 1074 : Int))).toNat =
      nearestCode (m * 2 ^ k) := by
  have hshift : ((k - 1074 : Int) - (dropped (m * 2 ^ k) - 1074 : Int)).toNat =
      k - dropped (m * 2 ^ k) := by omega
  unfold UnpackedFloat.round decreaseExponent
  rw [targetExponent_eq hm]
  dsimp only
  rw [hshift, Nat.shiftLeft_eq]
  generalize hs : dropped (m * 2 ^ k) = s
  have hvalue : m * 2 ^ (k - s) * 2 ^ (min k s) = m * 2 ^ k := by
    rw [Nat.mul_assoc, ← Nat.pow_add]
    congr 2
    omega
  have hexponent : (k - 1074 : Int) - (k - s : Nat) = (min k s : Nat) - 1074 := by omega
  rw [hexponent, toNat_pack_roundWithAccuracy_exact, hvalue]
  · exact Nat.mul_pos hm (Nat.two_pow_pos _)
  · rw [hvalue, hs]
    exact min_le_right k s

/-! ## Sums -/

theorem code_eq (x : Float) : code x = x.toModel.toBits.toBitVec.toNat :=
  rfl

theorem pack_unpack {b : BitVec 64} (h : b.toNat ≤ infinityCode) :
    (pack Format.binary64 (unpack Format.binary64 b)).toNat = b.toNat := by
  rcases Nat.eq_zero_or_pos b.toNat with hzero | hpos
  · rw [unpack_zero hzero, hzero]
    rfl
  · rcases Nat.lt_or_eq_of_le h with hlt | hinfinite
    · obtain ⟨m, hm, k, hunpack, hfit, hnormal, hcode, -⟩ := exists_unpack hpos hlt
      rw [hunpack, toNat_pack hm hfit hnormal, hcode]
      exact min_eq_left h
    · rw [unpack_infinity hinfinite, hinfinite]
      rfl

theorem toNat_pack_add_finite {m₁ m₂ : Nat} (h₁ : 0 < m₁) (h₂ : 0 < m₂) (k₁ k₂ : Nat) :
    (pack Format.binary64 (add Format.binary64 (.finite .positive m₁ (k₁ - 1074 : Int) h₁)
      (.finite .positive m₂ (k₂ - 1074 : Int) h₂))).toNat =
      nearestCode (m₁ * 2 ^ k₁ + m₂ * 2 ^ k₂) := by
  generalize hk : min k₁ k₂ = k
  generalize hsum : m₁ * 2 ^ (k₁ - k) + m₂ * 2 ^ (k₂ - k) = sum
  have hpos : 0 < sum := by
    rw [← hsum]
    exact Nat.add_pos_left (Nat.mul_pos h₁ (Nat.two_pow_pos _)) _
  have hvalue : sum * 2 ^ k = m₁ * 2 ^ k₁ + m₂ * 2 ^ k₂ := by
    rw [← hsum, Nat.add_mul, Nat.mul_assoc, Nat.mul_assoc, ← Nat.pow_add, ← Nat.pow_add,
      Nat.sub_add_cancel (by omega), Nat.sub_add_cancel (by omega)]
  have hexponent : min (k₁ - 1074 : Int) (k₂ - 1074) = (k - 1074 : Int) := by omega
  have hshift₁ : ((k₁ - 1074 : Int) - (k - 1074)).toNat = k₁ - k := by omega
  have hshift₂ : ((k₂ - 1074 : Int) - (k - 1074)).toNat = k₂ - k := by omega
  have hnat : ((m₁ * 2 ^ (k₁ - k) : Nat) : Int) + (m₂ * 2 ^ (k₂ - k) : Nat) = (sum : Int) := by
    rw [← hsum]
    push_cast
    rfl
  have hcompare : compare (sum : Int) 0 = .gt := Int.compare_eq_gt.mpr (by omega)
  unfold add decreaseExponent
  dsimp only
  rw [hexponent, hshift₁, hshift₂, Nat.shiftLeft_eq, Nat.shiftLeft_eq]
  unfold Sign.apply UnpackedFloat.normalize
  dsimp only
  rw [hnat, hcompare]
  dsimp only
  rw [Int.toNat_natCast, toNat_pack_round hpos, hvalue]

theorem nearestCode_infinity_add (n : Nat) :
    nearestCode (magnitude infinityCode + n) = infinityCode := by
  apply le_antisymm (min_le_right _ _)
  calc infinityCode = nearestCode (magnitude infinityCode) :=
        (nearestCode_magnitude (le_refl _)).symm
    _ ≤ nearestCode (magnitude infinityCode + n) := nearestCode_mono (Nat.le_add_right _ _)

theorem unpack_cases {b : BitVec 64} (h : b.toNat ≤ infinityCode) :
    (b.toNat = 0 ∧ unpack Format.binary64 b = .zero .positive) ∨
    (∃ (m : Nat) (hm : 0 < m) (k : Nat),
      unpack Format.binary64 b = .finite .positive m (k - 1074 : Int) hm ∧
        m * 2 ^ k = magnitude b.toNat) ∨
    (b.toNat = infinityCode ∧ unpack Format.binary64 b = .infinity .positive) := by
  rcases Nat.eq_zero_or_pos b.toNat with hzero | hpos
  · exact .inl ⟨hzero, unpack_zero hzero⟩
  · rcases Nat.lt_or_eq_of_le h with hlt | hinfinite
    · obtain ⟨m, hm, k, hunpack, -, -, -, hvalue⟩ := exists_unpack hpos hlt
      exact .inr (.inl ⟨m, hm, k, hunpack, hvalue⟩)
    · exact .inr (.inr ⟨hinfinite, unpack_infinity hinfinite⟩)

theorem toNat_pack_add {b b' : BitVec 64} (hb : b.toNat ≤ infinityCode)
    (hb' : b'.toNat ≤ infinityCode) :
    (pack Format.binary64
      (add Format.binary64 (unpack Format.binary64 b) (unpack Format.binary64 b'))).toNat =
      nearestCode (magnitude b.toNat + magnitude b'.toNat) := by
  have hexact := pack_unpack hb
  have hexact' := pack_unpack hb'
  have hnearest := nearestCode_magnitude hb
  have hnearest' := nearestCode_magnitude hb'
  rcases unpack_cases hb with ⟨hzero, hunpack⟩ | ⟨m, hm, k, hunpack, hvalue⟩ | ⟨hinfinite, hunpack⟩
  · rcases unpack_cases hb' with ⟨hzero', hunpack'⟩ | ⟨m', hm', k', hunpack', hvalue'⟩ |
      ⟨hinfinite', hunpack'⟩
    all_goals
      rw [hunpack'] at hexact'
      rw [hunpack, hunpack', hzero, show magnitude 0 = 0 from rfl, Nat.zero_add, hnearest']
      exact hexact'
  · rcases unpack_cases hb' with ⟨hzero', hunpack'⟩ | ⟨m', hm', k', hunpack', hvalue'⟩ |
      ⟨hinfinite', hunpack'⟩
    · rw [hunpack] at hexact
      rw [hunpack, hunpack', hzero', show magnitude 0 = 0 from rfl, Nat.add_zero, hnearest]
      exact hexact
    · rw [hunpack, hunpack', toNat_pack_add_finite hm hm', hvalue, hvalue']
    · rw [hunpack, hunpack', hinfinite', Nat.add_comm, nearestCode_infinity_add]
      rfl
  · rw [hunpack, hinfinite, nearestCode_infinity_add]
    rcases unpack_cases hb' with ⟨hzero', hunpack'⟩ | ⟨m', hm', k', hunpack', hvalue'⟩ |
      ⟨hinfinite', hunpack'⟩
    all_goals
      rw [hunpack']
      rfl

theorem code_add {x y : Float} (hx : code x ≤ infinityCode) (hy : code y ≤ infinityCode) :
    code (x + y) = nearestCode (magnitude (code x) + magnitude (code y)) := by
  change (pack Format.binary64 (add Format.binary64 x.toModel.unpack y.toModel.unpack)).toNat = _
  unfold Float.Model.unpack
  rw [code_eq] at hx hy ⊢
  rw [code_eq]
  generalize x.toModel.toBits.toBitVec = b at hx ⊢
  generalize y.toModel.toBits.toBitVec = b' at hy ⊢
  exact toNat_pack_add hx hy

theorem code_le_code_add {x y : Float} (hx : code x ≤ infinityCode) (hy : code y ≤ infinityCode) :
    code x ≤ code (x + y) := by
  calc code x = nearestCode (magnitude (code x)) := (nearestCode_magnitude hx).symm
    _ ≤ nearestCode (magnitude (code x) + magnitude (code y)) :=
        nearestCode_mono (Nat.le_add_right _ _)
    _ = code (x + y) := (code_add hx hy).symm

theorem code_add_le_code_add {x x' y : Float} (hx' : code x' ≤ infinityCode)
    (hy : code y ≤ infinityCode) (h : code x ≤ code x') : code (x + y) ≤ code (x' + y) := by
  rw [code_add (h.trans hx') hy, code_add hx' hy]
  exact nearestCode_mono (Nat.add_le_add_right (magnitude_mono h) _)

theorem code_add_le {x y : Float} (hx : code x ≤ infinityCode) (hy : code y ≤ infinityCode) :
    code (x + y) ≤ infinityCode := by
  rw [code_add hx hy]
  exact min_le_right _ _

/-! ## Comparisons -/

theorem lt_iff_compare {x y : Float} :
    x < y ↔ x.toModel.unpack.compare y.toModel.unpack = some .lt := by
  change decide (x.toModel.unpack.lt y.toModel.unpack = true) = true ↔ _
  rw [decide_eq_true_iff, UnpackedFloat.lt, beq_iff_eq]

theorem le_iff_compare {x y : Float} :
    x ≤ y ↔ (x.toModel.unpack.compare y.toModel.unpack).any (·.isLE) = true := by
  change decide (x.toModel.unpack.le y.toModel.unpack = true) = true ↔ _
  rw [decide_eq_true_iff, UnpackedFloat.le]

theorem unpack_float_zero : (0.0 : Float).toModel.unpack = .zero .positive :=
  unpack_zero (by decide +kernel)

theorem code_of_unpack {x : Float} {m : Nat} {e : Int} {hm : 0 < m}
    (h : x.toModel.unpack = .finite .positive m e hm) : 0 < code x ∧ code x < infinityCode := by
  change unpack Format.binary64 x.toModel.toBits.toBitVec = _ at h
  rw [code_eq]
  generalize x.toModel.toBits.toBitVec = b at h ⊢
  obtain ⟨hpositive, hnotAll⟩ := fields_of_unpack h
  have hsign : b.toNat / (2048 * unit) % 2 = 0 := by
    rw [← toNat_unpackSign]
    unfold Sign.ofBitVec at hpositive
    split_ifs at hpositive with hzero
    rw [hzero]
    rfl
  have hexponent : b.toNat / unit % 2048 ≠ 2047 := by
    rw [← toNat_unpackExponent]
    intro hall
    exact hnotAll (BitVec.eq_of_toNat_eq hall)
  constructor
  · by_contra hzero
    rw [unpack_zero (by omega)] at h
    cases h
  · have hlt := b.isLt
    unfold infinityCode unit at *
    omega

theorem unpack_float_cases {x : Float} (h : code x ≤ infinityCode) :
    (code x = 0 ∧ x.toModel.unpack = .zero .positive) ∨
    (0 < code x ∧ code x < infinityCode ∧ ∃ (m : Nat) (hm : 0 < m) (e : Int),
      x.toModel.unpack = .finite .positive m e hm) ∨
    (code x = infinityCode ∧ x.toModel.unpack = .infinity .positive) := by
  rcases unpack_cases h with hzero | ⟨m, hm, k, hunpack, -⟩ | hinfinite
  · exact .inl hzero
  · obtain ⟨hpos, hlt⟩ := code_of_unpack (x := x) hunpack
    exact .inr (.inl ⟨hpos, hlt, m, hm, _, hunpack⟩)
  · exact .inr (.inr hinfinite)

theorem nonneg_of_code_le {x : Float} (h : code x ≤ infinityCode) : x ≥ 0.0 := by
  change 0.0 ≤ x
  rw [le_iff_compare, unpack_float_zero]
  rcases unpack_float_cases h with ⟨-, hunpack⟩ | ⟨-, -, m, hm, e, hunpack⟩ | ⟨-, hunpack⟩
  all_goals
    rw [hunpack]
    rfl

theorem beq_zero_eq {x : Float} (h : code x ≤ infinityCode) :
    (x == 0.0) = decide (code x = 0) := by
  change (x.toModel.unpack.compare (0.0 : Float).toModel.unpack == some .eq) = _
  rw [unpack_float_zero]
  rcases unpack_float_cases h with ⟨hcode, hunpack⟩ | ⟨hcode, -, m, hm, e, hunpack⟩ |
    ⟨hcode, hunpack⟩
  · rw [hunpack, hcode]
    rfl
  · rw [hunpack, decide_eq_false hcode.ne']
    rfl
  · rw [hunpack, hcode]
    rfl

theorem isFinite_eq {x : Float} (h : code x ≤ infinityCode) :
    x.isFinite = decide (code x < infinityCode) := by
  change x.toModel.unpack.isFinite = _
  rcases unpack_float_cases h with ⟨hcode, hunpack⟩ | ⟨-, hcode, m, hm, e, hunpack⟩ |
    ⟨hcode, hunpack⟩
  · rw [hunpack, hcode]
    rfl
  · rw [hunpack, decide_eq_true hcode]
    rfl
  · rw [hunpack, hcode]
    rfl

theorem code_of_pos {x : Float} (hfinite : x.isFinite = true) (hpos : x > 0.0) :
    0 < code x ∧ code x < infinityCode := by
  have hcompare := lt_iff_compare.mp hpos
  rw [unpack_float_zero] at hcompare
  change x.toModel.unpack.isFinite = true at hfinite
  cases hunpack : x.toModel.unpack with
  | notANumber =>
      rw [hunpack] at hfinite
      cases hfinite
  | infinity =>
      rw [hunpack] at hfinite
      cases hfinite
  | zero sign =>
      rw [hunpack] at hcompare
      cases hcompare
  | finite sign m e hm =>
      cases sign with
      | negative =>
          rw [hunpack] at hcompare
          cases hcompare
      | positive => exact code_of_unpack hunpack

end Tournament.Number
