import Tournament.Proofs.Comparison

/-!
# Reciprocals of floating-point numbers

The reciprocal of a positive number is the float nearest to the exact one (`code_one_div`).  It is
never zero, and it is infinite just for the numbers up to the 1024th negative power of two, `tiny`.
A factor of one with either sign changes no digit of a number, so the product is as finite as the
number is.
-/

namespace Tournament.Number

open Float.Model (Format UnpackedFloat totalExponent)
open Float.Model.UnpackedFloat

theorem unpack_one :
    (1.0 : Float).toModel.unpack = .finite .positive unit ((1022 : Nat) - 1074 : Int) (by decide) :=
  unpack_normal (b := (1.0 : Float).toModel.toBits.toBitVec) (by decide +kernel)
    (by decide +kernel) (by decide +kernel)

theorem unpack_neg_one :
    (-1.0 : Float).toModel.unpack =
      .finite .negative unit ((1022 : Nat) - 1074 : Int) (by decide) :=
  rfl

theorem exists_unpack_float {x : Float} (hpos : 0 < code x) (hlt : code x < infinityCode) :
    ∃ (m : Nat) (hm : 0 < m) (k : Nat),
      x.toModel.unpack = .finite .positive m (k - 1074 : Int) hm ∧
        m < 2 * unit ∧ (0 < k → unit ≤ m) ∧ k * unit + m = code x ∧
        m * 2 ^ k = magnitude (code x) :=
  exists_unpack (b := x.toModel.toBits.toBitVec) hpos hlt

/-! ## Quotients -/

theorem ofMantissaAndAccuracy_div (n : Nat) {d : Nat} (hd : 0 < d) :
    ExtendedMantissa.ofMantissaAndAccuracy (n / d) (accuracyOfFraction (n % d) d) =
      (Ratio.mk n d).extended := by
  have hrest : n % d < d := Nat.mod_lt _ hd
  unfold accuracyOfFraction Ratio.extended
  dsimp only
  split_ifs with hzero
  · simp [ExtendedMantissa.ofMantissaAndAccuracy, hzero]
    omega
  · rcases Nat.lt_trichotomy (2 * (n % d)) d with hlt | heq | hgt
    · rw [Nat.compare_eq_lt.mpr hlt, Nat.mod_eq_of_lt hlt]
      simp [ExtendedMantissa.ofMantissaAndAccuracy, hzero, hlt]
    · rw [Nat.compare_eq_eq.mpr heq, heq]
      simp [ExtendedMantissa.ofMantissaAndAccuracy]
    · rw [Nat.compare_eq_gt.mpr hgt, double_mod_mod hd hgt.le]
      simp [ExtendedMantissa.ofMantissaAndAccuracy, hgt.le]
      omega

/-- The digits that are computed of a reciprocal: at least as many as a float has room for, and none
below the last place of the smallest float. -/
theorem divCore_one {m k : Nat} (hk : k ≤ 2096) :
    divCore Format.binary64 unit ((1022 : Nat) - 1074 : Int) m (k - 1074 : Int) =
      (unit * 2 ^ (2096 - k - (2095 - k - m.log2)) / m, ((2095 - k - m.log2 : Nat) - 1074 : Int),
        accuracyOfFraction (unit * 2 ^ (2096 - k - (2095 - k - m.log2)) % m) m) := by
  have htarget : min (((1022 : Nat) - 1074 : Int) - (k - 1074))
      (Format.binary64.targetExponent
        (totalExponent unit ((1022 : Nat) - 1074 : Int) - totalExponent m (k - 1074 : Int))) =
      ((2095 - k - m.log2 : Nat) - 1074 : Int) := by
    unfold Format.targetExponent totalExponent
    rw [show unit.log2 = 52 by decide +kernel]
    change min _ (max (_ - 53) (3 - 2 ^ 10 - 53)) = _
    omega
  have hshift : (((1022 : Nat) - 1074 : Int) - (k - 1074) -
      ((2095 - k - m.log2 : Nat) - 1074)).toNat = 2096 - k - (2095 - k - m.log2) := by
    omega
  unfold divCore
  rw [htarget]
  dsimp only
  rw [hshift, Nat.shiftLeft_eq]

/-- The quotient has a digit, and all that a float has room for unless they are below the last
place. -/
theorem le_quotient {m k : Nat} (hm : 0 < m) (hlt : m < 2 * unit) (hk : k ≤ 2045) :
    m ≤ unit * 2 ^ (2096 - k - (2095 - k - m.log2)) ∧
      2095 - k - m.log2 ≤ dropped
        (unit * 2 ^ (2096 - k - (2095 - k - m.log2)) / m * 2 ^ (2095 - k - m.log2)) := by
  rcases Nat.eq_zero_or_pos (2095 - k - m.log2) with hzero | hpos
  · rw [hzero]
    refine ⟨?_, Nat.zero_le _⟩
    calc m ≤ unit * 2 ^ 1 := by omega
      _ ≤ unit * 2 ^ (2096 - k - 0) :=
          Nat.mul_le_mul_left _ (Nat.pow_le_pow_right (by decide) (by omega))
  · have hshift : 2096 - k - (2095 - k - m.log2) = m.log2 + 1 := by omega
    have hfull : unit * m ≤ unit * 2 ^ (m.log2 + 1) :=
      Nat.mul_le_mul_left _ Nat.lt_log2_self.le
    rw [hshift]
    generalize hq : unit * 2 ^ (m.log2 + 1) / m = q
    have hunit : unit ≤ q := by
      rw [← hq]
      exact (Nat.le_div_iff_mul_le hm).mpr hfull
    have hqpos : 0 < q := (show 0 < unit by decide).trans_le hunit
    have hlog : 52 ≤ q.log2 := (Nat.le_log2 hqpos.ne').mpr (unit_eq ▸ hunit)
    refine ⟨(Nat.le_mul_of_pos_left m (by decide)).trans hfull, ?_⟩
    unfold dropped
    rw [log2_mul_two_pow hqpos]
    omega

theorem toNat_pack_div {m k : Nat} (hm : 0 < m) (hlt : m < 2 * unit) (hk : k ≤ 2045) :
    (pack Format.binary64 (div Format.binary64
      (.finite .positive unit ((1022 : Nat) - 1074 : Int) (by decide))
      (.finite .positive m (k - 1074 : Int) hm))).toNat =
      (Ratio.mk (2 ^ 2148) (m * 2 ^ k)).nearestCode := by
  obtain ⟨hle, hdropped⟩ := le_quotient hm hlt hk
  unfold div
  dsimp only
  rw [divCore_one (by omega)]
  generalize hs : 2095 - k - m.log2 = s at hle hdropped ⊢
  have hsle : s ≤ 2096 - k := by omega
  have hvalue : unit * 2 ^ (2096 - k - s) * 2 ^ s * 2 ^ k = 2 ^ 2148 := by
    rw [unit_eq, Nat.mul_assoc, Nat.mul_assoc, ← Nat.pow_add, ← Nat.pow_add, ← Nat.pow_add]
    congr 1
    omega
  dsimp only
  change (pack Format.binary64 (roundWithAccuracy Format.binary64 .positive _ _ _)).toNat = _
  rw [toNat_pack_roundWithAccuracy hm hle (ofMantissaAndAccuracy_div _ hm) hdropped, ← hvalue,
    Ratio.nearestCode_mul _ _ (Nat.two_pow_pos k)]

theorem code_one_div {y : Float} (hpos : 0 < code y) (hlt : code y < infinityCode) :
    code (1.0 / y) = (Ratio.mk (2 ^ 2148) (magnitude (code y))).nearestCode := by
  change (pack Format.binary64
    (div Format.binary64 (1.0 : Float).toModel.unpack y.toModel.unpack)).toNat = _
  obtain ⟨m, hm, k, hunpack, hfit, hnormal, hcode, hvalue⟩ := exists_unpack_float hpos hlt
  have hk : k ≤ 2045 := by
    by_contra hk
    have hmul : 2046 * unit ≤ k * unit := Nat.mul_le_mul_right unit (by omega)
    have := hnormal (by omega)
    unfold infinityCode at hlt
    omega
  rw [unpack_one, hunpack, toNat_pack_div hm hfit hk, hvalue]

/-! ## Comparing positive numbers -/

theorem le_iff_code_le {x y : Float} (hx : 0 < code x ∧ code x < infinityCode)
    (hy : 0 < code y ∧ code y < infinityCode) : x ≤ y ↔ code x ≤ code y := by
  obtain ⟨m, hm, k, hunpack, hfit, hnormal, hcode, -⟩ := exists_unpack_float hx.1 hx.2
  obtain ⟨m', hm', k', hunpack', hfit', hnormal', hcode', -⟩ := exists_unpack_float hy.1 hy.2
  have hcompare : x.toModel.unpack.compare y.toModel.unpack =
      some ((compare (k - 1074 : Int) (k' - 1074)).then (compare m m')) := by
    rw [hunpack, hunpack']
    rfl
  rw [le_iff_compare, hcompare, ← hcode, ← hcode']
  -- the exponents decide, and if they are the same the digits
  rcases Nat.lt_trichotomy k k' with hlt | rfl | hgt
  · have hstep : (k + 1) * unit ≤ k' * unit := Nat.mul_le_mul_right unit hlt
    have hfull := hnormal' (by omega)
    rw [Nat.succ_mul] at hstep
    rw [Int.compare_eq_lt.mpr (by omega)]
    simp
    omega
  · rw [Int.compare_eq_eq.mpr rfl]
    simp [Nat.isLE_compare]
  · have hstep : (k' + 1) * unit ≤ k * unit := Nat.mul_le_mul_right unit hgt
    have hfull := hnormal (by omega)
    rw [Nat.succ_mul] at hstep
    rw [Int.compare_eq_gt.mpr (by omega)]
    simp
    omega

theorem pos_of_code {x : Float} (hpos : 0 < code x) (hlt : code x < infinityCode) : x > 0.0 := by
  obtain ⟨m, hm, k, hunpack, -⟩ := exists_unpack_float hpos hlt
  change 0.0 < x
  rw [lt_iff_compare, unpack_float_zero, hunpack]
  rfl

theorem code_injective : Function.Injective code := by
  rintro ⟨⟨bits, hbits⟩⟩ ⟨⟨bits', hbits'⟩⟩ h
  obtain rfl : bits = bits' := UInt64.toNat_inj.mp h
  rfl

/-! ## The reciprocals that are infinite -/

def tiny : Float :=
  5.562684646268003e-309

theorem code_tiny : code tiny = 2 ^ 50 := by
  decide +kernel

theorem code_one_div_le {x y : Float} (hpos : 0 < code x) (hlt : code y < infinityCode)
    (h : code x ≤ code y) : code (1.0 / y) ≤ code (1.0 / x) := by
  rw [code_one_div hpos (h.trans_lt hlt), code_one_div (hpos.trans_le h) hlt]
  exact Ratio.nearestCode_mono (magnitude_pos (hpos.trans_le h)) (magnitude_pos hpos)
    (Nat.mul_le_mul_left _ (magnitude_mono h))

theorem one_div_eq_infinity {y : Float} (hpos : 0 < code y) (h : code y ≤ code tiny) :
    1.0 / y = 1.0 / 0.0 := by
  have htiny : code tiny < infinityCode := by
    rw [code_tiny]
    decide
  apply code_injective
  apply le_antisymm
  · calc code (1.0 / y) ≤ infinityCode := by
          rw [code_one_div hpos (h.trans_lt htiny)]
          exact min_le_right _ _
      _ = code (1.0 / 0.0) := by decide +kernel
  · calc code (1.0 / 0.0) = code (1.0 / tiny) := by decide +kernel
      _ ≤ code (1.0 / y) := code_one_div_le hpos htiny h

/-- The least and the largest of the other numbers have reciprocals that are finite and above
zero. -/
theorem code_one_div_pos_lt {y : Float} (hlt : code y < infinityCode) (h : code tiny < code y) :
    0 < code (1.0 / y) ∧ code (1.0 / y) < infinityCode := by
  have hleast : code (Float.ofBits 0x4000000000001) = code tiny + 1 := by
    rw [code_tiny]
    decide +kernel
  have hgreatest : code (Float.ofBits 0x7fefffffffffffff) + 1 = infinityCode := by decide +kernel
  constructor
  · calc 0 < code (1.0 / Float.ofBits 0x7fefffffffffffff) := by decide +kernel
      _ ≤ code (1.0 / y) := code_one_div_le (by omega) (by omega) (by omega)
  · calc code (1.0 / y) ≤ code (1.0 / Float.ofBits 0x4000000000001) :=
          code_one_div_le (by omega) hlt (by omega)
      _ < infinityCode := by decide +kernel

/-! ## Products with one -/

theorem exists_of_unpack {b : BitVec 64} {s : Sign} {m : Nat} {e : Int} {hm : 0 < m}
    (h : unpack Format.binary64 b = .finite s m e hm) :
    ∃ k : Nat, e = (k - 1074 : Int) ∧ k ≤ 2045 ∧ m < 2 * unit ∧ (0 < k → unit ≤ m) := by
  have hexponent := toNat_unpackExponent b
  have hmantissa := toNat_unpackMantissa b
  have hrest : b.toNat % unit < unit := Nat.mod_lt _ (by decide)
  unfold unpack at h
  dsimp only at h
  by_cases hall : @unpackExponent Format.binary64 b = -1#_
  · rw [if_pos hall] at h
    by_cases hnone : @unpackMantissa Format.binary64 b = 0#_
    · rw [if_pos hnone] at h
      cases h
    · rw [if_neg hnone] at h
      cases h
  rw [if_neg hall] at h
  by_cases hsubnormal : @unpackExponent Format.binary64 b = 0#_
  · rw [if_pos hsubnormal] at h
    by_cases hnone : @unpackMantissa Format.binary64 b = 0#_
    · rw [dif_pos hnone] at h
      cases h
    · rw [dif_neg hnone, UnpackedFloat.finite.injEq] at h
      obtain ⟨-, hm, he⟩ := h
      refine ⟨0, ?_, by omega, by omega, by omega⟩
      rw [← he, hsubnormal]
      rfl
  · rw [if_neg hsubnormal, UnpackedFloat.finite.injEq] at h
    obtain ⟨-, hm, he⟩ := h
    have hnonzero : b.toNat / unit % 2048 ≠ 0 := by
      intro hzero
      rw [hzero] at hexponent
      exact hsubnormal (BitVec.eq_of_toNat_eq hexponent)
    have hnotAll : b.toNat / unit % 2048 ≠ 2047 := by
      intro hones
      rw [hones] at hexponent
      exact hall (BitVec.eq_of_toNat_eq hexponent)
    rw [toNat_one_append_unpackMantissa] at hm
    rw [hexponent] at he
    change (_ : Int) - (1023 + 52) = _ at he
    exact ⟨b.toNat / unit % 2048 - 1, by omega, by omega, by omega, by omega⟩

/-- A number that fits is left as it is by rounding, also where its digits come with zeros. -/
theorem roundWithAccuracy_unit {s : Sign} {m k : Nat} (hm : 0 < m) (hlt : m < 2 * unit)
    (hnormal : 0 < k → unit ≤ m) :
    roundWithAccuracy Format.binary64 s (unit * m)
        (((1022 : Nat) - 1074 : Int) + (k - 1074 : Int)) .exact =
      .finite s m (k - 1074 : Int) hm := by
  have hunit : 0 < unit := by decide
  have htarget : Format.binary64.targetExponent
      (totalExponent (unit * m) (((1022 : Nat) - 1074 : Int) + (k - 1074))) = (k - 1074 : Int) := by
    have hlog : (unit * m).log2 = m.log2 + 52 := by
      rw [Nat.mul_comm, unit_eq, log2_mul_two_pow hm]
    have hfew : m.log2 < 53 := (Nat.log2_lt hm.ne').mpr (by rw [unit_eq] at hlt; omega)
    have hfull : 0 < k → 52 ≤ m.log2 := fun hk =>
      (Nat.le_log2 hm.ne').mpr (unit_eq ▸ hnormal hk)
    unfold Format.targetExponent totalExponent
    rw [hlog]
    change max (_ - 53) (3 - 2 ^ 10 - 53) = _
    omega
  have hfirst : shiftToTargetExponent Format.binary64 (unit * m)
      (((1022 : Nat) - 1074 : Int) + (k - 1074)) .exact =
        ((Ratio.mk (unit * m) unit).extended, (k - 1074 : Int)) := by
    have hshift : ((k - 1074 : Int) - (((1022 : Nat) - 1074 : Int) + (k - 1074))).toNat = 52 := by
      omega
    unfold shiftToTargetExponent shiftToExponent
    rw [htarget]
    dsimp only
    rw [hshift, ofMantissaAndAccuracy_exact, Ratio.shiftRight_extended _ Nat.one_pos, Nat.one_mul,
      ← unit_eq]
    congr 1
    omega
  have hround : (Ratio.mk (unit * m) unit).extended.roundedMantissa = m := by
    rw [Ratio.roundedMantissa_extended _ hunit]
    have hone := Ratio.round_mul m 1 hunit
    rwa [Nat.mul_comm, Nat.one_mul, Ratio.round_one] at hone
  have hsecond := shiftToTargetExponent_eq hm k .exact
  rw [Nat.sub_eq_zero_of_le (dropped_le hm hlt), max_eq_left (dropped_le hm hlt)] at hsecond
  unfold roundWithAccuracy
  rw [hfirst]
  dsimp only
  rw [hround, hsecond]
  exact dif_neg hm.ne'

theorem isFinite_unpack {b : BitVec 64} (h : @unpackExponent Format.binary64 b ≠ -1#_) :
    (unpack Format.binary64 b).isFinite = true := by
  unfold unpack
  dsimp only
  rw [if_neg h]
  by_cases hsubnormal : @unpackExponent Format.binary64 b = 0#_
  · rw [if_pos hsubnormal]
    by_cases hnone : @unpackMantissa Format.binary64 b = 0#_
    · rw [dif_pos hnone]
      rfl
    · rw [dif_neg hnone]
      rfl
  · rw [if_neg hsubnormal]
    rfl

theorem isFinite_unpack_pack {s : Sign} {m k : Nat} (hm : 0 < m) (hk : k ≤ 2045) :
    (unpack Format.binary64
      (pack Format.binary64 (.finite s m (k - 1074 : Int) hm))).isFinite = true := by
  have hbiased : ((k - 1074 : Int) + Format.binary64.exponentBias +
      Format.binary64.mantissaBitsWithoutImplicit).toNat = k + 1 := by
    change ((k - 1074 : Int) + 1023 + 52).toNat = k + 1
    omega
  apply isFinite_unpack
  unfold pack
  dsimp only
  rw [hbiased]
  split_ifs with hinfinite
  · change 2048 ≤ k + 1 + 1 at hinfinite
    omega
  · rw [unpackExponent_packComponents]
    intro hall
    have hnat := congrArg BitVec.toNat hall
    rw [BitVec.toNat_ofNat] at hnat
    change (k + 1) % 2048 = 2047 at hnat
    omega
  · rw [unpackExponent_packComponents]
    decide

theorem isFinite_mul {x y : Float} {s : Sign}
    (hx : x.toModel.unpack = .finite s unit ((1022 : Nat) - 1074 : Int) (by decide))
    (hy : y.isFinite = true) : (x * y).isFinite = true := by
  change (unpack Format.binary64 (pack Format.binary64
    (mul Format.binary64 x.toModel.unpack y.toModel.unpack))).isFinite = true
  change y.toModel.unpack.isFinite = true at hy
  rw [hx]
  cases hunpack : y.toModel.unpack with
  | notANumber =>
      rw [hunpack] at hy
      cases hy
  | infinity =>
      rw [hunpack] at hy
      cases hy
  | zero s' => cases s <;> cases s' <;> rfl
  | finite s' m e hm =>
      obtain ⟨k, rfl, hk, hlt, hnormal⟩ := exists_of_unpack (b := y.toModel.toBits.toBitVec) hunpack
      unfold mul
      dsimp only
      rw [roundWithAccuracy_unit hm hlt hnormal]
      exact isFinite_unpack_pack hm hk

end Tournament.Number
