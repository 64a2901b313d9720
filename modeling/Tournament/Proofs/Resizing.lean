import Tournament.Proofs.LengthGrammar
import Tournament.Proofs.Reciprocals
import Tournament.Resize

/-!
# What changes of size do

A change that is read adds or takes away a finite length, or multiplies by a factor.  A factor that
is written out is finite and above zero, as it is checked.  A divisor is checked before its
reciprocal is taken, and the reciprocal of a divisor up to `Number.tiny` is infinite.
-/

namespace Tournament.Resize

open Number (code infinityCode tiny)

/-- A change adds what is finite, or multiplies by what is finite and above zero. -/
def Usable : Resize → Prop
  | .shift metres => metres.isFinite = true
  | .scale factor => factor.isFinite = true ∧ factor > 0.0

def DividesBy (s : String) (divisor : Float) : Prop :=
  ∃ rest, Text.trim s.toList = '/' :: rest ∧
    Number.readFloat (Text.trim rest) = some divisor

theorem usable_scale_iff {factor : Float} :
    (scale factor).Usable ↔ 0 < code factor ∧ code factor < infinityCode := by
  constructor
  · rintro ⟨hfinite, hpos⟩
    exact Number.code_of_pos hfinite hpos
  · rintro ⟨hpos, hlt⟩
    exact ⟨by rw [Number.isFinite_eq hlt.le, decide_eq_true hlt], Number.pos_of_code hpos hlt⟩

theorem readFactor_eq_ok {cs : List Char} {factor : Float} (h : readFactor cs = .ok factor) :
    Number.readFloat cs = some factor ∧ 0 < code factor ∧ code factor < infinityCode := by
  unfold readFactor at h
  split at h
  · cases h
  · next factor' hread =>
    split_ifs at h with hcheck
    cases h
    simp only [Bool.or_eq_true, Bool.not_eq_true', not_or, Bool.not_eq_false,
      decide_eq_true_eq] at hcheck
    have hnan := Number.isNaN_of_isFinite hcheck.1
    have hpos : 0.0 < factor := (Number.lt_iff_not_ge (by decide +kernel) hnan).mpr hcheck.2
    exact ⟨hread, Number.code_of_pos hcheck.1 hpos⟩

theorem readShift_eq_ok {cs : List Char} {metres : Float} (h : readShift cs = .ok metres) :
    metres.isFinite = true := by
  unfold readShift at h
  split at h
  · next l hread =>
    cases h
    obtain ⟨ps, -, -, hfinite, rfl⟩ := Length.read_eq_ok_iff.mp hread
    exact hfinite
  · cases h

theorem read_cons_eq_ok {sign : Char} {rest : List Char} {r : Resize}
    (h : read (sign :: rest) = .ok r) :
    (sign ≠ '/' ∧ ∃ factor, readFactor (Text.trim rest) = .ok factor ∧ r = .scale factor) ∨
    (sign = '/' ∧ ∃ divisor, readFactor (Text.trim rest) = .ok divisor ∧
      r = .scale (1.0 / divisor)) ∨
    (sign ≠ '/' ∧ ∃ metres, readShift (Text.trim rest) = .ok metres ∧
      (r = .shift (1.0 * metres) ∨ r = .shift (-1.0 * metres))) := by
  unfold read at h
  dsimp only at h
  split_ifs at h with htimes hover hplus hminus
  · obtain ⟨factor, hfactor, rfl⟩ := map_eq_ok.mp h
    refine .inl ⟨?_, factor, hfactor, rfl⟩
    rintro rfl
    exact absurd htimes (by decide)
  · obtain ⟨divisor, hdivisor, rfl⟩ := map_eq_ok.mp h
    exact .inr (.inl ⟨hover, divisor, hdivisor, rfl⟩)
  · obtain ⟨metres, hmetres, rfl⟩ := map_eq_ok.mp h
    exact .inr (.inr ⟨hover, metres, hmetres, .inl rfl⟩)
  · obtain ⟨metres, hmetres, rfl⟩ := map_eq_ok.mp h
    exact .inr (.inr ⟨hover, metres, hmetres, .inr rfl⟩)

theorem exists_read_of_parse {s : String} {r : Resize} (h : parse s = .ok r) :
    ∃ sign rest, Text.trim s.toList = sign :: rest ∧ read (sign :: rest) = .ok r := by
  unfold parse at h
  dsimp only at h
  cases hcs : Text.trim s.toList with
  | nil =>
      rw [hcs] at h
      cases h
  | cons sign rest =>
      rw [hcs] at h
      refine ⟨sign, rest, rfl, ?_⟩
      split at h
      · next heq =>
        cases h
        exact heq
      · cases h

theorem usable_reciprocal_iff {divisor : Float} (hpos : 0 < code divisor)
    (hlt : code divisor < infinityCode) :
    ((scale (1.0 / divisor)).Usable ↔ ¬ divisor ≤ tiny) ∧
      (divisor ≤ tiny → 1.0 / divisor = 1.0 / 0.0) := by
  have htiny : 0 < code tiny ∧ code tiny < infinityCode := by
    rw [Number.code_tiny]
    decide
  rw [Number.le_iff_code_le ⟨hpos, hlt⟩ htiny, usable_scale_iff, Nat.not_le]
  refine ⟨⟨fun husable => ?_, Number.code_one_div_pos_lt hlt⟩, Number.one_div_eq_infinity hpos⟩
  by_contra hle
  have hinfinite := Number.one_div_eq_infinity hpos (Nat.le_of_not_lt hle)
  rw [hinfinite] at husable
  exact absurd husable (by decide +kernel)

/-- A change that is read is usable, unless it divides by a number so small that the reciprocal is
infinite.  Then it multiplies by infinity. -/
theorem usable_iff_of_parse {s : String} {r : Resize} (h : parse s = .ok r) :
    (r.Usable ↔ ∀ divisor, DividesBy s divisor → ¬ divisor ≤ tiny) ∧
      (¬ r.Usable → r = .scale (1.0 / 0.0)) := by
  obtain ⟨sign, rest, hcs, hread⟩ := exists_read_of_parse h
  have hnone : sign ≠ '/' → ∀ divisor, DividesBy s divisor → ¬ divisor ≤ tiny := by
    rintro hne divisor ⟨rest', heq, -⟩
    rw [hcs] at heq
    exact absurd (List.cons.inj heq).1 hne
  obtain ⟨hsign, factor, hfactor, rfl⟩ | ⟨rfl, divisor, hdivisor, rfl⟩ |
    ⟨hsign, metres, hmetres, hr⟩ := read_cons_eq_ok hread
  · have husable : (scale factor).Usable := usable_scale_iff.mpr (readFactor_eq_ok hfactor).2
    exact ⟨iff_of_true husable (hnone hsign), fun hunusable => absurd husable hunusable⟩
  · obtain ⟨hfloat, hpos, hlt⟩ := readFactor_eq_ok hdivisor
    obtain ⟨husable, hinfinite⟩ := usable_reciprocal_iff hpos hlt
    rw [husable]
    refine ⟨⟨?_, fun hlarge => hlarge divisor ⟨rest, hcs, hfloat⟩⟩, fun htiny =>
      congrArg scale (hinfinite (not_not.mp htiny))⟩
    rintro hlarge divisor' ⟨rest', heq, hfloat'⟩
    obtain rfl := (List.cons.inj (hcs.symm.trans heq)).2
    obtain rfl := Option.some.inj (hfloat.symm.trans hfloat')
    exact hlarge
  · have husable : r.Usable := by
      rcases hr with rfl | rfl
      · exact Number.isFinite_mul Number.unpack_one (readShift_eq_ok hmetres)
      · exact Number.isFinite_mul Number.unpack_neg_one (readShift_eq_ok hmetres)
    exact ⟨iff_of_true husable (hnone hsign), fun hunusable => absurd husable hunusable⟩

/-- A third is a factor. -/
theorem usable_of_third :
    parse "/3" = .ok (.scale (1.0 / 3.0)) ∧
      ((scale (1.0 / 3.0)).Usable ↔ ∀ divisor, DividesBy "/3" divisor → ¬ divisor ≤ tiny) ∧
      (¬ (scale (1.0 / 3.0)).Usable → scale (1.0 / 3.0) = .scale (1.0 / 0.0)) :=
  ⟨by decide +kernel, usable_iff_of_parse (by decide +kernel)⟩

/-- A divisor that passes the check, with a factor that is infinite.  Zero times infinity is not a
number. -/
theorem unusable_of_tiny_divisor :
    ∃ r, parse "/1e-320" = .ok r ∧ ¬ r.Usable ∧ (r.apply ⟨0.0⟩).metres.isNaN = true := by
  refine ⟨.scale (1.0 / 0.0), ?_, ?_, ?_⟩
  · decide +kernel
  · rintro ⟨hfinite, -⟩
    exact absurd hfinite (by decide +kernel)
  · decide +kernel

end Tournament.Resize
