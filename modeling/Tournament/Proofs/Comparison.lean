import Tournament.Proofs.Addition

/-!
# Comparisons of floating-point numbers

Of two numbers one is below the other, or else it is not (`lt_iff_not_ge`).  What is not a number is
neither below nor above anything, so a check that rejects what is too large lets it pass.
-/

namespace Tournament.Number

open Float.Model (UnpackedFloat)

theorem compare_swap (x y : UnpackedFloat) :
    y.compare x = (x.compare y).map Ordering.swap := by
  have hparts : ∀ (e e' : Int) (m m' : Nat), (compare e' e).then (compare m' m) =
      ((compare e e').then (compare m m')).swap := by
    intro e e' m m'
    rw [Ordering.swap_then, ← Std.OrientedCmp.eq_swap, ← Std.OrientedCmp.eq_swap]
  cases x with
  | notANumber => cases y <;> rfl
  | infinity s =>
      cases y with
      | infinity s' => cases s <;> cases s' <;> rfl
      | _ => cases s <;> rfl
  | zero s =>
      cases y with
      | notANumber | zero => rfl
      | infinity s' | finite s' => cases s' <;> rfl
  | finite s m e hm =>
      cases y with
      | notANumber => rfl
      | infinity s' => cases s' <;> rfl
      | zero => cases s <;> rfl
      | finite s' m' e' hm' =>
          cases s <;> cases s'
          case negative.negative => exact congrArg (fun o => some o.swap) (hparts e e' m m')
          case positive.positive => exact congrArg some (hparts e e' m m')
          all_goals rfl

theorem compare_of_isNaN {x y : UnpackedFloat} (h : x.isNaN = true ∨ y.isNaN = true) :
    x.compare y = none := by
  rcases h with h | h
  · cases x with
    | notANumber => cases y <;> rfl
    | _ => cases h
  · cases y with
    | notANumber => cases x <;> rfl
    | _ => cases h

theorem exists_compare {x y : UnpackedFloat} (hx : x.isNaN = false) (hy : y.isNaN = false) :
    ∃ o, x.compare y = some o := by
  cases x with
  | notANumber => cases hx
  | infinity s =>
      cases y with
      | notANumber => cases hy
      | infinity | zero | finite => cases s <;> exact ⟨_, rfl⟩
  | zero s =>
      cases y with
      | notANumber => cases hy
      | zero => exact ⟨_, rfl⟩
      | infinity s' | finite s' => cases s' <;> exact ⟨_, rfl⟩
  | finite s =>
      cases y with
      | notANumber => cases hy
      | zero => cases s <;> exact ⟨_, rfl⟩
      | infinity s' | finite s' => cases s <;> cases s' <;> exact ⟨_, rfl⟩

theorem isNaN_of_isFinite {x : Float} (h : x.isFinite = true) : x.isNaN = false := by
  change x.toModel.unpack.isFinite = true at h
  change x.toModel.unpack.isNaN = false
  cases hunpack : x.toModel.unpack with
  | notANumber =>
      rw [hunpack] at h
      cases h
  | _ => rfl

theorem lt_iff_not_ge {x y : Float} (hx : x.isNaN = false) (hy : y.isNaN = false) :
    x < y ↔ ¬ x ≥ y := by
  obtain ⟨o, ho⟩ := exists_compare (x := x.toModel.unpack) (y := y.toModel.unpack) hx hy
  rw [lt_iff_compare, ge_iff_le, le_iff_compare, compare_swap x.toModel.unpack, ho]
  cases o <;> decide

theorem not_lt_of_isNaN {x y : Float} (h : x.isNaN = true ∨ y.isNaN = true) : ¬ x < y := by
  rw [lt_iff_compare, compare_of_isNaN (x := x.toModel.unpack) (y := y.toModel.unpack) h]
  exact nofun

end Tournament.Number
