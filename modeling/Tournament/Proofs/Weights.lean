import Tournament.Draw.Source
import Tournament.Proofs.Addition

/-!
# Choosing by weight

Positive numbers can be chosen by if there is one of them and their sum is finite; nothing else can
go wrong (`weightError?_eq`).  Leaving weights out does not make a finite sum infinite, although
every partial sum is rounded (`isFinite_totalWeight_of_sublist`).
-/

namespace Tournament.Draw

open Number

/-- A number that may be the weight of something: positive and finite. -/
def IsWeight (w : Float) : Prop :=
  w.isFinite = true ∧ w > 0.0

theorem IsWeight.code_pos {w : Float} (h : IsWeight w) : 0 < code w :=
  (code_of_pos h.1 h.2).1

theorem IsWeight.code_le {w : Float} (h : IsWeight w) : code w ≤ infinityCode :=
  (code_of_pos h.1 h.2).2.le

/-! ## Partial sums -/

theorem code_zero : code 0.0 = 0 := by
  decide +kernel

theorem code_foldl_le {ws : List Float} (hws : ∀ w ∈ ws, IsWeight w) {a : Float}
    (ha : code a ≤ infinityCode) : code (ws.foldl (· + ·) a) ≤ infinityCode := by
  induction ws generalizing a with
  | nil => exact ha
  | cons w ws ih =>
      have hw : code w ≤ infinityCode := (hws w List.mem_cons_self).code_le
      exact ih (fun v hv => hws v (List.mem_cons_of_mem w hv)) (code_add_le ha hw)

theorem code_foldl_mono {ws vs : List Float} (h : ws.Sublist vs) (hvs : ∀ w ∈ vs, IsWeight w)
    {a b : Float} (hab : code a ≤ code b) (hb : code b ≤ infinityCode) :
    code (ws.foldl (· + ·) a) ≤ code (vs.foldl (· + ·) b) := by
  induction h generalizing a b with
  | slnil => exact hab
  | cons v _ ih =>
      have hv : code v ≤ infinityCode := (hvs v List.mem_cons_self).code_le
      exact ih (fun w hw => hvs w (List.mem_cons_of_mem v hw))
        (hab.trans (code_le_code_add hb hv)) (code_add_le hb hv)
  | cons_cons v _ ih =>
      have hv : code v ≤ infinityCode := (hvs v List.mem_cons_self).code_le
      exact ih (fun w hw => hvs w (List.mem_cons_of_mem v hw))
        (code_add_le_code_add hb hv hab) (code_add_le hb hv)

/-! ## The sum -/

theorem code_totalWeight {ws : List Float} (hws : ∀ w ∈ ws, IsWeight w) :
    code (totalWeight ws) = code (ws.foldl (· + ·) 0.0) := by
  cases ws with
  | nil => rfl
  | cons w ws =>
      have hw : code w ≤ infinityCode := (hws w List.mem_cons_self).code_le
      have htail : ∀ v ∈ ws, IsWeight v := fun v hv => hws v (List.mem_cons_of_mem w hv)
      have hzero : code 0.0 ≤ infinityCode := by
        rw [code_zero]
        exact Nat.zero_le _
      have hfirst : code (0.0 + w) = code w := by
        rw [code_add hzero hw, code_zero, show magnitude 0 = 0 from rfl, Nat.zero_add,
          nearestCode_magnitude hw]
      apply le_antisymm
      · exact code_foldl_mono (.refl ws) htail hfirst.ge (hfirst ▸ hw)
      · exact code_foldl_mono (.refl ws) htail hfirst.le hw

theorem code_totalWeight_le {ws : List Float} (hws : ∀ w ∈ ws, IsWeight w) :
    code (totalWeight ws) ≤ infinityCode := by
  rw [code_totalWeight hws]
  exact code_foldl_le hws (code_zero ▸ Nat.zero_le _)

theorem code_totalWeight_mono {ws vs : List Float} (h : ws.Sublist vs)
    (hvs : ∀ w ∈ vs, IsWeight w) : code (totalWeight ws) ≤ code (totalWeight vs) := by
  rw [code_totalWeight hvs, code_totalWeight fun w hw => hvs w (h.subset hw)]
  exact code_foldl_mono h hvs le_rfl (code_zero ▸ Nat.zero_le _)

theorem code_totalWeight_pos {ws : List Float} (hne : ws ≠ []) (hws : ∀ w ∈ ws, IsWeight w) :
    0 < code (totalWeight ws) := by
  obtain ⟨w, hw⟩ := List.exists_mem_of_ne_nil ws hne
  calc 0 < code w := (hws w hw).code_pos
    _ ≤ code (totalWeight ws) :=
      code_totalWeight_mono (List.singleton_sublist.mpr hw : [w].Sublist ws) hws

theorem isFinite_totalWeight_of_sublist {ws vs : List Float} (h : ws.Sublist vs)
    (hvs : ∀ w ∈ vs, IsWeight w) (hfinite : (totalWeight vs).isFinite = true) :
    (totalWeight ws).isFinite = true := by
  have hws : ∀ w ∈ ws, IsWeight w := fun w hw => hvs w (h.subset hw)
  rw [isFinite_eq (code_totalWeight_le hvs), decide_eq_true_iff] at hfinite
  rw [isFinite_eq (code_totalWeight_le hws), decide_eq_true_iff]
  exact (code_totalWeight_mono h hvs).trans_lt hfinite

/-- What can speak against a choice by positive weights: that there are none, or that their sum is
infinite. -/
theorem weightError?_eq {ws : List Float} (hws : ∀ w ∈ ws, IsWeight w) :
    weightError? ws =
      if ws = [] then some .noItem
      else if (totalWeight ws).isFinite then none else some .unbounded := by
  unfold weightError?
  by_cases hne : ws = []
  · rw [if_pos hne, if_pos hne]
  · have hvalid : (ws.any fun w => !(w ≥ 0.0)) = false := by
      rw [List.any_eq_false]
      intro w hw
      simp [nonneg_of_code_le (hws w hw).code_le]
    have hnonzero : (totalWeight ws == 0.0) = false := by
      rw [beq_zero_eq (code_totalWeight_le hws), decide_eq_false_iff_not]
      exact (code_totalWeight_pos hne hws).ne'
    rw [if_neg hne, if_neg hne, hvalid, hnonzero]
    cases (totalWeight ws).isFinite <;> rfl

end Tournament.Draw
