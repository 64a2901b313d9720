import Tournament.Length
import Tournament.Proofs.Spelling
import Tournament.Proofs.Splitting

/-!
# Numbers in a length

The number of a part is written with digits and at most one point, a digit among them.  Of the
texts made of digits and points, the reader of floating-point numbers takes just these, and the
value is that of the digits before and after the point.
-/

namespace Tournament.Length

open Number (Numeral)

/-- Digits and at most one point, a digit among them. -/
def IsNumber (cs : List Char) : Prop :=
  (∀ c ∈ cs, c.isDigit = true ∨ c = '.') ∧ (∃ c ∈ cs, c.isDigit = true) ∧ cs.count '.' ≤ 1

def numberOf (cs : List Char) : Float :=
  (Numeral.mk (cs.takeWhile (· ≠ '.')) (cs.dropWhile (· ≠ '.')).tail 0).value

theorem isNumeral_iff {c : Char} : isNumeral c = true ↔ c.isDigit = true ∨ c = '.' := by
  rw [isNumeral, Bool.or_eq_true, decide_eq_true_eq]

theorem ne_point_of_isDigit {c : Char} (h : c.isDigit = true) : c ≠ '.' := by
  rintro rfl
  cases h

theorem count_point_digits {ds : List Char} (h : ∀ c ∈ ds, c.isDigit = true) :
    ds.count '.' = 0 :=
  List.count_eq_zero.mpr fun hmem => ne_point_of_isDigit (h _ hmem) rfl

theorem exists_digits {cs : List Char} (h : ∀ c ∈ cs, isNumeral c = true) :
    ∃ ds, (∀ c ∈ ds, c.isDigit = true) ∧
      (cs = ds ∨ ∃ more, cs = ds ++ '.' :: more ∧ ∀ c ∈ more, isNumeral c = true) := by
  induction cs with
  | nil => exact ⟨[], by simp, .inl rfl⟩
  | cons c cs ih =>
      obtain ⟨hc, hcs⟩ := List.forall_mem_cons.mp h
      obtain hdigit | rfl := isNumeral_iff.mp hc
      · obtain ⟨ds, hds, hrest⟩ := ih hcs
        refine ⟨c :: ds, List.forall_mem_cons.mpr ⟨hdigit, hds⟩, ?_⟩
        obtain rfl | ⟨more, rfl, hmore⟩ := hrest
        · exact .inl rfl
        · exact .inr ⟨more, rfl, hmore⟩
      · exact ⟨[], by simp, .inr ⟨cs, rfl, hcs⟩⟩

/-! ## What the reader makes of it -/

section

variable {whole fraction more : List Char} (hwhole : ∀ c ∈ whole, c.isDigit = true)
  (hfraction : ∀ c ∈ fraction, c.isDigit = true)

include hwhole

theorem ne_point_digits : ∀ c ∈ whole, decide (c ≠ '.') = true :=
  fun c hc => decide_eq_true (ne_point_of_isDigit (hwhole c hc))

theorem takeWhile_point :
    (whole ++ '.' :: more).takeWhile Char.isDigit = whole ∧
      (whole ++ '.' :: more).dropWhile Char.isDigit = '.' :: more :=
  Text.takeWhile_dropWhile_append hwhole (by rintro c ⟨⟩; rfl)

theorem read_whole :
    Numeral.read whole = if whole = [] then none else some ⟨whole, [], 0⟩ := by
  simp [Numeral.read, List.takeWhile_eq_self_iff.mpr hwhole, List.dropWhile_eq_nil_iff.mpr hwhole]

include hfraction

theorem read_pointed :
    Numeral.read (whole ++ '.' :: fraction) =
      if whole = [] ∧ fraction = [] then none else some ⟨whole, fraction, 0⟩ := by
  simp [Numeral.read, takeWhile_point hwhole, List.takeWhile_eq_self_iff.mpr hfraction,
    List.dropWhile_eq_nil_iff.mpr hfraction]

theorem read_pointed_twice :
    Numeral.read (whole ++ '.' :: (fraction ++ '.' :: more)) = none := by
  simp [Numeral.read, takeWhile_point hwhole, takeWhile_point hfraction]

end

theorem isNumber_digits {ds : List Char} (hds : ∀ c ∈ ds, c.isDigit = true) (hne : ds ≠ []) :
    IsNumber ds := by
  obtain ⟨d, hd⟩ := List.exists_mem_of_ne_nil ds hne
  refine ⟨fun c hc => .inl (hds c hc), ⟨d, hd, hds d hd⟩, ?_⟩
  rw [count_point_digits hds]
  exact Nat.zero_le 1

theorem isNumber_pointed {whole fraction : List Char} (hwhole : ∀ c ∈ whole, c.isDigit = true)
    (hfraction : ∀ c ∈ fraction, c.isDigit = true) (hne : ¬ (whole = [] ∧ fraction = [])) :
    IsNumber (whole ++ '.' :: fraction) := by
  have hdigits : ∀ c ∈ whole ++ fraction, c.isDigit = true :=
    List.forall_mem_append.mpr ⟨hwhole, hfraction⟩
  obtain ⟨d, hd⟩ := List.exists_mem_of_ne_nil (whole ++ fraction) (by simpa using hne)
  refine ⟨?_, ⟨d, ?_, hdigits d hd⟩, ?_⟩
  · rw [List.forall_mem_append, List.forall_mem_cons]
    exact ⟨fun c hc => .inl (hwhole c hc), .inr rfl, fun c hc => .inl (hfraction c hc)⟩
  · exact ((List.sublist_cons_self '.' fraction).append_left whole).mem hd
  · rw [List.count_append, List.count_cons_self, count_point_digits hwhole,
      count_point_digits hfraction]

/-- A text of digits and points is taken just where it is the number of a part. -/
theorem read_eq_some_iff {cs : List Char} (h : ∀ c ∈ cs, isNumeral c = true) {n : Numeral} :
    Numeral.read cs = some n ↔
      IsNumber cs ∧ n = ⟨cs.takeWhile (· ≠ '.'), (cs.dropWhile (· ≠ '.')).tail, 0⟩ := by
  obtain ⟨whole, hwhole, rfl | ⟨more, rfl, hmore⟩⟩ := exists_digits h
  · have hne := ne_point_digits hwhole
    rw [read_whole hwhole, List.takeWhile_eq_self_iff.mpr hne, List.dropWhile_eq_nil_iff.mpr hne]
    split_ifs with hnil
    · simp [hnil, IsNumber]
    · simp [isNumber_digits hwhole hnil, eq_comm]
  · have hpoint : ∀ c ∈ ('.' :: more).head?, decide (c ≠ '.') = false := by
      rintro c ⟨⟩
      rfl
    have hrun := Text.takeWhile_dropWhile_append (ne_point_digits hwhole) hpoint
    rw [hrun.1, hrun.2, List.tail_cons]
    obtain ⟨fraction, hfraction, rfl | ⟨more, rfl, -⟩⟩ := exists_digits hmore
    · rw [read_pointed hwhole hfraction]
      split_ifs with hnil
      · simp [hnil, IsNumber]
      · simp [isNumber_pointed hwhole hfraction hnil, eq_comm]
    · have hmany : ¬ IsNumber (whole ++ '.' :: (fraction ++ '.' :: more)) := by
        rintro ⟨-, -, hcount⟩
        simp only [List.count_append, List.count_cons_self] at hcount
        omega
      simp [read_pointed_twice hwhole hfraction, hmany]

theorem toLower_digits {cs : List Char} (h : ∀ c ∈ cs, isNumeral c = true) :
    cs.map Char.toLower = cs := by
  have hlower : ∀ c ∈ cs, c.toLower = c := by
    intro c hc
    obtain hdigit | rfl := isNumeral_iff.mp (h c hc)
    · have hbounds : 48 ≤ c.toNat ∧ c.toNat ≤ 57 := Char.isDigit_iff_toNat.mp hdigit
      exact (Spec.toLower_cases c).resolve_right (by omega)
    · rfl
  rw [List.map_congr_left hlower, List.map_id']

theorem readFloat_eq_some_iff {cs : List Char} (h : ∀ c ∈ cs, isNumeral c = true) {x : Float} :
    Number.readFloat cs = some x ↔ IsNumber cs ∧ x = numberOf cs := by
  have hunsigned : Number.readFloat cs = Number.readUnsigned cs := by
    unfold Number.readFloat
    split
    · exact absurd (h '-' List.mem_cons_self) (by decide)
    · exact absurd (h '+' List.mem_cons_self) (by decide)
    · rfl
  rw [hunsigned, Number.readUnsigned]
  cases hread : Numeral.read cs with
  | some n =>
      obtain ⟨hnumber, rfl⟩ := (read_eq_some_iff h).mp hread
      simp [hnumber, numberOf, eq_comm]
  | none =>
      have hnumber : ¬ IsNumber cs := fun hnumber => by
        rw [(read_eq_some_iff h).mpr ⟨hnumber, rfl⟩] at hread
        cases hread
      have hword : ∀ (w : String) (c : Char), c ∈ w.toList → isNumeral c = false →
          String.ofList cs ≠ w := by
        rintro w c hmem hc rfl
        rw [String.toList_ofList] at hmem
        rw [h c hmem] at hc
        cases hc
      rw [toLower_digits h]
      simp only [hnumber, false_and, iff_false]
      split
      · exact absurd ‹_› (hword "inf" 'n' (by decide) rfl)
      · exact absurd ‹_› (hword "infinity" 'n' (by decide) rfl)
      · exact absurd ‹_› (hword "nan" 'n' (by decide) rfl)
      · nofun

end Tournament.Length
