import Tournament.Spec.Line
import Mathlib.Data.List.Forall2
import Mathlib.Data.List.TakeWhile

/-!
# Spellings of a line

A line can be spelled in several ways: with blanks around it, with typographic quotation marks for
plain ones and, if it is a header, with the name in another case of letters (`Respelled`).  The
first two ways leave its text as it is; the last leaves the header one of the same section
(`normalize_of_respelled`).
-/

namespace Tournament.Spec

open Text (isBlank trim trimStart trimEnd)

/-- A character for itself, or a typographic quotation mark for a plain one. -/
def StandsFor (c' c : Char) : Prop :=
  c' = c ∨ c = '"' ∧ c' ∈ ['\u201C', '\u201D', '\u201E'] ∨
    c = '\x27' ∧ c' ∈ ['\u2018', '\u2019']

instance : DecidableRel StandsFor := fun _ _ =>
  inferInstanceAs (Decidable (_ ∨ _))

/-- The second line is the first in another spelling. -/
inductive Respelled : List Char → List Char → Prop where
  | padded {left raw right : List Char} (hleft : ∀ c ∈ left, isBlank c = true)
      (hright : ∀ c ∈ right, isBlank c = true) : Respelled raw (left ++ raw ++ right)
  | requoted {raw raw' : List Char} (h : List.Forall₂ StandsFor raw' raw) : Respelled raw raw'
  | recased {raw raw' : List Char} (hheader : (headerName? (normalize raw)).isSome = true)
      (h : raw'.map Char.toLower = raw.map Char.toLower) : Respelled raw raw'

/-! ## Blanks -/

theorem trimStart_append_of_blank {left : List Char} (h : ∀ c ∈ left, isBlank c = true)
    (cs : List Char) : trimStart (left ++ cs) = trimStart cs := by
  rw [trimStart, List.dropWhile_append, List.dropWhile_eq_nil_iff.mpr h]
  rfl

theorem trimEnd_append_of_blank {right : List Char} (h : ∀ c ∈ right, isBlank c = true)
    (cs : List Char) : trimEnd (cs ++ right) = trimEnd cs := by
  have hreverse : ∀ c ∈ right.reverse, isBlank c = true := fun c hc => h c (List.mem_reverse.mp hc)
  have hstart := trimStart_append_of_blank hreverse cs.reverse
  rw [trimEnd, List.reverse_append]
  exact congrArg List.reverse hstart

theorem trim_padded {left right : List Char} (hleft : ∀ c ∈ left, isBlank c = true)
    (hright : ∀ c ∈ right, isBlank c = true) (cs : List Char) :
    trim (left ++ cs ++ right) = trim cs := by
  rw [trim, List.append_assoc, trimStart_append_of_blank hleft, trimStart, List.dropWhile_append]
  split_ifs with hblank
  · -- a line of blanks only
    rw [trim, trimStart, List.dropWhile_eq_nil_iff.mpr hright, List.isEmpty_iff.mp hblank]
  · exact trimEnd_append_of_blank hright _

theorem trim_map {f : Char → Char} (hf : ∀ c, isBlank (f c) = isBlank c) (cs : List Char) :
    trim (cs.map f) = (trim cs).map f := by
  have hcomp : isBlank ∘ f = isBlank := funext hf
  simp only [trim, trimEnd, trimStart, List.dropWhile_map, ← List.map_reverse, hcomp]

/-! ## Quotation marks -/

theorem isBlank_plainQuote (c : Char) : isBlank (plainQuote c) = isBlank c := by
  unfold plainQuote
  split_ifs with hdouble hsingle
  · simp only [Bool.or_eq_true, decide_eq_true_eq] at hdouble
    rcases hdouble with (rfl | rfl) | rfl <;> decide
  · simp only [Bool.or_eq_true, decide_eq_true_eq] at hsingle
    rcases hsingle with rfl | rfl <;> decide
  · rfl

theorem normalize_eq_trim_map (cs : List Char) : normalize cs = trim (cs.map plainQuote) :=
  (trim_map isBlank_plainQuote cs).symm

theorem plainQuote_of_standsFor {c c' : Char} (h : StandsFor c' c) :
    plainQuote c' = plainQuote c := by
  rcases h with rfl | ⟨rfl, hmem⟩ | ⟨rfl, hmem⟩
  · rfl
  · simp only [List.mem_cons, List.not_mem_nil, or_false] at hmem
    rcases hmem with rfl | rfl | rfl <;> decide
  · simp only [List.mem_cons, List.not_mem_nil, or_false] at hmem
    rcases hmem with rfl | rfl <;> decide

/-! ## Cases of letters -/

theorem toLower_cases (c : Char) :
    c.toLower = c ∨ 65 ≤ c.toNat ∧ c.toNat ≤ 90 ∧ c.toLower.toNat = c.toNat + 32 := by
  unfold Char.toLower
  split_ifs with h
  · right
    have hlow : 65 ≤ c.val.toNat := h.1
    have hhigh : c.val.toNat ≤ 90 := h.2
    refine ⟨hlow, hhigh, ?_⟩
    have hsum : (c.val + 32).toNat = c.val.toNat + 32 := by
      have h32 : (32 : UInt32).toNat = 32 := rfl
      rw [UInt32.toNat_add, h32]
      omega
    exact hsum
  · exact .inl rfl

theorem isBlank_of_letter {c : Char} (hlow : 65 ≤ c.toNat) (hhigh : c.toNat ≤ 122) :
    isBlank c = false := by
  simp only [isBlank, Text.inRanges, Text.blankRanges, List.any_cons, List.any_nil]
  simp
  omega

theorem isBlank_toLower (c : Char) : isBlank c.toLower = isBlank c := by
  rcases toLower_cases c with h | ⟨hlow, hhigh, h⟩
  · rw [h]
  · rw [isBlank_of_letter hlow (by omega), isBlank_of_letter (by omega) (by omega)]

theorem plainQuote_of_le {c : Char} (h : c.toNat ≤ 122) : plainQuote c = c := by
  unfold plainQuote
  split_ifs with hdouble hsingle
  · simp only [Bool.or_eq_true, decide_eq_true_eq] at hdouble
    rcases hdouble with (rfl | rfl) | rfl <;> exact absurd h (by decide)
  · simp only [Bool.or_eq_true, decide_eq_true_eq] at hsingle
    rcases hsingle with rfl | rfl <;> exact absurd h (by decide)
  · rfl

theorem plainQuote_toLower (c : Char) : plainQuote c.toLower = (plainQuote c).toLower := by
  rcases toLower_cases c with h | ⟨hlow, hhigh, h⟩
  · rw [h]
    unfold plainQuote
    split_ifs
    · rfl
    · rfl
    · exact h.symm
  · rw [plainQuote_of_le (show c.toNat ≤ 122 by omega), plainQuote_of_le (by omega)]

theorem toLower_eq_iff {b : Char} (hlow : 90 < b.toNat) (hhigh : b.toNat < 97) (c : Char) :
    c.toLower = b ↔ c = b := by
  rcases toLower_cases c with h | ⟨hlow', hhigh', h⟩
  · rw [h]
  · constructor
    · rintro rfl
      omega
    · rintro rfl
      omega

theorem headerName?_map_toLower (text : List Char) :
    headerName? (text.map Char.toLower) = (headerName? text).map (·.map Char.toLower) := by
  have hopening := toLower_eq_iff (show 90 < '['.toNat by decide) (by decide)
  have hclosing := toLower_eq_iff (show 90 < ']'.toNat by decide) (by decide)
  cases text with
  | nil => rfl
  | cons c rest =>
      by_cases hc : c = '['
      · have hlast : (rest.map Char.toLower).getLast? = some ']' ↔ rest.getLast? = some ']' := by
          rw [List.getLast?_map, Option.map_eq_some_iff]
          simp [hclosing]
        have hinside : (rest.map Char.toLower).dropLast = rest.dropLast.map Char.toLower :=
          List.map_dropLast.symm
        subst hc
        rw [List.map_cons, (hopening '[').mpr rfl, headerName?, headerName?, hinside]
        simp only [hlast, List.all_map, Function.comp_def, hopening, hclosing, ne_eq,
          List.map_eq_nil_iff, apply_ite (Option.map _), Option.map_some, Option.map_none]
      · have hc' : c.toLower ≠ '[' := mt (hopening c).mp hc
        simp [headerName?, hc, hc']

theorem normalize_map_toLower (cs : List Char) :
    normalize (cs.map Char.toLower) = (normalize cs).map Char.toLower := by
  rw [normalize, trim_map isBlank_toLower, normalize, List.map_map, List.map_map]
  exact List.map_congr_left fun c _ => plainQuote_toLower c

theorem named_congr {name name' : List Char} (h : name'.map Char.toLower = name.map Char.toLower) :
    Section.named name' = Section.named name := by
  unfold Section.named Text.lowerAscii
  rw [h]

/-- Another spelling of a line has the same text, or is a header of the same section. -/
theorem normalize_of_respelled {raw raw' : List Char} (h : Respelled raw raw') :
    normalize raw' = normalize raw ∨
      ∃ name name', headerName? (normalize raw) = some name ∧
        headerName? (normalize raw') = some name' ∧ Section.named name' = Section.named name := by
  cases h with
  | padded hleft hright =>
      left
      rw [normalize, trim_padded hleft hright]
      rfl
  | requoted h =>
      left
      have hquotes : raw'.map plainQuote = raw.map plainQuote := by
        induction h with
        | nil => rfl
        | cons hc _ ih => rw [List.map_cons, List.map_cons, plainQuote_of_standsFor hc, ih]
      rw [normalize_eq_trim_map, normalize_eq_trim_map, hquotes]
  | recased hheader h =>
      right
      obtain ⟨name, hname⟩ := Option.isSome_iff_exists.mp hheader
      have hcase : (headerName? (normalize raw')).map (·.map Char.toLower) =
          some (name.map Char.toLower) := by
        rw [← headerName?_map_toLower, ← normalize_map_toLower, h, normalize_map_toLower,
          headerName?_map_toLower, hname]
        rfl
      obtain ⟨name', hname', hlower⟩ := Option.map_eq_some_iff.mp hcase
      exact ⟨name, name', hname, hname', named_congr hlower⟩

end Tournament.Spec
