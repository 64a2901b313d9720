import Tournament.Text.Blank
import Tournament.Text.Digit
import Tournament.Text.Letter
import Mathlib.Data.List.TakeWhile
import Mathlib.Tactic.SplitIfs

/-!
# Texts that are cut

A text is cut at every character of some kind, and no character is of two of the kinds that the
readers tell apart.  No part has such a character in it, and a text
without one is a single part; of two texts with such a character between them, the parts are those
of both.  Trimming cuts nothing off a text that neither begins nor ends with a blank.
-/

namespace Tournament.Text

variable {p : Char → Bool} {cs part : List Char}

/-! ## Kinds of characters -/

theorem inRanges_disjoint {ranges others : List (Nat × Nat)}
    (h : ∀ r ∈ ranges, ∀ s ∈ others, r.2 < s.1 ∨ s.2 < r.1) {c : Char}
    (hc : inRanges ranges c = true) : inRanges others c = false := by
  rw [inRanges, List.any_eq_true] at hc
  obtain ⟨r, hr, hc⟩ := hc
  rw [inRanges, List.any_eq_false]
  intro s hs
  have hdisjoint := h r hr s hs
  simp only [Bool.and_eq_true, decide_eq_true_eq] at hc ⊢
  omega

theorem inRanges_of_isAnyDigit {c : Char} (h : isAnyDigit c = true) :
    inRanges digitRanges c = true := by
  rw [isAnyDigit, Bool.or_eq_true, Bool.and_eq_true] at h
  rcases h with h | ⟨-, h⟩
  · have hbounds := Char.isDigit_iff_toNat.mp h
    refine List.any_eq_true.mpr ⟨(0x30, 0x39), by decide, ?_⟩
    simpa using hbounds
  · exact h

theorem isBlank_eq_false_of_isAnyDigit {c : Char} (h : isAnyDigit c = true) : isBlank c = false :=
  inRanges_disjoint (by decide +kernel) (inRanges_of_isAnyDigit h)

theorem inRanges_of_isLetter {c : Char} (h : isLetter c = true) :
    inRanges letterRanges c = true := by
  rw [isLetter, Bool.or_eq_true, Bool.and_eq_true] at h
  rcases h with h | ⟨-, h⟩
  · rcases (Bool.or_eq_true c.isUpper c.isLower).mp h with h | h
    · have hbounds : 0x41 ≤ c.toNat ∧ c.toNat ≤ 0x5A := of_decide_eq_true h
      refine List.any_eq_true.mpr ⟨(0x41, 0x5A), by decide +kernel, ?_⟩
      simpa using hbounds
    · obtain ⟨hlow, hhigh⟩ := Bool.and_eq_true_iff.mp h
      have hbounds : 0x61 ≤ c.toNat ∧ c.toNat ≤ 0x7A :=
        ⟨of_decide_eq_true hlow, of_decide_eq_true hhigh⟩
      refine List.any_eq_true.mpr ⟨(0x61, 0x7A), by decide +kernel, ?_⟩
      simpa using hbounds
  · exact h

theorem isBlank_eq_false_of_isLetter {c : Char} (h : isLetter c = true) : isBlank c = false :=
  inRanges_disjoint (by decide +kernel) (inRanges_of_isLetter h)

/-! ## Runs -/

theorem takeWhile_dropWhile_eq_self (h : ∀ c ∈ cs.head?, p c = false) :
    cs.takeWhile p = [] ∧ cs.dropWhile p = cs := by
  cases cs with
  | nil => exact ⟨rfl, rfl⟩
  | cons c cs => simp [h c rfl]

theorem takeWhile_dropWhile_append {run rest : List Char} (hrun : ∀ c ∈ run, p c = true)
    (hrest : ∀ c ∈ rest.head?, p c = false) :
    (run ++ rest).takeWhile p = run ∧ (run ++ rest).dropWhile p = rest := by
  obtain ⟨htake, hdrop⟩ := takeWhile_dropWhile_eq_self hrest
  rw [List.takeWhile_append_of_pos hrun, List.dropWhile_append_of_pos hrun, htake, hdrop,
    List.append_nil]
  exact ⟨rfl, rfl⟩

theorem eq_false_of_head?_dropWhile : ∀ c ∈ (cs.dropWhile p).head?, p c = false := by
  intro c hc
  have hhead := List.head?_dropWhile_not p cs
  rw [Option.mem_def.mp hc] at hhead
  simpa using hhead

/-! ## Parts -/

theorem splitBy_ne_nil : splitBy p cs ≠ [] := by
  cases cs with
  | nil => exact List.cons_ne_nil _ _
  | cons c cs =>
      rw [splitBy]
      split_ifs
      · exact List.cons_ne_nil _ _
      · split <;> exact List.cons_ne_nil _ _

theorem eq_false_of_mem_splitBy (h : part ∈ splitBy p cs) : ∀ c ∈ part, p c = false := by
  induction cs generalizing part with
  | nil =>
      obtain rfl := List.mem_singleton.mp h
      simp
  | cons d cs ih =>
      rw [splitBy] at h
      split_ifs at h with hd
      · rcases List.mem_cons.mp h with rfl | h
        · simp
        · exact ih h
      · have hd : p d = false := by simpa using hd
        split at h
        · obtain rfl := List.mem_singleton.mp h
          simpa using hd
        · next first rest hrest =>
          rw [hrest] at ih
          rcases List.mem_cons.mp h with rfl | h
          · exact List.forall_mem_cons.mpr ⟨hd, ih List.mem_cons_self⟩
          · exact ih (List.mem_cons_of_mem _ h)

theorem splitBy_eq_singleton (h : ∀ c ∈ cs, p c = false) : splitBy p cs = [cs] := by
  induction cs with
  | nil => rfl
  | cons c cs ih =>
      obtain ⟨hc, hcs⟩ := List.forall_mem_cons.mp h
      rw [splitBy, ih hcs]
      simp [hc]

theorem splitBy_append {sep : Char} (hsep : p sep = true) (xs ys : List Char) :
    splitBy p (xs ++ sep :: ys) = splitBy p xs ++ splitBy p ys := by
  induction xs with
  | nil =>
      have hcut : splitBy p (sep :: ys) = [] :: splitBy p ys := by rw [splitBy, if_pos hsep]
      exact hcut
  | cons c xs ih =>
      rw [List.cons_append, splitBy, splitBy, ih]
      split_ifs
      · rfl
      · cases hxs : splitBy p xs with
        | nil => exact absurd hxs splitBy_ne_nil
        | cons first rest => rfl

theorem cut_append {sep : Char} {xs : List Char} (h : sep ∉ xs) (ys : List Char) :
    cut sep (xs ++ sep :: ys) = some (xs, ys) := by
  induction xs with
  | nil => rw [List.nil_append, cut, if_pos rfl]
  | cons c xs ih =>
      rw [List.mem_cons, not_or] at h
      rw [List.cons_append, cut, if_neg (Ne.symm h.1), ih h.2]
      rfl

/-! ## Trimming -/

theorem trim_eq_self {cs : List Char} (hhead : ∀ c ∈ cs.head?, isBlank c = false)
    (hlast : ∀ c ∈ cs.getLast?, isBlank c = false) : trim cs = cs := by
  have hend : cs.reverse.dropWhile isBlank = cs.reverse :=
    (takeWhile_dropWhile_eq_self (by rwa [List.head?_reverse])).2
  rw [trim, trimStart, (takeWhile_dropWhile_eq_self hhead).2, trimEnd, hend, List.reverse_reverse]

end Tournament.Text
