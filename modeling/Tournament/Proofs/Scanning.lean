import Tournament.Proofs.Splitting
import Tournament.Template
import Mathlib.Tactic.SplitIfs

/-!
# The tokens of a text

A text is its pieces one after the other, and what the pieces are can be said without the scan that
finds them: from left to right a token is taken wherever one begins, and any other character stands
for itself (`Scans`).  Exactly one sequence of pieces is like that, the one that is scanned
(`scans_iff`).
-/

namespace Tournament

open Text (isAnyDigit)

/-- A slot token is a number, as many digits as there are, and a suffix; a pronoun token has any
inside.  Neither has a percent sign between its own two. -/
inductive Piece.IsToken : Piece → Prop where
  | slot {number suffix : List Char} (hne : number ≠ [])
      (hdigits : ∀ c ∈ number, isAnyDigit c = true)
      (hnext : ∀ c ∈ suffix.head?, isAnyDigit c = false) (hsuffix : '%' ∉ suffix) :
      IsToken (.slot number suffix)
  | pronoun {capital : Bool} {body : List Char} (hbody : '%' ∉ body) :
      IsToken (.pronoun capital body)

/-- The pieces of a text, from left to right. -/
inductive Scans : List Char → List Piece → Prop where
  | nil : Scans [] []
  | token {p : Piece} {rest : List Char} {ps : List Piece} (hp : p.IsToken)
      (hrest : Scans rest ps) : Scans (p.raw ++ rest) (p :: ps)
  | letter {c : Char} {cs : List Char} {ps : List Piece}
      (hnone : ∀ (p : Piece) (rest : List Char), p.IsToken → p.raw ++ rest ≠ c :: cs)
      (hrest : Scans cs ps) : Scans (c :: cs) (.letter c :: ps)

theorem Scans.flatMap_raw {cs : List Char} {ps : List Piece} (h : Scans cs ps) :
    ps.flatMap Piece.raw = cs := by
  induction h with
  | nil => rfl
  | token _ _ ih => rw [List.flatMap_cons, ih]
  | letter _ _ ih => rw [List.flatMap_cons, ih]; rfl

/-! ## One token -/

namespace Piece

theorem ofBody_eq_some_iff {body : List Char} (hbody : '%' ∉ body) {p : Piece} :
    ofBody body = some p ↔ p.IsToken ∧ p.raw = '%' :: (body ++ ['%']) := by
  constructor
  · intro h
    unfold ofBody at h
    split at h
    · next rest =>
      obtain rfl := Option.some.inj h
      exact ⟨.pronoun fun hmem => hbody (by simp [hmem]), rfl⟩
    · next rest =>
      obtain rfl := Option.some.inj h
      exact ⟨.pronoun fun hmem => hbody (by simp [hmem]), rfl⟩
    · split at h
      · cases h
      · next hne =>
        obtain rfl := Option.some.inj h
        refine ⟨.slot hne ?_ Text.eq_false_of_head?_dropWhile ?_, ?_⟩
        · exact fun c hc => List.mem_takeWhile_imp hc
        · exact fun hmem => hbody ((List.dropWhile_suffix _).mem hmem)
        · rw [raw, List.takeWhile_append_dropWhile]
  · rintro ⟨hp, hraw⟩
    cases hp with
    | @pronoun capital inside _ =>
        cases capital <;>
        · simp only [raw, List.cons.injEq, true_and] at hraw
          obtain rfl : _ :: ':' :: inside = body := by
            exact List.append_cancel_right hraw
          rfl
    | @slot number suffix hne hdigits hnext _ =>
        simp only [raw, List.cons.injEq, true_and] at hraw
        obtain rfl : number ++ suffix = body := List.append_cancel_right hraw
        obtain ⟨htake, hdrop⟩ := Text.takeWhile_dropWhile_append hdigits hnext
        obtain ⟨d, ds, rfl⟩ := List.exists_cons_of_ne_nil hne
        have hd : isAnyDigit d = true := hdigits d List.mem_cons_self
        unfold ofBody
        split
        · next heq =>
          obtain rfl : d = 'p' := (List.cons.inj heq).1
          exact absurd hd (by decide)
        · next heq =>
          obtain rfl : d = 'P' := (List.cons.inj heq).1
          exact absurd hd (by decide)
        · rw [htake, hdrop]

theorem IsToken.exists_body {p : Piece} (h : p.IsToken) :
    ∃ body, '%' ∉ body ∧ p.raw = '%' :: (body ++ ['%']) := by
  cases h with
  | @slot number suffix hne hdigits hnext hsuffix =>
      refine ⟨number ++ suffix, ?_, rfl⟩
      intro hmem
      rcases List.mem_append.mp hmem with hmem | hmem
      · exact absurd (hdigits _ hmem) (by decide)
      · exact hsuffix hmem
  | @pronoun capital body hbody =>
      refine ⟨(if capital then 'P' else 'p') :: ':' :: body, ?_, rfl⟩
      cases capital <;> simp [hbody]

theorem token_eq_some_iff {cs rest : List Char} {p : Piece} :
    token cs = some (p, rest) ↔ p.IsToken ∧ p.raw ++ rest = '%' :: cs := by
  have hpercent : '%' ∉ cs.takeWhile (· ≠ '%') := by
    intro hmem
    simpa using List.mem_takeWhile_imp hmem
  constructor
  · intro h
    unfold token at h
    split at h
    · cases h
    · next c tail hdrop =>
      obtain ⟨p', hbody, heq⟩ := Option.map_eq_some_iff.mp h
      obtain ⟨rfl, rfl⟩ := Prod.mk.inj heq
      obtain ⟨hp, hraw⟩ := (ofBody_eq_some_iff hpercent).mp hbody
      obtain rfl : c = '%' := by
        have hhead := List.head?_dropWhile_not (fun c => decide (c ≠ '%')) cs
        rw [hdrop] at hhead
        simpa using hhead
      refine ⟨hp, ?_⟩
      calc p'.raw ++ tail
          = '%' :: (cs.takeWhile (· ≠ '%') ++ '%' :: tail) := by simp [hraw]
        _ = '%' :: cs := by rw [← hdrop, List.takeWhile_append_dropWhile]
  · rintro ⟨hp, hraw⟩
    obtain ⟨body, hbody, hinside⟩ := hp.exists_body
    obtain rfl : cs = body ++ '%' :: rest := by
      rw [hinside] at hraw
      simpa using hraw.symm
    have hplain : ∀ c ∈ body, decide (c ≠ '%') = true := by
      intro c hc
      have hne : c ≠ '%' := fun heq => hbody (heq ▸ hc)
      simpa using hne
    have htake : (body ++ '%' :: rest).takeWhile (· ≠ '%') = body := by
      rw [List.takeWhile_append_of_pos hplain]
      simp
    have hdrop : (body ++ '%' :: rest).dropWhile (· ≠ '%') = '%' :: rest := by
      rw [List.dropWhile_append_of_pos hplain]
      simp
    unfold token
    rw [hdrop, htake, (ofBody_eq_some_iff hbody).mpr ⟨hp, hinside⟩]
    rfl

theorem IsToken.exists_raw {p : Piece} (h : p.IsToken) : ∃ cs, p.raw = '%' :: cs := by
  obtain ⟨body, -, hraw⟩ := h.exists_body
  exact ⟨_, hraw⟩

end Piece

/-! ## All pieces -/

theorem scans_pieces (cs : List Char) : Scans cs (pieces cs) := by
  fun_induction pieces cs with
  | case1 => exact .nil
  | case2 cs p rest htoken ih =>
      obtain ⟨hp, hraw⟩ := Piece.token_eq_some_iff.mp htoken
      rw [← hraw]
      exact .token hp ih
  | case3 cs htoken ih =>
      refine .letter ?_ ih
      intro p rest hp hraw
      rw [Piece.token_eq_some_iff.mpr ⟨hp, hraw⟩] at htoken
      cases htoken
  | case4 c cs hc ih =>
      refine .letter ?_ ih
      intro p rest hp hraw
      obtain ⟨inside, hinside⟩ := hp.exists_raw
      rw [hinside] at hraw
      exact hc (List.cons.inj hraw).1.symm

theorem scans_iff {cs : List Char} {ps : List Piece} : Scans cs ps ↔ ps = pieces cs := by
  constructor
  · intro h
    induction h with
    | nil => rw [pieces]
    | @token p rest ps hp hrest ih =>
        obtain ⟨inside, hinside⟩ := hp.exists_raw
        have htoken : Piece.token (inside ++ rest) = some (p, rest) :=
          Piece.token_eq_some_iff.mpr ⟨hp, by rw [hinside]; rfl⟩
        rw [hinside, List.cons_append, pieces, if_pos rfl, ih]
        split
        · next heq =>
          obtain ⟨rfl, rfl⟩ := Prod.mk.inj (Option.some.inj (htoken.symm.trans heq))
          rfl
        · next heq => rw [htoken] at heq; cases heq
    | @letter c cs ps hnone hrest ih =>
        rw [pieces, ih]
        split_ifs with hc
        · subst hc
          split
          · next p rest htoken =>
            obtain ⟨hp, hraw⟩ := Piece.token_eq_some_iff.mp htoken
            exact absurd hraw (hnone p rest hp)
          · rfl
        · rfl
  · rintro rfl
    exact scans_pieces cs

end Tournament
