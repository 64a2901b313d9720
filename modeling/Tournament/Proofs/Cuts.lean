import Tournament.Proofs.BlockEffects

/-!
# Cuts of lines

A cut that no pair of lines goes across divides the items of the lines too (`itemsFrom_append`); a
header is always such a cut (`itemsFrom_append_header`).  Lines can also be put together without
those of one block: the blocks around it are the same (`Splits.without`).
-/

namespace Tournament.Spec

/-! ## Sections along lines -/

theorem headerName?_of_isComment {text : List Char} (h : isComment text = true) :
    headerName? text = none := by
  unfold isComment at h
  unfold headerName?
  split
  · simp at h
  · rfl

theorem Section.after_eq (s : Section) (text : List Char) :
    s.after text = (headerName? text).elim s Section.named := by
  unfold after
  split_ifs with hcomment
  · rw [headerName?_of_isComment hcomment]
    rfl
  · cases headerName? text <;> rfl

theorem Section.after_of_not_header {s : Section} {text : List Char}
    (h : headerName? text = none) : s.after text = s := by
  rw [after_eq, h]
  rfl

def sectionAfter (s : Section) (ls : List Line) : Section :=
  ls.foldl (fun s l => s.after l.text) s

/-! ## Cuts between lines -/

theorem not_paired_of_not_quoted {s : Section} {text next : List Char}
    (h : quotedText? text = none) : ¬ Paired s text next := by
  intro hpaired
  simpa [h] using hpaired.quoted

theorem not_paired_of_header {s : Section} {text next : List Char}
    (h : (headerName? next).isSome = true) : ¬ Paired s text next := by
  intro hpaired
  simp [hpaired.not_header] at h

theorem not_paired_of_not_paired {s : Section} {text next other : List Char}
    (h : ¬ Paired s text next) (hheader : headerName? next = none)
    (hcomment : isComment next = false) : ¬ Paired s text other := by
  rintro ⟨hentries, hquoted, -, -⟩
  exact h ⟨hentries, hquoted, hheader, hcomment⟩

theorem Paired.after_eq {s : Section} {text next : List Char} (h : Paired s text next) :
    s.after text = s :=
  Section.after_of_not_header (not_void_of_quoted h.quoted).2

theorem itemsFrom_cons {s : Section} {l : Line} {rest : List Line}
    (h : ∀ next ∈ rest.head?, ¬ Paired s l.text next.text) :
    itemsFrom s (l :: rest) = ⟨l.number, single s l.text⟩ :: itemsFrom (s.after l.text) rest := by
  cases rest with
  | nil => rfl
  | cons next rest => rw [itemsFrom, pairedQuote?_eq_none.mpr (h next rfl)]

/-- Where the last line before the cut takes no line with it, the items are cut too. -/
theorem itemsFrom_append {s : Section} {xs ys : List Line}
    (h : ∀ last ∈ xs.getLast?, ∀ next ∈ ys.head?,
      ¬ Paired (sectionAfter s xs) last.text next.text) :
    itemsFrom s (xs ++ ys) = itemsFrom s xs ++ itemsFrom (sectionAfter s xs) ys := by
  fun_induction itemsFrom s xs with
  | case1 s => rfl
  | case2 s l =>
      refine itemsFrom_cons ?_
      intro next hnext hpaired
      refine h l rfl next hnext ?_
      rwa [sectionAfter, List.foldl_cons, hpaired.after_eq]
  | case3 s l next rest text htext ih =>
      have hpaired := (pairedQuote?_eq_some.mp htext).1
      -- neither line of the pair is a header
      have hsection : sectionAfter s (l :: next :: rest) = sectionAfter s rest := by
        rw [sectionAfter, List.foldl_cons, List.foldl_cons, hpaired.after_eq,
          Section.after_of_not_header hpaired.not_header]
        rfl
      rw [hsection] at h ⊢
      have hrest := ih fun last hlast => h last (by
        cases rest with
        | nil => cases hlast
        | cons => exact hlast)
      rw [List.cons_append, List.cons_append, itemsFrom, htext]
      exact congrArg _ hrest
  | case4 s l next rest htext ih =>
      rw [List.cons_append, List.cons_append, itemsFrom, htext]
      exact congrArg _ (ih h)

theorem single_of_header (s : Section) {text name : List Char} (h : headerName? text = some name) :
    single s text = .header name := by
  have hcomment : ¬ isComment text = true := by
    intro hcomment
    simp [headerName?_of_isComment hcomment] at h
  simp [single, hcomment, h]

/-- The items of a header and the lines after it do not depend on the section before it. -/
theorem itemsFrom_header {s : Section} {l : Line} {name : List Char}
    (h : headerName? l.text = some name) (rest : List Line) :
    itemsFrom s (l :: rest) = ⟨l.number, .header name⟩ :: itemsFrom (Section.named name) rest := by
  have hpaired : ∀ next, ¬ Paired s l.text next := by
    intro next hpaired
    simp [(not_void_of_quoted hpaired.quoted).2] at h
  rw [itemsFrom_cons fun next _ => hpaired next.text, single_of_header s h, Section.after_eq, h]
  rfl

/-- No header, or one right at the beginning of the lines. -/
def HeaderFirst (ls : List Line) : Prop :=
  ∀ l ∈ ls.head?, (headerName? l.text).isSome = true

theorem itemsFrom_append_header {s : Section} {xs ys : List Line} (h : HeaderFirst ys) :
    itemsFrom s (xs ++ ys) = itemsFrom s xs ++ itemsFrom (sectionAfter s xs) ys :=
  itemsFrom_append fun _ _ next hnext => not_paired_of_header (h next hnext)

/-! ## Without a block -/

theorem Splits.itemsFrom_eq {s : Section} {ls : List Line} {blocks : List Block}
    (h : Splits s ls blocks) :
    itemsFrom s ls = blocks.map fun b => ⟨b.first.number, b.item⟩ := by
  obtain ⟨blocks', hsplits, hitems⟩ := exists_splits s ls
  rw [h.unique hsplits]
  exact hitems

/-- A block that is no comment and no header can be left out, and the others stay what they are. -/
theorem Splits.without {s : Section} {ls : List Line} {bs cs : List Block} {b : Block}
    (h : Splits s ls (bs ++ b :: cs)) (hheader : headerName? b.first.text = none)
    (hcomment : isComment b.first.text = false) :
    Splits s ((bs ++ cs).flatMap Block.lines) (bs ++ cs) := by
  induction bs generalizing s ls with
  | nil =>
      cases h with
      | pair _ hrest =>
          rw [← hrest.flatMap_lines] at hrest
          exact hrest
      | single _ hrest =>
          rw [Section.after_of_not_header hheader, ← hrest.flatMap_lines] at hrest
          exact hrest
  | cons c bs ih =>
      cases h with
      | pair hpair hrest => exact .pair hpair (ih hrest)
      | @single _ first rest _ hsingle hrest =>
          refine .single ?_ (ih hrest)
          intro next hnext
          cases bs with
          | nil =>
              -- the line after this one was the first of the block
              have hhead : b.first ∈ rest.head? := by
                rw [← hrest.flatMap_lines]
                rfl
              exact not_paired_of_not_paired (hsingle _ hhead) hheader hcomment
          | cons c' bs =>
              have hhead : next ∈ rest.head? := by
                rw [← hrest.flatMap_lines]
                exact hnext
              exact hsingle next hhead

end Tournament.Spec
