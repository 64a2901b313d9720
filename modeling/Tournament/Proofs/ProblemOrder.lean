import Tournament.Proofs.Readings

/-!
# The lines of problems

Every problem belongs to a line of the spec that is not blank, and no two to the same one.  The
problems that are met on the way are noted in the order of their lines; bounds that contradict each
other come last, though the line of rules that they belong to may stand before others
(`problemOrder_of_parse`).
-/

namespace Tournament.Spec

theorem itemsFrom_sublist (s : Section) (ls : List Line) :
    ((itemsFrom s ls).map (·.line)).Sublist (ls.map (·.number)) := by
  fun_induction itemsFrom s ls with
  | case1 s => exact .slnil
  | case2 s l => exact .refl _
  | case3 s l next rest text htext ih => exact .cons_cons _ (.cons _ ih)
  | case4 s l next rest htext ih => exact .cons_cons _ ih

theorem pairwise_items (input : String) : (items input).Pairwise (·.line < ·.line) := by
  have hlines := pairwise_numberFrom 1 (rawLines input)
  rw [← List.pairwise_map (R := (· < ·))] at hlines ⊢
  exact hlines.sublist (itemsFrom_sublist .start (lines input))

theorem exists_line_of_mem_items {input : String} {i : Numbered} (h : i ∈ items input) :
    ∃ l ∈ lines input, l.number = i.line := by
  have hline : i.line ∈ (items input).map (·.line) := List.mem_map_of_mem h
  exact List.mem_map.mp ((itemsFrom_sublist .start (lines input)).subset hline)

theorem takeAll_problems_sublist (d : Draft) (items : List Numbered) :
    ((d.takeAll items).2.map (·.line)).Sublist (items.map (·.line)) := by
  induction items generalizing d with
  | nil => exact .slnil
  | cons i rest ih =>
      cases htake : d.take i with
      | ok d' =>
          rw [takeAll_cons_ok htake]
          exact (ih d').cons _
      | error e =>
          rw [takeAll_cons_error htake]
          exact (ih d).cons_cons _

theorem pairwise_notedProblems (input : String) :
    (notedProblems (lines input)).Pairwise (·.line < ·.line) := by
  have hitems := pairwise_items input
  rw [← List.pairwise_map (R := (· < ·))] at hitems ⊢
  exact hitems.sublist (takeAll_problems_sublist {} (items input))

/-! ## The last line of rules -/

theorem Draft.Takes.rules_eq {d d' : Draft} {i : Numbered} (h : d.Takes i d') :
    d'.changes = d.changes ∧ d'.lastRuleLine = d.lastRuleLine ∨ d'.lastRuleLine = i.line := by
  cases h with
  | rules => exact .inr rfl
  | nothing | player | event | arenaEvent | arenaOpening => exact .inl ⟨rfl, rfl⟩

/-- Either no rules are taken in, or the last of them are those of an item that is no problem. -/
theorem lastRuleLine_takeAll {d : Draft} {items : List Numbered}
    (h : items.Pairwise (·.line < ·.line)) :
    (d.takeAll items).1.changes = d.changes ∧
        (d.takeAll items).1.lastRuleLine = d.lastRuleLine ∨
      (∃ i ∈ items, i.line = (d.takeAll items).1.lastRuleLine) ∧
        ∀ p ∈ (d.takeAll items).2, p.line ≠ (d.takeAll items).1.lastRuleLine := by
  induction items generalizing d with
  | nil => exact .inl ⟨rfl, rfl⟩
  | cons i rest ih =>
      obtain ⟨hfirst, hrest⟩ := List.pairwise_cons.mp h
      cases htake : d.take i with
      | ok d' =>
          rw [takeAll_cons_ok htake]
          rcases ih hrest (d := d') with ⟨hchanges, hline⟩ | ⟨⟨j, hj, hline⟩, hproblems⟩
          · rcases (Draft.takes_of_take htake).rules_eq with ⟨hchanges', hline'⟩ | hline'
            · exact .inl ⟨hchanges.trans hchanges', hline.trans hline'⟩
            · refine .inr ⟨⟨i, List.mem_cons_self, (hline.trans hline').symm⟩, ?_⟩
              -- the problems of the rest stand further down
              intro p hp hp'
              have hmem := (takeAll_problems_sublist d' rest).subset (List.mem_map_of_mem hp)
              obtain ⟨j, hj, hjp⟩ := List.mem_map.mp hmem
              have hlt := hfirst j hj
              rw [hjp, hp', hline, hline'] at hlt
              exact Nat.lt_irrefl _ hlt
          · exact .inr ⟨⟨j, List.mem_cons_of_mem _ hj, hline⟩, hproblems⟩
      | error e =>
          rw [takeAll_cons_error htake]
          rcases ih hrest (d := d) with hsame | ⟨⟨j, hj, hline⟩, hproblems⟩
          · exact .inl hsame
          · refine .inr ⟨⟨j, List.mem_cons_of_mem _ hj, hline⟩, ?_⟩
            rw [List.forall_mem_cons]
            refine ⟨?_, hproblems⟩
            rw [← hline]
            exact Nat.ne_of_lt (hfirst j hj)

theorem boundsProblem?_of_changes {d : Draft} (h : d.changes = {}) : d.boundsProblem? = none := by
  have hstandard : (Rules.ofChanges {}).toOption.isSome = true := by decide +kernel
  rw [Draft.boundsProblem?, h]
  cases hrules : Rules.ofChanges {} with
  | ok rules => rfl
  | error e => simp [hrules, Except.toOption] at hstandard

theorem boundsProblem?_line {input : String} {q : Problem}
    (h : (draftOf (lines input)).boundsProblem? = some q) :
    (∃ l ∈ lines input, l.number = q.line) ∧
      ∀ p ∈ notedProblems (lines input), p.line ≠ q.line := by
  have hline : q.line = (draftOf (lines input)).lastRuleLine := by
    unfold Draft.boundsProblem? at h
    split at h
    · cases h
    · cases h
      rfl
  rw [hline]
  rcases lastRuleLine_takeAll (d := {}) (pairwise_items input) with
    ⟨hchanges, -⟩ | ⟨⟨i, hi, hi'⟩, hproblems⟩
  · have hnone : (draftOf (lines input)).boundsProblem? = none := boundsProblem?_of_changes hchanges
    rw [hnone] at h
    cases h
  · obtain ⟨l, hl, hl'⟩ := exists_line_of_mem_items hi
    exact ⟨⟨l, hl, hl'.trans hi'⟩, hproblems⟩

/-! ## All problems -/

theorem problems_of_parse {input : String} {reading : Reading} (h : parse input = .ok reading) :
    reading.problems =
      notedProblems (lines input) ++ (draftOf (lines input)).boundsProblem?.toList := by
  rw [eq_readLines_of_parse h]
  exact Draft.finish_problems _ _

structure ProblemOrder (input : String) (reading : Reading) : Prop where
  /-- Each belongs to a line of the spec that is not blank. -/
  line : ∀ p ∈ reading.problems, 0 < p.line ∧
    ∃ raw, (rawLines input)[p.line - 1]? = some raw ∧ Text.trim raw ≠ []
  distinct : (reading.problems.map (·.line)).Nodup
  /-- Bounds that contradict each other come after the problems that are met on the way, -/
  problems : reading.problems =
    notedProblems (lines input) ++ (draftOf (lines input)).boundsProblem?.toList
  /-- which are in the order of their lines. -/
  noted : (notedProblems (lines input)).Pairwise (·.line < ·.line)
  pairwise_iff : reading.problems.Pairwise (·.line < ·.line) ↔
    ∀ q ∈ (draftOf (lines input)).boundsProblem?, ∀ p ∈ notedProblems (lines input), p.line < q.line

theorem rawLine_of_mem_lines {input : String} {l : Line} (h : l ∈ lines input) :
    0 < l.number ∧ ∃ raw, (rawLines input)[l.number - 1]? = some raw ∧ Text.trim raw ≠ [] := by
  obtain ⟨hpos, -, raw, hraw, htext, hne⟩ := number_of_mem_numberFrom h
  refine ⟨hpos, raw, hraw, ?_⟩
  intro htrim
  rw [normalize, htrim] at htext
  exact hne htext.symm

theorem exists_line_of_mem_noted {input : String} {p : Problem}
    (h : p ∈ notedProblems (lines input)) : ∃ l ∈ lines input, l.number = p.line := by
  have hline := (takeAll_problems_sublist {} (items input)).subset (List.mem_map_of_mem h)
  obtain ⟨i, hi, hip⟩ := List.mem_map.mp hline
  obtain ⟨l, hl, hli⟩ := exists_line_of_mem_items hi
  exact ⟨l, hl, hli.trans hip⟩

/-- Problems are noted in the order of their lines, but for contradicting bounds. -/
theorem problemOrder_of_parse {input : String} {reading : Reading}
    (h : parse input = .ok reading) : ProblemOrder input reading := by
  have hproblems := problems_of_parse h
  have hnoted := pairwise_notedProblems input
  have hbounds := @boundsProblem?_line input
  refine ⟨?_, ?_, hproblems, hnoted, ?_⟩
  · intro p hp
    rw [hproblems, List.mem_append, Option.mem_toList] at hp
    have hline : ∃ l ∈ lines input, l.number = p.line := by
      rcases hp with hp | hp
      · exact exists_line_of_mem_noted hp
      · exact (hbounds hp).1
    obtain ⟨l, hl, hlp⟩ := hline
    rw [← hlp]
    exact rawLine_of_mem_lines hl
  · rw [hproblems, List.map_append, List.nodup_append]
    refine ⟨?_, ?_, ?_⟩
    · rw [← List.pairwise_map (R := (· < ·))] at hnoted
      exact hnoted.imp Nat.ne_of_lt
    · cases (draftOf (lines input)).boundsProblem? <;> simp
    · intro n hn m hm
      obtain ⟨p, hp, rfl⟩ := List.mem_map.mp hn
      obtain ⟨q, hq, rfl⟩ := List.mem_map.mp hm
      exact (hbounds (Option.mem_toList.mp hq)).2 p hp
  · rw [hproblems, List.pairwise_append]
    constructor
    · rintro ⟨-, -, hlast⟩ q hq p hp
      exact hlast p hp q (Option.mem_toList.mpr hq)
    · intro hlast
      refine ⟨hnoted, ?_, ?_⟩
      · cases (draftOf (lines input)).boundsProblem? <;> simp
      · intro p hp q hq
        exact hlast q (Option.mem_toList.mp hq) p hp

/-- A spec whose bounds contradict each other and that has a player of unknown gender further up. -/
def narrowSpec : String :=
  "[players]\n\"Ann\"\ngender:Q, height:1m\n\n[setup]\nminsize:2m, maxsize:1m\n"

theorem problemOrder_of_narrow :
    ∃ reading, parse narrowSpec = .ok reading ∧ ProblemOrder narrowSpec reading ∧
      reading.problems.map (·.line) = [2, 6] := by
  obtain ⟨reading, hparse, hlines⟩ := exists_of_parse narrowSpec
    (P := fun reading => reading.problems.map (·.line) = [2, 6]) (by decide +kernel)
  exact ⟨reading, hparse, problemOrder_of_parse hparse, of_decide_eq_true hlines⟩

def narrowFirstSpec : String :=
  "[setup]\nminsize:2m, maxsize:1m\n[players]\n\"Ann\"\ngender:Q, height:1m\n"

/-- The bounds come last although they stand above the player. -/
theorem narrowFirst_out_of_order :
    ∃ reading, parse narrowFirstSpec = .ok reading ∧
      reading.problems.map (·.line) = [4, 2] ∧
      ¬ reading.problems.Pairwise (·.line < ·.line) := by
  obtain ⟨reading, hparse, hlines⟩ := exists_of_parse narrowFirstSpec
    (P := fun reading => reading.problems.map (·.line) = [4, 2]) (by decide +kernel)
  rw [decide_eq_true_eq] at hlines
  refine ⟨reading, hparse, hlines, ?_⟩
  rw [← List.pairwise_map (R := (· < ·)), hlines]
  decide

end Tournament.Spec
