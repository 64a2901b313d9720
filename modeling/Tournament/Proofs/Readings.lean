import Tournament.Proofs.Ledger

/-!
# Readings

What a spec is read as comes from its lines alone (`readLines`), one part of them after another
(`takeAll_append`).  Their numbers are carried along and never looked at: the same lines under
other numbers are read as the same contest, and the problems have the other numbers
(`readLines_renumber`).
-/

namespace Tournament.Spec

def rawLines (input : String) : List (List Char) :=
  Text.splitBy (· = '\n') input.toList

def draftOf (ls : List Line) : Draft :=
  (({} : Draft).takeAll (itemsFrom .start ls)).1

def notedProblems (ls : List Line) : List Problem :=
  (({} : Draft).takeAll (itemsFrom .start ls)).2

def readLines (ls : List Line) : Reading :=
  (draftOf ls).finish (notedProblems ls)

theorem readLines_congr {xs ys : List Line}
    (h : ({} : Draft).takeAll (itemsFrom .start xs) = ({} : Draft).takeAll (itemsFrom .start ys)) :
    readLines xs = readLines ys := by
  unfold readLines draftOf notedProblems
  rw [h]

theorem parse_eq_of_ne_nil {input : String} (h : lines input ≠ []) :
    parse input = .ok (readLines (lines input)) := by
  rw [parse, if_neg h]
  rfl

theorem eq_readLines_of_parse {input : String} {reading : Reading}
    (h : parse input = .ok reading) : reading = readLines (lines input) := by
  by_cases hlines : lines input = []
  · simp [parse, hlines] at h
  · rw [parse_eq_of_ne_nil hlines] at h
    exact (Except.ok.inj h).symm

/-- The problem of bounds that contradict each other. It belongs to the last line of rules. -/
def Draft.boundsProblem? (d : Draft) : Option Problem :=
  match Rules.ofChanges d.changes with
  | .ok _ => none
  | .error e => some ⟨d.lastRuleLine, e⟩

theorem Draft.finish_problems (d : Draft) (problems : List Problem) :
    (d.finish problems).problems = problems ++ d.boundsProblem?.toList := by
  unfold finish boundsProblem?
  cases Rules.ofChanges d.changes <;> simp

theorem Draft.finish_contest (d : Draft) (problems others : List Problem) :
    (d.finish problems).contest = (d.finish others).contest := by
  unfold finish
  cases Rules.ofChanges d.changes <;> rfl

/-! ## One part after another -/

theorem takeAll_append (d : Draft) (xs ys : List Numbered) :
    d.takeAll (xs ++ ys) = (((d.takeAll xs).1.takeAll ys).1,
      (d.takeAll xs).2 ++ ((d.takeAll xs).1.takeAll ys).2) := by
  induction xs generalizing d with
  | nil => rfl
  | cons x xs ih =>
      cases htake : d.take x with
      | ok d' => rw [List.cons_append, takeAll_cons_ok htake, takeAll_cons_ok htake, ih]
      | error e =>
          rw [List.cons_append, takeAll_cons_error htake, takeAll_cons_error htake, ih]
          rfl

theorem exists_of_mem_takeAll {d : Draft} {items : List Numbered} {p : Problem}
    (h : p ∈ (d.takeAll items).2) :
    ∃ xs i ys, items = xs ++ i :: ys ∧ i.line = p.line ∧
      (d.takeAll xs).1.take i = .error p.error := by
  induction items generalizing d with
  | nil => simp [Draft.takeAll] at h
  | cons i rest ih =>
      cases htake : d.take i with
      | ok d' =>
          rw [takeAll_cons_ok htake] at h
          obtain ⟨xs, j, ys, rfl, hline, hj⟩ := ih h
          exact ⟨i :: xs, j, ys, rfl, hline, by rw [takeAll_cons_ok htake, hj]⟩
      | error e =>
          rw [takeAll_cons_error htake, List.mem_cons] at h
          rcases h with rfl | h
          · exact ⟨[], i, rest, rfl, rfl, htake⟩
          · obtain ⟨xs, j, ys, rfl, hline, hj⟩ := ih h
            exact ⟨i :: xs, j, ys, rfl, hline, by rw [takeAll_cons_error htake, hj]⟩

/-! ## Numbers -/

theorem numberFrom_append (n : Nat) (xs ys : List (List Char)) :
    numberFrom n (xs ++ ys) = numberFrom n xs ++ numberFrom (n + xs.length) ys := by
  induction xs generalizing n with
  | nil => rfl
  | cons raw xs ih =>
      have hlength : n + (raw :: xs).length = n + 1 + xs.length := by
        rw [List.length_cons]
        omega
      rw [List.cons_append, numberFrom, numberFrom, ih, hlength]
      cases normalize raw <;> rfl

theorem number_of_mem_numberFrom {n : Nat} {raws : List (List Char)} {l : Line}
    (h : l ∈ numberFrom n raws) : n ≤ l.number ∧ l.number < n + raws.length ∧
      ∃ raw, raws[l.number - n]? = some raw ∧ normalize raw = l.text ∧ l.text ≠ [] := by
  induction raws generalizing n with
  | nil => simp [numberFrom] at h
  | cons raw raws ih =>
      -- a line of the rest, whose numbers start one higher
      have hrest : l ∈ numberFrom (n + 1) raws → n ≤ l.number ∧
          l.number < n + (raw :: raws).length ∧ ∃ other,
          (raw :: raws)[l.number - n]? = some other ∧ normalize other = l.text ∧ l.text ≠ [] := by
        intro hl
        obtain ⟨hle, hlt, other, hother, htext⟩ := ih hl
        have hindex : l.number - n = l.number - (n + 1) + 1 := by omega
        refine ⟨by omega, by rw [List.length_cons]; omega, other, ?_, htext⟩
        rw [hindex, List.getElem?_cons_succ]
        exact hother
      rw [numberFrom] at h
      cases hraw : normalize raw with
      | nil =>
          rw [hraw] at h
          exact hrest h
      | cons c text =>
          rw [hraw, List.mem_cons] at h
          rcases h with rfl | h
          · exact ⟨Nat.le_refl n, by simp, raw, by simp, hraw, by simp⟩
          · exact hrest h

theorem pairwise_numberFrom (n : Nat) (raws : List (List Char)) :
    (numberFrom n raws).Pairwise (·.number < ·.number) := by
  induction raws generalizing n with
  | nil => exact .nil
  | cons raw raws ih =>
      rw [numberFrom]
      cases normalize raw with
      | nil => exact ih (n + 1)
      | cons c text =>
          refine List.pairwise_cons.mpr ⟨?_, ih (n + 1)⟩
          intro l hl
          exact Nat.lt_of_succ_le (number_of_mem_numberFrom hl).1

/-- The texts of lines that are not blank, trimmed and with plain quotation marks. -/
def textsOf (raws : List (List Char)) : List (List Char) :=
  (raws.map normalize).filter (· ≠ [])

theorem textsOf_append (xs ys : List (List Char)) :
    textsOf (xs ++ ys) = textsOf xs ++ textsOf ys := by
  rw [textsOf, List.map_append, List.filter_append]
  rfl

theorem map_text_numberFrom (n : Nat) (raws : List (List Char)) :
    (numberFrom n raws).map (·.text) = textsOf raws := by
  induction raws generalizing n with
  | nil => rfl
  | cons raw raws ih =>
      rw [numberFrom, textsOf, List.map_cons]
      cases normalize raw with
      | nil => exact ih (n + 1)
      | cons c text => exact congrArg _ (ih (n + 1))

/-! ## Other numbers -/

def Line.renumber (f : Nat → Nat) (l : Line) : Line :=
  { l with number := f l.number }

def Numbered.renumber (f : Nat → Nat) (i : Numbered) : Numbered :=
  { i with line := f i.line }

def Problem.renumber (f : Nat → Nat) (p : Problem) : Problem :=
  { p with line := f p.line }

def Draft.renumber (f : Nat → Nat) (d : Draft) : Draft :=
  { d with lastRuleLine := f d.lastRuleLine }

/-- The same contest, and the problems at the lines with other numbers. -/
def Reading.renumber (f : Nat → Nat) (r : Reading) : Reading :=
  { r with problems := r.problems.map (·.renumber f) }

theorem Reading.renumber_renumber (f g : Nat → Nat) (r : Reading) :
    (r.renumber f).renumber g = r.renumber (g ∘ f) := by
  simp [renumber, Problem.renumber]

theorem itemsFrom_renumber (f : Nat → Nat) (s : Section) (ls : List Line) :
    itemsFrom s (ls.map (·.renumber f)) = (itemsFrom s ls).map (·.renumber f) := by
  fun_induction itemsFrom s ls with
  | case1 s => rfl
  | case2 s l => rfl
  | case3 s l next rest text htext ih =>
      have htext' : pairedQuote? s (l.renumber f).text (next.renumber f).text = some text := htext
      rw [List.map_cons, List.map_cons, itemsFrom, htext']
      exact congrArg _ ih
  | case4 s l next rest htext ih =>
      have htext' : pairedQuote? s (l.renumber f).text (next.renumber f).text = none := htext
      rw [List.map_cons, List.map_cons, itemsFrom, htext']
      exact congrArg _ ih

theorem Draft.take_renumber (f : Nat → Nat) (d : Draft) (i : Numbered) :
    (d.renumber f).take (i.renumber f) = (d.take i).map (·.renumber f) := by
  obtain ⟨line, item⟩ := i
  unfold take Numbered.renumber
  cases item with
  | comment | header | ignored | unpairedQuote | unquoted | outside => rfl
  | rules text =>
      dsimp only
      cases RuleChanges.parse (String.ofList text) <;> rfl
  | event kind text metadata =>
      dsimp only
      cases Event.parse (String.ofList text) (String.ofList metadata) <;> rfl
  | player name metadata =>
      dsimp only
      cases Player.parse (String.ofList name) (String.ofList metadata) with
      | error e => rfl
      | ok p =>
          by_cases htaken : d.players.any (·.name = p.name) = true
          · have htaken' : (d.renumber f).players.any (·.name = p.name) = true := htaken
            simp only [if_pos htaken, if_pos htaken']
            rfl
          · have htaken' : ¬ (d.renumber f).players.any (·.name = p.name) = true := htaken
            simp only [if_neg htaken, if_neg htaken']
            rfl
  | arenaEvent text metadata =>
      dsimp only
      cases Event.parse (String.ofList text) (String.ofList metadata) with
      | error e => rfl
      | ok e =>
          have harenas : addToLast e (d.renumber f).arenas = addToLast e d.arenas := rfl
          simp only [harenas]
          cases addToLast e d.arenas <;> rfl
  | arenaOpening text =>
      dsimp only
      cases arenaOpening? text <;> rfl

theorem Draft.takeAll_renumber (f : Nat → Nat) (d : Draft) (items : List Numbered) :
    (d.renumber f).takeAll (items.map (·.renumber f)) =
      ((d.takeAll items).1.renumber f, (d.takeAll items).2.map (·.renumber f)) := by
  induction items generalizing d with
  | nil => rfl
  | cons i rest ih =>
      have htake' := d.take_renumber f i
      rw [List.map_cons]
      cases htake : d.take i with
      | ok d' =>
          rw [htake] at htake'
          rw [takeAll_cons_ok htake, takeAll_cons_ok htake', ih]
      | error e =>
          rw [htake] at htake'
          rw [takeAll_cons_error htake, takeAll_cons_error htake', ih]
          rfl

theorem Draft.finish_renumber (f : Nat → Nat) (d : Draft) (problems : List Problem) :
    (d.renumber f).finish (problems.map (·.renumber f)) = (d.finish problems).renumber f := by
  unfold finish renumber
  cases Rules.ofChanges d.changes with
  | ok rules => rfl
  | error e => simp [Reading.renumber, Problem.renumber]

theorem readLines_renumber {f : Nat → Nat} (hf : f 0 = 0) (ls : List Line) :
    readLines (ls.map (·.renumber f)) = (readLines ls).renumber f := by
  -- before any rules the number of their last line is 0
  have hempty : ({} : Draft) = ({} : Draft).renumber f := by
    rw [Draft.renumber, hf]
  unfold readLines draftOf notedProblems
  rw [itemsFrom_renumber, hempty, Draft.takeAll_renumber, Draft.finish_renumber, ← hempty]

end Tournament.Spec
