import Tournament.Proofs.Cuts
import Tournament.Proofs.ProblemOrder

/-!
# Blocks that cannot be taken in

A block of lines that cannot be taken in damages nothing but itself.  It leaves the draft as it is,
and the blocks before and after it are the same without it (`Splits.without`), because the line
before it takes no line with it.  So the spec with the block made blank is read as the same contest
with the same problems but this one (`isolation_of_problem`).
-/

namespace Tournament.Spec

theorem Block.not_void_of_take_error {b : Block} {d : Draft} {e : SpecError}
    (hpaired : ∀ next ∈ b.second, Paired b.inside b.first.text next.text)
    (h : d.take ⟨b.first.number, b.item⟩ = .error e) :
    headerName? b.first.text = none ∧ isComment b.first.text = false := by
  have hreads : b.reads ≠ none := by
    intro hnone
    rw [b.take_eq hpaired, hnone] at h
    cases h
  rw [Ne, Block.reads_eq_none_iff hpaired, Block.IsVoid, not_or, not_or] at hreads
  obtain ⟨hcomment, hheader, -⟩ := hreads
  exact ⟨by simpa using hheader, by simpa using hcomment⟩

theorem takeAll_without {d : Draft} {xs : List Numbered} {i : Numbered} {e : SpecError}
    (h : (d.takeAll xs).1.take i = .error e) (ys : List Numbered) :
    (d.takeAll (xs ++ i :: ys)).1 = (d.takeAll (xs ++ ys)).1 ∧
      ∃ before after, (d.takeAll (xs ++ i :: ys)).2 = before ++ ⟨i.line, e⟩ :: after ∧
        (d.takeAll (xs ++ ys)).2 = before ++ after := by
  rw [takeAll_append, takeAll_append, takeAll_cons_error h]
  exact ⟨rfl, _, _, rfl, rfl⟩

/-! ## Blank lines for a block -/

/-- A line with one of these numbers is blank in the second text, and any other is the same. -/
def BlankedLine (numbers : List Nat) (raw raw' : List Char × Nat) : Prop :=
  if raw.2 ∈ numbers then Text.trim raw'.1 = [] else raw'.1 = raw.1

instance (numbers : List Nat) : DecidableRel (BlankedLine numbers) := fun raw raw' =>
  inferInstanceAs (Decidable (if raw.2 ∈ numbers then Text.trim raw'.1 = [] else raw'.1 = raw.1))

/-- The second text is the first with blank lines at these numbers. -/
def Blanked (numbers : List Nat) (input input' : String) : Prop :=
  List.Forall₂ (BlankedLine numbers) ((rawLines input).zipIdx 1) ((rawLines input').zipIdx 1)

instance (numbers : List Nat) (input input' : String) : Decidable (Blanked numbers input input') :=
  inferInstanceAs (Decidable (List.Forall₂ _ _ _))

theorem numberFrom_of_blanked {numbers : List Nat} {raws raws' : List (List Char)} {n : Nat}
    (h : List.Forall₂ (BlankedLine numbers) (raws.zipIdx n) (raws'.zipIdx n)) :
    numberFrom n raws' = (numberFrom n raws).filter (·.number ∉ numbers) := by
  induction raws generalizing raws' n with
  | nil =>
      cases raws' with
      | nil => rfl
      | cons => cases h
  | cons raw raws ih =>
      cases raws' with
      | nil => cases h
      | cons raw' raws' =>
          rw [List.zipIdx_cons, List.zipIdx_cons, List.forall₂_cons, BlankedLine] at h
          obtain ⟨hraw, hrest⟩ := h
          have hraws := ih hrest
          rw [numberFrom, numberFrom]
          by_cases hn : n ∈ numbers
          · have hblank : normalize raw' = [] := by
              rw [if_pos hn] at hraw
              rw [normalize, hraw]
              rfl
            rw [hblank, hraws]
            cases normalize raw with
            | nil => rfl
            | cons c text => rw [List.filter_cons_of_neg (by simpa using hn)]
          · obtain rfl : raw' = raw := by rwa [if_neg hn] at hraw
            cases normalize raw' with
            | nil => exact hraws
            | cons c text => rw [List.filter_cons_of_pos (by simpa using hn), hraws]

theorem filter_outside {xs ys zs : List Line}
    (h : (xs ++ (ys ++ zs)).Pairwise (·.number < ·.number)) :
    (xs ++ (ys ++ zs)).filter (·.number ∉ ys.map (·.number)) = xs ++ zs := by
  obtain ⟨-, hyz, hxy⟩ := List.pairwise_append.mp h
  obtain ⟨-, -, hyz⟩ := List.pairwise_append.mp hyz
  have hother : ∀ l : Line, (∀ l' ∈ ys, l'.number ≠ l.number) →
      decide (l.number ∉ ys.map (·.number)) = true := by
    intro l hl
    rw [decide_eq_true_eq, List.mem_map]
    rintro ⟨l', hl', heq⟩
    exact hl l' hl' heq
  have hxs : ∀ l ∈ xs, decide (l.number ∉ ys.map (·.number)) = true := by
    intro l hl
    apply hother
    intro l' hl'
    exact Nat.ne_of_gt (hxy l hl l' (List.mem_append_left _ hl'))
  have hys : ∀ l ∈ ys, ¬ decide (l.number ∉ ys.map (·.number)) = true := by
    intro l hl
    simpa using ⟨l, hl, rfl⟩
  have hzs : ∀ l ∈ zs, decide (l.number ∉ ys.map (·.number)) = true := by
    intro l hl
    apply hother
    intro l' hl'
    exact Nat.ne_of_lt (hyz l' hl' l hl)
  rw [List.filter_append, List.filter_append, List.filter_eq_self.mpr hxs,
    List.filter_eq_nil_iff.mpr hys, List.filter_eq_self.mpr hzs, List.nil_append]

theorem lines_of_blanked {input input' : String} {bs cs : List Block} {b : Block}
    (hsplits : Splits .start (lines input) (bs ++ b :: cs))
    (h : Blanked (b.lines.map (·.number)) input input') :
    lines input' = (bs ++ cs).flatMap Block.lines := by
  have hlines : lines input =
      bs.flatMap Block.lines ++ (b.lines ++ cs.flatMap Block.lines) := by
    rw [← hsplits.flatMap_lines, List.flatMap_append, List.flatMap_cons]
  have hincreasing : (lines input).Pairwise (·.number < ·.number) := pairwise_numberFrom 1 _
  have hfilter : lines input' = (lines input).filter (·.number ∉ b.lines.map (·.number)) :=
    numberFrom_of_blanked h
  rw [hlines] at hincreasing hfilter
  rw [hfilter, filter_outside hincreasing, List.flatMap_append]

/-! ## The isolation of problems -/

theorem notedProblem_not_mem {input : String} {before after : List Problem} {p : Problem}
    (h : notedProblems (lines input) = before ++ p :: after) : p ∉ before := by
  have hnoted := pairwise_notedProblems input
  rw [h, List.pairwise_append] at hnoted
  intro hp
  exact Nat.lt_irrefl _ (hnoted.2.2 p hp p List.mem_cons_self)

theorem readLines_eq_erase {ls ls' : List Line} {before after : List Problem} {p : Problem}
    (hdraft : draftOf ls' = draftOf ls) (h : notedProblems ls = before ++ p :: after)
    (h' : notedProblems ls' = before ++ after) (hp : p ∉ before) :
    readLines ls' = ⟨(readLines ls).contest, (readLines ls).problems.erase p⟩ := by
  have hproblems : (readLines ls').problems = (readLines ls).problems.erase p := by
    unfold readLines
    rw [Draft.finish_problems, Draft.finish_problems, hdraft, h, h', List.append_assoc,
      List.append_assoc, List.cons_append, List.erase_append_right _ hp, List.erase_cons_head]
  have hcontest : (readLines ls').contest = (readLines ls).contest := by
    unfold readLines
    rw [hdraft]
    exact Draft.finish_contest _ _ _
  rw [← hproblems, ← hcontest]

/-- The block of lines that a problem is met at can be made blank: the contest stays the same, and
so do all other problems with their lines. -/
theorem isolation_of_problem {input : String} {reading : Reading} {p : Problem}
    (hparse : parse input = .ok reading) (hp : p ∈ reading.problems)
    (hbounds : (draftOf (lines input)).boundsProblem? ≠ some p) :
    ∃ blocks b, Splits .start (lines input) blocks ∧ b ∈ blocks ∧ b.first.number = p.line ∧
      ∀ input', Blanked (b.lines.map (·.number)) input input' →
        (∃ raw ∈ rawLines input', Text.trim raw ≠ []) →
        parse input' = .ok { reading with problems := reading.problems.erase p } := by
  have hnoted : p ∈ notedProblems (lines input) := by
    rw [problems_of_parse hparse, List.mem_append, Option.mem_toList] at hp
    exact hp.resolve_right hbounds
  -- the item that the problem is met at, and the block that is this item
  obtain ⟨xs, i, ys, hitems, hline, htake⟩ := exists_of_mem_takeAll hnoted
  obtain ⟨blocks, hsplits, hblocks⟩ := exists_splits .start (lines input)
  rw [hitems, eq_comm, List.map_eq_append_iff] at hblocks
  obtain ⟨bs, _, rfl, rfl, hrest⟩ := hblocks
  obtain ⟨b, cs, rfl, rfl, rfl⟩ := List.map_eq_cons_iff.mp hrest
  refine ⟨_, b, hsplits, by simp, hline, ?_⟩
  intro input' hblanked hne
  obtain ⟨hheader, hcomment⟩ :=
    Block.not_void_of_take_error (hsplits.paired b (by simp)) htake
  have hwithout := hsplits.without hheader hcomment
  rw [← lines_of_blanked hsplits hblanked] at hwithout
  obtain ⟨hdraft, before, after, hproblems, hproblems'⟩ := takeAll_without htake (cs.map _)
  rw [← hitems] at hdraft hproblems
  rw [← List.map_append, ← hwithout.itemsFrom_eq] at hdraft hproblems'
  -- the problem is made of the line of the block and the error
  have hproblems : notedProblems (lines input) = before ++ p :: after := by
    rw [hline] at hproblems
    exact hproblems
  rw [parse_eq_of_ne_nil (lines_ne_nil hne), eq_readLines_of_parse hparse,
    readLines_eq_erase hdraft.symm hproblems hproblems' (notedProblem_not_mem hproblems)]

/-- A spec with a player of unknown gender, a quoted line at its end and bounds that contradict each
other. -/
def strayGenderSpec : String :=
  "[setup]\nminsize:2m, maxsize:1m\n[players]\n\"Bo\"\n\ngender:Q, height:1m\n\"Ann\"\n"

def withoutStrayGender : String :=
  "[setup]\nminsize:2m, maxsize:1m\n[players]\n \n\n\t\n\"Ann\"\n"

def strayGender : Problem :=
  ⟨4, .invalidValue "gender" "Q" "expected M, F or X"⟩

theorem splits_strayGender :
    Splits .start (lines strayGenderSpec)
      [⟨.start, ⟨1, "[setup]".toList⟩, none⟩,
        ⟨.rules, ⟨2, "minsize:2m, maxsize:1m".toList⟩, none⟩,
        ⟨.rules, ⟨3, "[players]".toList⟩, none⟩,
        ⟨.players, ⟨4, "\"Bo\"".toList⟩, some ⟨6, "gender:Q, height:1m".toList⟩⟩,
        ⟨.players, ⟨7, "\"Ann\"".toList⟩, none⟩] := by
  have hlines : lines strayGenderSpec =
      [⟨1, "[setup]".toList⟩, ⟨2, "minsize:2m, maxsize:1m".toList⟩, ⟨3, "[players]".toList⟩,
        ⟨4, "\"Bo\"".toList⟩, ⟨6, "gender:Q, height:1m".toList⟩, ⟨7, "\"Ann\"".toList⟩] := by
    decide +kernel
  rw [hlines]
  -- no line but the fourth is a quoted one with another after it
  refine .single (fun _ _ => not_paired_of_not_quoted (by decide)) ?_
  refine .single (fun _ _ => not_paired_of_not_quoted (by decide)) ?_
  refine .single (fun _ _ => not_paired_of_not_quoted (by decide)) ?_
  exact .pair ⟨by decide, by decide, by decide, by decide⟩ (.single (by simp) (.nil _))

/-- Without that player, the contest is the same and the other two problems are at their lines. -/
theorem isolation_of_strayGender :
    ∃ reading, parse strayGenderSpec = .ok reading ∧
      reading.problems.map (·.line) = [4, 7, 2] ∧ strayGender ∈ reading.problems ∧
      (draftOf (lines strayGenderSpec)).boundsProblem? ≠ some strayGender ∧
      Blanked [4, 6] strayGenderSpec withoutStrayGender ∧
      parse withoutStrayGender =
        .ok { reading with problems := reading.problems.erase strayGender } := by
  obtain ⟨reading, hparse, hreading⟩ := exists_of_parse strayGenderSpec
    (P := fun reading => reading.problems.map (·.line) = [4, 7, 2] ∧
      strayGender ∈ reading.problems) (by decide +kernel)
  obtain ⟨hlines, hproblem⟩ := of_decide_eq_true hreading
  have hbounds : (draftOf (lines strayGenderSpec)).boundsProblem? ≠ some strayGender := by
    decide +kernel
  have hblanked : Blanked [4, 6] strayGenderSpec withoutStrayGender := by decide +kernel
  obtain ⟨blocks, b, hsplits, hb, hnumber, hisolated⟩ :=
    isolation_of_problem hparse hproblem hbounds
  obtain rfl := hsplits.unique splits_strayGender
  have hblock : b.lines.map (·.number) = [4, 6] := by
    clear hisolated
    revert hnumber
    revert b
    decide +kernel
  rw [hblock] at hisolated
  exact ⟨reading, hparse, hlines, hproblem, hbounds, hblanked,
    hisolated _ hblanked (by decide +kernel)⟩

end Tournament.Spec
