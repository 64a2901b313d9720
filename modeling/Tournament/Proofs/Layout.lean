import Tournament.Proofs.Cuts
import Tournament.Proofs.Readings
import Tournament.Proofs.Spelling

/-!
# The layout of a spec

Blank lines, comments, the lines of unknown sections and the spelling of lines are layout.  A change
of the layout (`LayoutStep`) makes no difference to what a spec is read as, and its problems move
with their lines (`readLines_of_layoutStep`); so it is with any number of changes
(`parse_of_relaid`).
-/

namespace Tournament.Spec

/-! ## Changes of the layout -/

/-- The numbers of the lines when a line comes in after the first `n`. -/
def shiftUp (n k : Nat) : Nat :=
  if k ≤ n then k else k + 1

/-- The numbers of the lines when the line after the first `n` goes. -/
def shiftDown (n k : Nat) : Nat :=
  if k ≤ n then k else k - 1

/-- The last line that is not blank is one in double quotes. -/
def EndsQuoted (before : List (List Char)) : Prop :=
  ∃ text ∈ (textsOf before).getLast?, (quotedText? text).isSome = true

def InUnknown (before : List (List Char)) : Prop :=
  ∃ name ∈ ((textsOf before).filterMap headerName?).getLast?, Section.named name = .unknown

inductive Idle (before : List (List Char)) (raw : List Char) : Prop where
  | blank (hblank : Text.trim raw = [])
  /-- After a quoted line a comment would come between the line and its metadata. -/
  | comment (hcomment : isComment (normalize raw) = true) (hquoted : ¬ EndsQuoted before)
  | ignored (hunknown : InUnknown before) (hheader : headerName? (normalize raw) = none)

/-- One change of the layout of lines, and what becomes of their numbers. -/
inductive LayoutStep : List (List Char) → List (List Char) → (Nat → Nat) → Prop where
  | inserted {before after : List (List Char)} {raw : List Char} (h : Idle before raw) :
      LayoutStep (before ++ after) (before ++ raw :: after) (shiftUp before.length)
  /-- A line of an unknown section that is no header. -/
  | deleted {before after : List (List Char)} {raw : List Char} (hunknown : InUnknown before)
      (hheader : headerName? (normalize raw) = none) :
      LayoutStep (before ++ raw :: after) (before ++ after) (shiftDown before.length)
  | respelled {before after : List (List Char)} {raw raw' : List Char} (h : Respelled raw raw') :
      LayoutStep (before ++ raw :: after) (before ++ raw' :: after) id

inductive Relaid : List (List Char) → List (List Char) → (Nat → Nat) → Prop where
  | refl (raws : List (List Char)) : Relaid raws raws id
  | step {raws raws' raws'' : List (List Char)} {f g : Nat → Nat} (h : Relaid raws raws' f)
      (hstep : LayoutStep raws' raws'' g) : Relaid raws raws'' (g ∘ f)

/-! ## Numbers -/

theorem shiftUp_zero (n : Nat) : shiftUp n 0 = 0 :=
  if_pos (Nat.zero_le n)

theorem shiftDown_comp_shiftUp (n : Nat) : shiftDown n ∘ shiftUp n = id := by
  funext k
  simp only [Function.comp_apply, shiftDown, shiftUp, id]
  split_ifs <;> omega

theorem renumber_numberFrom {f : Nat → Nat} {n m : Nat} {raws : List (List Char)}
    (h : ∀ i < raws.length, f (n + i) = m + i) :
    (numberFrom n raws).map (·.renumber f) = numberFrom m raws := by
  induction raws generalizing n m with
  | nil => rfl
  | cons raw raws ih =>
      have hfirst : f n = m := h 0 (by simp)
      have hrest : (numberFrom (n + 1) raws).map (·.renumber f) = numberFrom (m + 1) raws := by
        apply ih
        intro i hi
        have hi' := h (i + 1) (by simpa using hi)
        rw [Nat.add_assoc, Nat.add_assoc, Nat.add_comm 1 i]
        exact hi'
      rw [numberFrom, numberFrom]
      cases normalize raw with
      | nil => exact hrest
      | cons c text => rw [List.map_cons, hrest, Line.renumber, hfirst]

theorem renumber_shiftUp (before after : List (List Char)) :
    (numberFrom 1 (before ++ after)).map (·.renumber (shiftUp before.length)) =
      numberFrom 1 before ++ numberFrom (1 + before.length + 1) after := by
  rw [numberFrom_append, List.map_append]
  congr 1
  · apply renumber_numberFrom
    intro i hi
    exact if_pos (by omega)
  · apply renumber_numberFrom
    intro i hi
    rw [shiftUp, if_neg (by omega)]
    omega

theorem numberFrom_insert (before after : List (List Char)) (raw : List Char) :
    numberFrom 1 (before ++ raw :: after) =
      numberFrom 1 before ++
        (numberFrom (1 + before.length) [raw] ++ numberFrom (1 + before.length + 1) after) := by
  rw [List.append_cons, List.append_assoc, numberFrom_append, numberFrom_append]
  rfl

theorem numberFrom_singleton (n : Nat) (raw : List Char) :
    Text.trim raw = [] ∧ numberFrom n [raw] = [] ∨
      Text.trim raw ≠ [] ∧ numberFrom n [raw] = [⟨n, normalize raw⟩] := by
  rw [numberFrom]
  cases hraw : normalize raw with
  | nil => exact .inl ⟨List.map_eq_nil_iff.mp hraw, rfl⟩
  | cons c text =>
      refine .inr ⟨?_, rfl⟩
      intro hblank
      rw [normalize, hblank] at hraw
      cases hraw

theorem trim_ne_nil_of_header {raw name : List Char}
    (h : headerName? (normalize raw) = some name) : Text.trim raw ≠ [] := by
  intro hblank
  rw [normalize, hblank] at h
  cases h

theorem numberFrom_singleton_of_header {n : Nat} {raw name : List Char}
    (h : headerName? (normalize raw) = some name) :
    numberFrom n [raw] = [⟨n, normalize raw⟩] := by
  rcases numberFrom_singleton n raw with ⟨hblank, -⟩ | ⟨-, hone⟩
  · exact absurd hblank (trim_ne_nil_of_header h)
  · exact hone

/-! ## Lines that say nothing -/

theorem sectionAfter_eq (s : Section) (ls : List Line) :
    sectionAfter s ls =
      ((ls.map (·.text)).filterMap headerName?).getLast?.elim s Section.named := by
  induction ls generalizing s with
  | nil => rfl
  | cons l ls ih =>
      rw [sectionAfter, List.foldl_cons, List.map_cons]
      refine (ih _).trans ?_
      rw [Section.after_eq]
      cases hname : headerName? l.text with
      | none => rw [List.filterMap_cons_none hname]; rfl
      | some name =>
          rw [List.filterMap_cons_some hname, List.getLast?_cons]
          cases ((ls.map (·.text)).filterMap headerName?).getLast? <;> rfl

theorem InUnknown.sectionAfter {before : List (List Char)} (h : InUnknown before) (n : Nat) :
    sectionAfter .start (numberFrom n before) = .unknown := by
  obtain ⟨name, hname, hunknown⟩ := h
  rw [sectionAfter_eq, map_text_numberFrom, hname]
  exact hunknown

theorem not_paired_of_endsQuoted {before : List (List Char)} (h : ¬ EndsQuoted before) {n : Nat}
    {last : Line} (hlast : last ∈ (numberFrom n before).getLast?) (s : Section)
    (next : List Char) : ¬ Paired s last.text next := by
  intro hpaired
  refine h ⟨last.text, ?_, hpaired.quoted⟩
  rw [← map_text_numberFrom n, List.getLast?_map]
  exact Option.mem_map_of_mem (·.text) hlast

theorem not_paired_unknown (text next : List Char) : ¬ Paired .unknown text next := by
  intro hpaired
  cases hpaired.hasEntries

/-- A line that is taken in without effect can be left out where no line takes it along. -/
theorem readLines_insert {xs ys : List Line} {l : Line} {s : Section}
    (hs : sectionAfter .start xs = s)
    (hlast : ∀ last ∈ xs.getLast?, ∀ next, ¬ Paired s last.text next)
    (hl : ∀ next, ¬ Paired s l.text next) (hheader : headerName? l.text = none)
    (htake : ∀ d : Draft, d.take ⟨l.number, single s l.text⟩ = .ok d) :
    readLines (xs ++ l :: ys) = readLines (xs ++ ys) := by
  have hitems : itemsFrom .start (xs ++ l :: ys) =
      itemsFrom .start xs ++ ⟨l.number, single s l.text⟩ :: itemsFrom s ys := by
    rw [itemsFrom_append (fun last h next _ => hs ▸ hlast last h next.text), hs,
      itemsFrom_cons (fun next _ => hl next.text), Section.after_of_not_header hheader]
  have hitems' : itemsFrom .start (xs ++ ys) = itemsFrom .start xs ++ itemsFrom s ys := by
    rw [itemsFrom_append (fun last h next _ => hs ▸ hlast last h next.text), hs]
  apply readLines_congr
  rw [hitems, hitems', takeAll_append, takeAll_append, takeAll_cons_ok (htake _)]

theorem readLines_of_idle {before : List (List Char)} {raw : List Char} (h : Idle before raw)
    (n m : Nat) (ys : List Line) :
    readLines (numberFrom n before ++ (numberFrom m [raw] ++ ys)) =
      readLines (numberFrom n before ++ ys) := by
  rcases numberFrom_singleton m raw with ⟨-, hnone⟩ | ⟨hkept, hone⟩
  · rw [hnone, List.nil_append]
  rw [hone, List.singleton_append]
  cases h with
  | blank hblank => exact absurd hblank hkept
  | comment hcomment hquoted =>
      have hsingle (s : Section) : single s (normalize raw) = .comment := if_pos hcomment
      refine readLines_insert rfl ?_ ?_ (headerName?_of_isComment hcomment) ?_
      · intro last hlast
        exact not_paired_of_endsQuoted hquoted hlast _
      · intro next hpaired
        simpa [hcomment] using not_void_of_quoted hpaired.quoted
      · intro d
        rw [hsingle]
        rfl
  | ignored hunknown hheader =>
      refine readLines_insert (hunknown.sectionAfter n) ?_ ?_ hheader ?_
      · intro last _
        exact not_paired_unknown last.text
      · exact not_paired_unknown (normalize raw)
      · intro d
        unfold single
        rw [hheader]
        split <;> rfl

/-! ## Headers -/

theorem readLines_of_header {xs ys : List Line} {n : Nat} {text text' name name' : List Char}
    (hname : headerName? text = some name) (hname' : headerName? text' = some name')
    (hsection : Section.named name' = Section.named name) :
    readLines (xs ++ ⟨n, text'⟩ :: ys) = readLines (xs ++ ⟨n, text⟩ :: ys) := by
  have hitems {text name : List Char} (hname : headerName? text = some name) :
      itemsFrom .start (xs ++ ⟨n, text⟩ :: ys) = itemsFrom .start xs ++
        ⟨n, .header name⟩ :: itemsFrom (Section.named name) ys := by
    have hhead : HeaderFirst (⟨n, text⟩ :: ys) := by
      simp [HeaderFirst, hname]
    rw [itemsFrom_append_header hhead, itemsFrom_header hname]
  have htake (d : Draft) (name : List Char) : d.take ⟨n, .header name⟩ = .ok d := rfl
  apply readLines_congr
  rw [hitems hname, hitems hname', takeAll_append, takeAll_append, takeAll_cons_ok (htake _ name),
    takeAll_cons_ok (htake _ name'), hsection]

/-! ## Changes of the layout make no difference -/

theorem Reading.renumber_id (r : Reading) : r.renumber id = r := by
  simp [renumber, Problem.renumber]

theorem readLines_of_inserted {before after : List (List Char)} {raw : List Char}
    (h : Idle before raw) :
    readLines (numberFrom 1 (before ++ raw :: after)) =
      (readLines (numberFrom 1 (before ++ after))).renumber (shiftUp before.length) := by
  rw [numberFrom_insert, readLines_of_idle h, ← renumber_shiftUp,
    readLines_renumber (shiftUp_zero _)]

theorem readLines_of_respelled (before after : List (List Char)) {raw raw' : List Char}
    (h : Respelled raw raw') :
    readLines (numberFrom 1 (before ++ raw' :: after)) =
      readLines (numberFrom 1 (before ++ raw :: after)) := by
  rcases normalize_of_respelled h with htext | ⟨name, name', hname, hname', hsection⟩
  · simp only [numberFrom_insert, numberFrom, htext]
  · rw [numberFrom_insert, numberFrom_insert, numberFrom_singleton_of_header hname,
      numberFrom_singleton_of_header hname']
    exact readLines_of_header hname hname' hsection

theorem readLines_of_layoutStep {raws raws' : List (List Char)} {f : Nat → Nat}
    (h : LayoutStep raws raws' f) :
    readLines (numberFrom 1 raws') = (readLines (numberFrom 1 raws)).renumber f := by
  cases h with
  | inserted h => exact readLines_of_inserted h
  | deleted hunknown hheader =>
      -- the lines before the change are those after it with the line inserted
      rw [readLines_of_inserted (.ignored hunknown hheader), Reading.renumber_renumber,
        shiftDown_comp_shiftUp, Reading.renumber_id]
  | @respelled before after _ _ h => rw [readLines_of_respelled before after h, Reading.renumber_id]

/-! ## Whole specs -/

def HasText (raws : List (List Char)) : Prop :=
  ∃ raw ∈ raws, Text.trim raw ≠ []

theorem InUnknown.hasText {before : List (List Char)} (h : InUnknown before) : HasText before := by
  obtain ⟨name, hname, -⟩ := h
  obtain ⟨text, htext, hheader⟩ := List.mem_filterMap.mp (List.mem_of_getLast? hname)
  obtain ⟨raw, hraw, rfl⟩ := List.mem_map.mp (List.mem_of_mem_filter htext)
  exact ⟨raw, hraw, trim_ne_nil_of_header hheader⟩

theorem Respelled.trim_ne_nil {raw raw' : List Char} (h : Respelled raw raw')
    (hraw : Text.trim raw ≠ []) : Text.trim raw' ≠ [] := by
  rcases normalize_of_respelled h with htext | ⟨name, name', -, hname', -⟩
  · intro hblank
    rw [normalize, normalize, hblank] at htext
    exact hraw (List.map_eq_nil_iff.mp htext.symm)
  · exact trim_ne_nil_of_header hname'

theorem HasText.of_layoutStep {raws raws' : List (List Char)} {f : Nat → Nat}
    (htext : HasText raws) (h : LayoutStep raws raws' f) : HasText raws' := by
  cases h with
  | inserted =>
      obtain ⟨line, hline, hkept⟩ := htext
      refine ⟨line, ?_, hkept⟩
      simp only [List.mem_append, List.mem_cons] at hline ⊢
      tauto
  | deleted hunknown _ =>
      -- the header of the section stays
      obtain ⟨header, hheader, hkept⟩ := hunknown.hasText
      exact ⟨header, List.mem_append_left _ hheader, hkept⟩
  | @respelled before after raw raw' h =>
      obtain ⟨line, hline, hkept⟩ := htext
      by_cases heq : line = raw
      · subst heq
        exact ⟨raw', by simp, h.trim_ne_nil hkept⟩
      · refine ⟨line, ?_, hkept⟩
        simp only [List.mem_append, List.mem_cons, heq, false_or] at hline ⊢
        tauto

theorem readLines_of_relaid {raws raws' : List (List Char)} {f : Nat → Nat}
    (h : Relaid raws raws' f) (htext : HasText raws) :
    HasText raws' ∧
      readLines (numberFrom 1 raws') = (readLines (numberFrom 1 raws)).renumber f := by
  induction h with
  | refl => exact ⟨htext, (Reading.renumber_id _).symm⟩
  | step _ hstep ih =>
      obtain ⟨htext', hreading⟩ := ih
      refine ⟨htext'.of_layoutStep hstep, ?_⟩
      rw [readLines_of_layoutStep hstep, hreading, Reading.renumber_renumber]

/-- A spec in another layout is the same contest with the same problems, which move along with
their lines. -/
theorem parse_of_relaid {input input' : String} {f : Nat → Nat}
    (htext : ∃ raw ∈ rawLines input, Text.trim raw ≠ [])
    (h : Relaid (rawLines input) (rawLines input') f) :
    ∃ reading, parse input = .ok reading ∧ parse input' = .ok (reading.renumber f) := by
  obtain ⟨htext', hreading⟩ := readLines_of_relaid h htext
  refine ⟨_, parse_eq_of_ne_nil (lines_ne_nil htext), ?_⟩
  rw [parse_eq_of_ne_nil (lines_ne_nil htext')]
  exact congrArg _ hreading

/-- A spec with a player, a section of no meaning and an arena line that cannot be read. -/
def villageSpec : String :=
  "[players]\n\"Ann\"\ngender:F, height:1m\n[lore]\nIt rains.\n[arena]\nA barn\n"

/-- The same with a comment, blank lines, a header in another case and between blanks, curly
quotation marks, and another text in the section of no meaning. -/
def relaidVillageSpec : String :=
  "# A village\n\n [Players]\t\n\u201CAnn\u201D\n\ngender:F, height:1m\n[lore]\nIt snows.\n" ++
  "[arena]\nA barn\n"

theorem parse_of_relaidVillage :
    ∃ reading f, parse villageSpec = .ok reading ∧
      parse relaidVillageSpec = .ok (reading.renumber f) ∧
      Relaid (rawLines villageSpec) (rawLines relaidVillageSpec) f ∧
      (∃ raw ∈ rawLines villageSpec, Text.trim raw ≠ []) ∧
      reading.problems.map (·.line) = [7] ∧ f 7 = 10 := by
  obtain ⟨f, hrelaid, hseven⟩ : ∃ f,
      Relaid (rawLines villageSpec) (rawLines relaidVillageSpec) f ∧ f 7 = 10 := by
    have hraws : rawLines villageSpec = ["[players]", "\"Ann\"", "gender:F, height:1m", "[lore]",
      "It rains.", "[arena]", "A barn", ""].map String.toList := by decide +kernel
    have hraws' : rawLines relaidVillageSpec = ["# A village", "", " [Players]\t",
      "\u201CAnn\u201D", "", "gender:F, height:1m", "[lore]", "It snows.", "[arena]", "A barn",
      ""].map String.toList := by decide +kernel
    let title := ["# A village", ""].map String.toList
    let names := title ++ [" [Players]\t", "\u201CAnn\u201D"].map String.toList
    let lore := names ++ ["", "gender:F, height:1m", "[lore]"].map String.toList
    have hunknown : InUnknown lore := ⟨"lore".toList, by decide +kernel, by decide +kernel⟩
    have hquotes : List.Forall₂ StandsFor "\u201CAnn\u201D".toList "\"Ann\"".toList := by
      decide +kernel
    rw [hraws, hraws']
    exact ⟨_, Relaid.refl _
      |>.step (@LayoutStep.inserted [] _ "# A village".toList
        (.comment (by decide) fun ⟨_, h, _⟩ => nomatch h))
      |>.step (@LayoutStep.inserted ["# A village".toList] _ [] (.blank rfl))
      |>.step (@LayoutStep.respelled title _ _ "[Players]".toList
        (.recased (by decide) (by decide)))
      |>.step (@LayoutStep.respelled title _ _ _
        (@Respelled.padded [' '] _ ['\t'] (List.forall_mem_singleton.mpr rfl)
          (List.forall_mem_singleton.mpr rfl)))
      |>.step (@LayoutStep.respelled (title ++ [" [Players]\t".toList]) _ _ _ (.requoted hquotes))
      |>.step (@LayoutStep.inserted names _ [] (.blank rfl))
      |>.step (@LayoutStep.deleted lore _ _ hunknown (by decide))
      |>.step (@LayoutStep.inserted lore _ "It snows.".toList (.ignored hunknown (by decide))),
      rfl⟩
  obtain ⟨reading, hparse, hparse'⟩ := parse_of_relaid (by decide +kernel) hrelaid
  obtain ⟨_, hreading, hevaluated⟩ := exists_of_parse villageSpec
    (P := fun reading => reading.problems.map (·.line) = [7]) (by decide +kernel)
  obtain rfl := Except.ok.inj (hparse.symm.trans hreading)
  exact ⟨_, _, hparse, hparse', hrelaid, by decide +kernel, of_decide_eq_true hevaluated, hseven⟩

end Tournament.Spec
