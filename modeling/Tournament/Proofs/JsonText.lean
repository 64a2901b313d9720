import Tournament.Proofs.JsonLayout
import Tournament.Proofs.Splitting
import Mathlib.Data.List.Basic
import Mathlib.Data.List.DropRight
import Mathlib.Data.List.TakeWhile
import Mathlib.Tactic.IntervalCases

/-!
# Reading JSON texts back

A value whose numbers are natural and whose strings spell texts is read back from its text in any
layout.  A number is the one kind of value whose text does not end by itself, so reading back
asks that what follows does not go on with it.
-/

namespace Tournament.Json

/-! ## Blanks -/

theorem skip_append {blank : List Char} (h : ∀ c ∈ blank, isSpace c = true) (cs : List Char) :
    skip (blank ++ cs) = skip cs := by
  rw [skip, List.dropWhile_append, List.dropWhile_eq_nil_iff.mpr h]
  rfl

theorem skip_skip (cs : List Char) : skip (skip cs) = skip cs :=
  List.dropWhile_idempotent isSpace cs

theorem skip_cons {c : Char} (h : isSpace c = false) (cs : List Char) :
    skip (c :: cs) = c :: cs := by
  rw [skip, List.dropWhile_cons, h]
  rfl

/-! ## Strings -/

def signOf (c : Char) : Sign :=
  if c.toNat < 0x20 ∧ c ∉ ['\x08', '\x0c', '\n', '\r', '\t'] then .unit c.toNat else .char c

theorem exists_hex4 {n : Nat} (h : n < 0x20) :
    ∃ a b c d, hex4 n = [a, b, c, d] ∧ hexUnit? a b c d = some n := by
  have hall : ∀ n < 0x20, (hex4 n).length = 4 ∧
      hexUnit? (hex4 n)[0]! (hex4 n)[1]! (hex4 n)[2]! (hex4 n)[3]! = some n := by decide
  obtain ⟨hlength, hunit⟩ := hall n h
  match hdigits : hex4 n with
  | [a, b, c, d] => exact ⟨a, b, c, d, rfl, by simpa [hdigits] using hunit⟩
  | [] | [_] | [_, _] | [_, _, _] | _ :: _ :: _ :: _ :: _ :: _ => simp [hdigits] at hlength

theorem readSigns_plain {c : Char} (hquote : c ≠ '"') (hbackslash : c ≠ '\\')
    (hcontrol : ¬ c.toNat < 0x20) (rest : List Char) :
    readSigns (c :: rest) = (readSigns rest).map fun (signs, rest) => (.char c :: signs, rest) := by
  rw [readSigns, if_neg (not_or.mpr ⟨hbackslash, hcontrol⟩)]
  · cases readSigns rest <;> rfl
  · exact hquote
  · exact fun _ _ _ _ _ h _ => hbackslash h
  · exact fun _ _ h _ => hbackslash h

theorem readSigns_short {e c : Char} (h : shortEscape? e = some c) (rest : List Char) :
    readSigns ('\\' :: e :: rest) =
      (readSigns rest).map fun (signs, rest) => (.char c :: signs, rest) := by
  have hne : e ≠ 'u' := by
    rintro rfl
    cases h
  rw [readSigns, h]
  · cases readSigns rest <;> rfl
  · exact fun _ _ _ _ _ hu _ => hne hu

theorem readSigns_unit {a b c d : Char} {n : Nat} (h : hexUnit? a b c d = some n)
    (rest : List Char) :
    readSigns ('\\' :: 'u' :: a :: b :: c :: d :: rest) =
      (readSigns rest).map fun (signs, rest) => (.unit n :: signs, rest) := by
  rw [readSigns, h]
  cases readSigns rest <;> rfl

theorem readSigns_escape (c : Char) (rest : List Char) :
    readSigns (escape c ++ rest) =
      (readSigns rest).map fun (signs, rest) => (signOf c :: signs, rest) := by
  unfold escape
  split
  case h_8 _ hquote hbackslash hb hf hn hr ht =>
    split_ifs with hcontrol
    · obtain ⟨a, b, c', d, hdigits, hunit⟩ := exists_hex4 hcontrol
      have hsign : signOf c = .unit c.toNat :=
        if_pos ⟨hcontrol, by simpa using ⟨hb, hf, hn, hr, ht⟩⟩
      rw [hdigits, hsign]
      exact readSigns_unit hunit rest
    · have hsign : signOf c = .char c := if_neg fun h => hcontrol h.1
      rw [hsign]
      exact readSigns_plain hquote hbackslash hcontrol rest
  all_goals exact readSigns_short rfl rest

theorem readSigns_flatMap_escape (cs rest : List Char) :
    readSigns (cs.flatMap escape ++ '"' :: rest) = some (cs.map signOf, rest) := by
  induction cs with
  | nil => rw [List.flatMap_nil, List.nil_append, readSigns]; rfl
  | cons c cs ih =>
      rw [List.flatMap_cons, List.append_assoc, readSigns_escape, ih]
      rfl

theorem spell_unit {n : Nat} (h : n < 0xD800) (signs : List Sign) :
    spell (.unit n :: signs) = (spell signs).map (Char.ofNat n :: ·) := by
  have hhigh : ¬ (0xD800 ≤ n ∧ n < 0xDC00) := by omega
  have hlow : ¬ (0xDC00 ≤ n ∧ n < 0xE000) := by omega
  have hhalf : ¬ (0xD800 ≤ n ∧ n < 0xE000) := by omega
  match signs with
  | [] | .char _ :: _ => simp only [spell, if_neg hhalf]
  | .unit m :: signs => rw [spell, if_neg hhigh, if_neg hlow]

theorem spell_map_signOf (cs : List Char) : spell (cs.map signOf) = some cs := by
  induction cs with
  | nil => rw [List.map_nil, spell]
  | cons c cs ih =>
      rw [List.map_cons, signOf]
      split_ifs with hcontrol
      · rw [spell_unit (by omega), ih, Char.ofNat_toNat]
        rfl
      · rw [spell, ih]
        rfl

theorem readText_printed (s : String) (rest : List Char) :
    readText (s.toList.flatMap escape ++ '"' :: rest) = some (some s, rest) := by
  rw [readText, readSigns_flatMap_escape]
  simp [spell_map_signOf]

/-! ## Numbers -/

def EndsNumber (rest : List Char) : Prop :=
  ∀ c ∈ rest.head?, c.isDigit = false ∧ c ∉ ['.', 'e', 'E']

theorem digitRun_append {ds rest : List Char} (hds : ∀ c ∈ ds, c.isDigit = true)
    (h : EndsNumber rest) : digitRun (ds ++ rest) = (ds, rest) := by
  obtain ⟨htake, hdrop⟩ := Text.takeWhile_dropWhile_append hds fun c hc => (h c hc).1
  rw [digitRun, htake, hdrop]

theorem isDigit_of_mem_toDigits {n : Nat} {c : Char} (h : c ∈ Nat.toDigits 10 n) :
    c.isDigit = true :=
  Nat.isDigit_of_mem_toDigits (by decide) (by decide) h

theorem head?_toDigits {n : Nat} (h : (Nat.toDigits 10 n).head? = some '0') : n = 0 := by
  induction n using Nat.strongRecOn with
  | ind n ih =>
      rw [Nat.toDigits_eq_if (by decide)] at h
      split_ifs at h with hlt
      · interval_cases n <;> first | rfl | cases h
      · rw [List.head?_append_of_ne_nil _ Nat.toDigits_ne_nil] at h
        have := ih (n / 10) (by omega) h
        omega

theorem wholePart_toDigits (n : Nat) {rest : List Char} (h : EndsNumber rest) :
    wholePart (Nat.toDigits 10 n ++ rest) = some (Nat.toDigits 10 n, rest) := by
  have hdigits : ∀ c ∈ Nat.toDigits 10 n, c.isDigit = true := fun _ => isDigit_of_mem_toDigits
  have hrun := digitRun_append hdigits h
  have hhead := @head?_toDigits n
  have hne : Nat.toDigits 10 n ≠ [] := Nat.toDigits_ne_nil
  cases hcons : Nat.toDigits 10 n with
  | nil => exact absurd hcons hne
  | cons d ds =>
      rw [hcons] at hrun hhead
      by_cases hzero : d = '0'
      · obtain rfl := hhead (congrArg some hzero)
        obtain ⟨rfl, rfl⟩ : d = '0' ∧ ds = [] := by simpa [Nat.toDigits_zero] using hcons.symm
        rfl
      · rw [List.cons_append] at hrun ⊢
        rw [wholePart, hrun]
        exact fun _ h => hzero (List.cons.inj h).1

theorem fractionPart_of_endsNumber {rest : List Char} (h : EndsNumber rest) :
    fractionPart rest = some ([], rest) := by
  unfold fractionPart
  split
  · exact absurd (h '.' rfl).2 (by decide)
  · rfl

theorem exponentPart_of_endsNumber {rest : List Char} (h : EndsNumber rest) :
    exponentPart rest = some ([], rest) := by
  have hmark : ∀ {c cs}, rest = c :: cs → ¬ (c = 'e' ∨ c = 'E') := by
    rintro c cs rfl hc
    exact (h c rfl).2 (by rcases hc with rfl | rfl <;> decide)
  unfold exponentPart
  split
  · rw [if_neg (hmark rfl)]
  · rw [if_neg (hmark rfl)]
  · rw [if_neg (hmark rfl)]
  · rfl

theorem readNumber_toDigits (n : Nat) {rest : List Char} (h : EndsNumber rest) :
    readNumber (Nat.toDigits 10 n ++ rest) = some (.ofNat n, rest) := by
  have hread : readUnsigned (Nat.toDigits 10 n ++ rest) = some (Nat.toDigits 10 n, rest) := by
    simp [readUnsigned, wholePart_toDigits n h, fractionPart_of_endsNumber h,
      exponentPart_of_endsNumber h]
  unfold readNumber
  split
  · next tail heq =>
    have hhead : (Nat.toDigits 10 n).head? = some '-' := by
      rw [← List.head?_append_of_ne_nil _ Nat.toDigits_ne_nil, heq]
      rfl
    exact absurd (isDigit_of_mem_toDigits (List.mem_of_mem_head? hhead)) (by decide)
  · rw [hread]
    rfl

/-! ## Reading values back -/

theorem readValue_skip (fuel : Nat) (cs : List Char) :
    readValue fuel (skip cs) = readValue fuel cs := by
  cases fuel with
  | zero => rw [readValue, readValue]
  | succ fuel => rw [readValue, readValue, skip_skip]

theorem readElements_skip (fuel : Nat) (cs : List Char) :
    readElements fuel (skip cs) = readElements fuel cs := by
  cases fuel with
  | zero => rw [readElements, readElements]
  | succ fuel => rw [readElements, readElements, readValue_skip]

theorem readMembers_skip (fuel : Nat) (cs : List Char) :
    readMembers fuel (skip cs) = readMembers fuel cs := by
  cases fuel with
  | zero => rw [readMembers, readMembers]
  | succ fuel => rw [readMembers, readMembers, skip_skip]

theorem readValue_append {blank : List Char} (h : ∀ c ∈ blank, isSpace c = true) (fuel : Nat)
    (cs : List Char) : readValue fuel (blank ++ cs) = readValue fuel cs := by
  rw [← readValue_skip, skip_append h, readValue_skip]

theorem readValue_list {fuel : Nat} {cs rest : List Char} {vs : List Json}
    (h : readElements fuel cs = some (vs, rest)) :
    readValue (fuel + 1) ('[' :: cs) = some (.list vs, rest) := by
  rw [← readElements_skip] at h
  rw [readValue, skip_cons rfl]
  simp only
  split
  · next more hclosed =>
    rw [hclosed] at h
    rcases fuel with _ | _ | fuel <;> cases h
  · rw [h]
    rfl

theorem readValue_object {fuel : Nat} {cs rest : List Char}
    {ms : List (Option String × Json)} (h : readMembers fuel cs = some (ms, rest)) :
    readValue (fuel + 1) ('{' :: cs) = some (.object ms, rest) := by
  rw [← readMembers_skip] at h
  rw [readValue, skip_cons rfl]
  simp only
  split
  · next more hclosed =>
    rw [hclosed] at h
    cases fuel <;> cases h
  · rw [h]
    rfl

theorem endsNumber_cons {c : Char} (hc : c ∈ [',', ']', '}']) (rest : List Char) :
    EndsNumber (c :: rest) := by
  rintro d ⟨⟩
  simp only [List.mem_cons, List.not_mem_nil, or_false] at hc
  rcases hc with rfl | rfl | rfl <;> decide

theorem endsNumber_append {blank : List Char} (h : ∀ c ∈ blank, isSpace c = true) {c : Char}
    (hc : c ∈ [',', ']', '}']) (rest : List Char) : EndsNumber (blank ++ c :: rest) := by
  cases blank with
  | nil => exact endsNumber_cons hc rest
  | cons b blank =>
      rintro d ⟨⟩
      have hspace := h b List.mem_cons_self
      simp only [isSpace, Bool.or_eq_true, decide_eq_true_eq] at hspace
      rcases hspace with ((rfl | rfl) | rfl) | rfl <;> decide

theorem printText_append (s : String) (rest : List Char) :
    printText s ++ rest = '"' :: (s.toList.flatMap escape ++ '"' :: rest) := by
  simp [printText]

/-- The value is read back from its text in a layout, at any depth and whatever follows. -/
def ReadBack (l : Layout) (v : Json) : Prop :=
  ∀ (depth fuel : Nat) (rest : List Char), 2 * (printIn l depth v).length < fuel →
    EndsNumber rest → readValue fuel (printIn l depth v ++ rest) = some (v, rest)

variable {l : Layout}

theorem readElements_last {v : Json} (hv : ReadBack l v) {depth fuel : Nat}
    (hfuel : 2 * (printIn l depth v).length < fuel) {rest more : List Char}
    (hrest : EndsNumber rest) (hskip : skip rest = ']' :: more) :
    readElements (fuel + 1) (l.gap depth ++ (printIn l depth v ++ rest)) = some ([v], more) := by
  rw [readElements, readValue_append (l.isSpace_gap depth), hv depth fuel rest hfuel hrest]
  simp only [hskip]

theorem readElements_more {v : Json} (hv : ReadBack l v) {depth fuel : Nat}
    (hfuel : 2 * (printIn l depth v).length < fuel) {more rest : List Char} {vs : List Json}
    (hmore : readElements fuel more = some (vs, rest)) :
    readElements (fuel + 1) (l.gap depth ++ (printIn l depth v ++ ',' :: more)) =
      some (v :: vs, rest) := by
  rw [readElements, readValue_append (l.isSpace_gap depth),
    hv depth fuel _ hfuel (endsNumber_cons (by decide) more)]
  simp only [skip_cons (show isSpace ',' = false from rfl), hmore, Option.map_some]

theorem readElements_elementsIn {vs : List Json} (hne : vs ≠ []) (h : ∀ v ∈ vs, ReadBack l v)
    {depth fuel : Nat} (hfuel : 2 * (elementsIn l depth vs).length + 1 < fuel) {blank : List Char}
    (hblank : ∀ c ∈ blank, isSpace c = true) (rest : List Char) :
    readElements fuel (elementsIn l depth vs ++ (blank ++ ']' :: rest)) = some (vs, rest) := by
  induction vs generalizing fuel with
  | nil => exact absurd rfl hne
  | cons v vs ih =>
      obtain ⟨fuel, rfl⟩ : ∃ f, fuel = f + 1 := ⟨fuel - 1, by omega⟩
      obtain ⟨hv, hvs⟩ := List.forall_mem_cons.mp h
      cases vs with
      | nil =>
          rw [elementsIn] at hfuel ⊢
          simp only [List.length_append] at hfuel
          rw [List.append_assoc]
          exact readElements_last hv (by omega) (endsNumber_append hblank (by decide) rest)
            (by rw [skip_append hblank, skip_cons rfl])
      | cons w vs =>
          rw [elementsIn_cons_cons] at hfuel ⊢
          simp only [List.length_append, List.length_cons] at hfuel
          have hfuel' : 2 * (elementsIn l depth (w :: vs)).length + 1 < fuel := by omega
          rw [List.append_assoc, List.append_assoc, List.cons_append]
          exact readElements_more hv (by omega) (ih (List.cons_ne_nil w vs) hvs hfuel')

theorem readValue_spaced {v : Json} (hv : ReadBack l v) {depth fuel : Nat}
    (hfuel : 2 * (printIn l depth v).length < fuel) {rest : List Char} (hrest : EndsNumber rest) :
    readValue fuel (l.space ++ (printIn l depth v ++ rest)) = some (v, rest) := by
  rw [readValue_append l.isSpace_space, hv depth fuel rest hfuel hrest]

theorem readMembers_last {v : Json} (hv : ReadBack l v) (s : String) {depth fuel : Nat}
    (hfuel : 2 * (printIn l depth v).length < fuel) {rest more : List Char}
    (hrest : EndsNumber rest) (hskip : skip rest = '}' :: more) :
    readMembers (fuel + 1)
        (l.gap depth ++ (printText s ++ (':' :: (l.space ++ (printIn l depth v ++ rest))))) =
      some ([(some s, v)], more) := by
  rw [printText_append, readMembers, skip_append (l.isSpace_gap depth), skip_cons rfl]
  simp only [readText_printed, skip_cons (show isSpace ':' = false from rfl),
    readValue_spaced hv hfuel hrest, hskip]

theorem readMembers_more {v : Json} (hv : ReadBack l v) (s : String) {depth fuel : Nat}
    (hfuel : 2 * (printIn l depth v).length < fuel) {more rest : List Char}
    {ms : List (Option String × Json)} (hmore : readMembers fuel more = some (ms, rest)) :
    readMembers (fuel + 1)
        (l.gap depth ++ (printText s ++ (':' :: (l.space ++ (printIn l depth v ++ ',' :: more))))) =
      some ((some s, v) :: ms, rest) := by
  have hcomma : EndsNumber (',' :: more) := endsNumber_cons (by decide) more
  rw [printText_append, readMembers, skip_append (l.isSpace_gap depth), skip_cons rfl]
  simp only [readText_printed, skip_cons (show isSpace ':' = false from rfl),
    readValue_spaced hv hfuel hcomma, skip_cons (show isSpace ',' = false from rfl), hmore,
    Option.map_some]

theorem readMembers_membersIn {ms : List (Option String × Json)} (hne : ms ≠ [])
    (hnames : ∀ m ∈ ms, m.1.isSome = true) (h : ∀ m ∈ ms, ReadBack l m.2) {depth fuel : Nat}
    (hfuel : 2 * (membersIn l depth ms).length + 1 < fuel) {blank : List Char}
    (hblank : ∀ c ∈ blank, isSpace c = true) (rest : List Char) :
    readMembers fuel (membersIn l depth ms ++ (blank ++ '}' :: rest)) = some (ms, rest) := by
  induction ms generalizing fuel with
  | nil => exact absurd rfl hne
  | cons m ms ih =>
      obtain ⟨fuel, rfl⟩ : ∃ f, fuel = f + 1 := ⟨fuel - 1, by omega⟩
      obtain ⟨hv, hvs⟩ := List.forall_mem_cons.mp h
      obtain ⟨hname, hmore⟩ := List.forall_mem_cons.mp hnames
      obtain ⟨name, v⟩ := m
      obtain ⟨s, rfl⟩ := Option.isSome_iff_exists.mp hname
      dsimp only at hv
      cases ms with
      | nil =>
          rw [membersIn] at hfuel ⊢
          simp only [List.length_append, List.length_cons] at hfuel
          simp only [printName, List.append_assoc, List.cons_append]
          exact readMembers_last hv s (by omega) (endsNumber_append hblank (by decide) rest)
            (by rw [skip_append hblank, skip_cons rfl])
      | cons m ms =>
          rw [membersIn_cons_cons] at hfuel ⊢
          simp only [List.length_append, List.length_cons] at hfuel
          simp only [printName, List.append_assoc, List.cons_append]
          have hfuel' : 2 * (membersIn l depth (m :: ms)).length + 1 < fuel := by omega
          exact readMembers_more hv s (by omega) (ih (List.cons_ne_nil m ms) hmore hvs hfuel')

inductive Plain : Json → Prop where
  | null : Plain .null
  | bool (b : Bool) : Plain (.bool b)
  | number (n : Nat) : Plain (.ofNat n)
  | text (s : String) : Plain (.text s)
  | list {vs : List Json} (h : ∀ v ∈ vs, Plain v) : Plain (.list vs)
  | object {ms : List (Option String × Json)} (hnames : ∀ m ∈ ms, m.1.isSome = true)
      (h : ∀ m ∈ ms, Plain m.2) : Plain (.object ms)

theorem readBack_of_succ {v : Json}
    (h : ∀ (depth fuel : Nat) (rest : List Char), 2 * (printIn l depth v).length ≤ fuel →
      EndsNumber rest → readValue (fuel + 1) (printIn l depth v ++ rest) = some (v, rest)) :
    ReadBack l v := by
  rintro depth (_ | fuel) rest hfuel hrest
  · cases hfuel
  · exact h depth fuel rest (Nat.le_of_lt_succ hfuel) hrest

theorem readBack_ofNat (n : Nat) : ReadBack l (.ofNat n) := by
  refine readBack_of_succ fun depth fuel rest _ hrest => ?_
  have hread := readNumber_toDigits n hrest
  have hne : Nat.toDigits 10 n ≠ [] := Nat.toDigits_ne_nil
  have hprint : printIn l depth (.ofNat n) = Nat.toDigits 10 n := printIn_number l depth _
  rw [hprint]
  obtain ⟨d, ds, hcons⟩ := List.exists_cons_of_ne_nil hne
  have hdigit : d.isDigit = true := isDigit_of_mem_toDigits (hcons ▸ List.mem_cons_self)
  have hspace : isSpace d = false := by
    by_contra hspace
    simp only [isSpace, Bool.or_eq_true, decide_eq_true_eq, Bool.not_eq_false] at hspace
    rcases hspace with ((rfl | rfl) | rfl) | rfl <;> cases hdigit
  rw [hcons, List.cons_append] at hread ⊢
  rw [readValue, skip_cons hspace]
  -- no other kind of value begins with a digit
  split
  case h_7 => exact hread
  all_goals
    next heq =>
    obtain rfl := (List.cons.inj heq).1
    cases hdigit

theorem readBack_list {vs : List Json} (h : ∀ v ∈ vs, ReadBack l v) : ReadBack l (.list vs) := by
  refine readBack_of_succ fun depth fuel rest hfuel _ => ?_
  cases vs with
  | nil => rw [printIn, readValue]; rfl
  | cons v vs =>
      rw [printIn_list_cons] at hfuel ⊢
      simp only [List.length_append, List.length_cons] at hfuel
      have hfuel : 2 * (elementsIn l (depth + 1) (v :: vs)).length + 1 < fuel := by omega
      have hread := readElements_elementsIn (List.cons_ne_nil v vs) h hfuel
        (l.isSpace_gap depth) rest
      simpa using readValue_list hread

theorem readBack_object {ms : List (Option String × Json)} (hnames : ∀ m ∈ ms, m.1.isSome = true)
    (h : ∀ m ∈ ms, ReadBack l m.2) : ReadBack l (.object ms) := by
  refine readBack_of_succ fun depth fuel rest hfuel _ => ?_
  cases ms with
  | nil => rw [printIn, readValue]; rfl
  | cons m ms =>
      rw [printIn_object_cons] at hfuel ⊢
      simp only [List.length_append, List.length_cons] at hfuel
      have hfuel : 2 * (membersIn l (depth + 1) (m :: ms)).length + 1 < fuel := by omega
      have hread := readMembers_membersIn (List.cons_ne_nil m ms) hnames h hfuel
        (l.isSpace_gap depth) rest
      simpa using readValue_object hread

theorem Plain.readBack {v : Json} (h : Plain v) (l : Layout) : ReadBack l v := by
  induction h with
  | null =>
      refine readBack_of_succ fun depth fuel rest _ _ => ?_
      rw [printIn_null, readValue]
      rfl
  | bool b =>
      refine readBack_of_succ fun depth fuel rest _ _ => ?_
      rw [printIn_bool]
      cases b <;>
      · rw [print, readValue]
        rfl
  | number n => exact readBack_ofNat n
  | text s =>
      refine readBack_of_succ fun depth fuel rest _ _ => ?_
      rw [printIn_text, printText_append, readValue, skip_cons rfl]
      simp only [readText_printed]
  | list _ ih => exact readBack_list ih
  | object hnames _ ih => exact readBack_object hnames ih

theorem Plain.read_printIn {v : Json} (h : Plain v) (l : Layout) :
    read (String.ofList (printIn l 0 v)) = some v := by
  have hread := h.readBack l 0 (2 * (printIn l 0 v).length + 1) [] (by omega) nofun
  rw [List.append_nil] at hread
  rw [read, String.length_ofList, String.toList_ofList, hread]
  rfl

theorem Plain.read_compact {v : Json} (h : Plain v) : read v.compact = some v := by
  rw [compact, ← printIn_tight 0]
  exact h.read_printIn .tight

theorem Plain.read_pretty {v : Json} (h : Plain v) : read v.pretty = some v := by
  rw [pretty, ← printIn_lines]
  exact h.read_printIn .lines

end Tournament.Json
