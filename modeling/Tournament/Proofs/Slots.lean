import Tournament.Event
import Tournament.Proofs.Scanning
import Mathlib.Data.List.Forall2
import Mathlib.Data.List.Nodup

/-!
# The slots that a text names

Taking in the pieces of a text succeeds where every token names a slot and the tokens of one slot
agree on its suffix (`Legible`); what is found then is each slot once, by rising number, with its
suffix, and the slots of the pronouns (`Reads`).
-/

namespace Tournament

open Text (isAnyDigit)

/-! ## Numbers -/

namespace Number

/-- Digits that make up a number, with at most one plus sign before them. -/
def Writes (cs : List Char) (n : Nat) : Prop :=
  ∃ ds, (cs = ds ∨ cs = '+' :: ds) ∧ ds ≠ [] ∧ (∀ d ∈ ds, d.isDigit = true) ∧ ofDigits ds = n

theorem readNatural_eq_some_iff {bound n : Nat} {cs : List Char} :
    readNatural bound cs = some n ↔ Writes cs n ∧ n < bound := by
  unfold readNatural
  simp only [Option.ite_none_right_eq_some, Option.some.injEq, List.all_eq_true]
  constructor
  · rintro ⟨⟨hne, hdigits, hlt⟩, rfl⟩
    refine ⟨⟨_, ?_, hne, hdigits, rfl⟩, hlt⟩
    split_ifs with hplus
    · obtain ⟨rest, rfl⟩ := List.head?_eq_some_iff.mp hplus
      exact .inr rfl
    · exact .inl rfl
  · rintro ⟨⟨ds, rfl | rfl, hne, hdigits, rfl⟩, hlt⟩
    · have hplus : cs.head? ≠ some '+' := by
        intro hplus
        have hplus := hdigits '+' (List.mem_of_mem_head? hplus)
        exact absurd hplus (by decide)
      rw [if_neg hplus]
      exact ⟨⟨hne, hdigits, hlt⟩, rfl⟩
    · exact ⟨⟨hne, hdigits, hlt⟩, rfl⟩

end Number

namespace Event

/-- A value that is the number of a slot: a whole number from 1 up that fits 64 bits. -/
def IsSlot (value : String) (slot : Nat) : Prop :=
  Number.Writes (Text.trim value.toList) slot ∧ 0 < slot ∧ slot < UInt64.size

theorem readPositive64_eq_some_iff {s : String} {n : Nat} :
    Number.readPositive64 s = some n ↔ Number.Writes s.toList n ∧ 0 < n ∧ n < UInt64.size := by
  unfold Number.readPositive64 Number.readNatural64
  rw [Option.filter_eq_some_iff, Number.readNatural_eq_some_iff, decide_eq_true_eq, and_assoc,
    and_comm (a := n < UInt64.size)]

theorem parseSlot_eq_ok_iff (key : String) {value : String} {slot : Nat} :
    parseSlot key value = .ok slot ↔ IsSlot value slot := by
  have hread := readPositive64_eq_some_iff (s := String.ofList (Text.trim value.toList)) (n := slot)
  rw [String.toList_ofList] at hread
  rw [IsSlot, ← hread]
  unfold parseSlot
  cases Number.readPositive64 (String.ofList (Text.trim value.toList)) <;> simp

end Event

/-! ## Pronouns -/

/-- What stands after the number of a pronoun token; one case cannot be asked for. -/
def Gender.Case.mark? : Gender.Case → Option (List Char)
  | .subject => some []
  | .object => some ['o']
  | .possessive => some ['s']
  | .independent => none
  | .reflexive => some ['s', 'e', 'l', 'f']

/-- The inside of a pronoun token: a number, and the mark of a case. -/
def IsPronoun (body number : List Char) (case : Gender.Case) : Prop :=
  number ≠ [] ∧ (∀ c ∈ number, isAnyDigit c = true) ∧
    ∃ mark, case.mark? = some mark ∧ body = number ++ mark

theorem readPronoun_eq_some_iff {body number : List Char} {case : Gender.Case} :
    readPronoun body = some (number, case) ↔ IsPronoun body number case := by
  constructor
  · intro h
    unfold readPronoun at h
    dsimp only at h
    split_ifs at h with hne
    have hdigits : ∀ c ∈ body.takeWhile isAnyDigit, isAnyDigit c = true :=
      fun c hc => List.mem_takeWhile_imp hc
    have hbody := List.takeWhile_append_dropWhile (p := isAnyDigit) (l := body)
    split at h
    case h_5 => cases h
    all_goals
      next hmark =>
      obtain ⟨rfl, rfl⟩ := Prod.mk.inj (Option.some.inj h)
      rw [hmark] at hbody
      exact ⟨hne, hdigits, _, rfl, hbody.symm⟩
  · rintro ⟨hne, hdigits, mark, hmark, rfl⟩
    have hnext : ∀ c ∈ mark.head?, isAnyDigit c = false := by
      intro c hc
      cases case <;> cases hmark <;> cases hc <;> rfl
    obtain ⟨htake, hdrop⟩ := Text.takeWhile_dropWhile_append hdigits hnext
    unfold readPronoun
    rw [htake, hdrop, if_neg hne]
    cases case <;> cases hmark <;> rfl

/-! ## Slots of a text -/

open Event (IsSlot SlotScan insertSlot parseSlot_eq_ok_iff)

/-- A token of the text is that of a slot with a suffix. -/
def Names (ps : List Piece) (slot : Nat) (suffix : List Char) : Prop :=
  ∃ number, .slot number suffix ∈ ps ∧ IsSlot (String.ofList number) slot

def SpeaksOf (ps : List Piece) (slot : Nat) : Prop :=
  ∃ capital body number case, .pronoun capital body ∈ ps ∧ IsPronoun body number case ∧
    IsSlot (String.ofList number) slot

/-- Every token of the text names a slot, and those of one slot have one suffix. -/
structure Legible (ps : List Piece) : Prop where
  slot : ∀ number suffix, .slot number suffix ∈ ps → ∃ slot, IsSlot (String.ofList number) slot
  pronoun : ∀ capital body, .pronoun capital body ∈ ps →
    ∃ number case slot, IsPronoun body number case ∧ IsSlot (String.ofList number) slot
  suffix_eq : ∀ slot suffix suffix', Names ps slot suffix → Names ps slot suffix' →
    suffix = suffix'

theorem Legible.mono {ps qs : List Piece} (h : Legible qs) (hsub : ∀ p ∈ ps, p ∈ qs) :
    Legible ps := by
  refine ⟨fun _ _ hmem => h.slot _ _ (hsub _ hmem), fun _ _ hmem => h.pronoun _ _ (hsub _ hmem), ?_⟩
  rintro slot suffix suffix' ⟨number, hmem, hslot⟩ ⟨number', hmem', hslot'⟩
  exact h.suffix_eq slot _ _ ⟨number, hsub _ hmem, hslot⟩ ⟨number', hsub _ hmem', hslot'⟩

/-- What is found in a text: each slot once, by rising number, with its suffix, and the slots of the
pronouns. -/
structure Reads (ps : List Piece) (scan : SlotScan) : Prop where
  slot : ∀ number suffix, .slot number suffix ∈ ps → ∃ slot, IsSlot (String.ofList number) slot
  pronoun : ∀ capital body, .pronoun capital body ∈ ps →
    ∃ number case slot, IsPronoun body number case ∧ IsSlot (String.ofList number) slot
  rising : scan.suffixes.Pairwise (·.1 < ·.1)
  mem_suffixes : ∀ slot suffix, (slot, suffix) ∈ scan.suffixes ↔ Names ps slot suffix
  mem_pronouns : ∀ slot, slot ∈ scan.pronouns ↔ SpeaksOf ps slot

theorem mem_insertSlot {slot : Nat} {suffix : List Char} {l : List (Nat × List Char)}
    {x : Nat × List Char} : x ∈ insertSlot slot suffix l ↔ x = (slot, suffix) ∨ x ∈ l := by
  induction l with
  | nil => simp [insertSlot]
  | cons s rest ih =>
      unfold insertSlot
      split_ifs
      · rw [List.mem_cons]
      · rw [List.mem_cons, ih, List.mem_cons]
        exact or_left_comm

theorem pairwise_insertSlot {slot : Nat} {suffix : List Char} {l : List (Nat × List Char)}
    (h : l.Pairwise (·.1 < ·.1)) (hnew : ∀ x ∈ l, slot ≠ x.1) :
    (insertSlot slot suffix l).Pairwise (·.1 < ·.1) := by
  induction l with
  | nil => simp [insertSlot]
  | cons s rest ih =>
      obtain ⟨hs, hrest⟩ := List.pairwise_cons.mp h
      unfold insertSlot
      split_ifs with hlt
      · refine List.pairwise_cons.mpr ⟨?_, h⟩
        intro x hx
        rcases List.mem_cons.mp hx with rfl | hx
        · exact hlt
        · exact hlt.trans (hs x hx)
      · refine List.pairwise_cons.mpr ⟨?_, ih hrest fun x hx => hnew x (List.mem_cons_of_mem _ hx)⟩
        intro x hx
        rcases mem_insertSlot.mp hx with rfl | hx
        · exact lt_of_le_of_ne (not_lt.mp hlt) (hnew s List.mem_cons_self).symm
        · exact hs x hx

theorem snd_eq_of_rising {l : List (Nat × List Char)} (h : l.Pairwise (·.1 < ·.1)) {slot : Nat}
    {suffix suffix' : List Char} (hmem : (slot, suffix) ∈ l) (hmem' : (slot, suffix') ∈ l) :
    suffix = suffix' := by
  have hnodup : (l.map (·.1)).Nodup := List.pairwise_map.mpr (h.imp ne_of_lt)
  exact (Prod.mk.inj (List.inj_on_of_nodup_map hnodup hmem hmem' rfl)).2

theorem Reads.legible {ps : List Piece} {scan : SlotScan} (h : Reads ps scan) : Legible ps := by
  refine ⟨h.slot, h.pronoun, ?_⟩
  intro slot suffix suffix' hnames hnames'
  exact snd_eq_of_rising h.rising ((h.mem_suffixes _ _).mpr hnames)
    ((h.mem_suffixes _ _).mpr hnames')

theorem reads_nil : Reads [] {} := by
  constructor <;> simp [Names, SpeaksOf]

/-! ## One more piece -/

theorem names_concat {ps : List Piece} {p : Piece} {slot : Nat} {suffix : List Char} :
    Names (ps ++ [p]) slot suffix ↔ Names ps slot suffix ∨
      ∃ number, p = .slot number suffix ∧ IsSlot (String.ofList number) slot := by
  simp only [Names, List.mem_append, List.mem_singleton, or_and_right, exists_or, eq_comm]

theorem speaksOf_concat {ps : List Piece} {p : Piece} {slot : Nat} :
    SpeaksOf (ps ++ [p]) slot ↔ SpeaksOf ps slot ∨ ∃ capital body number case,
      p = .pronoun capital body ∧ IsPronoun body number case ∧
        IsSlot (String.ofList number) slot := by
  simp only [SpeaksOf, List.mem_append, List.mem_singleton, or_and_right, exists_or, eq_comm]

theorem Event.IsSlot.unique {value : String} {slot slot' : Nat} (h : IsSlot value slot)
    (h' : IsSlot value slot') : slot = slot' := by
  have hread := (parseSlot_eq_ok_iff "slot").mpr h
  rw [(parseSlot_eq_ok_iff "slot").mpr h'] at hread
  exact (Except.ok.inj hread).symm

theorem IsPronoun.unique {body number number' : List Char} {case case' : Gender.Case}
    (h : IsPronoun body number case) (h' : IsPronoun body number' case') :
    number = number' ∧ case = case' := by
  have hread := readPronoun_eq_some_iff.mpr h
  rw [readPronoun_eq_some_iff.mpr h'] at hread
  obtain ⟨hnumber, hcase⟩ := Prod.mk.inj (Option.some.inj hread)
  exact ⟨hnumber.symm, hcase.symm⟩

variable {ps : List Piece} {p : Piece} {scan scan' : SlotScan}

theorem Reads.letter (h : Reads ps scan) (c : Char) : Reads (ps ++ [.letter c]) scan := by
  refine ⟨?_, ?_, h.rising, ?_, ?_⟩
  · intro number suffix hmem
    exact h.slot number suffix (by simpa using hmem)
  · intro capital body hmem
    exact h.pronoun capital body (by simpa using hmem)
  · intro slot suffix
    simp [names_concat, h.mem_suffixes]
  · intro slot
    simp [speaksOf_concat, h.mem_pronouns]

theorem Reads.pronoun_concat (h : Reads ps scan) {capital : Bool} {body number : List Char}
    {case : Gender.Case} {slot : Nat} (hbody : IsPronoun body number case)
    (hslot : IsSlot (String.ofList number) slot) :
    Reads (ps ++ [.pronoun capital body]) { scan with pronouns := scan.pronouns ++ [slot] } := by
  refine ⟨?_, ?_, h.rising, ?_, ?_⟩
  · intro number suffix hmem
    exact h.slot number suffix (by simpa using hmem)
  · intro capital' body' hmem
    rcases List.mem_append.mp hmem with hmem | hmem
    · exact h.pronoun capital' body' hmem
    · obtain ⟨-, rfl⟩ := Piece.pronoun.inj (List.mem_singleton.mp hmem)
      exact ⟨number, case, slot, hbody, hslot⟩
  · intro slot suffix
    simp [names_concat, h.mem_suffixes]
  · intro slot'
    rw [List.mem_append, List.mem_singleton, h.mem_pronouns, speaksOf_concat]
    refine or_congr_right ?_
    constructor
    · rintro rfl
      exact ⟨capital, body, number, case, rfl, hbody, hslot⟩
    · rintro ⟨_, _, number', case', heq, hbody', hslot'⟩
      obtain ⟨rfl, rfl⟩ := Piece.pronoun.inj heq
      obtain ⟨rfl, -⟩ := hbody.unique hbody'
      exact hslot'.unique hslot

theorem Reads.slot_concat (h : Reads ps scan) {number suffix : List Char} {slot : Nat}
    {suffixes : List (Nat × List Char)} (hslot : IsSlot (String.ofList number) slot)
    (hrising : suffixes.Pairwise (·.1 < ·.1))
    (hmem : ∀ x, x ∈ suffixes ↔ x = (slot, suffix) ∨ x ∈ scan.suffixes) :
    Reads (ps ++ [.slot number suffix]) { scan with suffixes } := by
  refine ⟨?_, ?_, hrising, ?_, ?_⟩
  · intro number' suffix' hmem
    rcases List.mem_append.mp hmem with hmem | hmem
    · exact h.slot number' suffix' hmem
    · obtain ⟨rfl, -⟩ := Piece.slot.inj (List.mem_singleton.mp hmem)
      exact ⟨slot, hslot⟩
  · intro capital body hmem
    exact h.pronoun capital body (by simpa using hmem)
  · intro slot' suffix'
    rw [hmem, h.mem_suffixes, names_concat, or_comm]
    refine or_congr_right ?_
    constructor
    · intro heq
      obtain ⟨rfl, rfl⟩ := Prod.mk.inj heq
      exact ⟨number, rfl, hslot⟩
    · rintro ⟨number', heq, hslot'⟩
      obtain ⟨rfl, rfl⟩ := Piece.slot.inj heq
      rw [hslot'.unique hslot]
  · intro slot'
    simp [speaksOf_concat, h.mem_pronouns]

theorem lookup_eq_some_iff_mem {l : List (Nat × List Char)} (h : l.Pairwise (·.1 < ·.1))
    {slot : Nat} {suffix : List Char} : l.lookup slot = some suffix ↔ (slot, suffix) ∈ l := by
  constructor
  · intro hlookup
    obtain ⟨before, after, rfl, -⟩ := List.lookup_eq_some_iff.mp hlookup
    simp
  · intro hmem
    cases hlookup : l.lookup slot with
    | none =>
        have hnone := List.lookup_eq_none_iff.mp hlookup _ hmem
        simp at hnone
    | some suffix' =>
        obtain ⟨before, after, rfl, -⟩ := List.lookup_eq_some_iff.mp hlookup
        exact congrArg some (snd_eq_of_rising h (by simp) hmem)

theorem Reads.add (h : Reads ps scan) (hadd : scan.add p = .ok scan') :
    Reads (ps ++ [p]) scan' := by
  unfold SlotScan.add at hadd
  cases p with
  | letter c =>
      obtain rfl := Except.ok.inj hadd
      exact h.letter c
  | slot number suffix =>
      dsimp only at hadd
      split at hadd
      · cases hadd
      · next slot hslot =>
        have hslot := (parseSlot_eq_ok_iff "slot").mp hslot
        split at hadd
        · next hnew =>
          obtain rfl := Except.ok.inj hadd
          refine h.slot_concat hslot (pairwise_insertSlot h.rising ?_) fun _ => mem_insertSlot
          intro x hx
          simpa using List.lookup_eq_none_iff.mp hnew x hx
        · next other hother =>
          split_ifs at hadd with heq
          obtain rfl := Except.ok.inj hadd
          subst heq
          refine h.slot_concat hslot h.rising ?_
          intro x
          have hold := (lookup_eq_some_iff_mem h.rising).mp hother
          exact ⟨.inr, fun hx => hx.elim (fun heq => heq ▸ hold) id⟩
  | pronoun capital body =>
      dsimp only at hadd
      split at hadd
      · cases hadd
      · next number case hbody =>
        obtain ⟨slot, hslot, rfl⟩ := map_eq_ok.mp hadd
        exact h.pronoun_concat (readPronoun_eq_some_iff.mp hbody)
          ((parseSlot_eq_ok_iff "pronoun").mp hslot)

theorem Reads.exists_add (h : Reads ps scan) (hlegible : Legible (ps ++ [p])) :
    ∃ scan', scan.add p = .ok scan' := by
  unfold SlotScan.add
  cases p with
  | letter c => exact ⟨scan, rfl⟩
  | slot number suffix =>
      obtain ⟨slot, hslot⟩ := hlegible.slot number suffix (by simp)
      have hread := (parseSlot_eq_ok_iff "slot").mpr hslot
      simp only [hread]
      cases hlookup : scan.suffixes.lookup slot with
      | none => exact ⟨_, rfl⟩
      | some other =>
          have hother := (h.mem_suffixes _ _).mp ((lookup_eq_some_iff_mem h.rising).mp hlookup)
          have hsame : other = suffix :=
            hlegible.suffix_eq slot _ _ (names_concat.mpr (.inl hother))
              (names_concat.mpr (.inr ⟨number, rfl, hslot⟩))
          exact ⟨scan, by simp only [hsame, ↓reduceIte]⟩
  | pronoun capital body =>
      obtain ⟨number, case, slot, hbody, hslot⟩ := hlegible.pronoun capital body (by simp)
      have hread := (parseSlot_eq_ok_iff "pronoun").mpr hslot
      simp only [readPronoun_eq_some_iff.mpr hbody, hread]
      exact ⟨_, rfl⟩

/-! ## All pieces -/

theorem Reads.addAll {more : List Piece} (h : Reads ps scan) (hadd : scan.addAll more = .ok scan') :
    Reads (ps ++ more) scan' := by
  induction more generalizing ps scan with
  | nil =>
      obtain rfl := Except.ok.inj hadd
      rwa [List.append_nil]
  | cons p more ih =>
      rw [SlotScan.addAll] at hadd
      cases hfirst : scan.add p with
      | error e => simp [hfirst] at hadd
      | ok scan₁ =>
          rw [hfirst] at hadd
          have hmore := ih (h.add hfirst) hadd
          rwa [List.append_assoc, List.singleton_append] at hmore

theorem Reads.exists_addAll {more : List Piece} (h : Reads ps scan)
    (hlegible : Legible (ps ++ more)) : ∃ scan', scan.addAll more = .ok scan' := by
  induction more generalizing ps scan with
  | nil => exact ⟨scan, rfl⟩
  | cons p more ih =>
      have happend : ps ++ p :: more = ps ++ [p] ++ more := by simp
      rw [happend] at hlegible
      obtain ⟨scan₁, hfirst⟩ := h.exists_add
        (hlegible.mono fun q hq => List.mem_append_left more hq)
      obtain ⟨scan', hrest⟩ := ih (h.add hfirst) hlegible
      exact ⟨scan', by rw [SlotScan.addAll, hfirst]; exact hrest⟩

theorem reads_of_addAll (h : ({} : SlotScan).addAll ps = .ok scan) : Reads ps scan :=
  reads_nil.addAll h

theorem exists_addAll_iff : (∃ scan, ({} : SlotScan).addAll ps = .ok scan) ↔ Legible ps := by
  constructor
  · rintro ⟨scan, h⟩
    exact (reads_of_addAll h).legible
  · exact reads_nil.exists_addAll

end Tournament
