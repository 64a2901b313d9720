import Tournament.Proofs.LengthNumbers
import Mathlib.Tactic.Common

/-!
# The grammar of lengths

A length is written as parts, each a number, blanks, a unit and blanks, where the number and the
unit reach as far as they can.  What a sequence of parts is (`Composed`), and in which units they
may be (`knownUnits`), can be said without the reader.  The parts of a text are determined by the
text, and the reader finds them.
-/

namespace Tournament

/-! ## Units -/

/-- The units that a length may be written in: one of each in metres, and its names in lower case.
A number that no name follows counts metres. -/
def knownUnits : List (Float × List String) :=
  [(1.0, ["", "m", "meter", "meters", "metre", "metres"]),
    (0.001, ["mm", "millimeter", "millimeters", "millimetre", "millimetres"]),
    (0.01, ["cm", "centimeter", "centimeters", "centimetre", "centimetres"]),
    (1000.0, ["km", "kilometer", "kilometers", "kilometre", "kilometres"]),
    (0.0254, ["in", "inch", "inches", "\""]), (0.3048, ["ft", "foot", "feet", "\x27"]),
    (0.9144, ["yd", "yard", "yards"]), (1609.344, ["mi", "mile", "miles"])]

/-- The characters name a unit of so many metres, whatever the case of the letters `A` to `Z`. -/
def NamesUnit (name : List Char) (factor : Float) : Prop :=
  ∃ names, (factor, names) ∈ knownUnits ∧ String.ofList (name.map Char.toLower) ∈ names

namespace LengthUnit

theorem mem_all (u : LengthUnit) : u ∈ all := by
  cases u <;> decide

theorem eq_of_mem_names {u v : LengthUnit} {name : String} (hu : name ∈ u.names)
    (hv : name ∈ v.names) : u = v := by
  have hall : ∀ u ∈ all, ∀ v ∈ all, ∀ name ∈ u.names, name ∈ v.names → u = v := by decide
  exact hall u (mem_all u) v (mem_all v) name hu hv

theorem named?_eq_some_iff {name : List Char} {u : LengthUnit} :
    named? name = some u ↔ String.ofList (Text.lowerAscii name) ∈ u.names := by
  constructor
  · intro h
    simpa using List.find?_some h
  · intro h
    have hfound : (named? name).isSome = true :=
      List.find?_isSome.mpr ⟨u, mem_all u, by simpa using h⟩
    obtain ⟨v, hv⟩ := Option.isSome_iff_exists.mp hfound
    have hv' : String.ofList (Text.lowerAscii name) ∈ v.names := by simpa using List.find?_some hv
    rw [hv, eq_of_mem_names h hv']

theorem knownUnits_eq : knownUnits = all.map fun u => (u.metres, u.names) :=
  rfl

theorem namesUnit_iff {name : List Char} {factor : Float} :
    NamesUnit name factor ↔ ∃ u, named? name = some u ∧ u.metres = factor := by
  unfold NamesUnit
  rw [knownUnits_eq]
  constructor
  · rintro ⟨names, hknown, hname⟩
    obtain ⟨u, -, hu⟩ := List.mem_map.mp hknown
    obtain ⟨rfl, rfl⟩ := Prod.mk.inj hu
    exact ⟨u, named?_eq_some_iff.mpr hname, rfl⟩
  · rintro ⟨u, hu, rfl⟩
    exact ⟨u.names, List.mem_map.mpr ⟨u, mem_all u, rfl⟩, named?_eq_some_iff.mp hu⟩

end LengthUnit

theorem NamesUnit.unique {name : List Char} {factor factor' : Float} (h : NamesUnit name factor)
    (h' : NamesUnit name factor') : factor = factor' := by
  obtain ⟨u, hu, rfl⟩ := LengthUnit.namesUnit_iff.mp h
  obtain ⟨v, hv, rfl⟩ := LengthUnit.namesUnit_iff.mp h'
  rw [Option.some.inj (hu.symm.trans hv)]

namespace Length

open Text (isBlank isLetter)

/-- A part as it is written: the characters of its number and of its unit, one such unit in metres,
and all its characters. -/
@[ext]
structure Segment where
  number : List Char
  name : List Char
  factor : Float
  text : List Char

/-- The characters of the name of a unit: letters and quotation marks. -/
def IsNameSign (c : Char) : Prop :=
  isLetter c = true ∨ c = '\x27' ∨ c = '"'

/-- A segment is a part where `rest` follows it: a number, the name of its unit in any case, and
blanks after both.  Neither the number nor the name could be longer. -/
structure Segment.Stands (p : Segment) (rest : List Char) : Prop where
  written : IsNumber p.number
  signs : ∀ c ∈ p.name, IsNameSign c
  named : NamesUnit p.name p.factor
  spaced : ∃ gap after, p.text = p.number ++ gap ++ p.name ++ after ∧
    (∀ c ∈ gap, isBlank c = true) ∧ (∀ c ∈ after, isBlank c = true) ∧
    (∀ c ∈ (gap ++ p.name ++ after ++ rest).head?, ¬ (c.isDigit = true ∨ c = '.')) ∧
    ∀ c ∈ (after ++ rest).head?, ¬ IsNameSign c

/-- A text put together from parts. -/
inductive Composed : List Char → List Segment → Prop where
  | nil : Composed [] []
  | cons {p : Segment} {rest : List Char} {ps : List Segment} (hp : p.Stands rest)
      (hrest : Composed rest ps) : Composed (p.text ++ rest) (p :: ps)

def Segment.metres (p : Segment) : Float :=
  numberOf p.number * p.factor

/-- Each number times its unit in metres, added up from left to right. -/
def sum (ps : List Segment) : Float :=
  ps.foldl (fun sum p => sum + p.metres) 0.0

theorem total_eq_sum {parts : List Part} {ps : List Segment}
    (h : parts.map Part.metres = ps.map Segment.metres) : total parts = sum ps := by
  have hparts : total parts = (parts.map Part.metres).foldl (· + ·) 0.0 := List.foldl_map.symm
  have hps : sum ps = (ps.map Segment.metres).foldl (· + ·) 0.0 := List.foldl_map.symm
  rw [hparts, hps, h]

/-! ## Kinds of characters -/

theorem isUnitSign_iff {c : Char} : isUnitSign c = true ↔ IsNameSign c := by
  simp [isUnitSign, IsNameSign, or_assoc]

theorem isUnitSign_eq_false_iff {c : Char} : isUnitSign c = false ↔ ¬ IsNameSign c := by
  rw [← isUnitSign_iff, Bool.not_eq_true]

theorem isNumeral_eq_false_iff {c : Char} :
    isNumeral c = false ↔ ¬ (c.isDigit = true ∨ c = '.') := by
  rw [← isNumeral_iff, Bool.not_eq_true]

theorem isBlank_of_isUnitSign {c : Char} (h : isUnitSign c = true) : isBlank c = false := by
  obtain h | rfl | rfl := isUnitSign_iff.mp h
  · exact Text.isBlank_eq_false_of_isLetter h
  · rfl
  · rfl

theorem isBlank_of_isNumeral {c : Char} (h : isNumeral c = true) : isBlank c = false := by
  obtain h | rfl := isNumeral_iff.mp h
  · exact Text.isBlank_eq_false_of_isAnyDigit (by simp [Text.isAnyDigit, h])
  · rfl

theorem isUnitSign_of_isNumeral {c : Char} (h : isNumeral c = true) : isUnitSign c = false := by
  obtain h | rfl := isNumeral_iff.mp h
  · have hbounds : 0x30 ≤ c.toNat ∧ c.toNat ≤ 0x39 := Char.isDigit_iff_toNat.mp h
    have hdigit : Text.inRanges [(0x30, 0x39)] c = true := by simpa [Text.inRanges] using hbounds
    have hletter : Text.inRanges Text.letterRanges c = false :=
      Text.inRanges_disjoint (by decide +kernel) hdigit
    rw [Bool.eq_false_iff, ne_eq, isUnitSign_iff]
    rintro (h | rfl | rfl)
    · rw [Text.inRanges_of_isLetter h] at hletter
      cases hletter
    · cases hdigit
    · cases hdigit
  · rfl

/-! ## One part -/

/-- What follows the number of the first part and the blanks after it. -/
def afterNumber (cs : List Char) : List Char :=
  Text.trimStart (cs.dropWhile isNumeral)

def afterPart (cs : List Char) : List Char :=
  Text.trimStart ((afterNumber cs).dropWhile isUnitSign)

theorem readPart_eq_ok_iff {cs rest : List Char} {part : Part} :
    readPart cs = .ok (part, rest) ↔
      IsNumber (cs.takeWhile isNumeral) ∧
        part.number = numberOf (cs.takeWhile isNumeral) ∧
        LengthUnit.named? ((afterNumber cs).takeWhile isUnitSign) = some part.unit ∧
        rest = afterPart cs := by
  have hnumerals : ∀ c ∈ cs.takeWhile isNumeral, isNumeral c = true := fun c hc =>
    List.mem_takeWhile_imp hc
  rw [← and_assoc, ← readFloat_eq_some_iff hnumerals]
  have hempty : Number.readFloat [] = none := by decide
  simp only [readPart, afterPart, afterNumber]
  split_ifs with hnil
  · simp [hnil, hempty]
  · cases Number.readFloat (cs.takeWhile isNumeral) with
    | none => simp
    | some number =>
        cases LengthUnit.named?
            ((Text.trimStart (cs.dropWhile isNumeral)).takeWhile isUnitSign) with
        | none => simp
        | some unit =>
            obtain ⟨number', unit'⟩ := part
            simp [eq_comm, and_assoc]

/-! ## A part that stands in a text -/

section

variable {p : Segment} {cs rest : List Char}

theorem Segment.Stands.exists_cons (h : p.Stands rest) :
    ∃ c cs, p.text = c :: cs ∧ isNumeral c = true := by
  obtain ⟨gap, after, htext, -⟩ := h.spaced
  obtain ⟨hsigns, ⟨d, hd, -⟩, -⟩ := h.written
  cases hnumber : p.number with
  | nil =>
      rw [hnumber] at hd
      cases hd
  | cons c number =>
      rw [hnumber] at htext hsigns
      exact ⟨c, _, htext, isNumeral_iff.mpr (hsigns c List.mem_cons_self)⟩

/-- Nothing is taken for a part's own that belongs to the next one, since no part begins with a
blank or with a sign of a unit. -/
theorem Segment.Stands.reads (h : p.Stands rest) (hrest : ∀ c ∈ rest.head?, isNumeral c = true) :
    (p.text ++ rest).takeWhile isNumeral = p.number ∧
      (afterNumber (p.text ++ rest)).takeWhile isUnitSign = p.name ∧
      afterPart (p.text ++ rest) = rest := by
  obtain ⟨gap, after, htext, hgap, hafter, hnumber, hname⟩ := h.spaced
  have hblank : ∀ c ∈ rest.head?, isBlank c = false := fun c hc => isBlank_of_isNumeral (hrest c hc)
  have hsign : ∀ c ∈ rest.head?, isUnitSign c = false :=
    fun c hc => isUnitSign_of_isNumeral (hrest c hc)
  have hnumerals : ∀ c ∈ p.number, isNumeral c = true :=
    fun c hc => isNumeral_iff.mpr (h.written.1 c hc)
  have hsigns : ∀ c ∈ p.name, isUnitSign c = true :=
    fun c hc => isUnitSign_iff.mpr (h.signs c hc)
  have hcut := Text.takeWhile_dropWhile_append hnumerals
    fun c hc => isNumeral_eq_false_iff.mpr (hnumber c hc)
  have hsplit : p.text ++ rest = p.number ++ (gap ++ p.name ++ after ++ rest) := by
    simp [htext]
  rw [afterPart, afterNumber, hsplit, hcut.1, hcut.2]
  refine ⟨rfl, ?_⟩
  cases hcons : p.name with
  | nil =>
      have hblanks : ∀ c ∈ gap ++ after, isBlank c = true :=
        List.forall_mem_append.mpr ⟨hgap, hafter⟩
      have hstart : Text.trimStart (gap ++ [] ++ after ++ rest) = rest := by
        rw [List.append_nil]
        exact (Text.takeWhile_dropWhile_append hblanks hblank).2
      have hnone := Text.takeWhile_dropWhile_eq_self hsign
      rw [hstart, hnone.1, hnone.2]
      exact ⟨rfl, (Text.takeWhile_dropWhile_eq_self hblank).2⟩
  | cons c name =>
      have hletter : ∀ d ∈ (p.name ++ (after ++ rest)).head?, isBlank d = false := by
        rw [hcons]
        rintro d ⟨⟩
        exact isBlank_of_isUnitSign (hsigns _ (by simp [hcons]))
      have hstart :
          Text.trimStart (gap ++ p.name ++ after ++ rest) = p.name ++ (after ++ rest) := by
        rw [List.append_assoc, List.append_assoc]
        exact (Text.takeWhile_dropWhile_append hgap hletter).2
      have hcut := Text.takeWhile_dropWhile_append hsigns
        fun c hc => isUnitSign_eq_false_iff.mpr (hname c hc)
      rw [← hcons, hstart, hcut.1, hcut.2]
      exact ⟨rfl, (Text.takeWhile_dropWhile_append hafter hblank).2⟩

theorem exists_stands {part : Part} (h : readPart cs = .ok (part, rest)) :
    ∃ p : Segment, p.Stands rest ∧ p.text ++ rest = cs ∧ p.metres = part.metres := by
  obtain ⟨hnumber, hvalue, hnamed, rfl⟩ := readPart_eq_ok_iff.mp h
  let afterName := (afterNumber cs).dropWhile isUnitSign
  let gap := (cs.dropWhile isNumeral).takeWhile isBlank
  let name := (afterNumber cs).takeWhile isUnitSign
  let after := afterName.takeWhile isBlank
  have hgap : gap ++ afterNumber cs = cs.dropWhile isNumeral := List.takeWhile_append_dropWhile
  have hname : name ++ afterName = afterNumber cs := List.takeWhile_append_dropWhile
  have hafter : after ++ afterPart cs = afterName := List.takeWhile_append_dropWhile
  have hrest : gap ++ name ++ after ++ afterPart cs = cs.dropWhile isNumeral := by
    rw [List.append_assoc, hafter, List.append_assoc, hname, hgap]
  have hstands : Segment.Stands ⟨cs.takeWhile isNumeral, name, part.unit.metres,
      cs.takeWhile isNumeral ++ gap ++ name ++ after⟩ (afterPart cs) := by
    refine ⟨hnumber, fun c hc => isUnitSign_iff.mp (List.mem_takeWhile_imp hc),
      LengthUnit.namesUnit_iff.mpr ⟨_, hnamed, rfl⟩, gap, after, rfl,
      fun c hc => List.mem_takeWhile_imp hc, fun c hc => List.mem_takeWhile_imp hc, ?_, ?_⟩
    · rw [hrest]
      exact fun c hc => isNumeral_eq_false_iff.mp (Text.eq_false_of_head?_dropWhile c hc)
    · rw [hafter]
      exact fun c hc => isUnitSign_eq_false_iff.mp (Text.eq_false_of_head?_dropWhile c hc)
  refine ⟨_, hstands, ?_, congrArg (· * part.unit.metres) hvalue.symm⟩
  calc cs.takeWhile isNumeral ++ gap ++ name ++ after ++ afterPart cs
      = cs.takeWhile isNumeral ++ (gap ++ name ++ after ++ afterPart cs) := by simp
    _ = cs := by rw [hrest, List.takeWhile_append_dropWhile]

end

/-! ## The parts of a text -/

theorem Composed.head {cs : List Char} {ps : List Segment} (h : Composed cs ps) :
    ∀ c ∈ cs.head?, isNumeral c = true := by
  cases h with
  | nil => simp
  | cons hp _ =>
      obtain ⟨c, cs, htext, hc⟩ := hp.exists_cons
      rw [htext]
      rintro _ ⟨⟩
      exact hc

theorem readParts_eq_ok_iff {cs : List Char} {parts : List Part} :
    readParts cs = .ok parts ↔
      cs = [] ∧ parts = [] ∨
        cs ≠ [] ∧ ∃ part rest more, readPart cs = .ok (part, rest) ∧
          readParts rest = .ok more ∧ parts = part :: more := by
  rw [readParts]
  split_ifs with hnil
  · simp [hnil, eq_comm]
  · split
    · next heq => simp [heq, hnil]
    · next part rest heq =>
      cases hrest : readParts rest with
      | error flaw => simp [heq, hnil, hrest]
      | ok more => simp [heq, hnil, hrest, eq_comm]

theorem Composed.exists_parts {cs : List Char} {ps : List Segment} (h : Composed cs ps) :
    ∃ parts, readParts cs = .ok parts ∧ parts.map Part.metres = ps.map Segment.metres := by
  induction h with
  | nil => exact ⟨[], readParts_eq_ok_iff.mpr (.inl ⟨rfl, rfl⟩), rfl⟩
  | @cons p rest ps hp hrest ih =>
      obtain ⟨c, cs, htext, -⟩ := hp.exists_cons
      obtain ⟨hnumber, hname, hafter⟩ := hp.reads hrest.head
      obtain ⟨u, hu, hfactor⟩ := LengthUnit.namesUnit_iff.mp hp.named
      have hpart : readPart (p.text ++ rest) = .ok (⟨numberOf p.number, u⟩, rest) :=
        readPart_eq_ok_iff.mpr
          ⟨hnumber.symm ▸ hp.written, hnumber.symm ▸ rfl, hname.symm ▸ hu, hafter.symm⟩
      obtain ⟨parts, hparts, hmetres⟩ := ih
      refine ⟨⟨numberOf p.number, u⟩ :: parts, readParts_eq_ok_iff.mpr
        (.inr ⟨by simp [htext], _, rest, parts, hpart, hparts, rfl⟩), ?_⟩
      rw [List.map_cons, List.map_cons, hmetres, Part.metres, Segment.metres, hfactor]

/-- The characters of the first part and its unit are determined by what follows it, and that is
determined by the text. -/
theorem Composed.unique {cs : List Char} {ps qs : List Segment} (hp : Composed cs ps)
    (hq : Composed cs qs) : ps = qs := by
  induction hp generalizing qs with
  | nil =>
      generalize hcs : ([] : List Char) = cs at hq
      cases hq with
      | nil => rfl
      | cons hq _ =>
          obtain ⟨c, text, htext, -⟩ := hq.exists_cons
          simp [htext] at hcs
  | @cons p rest ps hp hrest ih =>
      generalize hcs : p.text ++ rest = cs at hq
      cases hq with
      | nil =>
          obtain ⟨c, text, htext, -⟩ := hp.exists_cons
          simp [htext] at hcs
      | @cons q rest' qs hq hrest' =>
          obtain ⟨hnumber, hname, hafter⟩ := hp.reads hrest.head
          obtain ⟨hnumber', hname', hafter'⟩ := hq.reads hrest'.head
          rw [hcs] at hnumber hname hafter
          obtain rfl : rest = rest' := hafter.symm.trans hafter'
          have htext : p.text = q.text := List.append_cancel_right hcs
          have hfactor : p.factor = q.factor :=
            hp.named.unique (hname.symm.trans hname' ▸ hq.named)
          obtain rfl : p = q :=
            Segment.ext (hnumber.symm.trans hnumber') (hname.symm.trans hname') hfactor htext
          rw [ih hrest']

theorem exists_composed {cs : List Char} {parts : List Part} (h : readParts cs = .ok parts) :
    ∃ ps, Composed cs ps ∧ parts.map Part.metres = ps.map Segment.metres := by
  induction parts generalizing cs with
  | nil =>
      obtain ⟨rfl, -⟩ | ⟨-, part, rest, more, -, -, hparts⟩ := readParts_eq_ok_iff.mp h
      · exact ⟨[], .nil, rfl⟩
      · cases hparts
  | cons part parts ih =>
      obtain ⟨-, hparts⟩ | ⟨-, part, rest, more, hpart, hrest, hparts⟩ := readParts_eq_ok_iff.mp h
      · cases hparts
      · obtain ⟨rfl, rfl⟩ := List.cons.inj hparts
        obtain ⟨p, hp, rfl, hmetres⟩ := exists_stands hpart
        obtain ⟨ps, hps, hmore⟩ := ih hrest
        exact ⟨p :: ps, .cons hp hps, by rw [List.map_cons, List.map_cons, hmetres, hmore]⟩

theorem read_eq_ok_iff {s : String} {l : Length} :
    read s = .ok l ↔
      ∃ ps, ps ≠ [] ∧ Composed (Text.trim s.toList) ps ∧ (sum ps).isFinite = true ∧
        l = ⟨sum ps⟩ := by
  rw [read]
  split
  · next hnil =>
    rw [hnil]
    simp only [reduceCtorEq, false_iff]
    rintro ⟨ps, hne, hps, -⟩
    exact hne (hps.unique .nil)
  · next hcs =>
    generalize Text.trim s.toList = cs at hcs ⊢
    constructor
    · intro h
      cases hparts : readParts cs with
      | error flaw =>
          rw [hparts] at h
          cases h
      | ok parts =>
          obtain ⟨ps, hps, hmetres⟩ := exists_composed hparts
          simp only [hparts, total_eq_sum hmetres] at h
          split_ifs at h with hfinite
          cases h
          refine ⟨ps, ?_, hps, hfinite, rfl⟩
          rintro rfl
          cases hps
          exact hcs rfl
    · rintro ⟨ps, -, hps, hfinite, rfl⟩
      obtain ⟨parts, hparts, hmetres⟩ := hps.exists_parts
      simp only [hparts, total_eq_sum hmetres, if_pos hfinite]

theorem Composed.exists_stands {cs : List Char} {ps : List Segment} (h : Composed cs ps) :
    ∀ p ∈ ps, ∃ rest, p.Stands rest := by
  induction h with
  | nil => simp
  | cons hp _ ih => exact List.forall_mem_cons.mpr ⟨⟨_, hp⟩, ih⟩

/-- The texts of lengths.  The parts of a text are its own, a part without the name of a unit
counts metres, and there is a length just where the parts have a finite sum. -/
theorem parse_eq_ok_iff_composed (s : String) :
    (∀ ps qs, Composed (Text.trim s.toList) ps → Composed (Text.trim s.toList) qs → ps = qs) ∧
      (∀ ps, Composed (Text.trim s.toList) ps → ∀ p ∈ ps, p.name = [] → p.factor = 1.0) ∧
      ∀ l, parse s = .ok l ↔
        ∃ ps, ps ≠ [] ∧ Composed (Text.trim s.toList) ps ∧ (sum ps).isFinite = true ∧
          l = ⟨sum ps⟩ := by
  refine ⟨fun ps qs hps hqs => hps.unique hqs, fun ps hps p hp hname => ?_, fun l => ?_⟩
  · obtain ⟨rest, hstands⟩ := hps.exists_stands p hp
    have hnamed := hstands.named
    rw [hname] at hnamed
    exact hnamed.unique ⟨_, List.mem_cons_self, List.mem_cons_self⟩
  · rw [← read_eq_ok_iff, parse]
    cases read s <;> simp

def feetReadings : List (String × Float) :=
  [("5ft 3in", 5.0 * 0.3048 + 3.0 * 0.0254), ("5\x2710\"", 5.0 * 0.3048 + 10.0 * 0.0254),
    (" 3 FEET", 3.0 * 0.3048), ("2", 2.0)]

/-- Parts may be apart or not, the name of a unit in capital letters, and a number by itself. -/
theorem parse_feet : ∀ r ∈ feetReadings, parse r.1 = .ok ⟨r.2⟩ ∧
    ∃ ps, ps ≠ [] ∧ Composed (Text.trim r.1.toList) ps ∧ sum ps = r.2 := by
  have hparse : ∀ r ∈ feetReadings, (parse r.1).toOption.any (· = ⟨r.2⟩) = true := by
    decide +kernel
  intro r hr
  obtain ⟨l, hl, hmetres⟩ := exists_of_any (hparse r hr)
  obtain rfl := of_decide_eq_true hmetres
  obtain ⟨ps, hne, hps, -, hsum⟩ := ((parse_eq_ok_iff_composed r.1).2.2 _).mp hl
  exact ⟨hl, ps, hne, hps, congrArg Length.metres hsum.symm⟩

end Length

end Tournament
