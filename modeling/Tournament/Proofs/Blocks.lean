import Tournament.Spec.Item
import Mathlib.Data.List.Basic

/-!
# Blocks of lines

The lines of a spec, none of which is blank, fall into blocks from left to right: two lines that
belong together, or one by itself (`Splits`).  A block knows the section that it is in, which is that
of the last header before it.  No line is lost or counted twice, and the items of a spec are those of
its blocks (`exists_splits`).
-/

namespace Tournament.Spec

/-! ## Lines -/

/-- The lines of a spec are those lines of its text that are not blank, trimmed and with plain
quotation marks, each with its number counted from 1. -/
theorem lines_eq_filterMap (input : String) :
    lines input = ((Text.splitBy (· = '\n') input.toList).zipIdx 1).filterMap fun raw =>
      if normalize raw.1 = [] then none else some ⟨raw.2, normalize raw.1⟩ := by
  unfold lines
  generalize Text.splitBy (· = '\n') input.toList = raws
  generalize 1 = n
  induction raws generalizing n with
  | nil => rfl
  | cons raw raws ih =>
      rw [numberFrom, List.zipIdx_cons, List.filterMap_cons, ← ih]
      cases normalize raw <;> rfl

/-! ## Blocks -/

structure Block where
  inside : Section
  first : Line
  second : Option Line

def Block.lines (b : Block) : List Line :=
  b.first :: b.second.toList

/-- A line takes the next one with it: it is a quoted line in a section of players, events or
arenas, and the next line is neither a header nor a comment. -/
structure Paired (s : Section) (text next : List Char) : Prop where
  hasEntries : s.hasEntries = true
  quoted : (quotedText? text).isSome = true
  not_header : headerName? next = none
  not_comment : isComment next = false

/-- `Splits s ls blocks`: from a place in the section `s` on, the lines fall into these blocks. -/
inductive Splits : Section → List Line → List Block → Prop where
  | nil (s : Section) : Splits s [] []
  | pair {s : Section} {first second : Line} {rest : List Line} {blocks : List Block}
      (hpair : Paired s first.text second.text) (hrest : Splits s rest blocks) :
      Splits s (first :: second :: rest) (⟨s, first, some second⟩ :: blocks)
  | single {s : Section} {first : Line} {rest : List Line} {blocks : List Block}
      (hsingle : ∀ next ∈ rest.head?, ¬ Paired s first.text next.text)
      (hrest : Splits (s.after first.text) rest blocks) :
      Splits s (first :: rest) (⟨s, first, none⟩ :: blocks)

def Block.item (b : Block) : Item :=
  match b.second with
  | some next => entry b.inside ((quotedText? b.first.text).getD []) next.text
  | none => single b.inside b.first.text

theorem pairedQuote?_eq_some {s : Section} {text next quotedText : List Char} :
    pairedQuote? s text next = some quotedText ↔
      Paired s text next ∧ quotedText? text = some quotedText := by
  unfold pairedQuote?
  constructor
  · intro h
    split_ifs at h with hguard
    obtain ⟨hentries, hheader, hcomment⟩ := hguard
    exact ⟨⟨hentries, by rw [h]; rfl, by simpa using hheader, by simpa using hcomment⟩, h⟩
  · rintro ⟨⟨hentries, -, hheader, hcomment⟩, h⟩
    rw [if_pos ⟨hentries, by simpa using hheader, by simpa using hcomment⟩, h]

theorem pairedQuote?_eq_none {s : Section} {text next : List Char} :
    pairedQuote? s text next = none ↔ ¬ Paired s text next := by
  constructor
  · intro h hpair
    obtain ⟨quotedText, hquoted⟩ := Option.isSome_iff_exists.mp hpair.quoted
    rw [pairedQuote?_eq_some.mpr ⟨hpair, hquoted⟩] at h
    cases h
  · intro h
    rw [Option.eq_none_iff_forall_not_mem]
    intro quotedText hquoted
    exact h (pairedQuote?_eq_some.mp hquoted).1

/-- Lines can be split into blocks in one way, and the items are those of the blocks. -/
theorem exists_splits (s : Section) (ls : List Line) :
    ∃ blocks, Splits s ls blocks ∧
      itemsFrom s ls = blocks.map fun b => ⟨b.first.number, b.item⟩ := by
  fun_induction itemsFrom s ls with
  | case1 s => exact ⟨[], .nil s, rfl⟩
  | case2 s l => exact ⟨[⟨s, l, none⟩], .single (by simp) (.nil _), rfl⟩
  | case3 s l next rest text htext ih =>
      obtain ⟨blocks, hsplits, hitems⟩ := ih
      obtain ⟨hpair, hquoted⟩ := pairedQuote?_eq_some.mp htext
      refine ⟨⟨s, l, some next⟩ :: blocks, .pair hpair hsplits, ?_⟩
      rw [hitems, List.map_cons, Block.item, hquoted]
      rfl
  | case4 s l next rest htext ih =>
      obtain ⟨blocks, hsplits, hitems⟩ := ih
      refine ⟨⟨s, l, none⟩ :: blocks, .single ?_ hsplits, by rw [hitems]; rfl⟩
      rintro _ ⟨⟩
      exact pairedQuote?_eq_none.mp htext

namespace Splits

variable {s : Section} {ls : List Line} {blocks : List Block}

theorem flatMap_lines (h : Splits s ls blocks) : blocks.flatMap Block.lines = ls := by
  induction h with
  | nil => rfl
  | pair hpair _ ih => rw [List.flatMap_cons, ih]; rfl
  | single hsingle _ ih => rw [List.flatMap_cons, ih]; rfl

theorem unique {blocks' : List Block} (h : Splits s ls blocks) (h' : Splits s ls blocks') :
    blocks = blocks' := by
  induction h generalizing blocks' with
  | nil => cases h'; rfl
  | pair hpair _ ih =>
      cases h' with
      | pair _ hrest => rw [ih hrest]
      | single hsingle => exact absurd hpair (hsingle _ rfl)
  | single hsingle _ ih =>
      cases h' with
      | pair hpair => exact absurd hpair (hsingle _ rfl)
      | single _ hrest => rw [ih hrest]

theorem paired (h : Splits s ls blocks) :
    ∀ b ∈ blocks, ∀ next ∈ b.second, Paired b.inside b.first.text next.text := by
  induction h with
  | nil => simp
  | pair hpair _ ih => simpa using ⟨hpair, ih⟩
  | single hsingle _ ih => simpa using ih

end Splits

/-! ## Sections -/

theorem named_ne_arena (name : List Char) : Section.named name ≠ .events .arena := by
  unfold Section.named
  split
  · simp
  · simp
  · simp
  · split
    · rename_i kind hkind
      have hpooled : kind ∈ RoundKind.pooled := List.mem_of_find?_eq_some hkind
      rintro ⟨⟩
      exact absurd hpooled (by decide)
    · simp

/-- The events of arena rounds belong to the arenas: they have no section of their own. -/
theorem Splits.inside_ne_arena {s : Section} {ls : List Line} {blocks : List Block}
    (h : Splits s ls blocks) (hs : s ≠ .events .arena) :
    ∀ b ∈ blocks, b.inside ≠ .events .arena := by
  induction h with
  | nil => simp
  | pair hpair _ ih => simpa using ⟨hs, ih hs⟩
  | @single s first rest blocks hsingle _ ih =>
      have hafter : s.after first.text ≠ .events .arena := by
        unfold Section.after
        split_ifs
        · exact hs
        · split
          · exact named_ne_arena _
          · exact hs
      simpa using ⟨hs, ih hafter⟩

end Tournament.Spec
