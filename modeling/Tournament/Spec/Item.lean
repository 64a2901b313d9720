import Tournament.Spec.Line

/-!
# The items of a spec

The lines of a spec fall into items: a quoted line with the metadata line after it is one item in
a section with entries, and every other line is one by itself.
-/

namespace Tournament.Spec

inductive Item where
  | comment
  | header (name : List Char)
  | rules (text : List Char)
  | player (name metadata : List Char)
  | event (kind : RoundKind) (text metadata : List Char)
  | arenaEvent (text metadata : List Char)
  | arenaOpening (text : List Char)
  | unpairedQuote (text : List Char)
  /-- An unquoted line where a quoted one is due. -/
  | unquoted (text : List Char)
  | outside (text : List Char)
  | ignored
  deriving DecidableEq, Repr

structure Numbered where
  line : Nat
  item : Item
  deriving DecidableEq, Repr

def single (s : Section) (text : List Char) : Item :=
  if isComment text then .comment
  else
    match headerName? text with
    | some name => .header name
    | none =>
      match s with
      | .rules => .rules text
      | .start => .outside text
      | .unknown => .ignored
      | .arenas => if (quotedText? text).isSome then .unpairedQuote text else .arenaOpening text
      | .players => if (quotedText? text).isSome then .unpairedQuote text else .unquoted text
      | .events _ => if (quotedText? text).isSome then .unpairedQuote text else .unquoted text

def entry (s : Section) (quotedText metadata : List Char) : Item :=
  match s with
  | .players => .player quotedText metadata
  | .events kind => .event kind quotedText metadata
  | .arenas => .arenaEvent quotedText metadata
  | _ => .ignored

def Section.after (s : Section) (text : List Char) : Section :=
  if isComment text then s
  else
    match headerName? text with
    | some name => .named name
    | none => s

/-- The quoted text of a line that takes the next line as its metadata. -/
def pairedQuote? (s : Section) (text next : List Char) : Option (List Char) :=
  if s.hasEntries ∧ (headerName? next).isNone ∧ !isComment next then quotedText? text else none

def itemsFrom : Section → List Line → List Numbered
  | _, [] => []
  | s, [l] => [⟨l.number, single s l.text⟩]
  | s, l :: next :: rest =>
    match pairedQuote? s l.text next.text with
    | some text => ⟨l.number, entry s text next.text⟩ :: itemsFrom s rest
    | none => ⟨l.number, single s l.text⟩ :: itemsFrom (s.after l.text) (next :: rest)

def items (input : String) : List Numbered :=
  itemsFrom .start (lines input)

end Tournament.Spec
