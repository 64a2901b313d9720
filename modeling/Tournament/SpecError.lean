import Tournament.Text.Quoted

/-!
# What can be wrong with a spec

The causes for which a piece of a spec is refused, and their wording.
-/

namespace Tournament

/-- A piece of text that does not have the form its place asks for. -/
inductive Malformed where
  | namelessPlayer
  | noGender (player : String)
  | noHeight (player : String)
  | noTributes
  /-- A constraint of a slot that is none of the known ones. -/
  | clause (text : String)
  /-- A pronoun token whose inside is not a slot and a case. -/
  | pronoun (token : String)
  /-- A line of an arena section that opens no arena. -/
  | arenaOpening (text : String)
  /-- A quoted line that no metadata line follows. -/
  | unpairedQuote (text : String)
  /-- A line without quotes where a name or an event text is due. -/
  | unquoted (text : String)
  | outsideSection (text : String)
  | strayEvent
  | described (text : String)
  deriving DecidableEq, Repr

open Text (quoted)

def Malformed.message : Malformed → String
  | .namelessPlayer => "Player name is empty."
  | .noGender player => s!"Player {quoted player} has no gender."
  | .noHeight player => s!"Player {quoted player} has no height."
  | .noTributes => "Tribute amount not defined."
  | .clause text => s!"Invalid format tag: {quoted text}"
  | .pronoun token => s!"Pronoun string in incorrect format: {quoted token}"
  | .arenaOpening text => s!"Expected `Name \"Description\"`, got {quoted text}"
  | .unpairedQuote text => s!"Missing metadata line after {text}"
  | .unquoted text => s!"Expected a quoted string, got {quoted text}"
  | .outsideSection text => s!"Line outside of any section: {quoted text}"
  | .strayEvent => "Event outside of an arena."
  | .described text => text

/-- Why a piece of a spec, or a whole spec, is refused. -/
inductive SpecError where
  /-- A metadata item that is not a key with a value, or a key that may not come twice. -/
  | malformedTag (tag : String)
  | unknownEntity (entity : String)
  /-- A value that does not fit its key. -/
  | invalidValue (key value reason : String)
  | malformed (flaw : Malformed)
  /-- Two tokens of one slot with different constraints. -/
  | conflictingSlot (slot : Nat)
  /-- A tribute amount that differs from the number of slots in the text. -/
  | tributeMismatch (declared found : Nat)
  /-- Slots that are not numbered from 1 without a gap. -/
  | slotGap (found : List Nat)
  | invalidAddress (text : String)
  | duplicatePlayer (name : String)
  | emptySpec
  | unreadable (reason : String)
  deriving DecidableEq, Repr

def slotsText (slots : List Nat) : String :=
  "[" ++ ", ".intercalate (slots.map toString) ++ "]"

def SpecError.message : SpecError → String
  | .malformedTag tag => s!"Metatag {quoted tag} has no value."
  | .unknownEntity entity => s!"Type {entity} does not define valid metadata."
  | .invalidValue key value reason => s!"Invalid value for {key}: {quoted value} ({reason})"
  | .malformed flaw => flaw.message
  | .conflictingSlot slot => s!"Multiple definitions for player {slot}!"
  | .tributeMismatch declared found => s!"Tribute amount mismatch. ({declared} != {found})"
  | .slotGap found => s!"Out of order player IDs! (found {slotsText found})"
  | .invalidAddress text => s!"{text} is not a URL."
  | .duplicatePlayer name => s!"Duplicate player name {quoted name}."
  | .emptySpec => "Spec file is empty."
  | .unreadable reason => s!"Could not read spec file: {reason}"

/-! ## What reading gives -/

theorem map_eq_ok {ε α β : Type} {f : α → β} {result : Except ε α} {y : β} :
    result.map f = .ok y ↔ ∃ x, result = .ok x ∧ f x = y := by
  cases result <;> simp [Except.map]

theorem exists_of_bind_eq_ok {ε α β : Type} {x : Except ε α} {f : α → Except ε β} {b : β}
    (h : x >>= f = .ok b) : ∃ a, x = .ok a ∧ f a = .ok b := by
  cases x with
  | error e => cases h
  | ok a => exact ⟨a, rfl, h⟩

theorem exists_of_any {ε α : Type} {x : Except ε α} {P : α → Bool}
    (h : x.toOption.any P = true) : ∃ a, x = .ok a ∧ P a = true := by
  cases x with
  | error e => cases h
  | ok a => exact ⟨a, rfl, h⟩

end Tournament
