import Tournament.Number.Natural
import Tournament.Player
import Tournament.Text.Digit

/-!
# Event texts

The text of an event names its players by tokens between percent signs. A slot token is a number
and a constraint suffix, `%1%` or `%2<3m&:A%`; a pronoun token is `p:` or `P:`, a number and a
case, `%p:1%`, `%P:1o%`, `%p:1s%`, `%p:1self%`. A percent sign that opens no token stands for
itself. A text is the sequence of its pieces, and each piece keeps the way it is written.
-/

namespace Tournament

inductive Piece where
  | letter (c : Char)
  | slot (number suffix : List Char)
  | pronoun (capital : Bool) (body : List Char)
  deriving DecidableEq, Repr

namespace Piece

def raw : Piece → List Char
  | .letter c => [c]
  | .slot number suffix => '%' :: (number ++ suffix ++ ['%'])
  | .pronoun capital body => '%' :: (if capital then 'P' else 'p') :: ':' :: (body ++ ['%'])

/-- The token with a given inside: a run of digits followed by a suffix, or a pronoun. -/
def ofBody (body : List Char) : Option Piece :=
  match body with
  | 'p' :: ':' :: rest => some (.pronoun false rest)
  | 'P' :: ':' :: rest => some (.pronoun true rest)
  | _ =>
    match body.takeWhile Text.isAnyDigit with
    | [] => none
    | number => some (.slot number (body.dropWhile Text.isAnyDigit))

/-- The token that a percent sign opens, `cs` being what follows the sign, and what follows the
token. Its inside reaches to the next percent sign. -/
def token (cs : List Char) : Option (Piece × List Char) :=
  match cs.dropWhile (· ≠ '%') with
  | [] => none
  | _ :: rest => (ofBody (cs.takeWhile (· ≠ '%'))).map fun p => (p, rest)

theorem token_length_lt {cs rest : List Char} {p : Piece} (h : token cs = some (p, rest)) :
    rest.length < cs.length := by
  unfold token at h
  split at h
  · simp at h
  · next c tail hd =>
    simp only [Option.map_eq_some_iff, Prod.mk.injEq] at h
    obtain ⟨_, -, -, rfl⟩ := h
    have := (List.dropWhile_suffix (l := cs) (fun c => decide (c ≠ '%'))).length_le
    rw [hd, List.length_cons] at this
    omega

end Piece

def pieces (cs : List Char) : List Piece :=
  match cs with
  | [] => []
  | c :: cs =>
    if c = '%' then
      match _h : Piece.token cs with
      | some (p, rest) => p :: pieces rest
      | none => .letter c :: pieces cs
    else .letter c :: pieces cs
termination_by cs.length
decreasing_by
  · have := Piece.token_length_lt _h
    simp only [List.length_cons]
    omega
  · simp
  · simp

/-- What the inside of a pronoun token says: a slot number and a case. -/
def readPronoun (body : List Char) : Option (List Char × Gender.Case) :=
  let number := body.takeWhile Text.isAnyDigit
  if number = [] then none
  else
    match body.dropWhile Text.isAnyDigit with
    | [] => some (number, .subject)
    | ['o'] => some (number, .object)
    | ['s'] => some (number, .possessive)
    | ['s', 'e', 'l', 'f'] => some (number, .reflexive)
    | _ => none

def capitalize : List Char → List Char
  | [] => []
  | c :: cs => c.toUpper :: cs

/-- The player in the slot with a given number, counted from 1. -/
def playerInSlot (players : List Player) (number : List Char) : Option Player :=
  match Number.readNatural UInt64.size number with
  | some (i + 1) => players[i]?
  | _ => none

/-- What a token stands for, if the players given fill its slot. -/
def Piece.resolve (players : List Player) : Piece → Option (List Char)
  | .letter c => some [c]
  | .slot number _ => (playerInSlot players number).map fun p => p.name.toList
  | .pronoun capital body => do
    let (number, case) ← readPronoun body
    let player ← playerInSlot players number
    let word := (player.gender.pronoun case).toList
    return if capital then capitalize word else word

/-- A piece with its players put in. A token that cannot be resolved stays as it is written. -/
def Piece.render (players : List Player) (p : Piece) : List Char :=
  (p.resolve players).getD p.raw

def renderText (text : String) (players : List Player) : String :=
  String.ofList ((pieces text.toList).flatMap (Piece.render players))

end Tournament
