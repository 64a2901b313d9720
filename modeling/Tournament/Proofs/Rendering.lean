import Tournament.Proofs.Acceptance
import Tournament.Proofs.Splitting

/-!
# Texts with their players put in

A token that an event was accepted with is never left as it is written: the reading of the event has
checked the number of the slot that the text needs to find its player, and the two read the number
in the same way.  So the text becomes the sequence of what its pieces are shown as (`Piece.Shown`).
-/

namespace Tournament

open Text (isAnyDigit isBlank)
open Event (IsSlot)

/-! ## Pronouns -/

structure Pronoun where
  gender : Gender
  case : Gender.Case
  plain : String
  capital : String

/-- The pronouns that a token can ask for. -/
def pronouns : List Pronoun :=
  [⟨.male, .subject, "he", "He"⟩, ⟨.male, .object, "him", "Him"⟩,
    ⟨.male, .possessive, "his", "His"⟩, ⟨.male, .reflexive, "himself", "Himself"⟩,
    ⟨.female, .subject, "she", "She"⟩, ⟨.female, .object, "her", "Her"⟩,
    ⟨.female, .possessive, "her", "Her"⟩, ⟨.female, .reflexive, "herself", "Herself"⟩,
    ⟨.nonbinary, .subject, "they", "They"⟩, ⟨.nonbinary, .object, "them", "Them"⟩,
    ⟨.nonbinary, .possessive, "their", "Their"⟩,
    ⟨.nonbinary, .reflexive, "themself", "Themself"⟩]

theorem exists_mem_pronouns (g : Gender) {case : Gender.Case} (h : case ≠ .independent) :
    ∃ w ∈ pronouns, w.gender = g ∧ w.case = case := by
  cases g <;> cases case <;> first | decide | exact absurd rfl h

theorem pronoun_of_mem : ∀ w ∈ pronouns, (w.gender.pronoun w.case).toList = w.plain.toList ∧
    capitalize (w.gender.pronoun w.case).toList = w.capital.toList := by
  decide

theorem IsPronoun.ne_independent {body number : List Char} {case : Gender.Case}
    (h : IsPronoun body number case) : case ≠ .independent := by
  obtain ⟨-, -, mark, hmark, -⟩ := h
  rintro rfl
  cases hmark

/-! ## What a piece is shown as -/

/-- What a piece of a text is shown as, the players filling the slots 1, 2, … in order: a character
as itself, a slot as the name of its player, and a pronoun as the word for its player in the case
asked for, with a capital if the token has one. -/
inductive Piece.Shown (players : List Player) : Piece → List Char → Prop where
  | letter (c : Char) : Shown players (.letter c) [c]
  | slot {number suffix : List Char} {k : Nat} {p : Player}
      (hslot : IsSlot (String.ofList number) (k + 1)) (hp : players[k]? = some p) :
      Shown players (.slot number suffix) p.name.toList
  | pronoun {capital : Bool} {body number : List Char} {case : Gender.Case} {k : Nat} {p : Player}
      {w : Pronoun} (hbody : IsPronoun body number case)
      (hslot : IsSlot (String.ofList number) (k + 1)) (hp : players[k]? = some p)
      (hw : w ∈ pronouns) (hgender : w.gender = p.gender) (hcase : w.case = case) :
      Shown players (.pronoun capital body) (if capital then w.capital else w.plain).toList

section

variable {players : List Player}

/-- The number of a slot is read here as it was when the event was accepted. -/
theorem playerInSlot_eq {number : List Char} (hdigits : ∀ c ∈ number, isAnyDigit c = true)
    {k : Nat} (hslot : IsSlot (String.ofList number) (k + 1)) :
    playerInSlot players number = players[k]? := by
  obtain ⟨hwrites, -, hlt⟩ := hslot
  have hplain : ∀ c ∈ number, isBlank c = false :=
    fun c hc => Text.isBlank_eq_false_of_isAnyDigit (hdigits c hc)
  have htrim : Text.trim number = number :=
    Text.trim_eq_self (fun c hc => hplain c (List.mem_of_head? hc))
      (fun c hc => hplain c (List.mem_of_getLast? hc))
  rw [String.toList_ofList, htrim] at hwrites
  have hread := Number.readNatural_eq_some_iff.mpr ⟨hwrites, hlt⟩
  rw [playerInSlot, hread]

theorem Piece.Shown.resolve_eq {q : Piece} {part : List Char} (h : q.Shown players part)
    (hq : q.IsToken ∨ ∃ c, q = .letter c) : q.resolve players = some part := by
  cases h with
  | letter c => rfl
  | @slot number suffix k p hslot hp =>
      have hdigits : ∀ c ∈ number, isAnyDigit c = true := by
        obtain ⟨_, hdigits⟩ | ⟨c, hc⟩ := hq
        · exact hdigits
        · cases hc
      rw [resolve, playerInSlot_eq hdigits hslot, hp]
      rfl
  | @pronoun capital body number case k p w hbody hslot hp hw hgender hcase =>
      obtain ⟨hplain, hcapital⟩ := pronoun_of_mem w hw
      rw [hgender, hcase] at hplain hcapital
      have hword : (if capital then capitalize (p.gender.pronoun case).toList
          else (p.gender.pronoun case).toList) =
            (if capital then w.capital else w.plain).toList := by
        cases capital
        · exact hplain
        · exact hcapital
      rw [resolve, readPronoun_eq_some_iff.mpr hbody]
      simp only [bind, Option.bind, playerInSlot_eq hbody.2.1 hslot, hp]
      exact congrArg some hword

theorem Scans.isToken {cs : List Char} {ps : List Piece} (h : Scans cs ps) :
    ∀ q ∈ ps, q.IsToken ∨ ∃ c, q = .letter c := by
  induction h with
  | nil => simp
  | token hp _ ih => exact List.forall_mem_cons.mpr ⟨.inl hp, ih⟩
  | letter _ _ ih => exact List.forall_mem_cons.mpr ⟨.inr ⟨_, rfl⟩, ih⟩

theorem Event.WellFormed.exists_shown {ps : List Piece} {metadata : String} {n : Nat}
    (h : WellFormed ps metadata n) (hplayers : n ≤ players.length) :
    ∀ q ∈ ps, ∃ part, q.Shown players part := by
  have hfilled : ∀ slot, 1 ≤ slot → slot ≤ n → ∃ k p, slot = k + 1 ∧ players[k]? = some p := by
    intro slot hpos hle
    obtain ⟨k, rfl⟩ := Nat.exists_eq_add_of_le' hpos
    exact ⟨k, _, rfl, List.getElem?_eq_getElem (by omega)⟩
  intro q hq
  cases q with
  | letter c => exact ⟨_, .letter c⟩
  | slot number suffix =>
      obtain ⟨slot, hslot⟩ := h.legible.slot number suffix hq
      obtain ⟨hpos, hle⟩ := (h.slot slot).mp ⟨suffix, number, hq, hslot⟩
      obtain ⟨k, p, rfl, hp⟩ := hfilled slot hpos hle
      exact ⟨_, .slot hslot hp⟩
  | pronoun capital body =>
      obtain ⟨number, case, slot, hbody, hslot⟩ := h.legible.pronoun capital body hq
      have hle := h.pronoun slot ⟨capital, body, number, case, hq, hbody, hslot⟩
      obtain ⟨k, p, rfl, hp⟩ := hfilled slot hslot.2.1 hle
      obtain ⟨w, hw, hgender, hcase⟩ := exists_mem_pronouns p.gender hbody.ne_independent
      exact ⟨_, .pronoun hbody hslot hp hw hgender hcase⟩

/-! ## The text -/

theorem flatMap_render {ps : List Piece} {parts : List (List Char)}
    (h : List.Forall₂ (fun q part => q.resolve players = some part) ps parts) :
    ps.flatMap (Piece.render players) = parts.flatten := by
  induction h with
  | nil => rfl
  | cons hq _ ih => rw [List.flatMap_cons, List.flatten_cons, ih, Piece.render, hq]; rfl

end

/-- An accepted event becomes the sequence of what the pieces of its text are shown as: every token
is put in, and every player of a slot is named. -/
theorem render_resolves {text metadata : String} {e : Event} {players : List Player}
    (h : Event.parse text metadata = .ok e) (hplayers : e.tributes ≤ players.length) :
    ∃ ps parts, Scans text.toList ps ∧ ps.flatMap Piece.raw = text.toList ∧
      List.Forall₂ (Piece.Shown players) ps parts ∧
      (∀ q ∈ ps, q.resolve players ≠ none) ∧ (e.render players).toList = parts.flatten ∧
      ∀ k < e.tributes, ∃ p, players[k]? = some p ∧
        p.name.toList <:+: (e.render players).toList := by
  obtain ⟨hwell, hread⟩ := Event.isReadFrom_of_parse h
  have hscans := scans_pieces text.toList
  obtain ⟨parts, hparts⟩ := exists_forall₂ (hwell.exists_shown hplayers)
  have hboth := (List.forall₂_and_left _ _).mpr ⟨hscans.isToken, hparts⟩
  have hresolved := hboth.imp fun _ _ hq => hq.2.resolve_eq hq.1
  have hrender : (e.render players).toList = parts.flatten := by
    rw [Event.render, hread.text_eq, renderText, String.toList_ofList, flatMap_render hresolved]
  refine ⟨_, parts, hscans, hscans.flatMap_raw, hparts, ?_, hrender, ?_⟩
  · intro q hq
    obtain ⟨part, hpart, -⟩ := forall_mem_left hresolved (fun _ hpart => hpart) q hq
    simp [hpart]
  · intro k hk
    -- some token is that of the slot, and it is shown as the name
    obtain ⟨suffix, number, hmem, hslot⟩ := (hwell.slot (k + 1)).mpr ⟨by omega, hk⟩
    obtain ⟨part, hshown, hpart⟩ := forall_mem_left hparts (fun _ hpart => hpart) _ hmem
    cases hshown with
    | @slot _ _ k' p hslot' hp =>
        obtain rfl : k' = k := Nat.succ.inj (hslot'.unique hslot)
        exact ⟨p, hp, hrender ▸ List.infix_of_mem_flatten hpart⟩

def meetingText : String :=
  "%P:1% is %1%, 100% %p:01self%, and meets %2%. %P:2s% sword is for %p:1o%."

/-- The name of a player may look like a token, also like one of the same text. -/
theorem rendered_meeting :
    ∃ e ann bo ps parts, Event.parse meetingText "tributes:2" = .ok e ∧
      Player.parse "%2%" "gender:F, height:1m" = .ok ann ∧
      Player.parse "Bo" "gender:X, height:1m" = .ok bo ∧
      e.render [ann, bo] = "She is %2%, 100% herself, and meets Bo. Their sword is for her." ∧
      Scans meetingText.toList ps ∧ List.Forall₂ (Piece.Shown [ann, bo]) ps parts ∧
      (e.render [ann, bo]).toList = parts.flatten := by
  obtain ⟨e, he, hplayers⟩ := exists_of_any (x := Event.parse meetingText "tributes:2")
    (P := fun e => (Player.parse "%2%" "gender:F, height:1m").toOption.any fun ann =>
      (Player.parse "Bo" "gender:X, height:1m").toOption.any fun bo =>
        e.tributes = 2 ∧
          e.render [ann, bo] = "She is %2%, 100% herself, and meets Bo. Their sword is for her.")
    (by decide +kernel)
  obtain ⟨ann, hann, hplayers⟩ := exists_of_any hplayers
  obtain ⟨bo, hbo, hvalues⟩ := exists_of_any hplayers
  obtain ⟨htributes, hrender⟩ := of_decide_eq_true hvalues
  obtain ⟨ps, parts, hscans, -, hparts, -, hflatten, -⟩ :=
    @render_resolves _ _ e [ann, bo] he (by rw [htributes]; rfl)
  exact ⟨e, ann, bo, ps, parts, he, hann, hbo, hrender, hscans, hparts, hflatten⟩

end Tournament
