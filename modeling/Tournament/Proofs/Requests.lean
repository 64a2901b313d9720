import Tournament.Proofs.Failure
import Tournament.Proofs.Simulation

/-!
# What a game asks of chance

A source can be made to keep a record of what it is asked for.  The game is the same with it, and
every request on the record can be met.  What cannot be had by weight is not asked for: the call
ends with an error that stands for the end of the program.  That depends on the sums of rarities,
while a spec is only checked for each rarity by itself.
-/

namespace Tournament

open Draw (Request Source weightError? weightError?_eq)

variable {σ τ : Type}

namespace Draw

/-- A source that keeps a record of what it is asked for, the latest request last. -/
def Source.recorded (src : Source σ) : Source (σ × List Request) where
  below width n s :=
    ((src.below width n s.1).1, (src.below width n s.1).2, s.2 ++ [.below width n])
  weighted weights s :=
    ((src.weighted weights s.1).1, (src.weighted weights s.1).2, s.2 ++ [.weighted weights])
  below_lt width n s := src.below_lt width n s.1
  weighted_lt weights s := src.weighted_lt weights s.1

/-- The source with a record is in the state of the one without, and could meet every request. -/
def SoundRecord (s : σ) (recorded : σ × List Request) : Prop :=
  recorded.1 = s ∧ ∀ request ∈ recorded.2, request.Sound

theorem Source.matches_recorded (src : Source σ) : src.Matches SoundRecord src.recorded := by
  rintro request s ⟨_, requests⟩ hsound ⟨rfl, hrequests⟩
  have hrequests' : ∀ r ∈ requests ++ [request], r.Sound := by
    intro r hr
    rcases List.mem_append.mp hr with hr | hr
    · exact hrequests r hr
    · rwa [List.mem_singleton.mp hr]
  cases request with
  | below => exact ⟨_, _, _, rfl, rfl, rfl, hrequests'⟩
  | weighted => exact ⟨_, _, _, rfl, rfl, rfl, hrequests'⟩

end Draw

namespace Game

theorem alike_later {R : σ → τ → Prop} {src : Source σ} {src' : Source τ}
    (h : src.Matches R src') {g : Game σ} {g' : Game τ} (hg : Alike R g g')
    (hdrawable : g.contest.Drawable) (n : Nat) : Alike R (g.later src n) (g'.later src' n) := by
  induction n generalizing g g' with
  | zero => exact hg
  | succ n ih =>
      obtain ⟨result, g₁, g₁', hadvance, hadvance', hg₁⟩ :=
        agree_advance h hg hdrawable.deathRate_pos hdrawable.arenaFrequency_pos
      have hkeeps := keeps_advance src g
      unfold later
      rw [hadvance] at hkeeps ⊢
      rw [hadvance']
      exact ih hg₁ (hkeeps.drawable hdrawable)

/-! ## Choices that cannot be made -/

theorem drawEvent_of_weightError? (src : Source σ) (round kind : RoundKind) (pool : List Nat)
    {cards : List Card} (g : Game σ) {w : Draw.WeightError}
    (hw : weightError? (cards.map (·.event.rarity)) = some w) :
    (drawEvent src round kind pool cards g).1 = .error (drawError round pool.length w) := by
  have hchoose : src.choose (cards.map (·.event.rarity)) g.dice = (.error w, g.dice) := by
    simp [Source.choose, hw]
  rw [drawEvent]
  simp only [hchoose]

/-- Where no source of the next round has a finite sum, the call that begins it ends with the first
draw. -/
theorem advance_of_unbounded {src : Source σ} {g g₁ : Game σ} {round : RoundKind} {deck : Deck}
    (hdrawable : g.contest.Drawable) (hopen : g.contest.isOver = false)
    (hnext : g.nextRound src = (.ok round, g₁))
    (hdeck : (g₁.opening src round).deck round = .ok deck)
    (hsums : ∀ events, g.DrawsFrom src events → ¬ HasFiniteSum events) :
    (g.advance src).1 = .error .unbounded := by
  have hcontest := opening_contest_of_nextRound hnext
  have hopen' : (g₁.opening src round).contest.isOver = false := by rwa [hcontest]
  cases hkind : (g₁.opening src round).eventKind src round with
  | mk kind g₂ =>
  have hsource := drawsFrom_of_deck hnext hdeck (mayDraw_of_eventKind hkind)
  have hsum := mt hasFiniteSum_cards_iff.mpr (hsums _ hsource)
  have hw : weightError? ((deck.cards round kind).map (·.event.rarity)) = some .unbounded := by
    rw [weightError?_eq (hsource.isWeight hdrawable), if_neg, if_neg hsum]
    intro hnil
    rw [hnil] at hsum
    exact hsum (by decide +kernel)
  have hdraw := drawEvent_of_weightError? src round kind g.contest.aliveIds g₂ hw
  cases hdrawn : drawEvent src round kind g.contest.aliveIds (deck.cards round kind) g₂ with
  | mk result g₃ =>
  rw [hdrawn] at hdraw
  cases hdraw
  rw [advance_of_nextRound hopen hnext, hdeck]
  dsimp only
  rw [playEvents_of_drawEvent (Contest.aliveIds_ne_nil hopen) hopen' hkind hdrawn]
  rfl

/-! ## Any number of calls -/

/-- What has been asked of chance before a call on a game, `recorded` being the same game with a
record, and when the call asks for what cannot be had. -/
structure ChanceUse (src : Source σ) (g : Game σ) (recorded : Game (σ × List Request)) : Prop where
  requests : ∃ requests, recorded = g.withDice (g.dice, requests) ∧ ∀ r ∈ requests, r.Sound
  unbounded_only : (g.advance src).1 = .error .unbounded →
    ∃ events, g.DrawsFrom src events ∧ ¬ HasFiniteSum events
  unbounded : g.contest.isOver = false →
    (∀ events, g.DrawsFrom src events → ¬ HasFiniteSum events) →
    (g.advance src).1 = .error .unbounded

/-- Whatever a spec says, every number and every choice that a game on it asks for can be had,
except where the rarities of a source of the round have no finite sum: there a call asks in vain if
all sources of its round are such, and otherwise only if one of them is. -/
theorem chanceUse_later {input : String} {reading : Spec.Reading}
    (hparse : Spec.parse input = .ok reading) (src : Source σ) (seed : String) (dice : σ)
    (n : Nat) :
    ChanceUse src ((start reading.contest seed dice).later src n)
      ((start reading.contest seed (dice, [])).later src.recorded n) := by
  have hdrawable := drawable_later hparse src seed dice n
  refine ⟨?_, ?_, ?_⟩
  · have hstart : Alike Draw.SoundRecord (start reading.contest seed dice)
        (start reading.contest seed (dice, [])) := ⟨(dice, []), ⟨rfl, by simp⟩, rfl⟩
    obtain ⟨⟨_, requests⟩, ⟨rfl, hsound⟩, hlater⟩ :=
      alike_later src.matches_recorded hstart (Spec.drawable_of_parse hparse) n
    exact ⟨requests, hlater, hsound⟩
  · intro hunbounded
    cases failure_later hparse src seed dice n hunbounded with
    | unbounded hsource hsum => exact ⟨_, hsource, hsum⟩
  · intro hopen hsums
    obtain ⟨round, g₁, deck, hnext, hdeck⟩ :=
      (calendar_later reading.contest src seed dice n).exists_round src
        (arenaInRange_later_start reading.contest src seed dice n)
    exact advance_of_unbounded hdrawable hopen hnext hdeck hsums

/-- What the bloodbath and the first day of two players ask for: for each player an event by weight,
for the first of them a shuffle, and by day a roll for death. -/
theorem chanceUse_of_quiet :
    ∃ reading, Spec.parse quietSpec = .ok reading ∧
      ((start reading.contest "" ((), [])).later Source.first.recorded 2).dice.2 =
        [.weighted [1.0], .below .narrow 2, .weighted [1.0],
          .below .narrow 10, .weighted [1.0], .below .narrow 2, .below .narrow 10,
          .weighted [1.0]] ∧
      ChanceUse .first ((start reading.contest "" ()).later .first 2)
        ((start reading.contest "" ((), [])).later Source.first.recorded 2) := by
  obtain ⟨reading, hparse, hrequests⟩ :=
    Spec.exists_of_parse quietSpec
      (P := fun reading =>
        ((start reading.contest "" ((), [])).later Source.first.recorded 2).dice.2 =
          [.weighted [1.0], .below .narrow 2, .weighted [1.0],
            .below .narrow 10, .weighted [1.0], .below .narrow 2, .below .narrow 10,
            .weighted [1.0]])
      (by decide +kernel)
  exact ⟨reading, hparse, of_decide_eq_true hrequests, chanceUse_later hparse .first "" () 2⟩

theorem failure?_eq_some {result : Except GameError RoundReport} {e : GameError} :
    failure? result = some e ↔ result = .error e := by
  cases result <;> simp [failure?]

def heavySpec : String :=
  "[players]\n\"Ann\"\ngender:F, height:1m\n\"Bo\"\ngender:M, height:1m\n" ++
  "[bloodbath]\n\"%1% waits.\"\ntributes:1, rarity:1e308\n" ++
  "\"%1% waits.\"\ntributes:1, rarity:1e308\n"

theorem heavy_unbounded :
    ∃ reading, Spec.parse heavySpec = .ok reading ∧ reading.problems.isEmpty = true ∧
      ((start reading.contest "heavy" (Draw.Keystream.ofSeed "heavy")).advance Draw.seeded).1 =
        .error .unbounded := by
  obtain ⟨reading, hparse, hreading⟩ :=
    Spec.exists_of_parse heavySpec
      (P := fun reading => reading.problems.isEmpty = true ∧
        failure? ((start reading.contest "heavy" (Draw.Keystream.ofSeed "heavy")).advance
          Draw.seeded).1 = some .unbounded)
      (by decide +kernel)
  obtain ⟨hproblems, hfailure⟩ := of_decide_eq_true hreading
  exact ⟨reading, hparse, hproblems, failure?_eq_some.mp hfailure⟩

end Game
end Tournament
