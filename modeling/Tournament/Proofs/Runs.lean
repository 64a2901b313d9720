import Tournament.Proofs.Failure

/-!
# Runs

A game is asked for its next round or for a run of rounds.  A run is made of calls of `advance`, the
last of which may have failed, so that whatever is asked of a game leads to a state that such calls
lead to, and fails as one of them does.
-/

namespace Tournament.Game

open Draw (Source)

variable {σ : Type} {src : Source σ}

/-- `g'` is the game `g` after some calls, and `result` fails only as one of the calls from `g` on
does. -/
structure MadeOfCalls (src : Source σ) (g : Game σ) (result : Except GameError (List RoundReport))
    (g' : Game σ) : Prop where
  exists_later : ∃ k, g' = g.later src k
  failure : ∀ e, result = .error e → ∃ j, ((g.later src j).advance src).1 = .error e

theorem MadeOfCalls.call {g g' : Game σ} {result result' : Except GameError (List RoundReport)}
    (h : MadeOfCalls src (g.advance src).2 result g')
    (hfails : ∀ e, result' = .error e → result = .error e) : MadeOfCalls src g result' g' := by
  obtain ⟨k, hk⟩ := h.exists_later
  refine ⟨⟨k + 1, hk⟩, ?_⟩
  intro e he
  obtain ⟨j, hj⟩ := h.failure e (hfails e he)
  exact ⟨j + 1, hj⟩

theorem madeOfCalls_run (src : Source σ) (n : Nat) (g : Game σ) :
    MadeOfCalls src g (g.run src n).1 (g.run src n).2 := by
  fun_induction run src n g with
  | case1 g => exact ⟨⟨0, rfl⟩, by simp⟩
  | case2 n g hover => exact ⟨⟨0, rfl⟩, by simp⟩
  | case3 n g hopen e g' hadvance =>
      refine ⟨⟨1, by simp [later, hadvance]⟩, ?_⟩
      intro e' he
      exact ⟨0, by simpa [later, hadvance] using he⟩
  | case4 n g hopen report g' hadvance e g'' hrun ih =>
      rw [hrun] at ih
      obtain rfl : (g.advance src).2 = g' := by rw [hadvance]
      exact ih.call fun _ he => he
  | case5 n g hopen report g' hadvance reports g'' hrun ih =>
      rw [hrun] at ih
      obtain rfl : (g.advance src).2 = g' := by rw [hadvance]
      exact ih.call (by simp)

inductive Command where
  | advance
  /-- To play rounds until the contest is decided, at most `n`. -/
  | run (n : Nat)
  deriving DecidableEq, Repr

/-- Carries out a command, which gives the reports of the rounds played. -/
def exec (src : Source σ) (g : Game σ) : Command → Except GameError (List RoundReport) × Game σ
  | .advance => ((g.advance src).1.map ([·]), (g.advance src).2)
  | .run n => g.run src n

def execAll (src : Source σ) (commands : List Command) (g : Game σ) : Game σ :=
  commands.foldl (fun g command => (g.exec src command).2) g

theorem madeOfCalls_exec (src : Source σ) (g : Game σ) (command : Command) :
    MadeOfCalls src g (g.exec src command).1 (g.exec src command).2 := by
  cases command with
  | run n => exact madeOfCalls_run src n g
  | advance =>
      refine ⟨⟨1, rfl⟩, ?_⟩
      intro e he
      refine ⟨0, ?_⟩
      unfold exec at he
      cases hresult : (g.advance src).1 with
      | ok report => simp [hresult, Except.map] at he
      | error e' =>
          rw [hresult] at he
          cases he
          exact hresult

theorem exists_later_of_execAll (src : Source σ) (commands : List Command) (g : Game σ) :
    ∃ k, g.execAll src commands = g.later src k := by
  induction commands generalizing g with
  | nil => exact ⟨0, rfl⟩
  | cons command commands ih =>
      obtain ⟨k, hk⟩ := (madeOfCalls_exec src g command).exists_later
      obtain ⟨m, hm⟩ := ih (g.exec src command).2
      refine ⟨k + m, ?_⟩
      rw [later_add, ← hk]
      exact hm

/-- A game on a parsed spec never contradicts itself, whatever it was told to do before and whatever
came of it. -/
theorem exec_ne_inconsistent {input : String} {reading : Spec.Reading}
    (hparse : Spec.parse input = .ok reading) (src : Source σ) (seed : String) (dice : σ)
    (commands : List Command) (command : Command) (detail : String) :
    (((start reading.contest seed dice).execAll src commands).exec src command).1 ≠
      .error (.inconsistent detail) := by
  intro h
  obtain ⟨k, hk⟩ := exists_later_of_execAll src commands (start reading.contest seed dice)
  obtain ⟨j, hj⟩ := (madeOfCalls_exec src _ command).failure _ h
  rw [hk, ← later_add] at hj
  cases failure_later hparse src seed dice (k + j) hj

/-- Two players to whom nothing happens run out of events in the night, and the night after that
one fails too; neither is a fault of the engine. -/
theorem exec_ne_inconsistent_of_quiet :
    ∃ reading, Spec.parse quietSpec = .ok reading ∧
      ((start reading.contest "" ()).exec .first (.run 5)).1.toOption = none ∧
      (((start reading.contest "" ()).execAll .first [.run 5, .advance]).exec .first
        .advance).1.toOption = none ∧
      ∀ detail, (((start reading.contest "" ()).execAll .first [.run 5, .advance]).exec .first
        .advance).1 ≠ .error (.inconsistent detail) := by
  obtain ⟨reading, hparse, hfails⟩ :=
    Spec.exists_of_parse quietSpec
      (P := fun reading =>
        ((start reading.contest "" ()).exec .first (.run 5)).1.toOption = none ∧
          (((start reading.contest "" ()).execAll .first [.run 5, .advance]).exec .first
            .advance).1.toOption = none)
      (by decide +kernel)
  obtain ⟨hrun, hadvance⟩ := of_decide_eq_true hfails
  exact ⟨reading, hparse, hrun, hadvance,
    exec_ne_inconsistent hparse .first "" () [.run 5, .advance] .advance⟩

end Tournament.Game
