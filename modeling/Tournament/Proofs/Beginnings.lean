import Tournament.Proofs.Advance

/-!
# The rounds that are begun

A call of `advance` on an open contest begins a round, also where the round then fails.  `begun`
is the list of the rounds that a number of calls begin.  `Calls` says what one call does to the
calendar and to the arena in use; the contest plays no part in that but for the count of those left.
-/

namespace Tournament.Game

open Draw (Source)

variable {σ : Type}

structure Beginning where
  kind : RoundKind
  day : UInt32
  /-- The contest before the events of the round. -/
  contest : Contest

def beginning? (src : Source σ) (g : Game σ) : Option Beginning :=
  if g.contest.isOver then none
  else
    match g.nextRound src with
    | (.error _, _) => none
    | (.ok kind, g₁) => some ⟨kind, g₁.day, g.contest⟩

/-- The rounds that the next `n` calls begin. -/
def begun (src : Source σ) : Nat → Game σ → List Beginning
  | 0, _ => []
  | n + 1, g => (g.beginning? src).toList ++ (g.advance src).2.begun src n

theorem begun_succ (src : Source σ) (n : Nat) (g : Game σ) :
    g.begun src (n + 1) = g.begun src n ++ ((g.later src n).beginning? src).toList := by
  induction n generalizing g with
  | zero => simp [begun, later]
  | succ n ih =>
      rw [begun, ih, begun, List.append_assoc]
      rfl

/-- `Calls src g result g'`: what a call with this result does to the calendar and the arena. -/
inductive Calls (src : Source σ) (g : Game σ) (result : Except GameError RoundReport)
    (g' : Game σ) : Prop where
  | idle {e : GameError} (hnone : g.beginning? src = none) (hresult : result = .error e)
      (hstanding : g'.standing = g.standing)
  | failed {kind : RoundKind} {g₁ : Game σ} {e : GameError}
      (hbegins : g.beginning? src = some ⟨kind, g₁.day, g.contest⟩)
      (hfollows : Follows src g (.ok kind) g₁) (hresult : result = .error e)
      (hstanding : g'.standing =
        { g₁.standing with arena := (g₁.enterArena src kind).arena })
  | reported {kind : RoundKind} {g₁ : Game σ} {report : RoundReport}
      (hbegins : g.beginning? src = some ⟨kind, g₁.day, g.contest⟩)
      (hfollows : Follows src g (.ok kind) g₁) (hresult : result = .ok report)
      (hkind : report.round = kind) (hday : report.day = g₁.day)
      (harena : report.arena = (g₁.enterArena src kind).currentArena?.map (·.name))
      (hstanding : g'.standing =
        { g₁.standing with
          arena := if kind = .arena then none else (g₁.enterArena src kind).arena })

theorem beginning?_of_nextRound {src : Source σ} {g g₁ : Game σ} {kind : RoundKind}
    (hopen : g.contest.isOver = false) (hnext : g.nextRound src = (.ok kind, g₁)) :
    g.beginning? src = some ⟨kind, g₁.day, g.contest⟩ := by
  simp [beginning?, hopen, hnext]

theorem Follows.standing_of_error {src : Source σ} {g g₁ : Game σ} {e : GameError}
    (h : Follows src g (.error e) g₁) : g₁.standing = g.standing := by
  cases h <;> rfl

theorem Advances.calls {src : Source σ} {g g' : Game σ} {turns : List Turn}
    {result : Except GameError RoundReport} (h : Advances src g turns result g') :
    Calls src g result g' := by
  cases h with
  | decided hover => exact .idle (by simp [beginning?, hover]) rfl rfl
  | noRound hopen hnext =>
      exact .idle (by simp [beginning?, hnext]) rfl (follows_of_nextRound hnext).standing_of_error
  | noDeck hopen hnext hdeck =>
      exact .failed (beginning?_of_nextRound hopen hnext) (follows_of_nextRound hnext) rfl
        (opening_standing _ _ _)
  | broken hopen hnext hdeck hplays =>
      refine .failed (beginning?_of_nextRound hopen hnext) (follows_of_nextRound hnext) rfl ?_
      rw [hplays.standing_eq, opening_standing]
  | @finished g₁ g₂ round deck turns hopen hnext hdeck hplays =>
      have hstanding : g₂.standing = (g₁.opening src round).standing := hplays.standing_eq
      refine .reported (beginning?_of_nextRound hopen hnext) (follows_of_nextRound hnext) rfl rfl
        ?_ ?_ ?_
      · calc g₂.day = (g₁.opening src round).day := congrArg Standing.day hstanding
          _ = g₁.day := congrArg Standing.day (opening_standing src round g₁)
      · rw [← opening_currentArena?]
        rfl
      · have harena : g₂.arena = (g₁.enterArena src round).arena :=
          calc g₂.arena = (g₁.opening src round).arena := congrArg Standing.arena hstanding
            _ = (g₁.enterArena src round).arena :=
              congrArg Standing.arena (opening_standing src round g₁)
        rw [closing_standing, hstanding, opening_standing, harena]

theorem calls_advance (src : Source σ) (g : Game σ) :
    Calls src g (g.advance src).1 (g.advance src).2 := by
  obtain ⟨turns, h⟩ := exists_advances src g
  exact h.calls

theorem beginning?_of_advance {src : Source σ} {g g' : Game σ} {report : RoundReport}
    (h : g.advance src = (.ok report, g')) :
    g.beginning? src = some ⟨report.round, report.day, g.contest⟩ := by
  have hcalls := calls_advance src g
  rw [h] at hcalls
  cases hcalls with
  | idle _ hresult => cases hresult
  | failed _ _ hresult => cases hresult
  | reported hbegins _ hresult hkind hday =>
      cases hresult
      rw [hbegins, hkind, hday]

end Tournament.Game
