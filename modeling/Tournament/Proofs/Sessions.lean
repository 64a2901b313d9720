import Tournament.Console.Session
import Tournament.Proofs.Runs

/-!
# Sessions and runs

A game is played by two loops: a run returns the reports of its rounds or the error that ended it,
and a session at the console keeps the reports also of rounds before an error, and shows them.  The
loops end by different tests, but they make the same calls of `advance` (`run_eq_playRounds`), and a
run can be left between two rounds and taken up again (`run_add`).  So the exit code and the
transcript of a session are those of a run of the same game (`same_rounds_of_session`).
-/

namespace Tournament

open Draw (Keystream Source seeded)

variable {σ : Type}

namespace Console

/-! ## Rounds at the console -/

/-- What a run returns whose rounds have ended so: their reports, unless one of them failed. -/
def Ending.result (reports : List RoundReport) : Ending → Except GameError (List RoundReport)
  | .failed e => .error e
  | _ => .ok reports

theorem Ending.result_eq_ok_iff {ending : Ending} {played reports : List RoundReport} :
    ending.result played = .ok reports ↔ played = reports ∧ ∀ e, ending ≠ .failed e := by
  cases ending <;> simp [result]

theorem Ending.result_eq_error_iff {ending : Ending} {played : List RoundReport} {e : GameError} :
    ending.result played = .error e ↔ ending = .failed e := by
  cases ending <;> simp [result]

theorem run_eq_playRounds (src : Source σ) (n : Nat) (g : Game σ) :
    g.run src n =
      ((playRounds src n g).2.1.result (playRounds src n g).1, (playRounds src n g).2.2) := by
  induction n generalizing g with
  | zero =>
      unfold Game.run playRounds
      split_ifs <;> rfl
  | succ n ih =>
      unfold Game.run playRounds Contest.isOver
      split_ifs with hover
      · rfl
      · cases g.advance src with
        | mk result g' =>
        cases result with
        | error e => rfl
        | ok report =>
            dsimp only
            rw [ih g']
            -- the report comes before those of the rounds that follow, however they end
            cases (playRounds src n g').2.1 <;> rfl

theorem length_playRounds_le (src : Source σ) (n : Nat) (g : Game σ) :
    (playRounds src n g).1.length ≤ n := by
  fun_induction playRounds src n g with
  | case1 | case2 | case3 | case4 => simp
  | case5 n g hopen report g' hadvance reports ending g'' hrest ih =>
      rw [hrest] at ih
      simpa using ih

theorem isOver_of_length_lt {src : Source σ} {n : Nat} {g : Game σ}
    (hlt : (playRounds src n g).1.length < n)
    (hfailed : ∀ e, (playRounds src n g).2.1 ≠ .failed e) :
    (playRounds src n g).2.2.contest.isOver = true := by
  fun_induction playRounds src n g with
  | case1 | case2 => simp at hlt
  | case3 n g hover => exact hover
  | case4 n g hopen e g' hadvance => exact absurd rfl (hfailed e)
  | case5 n g hopen report g' hadvance reports ending g'' hrest ih =>
      rw [hrest] at ih
      exact ih (by simpa using hlt) hfailed

theorem playRounds_of_isOver (src : Source σ) (n : Nat) {g : Game σ}
    (h : g.contest.isOver = true) : playRounds src n g = ([], .decided, g) := by
  unfold Contest.isOver at h
  cases n <;> rw [playRounds, if_pos h]

theorem winner_eq_none_of_mem_dropLast (src : Source σ) (n : Nat) (g : Game σ) :
    ∀ report ∈ (playRounds src n g).1.dropLast, report.winner = none := by
  fun_induction playRounds src n g with
  | case1 | case2 | case3 | case4 => simp
  | case5 n g hopen report g' hadvance reports ending g'' hrest ih =>
      rw [hrest] at ih
      cases hover : g'.contest.isOver with
      | true =>
          -- nothing is played after a decision, so this was the last report
          rw [playRounds_of_isOver src n hover] at hrest
          obtain ⟨rfl, -, -⟩ := hrest
          simp
      | false =>
          obtain ⟨turns, hadvances⟩ := Game.exists_advances src g
          rw [hadvance] at hadvances
          have hwinner : report.winner = none := by
            rw [hadvances.report_eq.2.2]
            simpa [Contest.isOver] using hover
          cases reports with
          | nil => simp
          | cons next others =>
              intro r hr
              rw [List.dropLast_cons_of_ne_nil (List.cons_ne_nil next others)] at hr
              rcases List.mem_cons.mp hr with rfl | hr
              · exact hwinner
              · exact ih r hr

/-- A run of at most `n` rounds and the rounds `played` at the console come to the same. -/
structure SameRounds (n : Nat) (run : Except GameError (List RoundReport) × Game σ)
    (played : List RoundReport × Ending × Game σ) : Prop where
  ok_iff : ∀ reports, run.1 = .ok reports ↔ played.1 = reports ∧ ∀ e, played.2.1 ≠ .failed e
  error_iff : ∀ e, run.1 = .error e ↔ played.2.1 = .failed e
  game_eq : run.2 = played.2.2
  length_le : ∀ reports, run.1 = .ok reports → reports.length ≤ n
  isOver_of_lt : ∀ reports, run.1 = .ok reports → reports.length < n → run.2.contest.isOver = true
  winner_eq_none : ∀ reports, run.1 = .ok reports → ∀ r ∈ reports.dropLast, r.winner = none

theorem sameRounds (src : Source σ) (n : Nat) (g : Game σ) :
    SameRounds n (g.run src n) (playRounds src n g) := by
  rw [run_eq_playRounds]
  refine ⟨fun _ => Ending.result_eq_ok_iff, fun _ => Ending.result_eq_error_iff, rfl, ?_, ?_, ?_⟩
  · intro reports hok
    obtain ⟨rfl, -⟩ := Ending.result_eq_ok_iff.mp hok
    exact length_playRounds_le src n g
  · intro reports hok hlt
    obtain ⟨rfl, hfailed⟩ := Ending.result_eq_ok_iff.mp hok
    exact isOver_of_length_lt hlt hfailed
  · intro reports hok
    obtain ⟨rfl, -⟩ := Ending.result_eq_ok_iff.mp hok
    exact winner_eq_none_of_mem_dropLast src n g

end Console

/-! ## Runs that are taken up again -/

namespace Game

/-- A run of at most `b` rounds after another run, which must not have failed. -/
def runAfter (src : Source σ) (b : Nat) (run : Except GameError (List RoundReport) × Game σ) :
    Except GameError (List RoundReport) × Game σ :=
  match run with
  | (.error e, g) => (.error e, g)
  | (.ok reports, g) =>
    match g.run src b with
    | (.error e, g) => (.error e, g)
    | (.ok more, g) => (.ok (reports ++ more), g)

theorem run_of_isOver (src : Source σ) (n : Nat) {g : Game σ} (h : g.contest.isOver = true) :
    g.run src n = (.ok [], g) := by
  cases n with
  | zero => rfl
  | succ n => rw [run, if_pos h]

theorem run_add (src : Source σ) (a b : Nat) (g : Game σ) :
    g.run src (a + b) = runAfter src b (g.run src a) := by
  induction a generalizing g with
  | zero =>
      rw [Nat.zero_add, run, runAfter]
      cases g.run src b with
      | mk result g' => cases result <;> rfl
  | succ a ih =>
      rw [Nat.succ_add, run, run]
      split_ifs with hover
      · simp only [runAfter, run_of_isOver src b hover, List.append_nil]
      · cases g.advance src with
        | mk result g' =>
        cases result with
        | error e => rfl
        | ok report =>
            dsimp only
            rw [ih g']
            cases g'.run src a with
            | mk first g₁ =>
            cases first with
            | error e => rfl
            | ok reports =>
                dsimp only [runAfter]
                cases g₁.run src b with
                | mk second g₂ => cases second <;> rfl

end Game

namespace Console

/-! ## What a session leaves -/

namespace Session

@[simp] theorem print_code (s : Session) (line : String) : (s.print line).code = s.code := rfl

@[simp] theorem complain_code (s : Session) (line : String) : (s.complain line).code = s.code := rfl

@[simp] theorem printAll_code (s : Session) (lines : List String) :
    (s.printAll lines).code = s.code := by
  unfold printAll
  induction lines generalizing s with
  | nil => rfl
  | cons line lines ih => rw [List.foldl_cons, ih, print_code]

@[simp] theorem complainAll_code (s : Session) (lines : List String) :
    (s.complainAll lines).code = s.code := by
  unfold complainAll
  induction lines generalizing s with
  | nil => rfl
  | cons line lines ih => rw [List.foldl_cons, ih, complain_code]

@[simp] theorem save_code (w : Surroundings) (s : Session) (text : String) :
    (s.save w text).code = s.code := by
  unfold save
  split <;> rfl

theorem save_saved {w : Surroundings} (h : w.writeFailure = none) (s : Session) (text : String) :
    (s.save w text).saved = some text := by
  rw [save, h]

end Session

def seedOf (w : Surroundings) (o : Options) : String :=
  o.seed.getD w.freshSeed

def gameOf (w : Surroundings) (o : Options) (c : Contest) : Game Keystream :=
  Game.start c (seedOf w o) (Keystream.ofSeed (seedOf w o))

/-- The exit code of a session whose rounds come to this result. -/
def exitCode : Except GameError (List RoundReport) → Nat
  | .ok _ => 0
  | .error e => if e.endsProgram then 101 else 1

theorem playContest_code (w : Surroundings) (o : Options) (c : Contest) {s : Session}
    (hs : s.code = 0) :
    (playContest w o c s).code = exitCode ((gameOf w o c).run seeded o.maxRounds).1 := by
  rw [run_eq_playRounds]
  unfold playContest
  dsimp only
  rw [← seedOf, ← gameOf]
  obtain ⟨reports, ending, g⟩ := playRounds seeded o.maxRounds (gameOf w o c)
  cases ending with
  | decided | stopped =>
      simp [Ending.result, Ending.endsProgram, exitCode, apply_ite Session.code, hs]
  | failed e =>
      cases hends : e.endsProgram <;>
        simp [Ending.result, Ending.endsProgram, exitCode, hends]

theorem playContest_saved {w : Surroundings} {o : Options} (hjson : o.json = true)
    (hwrite : w.writeFailure = none) (c : Contest) (s : Session) {reports : List RoundReport}
    {g : Game Keystream} (hrun : (gameOf w o c).run seeded o.maxRounds = (.ok reports, g)) :
    (playContest w o c s).saved = some (transcript (seedOf w o) reports g.contest.winner?) := by
  rw [run_eq_playRounds] at hrun
  unfold playContest
  dsimp only
  rw [← seedOf, ← gameOf]
  generalize playRounds seeded o.maxRounds (gameOf w o c) = rounds at hrun ⊢
  obtain ⟨played, ending, g'⟩ := rounds
  obtain ⟨hresult, rfl⟩ := Prod.mk.inj hrun
  obtain ⟨rfl, hfailed⟩ := Ending.result_eq_ok_iff.mp hresult
  cases ending with
  | decided | stopped => simp [hjson, Ending.endsProgram, Session.save_saved hwrite]
  | failed e => exact absurd rfl (hfailed e)

theorem playSpec_of_played {w : Surroundings} {o : Options} {reading : Spec.Reading}
    (hload : loadSpec w o.specPath = .ok reading)
    (hplayed : reading.problems = [] ∨ o.strict = false) (s : Session) :
    ∃ s', s'.code = s.code ∧ playSpec w o s = playContest w o reading.contest s' := by
  unfold playSpec
  rw [hload]
  dsimp only
  split_ifs with hproblems hstrict
  · exact ⟨s, rfl, rfl⟩
  · rcases hplayed with hnone | hlax
    · exact absurd hnone hproblems
    · rw [hlax] at hstrict
      cases hstrict
  · exact ⟨_, by simp, rfl⟩

/-- A session that plays a contest ends as a run of the same game does, with the same reports. -/
structure EndsAsRun (w : Surroundings) (o : Options) (c : Contest) (s : Session) : Prop where
  code_eq : s.code = exitCode ((gameOf w o c).run seeded o.maxRounds).1
  saved_eq : o.json = true → w.writeFailure = none → ∀ reports g,
    (gameOf w o c).run seeded o.maxRounds = (.ok reports, g) →
    s.saved = some (transcript (seedOf w o) reports g.contest.winner?)

/-- The two ways of playing a spec are the same: whatever the seed and the greatest number of
rounds, a run and the rounds of a session make the same calls of the same game and end alike, and
this is what the session shows; and a run can be left after any number of rounds and taken up
again. -/
theorem same_rounds_of_session {w : Surroundings} {args : List String} {o : Options}
    {reading : Spec.Reading} (hargs : (readArguments args).1 = .play o)
    (hload : loadSpec w o.specPath = .ok reading)
    (hplayed : reading.problems = [] ∨ o.strict = false) :
    EndsAsRun w o reading.contest (session w args) ∧
      (∀ n, SameRounds n ((gameOf w o reading.contest).run seeded n)
        (playRounds seeded n (gameOf w o reading.contest))) ∧
      ∀ a b, (gameOf w o reading.contest).run seeded (a + b) =
        Game.runAfter seeded b ((gameOf w o reading.contest).run seeded a) := by
  refine ⟨?_, fun n => sameRounds seeded n _, fun a b => Game.run_add seeded a b _⟩
  unfold session
  cases hrequest : readArguments args with
  | mk request unknown =>
  rw [hrequest] at hargs
  obtain rfl : request = .play o := hargs
  dsimp only
  generalize hs : ({} : Session).complainAll _ = s
  have hcode : s.code = 0 := by rw [← hs, Session.complainAll_code]
  obtain ⟨s', hs', heq⟩ := playSpec_of_played hload hplayed s
  rw [heq]
  constructor
  · exact playContest_code w o reading.contest (hs'.trans hcode)
  · intro hjson hwrite reports g hrun
    exact playContest_saved hjson hwrite reading.contest s' hrun

theorem fromUTF8?_toUTF8 (s : String) : String.fromUTF8? s.toUTF8 = some s := by
  unfold String.fromUTF8?
  rw [String.toUTF8_eq_toByteArray, dif_pos s.isValidUTF8]
  rfl

theorem loadSpec_toUTF8 {w : Surroundings} {path input : String}
    (h : w.contents path = .ok input.toUTF8) : loadSpec w path = Spec.parse input := by
  unfold loadSpec
  rw [h]
  dsimp only
  rw [fromUTF8?_toUTF8]

def quietFile : Surroundings where
  contents _ := .ok Game.quietSpec.toUTF8
  freshSeed := "dusk"
  transcriptName := "royale.json"

/-- At most five rounds of a quiet tournament, which runs out of events in the third. -/
theorem same_rounds_of_quiet :
    ∃ o reading, (readArguments ["quiet.txt", "-r", "5"]).1 = .play o ∧ o.maxRounds = 5 ∧
      loadSpec quietFile o.specPath = .ok reading ∧ reading.problems = [] ∧
      (session quietFile ["quiet.txt", "-r", "5"]).code = 1 ∧
      (∀ n, SameRounds n ((gameOf quietFile o reading.contest).run seeded n)
        (playRounds seeded n (gameOf quietFile o reading.contest))) ∧
      ∀ a b, (gameOf quietFile o reading.contest).run seeded (a + b) =
        Game.runAfter seeded b ((gameOf quietFile o reading.contest).run seeded a) := by
  have hargs : (readArguments ["quiet.txt", "-r", "5"]).1 =
      .play { specPath := "quiet.txt", maxRounds := 5 } := by decide +kernel
  obtain ⟨reading, hparse, hreading⟩ :=
    Spec.exists_of_parse Game.quietSpec
      (P := fun reading => reading.problems.isEmpty = true ∧
        exitCode ((gameOf quietFile { specPath := "quiet.txt", maxRounds := 5 }
          reading.contest).run seeded 5).1 = 1)
      (by decide +kernel)
  obtain ⟨hproblems, hexit⟩ := of_decide_eq_true hreading
  rw [List.isEmpty_iff] at hproblems
  have hload : loadSpec quietFile "quiet.txt" = .ok reading := by
    rw [loadSpec_toUTF8 rfl, hparse]
  obtain ⟨hends, hrounds, hadd⟩ := same_rounds_of_session hargs hload (.inl hproblems)
  exact ⟨_, reading, hargs, rfl, hload, hproblems, hends.code_eq.trans hexit, hrounds, hadd⟩

end Console
end Tournament
