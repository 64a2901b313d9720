import Tournament.Draw.Seeded
import Tournament.Proofs.Beginnings

/-!
# The arena in use

An arena round takes its arena from the dice when it begins and gives it up when it ends.  One that
fails keeps it: the arena stays in use through the rounds that follow, whose reports name it, and
the next arena round is held there without a choice, until an arena round ends in good order.
`Interrupted` says when that is so, and `arenaUse_later` that it is so only then.
-/

namespace Tournament.Game

open Draw (Source)

variable {σ : Type} {src : Source σ} {g : Game σ}

/-- The next call begins an arena round. -/
def BeginsArena (src : Source σ) (g : Game σ) : Prop :=
  ∃ b, g.beginning? src = some b ∧ b.kind = .arena

def FailsInArena (src : Source σ) (g : Game σ) : Prop :=
  g.BeginsArena src ∧ ∃ e, (g.advance src).1 = .error e

/-- The last of the next `n` calls that begins an arena round fails. -/
def Interrupted (src : Source σ) (g : Game σ) (n : Nat) : Prop :=
  ∃ k < n, (g.later src k).FailsInArena src ∧
    ∀ j, k < j → j < n → ¬ (g.later src j).BeginsArena src

theorem not_interrupted_zero : ¬ Interrupted src g 0 := by
  rintro ⟨k, hk, -⟩
  exact Nat.not_lt_zero k hk

theorem interrupted_succ {n : Nat} :
    Interrupted src g (n + 1) ↔ (g.later src n).FailsInArena src ∨
      ¬ (g.later src n).BeginsArena src ∧ Interrupted src g n := by
  constructor
  · rintro ⟨k, hk, hfails, hlast⟩
    rcases Nat.lt_succ_iff_lt_or_eq.mp hk with hlt | rfl
    · refine .inr ⟨hlast n hlt n.lt_succ_self, k, hlt, hfails, ?_⟩
      exact fun j hkj hjn => hlast j hkj (Nat.lt_succ_of_lt hjn)
    · exact .inl hfails
  · rintro (hfails | ⟨hnot, k, hk, hfails, hlast⟩)
    · exact ⟨n, n.lt_succ_self, hfails, fun j hnj hjn => by omega⟩
    · refine ⟨k, Nat.lt_succ_of_lt hk, hfails, ?_⟩
      intro j hkj hjn
      rcases Nat.lt_succ_iff_lt_or_eq.mp hjn with hlt | rfl
      · exact hlast j hkj hlt
      · exact hnot

/-! ## Entering an arena -/

def ArenaInRange (g : Game σ) : Prop :=
  ∀ i, g.arena = some i → i < g.contest.arenas.length

/-- The arena round that begins at `g` takes the arena that the dice choose. -/
def ChoosesArena (src : Source σ) (g : Game σ) : Prop :=
  ∃ h : 0 < g.contest.arenas.length, g.enterArena src .arena =
    { g with
      dice := (src.index g.contest.arenas.length h g.dice).2
      arena := some (src.index g.contest.arenas.length h g.dice).1.val }

theorem enterArena_of_ne {kind : RoundKind} (h : kind ≠ .arena) : g.enterArena src kind = g := by
  simp [enterArena, h]

theorem enterArena_of_inUse (h : g.arena.isSome = true) : g.enterArena src .arena = g := by
  have hnone : g.arena.isNone = false := by
    rw [Option.isNone_eq_false_iff]
    exact h
  simp [enterArena, hnone]

theorem choosesArena_of_none (src : Source σ) (h : g.arena = none)
    (harenas : 0 < g.contest.arenas.length) : ChoosesArena src g := by
  refine ⟨harenas, ?_⟩
  simp [enterArena, h, harenas]

theorem isSome_enterArena (harenas : 0 < g.contest.arenas.length) :
    (g.enterArena src .arena).arena.isSome = true := by
  cases harena : g.arena with
  | none =>
      obtain ⟨_, henter⟩ := choosesArena_of_none src harena harenas
      rw [henter]
      rfl
  | some i =>
      rw [enterArena_of_inUse (by rw [harena]; rfl), harena]
      rfl

theorem enterArena_contest (kind : RoundKind) : (g.enterArena src kind).contest = g.contest := by
  unfold enterArena
  split_ifs <;> rfl

theorem ArenaInRange.of_arena_eq {g' : Game σ} (h : g.ArenaInRange) (harena : g'.arena = g.arena)
    (harenas : g'.contest.arenas = g.contest.arenas) : g'.ArenaInRange := by
  intro i hi
  rw [harenas]
  exact h i (harena ▸ hi)

theorem ArenaInRange.enterArena (src : Source σ) (h : g.ArenaInRange) (kind : RoundKind) :
    (g.enterArena src kind).ArenaInRange := by
  by_cases hround : kind = .arena
  · subst hround
    cases harena : g.arena with
    | some i =>
        rw [enterArena_of_inUse (by rw [harena]; rfl)]
        exact h
    | none =>
        by_cases harenas : 0 < g.contest.arenas.length
        · obtain ⟨hpos, henter⟩ := choosesArena_of_none src harena harenas
          rw [henter]
          rintro i hi
          obtain rfl := Option.some.inj hi
          exact (src.index g.contest.arenas.length hpos g.dice).1.isLt
        · rw [show g.enterArena src .arena = g by simp [Game.enterArena, harenas]]
          exact h
  · rw [enterArena_of_ne hround]
    exact h

theorem ArenaInRange.isSome_currentArena? (h : g.ArenaInRange) :
    g.currentArena?.isSome = g.arena.isSome := by
  unfold currentArena?
  cases harena : g.arena with
  | none => rfl
  | some i => simp [h i harena]

theorem Follows.arenas_pos {g₁ : Game σ} (h : Follows src g (.ok .arena) g₁) :
    0 < g₁.contest.arenas.length := by
  cases h with
  | arena _ _ _ hroll =>
      unfold rollArena at hroll
      simp only [Bool.and_eq_true, Bool.not_eq_true', List.isEmpty_eq_false_iff] at hroll
      exact List.length_pos_iff.mpr hroll.2

/-! ## One call -/

theorem beginsArena_iff {b : Beginning} (hbegins : g.beginning? src = some b) :
    g.BeginsArena src ↔ b.kind = .arena := by
  unfold BeginsArena
  rw [hbegins]
  simp

theorem Follows.isSome_arena_iff {g₁ : Game σ} {kind : RoundKind}
    (h : Follows src g (.ok kind) g₁) :
    (g₁.enterArena src kind).arena.isSome = true ↔ kind = .arena ∨ g.arena.isSome = true := by
  by_cases hkind : kind = .arena
  · subst hkind
    simp [isSome_enterArena h.arenas_pos]
  · rw [enterArena_of_ne hkind, h.arena_eq]
    simp [hkind]

theorem Follows.arenaInRange {g₁ : Game σ} {kind : RoundKind} (h : Follows src g (.ok kind) g₁)
    (hrange : g.ArenaInRange) : g₁.ArenaInRange :=
  hrange.of_arena_eq h.arena_eq (congrArg Contest.arenas h.contest_eq)

/-- After a call an arena is in use if the call has failed in an arena round, or if one was in use
before it and it has begun no arena round. -/
theorem isSome_arena_advance_iff :
    (g.advance src).2.arena.isSome = true ↔
      g.FailsInArena src ∨ ¬ g.BeginsArena src ∧ g.arena.isSome = true := by
  cases calls_advance src g with
  | idle hnone _ hstanding =>
      have harena : (g.advance src).2.arena = g.arena := congrArg Standing.arena hstanding
      simp [FailsInArena, BeginsArena, harena, hnone]
  | @failed kind g₁ e hbegins hfollows hresult hstanding =>
      have harena : (g.advance src).2.arena = (g₁.enterArena src kind).arena :=
        congrArg Standing.arena hstanding
      rw [harena, hfollows.isSome_arena_iff, FailsInArena, beginsArena_iff hbegins, hresult]
      by_cases hkind : kind = .arena <;> simp [hkind]
  | @reported kind g₁ report hbegins hfollows hresult _ _ _ hstanding =>
      have harena : (g.advance src).2.arena =
          if kind = .arena then none else (g₁.enterArena src kind).arena :=
        congrArg Standing.arena hstanding
      rw [harena, FailsInArena, beginsArena_iff hbegins, hresult]
      by_cases hkind : kind = .arena
      · simp [hkind]
      · rw [if_neg hkind, hfollows.isSome_arena_iff]
        simp [hkind]

theorem ArenaInRange.advance (h : g.ArenaInRange) : (g.advance src).2.ArenaInRange := by
  have harenas := (keeps_advance src g).arenas
  have hentered : ∀ {kind g₁}, Follows src g (.ok kind) g₁ →
      (g.advance src).2.arena = (g₁.enterArena src kind).arena →
      (g.advance src).2.ArenaInRange := by
    intro kind g₁ hfollows harena
    refine ((hfollows.arenaInRange h).enterArena src kind).of_arena_eq harena ?_
    rw [enterArena_contest, hfollows.contest_eq, harenas]
  cases calls_advance src g with
  | idle _ _ hstanding => exact h.of_arena_eq (congrArg Standing.arena hstanding) harenas
  | failed _ hfollows _ hstanding => exact hentered hfollows (congrArg Standing.arena hstanding)
  | @reported kind g₁ _ _ hfollows _ _ _ _ hstanding =>
      have harena : (g.advance src).2.arena =
          if kind = .arena then none else (g₁.enterArena src kind).arena :=
        congrArg Standing.arena hstanding
      by_cases hkind : kind = .arena
      · rw [if_pos hkind] at harena
        intro i hi
        rw [harena] at hi
        cases hi
      · rw [if_neg hkind] at harena
        exact hentered hfollows harena

/-- A report names an arena if it is of an arena round or an arena was in use before the call. -/
theorem isSome_report_arena_iff {g' : Game σ} {report : RoundReport} (hrange : g.ArenaInRange)
    (h : g.advance src = (.ok report, g')) :
    report.arena.isSome = true ↔ report.round = .arena ∨ g.arena.isSome = true := by
  have hcalls := calls_advance src g
  rw [h] at hcalls
  cases hcalls with
  | idle _ hresult => cases hresult
  | failed _ _ hresult => cases hresult
  | @reported kind g₁ _ _ hfollows hresult hkind _ harena =>
      cases hresult
      have hrange₁ := (hfollows.arenaInRange hrange).enterArena src kind
      rw [harena, Option.isSome_map, hrange₁.isSome_currentArena?, hfollows.isSome_arena_iff,
        hkind]

/-! ## Any number of calls -/

theorem arenaInRange_later (h : g.ArenaInRange) (n : Nat) : (g.later src n).ArenaInRange := by
  induction n with
  | zero => exact h
  | succ n ih =>
      rw [later_succ]
      exact ih.advance

theorem isSome_arena_later_iff (src : Source σ) (h : g.arena = none) (n : Nat) :
    (g.later src n).arena.isSome = true ↔ Interrupted src g n := by
  induction n with
  | zero => simp [later, h, not_interrupted_zero]
  | succ n ih => rw [later_succ, isSome_arena_advance_iff, interrupted_succ, ih]

/-- How the next call uses arenas, where `stale` says whether an arena round has left one in use. -/
structure ArenaUse (src : Source σ) (g : Game σ) (stale : Prop) : Prop where
  inUse_iff : g.arena.isSome = true ↔ stale
  report_iff : ∀ report g', g.advance src = (.ok report, g') →
    (report.arena.isSome = true ↔ report.round = .arena ∨ stale)
  chosen : ¬ stale → ∀ g₁, g.nextRound src = (.ok .arena, g₁) → ChoosesArena src g₁
  continued : stale → ∀ g₁, g.nextRound src = (.ok .arena, g₁) → g₁.enterArena src .arena = g₁

/-- Between calls an arena is in use only while the last arena round begun has failed. -/
theorem arenaUse_later (c : Contest) (src : Source σ) (seed : String) (dice : σ) (n : Nat) :
    ArenaUse src ((start c seed dice).later src n) (Interrupted src (start c seed dice) n) := by
  have hrange : (start c seed dice).ArenaInRange := by simp [ArenaInRange, start]
  -- the three other parts follow from where an arena is in use
  have hinUse := isSome_arena_later_iff src (show (start c seed dice).arena = none from rfl) n
  refine ⟨hinUse, ?_, ?_, ?_⟩
  · intro report g' h
    rw [isSome_report_arena_iff (arenaInRange_later hrange n) h, hinUse]
  · intro hstale g₁ hnext
    have hfollows := follows_of_nextRound hnext
    refine choosesArena_of_none src ?_ hfollows.arenas_pos
    rw [hfollows.arena_eq]
    simpa using mt hinUse.mp hstale
  · intro hstale g₁ hnext
    apply enterArena_of_inUse
    rw [(follows_of_nextRound hnext).arena_eq]
    exact hinUse.mpr hstale

/-- A spec whose third round is an arena round that only two of four players can take part in. -/
def floodSpec : String :=
  "[setup]\narenafreq:1\n[players]\n\"Ann\"\ngender:F, height:2m\n" ++
  "\"Bo\"\ngender:M, height:2m\n\"Cy\"\ngender:M, height:1m\n\"Di\"\ngender:F, height:1m\n" ++
  "[bloodbath]\n\"%1% waits.\"\ntributes:1\n[day]\n\"%1% naps.\"\ntributes:1\n" ++
  "[feast]\n\"%1% eats.\"\ntributes:1\n" ++
  "[arena]\nFlood \"The water rises.\"\n\"%1>1.5m% drowns.\"\ntributes:1, elim:1\n"

theorem flood_names_arena_of_feast :
    ∃ reading report g', Spec.parse floodSpec = .ok reading ∧
      ((start reading.contest "flood" (Draw.Keystream.ofSeed "flood")).later Draw.seeded 3).advance
        Draw.seeded = (.ok report, g') ∧
      report.round = .feast ∧ report.arena = some "Flood" := by
  obtain ⟨reading, report, g', hparse, hadvance, hreport⟩ :=
    exists_of_advance Draw.seeded floodSpec "flood" (Draw.Keystream.ofSeed "flood") 3
      (fun report => report.round = .feast ∧ report.arena = some "Flood") (by decide +kernel)
  obtain ⟨hround, harena⟩ := of_decide_eq_true hreport
  exact ⟨reading, report, g', hparse, hadvance, hround, harena⟩

end Tournament.Game
