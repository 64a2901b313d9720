import Tournament.Proofs.Assignment
import Tournament.Proofs.Requests

/-!
# What the stages of a call put on record

With a source that keeps a record every stage of a call does what it does without one, and adds its
requests to the record.  What it adds is told by the state in which it begins, not by the answers,
except where an answer decides how it goes on.
-/

namespace Tournament

open Draw (Request Source Width)

variable {σ : Type}

namespace Draw

/-- Requests for `count` numbers: the first below `n`, each of the others below one less than the
one before it. -/
def falling (width : Width) (n count : Nat) : List Request :=
  (List.range count).map fun i => .below width (n - i)

theorem falling_succ (width : Width) (n count : Nat) :
    falling width (n + 1) (count + 1) = .below width (n + 1) :: falling width n count := by
  simp [falling, List.range_succ_eq_map, Function.comp_def, Nat.add_sub_add_right]

theorem falling_min_succ (width : Width) {m n : Nat} (h : m + 1 = n) (count : Nat) :
    falling width n (min (count + 1) n) = .below width n :: falling width m (min count m) := by
  subst h
  rw [Nat.add_min_add_right, falling_succ]

def noted {α : Type} (x : α × σ) (record : List Request) : α × σ × List Request :=
  (x.1, x.2, record)

namespace Source

theorem recorded_roll (src : Source σ) (faces : Nat) (s : σ) (record : List Request) :
    src.recorded.roll faces (s, record) =
      noted (src.roll faces s) (record ++ [.below .narrow faces]) := rfl

theorem recorded_choose_of_ok {src : Source σ} {weights : List Float} {s s' : σ}
    {i : Fin weights.length} (h : src.choose weights s = (.ok i, s')) (record : List Request) :
    src.recorded.choose weights (s, record) = (.ok i, s', record ++ [.weighted weights]) := by
  unfold choose at h ⊢
  cases hweights : weightError? weights with
  | some e => simp [hweights] at h
  | none =>
      by_cases hne : weights = []
      · subst hne
        cases hweights
      · simp only [hweights, dif_pos hne] at h ⊢
        cases h
        rfl

theorem recorded_choose_of_error {src : Source σ} {weights : List Float} {s s' : σ}
    {e : WeightError} (h : src.choose weights s = (.error e, s')) (record : List Request) :
    src.recorded.choose weights (s, record) = (.error e, s', record) := by
  have hweights := weightError?_of_choose h
  unfold choose at h ⊢
  simp only [hweights] at h ⊢
  cases h
  rfl

theorem recorded_shuffleFrom {α : Type} (src : Source σ) (i : Nat) (xs : Array α) (s : σ)
    (record : List Request) :
    src.recorded.shuffleFrom i xs (s, record) =
      noted (src.shuffleFrom i xs s) (record ++ falling .narrow (i + 1) i) := by
  induction i generalizing xs s record with
  | zero => simp [shuffleFrom, falling, noted]
  | succ i ih =>
      rw [falling_succ, List.append_cons]
      exact ih _ _ _

theorem recorded_shuffle {α : Type} (src : Source σ) (xs : List α) (s : σ)
    (record : List Request) :
    src.recorded.shuffle xs (s, record) =
      noted (src.shuffle xs s) (record ++ falling .narrow xs.length (xs.length - 1)) := by
  have hfalling : falling .narrow (xs.length - 1 + 1) (xs.length - 1) =
      falling .narrow xs.length (xs.length - 1) := by
    cases xs <;> rfl
  unfold shuffle
  rw [recorded_shuffleFrom, hfalling]
  rfl

end Source
end Draw

open Draw (falling noted)

/-! ## Casting -/

/-- The abstract teams of slots that have no team yet, each once, in slot order. -/
def unboundLetters (slots : List Requirement) (bound : List (Char × Char)) : List Char :=
  ((slots.filterMap (·.team)).filter fun letter => (bound.lookup letter).isNone).eraseDups

theorem unboundLetters_nil (slots : List Requirement) :
    unboundLetters slots [] = (slots.filterMap (·.team)).eraseDups := by
  simp [unboundLetters]

theorem unboundLetters_cons_of_bound {r : Requirement} {rest : List Requirement}
    {bound : List (Char × Char)}
    (h : ∀ letter, r.team = some letter → (bound.lookup letter).isSome = true) :
    unboundLetters (r :: rest) bound = unboundLetters rest bound := by
  unfold unboundLetters
  cases hteam : r.team with
  | none => rw [List.filterMap_cons_none hteam]
  | some letter =>
      have hbound := Option.isSome_iff_ne_none.mp (h letter hteam)
      rw [List.filterMap_cons_some hteam, List.filter_cons_of_neg (by simpa using hbound)]

theorem unboundLetters_cons_of_new {r : Requirement} {rest : List Requirement}
    {bound : List (Char × Char)} {letter : Char} (hteam : r.team = some letter)
    (hnew : bound.lookup letter = none) (team : Char) :
    unboundLetters (r :: rest) bound =
      letter :: unboundLetters rest (bound ++ [(letter, team)]) := by
  have hfilter : (fun l => !l == letter && (bound.lookup l).isNone) =
      fun l => ((bound ++ [(letter, team)]).lookup l).isNone := by
    funext l
    rw [List.lookup_append]
    by_cases hl : l = letter
    · simp [hl, hnew]
    · have hbeq := beq_eq_false_iff_ne.mpr hl
      cases bound.lookup l <;> simp [hbeq, List.lookup_cons]
  unfold unboundLetters
  rw [List.filterMap_cons_some hteam, List.filter_cons_of_pos (by simp [hnew]),
    List.eraseDups_cons, List.filter_filter, hfilter]

/-- Teams are asked for in turn, one for each abstract team, as long as there are any. -/
theorem recorded_bindTeams (src : Source σ) (slots : List Requirement) (free : List Char)
    (bound : List (Char × Char)) (s : σ) (record : List Request) :
    bindTeams src.recorded slots free bound (s, record) =
      noted (bindTeams src slots free bound s)
        (record ++ falling .wide free.length
          (min (unboundLetters slots bound).length free.length)) := by
  induction slots generalizing free bound s record with
  | nil => simp [bindTeams, unboundLetters, falling, noted]
  | cons r rest ih =>
      unfold bindTeams
      cases hteam : r.team with
      | none =>
          rw [unboundLetters_cons_of_bound (by simp [hteam])]
          exact ih free bound s record
      | some letter =>
          dsimp only
          split_ifs with hbound hfree
          · rw [unboundLetters_cons_of_bound (by simpa [hteam] using hbound)]
            exact ih free bound s record
          · have hnew := Option.not_isSome_iff_eq_none.mp hbound
            let i := (src.index free.length hfree s).1
            have hlength : (free.eraseIdx i).length + 1 = free.length := by
              rw [List.length_eraseIdx_of_lt i.isLt]
              omega
            rw [unboundLetters_cons_of_new hteam hnew free[i], List.length_cons,
              Draw.falling_min_succ .wide hlength, List.append_cons record]
            exact ih _ _ _ _
          · have hzero : free.length = 0 := by omega
            simp [hzero, falling, noted]

/-- What casting an event from a pool asks for: a shuffle of the pool, and a team for each abstract
team as long as there are teams. -/
def Contest.castRequests (c : Contest) (e : Event) (pool : List Nat) : List Request :=
  falling .narrow pool.length (pool.length - 1) ++
    falling .wide c.aliveTeams.length (min e.letters.eraseDups.length c.aliveTeams.length)

theorem Contest.recorded_cast (c : Contest) (src : Source σ) (e : Event) (pool : List Nat) (s : σ)
    (record : List Request) :
    c.cast src.recorded e pool (s, record) =
      noted (c.cast src e pool s) (record ++ c.castRequests e pool) := by
  have hbind := recorded_bindTeams src e.slots c.aliveTeams [] (src.shuffle pool s).2
    (record ++ falling .narrow pool.length (pool.length - 1))
  rw [unboundLetters_nil, List.append_assoc] at hbind
  unfold cast
  rw [Source.recorded_shuffle]
  dsimp only [noted] at hbind ⊢
  rw [hbind]
  cases bindTeams src e.slots c.aliveTeams [] (src.shuffle pool s).2 with
  | mk teams s' =>
  cases teams with
  | error letter => rfl
  | ok bound =>
      dsimp only
      cases c.fill bound e.slots (src.shuffle pool s).1 <;> rfl

/-! ## The stages of a call -/

/-- The roll for death that comes before every event of a day or a night. -/
def Rules.deathRoll (r : Rules) (round : RoundKind) : List Request :=
  if round = .day ∨ round = .night then [.below .narrow r.deathRate] else []

def Contest.arenaChoice (c : Contest) (round : RoundKind) : List Request :=
  if round = .arena then [.below .wide c.arenas.length] else []

namespace Game

variable {src : Source σ} {g g₁ : Game σ} {round kind : RoundKind}

def noted (g : Game σ) (record : List Request) : Game (σ × List Request) :=
  g.withDice (g.dice, record)

def arenaRoll (g : Game σ) : List Request :=
  match g.lastRound with
  | none => []
  | some .bloodbath => []
  | some _ => if g.feastDue then [] else [.below .narrow g.contest.rules.arenaFrequency]

theorem recorded_eventKind (h : g.eventKind src round = (kind, g₁)) (record : List Request) :
    (g.noted record).eventKind src.recorded round =
      (kind, g₁.noted (record ++ g.contest.rules.deathRoll round)) := by
  obtain ⟨rfl, rfl⟩ := Prod.mk.inj h
  cases round <;> simp [eventKind, RoundKind.fatal?, Rules.deathRoll, noted, withDice,
    Source.recorded_roll, Draw.noted]

theorem recorded_nextRound (src : Source σ) (g : Game σ) (record : List Request) :
    (g.noted record).nextRound src.recorded =
      ((g.nextRound src).1, (g.nextRound src).2.noted (record ++ g.arenaRoll)) := by
  have hlast : (g.noted record).lastRound = g.lastRound := rfl
  have hfeast : (g.noted record).feastDue = g.feastDue := rfl
  have hday : (g.noted record).day = g.day := rfl
  have hroll : (g.noted record).rollArena src.recorded = ((g.rollArena src).1,
      (g.rollArena src).2.noted (record ++ [.below .narrow g.contest.rules.arenaFrequency])) := rfl
  unfold nextRound arenaRoll
  rw [hlast, hfeast, hday, hroll]
  cases g.lastRound with
  | none =>
      dsimp only
      rw [List.append_nil]
      split_ifs <;> rfl
  | some previous =>
      cases previous with
      | bloodbath => rw [List.append_nil]; rfl
      | _ =>
          dsimp only
          split_ifs with hdue
          · rw [List.append_nil]
            rfl
          · rfl
          · rfl

theorem recorded_enterArena (src : Source σ) (hnone : g.arena = none)
    (harenas : round = .arena → 0 < g.contest.arenas.length) (record : List Request) :
    (g.noted record).enterArena src.recorded round =
      (g.enterArena src round).noted (record ++ g.contest.arenaChoice round) := by
  unfold Contest.arenaChoice
  by_cases hround : round = .arena
  · subst hround
    obtain ⟨hpos, henter⟩ := choosesArena_of_none src hnone (harenas rfl)
    obtain ⟨hpos', henter'⟩ := choosesArena_of_none src.recorded
      (show (g.noted record).arena = none from hnone)
      (show 0 < (g.noted record).contest.arenas.length from hpos)
    rw [henter, henter', if_pos rfl]
    rfl
  · rw [enterArena_of_ne hround, enterArena_of_ne hround, if_neg hround, List.append_nil]

theorem recorded_opening (src : Source σ) (hnone : g.arena = none)
    (harenas : round = .arena → 0 < g.contest.arenas.length) (record : List Request) :
    (g.noted record).opening src.recorded round =
      (g.opening src round).noted (record ++ g.contest.arenaChoice round) := by
  unfold opening
  rw [recorded_enterArena src hnone harenas, noted, noted, withDice_announce, dice_announce]

theorem noted_tellFailure (g : Game σ) (record : List Request) (kind : RoundKind) (number : Nat)
    (failure : Casting) :
    (g.noted record).tellFailure kind number failure =
      (g.tellFailure kind number failure).noted record := by
  cases failure <;> rfl

theorem noted_closing (g : Game σ) (record : List Request) (round : RoundKind) :
    (g.noted record).closing round = (g.closing round).noted record := by
  unfold closing proclaim leaveArena noted withDice
  by_cases hround : round = .arena
  · simp only [if_pos hround]
    cases g.contest.winner? <;> rfl
  · simp only [if_neg hround]
    cases g.contest.winner? <;> rfl

end Game
end Tournament
