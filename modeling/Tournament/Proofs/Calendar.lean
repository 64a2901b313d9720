import Tournament.Proofs.Beginnings
import Mathlib.Data.List.Induction

/-!
# The calendar

In what order rounds are begun, and on which days.  `Lawful` is the law for one round in view of
those begun before it.  What a game stands at is told by the rounds that were begun, whether they were
finished or not (`Dated`), so that every round that is begun is lawful (`orderly_begun`).
-/

namespace Tournament.Game

open Draw (Source)

variable {σ : Type}

/-- The law for a round `b` of a game on the contest `c` that is begun after the rounds `past`. -/
structure Lawful (c : Contest) (past : List Beginning) (b : Beginning) : Prop where
  bloodbath_iff : b.kind = .bloodbath ↔ past = []
  day_of_second : past.length = 1 → b.kind = .day
  not_deadly : b.kind ≠ .fatalDay ∧ b.kind ≠ .fatalNight
  night : b.kind = .night →
    ∃ last, past.getLast? = some last ∧ last.kind = .day ∧ b.day = last.day
  feast_iff : 2 ≤ past.length →
    (b.kind = .feast ↔ (∀ a ∈ past, a.kind ≠ .feast) ∧ c.pools.feast ≠ [] ∧
      2 * b.contest.remaining ≤ c.roster.length)
  /-- The day is the number of day rounds begun, `b` among them, unless the count wraps. -/
  day_eq : past ≠ [] → (past ++ [b]).length < UInt32.size →
    b.day.toNat = (past ++ [b]).countP (·.kind = .day)

/-- Each of the rounds is lawful in view of those before it. -/
def Orderly (c : Contest) (rounds : List Beginning) : Prop :=
  ∀ past b future, rounds = past ++ b :: future → Lawful c past b

/-- The calendar of a game on the contest `c` in which the rounds `past` have begun. -/
structure Dated (c : Contest) (past : List Beginning) (s : Standing) : Prop where
  entrants_eq : s.entrants = c.roster.length
  lastRound_eq : s.lastRound = past.getLast?.map (·.kind)
  feastUsed_eq : s.feastUsed = past.any (·.kind = .feast)
  bloodbath_iff : ∀ last, past.getLast? = some last → (last.kind = .bloodbath ↔ past.length = 1)
  lastDay_eq : ∀ last, past.getLast? = some last → last.day = s.day
  day_of_nil : past = [] → s.day = 0
  day_of_one : past.length = 1 → s.day = 1
  day_eq : 2 ≤ past.length → s.day = UInt32.ofNat (past.countP (·.kind = .day))

namespace Dated

variable {c : Contest} {past : List Beginning} {s s' : Standing} {b : Beginning}

/-! ## What the last round tells of the past -/

theorem eq_nil (h : Dated c past s) (hlast : s.lastRound = none) : past = [] := by
  rw [h.lastRound_eq, Option.map_eq_none_iff, List.getLast?_eq_none_iff] at hlast
  exact hlast

theorem exists_last {kind : RoundKind} (h : Dated c past s) (hlast : s.lastRound = some kind) :
    ∃ last, past.getLast? = some last ∧ last.kind = kind ∧ last.day = s.day := by
  rw [h.lastRound_eq, Option.map_eq_some_iff] at hlast
  obtain ⟨last, hgetLast, hkind⟩ := hlast
  exact ⟨last, hgetLast, hkind, h.lastDay_eq last hgetLast⟩

theorem length_eq_one (h : Dated c past s) (hlast : s.lastRound = some .bloodbath) :
    past.length = 1 := by
  obtain ⟨last, hgetLast, hkind, -⟩ := h.exists_last hlast
  exact (h.bloodbath_iff last hgetLast).mp hkind

theorem two_le_length {kind : RoundKind} (h : Dated c past s) (hlast : s.lastRound = some kind)
    (hkind : kind ≠ .bloodbath) : 2 ≤ past.length := by
  obtain ⟨last, hgetLast, rfl, -⟩ := h.exists_last hlast
  have hne : past.length ≠ 1 := fun hone => hkind ((h.bloodbath_iff last hgetLast).mpr hone)
  have hpos := List.length_pos_of_mem (List.mem_of_getLast? hgetLast)
  omega

/-! ## A round is begun -/

/-- From the third round on the calendar is carried forward in one way for every kind. -/
theorem append (h : Dated c past s) (hlength : 2 ≤ past.length) (hkind : b.kind ≠ .bloodbath)
    (hday : b.day = if b.kind = .day then s.day + 1 else s.day)
    (hs' : s' = { s with
      day := b.day, lastRound := some b.kind, feastUsed := s.feastUsed || b.kind = .feast }) :
    Dated c (past ++ [b]) s' := by
  have hlast : (past ++ [b]).getLast? = some b := List.getLast?_concat
  have hlength' : (past ++ [b]).length = past.length + 1 := List.length_append
  subst hs'
  refine ⟨h.entrants_eq, ?_, ?_, ?_, ?_, ?_, ?_, ?_⟩
  · rw [hlast]
    rfl
  · simp [h.feastUsed_eq]
  · intro last hgetLast
    obtain rfl : b = last := Option.some.inj (hlast.symm.trans hgetLast)
    rw [hlength']
    exact iff_of_false hkind (by omega)
  · intro last hgetLast
    rw [Option.some.inj (hlast.symm.trans hgetLast)]
  · simp
  · omega
  · intro _
    dsimp only
    rw [hday, h.day_eq hlength, List.countP_append]
    by_cases hdayKind : b.kind = .day
    · simp [hdayKind]
    · simp [hdayKind]

theorem withArena (h : Dated c past s) (arena : Option Nat) :
    Dated c past { s with arena := arena } :=
  ⟨h.entrants_eq, h.lastRound_eq, h.feastUsed_eq, h.bloodbath_iff, h.lastDay_eq, h.day_of_nil,
    h.day_of_one, h.day_eq⟩

end Dated

variable {c : Contest} {past : List Beginning}

theorem dated_start (c : Contest) (seed : String) (dice : σ) :
    Dated c [] (start c seed dice).standing where
  entrants_eq := rfl
  lastRound_eq := rfl
  feastUsed_eq := rfl
  bloodbath_iff := by simp
  lastDay_eq := by simp
  day_of_nil _ := rfl
  day_of_one := by simp
  day_eq := by simp

theorem Follows.dated {src : Source σ} {g g₁ : Game σ} {kind : RoundKind}
    (h : Follows src g (.ok kind) g₁) (hdated : Dated c past g.standing) :
    Dated c (past ++ [⟨kind, g₁.day, g.contest⟩]) g₁.standing := by
  cases h with
  | bloodbath hlast hday =>
      obtain rfl := hdated.eq_nil hlast
      refine ⟨hdated.entrants_eq, rfl, hdated.feastUsed_eq, ?_, ?_, ?_, ?_, ?_⟩ <;>
        simp [standing]
  | firstDay hlast =>
      have hone := hdated.length_eq_one hlast
      obtain ⟨first, rfl⟩ := List.length_eq_one_iff.mp hone
      have hfirst : first.kind = .bloodbath := (hdated.bloodbath_iff first rfl).mpr rfl
      have hday : g.day = 1 := hdated.day_of_one rfl
      have hfeast : g.feastUsed = decide (first.kind = .feast) := by
        simpa [standing] using hdated.feastUsed_eq
      refine ⟨hdated.entrants_eq, rfl, ?_, ?_, ?_, ?_, ?_, ?_⟩ <;>
        simp [standing, hfirst, hday, hfeast]
  | feast hlast hprevious hfeast =>
      exact hdated.append (hdated.two_le_length hlast hprevious) (by simp) (by simp; rfl)
        (by simp [standing])
  | arena hlast hprevious hfeast hroll =>
      exact hdated.append (hdated.two_le_length hlast hprevious) (by simp) (by simp; rfl)
        (by simp [standing, rollArena])
  | night hlast hfeast hroll =>
      exact hdated.append (hdated.two_le_length hlast (by simp)) (by simp) (by simp; rfl)
        (by simp [standing, rollArena])
  | @newDay previous hlast hprevious hfeast hroll =>
      have hne : previous ≠ .bloodbath := by rcases hprevious with rfl | rfl | rfl <;> simp
      exact hdated.append (hdated.two_le_length hlast hne) (by simp) (by simp [standing])
        (by simp [standing, rollArena])

/-! ## A round that is begun is lawful -/

/-- Whether the feast is due can be told from the rounds begun and from the contest. -/
theorem feastDue_iff {g : Game σ} (hdated : Dated c past g.standing)
    (hkeeps : c.Keeps g.contest) :
    g.feastDue = true ↔ (∀ a ∈ past, a.kind ≠ .feast) ∧ c.pools.feast ≠ [] ∧
      2 * g.contest.remaining ≤ c.roster.length := by
  have hfeast : g.feastUsed = past.any (·.kind = .feast) := hdated.feastUsed_eq
  have hentrants : g.entrants = c.roster.length := hdated.entrants_eq
  unfold feastDue
  rw [hfeast, hentrants, hkeeps.pools]
  simp [Nat.mul_comm, and_assoc]

theorem Follows.kind_eq_feast_iff {src : Source σ} {g g₁ : Game σ} {kind : RoundKind}
    (h : Follows src g (.ok kind) g₁) (hdated : Dated c past g.standing)
    (hlength : 2 ≤ past.length) : kind = .feast ↔ g.feastDue = true := by
  cases h with
  | bloodbath hlast =>
      rw [hdated.eq_nil hlast] at hlength
      simp at hlength
  | firstDay hlast =>
      rw [hdated.length_eq_one hlast] at hlength
      omega
  | feast _ _ hfeast => simp [hfeast]
  | arena _ _ hfeast => simp [hfeast]
  | night _ hfeast => simp [hfeast]
  | newDay _ _ hfeast => simp [hfeast]

theorem Follows.lawful {src : Source σ} {g g₁ : Game σ} {kind : RoundKind}
    (h : Follows src g (.ok kind) g₁) (hdated : Dated c past g.standing)
    (hkeeps : c.Keeps g.contest) : Lawful c past ⟨kind, g₁.day, g.contest⟩ := by
  have hdated₁ := h.dated hdated
  refine ⟨?_, ?_, ?_, ?_, ?_, ?_⟩
  · rw [hdated₁.bloodbath_iff _ List.getLast?_concat]
    simp
  · intro hone
    cases h with
    | bloodbath hlast =>
        rw [hdated.eq_nil hlast] at hone
        simp at hone
    | firstDay => rfl
    | feast hlast hprevious | arena hlast hprevious =>
        have := hdated.two_le_length hlast hprevious
        omega
    | night hlast =>
        have := hdated.two_le_length hlast (by simp)
        omega
    | newDay hlast hprevious =>
        have := hdated.two_le_length hlast (by rcases hprevious with rfl | rfl | rfl <;> simp)
        omega
  · cases h <;> simp
  · rintro rfl
    cases h with
    | night hlast =>
        obtain ⟨last, hgetLast, hkind, hday⟩ := hdated.exists_last hlast
        exact ⟨last, hgetLast, hkind, hday.symm⟩
  · intro hlength
    rw [h.kind_eq_feast_iff hdated hlength]
    exact feastDue_iff hdated hkeeps
  · -- there are at most as many day rounds as rounds, so the count has not wrapped
    intro hpast hlength
    have hpos := List.length_pos_iff.mpr hpast
    have hday := hdated₁.day_eq (by rw [List.length_append, List.length_singleton]; omega)
    refine (congrArg UInt32.toNat hday).trans ?_
    rw [UInt32.toNat_ofNat', Nat.mod_eq_of_lt]
    exact Nat.lt_of_le_of_lt List.countP_le_length hlength

/-! ## Any number of calls -/

/-- The calendar of a game in which the rounds `past` have begun, and the law for each of them. -/
structure Calendar (c : Contest) (past : List Beginning) (g : Game σ) : Prop where
  keeps : c.Keeps g.contest
  dated : Dated c past g.standing
  orderly : Orderly c past

theorem Orderly.concat {b : Beginning} (h : Orderly c past) (hb : Lawful c past b) :
    Orderly c (past ++ [b]) := by
  intro before a after hsplit
  rcases List.eq_nil_or_concat after with rfl | ⟨after, last, rfl⟩
  · obtain ⟨rfl, hab⟩ := List.append_inj' hsplit rfl
    obtain rfl := List.singleton_inj.mp hab
    exact hb
  · rw [List.concat_eq_append, ← List.cons_append, ← List.append_assoc] at hsplit
    obtain ⟨hpast, -⟩ := List.append_inj' hsplit rfl
    exact h before a after hpast

theorem Orderly.countP_feast_le_one (h : Orderly c past) :
    past.countP (·.kind = .feast) ≤ 1 := by
  induction past using List.reverseRecOn with
  | nil => simp
  | append_singleton past b ih =>
      have hb := h past b [] rfl
      have hpast : past.countP (·.kind = .feast) ≤ 1 := by
        apply ih
        intro before a after hsplit
        exact h before a (after ++ [b]) (by simp [hsplit])
      rw [List.countP_append]
      by_cases hfeast : b.kind = .feast
      · have hne : past ≠ [] := by
          intro hnil
          rw [hb.bloodbath_iff.mpr hnil] at hfeast
          cases hfeast
        have hnotOne : past.length ≠ 1 := by
          intro hone
          rw [hb.day_of_second hone] at hfeast
          cases hfeast
        have hpos := List.length_pos_iff.mpr hne
        have hfirst := ((hb.feast_iff (by omega)).mp hfeast).1
        have hzero : past.countP (·.kind = .feast) = 0 := by
          simpa [List.countP_eq_zero] using hfirst
        simp [hzero, hfeast]
      · simpa [hfeast] using hpast

theorem Calendar.advance {src : Source σ} {g : Game σ} (h : Calendar c past g) :
    Calendar c (past ++ (g.beginning? src).toList) (g.advance src).2 := by
  have hkeeps := h.keeps.trans (keeps_advance src g)
  -- beginning a round carries the calendar forward, whatever becomes of the arena
  have hbegins : ∀ {kind g₁ arena}, g.beginning? src = some ⟨kind, g₁.day, g.contest⟩ →
      Follows src g (.ok kind) g₁ →
      (g.advance src).2.standing = { g₁.standing with arena := arena } →
      Calendar c (past ++ (g.beginning? src).toList) (g.advance src).2 := by
    intro kind g₁ arena hbegins hfollows hstanding
    rw [hbegins, Option.toList_some]
    refine ⟨hkeeps, ?_, h.orderly.concat (hfollows.lawful h.dated h.keeps)⟩
    rw [hstanding]
    exact (hfollows.dated h.dated).withArena arena
  cases calls_advance src g with
  | idle hnone _ hstanding =>
      rw [hnone, Option.toList_none, List.append_nil]
      exact ⟨hkeeps, hstanding ▸ h.dated, h.orderly⟩
  | failed hb hfollows _ hstanding => exact hbegins hb hfollows hstanding
  | reported hb hfollows _ _ _ _ hstanding => exact hbegins hb hfollows hstanding

theorem calendar_later (c : Contest) (src : Source σ) (seed : String) (dice : σ) (n : Nat) :
    Calendar c ((start c seed dice).begun src n) ((start c seed dice).later src n) := by
  induction n with
  | zero => exact ⟨.refl c, dated_start c seed dice, by simp [Orderly, begun]⟩
  | succ n ih =>
      rw [begun_succ, later_succ]
      exact ih.advance

/-- Whatever the calls return, the rounds they begin are orderly, with one feast at most. -/
theorem orderly_begun (c : Contest) (src : Source σ) (seed : String) (dice : σ) (n : Nat) :
    Orderly c ((start c seed dice).begun src n) ∧
      ((start c seed dice).begun src n).countP (·.kind = .feast) ≤ 1 := by
  have horderly := (calendar_later c src seed dice n).orderly
  exact ⟨horderly, horderly.countP_feast_le_one⟩

def quietSpec : String :=
  "[players]\n\"Ann\"\ngender:F, height:1m\n\"Bo\"\ngender:M, height:1m\n" ++
  "[bloodbath]\n\"%1% waits.\"\ntributes:1\n[day]\n\"%1% naps.\"\ntributes:1\n"

/-- Four calls begin four rounds, though the third fails for want of night events. -/
theorem orderly_begun_of_quiet :
    ∃ reading, Spec.parse quietSpec = .ok reading ∧
      (((start reading.contest "" ()).begun .first 4).map fun b => (b.kind, b.day)) =
        [(.bloodbath, 1), (.day, 1), (.night, 1), (.day, 2)] ∧
      Orderly reading.contest ((start reading.contest "" ()).begun .first 4) := by
  obtain ⟨reading, hparse, hrounds⟩ :=
    Spec.exists_of_parse quietSpec
      (P := fun reading =>
        (((start reading.contest "" ()).begun .first 4).map fun b => (b.kind, b.day)) =
          [(.bloodbath, 1), (.day, 1), (.night, 1), (.day, 2)])
      (by decide +kernel)
  exact ⟨reading, hparse, of_decide_eq_true hrounds,
    (orderly_begun reading.contest .first "" () 4).1⟩

end Tournament.Game
