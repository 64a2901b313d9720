import Tournament.Proofs.Renaming
import Tournament.Proofs.Requests

/-!
# Names carry no information

A game and the same game with its players renamed, on equal dice, stay renamings of each other
whatever is asked of them: they play the same turns with the players at the same places, ask chance
for the same, and report the same but for the names (`Renames.later`).  The calls are followed along
`Plays` and `Advances`, which leave no choice to a call (`Advances.advance_eq`).
-/

namespace Tournament

open Draw (Agree Source)

variable {σ : Type} {src : Source σ} {f : String → String}

/-! ## Reports under other names -/

structure Turn.Renames (f : String → String) (t u : Turn) : Prop where
  before : t.before.Renames f u.before
  kind : u.kind = t.kind
  event : u.event = t.event
  ids : u.ids = t.ids

/-- `b` is the report `a` with the players renamed: the text is that of one event for players with
the old names and with the new ones. -/
structure EventReport.Renames (f : String → String) (a b : EventReport) : Prop where
  kind : b.kind = a.kind
  players : b.players = a.players.map f
  eliminated : b.eliminated = a.eliminated.map f
  text : ∃ (e : Event) (ps qs : List Player), List.Forall₂ (Player.Renamed f) ps qs ∧
    ps.map (·.name) = a.players ∧ a.text = e.render ps ∧ b.text = e.render qs

structure RoundReport.Renames (f : String → String) (r s : RoundReport) : Prop where
  day : s.day = r.day
  round : s.round = r.round
  arena : s.arena = r.arena
  events : List.Forall₂ (EventReport.Renames f) r.events s.events
  winner : s.winner = r.winner.map (Winner.rename f)

theorem Turn.Renames.after {t u : Turn} (h : t.Renames f u) : t.after.Renames f u.after := by
  unfold Turn.after
  rw [h.event, h.ids]
  exact h.before.applyEffects t.event t.ids

theorem Turn.Renames.report {t u : Turn} (h : t.Renames f u) : t.report.Renames f u.report := by
  have hout : u.out = t.out := by
    unfold Turn.out
    rw [h.ids]
    congr 1
    funext id
    rw [h.after.isAliveAt_eq]
  refine ⟨h.kind, ?_, ?_, ?_⟩
  · change u.before.namesAt u.ids = (t.before.namesAt t.ids).map f
    rw [h.ids, h.before.namesAt_eq]
  · change u.after.namesAt u.out = (t.after.namesAt t.out).map f
    rw [hout, h.after.namesAt_eq]
  · refine ⟨t.event, t.ids.filterMap (t.before.roster[·]?), t.ids.filterMap (u.before.roster[·]?),
      h.before.filterMap t.ids, Contest.map_name_filterMap _ _, rfl, ?_⟩
    change u.event.render _ = _
    rw [h.event, h.ids]

namespace Game

variable {round : RoundKind} {deck : Deck} {pool : List Nat} {g g' : Game σ} {turns : List Turn}
  {failure? : Option GameError} {result : Except GameError RoundReport}

/-! ## The stages of a call -/

/-- `h` is the game `g` with the players renamed, on the same dice. -/
structure Renames (f : String → String) (g h : Game σ) : Prop where
  contest : g.contest.Renames f h.contest
  dice : h.dice = g.dice
  standing : h.standing = g.standing

variable {h h' : Game σ}

theorem Renames.day_eq (hr : g.Renames f h) : h.day = g.day :=
  congrArg Standing.day hr.standing

theorem Renames.lastRound_eq (hr : g.Renames f h) : h.lastRound = g.lastRound :=
  congrArg Standing.lastRound hr.standing

theorem Renames.arena_eq (hr : g.Renames f h) : h.arena = g.arena :=
  congrArg Standing.arena hr.standing

theorem Renames.currentArena?_eq (hr : g.Renames f h) : h.currentArena? = g.currentArena? := by
  unfold currentArena?
  rw [hr.arena_eq, hr.contest.arenas]

theorem Renames.feastDue_eq (hr : g.Renames f h) : h.feastDue = g.feastDue := by
  have hused : h.feastUsed = g.feastUsed := congrArg Standing.feastUsed hr.standing
  have hentrants : h.entrants = g.entrants := congrArg Standing.entrants hr.standing
  unfold feastDue
  rw [hused, hentrants, hr.contest.pools, hr.contest.remaining_eq]

theorem Renames.deck_eq (hr : g.Renames f h) (round : RoundKind) : h.deck round = g.deck round := by
  unfold deck
  rw [hr.currentArena?_eq, hr.contest.pools]

theorem Renames.tell (hr : g.Renames f h) (channel : Channel) (s t : String) :
    (g.tell channel s).Renames f (h.tell channel t) :=
  ⟨hr.contest, hr.dice, hr.standing⟩

theorem Renames.withDice (hr : g.Renames f h) (dice : σ) :
    { g with dice }.Renames f { h with dice } :=
  ⟨hr.contest, rfl, hr.standing⟩

theorem Renames.tellFailure (hr : g.Renames f h) (kind : RoundKind) (number : Nat)
    (failure : Casting) :
    (g.tellFailure kind number failure).Renames f (h.tellFailure kind number failure) := by
  cases failure <;> exact ⟨hr.contest, hr.dice, hr.standing⟩

theorem Renames.eventKind (hr : g.Renames f h) (src : Source σ) (round : RoundKind) :
    Agree (Renames f) (g.eventKind src round) (h.eventKind src round) := by
  unfold Game.eventKind
  rw [hr.contest.rules, hr.contest.pools, hr.dice]
  cases round.fatal? with
  | none => exact ⟨_, _, _, rfl, rfl, hr⟩
  | some fatal => exact ⟨_, _, _, rfl, rfl, hr.withDice _⟩

theorem Renames.drawEvent (hr : g.Renames f h) (src : Source σ) (round kind : RoundKind)
    (pool : List Nat) (cards : List Card) :
    Agree (Renames f) (drawEvent src round kind pool cards g)
      (drawEvent src round kind pool cards h) := by
  induction hlength : cards.length using Nat.strongRecOn generalizing cards g h with
  | ind n ih =>
  subst hlength
  rw [Game.drawEvent, Game.drawEvent.eq_def src round kind pool cards h]
  simp only [hr.dice]
  cases src.choose (cards.map (·.event.rarity)) g.dice with
  | mk choice dice =>
  cases choice with
  | error e => exact ⟨_, _, _, rfl, rfl, hr.withDice dice⟩
  | ok i =>
      have hi : i.val < cards.length := by simpa using i.isLt
      have hlt : (cards.eraseIdx i.val).length < cards.length := by
        rw [List.length_eraseIdx_of_lt hi]
        omega
      simp only [hr.contest.cast_eq]
      cases g.contest.cast src cards[i.val].event pool dice with
      | mk casting dice' =>
      cases casting with
      | cast ids => exact ⟨_, _, _, rfl, rfl, hr.withDice dice'⟩
      | noTeam letter => exact ih _ hlt ((hr.withDice dice').tellFailure _ _ _) _ rfl
      | noPlayer => exact ih _ hlt ((hr.withDice dice').tellFailure _ _ _) _ rfl

theorem Renames.rollArena (hr : g.Renames f h) (src : Source σ) :
    Agree (Renames f) (g.rollArena src) (h.rollArena src) := by
  unfold Game.rollArena
  rw [hr.contest.rules, hr.contest.arenas, hr.dice]
  exact ⟨_, _, _, rfl, rfl, hr.withDice _⟩

theorem Renames.begin (hr : g.Renames f h) (kind : RoundKind) :
    Agree (Renames f) (g.begin kind) (h.begin kind) := by
  refine ⟨_, _, _, rfl, rfl, hr.contest, hr.dice, ?_⟩
  change { h.standing with lastRound := some kind } = { g.standing with lastRound := some kind }
  rw [hr.standing]

theorem Renames.withDay (hr : g.Renames f h) (day : UInt32) :
    { g with day }.Renames f { h with day } := by
  refine ⟨hr.contest, hr.dice, ?_⟩
  change { h.standing with day } = { g.standing with day }
  rw [hr.standing]

theorem Renames.withFeast (hr : g.Renames f h) :
    { g with feastUsed := true }.Renames f { h with feastUsed := true } := by
  refine ⟨hr.contest, hr.dice, ?_⟩
  change { h.standing with feastUsed := true } = { g.standing with feastUsed := true }
  rw [hr.standing]

theorem Renames.withArena (hr : g.Renames f h) (arena : Option Nat) :
    { g with arena }.Renames f { h with arena } := by
  refine ⟨hr.contest, hr.dice, ?_⟩
  change { h.standing with arena } = { g.standing with arena }
  rw [hr.standing]

theorem Renames.nextRound (hr : g.Renames f h) (src : Source σ) :
    Agree (Renames f) (g.nextRound src) (h.nextRound src) := by
  obtain ⟨hit, g₁, h₁, hroll, hroll', hr₁⟩ := hr.rollArena src
  unfold Game.nextRound
  rw [hroll, hroll', hr.lastRound_eq, hr.feastDue_eq]
  have hnewDay : Agree (Renames f) ({ g₁ with day := g₁.day + 1 }.begin .day)
      ({ h₁ with day := h₁.day + 1 }.begin .day) := by
    rw [hr₁.day_eq]
    exact (hr₁.withDay _).begin .day
  cases g.lastRound with
  | none =>
      dsimp only
      rw [hr.day_eq]
      split_ifs with hday
      · exact (hr.withDay 1).begin .bloodbath
      · exact ⟨_, _, _, rfl, rfl, hr⟩
  | some previous =>
      cases previous with
      | bloodbath => exact hr.begin .day
      | day =>
          dsimp only
          split_ifs
          · exact hr.withFeast.begin .feast
          · exact hr₁.begin .arena
          · exact hr₁.begin .night
      | night | arena | feast =>
          dsimp only
          split_ifs
          · exact hr.withFeast.begin .feast
          · exact hr₁.begin .arena
          · exact hnewDay
      | fatalDay | fatalNight =>
          dsimp only
          split_ifs
          · exact hr.withFeast.begin .feast
          · exact hr₁.begin .arena
          · exact ⟨_, _, _, rfl, rfl, hr₁⟩

theorem Renames.enterArena (hr : g.Renames f h) (src : Source σ) (round : RoundKind) :
    (g.enterArena src round).Renames f (h.enterArena src round) := by
  have harenas := congrArg List.length hr.contest.arenas
  unfold Game.enterArena
  rw [hr.arena_eq]
  by_cases hround : round = .arena ∧ g.arena.isNone = true
  · rw [if_pos hround, if_pos hround]
    by_cases hpos : 0 < g.contest.arenas.length
    · have hpos' : 0 < h.contest.arenas.length := harenas ▸ hpos
      have hindex : ∀ m (hm : 0 < m), m = g.contest.arenas.length →
          (src.index m hm h.dice).1.val = (src.index _ hpos g.dice).1.val ∧
            (src.index m hm h.dice).2 = (src.index _ hpos g.dice).2 := by
        rintro m hm rfl
        rw [hr.dice]
        exact ⟨rfl, rfl⟩
      obtain ⟨hplace, hdice⟩ := hindex _ hpos' harenas
      rw [dif_pos hpos, dif_pos hpos']
      refine ⟨hr.contest, hdice, ?_⟩
      change { h.standing with arena := some (src.index _ hpos' h.dice).1.val } =
        { g.standing with arena := some (src.index _ hpos g.dice).1.val }
      rw [hr.standing, hplace]
    · rw [dif_neg hpos, dif_neg (harenas ▸ hpos)]
      exact hr
  · rw [if_neg hround, if_neg hround]
    exact hr

theorem Renames.announce (hr : g.Renames f h) (round : RoundKind) :
    (g.announce round).Renames f (h.announce round) := by
  unfold Game.announce
  dsimp only
  rw [show (h.tell .info _).currentArena? = h.currentArena? from rfl, hr.currentArena?_eq,
    show (g.tell .info _).currentArena? = g.currentArena? from rfl]
  cases g.currentArena? with
  | none => exact hr.tell .info _ _
  | some arena => exact (hr.tell .info _ _).tell .narrative _ _

theorem Renames.opening (hr : g.Renames f h) (src : Source σ) (round : RoundKind) :
    (g.opening src round).Renames f (h.opening src round) :=
  (hr.enterArena src round).announce round

theorem Renames.closing (hr : g.Renames f h) (round : RoundKind) :
    (g.closing round).Renames f (h.closing round) := by
  have hleft : (g.leaveArena round).Renames f (h.leaveArena round) := by
    unfold Game.leaveArena
    split_ifs
    · exact hr.withArena none
    · exact hr
  have htold : ∀ g : Game σ, g.proclaim.contest = g.contest ∧ g.proclaim.dice = g.dice ∧
      g.proclaim.standing = g.standing := by
    intro g
    unfold proclaim
    split <;> exact ⟨rfl, rfl, rfl⟩
  obtain ⟨hcontest, hdice, hstanding⟩ := htold (g.leaveArena round)
  obtain ⟨hcontest', hdice', hstanding'⟩ := htold (h.leaveArena round)
  refine ⟨?_, ?_, ?_⟩
  · change (g.leaveArena round).proclaim.contest.Renames f (h.leaveArena round).proclaim.contest
    rw [hcontest, hcontest']
    exact hleft.contest
  · change (h.leaveArena round).proclaim.dice = (g.leaveArena round).proclaim.dice
    rw [hdice, hdice', hleft.dice]
  · change (h.leaveArena round).proclaim.standing = (g.leaveArena round).proclaim.standing
    rw [hstanding, hstanding', hleft.standing]

/-! ## Rounds and calls -/

theorem Renames.playEvent (hr : g.Renames f h) (kind : RoundKind) (e : Event) (ids : List Nat) :
    (g.playEvent kind e ids).2.Renames f (h.playEvent kind e ids).2 :=
  ⟨hr.contest.applyEffects e ids, hr.dice, hr.standing⟩

theorem Renames.fits_iff (hr : g.Renames f h) (kind : RoundKind) (e : Event) (ids : List Nat) :
    Turn.Fits ⟨h.contest, kind, e, ids⟩ ↔ Turn.Fits ⟨g.contest, kind, e, ids⟩ := by
  unfold Turn.Fits
  rw [hr.contest.holdsEffects_eq]

theorem Plays.renames (hplays : Plays src round deck pool g turns failure? g')
    (hr : g.Renames f h) :
    ∃ turns' h', Plays src round deck pool h turns' failure? h' ∧
      List.Forall₂ (Turn.Renames f) turns turns' ∧ g'.Renames f h' := by
  induction hplays generalizing h with
  | placed deck g => exact ⟨[], h, .placed deck h, .nil, hr⟩
  | decided hpool hover =>
      have hover' : h.contest.isOver = true := by rw [hr.contest.isOver_eq, hover]
      exact ⟨[], _, .decided hpool hover', .nil, hr.tell .debug _ _⟩
  | @stuck deck pool g g₁ g₂ kind e hpool hopen hkind hdraw =>
      have hopen' : h.contest.isOver = false := by rw [hr.contest.isOver_eq, hopen]
      obtain ⟨_, _, h₁, hk, hkind', hr₁⟩ := hr.eventKind src round
      cases hkind.symm.trans hk
      obtain ⟨_, _, h₂, hd, hdraw', hr₂⟩ := hr₁.drawEvent src round kind pool (deck.cards round kind)
      cases hdraw.symm.trans hd
      exact ⟨[], h₂, .stuck hpool hopen' hkind' hdraw', .nil, hr₂⟩
  | @full deck pool g g₁ g₂ kind cast hpool hopen hkind hdraw hfits =>
      have hopen' : h.contest.isOver = false := by rw [hr.contest.isOver_eq, hopen]
      obtain ⟨_, _, h₁, hk, hkind', hr₁⟩ := hr.eventKind src round
      cases hkind.symm.trans hk
      obtain ⟨_, _, h₂, hd, hdraw', hr₂⟩ := hr₁.drawEvent src round kind pool (deck.cards round kind)
      cases hdraw.symm.trans hd
      have hsame := hr.fits_iff kind cast.event cast.ids
      exact ⟨[], h₂, .full hpool hopen' hkind' hdraw' (hsame.not.mpr hfits), .nil, hr₂⟩
  | @turn deck pool g g₁ g₂ g' kind cast turns failure? hpool hopen hkind hdraw hfits _ ih =>
      have hopen' : h.contest.isOver = false := by rw [hr.contest.isOver_eq, hopen]
      obtain ⟨_, _, h₁, hk, hkind', hr₁⟩ := hr.eventKind src round
      cases hkind.symm.trans hk
      obtain ⟨_, _, h₂, hd, hdraw', hr₂⟩ := hr₁.drawEvent src round kind pool (deck.cards round kind)
      cases hdraw.symm.trans hd
      obtain ⟨turns', h', hrest, hturns, hr'⟩ := ih (hr₂.playEvent kind cast.event cast.ids)
      have hfits' := (hr.fits_iff kind cast.event cast.ids).mpr hfits
      exact ⟨_, h', .turn hpool hopen' hkind' hdraw' hfits' hrest,
        .cons ⟨hr.contest, rfl, rfl, rfl⟩ hturns, hr'⟩

/-- The two calls fail alike, or report the same but for the names. -/
inductive ReportedAlike (f : String → String) :
    Except GameError RoundReport → Except GameError RoundReport → Prop where
  | failed (e : GameError) : ReportedAlike f (.error e) (.error e)
  | reported {r s : RoundReport} (h : r.Renames f s) : ReportedAlike f (.ok r) (.ok s)

theorem roundReport_renames (hr : g.Renames f h) {g₁ h₁ : Game σ} (hopened : g₁.Renames f h₁)
    {turns turns' : List Turn} (hturns : List.Forall₂ (Turn.Renames f) turns turns')
    (round : RoundKind) :
    (roundReport round g₁ g turns).Renames f (roundReport round h₁ h turns') := by
  refine ⟨hr.day_eq, rfl, ?_, ?_, hr.contest.winner?_eq⟩
  · change h₁.currentArena?.map (·.name) = g₁.currentArena?.map (·.name)
    rw [hopened.currentArena?_eq]
  · change List.Forall₂ _ (turns.map Turn.report) (turns'.map Turn.report)
    rw [List.forall₂_map_left_iff, List.forall₂_map_right_iff]
    exact hturns.imp fun t u htu => htu.report

theorem Advances.renames (hadvances : Advances src g turns result g') (hr : g.Renames f h) :
    ∃ turns' result' h', Advances src h turns' result' h' ∧
      List.Forall₂ (Turn.Renames f) turns turns' ∧ ReportedAlike f result result' ∧
      g'.Renames f h' := by
  have hover_eq := hr.contest.isOver_eq
  cases hadvances with
  | decided hover => exact ⟨[], _, h, .decided (hover_eq.trans hover), .nil, .failed _, hr⟩
  | @noRound g₁ e hopen hnext =>
      obtain ⟨_, _, h₁, hn, hnext', hr₁⟩ := hr.nextRound src
      cases hnext.symm.trans hn
      exact ⟨[], _, h₁, .noRound (hover_eq.trans hopen) hnext', .nil, .failed e, hr₁⟩
  | @noDeck g₁ round e hopen hnext hdeck =>
      obtain ⟨_, _, h₁, hn, hnext', hr₁⟩ := hr.nextRound src
      cases hnext.symm.trans hn
      have hopening := hr₁.opening src round
      exact ⟨[], _, _, .noDeck (hover_eq.trans hopen) hnext' ((hopening.deck_eq round).trans hdeck),
        .nil, .failed e, hopening⟩
  | @broken g₁ g₂ round deck turns e hopen hnext hdeck hplays =>
      obtain ⟨_, _, h₁, hn, hnext', hr₁⟩ := hr.nextRound src
      cases hnext.symm.trans hn
      have hopening := hr₁.opening src round
      obtain ⟨turns', h₂, hplays', hturns, hr₂⟩ := hplays.renames hopening
      rw [← hr.contest.aliveIds_eq] at hplays'
      exact ⟨turns', _, h₂, .broken (hover_eq.trans hopen) hnext'
        ((hopening.deck_eq round).trans hdeck) hplays', hturns, .failed e, hr₂⟩
  | @finished g₁ g₂ round deck turns hopen hnext hdeck hplays =>
      obtain ⟨_, _, h₁, hn, hnext', hr₁⟩ := hr.nextRound src
      cases hnext.symm.trans hn
      have hopening := hr₁.opening src round
      obtain ⟨turns', h₂, hplays', hturns, hr₂⟩ := hplays.renames hopening
      rw [← hr.contest.aliveIds_eq] at hplays'
      exact ⟨turns', _, _, .finished (hover_eq.trans hopen) hnext'
        ((hopening.deck_eq round).trans hdeck) hplays', hturns,
        .reported (roundReport_renames hr₂ hopening hturns round), hr₂.closing round⟩

/-! ## Any number of calls -/

theorem Renames.advance (hr : g.Renames f h) (src : Source σ) :
    (g.advance src).2.Renames f (h.advance src).2 := by
  obtain ⟨turns, hadvances⟩ := exists_advances src g
  obtain ⟨turns', result', h', hadvances', -, -, hr'⟩ := hadvances.renames hr
  rw [hadvances'.advance_eq]
  exact hr'

theorem Renames.later (hr : g.Renames f h) (src : Source σ) (n : Nat) :
    (g.later src n).Renames f (h.later src n) := by
  induction n with
  | zero => exact hr
  | succ n ih =>
      rw [later_succ, later_succ]
      exact ih.advance src

theorem renames_start {c d : Contest} (hcd : c.Renames f d) (seed : String) (dice : σ) :
    (start c seed dice).Renames f (start d seed dice) := by
  refine ⟨hcd, rfl, ?_⟩
  change Standing.mk 0 none none false d.roster.length = Standing.mk 0 none none false c.roster.length
  rw [hcd.roster.length_eq]

/-- Two games that differ in the names and pictures of the players only, played with the same seed:
after any number of calls they stand alike, have asked chance for the same, and the next call plays
the same events with players at the same places and returns the same but for the names. -/
theorem names_carry_no_information {c d : Contest} (hcd : c.Renames f d) (src : Source σ)
    (seed : String) (dice : σ) (n : Nat) :
    ((start c seed dice).later src n).Renames f ((start d seed dice).later src n) ∧
      ((start d seed (dice, [])).later src.recorded n).dice =
        ((start c seed (dice, [])).later src.recorded n).dice ∧
      ∃ turns turns' result result',
        Advances src ((start c seed dice).later src n) turns result
          ((start c seed dice).later src (n + 1)) ∧
        Advances src ((start d seed dice).later src n) turns' result'
          ((start d seed dice).later src (n + 1)) ∧
        List.Forall₂ (Turn.Renames f) turns turns' ∧ ReportedAlike f result result' := by
  have hr := (renames_start hcd seed dice).later src n
  refine ⟨hr, ((renames_start hcd seed (dice, [])).later src.recorded n).dice, ?_⟩
  obtain ⟨turns, hadvances⟩ := exists_advances src ((start c seed dice).later src n)
  obtain ⟨turns', result', h', hadvances', hturns, halike, -⟩ := hadvances.renames hr
  refine ⟨turns, turns', _, result', ?_, ?_, hturns, halike⟩
  · rw [later_succ]
    exact hadvances
  · rw [later_succ, hadvances'.advance_eq]
    exact hadvances'

/-- A duel in which the second player drowns, for players with given names and metadata. -/
def duelSpec (first second : String) : String :=
  "[players]\n" ++ first ++ "\n" ++ second ++
    "\n[bloodbath]\n\"%1% drowns.\"\ntributes:1, elim:1\n"

/-- Ann wins a duel with Bo, and so does Zoe one with Al, though Zoe's name comes after Al's. -/
theorem duel_under_other_names :
    ∃ (reading reading' : Spec.Reading) (report report' : RoundReport),
      reading.contest.roster.map (·.name) = ["Ann", "Bo"] ∧
      reading'.contest.roster.map (·.name) = ["Zoe", "Al"] ∧
      ((start reading.contest "" ()).advance .first).1 = .ok report ∧
      ((start reading'.contest "" ()).advance .first).1 = .ok report' ∧
      report.winner = some (.player "Ann") ∧ report'.winner = some (.player "Zoe") := by
  let other (name : String) : String := if name = "Ann" then "Zoe" else "Al"
  let first := duelSpec "\"Ann\"\ngender:F, height:1m" "\"Bo\"\ngender:M, height:1m"
  obtain ⟨reading, hparse, hreading⟩ :=
    Spec.exists_of_parse first
      (P := fun reading => reading.contest.roster.map (·.name) = ["Ann", "Bo"] ∧
        ((start reading.contest "" ()).advance .first).1.toOption.map (·.winner) =
          some (some (.player "Ann")))
      (by decide +kernel)
  obtain ⟨hnames, hwinner⟩ := of_decide_eq_true hreading
  obtain ⟨reading', -, hreading'⟩ :=
    Spec.exists_of_parse
      (duelSpec "\"Zoe\"\ngender:F, height:1m, url:https://a.example/zoe.png"
        "\"Al\"\ngender:M, height:1m")
      (P := fun reading' => reading'.contest.roster.map (·.name) = ["Zoe", "Al"] ∧
        (Spec.parse first).toOption.any (·.contest.Renames other reading'.contest))
      (by decide +kernel)
  obtain ⟨hnames', hrenames⟩ := of_decide_eq_true hreading'
  rw [hparse] at hrenames
  obtain ⟨-, -, turns, turns', result, result', hadvances, hadvances', -, halike⟩ :=
    names_carry_no_information (of_decide_eq_true hrenames) .first "" () 0
  have hcall : (start reading.contest "" ()).advance .first = (result, _) := hadvances.advance_eq
  have hcall' : (start reading'.contest "" ()).advance .first = (result', _) :=
    hadvances'.advance_eq
  rw [hcall] at hwinner
  cases halike with
  | failed e => cases hwinner
  | @reported report report' h =>
      have hwon : report.winner = some (.player "Ann") := Option.some.inj hwinner
      refine ⟨reading, reading', report, report', hnames, hnames', ?_, ?_, hwon, ?_⟩
      · rw [hcall]
      · rw [hcall']
      · rw [h.winner, hwon]
        rfl

end Game
end Tournament
