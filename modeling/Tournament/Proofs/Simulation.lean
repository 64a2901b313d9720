import Tournament.Proofs.Advance

/-!
# Games on two sources

A game learns of chance only what its source answers, and asks it only for what can be had.  So two
sources whose answers to such requests are the same (`Draw.Source.Matches`) make the same game of
it: the agreement of the sources is carried through every stage of a call (`agree_advance`).
-/

namespace Tournament

open Draw (Source)

variable {σ τ : Type}

namespace Draw

inductive Request where
  | below (width : Width) (n : Nat)
  | weighted (weights : List Float)
  deriving DecidableEq, Repr

/-- There is an answer: a number below the bound, or a weight to choose. -/
def Request.Sound : Request → Prop
  | .below _ n => 0 < n
  | .weighted weights => weightError? weights = none

def Source.answer (src : Source σ) (s : σ) : Request → Nat × σ
  | .below width n => src.below width n s
  | .weighted weights => src.weighted weights s

def Agree {α σ τ : Type} (R : σ → τ → Prop) (x : α × σ) (y : α × τ) : Prop :=
  ∃ a s t, x = (a, s) ∧ y = (a, t) ∧ R s t

/-- From related states the sources give the same answer to every sound request, and their states
are then related again. -/
def Source.Matches (R : σ → τ → Prop) (src : Source σ) (src' : Source τ) : Prop :=
  ∀ (request : Request) s t, request.Sound → R s t →
    Agree R (src.answer s request) (src'.answer t request)

namespace Source

variable {R : σ → τ → Prop} {src : Source σ} {src' : Source τ} {s : σ} {t : τ}

theorem Matches.below (h : Matches R src src') (hR : R s t) (width : Width) {n : Nat}
    (hn : 0 < n) : Agree R (src.below width n s) (src'.below width n t) :=
  h (.below width n) s t hn hR

theorem Matches.index (h : Matches R src src') (hR : R s t) (n : Nat) (hn : 0 < n) :
    Agree R (src.index n hn s) (src'.index n hn t) := by
  obtain ⟨i, s', t', hs, ht, hR'⟩ := h.below hR .wide hn
  have hi : i < n := by simpa [hs] using src.below_lt .wide n s hn
  exact ⟨⟨i, hi⟩, s', t', by simp [Source.index, hs], by simp [Source.index, ht], hR'⟩

theorem Matches.roll (h : Matches R src src') (hR : R s t) {faces : Nat} (hfaces : 0 < faces) :
    Agree R (src.roll faces s) (src'.roll faces t) := by
  obtain ⟨i, s', t', hs, ht, hR'⟩ := h.below hR .narrow hfaces
  exact ⟨i + 1, s', t', by rw [Source.roll, hs], by rw [Source.roll, ht], hR'⟩

theorem Matches.choose (h : Matches R src src') (hR : R s t) (weights : List Float) :
    Agree R (src.choose weights s) (src'.choose weights t) := by
  unfold Source.choose
  cases hweights : weightError? weights with
  | some e => exact ⟨.error e, s, t, rfl, rfl, hR⟩
  | none =>
      by_cases hne : weights = []
      · exact ⟨.error .noItem, s, t, by simp [hne], by simp [hne], hR⟩
      · obtain ⟨i, s', t', hs, ht, hR'⟩ := h (.weighted weights) s t hweights hR
        change src.weighted weights s = _ at hs
        change src'.weighted weights t = _ at ht
        have hi : i < weights.length := by simpa [hs] using src.weighted_lt weights s hne
        exact ⟨.ok ⟨i, hi⟩, s', t', by simp [hne, hs], by simp [hne, ht], hR'⟩

theorem Matches.shuffleFrom {α : Type} (h : Matches R src src') (hR : R s t) (i : Nat)
    (xs : Array α) : Agree R (src.shuffleFrom i xs s) (src'.shuffleFrom i xs t) := by
  induction i generalizing xs s t with
  | zero => exact ⟨xs, s, t, rfl, rfl, hR⟩
  | succ i ih =>
      obtain ⟨j, s', t', hs, ht, hR'⟩ := h.below hR .narrow (Nat.succ_pos (i + 1))
      rw [Source.shuffleFrom, Source.shuffleFrom, hs, ht]
      exact ih hR' (xs.swapIfInBounds (i + 1) j)

theorem Matches.shuffle {α : Type} (h : Matches R src src') (hR : R s t) (xs : List α) :
    Agree R (src.shuffle xs s) (src'.shuffle xs t) := by
  obtain ⟨shuffled, s', t', hs, ht, hR'⟩ := h.shuffleFrom hR (xs.length - 1) xs.toArray
  exact ⟨shuffled.toList, s', t', by rw [Source.shuffle, hs], by rw [Source.shuffle, ht], hR'⟩

end Source
end Draw

open Draw (Agree)

variable {R : σ → τ → Prop} {src : Source σ} {src' : Source τ}

/-! ## Casting -/

theorem agree_bindTeams (h : src.Matches R src') (slots : List Requirement) (free : List Char)
    (bound : List (Char × Char)) {s : σ} {t : τ} (hR : R s t) :
    Agree R (bindTeams src slots free bound s) (bindTeams src' slots free bound t) := by
  induction slots generalizing free bound s t with
  | nil => exact ⟨.ok bound, s, t, rfl, rfl, hR⟩
  | cons r rest ih =>
      unfold bindTeams
      cases hteam : r.team with
      | none => exact ih free bound hR
      | some letter =>
          dsimp only
          split_ifs with hbound hfree
          · exact ih free bound hR
          · obtain ⟨i, s', t', hs, ht, hR'⟩ := h.index hR free.length hfree
            rw [hs, ht]
            exact ih (free.eraseIdx i) (bound ++ [(letter, free[i])]) hR'
          · exact ⟨.error letter, s, t, rfl, rfl, hR⟩

theorem Contest.agree_cast (h : src.Matches R src') (c : Contest) (e : Event) (pool : List Nat)
    {s : σ} {t : τ} (hR : R s t) : Agree R (c.cast src e pool s) (c.cast src' e pool t) := by
  obtain ⟨candidates, s₁, t₁, hs, ht, hR₁⟩ := h.shuffle hR pool
  obtain ⟨teams, s₂, t₂, hs₂, ht₂, hR₂⟩ := agree_bindTeams h e.slots c.aliveTeams [] hR₁
  unfold cast
  simp only [hs, ht, hs₂, ht₂]
  cases teams with
  | error letter => exact ⟨.noTeam letter, s₂, t₂, rfl, rfl, hR₂⟩
  | ok bound =>
      dsimp only
      cases c.fill bound e.slots candidates with
      | none => exact ⟨.noPlayer, s₂, t₂, rfl, rfl, hR₂⟩
      | some ids => exact ⟨.cast ids, s₂, t₂, rfl, rfl, hR₂⟩

namespace Game

/-! ## The stages of a round -/

def withDice (g : Game σ) (dice : τ) : Game τ where
  contest := g.contest
  seed := g.seed
  dice := dice
  day := g.day
  lastRound := g.lastRound
  arena := g.arena
  feastUsed := g.feastUsed
  entrants := g.entrants
  chronicle := g.chronicle

def Alike (R : σ → τ → Prop) (g : Game σ) (g' : Game τ) : Prop :=
  ∃ dice, R g.dice dice ∧ g' = g.withDice dice

theorem Alike.contest_eq {g : Game σ} {g' : Game τ} (h : Alike R g g') :
    g'.contest = g.contest := by
  obtain ⟨_, _, rfl⟩ := h
  rfl

theorem agree_eventKind (h : src.Matches R src') {g : Game σ} {g' : Game τ} (hg : Alike R g g')
    (hrate : 0 < g.contest.rules.deathRate) (round : RoundKind) :
    Agree (Alike R) (g.eventKind src round) (g'.eventKind src' round) := by
  obtain ⟨dice, hR, rfl⟩ := hg
  unfold eventKind
  cases round.fatal? with
  | none => exact ⟨round, g, g.withDice dice, rfl, rfl, dice, hR, rfl⟩
  | some fatal =>
      obtain ⟨roll, s, t, hs, ht, hR'⟩ := h.roll hR hrate
      change src'.roll (g.withDice dice).contest.rules.deathRate (g.withDice dice).dice = _ at ht
      simp only [hs, ht]
      exact ⟨_, { g with dice := s }, { g.withDice dice with dice := t }, rfl, rfl, t, hR', rfl⟩

theorem agree_drawEvent (h : src.Matches R src') (round kind : RoundKind) (pool : List Nat)
    (cards : List Card) {g : Game σ} {g' : Game τ} (hg : Alike R g g') :
    Agree (Alike R) (drawEvent src round kind pool cards g)
      (drawEvent src' round kind pool cards g') := by
  induction hlength : cards.length using Nat.strongRecOn generalizing cards g g' with
  | ind n ih =>
  subst hlength
  obtain ⟨t, hR, rfl⟩ := hg
  obtain ⟨choice, s₁, t₁, hs₁, ht₁, hR₁⟩ := h.choose hR (cards.map (·.event.rarity))
  rw [drawEvent, drawEvent.eq_def src']
  simp only [withDice, hs₁, ht₁]
  cases choice with
  | error e => exact ⟨_, _, _, rfl, rfl, t₁, hR₁, rfl⟩
  | ok i =>
      have hi : i.val < cards.length := by simpa using i.isLt
      have hlt : (cards.eraseIdx i.val).length < cards.length := by
        rw [List.length_eraseIdx_of_lt hi]
        omega
      obtain ⟨casting, s₂, t₂, hs₂, ht₂, hR₂⟩ :=
        g.contest.agree_cast h cards[i.val].event pool hR₁
      simp only [hs₂, ht₂]
      cases casting with
      | cast ids => exact ⟨_, _, _, rfl, rfl, t₂, hR₂, rfl⟩
      | noTeam letter => exact ih _ hlt _ ⟨t₂, hR₂, rfl⟩ rfl
      | noPlayer => exact ih _ hlt _ ⟨t₂, hR₂, rfl⟩ rfl

theorem agree_playEvent {g : Game σ} {g' : Game τ} (hg : Alike R g g') (kind : RoundKind)
    (e : Event) (ids : List Nat) :
    Agree (Alike R) (g.playEvent kind e ids) (g'.playEvent kind e ids) := by
  obtain ⟨t, hR, rfl⟩ := hg
  exact ⟨_, _, _, rfl, rfl, t, hR, rfl⟩

theorem playEvents_of_drawEvent {round kind : RoundKind} {deck : Deck} {pool : List Nat}
    {g g₁ g₂ : Game σ} {result : Except GameError Cast} (hpool : pool ≠ [])
    (hopen : g.contest.isOver = false) (hkind : g.eventKind src round = (kind, g₁))
    (hdraw : drawEvent src round kind pool (deck.cards round kind) g₁ = (result, g₂)) :
    playEvents src round deck pool g =
      match result with
      | .error e => (.error e, g₂)
      | .ok cast =>
        if g₂.contest.holdsEffects cast.event cast.ids then
          let (report, g₃) := g₂.playEvent kind cast.event cast.ids
          let (reports, g₄) := playEvents src round (deck.withCards round kind cast.cards)
            (unplaced pool cast.ids) g₃
          (reports.map (report :: ·), g₄)
        else (.error .overflow, g₂) := by
  rw [playEvents, if_neg hpool, if_neg (by simp [hopen]), hkind]
  dsimp only
  split
  · rename_i e g' heq
    rw [hdraw] at heq
    cases heq
    rfl
  · rename_i cast g' heq
    rw [hdraw] at heq
    cases heq
    dsimp only
    by_cases hholds : g₂.contest.holdsEffects cast.event cast.ids = true
    · rw [if_pos hholds, if_pos hholds]
      split
      · rename_i hrest
        rw [hrest]
        rfl
      · rename_i hrest
        rw [hrest]
        rfl
    · rw [if_neg hholds, if_neg hholds]

theorem agree_playEvents (h : src.Matches R src') (round : RoundKind) (deck : Deck)
    (pool : List Nat) {g : Game σ} {g' : Game τ} (hg : Alike R g g')
    (hrate : 0 < g.contest.rules.deathRate) :
    Agree (Alike R) (playEvents src round deck pool g) (playEvents src' round deck pool g') := by
  induction hlength : pool.length using Nat.strongRecOn generalizing deck pool g g' with
  | ind n ih =>
  subst hlength
  by_cases hpool : pool = []
  · subst hpool
    rw [playEvents, playEvents]
    exact ⟨.ok [], g, g', rfl, rfl, hg⟩
  cases hover : g.contest.isOver with
  | true =>
      obtain ⟨t, hR, rfl⟩ := hg
      rw [playEvents, if_neg hpool, if_pos hover, playEvents, if_neg hpool,
        if_pos (show (g.withDice t).contest.isOver = true from hover)]
      exact ⟨_, _, _, rfl, rfl, t, hR, rfl⟩
  | false =>
      have hopen' : g'.contest.isOver = false := by rwa [hg.contest_eq]
      obtain ⟨kind, g₁, g₁', hkind, hkind', hg₁⟩ := agree_eventKind h hg hrate round
      obtain ⟨result, g₂, g₂', hdraw, hdraw', hg₂⟩ :=
        agree_drawEvent h round kind pool (deck.cards round kind) hg₁
      rw [playEvents_of_drawEvent hpool hover hkind hdraw,
        playEvents_of_drawEvent hpool hopen' hkind' hdraw']
      cases result with
      | error e => exact ⟨_, _, _, rfl, rfl, hg₂⟩
      | ok cast =>
          dsimp only
          rw [hg₂.contest_eq]
          by_cases hholds : g₂.contest.holdsEffects cast.event cast.ids = true
          case neg =>
            rw [if_neg hholds, if_neg hholds]
            exact ⟨_, _, _, rfl, rfl, hg₂⟩
          rw [if_pos hholds, if_pos hholds]
          obtain ⟨report, g₃, g₃', hevent, hevent', hg₃⟩ :=
            agree_playEvent hg₂ kind cast.event cast.ids
          obtain ⟨id, hid, hmem⟩ := nonempty_of_drawEvent hdraw
          have hrate₃ : 0 < g₃.contest.rules.deathRate := by
            have hafter : g₃.contest = Turn.after ⟨g.contest, kind, cast.event, cast.ids⟩ := by
              rw [← contest_of_draw hkind hdraw, ← playEvent_snd_contest, hevent]
            rw [hafter, (Turn.actsOn _).rules]
            exact hrate
          obtain ⟨reports, g₄, g₄', hrest, hrest', hg₄⟩ :=
            ih _ (length_unplaced_lt hid hmem) (deck.withCards round kind cast.cards) _ hg₃
              hrate₃ rfl
          simp only [hevent, hevent', hrest, hrest']
          exact ⟨_, _, _, rfl, rfl, hg₄⟩

/-! ## The stages of a call -/

theorem agree_rollArena (h : src.Matches R src') {g : Game σ} {g' : Game τ} (hg : Alike R g g')
    (hrate : 0 < g.contest.rules.arenaFrequency) :
    Agree (Alike R) (g.rollArena src) (g'.rollArena src') := by
  obtain ⟨dice, hR, rfl⟩ := hg
  obtain ⟨roll, s, t, hs, ht, hR'⟩ := h.roll hR hrate
  unfold rollArena
  change src'.roll (g.withDice dice).contest.rules.arenaFrequency (g.withDice dice).dice = _ at ht
  simp only [hs, ht]
  exact ⟨_, { g with dice := s }, { g.withDice dice with dice := t }, rfl, rfl, t, hR', rfl⟩

theorem agree_nextRound (h : src.Matches R src') {g : Game σ} {g' : Game τ} (hg : Alike R g g')
    (hrate : 0 < g.contest.rules.arenaFrequency) :
    Agree (Alike R) (g.nextRound src) (g'.nextRound src') := by
  obtain ⟨hit, g₁, g₁', hroll, hroll', t₁, hR₁, hg₁'⟩ := agree_rollArena h hg hrate
  obtain ⟨t, hR, rfl⟩ := hg
  unfold nextRound
  rw [hroll, hroll', show (g.withDice t).lastRound = g.lastRound from rfl,
    show (g.withDice t).feastDue = g.feastDue from rfl,
    show (g.withDice t).day = g.day from rfl, hg₁']
  cases g.lastRound with
  | none =>
      dsimp only
      split_ifs <;> exact ⟨_, _, _, rfl, rfl, t, hR, rfl⟩
  | some previous =>
      cases previous with
      | bloodbath => exact ⟨_, _, _, rfl, rfl, t, hR, rfl⟩
      | _ =>
          dsimp only
          split_ifs
          · exact ⟨_, _, _, rfl, rfl, t, hR, rfl⟩
          · exact ⟨_, _, _, rfl, rfl, t₁, hR₁, rfl⟩
          · exact ⟨_, _, _, rfl, rfl, t₁, hR₁, rfl⟩

theorem alike_enterArena (h : src.Matches R src') {g : Game σ} {g' : Game τ} (hg : Alike R g g')
    (round : RoundKind) : Alike R (g.enterArena src round) (g'.enterArena src' round) := by
  obtain ⟨t, hR, rfl⟩ := hg
  unfold enterArena
  by_cases hround : round = .arena ∧ g.arena.isNone = true
  · rw [if_pos hround,
      if_pos (show round = .arena ∧ (g.withDice t).arena.isNone = true from hround)]
    by_cases harenas : 0 < g.contest.arenas.length
    · obtain ⟨i, s', t', hs, ht, hR'⟩ := h.index hR g.contest.arenas.length harenas
      rw [dif_pos harenas, dif_pos (show 0 < (g.withDice t).contest.arenas.length from harenas), hs]
      change src'.index (g.withDice t).contest.arenas.length harenas (g.withDice t).dice = _ at ht
      rw [ht]
      exact ⟨t', hR', rfl⟩
    · rw [dif_neg harenas, dif_neg (show ¬ 0 < (g.withDice t).contest.arenas.length from harenas)]
      exact ⟨t, hR, rfl⟩
  · rw [if_neg hround,
      if_neg (show ¬ (round = .arena ∧ (g.withDice t).arena.isNone = true) from hround)]
    exact ⟨t, hR, rfl⟩

theorem withDice_announce (g : Game σ) (dice : τ) (round : RoundKind) :
    (g.withDice dice).announce round = (g.announce round).withDice dice := by
  unfold announce currentArena? tell withDice
  dsimp only
  cases g.arena.bind (g.contest.arenas[·]?) <;> rfl

theorem dice_announce (g : Game σ) (round : RoundKind) : (g.announce round).dice = g.dice := by
  unfold announce
  dsimp only
  split <;> rfl

theorem alike_opening (h : src.Matches R src') {g : Game σ} {g' : Game τ} (hg : Alike R g g')
    (round : RoundKind) : Alike R (g.opening src round) (g'.opening src' round) := by
  obtain ⟨t, hR, hentered⟩ := alike_enterArena h hg round
  unfold opening
  rw [hentered, withDice_announce]
  exact ⟨t, by rwa [dice_announce], rfl⟩

theorem alike_closing {g : Game σ} {g' : Game τ} (hg : Alike R g g') (round : RoundKind) :
    Alike R (g.closing round) (g'.closing round) := by
  obtain ⟨t, hR, rfl⟩ := hg
  unfold closing proclaim leaveArena withDice
  by_cases hround : round = .arena
  · simp only [if_pos hround]
    cases g.contest.winner? <;> exact ⟨t, hR, rfl⟩
  · simp only [if_neg hround]
    cases g.contest.winner? <;> exact ⟨t, hR, rfl⟩

theorem advance_of_nextRound {g g₁ : Game σ} {round : RoundKind}
    (hopen : g.contest.isOver = false) (hnext : g.nextRound src = (.ok round, g₁)) :
    g.advance src =
      match (g₁.opening src round).deck round with
      | .error e => (.error e, g₁.opening src round)
      | .ok deck =>
        match playEvents src round deck g.contest.aliveIds (g₁.opening src round) with
        | (.error e, g₂) => (.error e, g₂)
        | (.ok events, g₂) =>
          (.ok {
            day := g₂.day, round
            arena := (g₁.opening src round).currentArena?.map (·.name)
            events, winner := g₂.contest.winner? }, g₂.closing round) := by
  unfold advance
  rw [hopen, if_neg Bool.false_ne_true, hnext]
  dsimp only
  rw [← opening, ← opening_currentArena?, opening_contest_of_nextRound hnext]
  cases (g₁.opening src round).deck round with
  | error e => rfl
  | ok deck =>
      dsimp only
      cases playEvents src round deck g.contest.aliveIds (g₁.opening src round) with
      | mk result g₂ =>
      cases result with
      | error e => rfl
      | ok events =>
          dsimp only
          rw [← closing, closing_day, closing_contest]

theorem agree_advance (h : src.Matches R src') {g : Game σ} {g' : Game τ} (hg : Alike R g g')
    (hdeath : 0 < g.contest.rules.deathRate) (harena : 0 < g.contest.rules.arenaFrequency) :
    Agree (Alike R) (g.advance src) (g'.advance src') := by
  cases hover : g.contest.isOver with
  | true =>
      have hover' : g'.contest.isOver = true := by rwa [hg.contest_eq]
      rw [advance, if_pos hover, advance, if_pos hover']
      exact ⟨_, _, _, rfl, rfl, hg⟩
  | false =>
      have hopen' : g'.contest.isOver = false := by rwa [hg.contest_eq]
      obtain ⟨next, g₁, g₁', hnext, hnext', hg₁⟩ := agree_nextRound h hg harena
      cases next with
      | error e =>
          rw [advance, hover, if_neg Bool.false_ne_true, hnext, advance, hopen',
            if_neg Bool.false_ne_true, hnext']
          exact ⟨_, _, _, rfl, rfl, hg₁⟩
      | ok round =>
          rw [advance_of_nextRound hover hnext, advance_of_nextRound hopen' hnext']
          have hcontest := opening_contest_of_nextRound hnext
          obtain ⟨t, hR, hopening⟩ := alike_opening h hg₁ round
          rw [hopening, hg.contest_eq, show ((g₁.opening src round).withDice t).deck round =
            (g₁.opening src round).deck round from rfl]
          cases (g₁.opening src round).deck round with
          | error e => exact ⟨_, _, _, rfl, rfl, t, hR, rfl⟩
          | ok deck =>
              obtain ⟨result, g₂, g₂', hplays, hplays', hg₂⟩ :=
                agree_playEvents h round deck g.contest.aliveIds
                  (show Alike R (g₁.opening src round) ((g₁.opening src round).withDice t) from
                    ⟨t, hR, rfl⟩) (by rwa [hcontest])
              dsimp only
              rw [hplays, hplays']
              cases result with
              | error e => exact ⟨_, _, _, rfl, rfl, hg₂⟩
              | ok events =>
                  have hclosed := alike_closing hg₂ round
                  obtain ⟨t₂, hR₂, rfl⟩ := hg₂
                  exact ⟨_, _, _, rfl, rfl, hclosed⟩

/-! ## Calls leave no choice -/

theorem Plays.playEvents_eq {round : RoundKind} {deck : Deck} {pool : List Nat} {g g' : Game σ}
    {turns : List Turn} {failure? : Option GameError}
    (h : Plays src round deck pool g turns failure? g') :
    playEvents src round deck pool g = (outcome turns failure?, g') := by
  induction h with
  | placed deck g => rw [playEvents, if_pos rfl]; rfl
  | decided hpool hover => rw [playEvents, if_neg hpool, if_pos hover]; rfl
  | stuck hpool hopen hkind hdraw => rw [playEvents_of_drawEvent hpool hopen hkind hdraw]; rfl
  | @full deck pool g g₁ g₂ kind cast hpool hopen hkind hdraw hfits =>
      rw [playEvents_of_drawEvent hpool hopen hkind hdraw]
      dsimp only
      rw [contest_of_draw hkind hdraw, if_neg (show ¬ g.contest.holdsEffects _ _ = true from hfits)]
      rfl
  | @turn deck pool g g₁ g₂ g' kind cast turns failure? hpool hopen hkind hdraw hfits _ ih =>
      have hreport : (g₂.playEvent kind cast.event cast.ids).1 =
          Turn.report ⟨g.contest, kind, cast.event, cast.ids⟩ := by
        rw [playEvent_fst, contest_of_draw hkind hdraw]
      have hholds : g₂.contest.holdsEffects cast.event cast.ids = true := by
        rw [contest_of_draw hkind hdraw]
        exact hfits
      rw [playEvents_of_drawEvent hpool hopen hkind hdraw]
      dsimp only
      rw [if_pos hholds, ih, hreport]
      cases failure? <;> rfl

theorem Advances.advance_eq {g g' : Game σ} {turns : List Turn}
    {result : Except GameError RoundReport} (h : Advances src g turns result g') :
    g.advance src = (result, g') := by
  cases h with
  | decided hover => rw [advance, if_pos hover]
  | noRound hopen hnext => rw [advance, hopen, if_neg Bool.false_ne_true, hnext]
  | noDeck hopen hnext hdeck => rw [advance_of_nextRound hopen hnext, hdeck]
  | broken hopen hnext hdeck hplays =>
      rw [advance_of_nextRound hopen hnext, hdeck]
      dsimp only
      rw [hplays.playEvents_eq]
      rfl
  | finished hopen hnext hdeck hplays =>
      rw [advance_of_nextRound hopen hnext, hdeck]
      dsimp only
      rw [hplays.playEvents_eq]
      rfl

end Game
end Tournament
