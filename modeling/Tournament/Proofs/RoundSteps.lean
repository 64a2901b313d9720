import Mathlib.Logic.Function.Iterate
import Tournament.Proofs.DrawOrder

/-!
# A round step by step

The events of a round are drawn by two loops, neither of which has a bound: one goes on until all
players are placed, the other until an event finds its players.  `Stage.step` is one turn of a loop
and keeps the attempts made so far.  An attempt leaves fewer players to place or fewer cards to draw,
so the steps come to an end (`Moves.size_lt`); a card that has found nobody is put aside and not
tried again (`Table.Sound`); and the end is what `playEvents` returns (`Moves.outcome_eq`).
-/

namespace Tournament

open Draw (Source WeightError)

variable {σ : Type} {src : Source σ} {round kind : RoundKind} {source : RoundKind → List Event}
  {aside : List (RoundKind × Nat)}

/-! ## The cards of a round -/

/-- The kinds of events that a round is made of: its own and its deadly counterpart. -/
def RoundKind.Includes (round kind : RoundKind) : Prop :=
  kind = round ∨ round.fatal? = some kind

def deckLeft (source : RoundKind → List Event) (round : RoundKind)
    (aside : List (RoundKind × Nat)) : Deck where
  plain := cardsLeft source aside round
  deadly :=
    match round.fatal? with
    | none => []
    | some fatal => cardsLeft source aside fatal

def Deck.size (d : Deck) : Nat :=
  d.plain.length + d.deadly.length

theorem fatal?_ne_self (round : RoundKind) : round.fatal? ≠ some round := by
  cases round <;> decide

theorem cards_deckLeft (h : round.Includes kind) :
    (deckLeft source round aside).cards round kind = cardsLeft source aside kind := by
  rcases h with rfl | hfatal
  · simp [Deck.cards, deckLeft]
  · have hne : kind ≠ round := by
      rintro rfl
      exact fatal?_ne_self kind hfatal
    simp [Deck.cards, deckLeft, hne, hfatal]

theorem cardsLeft_concat (number : Nat) :
    cardsLeft source (aside ++ [(kind, number)]) kind =
      (cardsLeft source aside kind).filter (·.number ≠ number) := by
  simpa using cardsLeft_append source aside kind [number]

theorem cardsLeft_concat_of_ne {other : RoundKind} (h : other ≠ kind) (number : Nat) :
    cardsLeft source (aside ++ [(kind, number)]) other = cardsLeft source aside other :=
  cardsLeft_append_of_ne source aside h [number]

theorem deckLeft_concat (h : round.Includes kind) (number : Nat) :
    deckLeft source round (aside ++ [(kind, number)]) =
      (deckLeft source round aside).withCards round kind
        ((cardsLeft source aside kind).filter (·.number ≠ number)) := by
  rcases h with rfl | hfatal
  · cases hfatal : kind.fatal? with
    | none => simp only [deckLeft, hfatal, Deck.withCards, if_true, cardsLeft_concat]
    | some fatal =>
        have hne : fatal ≠ kind := by
          rintro rfl
          exact fatal?_ne_self fatal hfatal
        simp only [deckLeft, hfatal, Deck.withCards, if_true, cardsLeft_concat,
          cardsLeft_concat_of_ne hne]
  · have hne : kind ≠ round := by
      rintro rfl
      exact fatal?_ne_self kind hfatal
    simp only [deckLeft, hfatal, Deck.withCards, if_neg hne, cardsLeft_concat,
      cardsLeft_concat_of_ne hne.symm]

theorem Deck.withCards_withCards (deck : Deck) (cards cards' : List Card) :
    (deck.withCards round kind cards).withCards round kind cards' =
      deck.withCards round kind cards' := by
  unfold Deck.withCards
  split_ifs <;> rfl

theorem Deck.withCards_cards (deck : Deck) :
    deck.withCards round kind (deck.cards round kind) = deck := by
  unfold Deck.withCards Deck.cards
  split_ifs <;> rfl

theorem Deck.size_withCards_lt {deck : Deck} {cards : List Card}
    (h : cards.length < (deck.cards round kind).length) :
    (deck.withCards round kind cards).size < deck.size := by
  unfold Deck.withCards Deck.cards Deck.size at *
  split_ifs at h ⊢ <;> simp only <;> omega

theorem size_deckLeft_concat (h : round.Includes kind) {card : Card}
    (hcard : card ∈ cardsLeft source aside kind) :
    (deckLeft source round (aside ++ [(kind, card.number)])).size <
      (deckLeft source round aside).size := by
  rw [deckLeft_concat h]
  apply Deck.size_withCards_lt
  rw [cards_deckLeft h, List.length_filter_lt_length_iff_exists]
  exact ⟨card, hcard, by simp⟩

theorem size_deckLeft_nil :
    (deckLeft source round []).size = (source round).length +
      round.fatal?.elim 0 fun fatal => (source fatal).length := by
  unfold Deck.size deckLeft
  simp only [cardsLeft_nil]
  cases round.fatal? <;> simp [cardsOf]

namespace Game

theorem length_unplaced_lt_of_cast {c : Contest} {e : Event} {pool ids : List Nat} {s s' : σ}
    (h : c.cast src e pool s = (.cast ids, s')) : (unplaced pool ids).length < pool.length := by
  have hlength : 0 < ids.length := by
    rw [Contest.length_of_cast h]
    exact List.length_pos_iff.mpr e.slots_ne_nil
  have hid := List.getElem_mem hlength
  exact length_unplaced_lt hid (Contest.mem_pool_of_cast h _ hid)

theorem includes_of_eventKind {g g₁ : Game σ} (h : g.eventKind src round = (kind, g₁)) :
    round.Includes kind :=
  (mayDraw_of_eventKind h).imp id And.left

/-! ## Steps -/

/-- An attempt to play an event, by its kind and its number there. -/
structure Try where
  kind : RoundKind
  number : Nat
  played : Bool

def Try.key (a : Try) : RoundKind × Nat :=
  (a.kind, a.number)

/-- A later attempt is not one at an event that had found nobody. -/
def Try.Fresh (a later : Try) : Prop :=
  a.played = false → later.key ≠ a.key

/-- A round as it stands: the players not yet placed, the cards put aside, and what has been
reported and tried. -/
structure Table (σ : Type) where
  game : Game σ
  pool : List Nat
  aside : List (RoundKind × Nat) := []
  reports : List EventReport := []
  tries : List Try := []

def Table.place (t : Table σ) (kind : RoundKind) (card : Card) (ids : List Nat) (dice : σ) :
    Table σ :=
  let (report, game) := { t.game with dice }.playEvent kind card.event ids
  { t with
    game
    pool := unplaced t.pool ids
    reports := t.reports ++ [report]
    tries := t.tries ++ [⟨kind, card.number, true⟩] }

/-- The table when an event has found players whose counts have no room for its credit. -/
def Table.breakOff (t : Table σ) (kind : RoundKind) (card : Card) (ids : List Nat) (dice : σ) :
    Table σ :=
  { t with
    game := { t.game with dice }
    pool := unplaced t.pool ids
    tries := t.tries ++ [⟨kind, card.number, true⟩] }

def Table.putAside (t : Table σ) (kind : RoundKind) (card : Card) (failure : Casting) (dice : σ) :
    Table σ :=
  { t with
    game := { t.game with dice }.tellFailure kind card.number failure
    aside := t.aside ++ [(kind, card.number)]
    tries := t.tries ++ [⟨kind, card.number, false⟩] }

inductive Stage (σ : Type) where
  /-- An event is to come if there is someone to place. -/
  | between (t : Table σ)
  /-- An event of a kind is being drawn. -/
  | drawing (kind : RoundKind) (t : Table σ)
  | ended (result : Except GameError (List EventReport)) (t : Table σ)

namespace Stage

/-- One turn of a loop, with the events of the round to draw from. -/
def step (src : Source σ) (round : RoundKind) (source : RoundKind → List Event) :
    Stage σ → Stage σ
  | between t =>
    if t.pool = [] then ended (.ok t.reports) t
    else if t.game.contest.isOver then
      ended (.ok t.reports) { t with
        game := t.game.tell .debug s!"game over with {t.pool.length} player(s) unplaced" }
    else
      let (kind, game) := t.game.eventKind src round
      drawing kind { t with game }
  | drawing kind t =>
    let cards := cardsLeft source t.aside kind
    match src.choose (cards.map (·.event.rarity)) t.game.dice with
    | (.error e, dice) =>
      ended (.error (drawError round t.pool.length e)) { t with game := { t.game with dice } }
    | (.ok i, dice) =>
      have _hi : i.val < cards.length := by simpa using i.isLt
      let card := cards[i.val]
      match t.game.contest.cast src card.event t.pool dice with
      | (.cast ids, dice) =>
        if t.game.contest.holdsEffects card.event ids then between (t.place kind card ids dice)
        else ended (.error .overflow) (t.breakOff kind card ids dice)
      | (failure, dice) => drawing kind (t.putAside kind card failure dice)
  | ended result t => ended result t

/-- `Moves src round source s s'`: what a step makes of a stage. -/
inductive Moves (src : Source σ) (round : RoundKind) (source : RoundKind → List Event) :
    Stage σ → Stage σ → Prop where
  | placed {t : Table σ} (hpool : t.pool = []) :
      Moves src round source (between t) (ended (.ok t.reports) t)
  | decided {t : Table σ} (hpool : t.pool ≠ []) (hover : t.game.contest.isOver = true) :
      Moves src round source (between t) (ended (.ok t.reports) { t with
        game := t.game.tell .debug s!"game over with {t.pool.length} player(s) unplaced" })
  | begun {t : Table σ} {kind : RoundKind} {g : Game σ} (hpool : t.pool ≠ [])
      (hopen : t.game.contest.isOver = false) (hkind : t.game.eventKind src round = (kind, g)) :
      Moves src round source (between t) (drawing kind { t with game := g })
  | impossible {kind : RoundKind} {t : Table σ} {e : WeightError} {dice : σ}
      (hchoose : src.choose ((cardsLeft source t.aside kind).map (·.event.rarity)) t.game.dice =
        (.error e, dice)) :
      Moves src round source (drawing kind t)
        (ended (.error (drawError round t.pool.length e)) { t with game := { t.game with dice } })
  | found {kind : RoundKind} {t : Table σ}
      {i : Fin ((cardsLeft source t.aside kind).map (·.event.rarity)).length} {dice dice' : σ}
      {ids : List Nat}
      (hchoose : src.choose ((cardsLeft source t.aside kind).map (·.event.rarity)) t.game.dice =
        (.ok i, dice))
      (hi : i.val < (cardsLeft source t.aside kind).length)
      (hcast : t.game.contest.cast src (cardsLeft source t.aside kind)[i.val].event t.pool dice =
        (.cast ids, dice'))
      (hholds : t.game.contest.holdsEffects (cardsLeft source t.aside kind)[i.val].event ids = true) :
      Moves src round source (drawing kind t)
        (between (t.place kind (cardsLeft source t.aside kind)[i.val] ids dice'))
  | full {kind : RoundKind} {t : Table σ}
      {i : Fin ((cardsLeft source t.aside kind).map (·.event.rarity)).length} {dice dice' : σ}
      {ids : List Nat}
      (hchoose : src.choose ((cardsLeft source t.aside kind).map (·.event.rarity)) t.game.dice =
        (.ok i, dice))
      (hi : i.val < (cardsLeft source t.aside kind).length)
      (hcast : t.game.contest.cast src (cardsLeft source t.aside kind)[i.val].event t.pool dice =
        (.cast ids, dice'))
      (hholds : ¬ t.game.contest.holdsEffects (cardsLeft source t.aside kind)[i.val].event ids =
        true) :
      Moves src round source (drawing kind t)
        (ended (.error .overflow)
          (t.breakOff kind (cardsLeft source t.aside kind)[i.val] ids dice'))
  | rejected {kind : RoundKind} {t : Table σ}
      {i : Fin ((cardsLeft source t.aside kind).map (·.event.rarity)).length} {dice dice' : σ}
      {failure : Casting}
      (hchoose : src.choose ((cardsLeft source t.aside kind).map (·.event.rarity)) t.game.dice =
        (.ok i, dice))
      (hi : i.val < (cardsLeft source t.aside kind).length)
      (hcast : t.game.contest.cast src (cardsLeft source t.aside kind)[i.val].event t.pool dice =
        (failure, dice'))
      (hfailure : ∀ ids, failure ≠ .cast ids) :
      Moves src round source (drawing kind t)
        (drawing kind (t.putAside kind (cardsLeft source t.aside kind)[i.val] failure dice'))
  | done (result : Except GameError (List EventReport)) (t : Table σ) :
      Moves src round source (ended result t) (ended result t)

theorem moves_step (src : Source σ) (round : RoundKind) (source : RoundKind → List Event)
    (s : Stage σ) : Moves src round source s (s.step src round source) := by
  cases s with
  | between t =>
      unfold step
      dsimp only
      split_ifs with hpool hover
      · exact .placed hpool
      · exact .decided hpool hover
      · exact .begun hpool (by simpa using hover) rfl
  | drawing kind t =>
      unfold step
      dsimp only
      split
      · next hchoose => exact .impossible hchoose
      · next i dice hchoose =>
        have hi : i.val < (cardsLeft source t.aside kind).length := by simpa using i.isLt
        split
        · next hcast =>
          split_ifs with hholds
          · exact .found hchoose hi hcast hholds
          · exact .full hchoose hi hcast hholds
        · next hfailure hcast => exact .rejected hchoose hi hcast hfailure
  | ended result t => exact .done result t

end Stage

/-! ## What a step preserves -/

/-- What holds of a table in a round with `total` players and cards: each attempt has cost a player
or a card, and a card that has found nobody is put aside and was not tried again. -/
structure Table.Sound (source : RoundKind → List Event) (round : RoundKind) (total : Nat)
    (t : Table σ) : Prop where
  budget : t.tries.length + t.pool.length + (deckLeft source round t.aside).size ≤ total
  aside : ∀ a ∈ t.tries, a.played = false → a.key ∈ t.aside
  fresh : t.tries.Pairwise Try.Fresh

theorem Table.Sound.pairwise_concat {total : Nat} {t : Table σ} (h : t.Sound source round total)
    {card : Card} (hcard : card ∈ cardsLeft source t.aside kind) (played : Bool) :
    (t.tries ++ [Try.mk kind card.number played]).Pairwise Try.Fresh := by
  have hleft : (kind, card.number) ∉ t.aside := by
    simpa using (List.mem_filter.mp hcard).2
  rw [List.pairwise_append]
  refine ⟨h.fresh, List.pairwise_singleton _ _, ?_⟩
  intro a ha b hb hfailed heq
  obtain rfl := List.mem_singleton.mp hb
  apply hleft
  rw [show (kind, card.number) = a.key from heq]
  exact h.aside a ha hfailed

theorem Table.Sound.of_cast {total : Nat} {t t' : Table σ} (h : t.Sound source round total)
    {card : Card} (hcard : card ∈ cardsLeft source t.aside kind) {ids : List Nat} {dice dice' : σ}
    (hcast : t.game.contest.cast src card.event t.pool dice = (.cast ids, dice'))
    (hpool : t'.pool = unplaced t.pool ids) (haside : t'.aside = t.aside)
    (htries : t'.tries = t.tries ++ [⟨kind, card.number, true⟩]) :
    t'.Sound source round total := by
  have hlt := length_unplaced_lt_of_cast hcast
  refine ⟨?_, ?_, htries ▸ h.pairwise_concat hcard true⟩
  · have hbudget := h.budget
    rw [hpool, haside, htries, List.length_append, List.length_singleton]
    omega
  · intro a ha hfailed
    rw [htries] at ha
    rw [haside]
    rcases List.mem_append.mp ha with ha | ha
    · exact h.aside a ha hfailed
    · obtain rfl := List.mem_singleton.mp ha
      cases hfailed

theorem Table.Sound.putAside {total : Nat} {t : Table σ} (h : t.Sound source round total)
    (hkind : round.Includes kind) {card : Card} (hcard : card ∈ cardsLeft source t.aside kind)
    (failure : Casting) (dice : σ) :
    (t.putAside kind card failure dice).Sound source round total := by
  have hlt := size_deckLeft_concat hkind hcard
  refine ⟨?_, ?_, h.pairwise_concat hcard false⟩
  · have hbudget := h.budget
    simp only [Table.putAside, List.length_append, List.length_singleton]
    omega
  · intro a ha hfailed
    rcases List.mem_append.mp ha with ha | ha
    · exact List.mem_append_left _ (h.aside a ha hfailed)
    · obtain rfl := List.mem_singleton.mp ha
      exact List.mem_append_right _ (List.mem_singleton.mpr rfl)

namespace Stage

/-- What holds of a stage of a round: its table is sound, and what is drawn is of the round. -/
def Sound (source : RoundKind → List Event) (round : RoundKind) (total : Nat) : Stage σ → Prop
  | between t => t.Sound source round total
  | drawing kind t => round.Includes kind ∧ t.Sound source round total
  | ended _ t => t.Sound source round total

theorem Moves.sound {total : Nat} {s s' : Stage σ} (h : Moves src round source s s')
    (hs : s.Sound source round total) : s'.Sound source round total := by
  cases h with
  | placed | done => exact hs
  | decided => exact ⟨hs.budget, hs.aside, hs.fresh⟩
  | begun hpool hopen hkind =>
      exact ⟨includes_of_eventKind hkind, hs.budget, hs.aside, hs.fresh⟩
  | impossible => exact ⟨hs.2.budget, hs.2.aside, hs.2.fresh⟩
  | found hchoose hi hcast | full hchoose hi hcast =>
      exact hs.2.of_cast (List.getElem_mem hi) hcast rfl rfl rfl
  | rejected hchoose hi hcast hfailure =>
      exact ⟨hs.1, hs.2.putAside hs.1 (List.getElem_mem hi) _ _⟩

/-! ## The steps come to an end -/

def size (source : RoundKind → List Event) (round : RoundKind) : Stage σ → Nat
  | between t => 2 * t.pool.length + (deckLeft source round t.aside).size + 2
  | drawing _ t => 2 * t.pool.length + (deckLeft source round t.aside).size + 1
  | ended _ _ => 0

/-- Until the end, each step leaves fewer players or fewer cards, or goes on to draw an event. -/
theorem Moves.size_lt {total : Nat} {s s' : Stage σ} (h : Moves src round source s s')
    (hs : s.Sound source round total) (hopen : 0 < s.size source round) :
    s'.size source round < s.size source round := by
  cases h with
  | placed | decided | impossible | full => exact hopen
  | begun => exact Nat.lt_succ_self _
  | @found kind t i dice dice' ids hchoose hi hcast =>
      -- a player counts twice, to pay also for going on to the next event
      have hlt := length_unplaced_lt_of_cast hcast
      simp only [size, Table.place]
      omega
  | @rejected kind t i dice dice' failure hchoose hi =>
      have hlt := size_deckLeft_concat hs.1 (List.getElem_mem hi)
      simp only [size, Table.putAside]
      omega
  | done => exact absurd hopen (Nat.lt_irrefl 0)

theorem eq_ended_of_size {s : Stage σ} (h : s.size source round = 0) :
    ∃ result t, s = ended result t := by
  cases s with
  | between t => simp [size] at h
  | drawing kind t => simp [size] at h
  | ended result t => exact ⟨result, t, rfl⟩

/-! ## Where they end -/

/-- The reports of the events before, and then what the events to come return. -/
def goOn (reports : List EventReport) (rest : Except GameError (List EventReport) × Game σ) :
    Except GameError (List EventReport) × Game σ :=
  (rest.1.map (reports ++ ·), rest.2)

theorem goOn_nil (rest : Except GameError (List EventReport) × Game σ) : goOn [] rest = rest := by
  obtain ⟨result, g⟩ := rest
  cases result <;> rfl

theorem goOn_concat (reports : List EventReport) (report : EventReport)
    (rest : Except GameError (List EventReport) × Game σ) :
    goOn (reports ++ [report]) rest = goOn reports (rest.1.map (report :: ·), rest.2) := by
  obtain ⟨result, g⟩ := rest
  cases result <;> simp [goOn, Except.map]

/-- What the round returns when an event has been drawn, or none could be. -/
def goOnWith (src : Source σ) (round : RoundKind) (source : RoundKind → List Event)
    (kind : RoundKind) (t : Table σ) :
    Except GameError Cast × Game σ → Except GameError (List EventReport) × Game σ
  | (.error e, g) => (.error e, g)
  | (.ok cast, g) =>
    if g.contest.holdsEffects cast.event cast.ids then
      let (report, g) := g.playEvent kind cast.event cast.ids
      goOn (t.reports ++ [report])
        (playEvents src round ((deckLeft source round t.aside).withCards round kind cast.cards)
          (unplaced t.pool cast.ids) g)
    else (.error .overflow, g)

theorem goOnWith_putAside (hkind : round.Includes kind) (t : Table σ) (card : Card)
    (failure : Casting) (dice : σ) (drawn : Except GameError Cast × Game σ) :
    goOnWith src round source kind (t.putAside kind card failure dice) drawn =
      goOnWith src round source kind t drawn := by
  obtain ⟨result, g⟩ := drawn
  cases result with
  | error e => rfl
  | ok cast =>
      simp only [goOnWith, Table.putAside]
      rw [deckLeft_concat hkind, Deck.withCards_withCards]

def outcome (src : Source σ) (round : RoundKind) (source : RoundKind → List Event) :
    Stage σ → Except GameError (List EventReport) × Game σ
  | between t =>
    goOn t.reports (playEvents src round (deckLeft source round t.aside) t.pool t.game)
  | drawing kind t =>
    goOnWith src round source kind t
      (drawEvent src round kind t.pool (cardsLeft source t.aside kind) t.game)
  | ended result t => (result, t.game)

theorem Moves.outcome_eq {total : Nat} {s s' : Stage σ} (h : Moves src round source s s')
    (hs : s.Sound source round total) :
    s'.outcome src round source = s.outcome src round source := by
  cases h with
  | @placed t hpool =>
      simp only [outcome, goOn]
      rw [playEvents, if_pos hpool]
      simp [Except.map]
  | @decided t hpool hover =>
      simp only [outcome, goOn]
      rw [playEvents, if_neg hpool, if_pos hover]
      simp [Except.map]
  | @begun t kind g hpool hopen hkind =>
      have hcards : (deckLeft source round t.aside).cards round kind =
          cardsLeft source t.aside kind := cards_deckLeft (includes_of_eventKind hkind)
      simp only [outcome]
      cases hdraw : drawEvent src round kind t.pool (cardsLeft source t.aside kind) g with
      | mk result g₂ =>
      rw [playEvents_of_drawEvent hpool hopen hkind (hcards ▸ hdraw)]
      cases result with
      | error e => rfl
      | ok cast =>
          dsimp only [goOnWith]
          split_ifs
          · exact goOn_concat _ _ _
          · rfl
  | @impossible kind t e dice hchoose =>
      simp only [outcome]
      rw [drawEvent_of_error hchoose]
      rfl
  | @found kind t i dice dice' ids hchoose hi hcast hholds =>
      simp only [outcome]
      rw [drawEvent_of_cast hchoose hi hcast, goOnWith, if_pos hholds]
      simp only [← cards_deckLeft hs.1, Deck.withCards_cards]
      rfl
  | @full kind t i dice dice' ids hchoose hi hcast hholds =>
      simp only [outcome]
      rw [drawEvent_of_cast hchoose hi hcast, goOnWith, if_neg hholds]
      rfl
  | @rejected kind t i dice dice' failure hchoose hi hcast hfailure =>
      simp only [outcome]
      -- drawing goes on without the card, which is what putting it aside leaves of its kind
      rw [drawEvent_of_failure hchoose hi hcast hfailure,
        eraseIdx_eq_filter (nodup_cardsLeft source t.aside kind) hi, ← cardsLeft_concat]
      exact goOnWith_putAside hs.1 t _ failure dice' _
  | done => rfl

theorem exists_ended (src : Source σ) {total n : Nat} {s : Stage σ}
    (hs : s.Sound source round total) (hn : s.size source round ≤ n) :
    ∃ result t, (step src round source)^[n] s = ended result t ∧ t.Sound source round total ∧
      s.outcome src round source = (result, t.game) := by
  induction n generalizing s with
  | zero =>
      obtain ⟨result, t, rfl⟩ := eq_ended_of_size (Nat.le_zero.mp hn)
      exact ⟨result, t, rfl, hs, rfl⟩
  | succ n ih =>
      have hmoves := moves_step src round source s
      rw [Function.iterate_succ_apply, ← hmoves.outcome_eq hs]
      apply ih (hmoves.sound hs)
      rcases Nat.eq_zero_or_pos (s.size source round) with hzero | hpos
      · obtain ⟨result, t, rfl⟩ := eq_ended_of_size hzero
        exact Nat.zero_le n
      · have hlt := hmoves.size_lt hs hpos
        omega

theorem exists_run (src : Source σ) (round : RoundKind) (source : RoundKind → List Event)
    (pool : List Nat) (g : Game σ) :
    ∃ result t,
      (step src round source)^[2 * pool.length + (deckLeft source round []).size + 2]
        (between { game := g, pool }) = ended result t ∧
      t.Sound source round (pool.length + (deckLeft source round []).size) ∧
      playEvents src round (deckLeft source round []) pool g = (result, t.game) := by
  have hsound : (between { game := g, pool := pool } : Stage σ).Sound source round
      (pool.length + (deckLeft source round []).size) :=
    ⟨by simp, by simp, by simp⟩
  obtain ⟨result, t, hrun, ht, houtcome⟩ := exists_ended src hsound (Nat.le_refl _)
  refine ⟨result, t, hrun, ht, ?_⟩
  rw [← houtcome, outcome, goOn_nil]

end Stage

/-! ## Calls -/

def sources (g : Game σ) (kind : RoundKind) : List Event :=
  (g.source? kind).getD []

theorem deck_eq_deckLeft {g : Game σ} {deck : Deck} (h : g.deck round = .ok deck) :
    (g.source? round).isSome ∧ deck = deckLeft g.sources round [] := by
  cases round with
  | arena =>
      cases harena : g.currentArena? with
      | none => simp [Game.deck, harena] at h
      | some arena =>
          simp only [Game.deck, harena, Except.ok.injEq] at h
          subst h
          simp [deckLeft, cardsLeft_nil, sources, source?, harena, RoundKind.fatal?]
  | _ =>
      cases h
      simp [deckLeft, cardsLeft_nil, sources, source?, RoundKind.fatal?]

def conclude (round : RoundKind) (opened : Game σ) :
    Except GameError (List EventReport) × Game σ → Except GameError RoundReport × Game σ
  | (.error e, g) => (.error e, g)
  | (.ok events, g) =>
    (.ok {
      day := g.day, round
      arena := opened.currentArena?.map (·.name)
      events, winner := g.contest.winner? }, g.closing round)

/-- The number of cards in a round: the events of its own kind and, in a day or a night, the deadly
ones. -/
def cardCount (g : Game σ) (round : RoundKind) : Nat :=
  (g.sources round).length + round.fatal?.elim 0 fun fatal => (g.sources fatal).length

/-- `Ends src g`: a call on `g` returns, at once or after a bounded number of steps in which no event
is tried again that has found nobody. -/
inductive Ends (src : Source σ) (g : Game σ) : Prop where
  | over (hover : g.contest.isOver = true) (hadvance : g.advance src = (.error .over, g))
  | round {round : RoundKind} {g₁ opened : Game σ} {result : Except GameError (List EventReport)}
      {t : Table σ} (hnext : g.nextRound src = (.ok round, g₁))
      (hopened : g₁.opening src round = opened)
      (hsource : (opened.source? round).isSome)
      (hrun : (Stage.step src round opened.sources)^[
        2 * g.contest.aliveIds.length + opened.cardCount round + 2]
          (.between { game := opened, pool := g.contest.aliveIds }) = .ended result t)
      (hadvance : g.advance src = conclude round opened (result, t.game))
      (hfresh : t.tries.Pairwise Try.Fresh)
      (hcount : t.tries.length ≤ g.contest.aliveIds.length + opened.cardCount round) :
      Ends src g

theorem exists_ends {c : Contest} {past : List Beginning} {g : Game σ} (src : Source σ)
    (hcalendar : Calendar c past g) (hrange : g.ArenaInRange) : Ends src g := by
  cases hover : g.contest.isOver with
  | true => exact .over hover (by rw [advance, if_pos hover])
  | false =>
      obtain ⟨round, g₁, deck, hnext, hdeck⟩ := hcalendar.exists_round src hrange
      obtain ⟨hsource, rfl⟩ := deck_eq_deckLeft hdeck
      obtain ⟨result, t, hrun, ht, hplays⟩ := Stage.exists_run src round
        (g₁.opening src round).sources g.contest.aliveIds (g₁.opening src round)
      have hbudget := ht.budget
      rw [size_deckLeft_nil] at hrun hbudget
      refine .round hnext rfl hsource hrun ?_ ht.fresh ?_
      · rw [advance_of_nextRound hover hnext, hdeck]
        dsimp only
        rw [hplays]
        cases result <;> rfl
      · unfold cardCount
        omega

/-- Whatever the contest, the source of draws and the calls made before, a call returns: the contest
is decided, or the steps of its round come to an end. -/
theorem ends_of_advance (c : Contest) (src : Source σ) (seed : String) (dice : σ) (n : Nat) :
    Ends src ((start c seed dice).later src n) :=
  exists_ends src (calendar_later c src seed dice n) (arenaInRange_later_start c src seed dice n)

end Game
end Tournament
