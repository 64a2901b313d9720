import Tournament.Game.Basic

/-!
# Playing a round

A round draws events until every living player has taken part in one or the contest is decided. In
a day or a night each event is deadly once in so many times, and then drawn from the deadly pool.
An event that finds no players is put aside until the round ends; when none is left, the round
cannot go on. Nor can it where an event credits a player with more than the count holds.
-/

namespace Tournament

open Draw (Source)

structure Card where
  number : Nat
  event : Event

def cardsOf (events : List Event) : List Card :=
  events.zipIdx.map fun e => ⟨e.2, e.1⟩

/-- The events of a round that are not put aside: those of its own kind and the deadly ones. -/
structure Deck where
  plain : List Card
  deadly : List Card

def Deck.cards (d : Deck) (round kind : RoundKind) : List Card :=
  if kind = round then d.plain else d.deadly

def Deck.withCards (d : Deck) (round kind : RoundKind) (cards : List Card) : Deck :=
  if kind = round then { d with plain := cards } else { d with deadly := cards }

namespace Game

variable {σ : Type}

def deck (round : RoundKind) (g : Game σ) : Except GameError Deck :=
  match round with
  | .arena =>
    match g.currentArena? with
    | none => .error (.inconsistent "arena round without an arena")
    | some arena => .ok ⟨cardsOf arena.events, []⟩
  | kind =>
    .ok ⟨cardsOf (g.contest.pools.of kind),
      match kind.fatal? with
      | none => []
      | some fatal => cardsOf (g.contest.pools.of fatal)⟩

/-- The kind of the next event: that of the round, or by the roll of a day or a night its deadly
counterpart, if there are events of it. -/
def eventKind (src : Source σ) (round : RoundKind) (g : Game σ) : RoundKind × Game σ :=
  match round.fatal? with
  | none => (round, g)
  | some fatal =>
    let (roll, dice) := src.roll g.contest.rules.deathRate g.dice
    (if roll == 1 && !(g.contest.pools.of fatal).isEmpty then fatal else round, { g with dice })

/-- The error of a round in which no event can be drawn. -/
def drawError (round : RoundKind) (unplaced : Nat) : Draw.WeightError → GameError
  | .noItem => .outOfEvents round unplaced
  | .unbounded => .unbounded
  | e => .inconsistent s!"bad event weights: {e.message}"

def tellFailure (g : Game σ) (kind : RoundKind) (number : Nat) (failure : Casting) : Game σ :=
  let g :=
    match failure with
    | .noTeam letter => g.tell .debug s!"no team left for abstract team {letter}"
    | _ => g
  g.tell .debug s!"no players for {kind.name} event {number}, dropping it this round"

/-- An event that has found its players, and the cards that are left to draw from. -/
structure Cast where
  event : Event
  ids : List Nat
  cards : List Card

/-- Draws cards until an event finds its players among those not yet placed. -/
def drawEvent (src : Source σ) (round kind : RoundKind) (pool : List Nat) (cards : List Card)
    (g : Game σ) : Except GameError Cast × Game σ :=
  match src.choose (cards.map (·.event.rarity)) g.dice with
  | (.error e, dice) => (.error (drawError round pool.length e), { g with dice })
  | (.ok i, dice) =>
    have _hi : i.val < cards.length := by simpa using i.isLt
    let card := cards[i.val]
    match g.contest.cast src card.event pool dice with
    | (.cast ids, dice) => (.ok ⟨card.event, ids, cards⟩, { g with dice })
    | (failure, dice) =>
      drawEvent src round kind pool (cards.eraseIdx i.val)
        ({ g with dice }.tellFailure kind card.number failure)
termination_by cards.length
decreasing_by
  rw [List.length_eraseIdx_of_lt _hi]
  omega

def playEvent (g : Game σ) (kind : RoundKind) (e : Event) (ids : List Nat) :
    EventReport × Game σ :=
  let before := ids.filterMap (g.contest.roster[·]?)
  let text := e.render before
  let contest := g.contest.applyEffects e ids
  let after := ids.filterMap (contest.roster[·]?)
  let report := {
    kind, text
    players := before.map (·.name)
    eliminated := (after.filter fun p => !contest.isAlive p).map (·.name) }
  let g := (g.tellAll (g.contest.effectRemarks e ids)).tell .narrative text
  (report, { g with contest })

theorem nonempty_of_drawEvent {src : Source σ} {round kind : RoundKind} {pool : List Nat}
    {cards : List Card} {g g' : Game σ} {cast : Cast}
    (h : drawEvent src round kind pool cards g = (.ok cast, g')) :
    ∃ id ∈ cast.ids, id ∈ pool := by
  fun_induction drawEvent src round kind pool cards g with
  | case1 => simp at h
  | case2 cards g i dice hi hchoose card ids dice' hcast =>
    simp only [Prod.mk.injEq, Except.ok.injEq] at h
    obtain ⟨rfl, -⟩ := h
    have hlen := Contest.length_of_cast hcast
    have hpos := List.length_pos_iff.mpr card.event.slots_ne_nil
    cases ids with
    | nil => simp [Event.tributes] at hlen; omega
    | cons id rest =>
      exact ⟨id, List.mem_cons_self, Contest.mem_pool_of_cast hcast id List.mem_cons_self⟩
  | case3 => rename_i ih; exact ih h

/-- Those of a pool who are not among the ones just placed. -/
def unplaced (pool ids : List Nat) : List Nat :=
  pool.filter fun id => id ∉ ids

theorem length_unplaced_lt {pool ids : List Nat} {id : Nat} (hid : id ∈ ids) (hpool : id ∈ pool) :
    (unplaced pool ids).length < pool.length := by
  rw [unplaced, List.length_filter_lt_length_iff_exists]
  exact ⟨id, hpool, by simpa using hid⟩

/-- Plays events until everyone in the pool is placed or the contest is decided. -/
def playEvents (src : Source σ) (round : RoundKind) (deck : Deck) (pool : List Nat) (g : Game σ) :
    Except GameError (List EventReport) × Game σ :=
  if pool = [] then (.ok [], g)
  else if g.contest.isOver then
    (.ok [], g.tell .debug s!"game over with {pool.length} player(s) unplaced")
  else
    let (kind, g) := g.eventKind src round
    match _h : drawEvent src round kind pool (deck.cards round kind) g with
    | (.error e, g) => (.error e, g)
    | (.ok cast, g) =>
      if g.contest.holdsEffects cast.event cast.ids then
        let (report, g) := g.playEvent kind cast.event cast.ids
        let rest := playEvents src round (deck.withCards round kind cast.cards)
          (unplaced pool cast.ids) g
        match rest with
        | (.error e, g) => (.error e, g)
        | (.ok reports, g) => (.ok (report :: reports), g)
      else (.error .overflow, g)
termination_by pool.length
decreasing_by
  obtain ⟨id, hid, hpool⟩ := nonempty_of_drawEvent _h
  exact length_unplaced_lt hid hpool

/-- Plays the next round. A round that cannot be finished leaves behind what it has changed. -/
def advance (src : Source σ) (g : Game σ) : Except GameError RoundReport × Game σ :=
  if g.contest.isOver then (.error .over, g)
  else
    match g.nextRound src with
    | (.error e, g) => (.error e, g)
    | (.ok round, g) =>
      let g := g.enterArena src round
      let arena := g.currentArena?.map (·.name)
      let g := g.announce round
      match g.deck round with
      | .error e => (.error e, g)
      | .ok deck =>
        match playEvents src round deck g.contest.aliveIds g with
        | (.error e, g) => (.error e, g)
        | (.ok events, g) =>
          let g := (g.leaveArena round).proclaim
          (.ok { day := g.day, round, arena, events, winner := g.contest.winner? }, g)

/-- Plays rounds until the contest is decided, at most `n`. -/
def run (src : Source σ) : (n : Nat) → Game σ → Except GameError (List RoundReport) × Game σ
  | 0, g => (.ok [], g)
  | n + 1, g =>
    if g.contest.isOver then (.ok [], g)
    else
      match g.advance src with
      | (.error e, g) => (.error e, g)
      | (.ok report, g) =>
        match run src n g with
        | (.error e, g) => (.error e, g)
        | (.ok reports, g) => (.ok (report :: reports), g)

end Game

end Tournament
