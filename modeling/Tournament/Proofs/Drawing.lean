import Tournament.Proofs.Advance
import Tournament.Proofs.Weights

/-!
# Which events are drawn, and why none is

The cards of a deck are the events of the sources that its round draws from (`events_of_deck`).
Drawing puts cards aside, but never the card of an event that demands nothing of its one player
(`Thinned`), and a round breaks off for what speaks against a choice among the cards that are left
(`Plays.breakdown`).
-/

namespace Tournament

open Draw (Source WeightError weightError?)

variable {σ : Type}

/-! ## Casting an event that demands nothing -/

def Event.Undemanding (e : Event) : Prop :=
  e.slots = [{}]

instance (e : Event) : Decidable e.Undemanding :=
  inferInstanceAs (Decidable (e.slots = [{}]))

theorem Requirement.admits_nothing (p : Player) : ({} : Requirement).admits none p = true := by
  simp [admits]

theorem Contest.exists_cast {c : Contest} {e : Event} (he : e.Undemanding) {pool : List Nat}
    (hpool : pool ≠ []) (hplaces : ∀ id ∈ pool, id < c.roster.length) (src : Source σ) (s : σ) :
    ∃ id, (c.cast src e pool s).1 = .cast [id] := by
  have hperm := src.shuffle_perm pool s
  cases hshuffle : src.shuffle pool s with
  | mk candidates s' =>
  rw [hshuffle] at hperm
  cases candidates with
  | nil => exact absurd hperm.symm.eq_nil hpool
  | cons id others =>
      have hid : id < c.roster.length := hplaces id (hperm.mem_iff.mp List.mem_cons_self)
      have hfits : c.fits [] {} id = true := by
        rw [fits, List.getElem?_eq_getElem hid, Option.any_some]
        exact Requirement.admits_nothing _
      refine ⟨id, ?_⟩
      rw [cast, hshuffle, he]
      simp [bindTeams, fill, hfits]

theorem Contest.lt_of_mem_aliveIds {c : Contest} {id : Nat} (h : id ∈ c.aliveIds) :
    id < c.roster.length :=
  List.mem_range.mp (List.mem_of_mem_filter h)

theorem Contest.Keeps.length_roster {c d : Contest} (h : c.Keeps d) :
    d.roster.length = c.roster.length := by
  simpa using congrArg List.length h.names

/-! ## Drawing an event -/

/-- What is `left` of cards when some were put aside: none of those that anyone can play was. -/
structure Thinned (cards left : List Card) : Prop where
  sublist : left.Sublist cards
  undemanding : ∀ card ∈ cards, card.event.Undemanding → card ∈ left

theorem Thinned.refl (cards : List Card) : Thinned cards cards :=
  ⟨.refl cards, fun _ h _ => h⟩

theorem Thinned.trans {cards left left' : List Card} (h : Thinned cards left)
    (h' : Thinned left left') : Thinned cards left' :=
  ⟨h'.sublist.trans h.sublist,
    fun card hcard he => h'.undemanding card (h.undemanding card hcard he) he⟩

theorem thinned_eraseIdx {cards : List Card} {i : Nat} (hi : i < cards.length)
    (h : ¬ cards[i].event.Undemanding) : Thinned cards (cards.eraseIdx i) := by
  refine ⟨List.eraseIdx_sublist cards i, ?_⟩
  intro card hcard he
  obtain ⟨j, hj, rfl⟩ := List.getElem_of_mem hcard
  rw [List.mem_eraseIdx_iff_getElem]
  refine ⟨j, hj, ?_, rfl⟩
  rintro rfl
  exact h he

theorem Draw.Source.weightError?_of_choose {src : Source σ} {weights : List Float} {s s' : σ}
    {e : WeightError} (h : src.choose weights s = (.error e, s')) :
    weightError? weights = some e := by
  unfold choose at h
  cases hweights : weightError? weights with
  | some e' =>
      rw [hweights] at h
      cases h
      rfl
  | none =>
      rw [hweights] at h
      by_cases hne : weights = []
      · subst hne
        cases hweights
      · simp [hne] at h

namespace Game

/-- `Draws round n cards result`: drawing from the cards, with `n` players not yet placed, ends with
an event that has found its players, or where a choice among the cards left is impossible. -/
inductive Draws (round : RoundKind) (n : Nat) (cards : List Card) :
    Except GameError Cast → Prop where
  | cast {cast : Cast} (hcards : Thinned cards cast.cards) : Draws round n cards (.ok cast)
  | none {left : List Card} {w : WeightError} (hleft : Thinned cards left)
      (hw : weightError? (left.map (·.event.rarity)) = some w) :
      Draws round n cards (.error (drawError round n w))

theorem Draws.of_thinned {round : RoundKind} {n : Nat} {cards left : List Card}
    {result : Except GameError Cast} (h : Draws round n left result) (hleft : Thinned cards left) :
    Draws round n cards result := by
  cases h with
  | cast hcards => exact .cast (hleft.trans hcards)
  | none hleft' hw => exact .none (hleft.trans hleft') hw

theorem draws_drawEvent (src : Source σ) (round kind : RoundKind) {pool : List Nat}
    (cards : List Card) (g : Game σ) (hpool : pool ≠ [])
    (hplaces : ∀ id ∈ pool, id < g.contest.roster.length) :
    Draws round pool.length cards (drawEvent src round kind pool cards g).1 := by
  fun_induction drawEvent src round kind pool cards g with
  | case1 cards g e dice hchoose =>
      exact .none (.refl cards) (Source.weightError?_of_choose hchoose)
  | case2 cards g i dice hchoose hi card ids dice' hcast => exact .cast (.refl cards)
  | case3 cards g i dice hchoose hi card failure dice' hfailure hcast ih =>
      rw [tellFailure_contest] at ih
      refine (ih hplaces).of_thinned (thinned_eraseIdx hi ?_)
      -- whoever there is could have played it, so it would not have been put aside
      intro he
      obtain ⟨id, hid⟩ := Contest.exists_cast he hpool hplaces src dice
      rw [hcast] at hid
      exact hfailure [id] hid

/-! ## The cards of a round -/

/-- The events that an event of a kind comes from: those of the arena in use, or those of a pool. -/
def source? (g : Game σ) : RoundKind → Option (List Event)
  | .arena => g.currentArena?.map (·.events)
  | kind => some (g.contest.pools.of kind)

theorem source?_of_ne {g : Game σ} {kind : RoundKind} (h : kind ≠ .arena) :
    g.source? kind = some (g.contest.pools.of kind) := by
  cases kind with
  | arena => exact absurd rfl h
  | _ => rfl

end Game

/-- The kinds of events that a round may draw: its own, and its deadly counterpart if there are
events of that. -/
def Contest.MayDraw (c : Contest) (round kind : RoundKind) : Prop :=
  kind = round ∨ round.fatal? = some kind ∧ c.pools.of kind ≠ []

theorem Contest.Keeps.mayDraw {c d : Contest} (h : c.Keeps d) {round kind : RoundKind}
    (hkind : d.MayDraw round kind) : c.MayDraw round kind := by
  unfold MayDraw at hkind ⊢
  rwa [h.pools] at hkind

theorem map_event_cardsOf (events : List Event) : (cardsOf events).map (·.event) = events := by
  unfold cardsOf
  rw [List.map_map]
  exact List.zipIdx_map_fst 0 events

/-- The cards of two kinds are either the same or have nothing to do with each other. -/
theorem Deck.cards_withCards (deck : Deck) (round kind other : RoundKind) (cards : List Card) :
    (deck.withCards round other cards).cards round kind =
      if kind = round ↔ other = round then cards else deck.cards round kind := by
  by_cases hkind : kind = round <;> by_cases hother : other = round <;>
    simp [Deck.withCards, Deck.cards, hkind, hother]

theorem Deck.thinned_withCards {deck : Deck} {round other : RoundKind} {cards : List Card}
    (h : Thinned (deck.cards round other) cards) (kind : RoundKind) :
    Thinned (deck.cards round kind) ((deck.withCards round other cards).cards round kind) := by
  rw [Deck.cards_withCards]
  split_ifs with hsame
  · have hcards : deck.cards round kind = deck.cards round other := by
      unfold Deck.cards
      rw [if_congr hsame rfl rfl]
    rwa [hcards]
  · exact .refl _

namespace Game

theorem cards_of_deck {g : Game σ} {round kind : RoundKind} {deck : Deck}
    (h : g.deck round = .ok deck) (hkind : g.contest.MayDraw round kind) :
    ∃ events, g.source? kind = some events ∧ deck.cards round kind = cardsOf events := by
  rcases hkind with rfl | ⟨hfatal, -⟩
  · cases kind with
    | arena =>
        cases harena : g.currentArena? with
        | none => simp [Game.deck, harena] at h
        | some arena =>
            simp only [Game.deck, harena, Except.ok.injEq] at h
            subst h
            simp [source?, harena, Deck.cards]
    | _ =>
        cases h
        simp [source?, Deck.cards]
  · -- only days and nights have a deadly counterpart
    cases round with
    | day | night =>
        cases hfatal
        cases h
        simp [source?, Deck.cards, RoundKind.fatal?]
    | _ => cases hfatal

theorem events_of_deck {g : Game σ} {round kind : RoundKind} {deck : Deck}
    (h : g.deck round = .ok deck) (hkind : g.contest.MayDraw round kind) :
    g.source? kind = some ((deck.cards round kind).map (·.event)) := by
  obtain ⟨events, hsource, hcards⟩ := cards_of_deck h hkind
  rw [hsource, hcards, map_event_cardsOf]

theorem mem_arenas_of_currentArena? {g : Game σ} {a : Arena} (h : g.currentArena? = some a) :
    a ∈ g.contest.arenas := by
  obtain ⟨i, -, hi⟩ := Option.bind_eq_some_iff.mp h
  exact List.mem_of_getElem? hi

theorem currentArena?_of_deck {g : Game σ} {round : RoundKind} {e : GameError}
    (h : g.deck round = .error e) : round = .arena ∧ g.currentArena? = none := by
  cases round with
  | arena =>
      cases harena : g.currentArena? with
      | none => exact ⟨rfl, rfl⟩
      | some arena => simp [deck, harena] at h
  | _ => cases h

theorem ne_overflow_of_deck {g : Game σ} {round : RoundKind} {e : GameError}
    (h : g.deck round = .error e) : e ≠ .overflow := by
  obtain ⟨rfl, hnone⟩ := currentArena?_of_deck h
  rw [deck, hnone] at h
  cases h
  exact GameError.noConfusion

theorem mayDraw_of_eventKind {src : Source σ} {round kind : RoundKind} {g g₁ : Game σ}
    (h : g.eventKind src round = (kind, g₁)) : g.contest.MayDraw round kind := by
  unfold eventKind at h
  cases hfatal : round.fatal? with
  | none =>
      rw [hfatal] at h
      cases h
      exact .inl rfl
  | some fatal =>
      simp only [hfatal, Prod.mk.injEq] at h
      obtain ⟨rfl, -⟩ := h
      split_ifs with hroll
      · rw [Bool.and_eq_true, Bool.not_eq_true', List.isEmpty_eq_false_iff] at hroll
        exact .inr ⟨hfatal, hroll.2⟩
      · exact .inl rfl

/-! ## The draws of a round -/

theorem draws_of_drawEvent {src : Source σ} {round kind : RoundKind} {pool : List Nat}
    {cards : List Card} {g g₁ g₂ : Game σ} {result : Except GameError Cast}
    (hkind : g.eventKind src round = (kind, g₁))
    (hdraw : drawEvent src round kind pool cards g₁ = (result, g₂)) (hpool : pool ≠ [])
    (hplaces : ∀ id ∈ pool, id < g.contest.roster.length) :
    Draws round pool.length cards result := by
  rw [← contest_of_eventKind hkind] at hplaces
  have hdraws := draws_drawEvent src round kind cards g₁ hpool hplaces
  rwa [hdraw] at hdraws

theorem keeps_of_drawEvent {src : Source σ} {round kind : RoundKind} {pool : List Nat}
    {cards : List Card} {g g₁ g₂ : Game σ} {cast : Cast}
    (hkind : g.eventKind src round = (kind, g₁))
    (hdraw : drawEvent src round kind pool cards g₁ = (.ok cast, g₂)) :
    g.contest.Keeps (g₂.playEvent kind cast.event cast.ids).2.contest := by
  rw [playEvent_snd_contest, contest_of_draw hkind hdraw]
  exact (Turn.actsOn ⟨g.contest, kind, cast.event, cast.ids⟩).toKeeps

theorem places_unplaced {c d : Contest} (h : c.Keeps d) {pool : List Nat}
    (hplaces : ∀ id ∈ pool, id < c.roster.length) (ids : List Nat) :
    ∀ id ∈ unplaced pool ids, id < d.roster.length := by
  intro id hid
  rw [h.length_roster]
  exact hplaces id (mem_unplaced.mp hid).1

theorem places_aliveIds {src : Source σ} {g g₁ : Game σ} {round : RoundKind}
    (h : g.nextRound src = (.ok round, g₁)) :
    ∀ id ∈ g.contest.aliveIds, id < (g₁.opening src round).contest.roster.length := by
  rw [opening_contest_of_nextRound h]
  exact fun id => Contest.lt_of_mem_aliveIds

/-- Whatever was put aside before, a round breaks off for what speaks against a choice among the
cards that are left of one kind, or because a count is full. -/
theorem Plays.breakdown {src : Source σ} {round : RoundKind} {deck : Deck} {pool : List Nat}
    {g g' : Game σ} {turns : List Turn} {failure? : Option GameError}
    (h : Plays src round deck pool g turns failure? g')
    (hplaces : ∀ id ∈ pool, id < g.contest.roster.length) {e : GameError}
    (he : failure? = some e) :
    e = .overflow ∨
      ∃ kind n, g.contest.MayDraw round kind ∧ Draws round n (deck.cards round kind) (.error e) := by
  induction h with
  | placed | decided => cases he
  | @stuck deck pool g g₁ g₂ kind e' hpool _ hkind hdraw =>
      obtain rfl := Option.some.inj he
      exact .inr ⟨kind, pool.length, mayDraw_of_eventKind hkind,
        draws_of_drawEvent hkind hdraw hpool hplaces⟩
  | full => exact .inl (Option.some.inj he).symm
  | @turn deck pool g g₁ g₂ g' kind cast turns failure? hpool _ hkind hdraw _ _ ih =>
      have hkeeps := keeps_of_drawEvent hkind hdraw
      obtain hfull | ⟨kind', n, hmay, hdraws⟩ := ih (places_unplaced hkeeps hplaces cast.ids) he
      · exact .inl hfull
      refine .inr ⟨kind', n, hkeeps.mayDraw hmay, hdraws.of_thinned ?_⟩
      -- this event has put aside only cards of its own kind
      cases draws_of_drawEvent hkind hdraw hpool hplaces with
      | cast hcards => exact Deck.thinned_withCards hcards kind'

end Game
end Tournament
