import Tournament.Proofs.Assignment
import Tournament.Proofs.Drawable
import Tournament.Proofs.Drawing

/-!
# Where the reported events come from

Each event that is reported is one of the source that its kind names, and was played by players who
passed the check of its slots when it was their turn, after the events before it in its round and
before its own effects (`Provenance`).  A call that ends because a count is full has drawn one more
event in the same way (`Game.Advances.exists_full`).
-/

namespace Tournament

open Draw (Source)

variable {σ : Type}

/-- The turns lead from the contest `c` to `c'`, each beginning where the one before it ended. -/
def Chained (c : Contest) : List Turn → Contest → Prop
  | [], c' => c' = c
  | t :: turns, c' => t.before = c ∧ Chained t.after turns c'

theorem Placing.chained {pool : List Nat} {c c' : Contest} {turns : List Turn}
    {failure? : Option GameError} (h : Placing pool c turns failure? c') : Chained c turns c' := by
  induction h with
  | finished | failed => rfl
  | turn t _ _ _ _ ih => exact ⟨rfl, ih⟩

/-- Where a turn of a round comes from: its kind is the round's own, or the deadly one where there
are such events; its event is one of that pool, or of the arena of the round; and it is told of as
many players as the event takes. -/
structure Origin (c : Contest) (round : RoundKind) (arena : Option Arena) (t : Turn) : Prop where
  kind : c.MayDraw round t.kind
  pool : t.kind ≠ .arena → t.event ∈ c.pools.of t.kind
  arena : t.kind = .arena → ∃ a ∈ c.arenas, arena = some a ∧ t.event ∈ a.events
  tributes : t.report.players.length = t.event.tributes

/-- A turn of such an origin whose players, told in slot order, could play the event in the contest
as it stood then. -/
structure Provenance (c : Contest) (round : RoundKind) (arena : Option Arena) (t : Turn) : Prop
    extends Origin c round arena t where
  players : ∃ players, t.before.PlayersAt t.ids players ∧ t.event.PlayableBy t.before players ∧
    t.report.players = players.map (·.name) ∧ t.report.text = t.event.render players

theorem Contest.Keeps.provenance {c d : Contest} {round : RoundKind} {arena : Option Arena}
    {t : Turn} (hkeeps : c.Keeps d) (h : Provenance d round arena t) : Provenance c round arena t := by
  refine ⟨⟨hkeeps.mayDraw h.kind, ?_, ?_, h.tributes⟩, h.players⟩
  · rw [← hkeeps.pools]
    exact h.pool
  · rw [← hkeeps.arenas]
    exact h.arena

theorem Origin.of_everyEvent {P : Event → Prop} {c : Contest} {round : RoundKind}
    {arena : Option Arena} {t : Turn} (h : Origin c round arena t) (hc : c.EveryEvent P) :
    P t.event := by
  by_cases hkind : t.kind = .arena
  · obtain ⟨a, ha, -, hevent⟩ := h.arena hkind
    exact hc.arenas a ha _ hevent
  · exact hc.pools t.kind _ (h.pool hkind)

/-- A turn as a round draws it: the event is on a card of its kind, and the players can play it. -/
structure Drawn (c : Contest) (round : RoundKind) (deck : Deck) (t : Turn) : Prop where
  kind : c.MayDraw round t.kind
  card : ∃ card ∈ deck.cards round t.kind, card.event = t.event
  players : ∃ players, t.before.PlayersAt t.ids players ∧ t.event.PlayableBy t.before players

/-- What is drawn from the cards that a turn leaves could have been drawn before it. -/
theorem Drawn.of_withCards {c d : Contest} {round kind : RoundKind} {deck : Deck}
    {cards : List Card} {t : Turn} (h : Drawn d round (deck.withCards round kind cards) t)
    (hkeeps : c.Keeps d) (hcards : Thinned (deck.cards round kind) cards) :
    Drawn c round deck t := by
  obtain ⟨card, hcard, hevent⟩ := h.card
  have hmem := (Deck.thinned_withCards hcards t.kind).sublist.subset hcard
  exact ⟨hkeeps.mayDraw h.kind, ⟨card, hmem, hevent⟩, h.players⟩

namespace Game

theorem drawn_of_drawEvent {src : Source σ} {round kind : RoundKind} {deck : Deck}
    {pool : List Nat} {g g₁ g₂ : Game σ} {cast : Cast} (hkind : g.eventKind src round = (kind, g₁))
    (hdraw : drawEvent src round kind pool (deck.cards round kind) g₁ = (.ok cast, g₂)) :
    Drawn g.contest round deck ⟨g.contest, kind, cast.event, cast.ids⟩ := by
  obtain ⟨card, hcard, hevent, dice, hcast⟩ := cast_of_drawEvent hdraw
  rw [contest_of_eventKind hkind] at hcast
  exact ⟨mayDraw_of_eventKind hkind, ⟨card, hcard, hevent⟩, Contest.exists_players_of_cast hcast⟩

theorem Plays.drawn {src : Source σ} {round : RoundKind} {deck : Deck} {pool : List Nat}
    {g g' : Game σ} {turns : List Turn} {failure? : Option GameError}
    (h : Plays src round deck pool g turns failure? g')
    (hplaces : ∀ id ∈ pool, id < g.contest.roster.length) :
    ∀ t ∈ turns, Drawn g.contest round deck t := by
  induction h with
  | placed | decided | stuck | full => simp
  | @turn deck pool g g₁ g₂ g' kind cast turns failure? hpool _ hkind hdraw _ _ ih =>
      have hkeeps := keeps_of_drawEvent hkind hdraw
      have hrest := ih (places_unplaced hkeeps hplaces cast.ids)
      cases draws_of_drawEvent hkind hdraw hpool hplaces with
      | cast hcards =>
          exact List.forall_mem_cons.mpr ⟨drawn_of_drawEvent hkind hdraw,
            fun t ht => (hrest t ht).of_withCards hkeeps hcards⟩

/-- A round that breaks off because a count is full has drawn one more turn, for which there is no
room. -/
theorem Plays.exists_full {src : Source σ} {round : RoundKind} {deck : Deck} {pool : List Nat}
    {g g' : Game σ} {turns : List Turn} {failure? : Option GameError}
    (h : Plays src round deck pool g turns failure? g') (hfull : failure? = some .overflow)
    (hpool : pool.Nodup) (hplaces : ∀ id ∈ pool, id < g.contest.roster.length) :
    ∃ t : Turn, t.before = g'.contest ∧ ¬ t.Fits ∧ Drawn g.contest round deck t ∧
      Placing pool g.contest (turns ++ [t]) failure? t.after := by
  induction h with
  | placed | decided => cases hfull
  | stuck _ _ _ hdraw =>
      cases hfull
      exact absurd rfl (ne_overflow_of_drawEvent hdraw)
  | @full deck pool g g₁ g₂ kind cast _ hopen hkind hdraw hfits =>
      refine ⟨_, (contest_of_draw hkind hdraw).symm, hfits, drawn_of_drawEvent hkind hdraw, ?_⟩
      exact .turn ⟨g.contest, kind, cast.event, cast.ids⟩ hopen (mem_pool_of_drawEvent hdraw)
        (nodup_of_drawEvent hdraw hpool) (.failed _ _ _)
  | @turn deck pool g g₁ g₂ g' kind cast turns failure? hne hopen hkind hdraw _ _ ih =>
      have hkeeps := keeps_of_drawEvent hkind hdraw
      obtain ⟨t, hbefore, hfits, hdrawn, hplacing⟩ :=
        ih hfull (nodup_unplaced cast.ids hpool) (places_unplaced hkeeps hplaces cast.ids)
      rw [playEvent_snd_contest, contest_of_draw hkind hdraw] at hplacing
      cases draws_of_drawEvent hkind hdraw hne hplaces with
      | cast hcards =>
          refine ⟨t, hbefore, hfits, hdrawn.of_withCards hkeeps hcards, ?_⟩
          exact .turn ⟨g.contest, kind, cast.event, cast.ids⟩ hopen (mem_pool_of_drawEvent hdraw)
            (nodup_of_drawEvent hdraw hpool) hplacing

theorem provenance_of_source? {g : Game σ} {round : RoundKind} {t : Turn} {events : List Event}
    {players : List Player} (hkind : g.contest.MayDraw round t.kind)
    (hsource : g.source? t.kind = some events) (hevent : t.event ∈ events)
    (hplayers : t.before.PlayersAt t.ids players)
    (hplayable : t.event.PlayableBy t.before players) :
    Provenance g.contest round g.currentArena? t := by
  have hreport : t.report.players = players.map (·.name) := by
    rw [← hplayers.filterMap_eq, Contest.map_name_filterMap]
    rfl
  refine ⟨⟨hkind, ?_, ?_, ?_⟩, players, hplayers, hplayable, hreport, ?_⟩
  · intro harena
    obtain rfl : g.contest.pools.of t.kind = events := by
      rw [source?_of_ne harena] at hsource
      exact Option.some.inj hsource
    exact hevent
  · intro harena
    rw [harena] at hsource
    obtain ⟨a, ha, rfl⟩ := Option.map_eq_some_iff.mp hsource
    exact ⟨a, mem_arenas_of_currentArena? ha, ha, hevent⟩
  · obtain ⟨_, -, hslots⟩ := hplayable
    rw [hreport, List.length_map, ← hslots.length_eq]
    rfl
  · rw [← hplayers.filterMap_eq]
    rfl

theorem provenance_of_drawn {src : Source σ} {g g₁ : Game σ} {round : RoundKind} {deck : Deck}
    {t : Turn} (hnext : g.nextRound src = (.ok round, g₁))
    (hdeck : (g₁.opening src round).deck round = .ok deck)
    (h : Drawn (g₁.opening src round).contest round deck t) :
    Provenance g.contest round (g₁.opening src round).currentArena? t := by
  obtain ⟨hkind, ⟨card, hcard, hevent⟩, players, hplayers, hplayable⟩ := h
  rw [← opening_contest_of_nextRound hnext]
  exact provenance_of_source? hkind (events_of_deck hdeck hkind)
    (hevent ▸ List.mem_map_of_mem hcard) hplayers hplayable

theorem Plays.provenance {src : Source σ} {g g₁ g₂ : Game σ} {round : RoundKind} {deck : Deck}
    {turns : List Turn} {failure? : Option GameError} (hnext : g.nextRound src = (.ok round, g₁))
    (hdeck : (g₁.opening src round).deck round = .ok deck)
    (h : Plays src round deck g.contest.aliveIds (g₁.opening src round) turns failure? g₂) :
    ∀ t ∈ turns, Provenance g.contest round (g₁.opening src round).currentArena? t :=
  fun t ht => provenance_of_drawn hnext hdeck (h.drawn (places_aliveIds hnext) t ht)

theorem Advances.provenance {src : Source σ} {g g' : Game σ} {turns : List Turn}
    {report : RoundReport} (h : Advances src g turns (.ok report) g') :
    ∃ arena : Option Arena, report.arena = arena.map (·.name) ∧
      ∀ t ∈ turns, Provenance g.contest report.round arena t := by
  cases h with
  | @finished g₁ g₂ round deck turns hopen hnext hdeck hplays =>
      exact ⟨(g₁.opening src round).currentArena?, rfl, hplays.provenance hnext hdeck⟩

theorem Advances.exists_provenance {src : Source σ} {g g' : Game σ} {turns : List Turn}
    {result : Except GameError RoundReport} (h : Advances src g turns result g') :
    ∀ t ∈ turns, ∃ round arena, Provenance g.contest round arena t := by
  cases h with
  | decided | noRound | noDeck => simp
  | broken _ hnext hdeck hplays =>
      exact fun t ht => ⟨_, _, hplays.provenance hnext hdeck t ht⟩
  | finished _ hnext hdeck hplays =>
      exact fun t ht => ⟨_, _, hplays.provenance hnext hdeck t ht⟩

/-- A call that ends because a count is full has drawn one more turn, for which there is no room. -/
theorem Advances.exists_full {src : Source σ} {g g' : Game σ} {turns : List Turn}
    (h : Advances src g turns (.error .overflow) g') :
    ∃ t : Turn, t.before = g'.contest ∧ ¬ t.Fits ∧
      (∃ round arena, Provenance g.contest round arena t) ∧
      Placing g.contest.aliveIds g.contest (turns ++ [t]) (some .overflow) t.after := by
  cases h with
  | noRound _ hnext => cases follows_of_nextRound hnext
  | noDeck _ hnext hdeck => exact absurd rfl (ne_overflow_of_deck hdeck)
  | broken hopen hnext hdeck hplays =>
      obtain ⟨t, hbefore, hfits, hdrawn, hplacing⟩ :=
        hplays.exists_full rfl g.contest.nodup_aliveIds (places_aliveIds hnext)
      rw [opening_contest_of_nextRound hnext] at hplacing
      exact ⟨t, hbefore, hfits, ⟨_, _, provenance_of_drawn hnext hdeck hdrawn⟩, hplacing⟩

end Game
end Tournament
