import Tournament.Proofs.ArenaUse
import Tournament.Proofs.Calendar
import Tournament.Proofs.Drawable
import Tournament.Proofs.Provenance

/-!
# Why calls fail

A game on a parsed spec does not contradict itself, whatever its calls have returned: a round
follows, and an arena round has an arena.  So a call fails only because the contest is over, for
something that the spec says of one of its sources of events, or because an event credits someone
with more than the count has room for (`Failure`).  Where every source is provided for, only the
first and the last of these are left (`Failure.of_provisioned`).
-/

namespace Tournament

open Draw (IsWeight Source isFinite_totalWeight_of_sublist totalWeight weightError?_eq)

variable {σ : Type}

/-- Every list of events that a round may draw from: that of a plain round, that of a feast or of
deadly events if there are any, and that of an arena. -/
def Contest.sources (c : Contest) : List (List Event) :=
  [c.pools.bloodbath, c.pools.day, c.pools.night] ++
    [c.pools.fatalDay, c.pools.fatalNight, c.pools.feast].filter (· ≠ []) ++
    c.arenas.map (·.events)

/-- The sum of the weights of a list of events is finite. -/
def HasFiniteSum (events : List Event) : Prop :=
  (totalWeight (events.map (·.rarity))).isFinite = true

theorem Contest.of_mem_sources {c : Contest} {kind : RoundKind} (hkind : kind ≠ .arena)
    (h : kind = .bloodbath ∨ kind = .day ∨ kind = .night ∨ c.pools.of kind ≠ []) :
    c.pools.of kind ∈ c.sources := by
  unfold sources
  cases kind <;> simp_all [Pools.of]

theorem Contest.EveryEvent.of_mem_sources {P : Event → Prop} {c : Contest} (h : c.EveryEvent P)
    {events : List Event} (hsource : events ∈ c.sources) : ∀ e ∈ events, P e := by
  simp only [sources, List.mem_append, List.mem_cons, List.mem_filter, List.mem_map,
    List.not_mem_nil, or_false] at hsource
  rcases hsource with ((rfl | rfl | rfl) | ⟨rfl | rfl | rfl, -⟩) | ⟨a, ha, rfl⟩
  · exact h.pools .bloodbath
  · exact h.pools .day
  · exact h.pools .night
  · exact h.pools .fatalDay
  · exact h.pools .fatalNight
  · exact h.pools .feast
  · exact h.arenas a ha

/-- Every source that a round may draw from has an event that anyone can play and weights with a
finite sum. -/
structure Contest.Provisioned (c : Contest) : Prop where
  undemanding : ∀ events ∈ c.sources, ∃ e ∈ events, e.Undemanding
  finite : ∀ events ∈ c.sources, HasFiniteSum events

instance (events : List Event) : Decidable (HasFiniteSum events) :=
  inferInstanceAs (Decidable (_ = true))

instance (c : Contest) : Decidable c.Provisioned :=
  decidable_of_iff
    ((∀ events ∈ c.sources, ∃ e ∈ events, e.Undemanding) ∧
      ∀ events ∈ c.sources, HasFiniteSum events)
    ⟨fun h => ⟨h.1, h.2⟩, fun h => ⟨h.undemanding, h.finite⟩⟩

namespace Game

/-! ## The sources of a round -/

/-- The round that the next call begins may draw from these events. -/
def DrawsFrom (src : Source σ) (g : Game σ) (events : List Event) : Prop :=
  ∃ round g₁ kind, g.nextRound src = (.ok round, g₁) ∧ g.contest.MayDraw round kind ∧
    (g₁.opening src round).source? kind = some events

/-- `Failure src g e`: the next call may fail with `e`. -/
inductive Failure (src : Source σ) (g : Game σ) : GameError → Prop where
  | decided (hover : g.contest.isOver = true) : Failure src g .over
  /-- A source of the round has no event that anyone can play. -/
  | outOfEvents {events : List Event} (hsource : g.DrawsFrom src events)
      (hnone : ∀ e ∈ events, ¬ e.Undemanding) (round : RoundKind) (unplaced : Nat) :
      Failure src g (.outOfEvents round unplaced)
  | unbounded {events : List Event} (hsource : g.DrawsFrom src events)
      (hsum : ¬ HasFiniteSum events) : Failure src g .unbounded
  /-- There is a turn in the round for which a count has no room. -/
  | overflow {round : RoundKind} {arena : Option Arena} {t : Turn}
      (hprovenance : Provenance g.contest round arena t) (hfull : ¬ t.Fits) : Failure src g .overflow

theorem drawsFrom_of_deck {src : Source σ} {g g₁ : Game σ} {round kind : RoundKind} {deck : Deck}
    (hnext : g.nextRound src = (.ok round, g₁))
    (hdeck : (g₁.opening src round).deck round = .ok deck)
    (hkind : (g₁.opening src round).contest.MayDraw round kind) :
    g.DrawsFrom src ((deck.cards round kind).map (·.event)) := by
  have hevents := events_of_deck hdeck hkind
  rw [opening_contest_of_nextRound hnext] at hkind
  exact ⟨round, g₁, kind, hnext, hkind, hevents⟩

theorem DrawsFrom.mem_sources {src : Source σ} {g : Game σ} {events : List Event}
    (h : g.DrawsFrom src events) : events ∈ g.contest.sources := by
  obtain ⟨round, g₁, kind, hnext, hkind, hevents⟩ := h
  have hcontest := opening_contest_of_nextRound hnext
  by_cases harena : kind = .arena
  · subst harena
    obtain ⟨a, ha, rfl⟩ := Option.map_eq_some_iff.mp hevents
    have hmem := mem_arenas_of_currentArena? ha
    rw [hcontest] at hmem
    exact List.mem_append_right _ (List.mem_map_of_mem hmem)
  · rw [source?_of_ne harena, hcontest] at hevents
    obtain rfl := Option.some.inj hevents
    refine Contest.of_mem_sources harena ?_
    rcases hkind with rfl | ⟨-, hne⟩
    · cases follows_of_nextRound hnext with
      | arena => exact absurd rfl harena
      | feast _ _ hfeast => simp_all [feastDue, Pools.of]
      | _ => simp
    · simp [hne]

/-! ## Choices among the events of a source -/

theorem hasFiniteSum_cards_iff {cards : List Card} :
    HasFiniteSum (cards.map (·.event)) ↔
      (totalWeight (cards.map (·.event.rarity))).isFinite = true := by
  rw [HasFiniteSum, List.map_map]
  rfl

theorem DrawsFrom.isWeight {src : Source σ} {g : Game σ} {cards : List Card}
    (h : g.DrawsFrom src (cards.map (·.event))) (hdrawable : g.contest.Drawable) :
    ∀ w ∈ cards.map (·.event.rarity), IsWeight w := by
  intro w hw
  obtain ⟨card, hcard, rfl⟩ := List.mem_map.mp hw
  exact hdrawable.rarities.of_mem_sources h.mem_sources _ (List.mem_map_of_mem hcard)

/-- Where weights are positive, a choice fails because nothing is left or because the sum of what
is left, and so of everything, is infinite. -/
theorem Draws.failure {src : Source σ} {g : Game σ} {round : RoundKind} {n : Nat}
    {cards : List Card} {e : GameError} (h : Draws round n cards (.error e))
    (hsource : g.DrawsFrom src (cards.map (·.event)))
    (hweights : ∀ w ∈ cards.map (·.event.rarity), IsWeight w) : Failure src g e := by
  cases h with
  | @none left w hleft hw =>
  have hsub : (left.map (·.event.rarity)).Sublist (cards.map (·.event.rarity)) :=
    hleft.sublist.map _
  rw [weightError?_eq fun w hw => hweights w (hsub.subset hw)] at hw
  split_ifs at hw with hnil hfinite
  · cases hw
    refine .outOfEvents hsource ?_ round n
    intro event hevent he
    obtain ⟨card, hcard, rfl⟩ := List.mem_map.mp hevent
    have hmem := hleft.undemanding card hcard he
    rw [List.map_eq_nil_iff.mp hnil] at hmem
    cases hmem
  · cases hw
    refine .unbounded hsource ?_
    rw [hasFiniteSum_cards_iff]
    exact fun hsum => hfinite (isFinite_totalWeight_of_sublist hsub hweights hsum)

/-! ## Rounds that can be begun -/

theorem Orderly.of_getLast? {c : Contest} {past : List Beginning} {b : Beginning}
    (h : Orderly c past) (hlast : past.getLast? = some b) :
    b.kind ≠ .fatalDay ∧ b.kind ≠ .fatalNight := by
  obtain ⟨before, rfl⟩ := List.getLast?_eq_some_iff.mp hlast
  exact (h before b [] rfl).not_deadly

theorem Calendar.not_follows_error {c : Contest} {past : List Beginning} {src : Source σ}
    {g g₁ : Game σ} (hcalendar : Calendar c past g) {e : GameError} :
    ¬ Follows src g (.error e) g₁ := by
  intro h
  have hdated := hcalendar.dated
  cases h with
  | dayWithoutRound hlast hday => exact hday (hdated.day_of_nil (hdated.eq_nil hlast))
  | deadly hlast hprevious =>
      obtain ⟨last, hgetLast, hkind, -⟩ := hdated.exists_last hlast
      obtain ⟨hday, hnight⟩ := hcalendar.orderly.of_getLast? hgetLast
      rw [hkind] at hday hnight
      rcases hprevious with hprevious | hprevious
      · exact hday hprevious
      · exact hnight hprevious

theorem Follows.deck_ne_error {src : Source σ} {g g₁ : Game σ} {round : RoundKind}
    (h : Follows src g (.ok round) g₁) (hrange : g.ArenaInRange) {e : GameError} :
    (g₁.opening src round).deck round ≠ .error e := by
  intro hdeck
  obtain ⟨rfl, hnone⟩ := currentArena?_of_deck hdeck
  rw [opening_currentArena?] at hnone
  have hsome := ((h.arenaInRange hrange).enterArena src .arena).isSome_currentArena?
  rw [hnone, isSome_enterArena h.arenas_pos] at hsome
  cases hsome

theorem Calendar.exists_round {c : Contest} {past : List Beginning} {g : Game σ}
    (h : Calendar c past g) (src : Source σ) (hrange : g.ArenaInRange) :
    ∃ round g₁ deck, g.nextRound src = (.ok round, g₁) ∧
      (g₁.opening src round).deck round = .ok deck := by
  cases hnext : g.nextRound src with
  | mk next g₁ =>
  have hfollows := follows_of_nextRound hnext
  cases next with
  | error e => exact absurd hfollows h.not_follows_error
  | ok round =>
      cases hdeck : (g₁.opening src round).deck round with
      | error e => exact absurd hdeck (hfollows.deck_ne_error hrange)
      | ok deck => exact ⟨round, g₁, deck, rfl, hdeck⟩

/-! ## Any number of calls -/

theorem Advances.failure {src : Source σ} {g g' : Game σ} {turns : List Turn}
    {e : GameError} (h : Advances src g turns (.error e) g') {c : Contest} {past : List Beginning}
    (hcalendar : Calendar c past g) (hrange : g.ArenaInRange) (hdrawable : g.contest.Drawable) :
    Failure src g e := by
  by_cases hoverflow : e = .overflow
  · subst hoverflow
    obtain ⟨t, -, hfull, ⟨round, arena, hprovenance⟩, -⟩ := h.exists_full
    exact .overflow hprovenance hfull
  cases h with
  | decided hover => exact .decided hover
  | noRound _ hnext => exact absurd (follows_of_nextRound hnext) hcalendar.not_follows_error
  | noDeck _ hnext hdeck =>
      exact absurd hdeck ((follows_of_nextRound hnext).deck_ne_error hrange)
  | @broken g₁ g₂ round deck turns e hopen hnext hdeck hplays =>
      obtain ⟨kind, n, hmay, hdraws⟩ :=
        (hplays.breakdown (places_aliveIds hnext) rfl).resolve_left hoverflow
      have hsource := drawsFrom_of_deck hnext hdeck hmay
      exact hdraws.failure hsource (hsource.isWeight hdrawable)

theorem arenaInRange_later_start (c : Contest) (src : Source σ) (seed : String) (dice : σ)
    (n : Nat) : ((start c seed dice).later src n).ArenaInRange :=
  arenaInRange_later (by simp [ArenaInRange, start]) n

theorem keeps_later (c : Contest) (src : Source σ) (seed : String) (dice : σ) (n : Nat) :
    c.Keeps ((start c seed dice).later src n).contest :=
  (calendar_later c src seed dice n).keeps

theorem drawable_later {input : String} {reading : Spec.Reading}
    (hparse : Spec.parse input = .ok reading) (src : Source σ) (seed : String) (dice : σ)
    (n : Nat) : ((start reading.contest seed dice).later src n).contest.Drawable :=
  (keeps_later _ src seed dice n).drawable (Spec.drawable_of_parse hparse)

/-- Whatever calls have returned, the next one fails only because the contest is over or for what
the spec says of a source of its round. -/
theorem failure_later {input : String} {reading : Spec.Reading}
    (hparse : Spec.parse input = .ok reading) (src : Source σ) (seed : String) (dice : σ) (n : Nat)
    {e : GameError}
    (h : (((start reading.contest seed dice).later src n).advance src).1 = .error e) :
    Failure src ((start reading.contest seed dice).later src n) e := by
  obtain ⟨turns, hadvances⟩ := exists_advances src ((start reading.contest seed dice).later src n)
  rw [h] at hadvances
  exact hadvances.failure (calendar_later _ src seed dice n)
    (arenaInRange_later_start _ src seed dice n) (drawable_later hparse src seed dice n)

/-- Where every source is provided for, a call can fail only because the contest is over or a count
is full. -/
theorem Failure.of_provisioned {src : Source σ} {g : Game σ} {e : GameError} (h : Failure src g e)
    (hg : g.contest.Provisioned) : g.contest.isOver = true ∧ e = .over ∨ e = .overflow := by
  cases h with
  | decided hover => exact .inl ⟨hover, rfl⟩
  | outOfEvents hsource hnone =>
      obtain ⟨event, hevent, he⟩ := hg.undemanding _ hsource.mem_sources
      exact absurd he (hnone event hevent)
  | unbounded hsource hsum => exact absurd (hg.finite _ hsource.mem_sources) hsum
  | overflow => exact .inr rfl

end Game
end Tournament
