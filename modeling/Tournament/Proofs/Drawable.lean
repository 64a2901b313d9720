import Tournament.Proofs.Acceptance
import Tournament.Proofs.Draft
import Tournament.Proofs.Weights

/-!
# What a contest asks of chance

The rates of a contest bound rolls and the rarities of its events weigh choices, so that rates must
be at least 1 and rarities positive and finite.  A spec is read line by line, and each line is
checked for this alone: whatever problems a spec has, the contest that is read from it is
`Drawable`.
-/

namespace Tournament

open Draw (IsWeight)

/-- Every event of a contest, in its pools or in an arena, has a property. -/
structure Contest.EveryEvent (P : Event → Prop) (c : Contest) : Prop where
  pools : ∀ kind, ∀ e ∈ c.pools.of kind, P e
  arenas : ∀ a ∈ c.arenas, ∀ e ∈ a.events, P e

/-- The rolls and choices of a contest are possible, each rarity taken by itself. -/
structure Contest.Drawable (c : Contest) : Prop where
  deathRate_pos : 0 < c.rules.deathRate
  arenaFrequency_pos : 0 < c.rules.arenaFrequency
  rarities : c.EveryEvent fun e => IsWeight e.rarity

theorem Contest.Keeps.everyEvent {P : Event → Prop} {c d : Contest} (h : c.Keeps d)
    (hc : c.EveryEvent P) : d.EveryEvent P :=
  ⟨h.pools ▸ hc.pools, h.arenas ▸ hc.arenas⟩

theorem Contest.Keeps.drawable {c d : Contest} (h : c.Keeps d) (hc : c.Drawable) : d.Drawable :=
  ⟨h.rules ▸ hc.deathRate_pos, h.rules ▸ hc.arenaFrequency_pos, h.everyEvent hc.rarities⟩

/-! ## Reading an event -/

theorem Event.isWeight_rarity {text metadata : String} {e : Event}
    (h : Event.parse text metadata = .ok e) : IsWeight e.rarity := by
  obtain ⟨t, d, -, hd, hjoin⟩ := parse_eq_ok_iff.mp h
  obtain ⟨scan, hscan⟩ := exists_joins hjoin
  obtain ⟨-, hrarity, -⟩ := ofTags_eq_ok_iff.mp hd
  rw [hscan.rarity]
  obtain ⟨-, hdefault⟩ | ⟨value, -, -, hfinite, hpositive⟩ := parseRarity_eq_ok_iff.mp hrarity
  · rw [hdefault]
    exact ⟨by decide +kernel, by decide +kernel⟩
  · exact ⟨hfinite, hpositive⟩

/-! ## Reading a rule line -/

theorem pos_of_readPositive32 {s : String} {n : Nat} (h : Number.readPositive32 s = some n) :
    0 < n := by
  unfold Number.readPositive32 at h
  simpa using (Option.filter_eq_some_iff.mp h).2

theorem RuleChanges.pos_of_setting {t : Tags} {key : String} {n : Nat}
    (h : setting t key (parseRate key) = .ok (some n)) : 0 < n := by
  unfold setting at h
  split at h
  · cases Except.ok.inj h
  · rename_i value _
    unfold parseRate at h
    split at h
    · rename_i n' hread
      obtain rfl : n' = n := by simpa [Except.map] using h
      exact pos_of_readPositive32 hread
    · cases h

theorem pos_of_or {rate rate' : Option Nat} (h : ∀ n, rate = some n → 0 < n)
    (h' : ∀ n, rate' = some n → 0 < n) : ∀ n, rate.or rate' = some n → 0 < n := by
  intro n hn
  rcases Option.or_eq_some_iff.mp hn with hn | ⟨-, hn⟩
  · exact h n hn
  · exact h' n hn

theorem pos_getD {rate : Option Nat} {default : Nat} (h : ∀ n, rate = some n → 0 < n)
    (hdefault : 0 < default) : 0 < rate.getD default := by
  cases rate with
  | none => exact hdefault
  | some n => exact h n rfl

structure RuleChanges.PositiveRates (c : RuleChanges) : Prop where
  deathRate : ∀ n, c.deathRate = some n → 0 < n
  arenaFrequency : ∀ n, c.arenaFrequency = some n → 0 < n

theorem RuleChanges.positiveRates_of_parse {s : String} {c : RuleChanges} (h : parse s = .ok c) :
    c.PositiveRates := by
  obtain ⟨t, -, h⟩ := exists_of_bind_eq_ok h
  obtain ⟨autoElimination, -, h⟩ := exists_of_bind_eq_ok h
  obtain ⟨deathRate, hdeathRate, h⟩ := exists_of_bind_eq_ok h
  obtain ⟨minSize, -, h⟩ := exists_of_bind_eq_ok h
  obtain ⟨maxSize, -, h⟩ := exists_of_bind_eq_ok h
  obtain ⟨arenaFrequency, harenaFrequency, h⟩ := exists_of_bind_eq_ok h
  obtain rfl := Except.ok.inj h
  constructor
  · rintro n rfl
    exact pos_of_setting hdeathRate
  · rintro n rfl
    exact pos_of_setting harenaFrequency

theorem RuleChanges.PositiveRates.merge {c c' : RuleChanges} (h : c.PositiveRates)
    (h' : c'.PositiveRates) : (c.merge c').PositiveRates :=
  ⟨pos_of_or h'.deathRate h.deathRate, pos_of_or h'.arenaFrequency h.arenaFrequency⟩

theorem Rules.rates_of_ofChanges {c : RuleChanges} {r : Rules} (h : ofChanges c = .ok r)
    (hc : c.PositiveRates) : 0 < r.deathRate ∧ 0 < r.arenaFrequency := by
  unfold ofChanges at h
  dsimp only at h
  split_ifs at h
  obtain rfl := Except.ok.inj h
  exact ⟨pos_getD hc.deathRate (by decide), pos_getD hc.arenaFrequency (by decide)⟩

/-! ## Reading a spec -/

namespace Spec

/-- Every event of an arena that gets one more event is that event or was there before. -/
theorem mem_of_addToLast {e : Event} {as as' : List Arena} (h : addToLast e as = some as') :
    ∀ a' ∈ as', ∀ f ∈ a'.events, f = e ∨ ∃ a ∈ as, f ∈ a.events := by
  fun_induction addToLast e as generalizing as' with
  | case1 => cases h
  | case2 a =>
      obtain rfl := Option.some.inj h
      intro a' ha' f hf
      obtain rfl := List.mem_singleton.mp ha'
      rcases List.mem_append.mp hf with hf | hf
      · exact .inr ⟨a, List.mem_singleton_self a, hf⟩
      · exact .inl (List.mem_singleton.mp hf)
  | case3 a rest hrest ih =>
      obtain ⟨more, hmore, rfl⟩ := Option.map_eq_some_iff.mp h
      intro a' ha' f hf
      rcases List.mem_cons.mp ha' with rfl | ha'
      · exact .inr ⟨a', List.mem_cons_self, hf⟩
      · rcases ih hmore a' ha' f hf with heq | ⟨b, hb, hfb⟩
        · exact .inl heq
        · exact .inr ⟨b, List.mem_cons_of_mem a hb, hfb⟩

theorem mem_of_mem_add {p : Pools} {kind other : RoundKind} {e f : Event}
    (h : f ∈ (p.add kind e).of other) : f = e ∨ f ∈ p.of other := by
  rw [Pools.of_add] at h
  split_ifs at h
  · rcases List.mem_append.mp h with hf | hf
    · exact .inr hf
    · exact .inl (List.mem_singleton.mp hf)
  · exact .inr h

structure Draft.EveryEvent (P : Event → Prop) (d : Draft) : Prop where
  pools : ∀ kind, ∀ e ∈ d.pools.of kind, P e
  arenas : ∀ a ∈ d.arenas, ∀ e ∈ a.events, P e

theorem Draft.everyEvent_empty (P : Event → Prop) : ({} : Draft).EveryEvent P := by
  refine ⟨?_, by simp⟩
  intro kind e he
  cases kind <;> cases he

theorem Draft.Takes.everyEvent {P : Event → Prop}
    (hP : ∀ text metadata e, Event.parse text metadata = .ok e → P e) {d d' : Draft} {i : Numbered}
    (h : d.Takes i d') (hd : d.EveryEvent P) : d'.EveryEvent P := by
  cases h with
  | nothing => exact hd
  | player | rules => exact ⟨hd.pools, hd.arenas⟩
  | event hparse =>
      refine ⟨?_, hd.arenas⟩
      intro kind f hf
      rcases mem_of_mem_add hf with rfl | hf
      · exact hP _ _ _ hparse
      · exact hd.pools kind f hf
  | arenaEvent hparse hadd =>
      refine ⟨hd.pools, ?_⟩
      intro a ha e he
      rcases mem_of_addToLast hadd a ha e he with rfl | ⟨b, hb, he⟩
      · exact hP _ _ _ hparse
      · exact hd.arenas b hb e he
  | arenaOpening =>
      refine ⟨hd.pools, ?_⟩
      intro a ha e he
      rcases List.mem_append.mp ha with ha | ha
      · exact hd.arenas a ha e he
      · obtain rfl := List.mem_singleton.mp ha
        cases he

theorem Draft.EveryEvent.finish {P : Event → Prop} {d : Draft} (hd : d.EveryEvent P)
    (problems : List Problem) : (d.finish problems).contest.EveryEvent P := by
  unfold Draft.finish
  split <;> exact ⟨hd.pools, hd.arenas⟩

/-- What every accepted event has, every event of a contest has that is read from a spec. -/
theorem everyEvent_of_parse {P : Event → Prop}
    (hP : ∀ text metadata e, Event.parse text metadata = .ok e → P e) {input : String}
    {reading : Reading} (h : parse input = .ok reading) : reading.contest.EveryEvent P := by
  obtain ⟨d, problems, rfl, hd⟩ := exists_draft_of_parse (Draft.everyEvent_empty P)
    (fun _ _ _ htakes => htakes.everyEvent hP) h
  exact hd.finish problems

/-- The rates set so far are at least 1 and the rarities of the events so far positive. -/
structure Draft.Drawable (d : Draft) : Prop where
  rates : d.changes.PositiveRates
  pools : ∀ kind, ∀ e ∈ d.pools.of kind, IsWeight e.rarity
  arenas : ∀ a ∈ d.arenas, ∀ e ∈ a.events, IsWeight e.rarity

theorem Draft.Takes.drawable {d d' : Draft} {i : Numbered} (h : d.Takes i d')
    (hd : d.Drawable) : d'.Drawable := by
  have hevents : d'.EveryEvent fun e => IsWeight e.rarity :=
    h.everyEvent (fun _ _ _ => Event.isWeight_rarity) ⟨hd.pools, hd.arenas⟩
  refine ⟨?_, hevents.pools, hevents.arenas⟩
  cases h with
  | rules hparse => exact hd.rates.merge (RuleChanges.positiveRates_of_parse hparse)
  | nothing | player | event | arenaEvent | arenaOpening => exact hd.rates

theorem Draft.Drawable.finish {d : Draft} (hd : d.Drawable) (problems : List Problem) :
    (d.finish problems).contest.Drawable := by
  have hrarities : ∀ rules, (Contest.mk rules d.players d.arenas d.pools).EveryEvent
      fun e => IsWeight e.rarity := fun _ => ⟨hd.pools, hd.arenas⟩
  unfold Draft.finish
  split
  · rename_i rules hrules
    obtain ⟨hdeathRate, harenaFrequency⟩ := Rules.rates_of_ofChanges hrules hd.rates
    exact ⟨hdeathRate, harenaFrequency, hrarities rules⟩
  · exact ⟨show 0 < Rules.standard.deathRate by decide,
      show 0 < Rules.standard.arenaFrequency by decide, hrarities .standard⟩

theorem Draft.drawable_empty : ({} : Draft).Drawable := by
  have hevents := Draft.everyEvent_empty fun e => IsWeight e.rarity
  exact ⟨⟨by simp, by simp⟩, hevents.pools, hevents.arenas⟩

theorem drawable_of_parse {input : String} {reading : Reading} (h : parse input = .ok reading) :
    reading.contest.Drawable := by
  obtain ⟨d, problems, rfl, hd⟩ := exists_draft_of_parse Draft.drawable_empty
    (fun _ _ _ htakes => htakes.drawable) h
  exact hd.finish problems

end Spec
end Tournament
