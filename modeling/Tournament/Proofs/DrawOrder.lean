import Tournament.Proofs.Recording

/-!
# The order of draws

What a call asks of chance, request by request (`requests_of_advance`): a roll for an arena and the
choice of one where they are due, and then for every event the roll for death, where there is one,
and its attempts.  An attempt chooses one of the cards that are left by weight, shuffles the players
not yet placed and gives teams to the abstract teams; a card that is not played is put aside for the
rest of the round.  The record of a recorded source is the witness.
-/

namespace Tournament

open Draw (Request Source WeightError weightError?)

variable {σ : Type} {src : Source σ}

/-! ## Attempts -/

structure Attempt where
  contest : Contest
  pool : List Nat
  cards : List Card
  card : Card

/-- What an attempt asks for: a card by weight, and what casting its event asks for. -/
def Attempt.requests (a : Attempt) : List Request :=
  .weighted (a.cards.map (·.event.rarity)) :: a.contest.castRequests a.card.event a.pool

namespace Game

/-- `Search src round c pool cards attempts result`: drawing from the cards ends, after the
attempts, with an event that has found players of the pool or where no choice is possible. -/
inductive Search (src : Source σ) (round : RoundKind) (c : Contest) (pool : List Nat) :
    List Card → List Attempt → Except GameError Cast → Prop where
  | impossible {cards : List Card} {w : WeightError}
      (hw : weightError? (cards.map (·.event.rarity)) = some w) :
      Search src round c pool cards [] (.error (drawError round pool.length w))
  | found {cards : List Card} {card : Card} {ids : List Nat} {s : σ} (hcard : card ∈ cards)
      (hcast : (c.cast src card.event pool s).1 = .cast ids) :
      Search src round c pool cards [⟨c, pool, cards, card⟩] (.ok ⟨card.event, ids, cards⟩)
  /-- A card that finds no players is put aside. -/
  | rejected {cards : List Card} {card : Card} {s : σ} {attempts : List Attempt}
      {result : Except GameError Cast} (hcard : card ∈ cards)
      (hcast : ∀ ids, (c.cast src card.event pool s).1 ≠ .cast ids)
      (hrest : Search src round c pool (cards.filter (·.number ≠ card.number)) attempts result) :
      Search src round c pool cards (⟨c, pool, cards, card⟩ :: attempts) result

theorem eraseIdx_eq_filter {cards : List Card} (h : (cards.map (·.number)).Nodup) {i : Nat}
    (hi : i < cards.length) :
    cards.eraseIdx i = cards.filter (·.number ≠ cards[i].number) := by
  induction cards generalizing i with
  | nil => exact absurd hi (Nat.not_lt_zero i)
  | cons card cards ih =>
      obtain ⟨hcard, hcards⟩ := List.nodup_cons.mp h
      cases i with
      | zero =>
          have hothers : ∀ other ∈ cards, other.number ≠ card.number := by
            intro other hother heq
            exact hcard (List.mem_map.mpr ⟨other, hother, heq⟩)
          rw [List.eraseIdx_cons_zero, List.getElem_cons_zero, List.filter_cons_of_neg (by simp)]
          exact (List.filter_eq_self.mpr (by simpa using hothers)).symm
      | succ i =>
          have hi' : i < cards.length := Nat.lt_of_succ_lt_succ hi
          have hne : card.number ≠ cards[i].number := by
            intro heq
            exact hcard (List.mem_map.mpr ⟨cards[i], List.getElem_mem hi', heq.symm⟩)
          rw [List.eraseIdx_cons_succ, List.getElem_cons_succ,
            List.filter_cons_of_pos (by simpa using hne), ih hcards hi']

theorem drawEvent_of_error {round kind : RoundKind} {pool : List Nat} {cards : List Card}
    {g : Game σ} {w : WeightError} {dice : σ}
    (hchoose : src.choose (cards.map (·.event.rarity)) g.dice = (.error w, dice)) :
    drawEvent src round kind pool cards g =
      (.error (drawError round pool.length w), { g with dice }) := by
  rw [drawEvent]
  simp only [hchoose]

theorem drawEvent_of_cast {round kind : RoundKind} {pool ids : List Nat} {cards : List Card}
    {g : Game σ} {i : Fin (cards.map (·.event.rarity)).length} {dice dice' : σ}
    (hchoose : src.choose (cards.map (·.event.rarity)) g.dice = (.ok i, dice))
    (hi : i.val < cards.length)
    (hcast : g.contest.cast src cards[i.val].event pool dice = (.cast ids, dice')) :
    drawEvent src round kind pool cards g =
      (.ok ⟨cards[i.val].event, ids, cards⟩, { g with dice := dice' }) := by
  rw [drawEvent]
  simp only [hchoose, hcast]

theorem drawEvent_of_failure {round kind : RoundKind} {pool : List Nat} {cards : List Card}
    {g : Game σ} {i : Fin (cards.map (·.event.rarity)).length} {dice dice' : σ} {failure : Casting}
    (hchoose : src.choose (cards.map (·.event.rarity)) g.dice = (.ok i, dice))
    (hi : i.val < cards.length)
    (hcast : g.contest.cast src cards[i.val].event pool dice = (failure, dice'))
    (hfailure : ∀ ids, failure ≠ .cast ids) :
    drawEvent src round kind pool cards g =
      drawEvent src round kind pool (cards.eraseIdx i.val)
        ({ g with dice := dice' }.tellFailure kind cards[i.val].number failure) := by
  rw [drawEvent]
  simp only [hchoose, hcast]

theorem exists_search (src : Source σ) (round kind : RoundKind) (pool : List Nat)
    (cards : List Card) (g : Game σ) (hnumbers : (cards.map (·.number)).Nodup) :
    ∃ attempts, Search src round g.contest pool cards attempts
        (drawEvent src round kind pool cards g).1 ∧
      ∀ record, drawEvent src.recorded round kind pool cards (g.noted record) =
        ((drawEvent src round kind pool cards g).1,
          (drawEvent src round kind pool cards g).2.noted
            (record ++ attempts.flatMap Attempt.requests)) := by
  fun_induction drawEvent src round kind pool cards g with
  | case1 cards g e dice hchoose =>
      refine ⟨[], .impossible (Source.weightError?_of_choose hchoose), ?_⟩
      intro record
      rw [drawEvent_of_error (Source.recorded_choose_of_error hchoose record), List.flatMap_nil,
        List.append_nil]
      rfl
  | case2 cards g i dice hchoose hi card ids dice' hcast =>
      refine ⟨[⟨g.contest, pool, cards, card⟩],
        .found (List.getElem_mem hi) (congrArg Prod.fst hcast), ?_⟩
      intro record
      have hcast' := g.contest.recorded_cast src card.event pool dice
        (record ++ [.weighted (cards.map (·.event.rarity))])
      rw [hcast] at hcast'
      rw [drawEvent_of_cast (Source.recorded_choose_of_ok hchoose record) hi hcast',
        List.append_assoc, List.flatMap_singleton]
      rfl
  | case3 cards g i dice hchoose hi card failure dice' hfailure hcast ih =>
      have herase := eraseIdx_eq_filter hnumbers hi
      obtain ⟨attempts, hsearch, hrecorded⟩ :=
        ih (hnumbers.sublist ((List.eraseIdx_sublist cards i.val).map _))
      rw [tellFailure_contest] at hsearch
      refine ⟨⟨g.contest, pool, cards, card⟩ :: attempts,
        .rejected (List.getElem_mem hi) (by rw [hcast]; exact hfailure) (herase ▸ hsearch), ?_⟩
      intro record
      have hcast' := g.contest.recorded_cast src card.event pool dice
        (record ++ [.weighted (cards.map (·.event.rarity))])
      rw [hcast] at hcast'
      have hrest := hrecorded (record ++ Attempt.requests ⟨g.contest, pool, cards, card⟩)
      rw [← noted_tellFailure, List.append_assoc] at hrest
      rw [drawEvent_of_failure (Source.recorded_choose_of_ok hchoose record) hi hcast' hfailure,
        List.append_assoc, List.flatMap_cons]
      exact hrest

theorem Search.attempts_ne_nil {round : RoundKind} {c : Contest} {pool : List Nat}
    {cards : List Card} {attempts : List Attempt} {cast : Cast}
    (h : Search src round c pool cards attempts (.ok cast)) : attempts ≠ [] := by
  cases h <;> exact List.cons_ne_nil _ _

/-- What is left when an event has found its players: all cards but those tried before its own. -/
theorem Search.cards_eq {round : RoundKind} {c : Contest} {pool : List Nat} {cards : List Card}
    {attempts : List Attempt} {cast : Cast} (h : Search src round c pool cards attempts (.ok cast)) :
    cast.cards =
      cards.filter fun card => card.number ∉ attempts.dropLast.map (·.card.number) := by
  generalize hresult : Except.ok cast = result at h
  induction h with
  | impossible => cases hresult
  | found =>
      obtain rfl := Except.ok.inj hresult
      simp
  | @rejected cards card s attempts result hcard hcast hrest ih =>
      subst hresult
      rw [ih rfl, List.filter_filter, List.dropLast_cons_of_ne_nil hrest.attempts_ne_nil]
      refine List.filter_congr fun other _ => ?_
      rw [Bool.eq_iff_iff]
      simp only [Bool.and_eq_true, decide_eq_true_eq, List.map_cons, List.mem_cons, not_or,
        and_comm]

end Game

/-! ## The events of a round -/

/-- An event as it is drawn: its kind, and the attempts made. -/
structure Drawing where
  kind : RoundKind
  attempts : List Attempt

/-- What an event asks for: the roll for death of a day or a night, and what its attempts do. -/
def Drawing.requests (r : Rules) (round : RoundKind) (d : Drawing) : List Request :=
  r.deathRoll round ++ d.attempts.flatMap Attempt.requests

/-- The cards that were tried before the event that was played, by kind and number. -/
def Drawing.rejected (d : Drawing) : List (RoundKind × Nat) :=
  d.attempts.dropLast.map fun a => (d.kind, a.card.number)

def cardsLeft (source : RoundKind → List Event) (aside : List (RoundKind × Nat))
    (kind : RoundKind) : List Card :=
  (cardsOf (source kind)).filter fun card => (kind, card.number) ∉ aside

theorem cardsLeft_nil (source : RoundKind → List Event) (kind : RoundKind) :
    cardsLeft source [] kind = cardsOf (source kind) := by
  simp [cardsLeft]

theorem nodup_cardsLeft (source : RoundKind → List Event) (aside : List (RoundKind × Nat))
    (kind : RoundKind) : ((cardsLeft source aside kind).map (·.number)).Nodup := by
  have hnumbers : (cardsOf (source kind)).map (·.number) = List.range (source kind).length := by
    unfold cardsOf
    rw [List.map_map, List.range_eq_range']
    exact List.zipIdx_map_snd 0 (source kind)
  refine List.Nodup.sublist (List.filter_sublist.map _) ?_
  rw [hnumbers]
  exact List.nodup_range

/-- To put cards of a kind aside takes them from those that are left of it. -/
theorem cardsLeft_append (source : RoundKind → List Event) (aside : List (RoundKind × Nat))
    (kind : RoundKind) (numbers : List Nat) :
    cardsLeft source (aside ++ numbers.map (kind, ·)) kind =
      (cardsLeft source aside kind).filter (·.number ∉ numbers) := by
  unfold cardsLeft
  rw [List.filter_filter]
  refine List.filter_congr fun card _ => ?_
  rw [Bool.eq_iff_iff]
  simp only [Bool.and_eq_true, decide_eq_true_eq, List.mem_append, List.mem_map, Prod.mk.injEq,
    true_and, exists_eq_right, not_or]
  exact and_comm

theorem cardsLeft_append_of_ne (source : RoundKind → List Event) (aside : List (RoundKind × Nat))
    {kind other : RoundKind} (h : other ≠ kind) (numbers : List Nat) :
    cardsLeft source (aside ++ numbers.map (kind, ·)) other = cardsLeft source aside other := by
  unfold cardsLeft
  refine List.filter_congr fun card _ => ?_
  rw [decide_eq_decide]
  simp only [List.mem_append, List.mem_map, Prod.mk.injEq, Ne.symm h, false_and, and_false,
    exists_false, or_false]

theorem Drawing.rejected_eq (d : Drawing) :
    d.rejected = (d.attempts.dropLast.map (·.card.number)).map (d.kind, ·) := by
  rw [List.map_map]
  rfl

/-- Two kinds that a round may draw are the same if both or neither is its own. -/
theorem Contest.MayDraw.eq_iff {c : Contest} {round kind kind' : RoundKind}
    (h : c.MayDraw round kind) (h' : c.MayDraw round kind') :
    (kind' = round ↔ kind = round) ↔ kind' = kind := by
  have hfatal : ∀ {k}, round.fatal? = some k → k ≠ round := by
    rintro k hk rfl
    cases k <;> cases hk
  rcases h with rfl | ⟨hk, -⟩
  · simp
  · rcases h' with rfl | ⟨hk', -⟩
    · simp [hfatal hk, Ne.symm (hfatal hk)]
    · obtain rfl := Option.some.inj (hk.symm.trans hk')
      simp

namespace Game

/-- `Drawings src source round aside c pool turns failure? drawings`: with the cards `aside` put
aside and the players of `pool` to place, the events of the round are drawn so from the sources,
which gives the turns and how they end. -/
inductive Drawings (src : Source σ) (source : RoundKind → List Event) (round : RoundKind) :
    List (RoundKind × Nat) → Contest → List Nat → List Turn → Option GameError → List Drawing →
      Prop where
  /-- Everyone is placed or the contest is decided. -/
  | ended {aside : List (RoundKind × Nat)} {c : Contest} {pool : List Nat}
      (hend : pool = [] ∨ c.isOver = true) : Drawings src source round aside c pool [] none []
  | broken {aside : List (RoundKind × Nat)} {c : Contest} {pool : List Nat} {kind : RoundKind}
      {attempts : List Attempt} {e : GameError} (hpool : pool ≠ []) (hopen : c.isOver = false)
      (hkind : c.MayDraw round kind)
      (hsearch : Search src round c pool (cardsLeft source aside kind) attempts (.error e)) :
      Drawings src source round aside c pool [] (some e) [⟨kind, attempts⟩]
  /-- The event that has found players credits one of them with more than the count holds. -/
  | full {aside : List (RoundKind × Nat)} {c : Contest} {pool : List Nat} {kind : RoundKind}
      {attempts : List Attempt} {cast : Cast} (hpool : pool ≠ []) (hopen : c.isOver = false)
      (hkind : c.MayDraw round kind)
      (hsearch : Search src round c pool (cardsLeft source aside kind) attempts (.ok cast))
      (hfits : ¬ Turn.Fits ⟨c, kind, cast.event, cast.ids⟩) :
      Drawings src source round aside c pool [] (some .overflow) [⟨kind, attempts⟩]
  | turn {aside : List (RoundKind × Nat)} {c : Contest} {pool : List Nat} {kind : RoundKind}
      {attempts : List Attempt} {cast : Cast} {turns : List Turn} {failure? : Option GameError}
      {drawings : List Drawing} (hpool : pool ≠ []) (hopen : c.isOver = false)
      (hkind : c.MayDraw round kind)
      (hsearch : Search src round c pool (cardsLeft source aside kind) attempts (.ok cast))
      (hfits : Turn.Fits ⟨c, kind, cast.event, cast.ids⟩)
      (hrest : Drawings src source round (aside ++ Drawing.rejected ⟨kind, attempts⟩)
        (Turn.after ⟨c, kind, cast.event, cast.ids⟩) (unplaced pool cast.ids) turns failure?
        drawings) :
      Drawings src source round aside c pool (⟨c, kind, cast.event, cast.ids⟩ :: turns) failure?
        (⟨kind, attempts⟩ :: drawings)

/-- The deck holds what is left of each source. -/
def Laid (source : RoundKind → List Event) (aside : List (RoundKind × Nat)) (c : Contest)
    (round : RoundKind) (deck : Deck) : Prop :=
  ∀ kind, c.MayDraw round kind → deck.cards round kind = cardsLeft source aside kind

theorem Laid.withCards {source : RoundKind → List Event} {aside : List (RoundKind × Nat)}
    {c : Contest} {round kind : RoundKind} {deck : Deck} {pool : List Nat}
    {attempts : List Attempt} {cast : Cast} (h : Laid source aside c round deck)
    (hkind : c.MayDraw round kind)
    (hsearch : Search src round c pool (cardsLeft source aside kind) attempts (.ok cast)) :
    Laid source (aside ++ Drawing.rejected ⟨kind, attempts⟩) c round
      (deck.withCards round kind cast.cards) := by
  intro other hother
  rw [Deck.cards_withCards, if_congr (hkind.eq_iff hother) rfl rfl]
  split_ifs with hsame
  · subst hsame
    rw [hsearch.cards_eq, Drawing.rejected_eq, cardsLeft_append]
  · rw [h other hother, Drawing.rejected_eq, cardsLeft_append_of_ne _ _ hsame]

theorem exists_search_of_draw {source : RoundKind → List Event} {round kind : RoundKind}
    {deck : Deck} {pool : List Nat} {g g₁ g₂ : Game σ} {aside : List (RoundKind × Nat)}
    {result : Except GameError Cast} (hdeck : Laid source aside g.contest round deck)
    (hkind : g.eventKind src round = (kind, g₁))
    (hdraw : drawEvent src round kind pool (deck.cards round kind) g₁ = (result, g₂)) :
    ∃ attempts,
      Search src round g.contest pool (cardsLeft source aside kind) attempts result ∧
      ∀ record, drawEvent src.recorded round kind pool (deck.cards round kind)
          (g₁.noted (record ++ g.contest.rules.deathRoll round)) =
        (result, g₂.noted (record ++ Drawing.requests g.contest.rules round ⟨kind, attempts⟩)) := by
  have hcards := hdeck kind (mayDraw_of_eventKind hkind)
  obtain ⟨attempts, hsearch, hrecorded⟩ := exists_search src round kind pool
    (deck.cards round kind) g₁ (by rw [hcards]; exact nodup_cardsLeft source aside kind)
  rw [contest_of_eventKind hkind, hdraw, hcards] at hsearch
  refine ⟨attempts, hsearch, ?_⟩
  intro record
  rw [hrecorded, hdraw, List.append_assoc]
  rfl

/-- The events of a round are drawn from what is left of its sources, and that puts on record what
they ask for. -/
theorem Plays.exists_drawings {source : RoundKind → List Event} {round : RoundKind} {deck : Deck}
    {pool : List Nat} {g g' : Game σ} {turns : List Turn} {failure? : Option GameError}
    (h : Plays src round deck pool g turns failure? g') {aside : List (RoundKind × Nat)}
    (hdeck : Laid source aside g.contest round deck) :
    ∃ drawings, Drawings src source round aside g.contest pool turns failure? drawings ∧
      ∀ record, Plays src.recorded round deck pool (g.noted record) turns failure?
        (g'.noted (record ++ drawings.flatMap (Drawing.requests g.contest.rules round))) := by
  induction h generalizing aside with
  | placed deck g =>
      refine ⟨[], .ended (.inl rfl), ?_⟩
      intro record
      rw [List.flatMap_nil, List.append_nil]
      exact .placed deck _
  | decided hpool hover =>
      refine ⟨[], .ended (.inr hover), ?_⟩
      intro record
      rw [List.flatMap_nil, List.append_nil]
      exact .decided hpool hover
  | @stuck deck pool g g₁ g₂ kind e hpool hopen hkind hdraw =>
      obtain ⟨attempts, hsearch, hrecorded⟩ := exists_search_of_draw hdeck hkind hdraw
      refine ⟨[⟨kind, attempts⟩], .broken hpool hopen (mayDraw_of_eventKind hkind) hsearch, ?_⟩
      intro record
      rw [List.flatMap_singleton]
      exact .stuck hpool hopen (recorded_eventKind hkind record) (hrecorded record)
  | @full deck pool g g₁ g₂ kind cast hpool hopen hkind hdraw hfits =>
      obtain ⟨attempts, hsearch, hrecorded⟩ := exists_search_of_draw hdeck hkind hdraw
      refine ⟨[⟨kind, attempts⟩], .full hpool hopen (mayDraw_of_eventKind hkind) hsearch hfits, ?_⟩
      intro record
      rw [List.flatMap_singleton]
      exact .full hpool hopen (recorded_eventKind hkind record) (hrecorded record) hfits
  | @turn deck pool g g₁ g₂ g' kind cast turns failure? hpool hopen hkind hdraw hfits _ ih =>
      have hmay := mayDraw_of_eventKind hkind
      have hkeeps := keeps_of_drawEvent hkind hdraw
      have hafter := playEvent_snd_contest g₂ kind cast.event cast.ids
      rw [contest_of_draw hkind hdraw] at hafter
      obtain ⟨attempts, hsearch, hrecorded⟩ := exists_search_of_draw hdeck hkind hdraw
      obtain ⟨drawings, hdrawings, hrest⟩ :=
        ih fun other hother => hdeck.withCards hmay hsearch other (hkeeps.mayDraw hother)
      rw [hafter] at hdrawings
      refine ⟨⟨kind, attempts⟩ :: drawings, .turn hpool hopen hmay hsearch hfits hdrawings, ?_⟩
      intro record
      have hrest' := hrest (record ++ Drawing.requests g.contest.rules round ⟨kind, attempts⟩)
      rw [hkeeps.rules, List.append_assoc, ← List.flatMap_cons] at hrest'
      exact .turn hpool hopen (recorded_eventKind hkind record) (hrecorded record) hfits hrest'

/-! ## Calls -/

/-- What a call asks for that begins a round of a kind after `n` other rounds. -/
def roundRequests (c : Contest) (n : Nat) (round : RoundKind) (drawings : List Drawing) :
    List Request :=
  (if 2 ≤ n ∧ round ≠ .feast then [.below .narrow c.rules.arenaFrequency] else []) ++
    c.arenaChoice round ++ drawings.flatMap (Drawing.requests c.rules round)

/-- `InOrder src g n turns failure? requests`: a call on `g`, made after `n` rounds, that takes
`turns` and ends in this way may ask for these requests, one after the other. -/
inductive InOrder (src : Source σ) (g : Game σ) (n : Nat) (turns : List Turn)
    (failure? : Option GameError) : List Request → Prop where
  | over (hover : g.contest.isOver = true) : InOrder src g n turns failure? []
  | round {g₁ : Game σ} {round : RoundKind} {source : RoundKind → List Event}
      {drawings : List Drawing} (hopen : g.contest.isOver = false)
      (hnext : g.nextRound src = (.ok round, g₁))
      (hsource : ∀ kind, g.contest.MayDraw round kind →
        (g₁.opening src round).source? kind = some (source kind))
      (hdrawings : Drawings src source round [] g.contest g.contest.aliveIds turns failure?
        drawings) :
      InOrder src g n turns failure? (roundRequests g.contest n round drawings)

/-- The roll for an arena comes from the third round on, unless there is a feast. -/
theorem Follows.arenaRoll_eq {c : Contest} {past : List Beginning} {g g₁ : Game σ}
    {round : RoundKind} (h : Follows src g (.ok round) g₁) (hdated : Dated c past g.standing) :
    g.arenaRoll = if 2 ≤ past.length ∧ round ≠ .feast then
      [.below .narrow g.contest.rules.arenaFrequency] else [] := by
  -- from the third round on only a feast keeps the roll away
  have hroll : ∀ {previous}, g.lastRound = some previous → previous ≠ .bloodbath →
      2 ≤ past.length ∧ g.arenaRoll =
        if g.feastDue then [] else [.below .narrow g.contest.rules.arenaFrequency] := by
    intro previous hlast hprevious
    refine ⟨hdated.two_le_length hlast hprevious, ?_⟩
    unfold arenaRoll
    rw [hlast]
    cases previous with
    | bloodbath => exact absurd rfl hprevious
    | _ => rfl
  cases h with
  | bloodbath hlast =>
      have hnil := hdated.eq_nil hlast
      simp [arenaRoll, hlast, hnil]
  | firstDay hlast =>
      have hone := hdated.length_eq_one hlast
      simp [arenaRoll, hlast, hone]
  | feast hlast hprevious hfeast =>
      simp [(hroll hlast hprevious).2, hfeast]
  | arena hlast hprevious hfeast =>
      obtain ⟨hlength, heq⟩ := hroll hlast hprevious
      simp [heq, hfeast, hlength]
  | night hlast hfeast =>
      obtain ⟨hlength, heq⟩ := hroll hlast (by simp)
      simp [heq, hfeast, hlength]
  | newDay hlast hprevious hfeast =>
      obtain ⟨hlength, heq⟩ := hroll hlast (by rcases hprevious with rfl | rfl | rfl <;> simp)
      simp [heq, hfeast, hlength]

theorem laid_of_deck {g : Game σ} {round : RoundKind} {deck : Deck}
    (h : g.deck round = .ok deck) :
    ∃ source, Laid source [] g.contest round deck ∧
      ∀ kind, g.contest.MayDraw round kind → g.source? kind = some (source kind) := by
  refine ⟨fun kind => (g.source? kind).getD [], ?_, ?_⟩
  · intro kind hkind
    obtain ⟨events, hsource, hcards⟩ := cards_of_deck h hkind
    rw [cardsLeft_nil, hcards, hsource, Option.getD_some]
  · intro kind hkind
    obtain ⟨events, hsource, -⟩ := cards_of_deck h hkind
    simp [hsource]

theorem exists_inOrder {c : Contest} {past : List Beginning} {g : Game σ}
    (hcalendar : Calendar c past g) (hrange : g.ArenaInRange) (hnone : g.arena = none)
    (src : Source σ) :
    ∃ turns result g' requests, Advances src g turns result g' ∧
      (∀ record, Advances src.recorded (g.noted record) turns result
        (g'.noted (record ++ requests))) ∧
      InOrder src g past.length turns (failure? result) requests := by
  cases hover : g.contest.isOver with
  | true =>
      refine ⟨[], .error .over, g, [], .decided hover, ?_, .over hover⟩
      intro record
      rw [List.append_nil]
      exact .decided hover
  | false =>
      obtain ⟨round, g₁, deck, hnext, hdeck⟩ := hcalendar.exists_round src hrange
      have hfollows := follows_of_nextRound hnext
      have hcontest := opening_contest_of_nextRound hnext
      obtain ⟨turns, failure?, -, hplays⟩ :=
        exists_plays src round deck g.contest.aliveIds (g₁.opening src round)
      obtain ⟨source, hlaid, hsource⟩ := laid_of_deck hdeck
      obtain ⟨drawings, hdrawings, hrecorded⟩ := hplays.exists_drawings hlaid
      rw [hcontest] at hsource hdrawings hrecorded
      generalize (playEvents src round deck g.contest.aliveIds (g₁.opening src round)).2 = g₂
        at hplays hrecorded
      -- the same stages with a record, each adding to it what it asks for
      have hnext' : ∀ record, (g.noted record).nextRound src.recorded =
          (.ok round, g₁.noted (record ++ g.arenaRoll)) := by
        intro record
        rw [recorded_nextRound, hnext]
      have hopening : ∀ record, (g₁.noted record).opening src.recorded round =
          (g₁.opening src round).noted (record ++ g.contest.arenaChoice round) := by
        intro record
        rw [recorded_opening src (hfollows.arena_eq.trans hnone), hfollows.contest_eq]
        rintro rfl
        exact hfollows.arenas_pos
      have hdeck' : ∀ record,
          ((g₁.noted record).opening src.recorded round).deck round = .ok deck := by
        intro record
        rw [hopening]
        exact hdeck
      have hplays' : ∀ record, Plays src.recorded round deck g.contest.aliveIds
          ((g₁.noted (record ++ g.arenaRoll)).opening src.recorded round) turns failure?
          (g₂.noted (record ++ roundRequests g.contest past.length round drawings)) := by
        intro record
        rw [hopening, roundRequests, ← hfollows.arenaRoll_eq hcalendar.dated, ← List.append_assoc,
          ← List.append_assoc]
        exact hrecorded _
      have horder := InOrder.round (n := past.length) hover hnext hsource hdrawings
      cases failure? with
      | some e =>
          exact ⟨turns, .error e, g₂, _, .broken hover hnext hdeck hplays,
            fun record => .broken hover (hnext' record) (hdeck' _) (hplays' record), horder⟩
      | none =>
          refine ⟨turns, _, _, _, .finished hover hnext hdeck hplays, ?_, horder⟩
          intro record
          have hfinished := Advances.finished (g := g.noted record) hover (hnext' record)
            (hdeck' _) (hplays' record)
          rw [hopening, noted_closing] at hfinished
          exact hfinished

/-! ## Any number of calls -/

theorem length_begun {g : Game σ} {n : Nat}
    (h : ∀ k < n, ∃ report, ((g.later src k).advance src).1 = .ok report) :
    (g.begun src n).length = n := by
  induction n with
  | zero => rfl
  | succ n ih =>
      obtain ⟨report, hreport⟩ := h n n.lt_succ_self
      have hadvance : (g.later src n).advance src = (.ok report, ((g.later src n).advance src).2) := by
        rw [← hreport]
      rw [begun_succ, beginning?_of_advance hadvance, List.length_append,
        ih fun k hk => h k (Nat.lt_succ_of_lt hk)]
      rfl

theorem arena_eq_none_of_reports {g : Game σ} {n : Nat} (hnone : g.arena = none)
    (h : ∀ k < n, ∃ report, ((g.later src k).advance src).1 = .ok report) :
    (g.later src n).arena = none := by
  rw [← Option.not_isSome_iff_eq_none, isSome_arena_later_iff src hnone n]
  rintro ⟨k, hk, ⟨-, e, he⟩, -⟩
  obtain ⟨report, hreport⟩ := h k hk
  rw [hreport] at he
  cases he

/-- What the call after `n` calls asks of chance, all of which have returned reports: with a source
that keeps a record it does the same, and adds to the record requests in the order that the rules of
drawing give. -/
theorem requests_of_advance (c : Contest) (src : Source σ) (seed : String) (dice : σ) (n : Nat)
    (hreports : ∀ k < n, ∃ report,
      (((start c seed dice).later src k).advance src).1 = .ok report) :
    ∃ turns result requests,
      Advances src ((start c seed dice).later src n) turns result
        ((start c seed dice).later src (n + 1)) ∧
      (∀ record, (((start c seed dice).later src n).noted record).advance src.recorded =
        (result, ((start c seed dice).later src (n + 1)).noted (record ++ requests))) ∧
      InOrder src ((start c seed dice).later src n) n turns (failure? result) requests := by
  obtain ⟨turns, result, g', requests, hadvances, hrecorded, horder⟩ :=
    exists_inOrder (calendar_later c src seed dice n) (arenaInRange_later_start c src seed dice n)
      (arena_eq_none_of_reports rfl hreports) src
  have hlater : (start c seed dice).later src (n + 1) = g' := by
    rw [later_succ, hadvances.advance_eq]
  rw [length_begun hreports] at horder
  rw [hlater]
  exact ⟨turns, result, requests, hadvances, fun record => (hrecorded record).advance_eq, horder⟩

/-- A spec whose third round, where the first choice is always taken, is an arena round in which the
first event finds nobody and the second takes two teams. -/
def regattaSpec : String :=
  "[players]\n\"Ann\"\ngender:F, height:1m, team:A\n\"Bo\"\ngender:M, height:1m, team:B\n" ++
  "[bloodbath]\n\"%1% waits.\"\ntributes:1\n[day]\n\"%1% naps.\"\ntributes:1\n" ++
  "[arena]\nLake \"The water is deep.\"\n\"%1>9m% dives.\"\ntributes:1, rarity:2\n" ++
  "\"%1:A% swims past %2:B%.\"\ntributes:2\n"

/-- The third round of the regatta asks for an arena roll and an arena; for an event, a shuffle of
two players; and for the other event, a shuffle and two teams. -/
theorem requests_of_regatta :
    ∃ reading, Spec.parse regattaSpec = .ok reading ∧ ∃ turns result,
      InOrder .first ((start reading.contest "" ()).later .first 2) 2 turns (failure? result)
        [.below .narrow 10, .below .wide 1, .weighted [2.0, 1.0], .below .narrow 2,
          .weighted [1.0], .below .narrow 2, .below .wide 2, .below .wide 1] := by
  obtain ⟨reading, hparse, hreading⟩ :=
    Spec.exists_of_parse regattaSpec
      (P := fun reading =>
        (∀ k ∈ List.range 2,
          (((start reading.contest "" ()).later .first k).advance .first).1.toOption.isSome) ∧
          ((((start reading.contest "" ()).later .first 2).noted []).advance
            Source.first.recorded).2.dice.2 =
              [.below .narrow 10, .below .wide 1, .weighted [2.0, 1.0], .below .narrow 2,
                .weighted [1.0], .below .narrow 2, .below .wide 2, .below .wide 1])
      (by decide +kernel)
  obtain ⟨hreports, hrecord⟩ := of_decide_eq_true hreading
  obtain ⟨turns, result, requests, -, hrecorded, horder⟩ :=
    requests_of_advance reading.contest .first "" () 2 (by
      intro k hk
      have hsome := hreports k (List.mem_range.mpr hk)
      cases hresult : (((start reading.contest "" ()).later .first k).advance .first).1 with
      | error e => simp [hresult, Except.toOption] at hsome
      | ok report => exact ⟨report, rfl⟩)
  rw [hrecorded] at hrecord
  obtain rfl : requests = _ := hrecord
  exact ⟨reading, hparse, turns, result, horder⟩

end Game
end Tournament
