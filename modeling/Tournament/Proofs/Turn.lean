import Mathlib.Data.List.Perm.Subperm
import Tournament.Game.Round
import Tournament.Proofs.Roster

/-!
# A round as a sequence of turns

A turn is an event played with the players it has found.  `Plays` relates the state in which the
events of a round begin to the turns that follow and to the state they leave behind, also where the
round breaks off; `playEvents` is such a play and reports its turns (`exists_plays`).  What a round
preserves is proved by rule induction on `Plays`.
-/

namespace Tournament

open Draw (Source)

variable {σ : Type}

/-! ## Finding the players -/

theorem Contest.subperm_of_fill {c : Contest} {bound : List (Char × Char)}
    {slots : List Requirement} {candidates ids : List Nat}
    (h : c.fill bound slots candidates = some ids) : ids.Subperm candidates := by
  induction slots generalizing candidates ids with
  | nil =>
      obtain rfl : [] = ids := Option.some.inj h
      exact List.nil_subperm
  | cons r rest ih =>
      rw [fill] at h
      cases hfind : candidates.find? (c.fits bound r) with
      | none => simp [hfind] at h
      | some id =>
          rw [hfind] at h
          obtain ⟨more, hmore, rfl⟩ := Option.map_eq_some_iff.mp h
          have hid := List.perm_cons_erase (List.mem_of_find?_eq_some hfind)
          exact ((List.subperm_cons id).mpr (ih hmore)).trans hid.symm.subperm

theorem Contest.nodup_of_fill {c : Contest} {bound : List (Char × Char)} {slots : List Requirement}
    {candidates ids : List Nat} (h : c.fill bound slots candidates = some ids)
    (hnodup : candidates.Nodup) : ids.Nodup := by
  obtain ⟨found, hperm, hsub⟩ := subperm_of_fill h
  exact hperm.nodup_iff.mp (hnodup.sublist hsub)

theorem Contest.nodup_of_cast {c : Contest} {src : Source σ} {event : Event} {pool ids : List Nat}
    {s s' : σ} (h : c.cast src event pool s = (.cast ids, s')) (hpool : pool.Nodup) :
    ids.Nodup := by
  obtain ⟨bound, -, hfill⟩ := Contest.fill_of_cast h
  exact Contest.nodup_of_fill hfill ((src.shuffle_perm pool s).nodup_iff.mpr hpool)

namespace Game

/-- What no event changes: the calendar, the arena in use and the number of entrants. -/
structure Standing where
  day : UInt32
  lastRound : Option RoundKind
  arena : Option Nat
  feastUsed : Bool
  entrants : Nat

def standing (g : Game σ) : Standing where
  day := g.day
  lastRound := g.lastRound
  arena := g.arena
  feastUsed := g.feastUsed
  entrants := g.entrants

theorem exists_tellFailure_eq (g : Game σ) (kind : RoundKind) (number : Nat) (failure : Casting) :
    ∃ chronicle, g.tellFailure kind number failure = { g with chronicle } := by
  cases failure <;> exact ⟨_, rfl⟩

theorem tellFailure_contest (g : Game σ) (kind : RoundKind) (number : Nat) (failure : Casting) :
    (g.tellFailure kind number failure).contest = g.contest := by
  obtain ⟨chronicle, htold⟩ := exists_tellFailure_eq g kind number failure
  rw [htold]

theorem eventKind_contest (src : Source σ) (round : RoundKind) (g : Game σ) :
    (g.eventKind src round).2.contest = g.contest := by
  cases round <;> rfl

theorem contest_of_eventKind {src : Source σ} {round kind : RoundKind} {g g₁ : Game σ}
    (h : g.eventKind src round = (kind, g₁)) : g₁.contest = g.contest := by
  rw [← eventKind_contest src round g, h]

theorem eventKind_standing (src : Source σ) (round : RoundKind) (g : Game σ) :
    (g.eventKind src round).2.standing = g.standing := by
  cases round <;> rfl

/-- Drawing an event changes the state of the source and adds to the chronicle, and that is all. -/
theorem exists_drawEvent_eq (src : Source σ) (round kind : RoundKind) (pool : List Nat)
    (cards : List Card) (g : Game σ) :
    ∃ dice chronicle, (drawEvent src round kind pool cards g).2 = { g with dice, chronicle } := by
  fun_induction drawEvent src round kind pool cards g with
  | case1 => exact ⟨_, _, rfl⟩
  | case2 => exact ⟨_, _, rfl⟩
  | case3 cards g i dice hchoose hi card failure dice' hfailure hcast ih =>
      obtain ⟨chronicle, htold⟩ :=
        exists_tellFailure_eq { g with dice := dice' } kind card.number failure
      obtain ⟨dice'', chronicle', heq⟩ := ih
      exact ⟨dice'', chronicle', by rw [heq, htold]⟩

/-- An event that is drawn is on one of the cards and has been cast from the pool. -/
theorem cast_of_drawEvent {src : Source σ} {round kind : RoundKind} {pool : List Nat}
    {cards : List Card} {g g' : Game σ} {cast : Cast}
    (h : drawEvent src round kind pool cards g = (.ok cast, g')) :
    ∃ card ∈ cards, card.event = cast.event ∧ ∃ dice,
      g.contest.cast src cast.event pool dice = (.cast cast.ids, g'.dice) := by
  fun_induction drawEvent src round kind pool cards g with
  | case1 => simp at h
  | case2 cards g i dice hchoose hi card ids dice' hcast =>
      simp only [Prod.mk.injEq, Except.ok.injEq] at h
      obtain ⟨rfl, rfl⟩ := h
      exact ⟨card, List.getElem_mem hi, rfl, dice, hcast⟩
  | case3 cards g i dice hchoose hi card failure dice' hfailure hcast ih =>
      obtain ⟨other, hother, hevent, dice₁, hcast'⟩ := ih h
      rw [tellFailure_contest] at hcast'
      exact ⟨other, List.mem_of_mem_eraseIdx hother, hevent, dice₁, hcast'⟩

/-- Where no event can be drawn, this is not for want of room in a count. -/
theorem ne_overflow_of_drawEvent {src : Source σ} {round kind : RoundKind} {pool : List Nat}
    {cards : List Card} {g g' : Game σ} {e : GameError}
    (h : drawEvent src round kind pool cards g = (.error e, g')) : e ≠ .overflow := by
  fun_induction drawEvent src round kind pool cards g with
  | case1 cards g w dice hchoose =>
      cases h
      cases w <;> exact GameError.noConfusion
  | case2 => simp at h
  | case3 cards g i dice hchoose hi card failure dice' hfailure hcast ih => exact ih h

theorem mem_pool_of_drawEvent {src : Source σ} {round kind : RoundKind} {pool : List Nat}
    {cards : List Card} {g g' : Game σ} {cast : Cast}
    (h : drawEvent src round kind pool cards g = (.ok cast, g')) : ∀ id ∈ cast.ids, id ∈ pool := by
  obtain ⟨_, _, _, _, hcast⟩ := cast_of_drawEvent h
  exact Contest.mem_pool_of_cast hcast

theorem nodup_of_drawEvent {src : Source σ} {round kind : RoundKind} {pool : List Nat}
    {cards : List Card} {g g' : Game σ} {cast : Cast}
    (h : drawEvent src round kind pool cards g = (.ok cast, g')) (hpool : pool.Nodup) :
    cast.ids.Nodup := by
  obtain ⟨_, _, _, _, hcast⟩ := cast_of_drawEvent h
  exact Contest.nodup_of_cast hcast hpool

end Game

/-! ## Turns -/

/-- An event as it is played: the contest before it, and the players it has found. -/
structure Turn where
  before : Contest
  kind : RoundKind
  event : Event
  ids : List Nat

def Turn.after (t : Turn) : Contest :=
  t.before.applyEffects t.event t.ids

/-- The counts of the players hold what a turn credits them with. -/
def Turn.Fits (t : Turn) : Prop :=
  t.before.holdsEffects t.event t.ids = true

instance (t : Turn) : Decidable t.Fits :=
  inferInstanceAs (Decidable (_ = true))

/-- The places of those who take part in a turn and are out after it. -/
def Turn.out (t : Turn) : List Nat :=
  t.ids.filter fun id => !t.after.isAliveAt id

def Turn.report (t : Turn) : EventReport where
  kind := t.kind
  text := t.event.render (t.ids.filterMap (t.before.roster[·]?))
  players := t.before.namesAt t.ids
  eliminated := t.after.namesAt t.out

theorem Turn.actsOn (t : Turn) : Contest.ActsOn t.ids t.before t.after :=
  Contest.actsOn_applyEffects t.before t.event t.ids

namespace Game

theorem playEvent_fst (g : Game σ) (kind : RoundKind) (event : Event) (ids : List Nat) :
    (g.playEvent kind event ids).1 = Turn.report ⟨g.contest, kind, event, ids⟩ := by
  unfold playEvent Turn.report Turn.out Turn.after
  simp only [Contest.map_name_filterMap, Contest.map_name_filter_out]

theorem playEvent_snd_contest (g : Game σ) (kind : RoundKind) (event : Event) (ids : List Nat) :
    (g.playEvent kind event ids).2.contest = Turn.after ⟨g.contest, kind, event, ids⟩ := rfl

theorem playEvent_snd_standing (g : Game σ) (kind : RoundKind) (event : Event) (ids : List Nat) :
    (g.playEvent kind event ids).2.standing = g.standing := rfl

/-! ## The turns of a round -/

/-- `Plays src round deck pool g turns failure? g'`: with `deck` to draw from and the players of
`pool` to place, the round that stands at `g` takes `turns` and ends at `g'`, broken off by a
failure or in good order. -/
inductive Plays (src : Source σ) (round : RoundKind) :
    Deck → List Nat → Game σ → List Turn → Option GameError → Game σ → Prop where
  | placed (deck : Deck) (g : Game σ) : Plays src round deck [] g [] none g
  /-- The contest is decided before everyone is placed. -/
  | decided {deck : Deck} {pool : List Nat} {g : Game σ} (hpool : pool ≠ [])
      (hover : g.contest.isOver = true) :
      Plays src round deck pool g [] none
        (g.tell .debug s!"game over with {pool.length} player(s) unplaced")
  | stuck {deck : Deck} {pool : List Nat} {g g₁ g₂ : Game σ} {kind : RoundKind} {e : GameError}
      (hpool : pool ≠ []) (hopen : g.contest.isOver = false)
      (hkind : g.eventKind src round = (kind, g₁))
      (hdraw : drawEvent src round kind pool (deck.cards round kind) g₁ = (.error e, g₂)) :
      Plays src round deck pool g [] (some e) g₂
  /-- The event that has found players credits one of them with more than the count holds. -/
  | full {deck : Deck} {pool : List Nat} {g g₁ g₂ : Game σ} {kind : RoundKind} {cast : Cast}
      (hpool : pool ≠ []) (hopen : g.contest.isOver = false)
      (hkind : g.eventKind src round = (kind, g₁))
      (hdraw : drawEvent src round kind pool (deck.cards round kind) g₁ = (.ok cast, g₂))
      (hfits : ¬ Turn.Fits ⟨g.contest, kind, cast.event, cast.ids⟩) :
      Plays src round deck pool g [] (some .overflow) g₂
  /-- An event is played, and the round goes on with the players left. -/
  | turn {deck : Deck} {pool : List Nat} {g g₁ g₂ g' : Game σ} {kind : RoundKind} {cast : Cast}
      {turns : List Turn} {failure? : Option GameError}
      (hpool : pool ≠ []) (hopen : g.contest.isOver = false)
      (hkind : g.eventKind src round = (kind, g₁))
      (hdraw : drawEvent src round kind pool (deck.cards round kind) g₁ = (.ok cast, g₂))
      (hfits : Turn.Fits ⟨g.contest, kind, cast.event, cast.ids⟩)
      (hrest : Plays src round (deck.withCards round kind cast.cards) (unplaced pool cast.ids)
        (g₂.playEvent kind cast.event cast.ids).2 turns failure? g') :
      Plays src round deck pool g (⟨g.contest, kind, cast.event, cast.ids⟩ :: turns) failure? g'

/-- What playing events gives, by the turns taken and how they ended. -/
def outcome (turns : List Turn) : Option GameError → Except GameError (List EventReport)
  | none => .ok (turns.map Turn.report)
  | some e => .error e

theorem contest_of_draw {src : Source σ} {round kind : RoundKind} {pool : List Nat}
    {cards : List Card} {g g₁ g₂ : Game σ} {r : Except GameError Cast}
    (hkind : g.eventKind src round = (kind, g₁))
    (hdraw : drawEvent src round kind pool cards g₁ = (r, g₂)) : g₂.contest = g.contest := by
  obtain ⟨dice, chronicle, heq⟩ := exists_drawEvent_eq src round kind pool cards g₁
  rw [hdraw] at heq
  have hsame : g₂.contest = g₁.contest := by rw [show g₂ = _ from heq]
  exact hsame.trans (contest_of_eventKind hkind)

theorem standing_of_draw {src : Source σ} {round kind : RoundKind} {pool : List Nat}
    {cards : List Card} {g g₁ g₂ : Game σ} {r : Except GameError Cast}
    (hkind : g.eventKind src round = (kind, g₁))
    (hdraw : drawEvent src round kind pool cards g₁ = (r, g₂)) : g₂.standing = g.standing := by
  obtain ⟨dice, chronicle, heq⟩ := exists_drawEvent_eq src round kind pool cards g₁
  rw [hdraw] at heq
  have hsame : g₂.standing = g₁.standing := by rw [show g₂ = _ from heq]; rfl
  rw [hsame, ← eventKind_standing src round g, hkind]

theorem Plays.standing_eq {src : Source σ} {round : RoundKind} {deck : Deck} {pool : List Nat}
    {g g' : Game σ} {turns : List Turn} {failure? : Option GameError}
    (h : Plays src round deck pool g turns failure? g') : g'.standing = g.standing := by
  induction h with
  | placed => rfl
  | decided => rfl
  | stuck _ _ hkind hdraw | full _ _ hkind hdraw => exact standing_of_draw hkind hdraw
  | turn hpool hopen hkind hdraw hfits hrest ih =>
      rw [ih, playEvent_snd_standing, standing_of_draw hkind hdraw]

theorem Plays.fits {src : Source σ} {round : RoundKind} {deck : Deck} {pool : List Nat}
    {g g' : Game σ} {turns : List Turn} {failure? : Option GameError}
    (h : Plays src round deck pool g turns failure? g') : ∀ t ∈ turns, t.Fits := by
  induction h with
  | placed | decided | stuck | full => simp
  | turn _ _ _ _ hfits _ ih => exact List.forall_mem_cons.mpr ⟨hfits, ih⟩

theorem exists_plays (src : Source σ) (round : RoundKind) (deck : Deck) (pool : List Nat)
    (g : Game σ) :
    ∃ turns failure?, (playEvents src round deck pool g).1 = outcome turns failure? ∧
      Plays src round deck pool g turns failure? (playEvents src round deck pool g).2 := by
  fun_induction playEvents src round deck pool g with
  | case1 deck g =>
      exact ⟨[], none, rfl, .placed deck g⟩
  | case2 deck pool g hpool hover =>
      exact ⟨[], none, rfl, .decided hpool hover⟩
  | case3 deck pool g hpool hopen kind g₁ hkind e g₂ hdraw =>
      exact ⟨[], some e, rfl, .stuck hpool (by simpa using hopen) hkind hdraw⟩
  -- an event is played; the rest of the round, which fails or not, is the induction hypothesis
  | case4 deck pool g hpool hopen kind g₁ hkind cast g₂ hdraw hholds report g₃ hevent rest e g' hrest
      ih =>
      obtain ⟨turns, failure?, hout, hplays⟩ := ih
      have hg₃ : (g₂.playEvent kind cast.event cast.ids).2 = g₃ := by rw [hevent]
      rw [contest_of_draw hkind hdraw] at hholds
      change rest.1 = _ at hout
      change Plays src round _ _ _ _ _ rest.2 at hplays
      rw [hrest] at hout hplays
      rw [← hg₃] at hplays
      refine ⟨_, failure?, ?_, .turn hpool (by simpa using hopen) hkind hdraw hholds hplays⟩
      cases failure? with
      | none => cases hout
      | some e => simpa [outcome] using hout
  | case5 deck pool g hpool hopen kind g₁ hkind cast g₂ hdraw hholds report g₃ hevent rest reports g'
      hrest ih =>
      obtain ⟨turns, failure?, hout, hplays⟩ := ih
      have hg₃ : (g₂.playEvent kind cast.event cast.ids).2 = g₃ := by rw [hevent]
      have hreport : report = Turn.report ⟨g.contest, kind, cast.event, cast.ids⟩ := by
        rw [← contest_of_draw hkind hdraw, ← playEvent_fst, hevent]
      rw [contest_of_draw hkind hdraw] at hholds
      change rest.1 = _ at hout
      change Plays src round _ _ _ _ _ rest.2 at hplays
      rw [hrest] at hout hplays
      rw [← hg₃] at hplays
      refine ⟨_, failure?, ?_, .turn hpool (by simpa using hopen) hkind hdraw hholds hplays⟩
      cases failure? with
      | none =>
          simp only [outcome, Except.ok.injEq] at hout ⊢
          rw [hreport, hout, List.map_cons]
      | some e => cases hout
  | case6 deck pool g hpool hopen kind g₁ hkind cast g₂ hdraw hholds =>
      rw [contest_of_draw hkind hdraw] at hholds
      exact ⟨[], some .overflow, rfl, .full hpool (by simpa using hopen) hkind hdraw hholds⟩

end Game
end Tournament
