import Tournament.Proofs.Aftermath
import Tournament.Proofs.Excess

/-!
# Counting eliminations

No addition of a turn that is played wraps around (`Turn.credits`); a turn for which there is no
room ends the game (`Game.Advances.exists_full`).  In a turn that eliminates anyone a living player
is put out for good, so that what a player has been credited with by a number of turns is at most
that number times the greatest credit of a single event; over a whole game this is bounded by the
number of players (`Placing.tallied`), and where there is room for so much no call ends this way.
-/

namespace Tournament

open Draw (Source)

variable {σ : Type}

/-! ## The additions of a turn -/

/-- No addition to the count of a player who undergoes these changes wraps around. -/
def Player.Counts : Player → List Change → Prop
  | _, [] => True
  | p, x :: changes => p.eliminations.toNat + x.credits < UInt32.size ∧ (x.act p).Counts changes

theorem Player.toNat_eliminations_act {p : Player} {x : Change}
    (h : p.eliminations.toNat + x.credits < UInt32.size) :
    (x.act p).eliminations.toNat = p.eliminations.toNat + x.credits := by
  rw [x.eliminations_act, toNat_add_ofNat]
  exact Nat.mod_eq_of_lt h

theorem Player.counts_iff {p : Player} {changes : List Change} :
    p.Counts changes ↔ p.eliminations.toNat + (changes.map Change.credits).sum < UInt32.size := by
  induction changes generalizing p with
  | nil => simpa [Counts] using p.eliminations.toNat_lt
  | cons x changes ih =>
      rw [Counts, ih, List.map_cons, List.sum_cons]
      constructor
      · rintro ⟨hx, hchanges⟩
        rw [p.toNat_eliminations_act hx] at hchanges
        omega
      · intro h
        have hx : p.eliminations.toNat + x.credits < UInt32.size := by omega
        refine ⟨hx, ?_⟩
        rw [p.toNat_eliminations_act hx]
        omega

/-- A turn counts right: the number of its eliminations is not cut off, and no addition to the count
of one of its players wraps around. -/
structure Turn.Counts (t : Turn) : Prop where
  length : (UInt32.ofNat t.event.eliminated.length).toNat = t.event.eliminated.length
  additions : ∀ k i (p : Player), t.ids[k]? = some i → t.before.roster[i]? = some p →
    p.Counts (changesOf (k + 1) t.event.changes)

/-- An addition to the count of one of the players wraps around. -/
def Turn.Overflows (t : Turn) : Prop :=
  ∃ (k i : Nat) (p : Player), t.ids[k]? = some i ∧ t.before.roster[i]? = some p ∧
    ¬ p.Counts (changesOf (k + 1) t.event.changes)

theorem Turn.fits_iff {t : Turn} (hids : t.ids.Nodup) :
    t.Fits ↔ ∀ k i (p : Player), t.ids[k]? = some i → t.before.roster[i]? = some p →
      p.Counts (changesOf (k + 1) t.event.changes) := by
  unfold Fits
  simp only [Contest.holdsEffects_iff hids, Player.counts_iff, sum_credits]

theorem Turn.overflows_of_not_fits {t : Turn} (hids : t.ids.Nodup) (h : ¬ t.Fits) :
    t.Overflows := by
  rw [Turn.fits_iff hids] at h
  push Not at h
  exact h

theorem Turn.Overflows.not_counts {t : Turn} (h : t.Overflows) : ¬ t.Counts := by
  obtain ⟨k, i, p, hk, hp, hwraps⟩ := h
  exact fun hcounts => hwraps (hcounts.additions k i p hk hp)

def Event.creditOf (e : Event) (slot : Nat) : Nat :=
  e.credited.count slot * e.eliminated.length

theorem Event.creditOf_le (e : Event) (slot : Nat) :
    e.creditOf slot ≤ e.credited.length * e.eliminated.length :=
  Nat.mul_le_mul_right _ List.count_le_length

theorem toNat_ofNat_eq_iff {n : Nat} : (UInt32.ofNat n).toNat = n ↔ n < UInt32.size := by
  rw [UInt32.toNat_ofNat']
  exact Nat.mod_eq_iff_lt (by decide)

theorem Turn.counts_iff {t : Turn} :
    t.Counts ↔ t.event.eliminated.length < UInt32.size ∧
      ∀ k i p, t.ids[k]? = some i → t.before.roster[i]? = some p →
        p.eliminations.toNat + t.event.creditOf (k + 1) < UInt32.size := by
  have hsum (hlength : t.event.eliminated.length < UInt32.size) (slot : Nat) :
      ((changesOf slot t.event.changes).map Change.credits).sum = t.event.creditOf slot := by
    rw [sum_credits, toNat_ofNat_eq_iff.mpr hlength]
    rfl
  constructor
  · rintro ⟨hlength, hadditions⟩
    rw [toNat_ofNat_eq_iff] at hlength
    refine ⟨hlength, ?_⟩
    intro k i p hk hp
    rw [← hsum hlength]
    exact Player.counts_iff.mp (hadditions k i p hk hp)
  · rintro ⟨hlength, hroom⟩
    refine ⟨toNat_ofNat_eq_iff.mpr hlength, ?_⟩
    intro k i p hk hp
    rw [Player.counts_iff, hsum hlength]
    exact hroom k i p hk hp

theorem Turn.counts_iff_fits {t : Turn} (hids : t.ids.Nodup) :
    t.Counts ↔ t.event.eliminated.length < UInt32.size ∧ t.Fits := by
  rw [Turn.fits_iff hids, ← toNat_ofNat_eq_iff]
  exact ⟨fun h => ⟨h.length, h.additions⟩, fun h => ⟨h.1, h.2⟩⟩

theorem Turn.Fits.exists_credited {t : Turn} (h : t.Fits) (hids : t.ids.Nodup) {k i : Nat}
    {p : Player} (hk : t.ids[k]? = some i) (hp : t.before.roster[i]? = some p) :
    ∃ p', t.after.roster[i]? = some p' ∧ p'.eliminations.toNat = p.eliminations.toNat +
      t.event.credited.count (k + 1) * (UInt32.ofNat t.event.eliminated.length).toNat := by
  have hroom := (Contest.holdsEffects_iff hids).mp h k i p hk hp
  refine ⟨p.undergo (changesOf (k + 1) t.event.changes), ?_, ?_⟩
  · rw [Turn.after, Contest.getElem?_applyEffects hids hk, hp]
    rfl
  · rw [p.eliminations_undergo, sum_credits, toNat_add_ofNat]
    exact Nat.mod_eq_of_lt hroom

theorem Turn.Fits.le {t : Turn} (h : t.Fits) (hids : t.ids.Nodup) {i : Nat} {p p' : Player}
    (hp : t.before.roster[i]? = some p) (hp' : t.after.roster[i]? = some p') :
    p.eliminations ≤ p'.eliminations := by
  by_cases hi : i ∈ t.ids
  · obtain ⟨k, hk⟩ := List.mem_iff_getElem?.mp hi
    obtain ⟨q, hq, hcount⟩ := h.exists_credited hids hk hp
    obtain rfl := Option.some.inj (hq.symm.trans hp')
    rw [UInt32.le_iff_toNat_le, hcount]
    exact Nat.le_add_right _ _
  · rw [t.actsOn.untouched i hi, hp] at hp'
    rw [Option.some.inj hp']
    exact UInt32.le_refl _

/-- What a turn that is played does to the counts of its players. -/
structure Turn.Credits (t : Turn) : Prop where
  additions : ∀ k i (p : Player), t.ids[k]? = some i → t.before.roster[i]? = some p →
    p.Counts (changesOf (k + 1) t.event.changes)
  /-- Each is credited with the number of eliminations, of which 32 bits are kept, once for every
  entry of the slot. -/
  credit : ∀ k i p, t.ids[k]? = some i → t.before.roster[i]? = some p →
    ∃ p', t.after.roster[i]? = some p' ∧ p'.eliminations.toNat = p.eliminations.toNat +
      t.event.credited.count (k + 1) * (UInt32.ofNat t.event.eliminated.length).toNat
  counts_iff : t.Counts ↔ t.event.eliminated.length < UInt32.size

theorem Turn.credits {t : Turn} (h : t.Fits) (hids : t.ids.Nodup) : t.Credits := by
  refine ⟨(Turn.fits_iff hids).mp h, fun k i p => h.exists_credited hids, ?_⟩
  rw [Turn.counts_iff_fits hids]
  exact and_iff_left h

/-! ## Lethal turns -/

namespace Turn

variable {t : Turn}

theorem aliveIds_sublist (halive : ∀ i ∈ t.ids, t.before.isAliveAt i = true) :
    t.after.aliveIds.Sublist t.before.aliveIds := by
  unfold Contest.aliveIds
  rw [t.actsOn.toKeeps.length_roster]
  refine List.monotone_filter_right _ ?_
  intro i hi
  by_cases hmem : i ∈ t.ids
  · exact halive i hmem
  · rwa [t.actsOn.isAliveAt_eq hmem] at hi

theorem length_aliveIds_lt (halive : ∀ i ∈ t.ids, t.before.isAliveAt i = true)
    (hids : t.ids.Nodup) {k i : Nat} (hk : t.ids[k]? = some i)
    (hslot : k + 1 ∈ t.event.eliminated) :
    t.after.aliveIds.length < t.before.aliveIds.length := by
  have hsub := t.aliveIds_sublist halive
  refine Nat.lt_of_le_of_ne hsub.length_le ?_
  intro hsame
  have hbefore : i ∈ t.before.aliveIds :=
    Contest.mem_aliveIds.mpr (halive i (List.mem_of_getElem? hk))
  rw [← hsub.eq_of_length hsame, Contest.mem_aliveIds, Contest.isAliveAt, Turn.after,
    Contest.getElem?_applyEffects hids hk] at hbefore
  cases hp : t.before.roster[i]? with
  | none => simp [hp] at hbefore
  | some p => simp [hp, p.undergo_changesOf, Contest.isAlive, hslot] at hbefore

end Turn

/-! ## What is credited over a game -/

structure Event.CreditsAtMost (M : Nat) (e : Event) : Prop where
  length : e.eliminated.length < UInt32.size
  credit : ∀ slot, e.creditOf slot ≤ M

theorem Event.creditsAtMost_of_le {M : Nat} {e : Event}
    (h : e.credited.length * e.eliminated.length ≤ M ∧ e.eliminated.length < UInt32.size) :
    e.CreditsAtMost M :=
  ⟨h.2, fun slot => (e.creditOf_le slot).trans h.1⟩

theorem Contest.everyEvent_creditsAtMost {M : Nat} {c : Contest}
    (hpools : ∀ kind ∈ RoundKind.pooled, ∀ e ∈ c.pools.of kind,
      e.credited.length * e.eliminated.length ≤ M ∧ e.eliminated.length < UInt32.size)
    (harenas : ∀ a ∈ c.arenas, ∀ e ∈ a.events,
      e.credited.length * e.eliminated.length ≤ M ∧ e.eliminated.length < UInt32.size) :
    c.EveryEvent (Event.CreditsAtMost M) := by
  refine ⟨?_, fun a ha e he => Event.creditsAtMost_of_le (harenas a ha e he)⟩
  intro kind e he
  have hkind : kind ∈ RoundKind.pooled := by
    cases kind with
    | arena => cases he
    | _ => decide
  exact Event.creditsAtMost_of_le (hpools kind hkind e he)

/-- Every player's count is at most `M` for each of those who are out. -/
def Contest.Tallied (M : Nat) (c : Contest) : Prop :=
  ∀ p ∈ c.roster, p.eliminations.toNat + M * c.aliveIds.length ≤ M * c.roster.length

theorem Contest.length_aliveIds_le (c : Contest) : c.aliveIds.length ≤ c.roster.length := by
  simpa [aliveIds] using List.length_filter_le c.isAliveAt (List.range c.roster.length)

theorem Contest.tallied_of_fresh {c : Contest} (h : ∀ p ∈ c.roster, p.eliminations = 0) (M : Nat) :
    c.Tallied M := by
  intro p hp
  rw [h p hp]
  simpa using Nat.mul_le_mul_left M c.length_aliveIds_le

/-- What a turn of a game meets: its players are alive and as many as its event takes, and the event
names no other slots. -/
structure Turn.Regular (t : Turn) : Prop where
  alive : ∀ i ∈ t.ids, t.before.isAliveAt i = true
  nodup : t.ids.Nodup
  filled : ∀ slot ∈ t.event.eliminated, ∃ k i, slot = k + 1 ∧ t.ids[k]? = some i

namespace Turn

variable {t : Turn} {M : Nat}

/-- There is room for what a turn credits as long as there is for all who are still alive. -/
theorem Regular.counts (h : t.Regular) (hbefore : t.before.Tallied M)
    (hM : t.event.CreditsAtMost M) (hsize : M * t.before.roster.length < UInt32.size) :
    t.Counts := by
  refine counts_iff.mpr ⟨hM.length, ?_⟩
  intro k i p hk hp
  have hmem : i ∈ t.before.aliveIds :=
    Contest.mem_aliveIds.mpr (h.alive i (List.mem_of_getElem? hk))
  have halive : M * 1 ≤ M * t.before.aliveIds.length :=
    Nat.mul_le_mul_left M (List.length_pos_of_mem hmem)
  have hcredit := hM.credit (k + 1)
  have htally := hbefore p (List.mem_of_getElem? hp)
  omega

theorem Regular.tallied_after (h : t.Regular) (hbefore : t.before.Tallied M)
    (hM : t.event.CreditsAtMost M) : t.after.Tallied M := by
  have hroster : t.after.roster.length = t.before.roster.length := t.actsOn.toKeeps.length_roster
  have hless : M * t.after.aliveIds.length ≤ M * t.before.aliveIds.length :=
    Nat.mul_le_mul_left M (t.aliveIds_sublist h.alive).length_le
  intro p' hp'
  obtain ⟨i, hi⟩ := List.mem_iff_getElem?.mp hp'
  have hlt : i < t.before.roster.length := by
    rw [← hroster]
    exact (List.getElem?_eq_some_iff.mp hi).1
  have hp := List.getElem?_eq_getElem hlt
  have htally := hbefore _ (List.mem_of_getElem? hp)
  rw [hroster]
  by_cases hmem : i ∈ t.ids
  · obtain ⟨k, hk⟩ := List.mem_iff_getElem?.mp hmem
    obtain ⟨q, hq, hcount⟩ := Contest.eliminations_applyEffects (e := t.event) h.nodup hk hp
    obtain rfl := Option.some.inj (hq.symm.trans hi)
    have hadded : q.eliminations.toNat ≤
        t.before.roster[i].eliminations.toNat + t.event.creditOf (k + 1) := by
      rw [hcount, toNat_add_ofNat]
      exact Nat.mod_le _ _
    -- a turn that credits anyone puts someone out, and this makes up for the credit
    by_cases hlethal : t.event.eliminated = []
    · have hnone : t.event.creditOf (k + 1) = 0 := by simp [Event.creditOf, hlethal]
      omega
    · obtain ⟨slot, hslot⟩ := List.exists_mem_of_ne_nil _ hlethal
      obtain ⟨l, j, rfl, hl⟩ := h.filled slot hslot
      have hfewer : M * (t.after.aliveIds.length + 1) ≤ M * t.before.aliveIds.length :=
        Nat.mul_le_mul_left M (t.length_aliveIds_lt h.alive h.nodup hl hslot)
      have hcredit := hM.credit (k + 1)
      rw [Nat.mul_succ] at hfewer
      omega
  · rw [t.actsOn.untouched i hmem, hp] at hi
    rw [← Option.some.inj hi]
    omega

end Turn

/-- What the turns of a round do to the counts, if the events credit nobody with more than `M` each
and this is room enough. -/
theorem Placing.tallied {pool : List Nat} {c c' : Contest} {turns : List Turn}
    {failure? : Option GameError} {M : Nat} (h : Placing pool c turns failure? c')
    (hpool : ∀ i ∈ pool, c.isAliveAt i = true)
    (hfilled : ∀ t ∈ turns, ∀ slot ∈ t.event.eliminated, ∃ k i, slot = k + 1 ∧ t.ids[k]? = some i)
    (hM : ∀ t ∈ turns, t.event.CreditsAtMost M) (hsize : M * c.roster.length < UInt32.size)
    (hc : c.Tallied M) : c'.Tallied M ∧ ∀ t ∈ turns, t.Counts := by
  induction h with
  | finished | failed => exact ⟨hc, by simp⟩
  | @turn pool turns failure? c' t _ hsub hids hrest ih =>
      obtain ⟨hfilled, hfilledRest⟩ := List.forall_mem_cons.mp hfilled
      obtain ⟨hMt, hMrest⟩ := List.forall_mem_cons.mp hM
      have hregular : t.Regular := ⟨fun i hi => hpool i (hsub i hi), hids, hfilled⟩
      -- whoever is still to be placed has not been touched by this turn
      have hleft : ∀ i ∈ Game.unplaced pool t.ids, t.after.isAliveAt i = true := by
        intro i hi
        obtain ⟨hipool, hiids⟩ := Game.mem_unplaced.mp hi
        rw [t.actsOn.isAliveAt_eq hiids]
        exact hpool i hipool
      have hroster : t.after.roster.length = t.before.roster.length :=
        t.actsOn.toKeeps.length_roster
      obtain ⟨htallied, hcounts⟩ :=
        ih hleft hfilledRest hMrest (by rwa [hroster]) (hregular.tallied_after hc hMt)
      exact ⟨htallied, List.forall_mem_cons.mpr ⟨hregular.counts hc hMt hsize, hcounts⟩⟩

theorem Placing.le_of_fits {pool : List Nat} {c c' : Contest} {turns : List Turn}
    {failure? : Option GameError} (h : Placing pool c turns failure? c')
    (hfits : ∀ t ∈ turns, t.Fits) {i : Nat} {p p' : Player} (hp : c.roster[i]? = some p)
    (hp' : c'.roster[i]? = some p') : p.eliminations ≤ p'.eliminations := by
  induction h generalizing p with
  | finished | failed =>
      rw [Option.some.inj (hp.symm.trans hp')]
      exact UInt32.le_refl _
  | turn t _ _ hids _ ih =>
      obtain ⟨hfits, hfitsRest⟩ := List.forall_mem_cons.mp hfits
      have hlt : i < t.after.roster.length := by
        rw [t.actsOn.toKeeps.length_roster]
        exact (List.getElem?_eq_some_iff.mp hp).1
      have hq := List.getElem?_eq_getElem hlt
      exact UInt32.le_trans (hfits.le hids hp hq) (ih hfitsRest hq hp')

/-! ## Games -/

def Event.NamesSlots (e : Event) : Prop :=
  ∀ slot ∈ e.eliminated, 1 ≤ slot ∧ slot ≤ e.tributes

theorem Event.namesSlots_of_parse (text metadata : String) (e : Event)
    (h : parse text metadata = .ok e) : e.NamesSlots := by
  intro slot hslot
  exact bounds_of_mem_changes h (slot, .death) (by simp [changes, hslot])

theorem Player.eliminations_of_parse {name metadata : String} {p : Player}
    (h : parse name metadata = .ok p) : p.eliminations = 0 := by
  unfold parse at h
  split at h
  · cases h
  · obtain ⟨t, -, h⟩ := exists_of_bind_eq_ok h
    obtain ⟨team, -, h⟩ := exists_of_bind_eq_ok h
    obtain ⟨gender, -, h⟩ := exists_of_bind_eq_ok h
    obtain ⟨height, -, h⟩ := exists_of_bind_eq_ok h
    obtain ⟨picture, -, h⟩ := exists_of_bind_eq_ok h
    exact Except.ok.inj h ▸ rfl

def Spec.Draft.Fresh (d : Draft) : Prop :=
  ∀ p ∈ d.players, p.eliminations = 0

theorem Spec.Draft.Takes.fresh {d d' : Draft} {i : Numbered} (h : d.Takes i d') (hd : d.Fresh) :
    d'.Fresh := by
  cases h with
  | nothing | rules | event | arenaEvent | arenaOpening => exact hd
  | player hparse =>
      unfold Fresh
      rw [List.forall_mem_append, List.forall_mem_singleton]
      exact ⟨hd, Player.eliminations_of_parse hparse⟩

theorem Spec.fresh_of_parse {input : String} {reading : Reading} (h : parse input = .ok reading) :
    ∀ p ∈ reading.contest.roster, p.eliminations = 0 := by
  obtain ⟨d, problems, rfl, hd⟩ := exists_draft_of_parse (P := Draft.Fresh) (by simp [Draft.Fresh])
    (fun _ _ _ htakes => htakes.fresh) h
  rw [Draft.finish_roster]
  exact hd

theorem Provenance.filled {c : Contest} {round : RoundKind} {arena : Option Arena} {t : Turn}
    (h : Provenance c round arena t) (hslots : t.event.NamesSlots) :
    ∀ slot ∈ t.event.eliminated, ∃ k i, slot = k + 1 ∧ t.ids[k]? = some i := by
  intro slot hslot
  obtain ⟨players, hplayers, ⟨_, -, hmet⟩, -⟩ := h.players
  have hlength : t.ids.length = t.event.tributes := hplayers.length_eq.trans hmet.length_eq.symm
  obtain ⟨hpos, hle⟩ := hslots slot hslot
  obtain ⟨k, rfl⟩ := Nat.exists_eq_add_of_le' hpos
  exact ⟨k, _, rfl, List.getElem?_eq_getElem (by omega)⟩

namespace Game

variable {src : Source σ} {g g' : Game σ} {turns : List Turn}
  {result : Except GameError RoundReport} {M : Nat}

/-- Where nobody can be credited with too much, turns that come from the sources count right. -/
theorem tallied_of_provenance {c c' : Contest} {failure? : Option GameError}
    (h : Placing c.aliveIds c turns failure? c')
    (hprovenance : ∀ t ∈ turns, ∃ round arena, Provenance c round arena t)
    (hslots : c.EveryEvent Event.NamesSlots) (hM : c.EveryEvent (Event.CreditsAtMost M))
    (hsize : M * c.roster.length < UInt32.size) (hc : c.Tallied M) :
    c'.Tallied M ∧ ∀ t ∈ turns, t.Counts := by
  refine h.tallied (fun i hi => Contest.mem_aliveIds.mp hi) ?_ ?_ hsize hc
  · intro t ht
    obtain ⟨round, arena, hprovenance⟩ := hprovenance t ht
    exact hprovenance.filled (hprovenance.of_everyEvent hslots)
  · intro t ht
    obtain ⟨round, arena, hprovenance⟩ := hprovenance t ht
    exact hprovenance.of_everyEvent hM

/-- A call that ends because a count is full has drawn a turn with an addition that would wrap
around. -/
theorem Advances.exists_overflowing (h : Advances src g turns (.error .overflow) g') :
    ∃ t : Turn, t.before = g'.contest ∧ t.Overflows ∧
      (∃ round arena, Provenance g.contest round arena t) ∧
      Placing g.contest.aliveIds g.contest (turns ++ [t]) (some .overflow) t.after := by
  obtain ⟨t, hbefore, hfits, hprovenance, hplacing⟩ := h.exists_full
  have hids := hplacing.nodup_of_mem (Contest.nodup_aliveIds _) t (by simp)
  exact ⟨t, hbefore, t.overflows_of_not_fits hids hfits, hprovenance, hplacing⟩

/-- A call has room for all its turns where the spec leaves room for all credit. -/
theorem Advances.tallied (h : Advances src g turns result g')
    (hslots : g.contest.EveryEvent Event.NamesSlots)
    (hM : g.contest.EveryEvent (Event.CreditsAtMost M))
    (hsize : M * g.contest.roster.length < UInt32.size) (hg : g.contest.Tallied M) :
    g'.contest.Tallied M ∧ (∀ t ∈ turns, t.Counts) ∧ result ≠ .error .overflow := by
  obtain ⟨htallied, hcounts⟩ :=
    tallied_of_provenance h.placing h.exists_provenance hslots hM hsize hg
  refine ⟨htallied, hcounts, ?_⟩
  rintro rfl
  -- the turn that there is no room for would count right like those before it
  obtain ⟨t, -, hoverflows, hprovenance, hplacing⟩ := h.exists_overflowing
  have hall : ∀ u ∈ turns ++ [t], ∃ round arena, Provenance g.contest round arena u :=
    List.forall_mem_append.mpr
      ⟨h.exists_provenance, List.forall_mem_singleton.mpr hprovenance⟩
  have hcounts := (tallied_of_provenance hplacing hall hslots hM hsize hg).2
  exact hoverflows.not_counts (hcounts t (by simp))

theorem tallied_later (c : Contest) (src : Source σ) (seed : String) (dice : σ)
    (hslots : c.EveryEvent Event.NamesSlots) (hM : c.EveryEvent (Event.CreditsAtMost M))
    (hsize : M * c.roster.length < UInt32.size) (hc : c.Tallied M) (n : Nat) :
    ((start c seed dice).later src n).contest.Tallied M := by
  induction n with
  | zero => exact hc
  | succ n ih =>
      rw [later_succ]
      have hkeeps := keeps_later c src seed dice n
      obtain ⟨turns, h⟩ := exists_advances src ((start c seed dice).later src n)
      exact (h.tallied (hkeeps.everyEvent hslots) (hkeeps.everyEvent hM)
        (by rwa [hkeeps.length_roster]) ih).1

/-- The bound holds on a parsed spec that leaves room for all credit, after any number of calls. -/
theorem Advances.tallied_of_parse {input : String} {reading : Spec.Reading}
    (hparse : Spec.parse input = .ok reading) {seed : String} {dice : σ} {n : Nat}
    (h : Advances src ((start reading.contest seed dice).later src n) turns result g')
    (hM : reading.contest.EveryEvent (Event.CreditsAtMost M))
    (hsize : M * reading.contest.roster.length < UInt32.size) :
    g'.contest.Tallied M ∧ (∀ t ∈ turns, t.Counts) ∧ result ≠ .error .overflow := by
  have hslots := Spec.everyEvent_of_parse Event.namesSlots_of_parse hparse
  have hkeeps := keeps_later reading.contest src seed dice n
  have htallied := tallied_later reading.contest src seed dice hslots hM hsize
    (Contest.tallied_of_fresh (Spec.fresh_of_parse hparse) M) n
  exact h.tallied (hkeeps.everyEvent hslots) (hkeeps.everyEvent hM)
    (by rwa [hkeeps.length_roster]) htallied

/-- A game on a parsed spec starts with counts of zero.  Every turn of every call credits its players
without wrapping around, and no count ever decreases: a call ends where the next turn is one with
an addition that would.  If no event credits anyone with more than `M`, and there is room for `M`
eliminations by every player, no call ends this way, all turns count right, and a player's count is
at most `M` for each player who is out. -/
theorem counts_of_advances {input : String} {reading : Spec.Reading}
    (hparse : Spec.parse input = .ok reading) (seed : String) (dice : σ) (n : Nat)
    (h : Advances src ((start reading.contest seed dice).later src n) turns result g') :
    (∀ p ∈ reading.contest.roster, p.eliminations = 0) ∧ (∀ t ∈ turns, t.Credits) ∧
    (∀ (i : Nat) (p p' : Player),
      ((start reading.contest seed dice).later src n).contest.roster[i]? = some p →
        g'.contest.roster[i]? = some p' → p.eliminations ≤ p'.eliminations) ∧
    (result = .error .overflow → ∃ t : Turn, t.before = g'.contest ∧ t.Overflows ∧
      ∃ round arena, Provenance reading.contest round arena t) ∧
    ∀ M, reading.contest.EveryEvent (Event.CreditsAtMost M) →
      M * reading.contest.roster.length < UInt32.size →
        g'.contest.Tallied M ∧ (∀ t ∈ turns, t.Counts) ∧ result ≠ .error .overflow := by
  refine ⟨Spec.fresh_of_parse hparse, ?_, fun i p p' => h.placing.le_of_fits h.fits, ?_,
    fun M => h.tallied_of_parse hparse⟩
  · intro t ht
    have hids := h.placing.nodup_of_mem (Contest.nodup_aliveIds _) t ht
    exact t.credits (h.fits t ht) hids
  · rintro rfl
    obtain ⟨t, hbefore, hoverflows, ⟨round, arena, hprovenance⟩, -⟩ := h.exists_overflowing
    have hkeeps := keeps_later reading.contest src seed dice n
    exact ⟨t, hbefore, hoverflows, round, arena, hkeeps.provenance hprovenance⟩

def strikeSpec : String :=
  Contest.duelSpec ++ "[bloodbath]\n\"%1% strikes %2% down.\"\ntributes:2, elim:2, perp:1\n"

/-- One of two players strikes the other down, and there is room for one elimination each. -/
theorem counts_of_strike :
    ∃ (reading : Spec.Reading) (report : RoundReport) (turns : List Turn) (g' : Game Unit),
      Spec.parse strikeSpec = .ok reading ∧
      Advances .first (start reading.contest "" ()) turns (.ok report) g' ∧
      report.events.map (·.eliminated) = [["Ann"]] ∧
      reading.contest.EveryEvent (Event.CreditsAtMost 1) ∧
      1 * reading.contest.roster.length < UInt32.size ∧
      (∀ t ∈ turns, t.Credits) ∧ (∀ t ∈ turns, t.Counts) ∧ g'.contest.Tallied 1 := by
  obtain ⟨reading, hparse, hreading⟩ :=
    Spec.exists_of_parse strikeSpec
      (P := fun reading => (((start reading.contest "" ()).advance .first).1.toOption.any
          fun report => report.events.map (·.eliminated) = [["Ann"]]) ∧
        reading.contest.roster.length = 2 ∧
        (∀ kind ∈ RoundKind.pooled, ∀ e ∈ reading.contest.pools.of kind,
          e.credited.length * e.eliminated.length ≤ 1 ∧ e.eliminated.length < UInt32.size) ∧
        ∀ a ∈ reading.contest.arenas, ∀ e ∈ a.events,
          e.credited.length * e.eliminated.length ≤ 1 ∧ e.eliminated.length < UInt32.size)
      (by decide +kernel)
  obtain ⟨hreport, hroster, hpools, harenas⟩ := of_decide_eq_true hreading
  obtain ⟨report, hresult, heliminated⟩ := exists_of_any hreport
  have hM := Contest.everyEvent_creditsAtMost hpools harenas
  have hsize : 1 * reading.contest.roster.length < UInt32.size := by
    rw [hroster]
    decide
  obtain ⟨turns, h⟩ := exists_advances .first (start reading.contest "" ())
  rw [hresult] at h
  obtain ⟨-, hcredits, -, -, hall⟩ := counts_of_advances hparse "" () 0 h
  obtain ⟨htallied, hcounts, -⟩ := hall 1 hM hsize
  exact ⟨reading, report, turns, _, hparse, h, of_decide_eq_true heliminated, hM, hsize, hcredits,
    hcounts, htallied⟩

/-- There is a spec on which every game ends in its first call, at a turn with an addition that would
wrap around. -/
theorem exists_turn_overflows :
    ∃ input reading, Spec.parse input = .ok reading ∧
      ∀ {σ : Type} (src : Source σ) (seed : String) (dice : σ),
        ((start reading.contest seed dice).advance src).1 = .error .overflow ∧
          ∃ t : Turn, (∃ round arena, Provenance reading.contest round arena t) ∧ t.Overflows := by
  -- the product of the numbers is the size of a count
  obtain ⟨reading, hparse, -, hoverflow⟩ :=
    exists_overflow (n := 65535) (m := 65535) (by decide) (by decide)
  refine ⟨_, reading, hparse, ?_⟩
  intro σ src seed dice
  refine ⟨hoverflow src seed dice, ?_⟩
  obtain ⟨turns, h⟩ := exists_advances src (start reading.contest seed dice)
  rw [hoverflow src seed dice] at h
  obtain ⟨t, -, hoverflows, hprovenance, -⟩ := h.exists_overflowing
  exact ⟨t, hprovenance, hoverflows⟩

end Game
end Tournament
