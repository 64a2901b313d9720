import Tournament.Proofs.Turn

/-!
# Placing the players of a pool

`Placing` is what a round does to the contest, apart from its draws: turn after turn takes some of
the players not yet placed, until none is left, the contest is decided or the round breaks off.
Every play of a round is such a placing (`Game.Plays.placing`).  The turns and what is left of the
pool make up the pool (`Placing.exists_perm`), and who is out at the end was put out by the one turn
that player took part in (`Placing.mem_out_iff`).
-/

namespace Tournament

open Draw (Source)

variable {σ : Type}

/-- `Placing pool c turns failure? c'`: the turns take players of `pool`, each at most once, and
lead from the contest `c` to `c'`. -/
inductive Placing :
    List Nat → Contest → List Turn → Option GameError → Contest → Prop where
  | finished {pool : List Nat} {c : Contest} (h : pool = [] ∨ c.isOver = true) :
      Placing pool c [] none c
  | failed (pool : List Nat) (c : Contest) (e : GameError) : Placing pool c [] (some e) c
  | turn {pool : List Nat} {turns : List Turn} {failure? : Option GameError} {c' : Contest}
      (t : Turn) (hopen : t.before.isOver = false) (hpool : ∀ id ∈ t.ids, id ∈ pool)
      (hnodup : t.ids.Nodup)
      (hrest : Placing (Game.unplaced pool t.ids) t.after turns failure? c') :
      Placing pool t.before (t :: turns) failure? c'

theorem Game.nodup_unplaced {pool : List Nat} (ids : List Nat) (h : pool.Nodup) :
    (Game.unplaced pool ids).Nodup :=
  h.filter _

theorem Game.mem_unplaced {pool ids : List Nat} {i : Nat} :
    i ∈ Game.unplaced pool ids ↔ i ∈ pool ∧ i ∉ ids := by
  simp [Game.unplaced]

theorem Game.perm_unplaced {pool ids : List Nat} (hpool : pool.Nodup) (hids : ids.Nodup)
    (hsub : ∀ id ∈ ids, id ∈ pool) : (ids ++ Game.unplaced pool ids).Perm pool := by
  have htaken : ids.Perm (pool.filter fun id => id ∈ ids) := by
    rw [List.perm_ext_iff_of_nodup hids (hpool.filter _)]
    intro id
    simp only [List.mem_filter, decide_eq_true_eq]
    exact ⟨fun h => ⟨hsub id h, h⟩, fun h => h.2⟩
  have hleft : Game.unplaced pool ids = pool.filter fun id => !decide (id ∈ ids) := by
    simp [Game.unplaced]
  rw [hleft]
  exact (htaken.append_right _).trans (List.filter_append_perm _ pool)

theorem Game.Plays.placing {src : Source σ} {round : RoundKind} {deck : Deck} {pool : List Nat}
    {g g' : Game σ} {turns : List Turn} {failure? : Option GameError}
    (h : Plays src round deck pool g turns failure? g') (hpool : pool.Nodup) :
    Placing pool g.contest turns failure? g'.contest := by
  induction h with
  | placed deck g => exact .finished (.inl rfl)
  | decided _ hover => exact .finished (.inr hover)
  | @stuck deck pool g g₁ g₂ kind e _ _ hkind hdraw =>
      rw [contest_of_draw hkind hdraw]
      exact .failed pool g.contest e
  | @full deck pool g g₁ g₂ kind cast _ _ hkind hdraw =>
      rw [contest_of_draw hkind hdraw]
      exact .failed pool g.contest .overflow
  | @turn deck pool g g₁ g₂ g' kind cast turns failure? _ hopen hkind hdraw _ _ ih =>
      have hrest := ih (nodup_unplaced cast.ids hpool)
      rw [playEvent_snd_contest, contest_of_draw hkind hdraw] at hrest
      exact .turn ⟨g.contest, kind, cast.event, cast.ids⟩ hopen (mem_pool_of_drawEvent hdraw)
        (nodup_of_drawEvent hdraw hpool) hrest

namespace Placing

variable {pool : List Nat} {c c' : Contest} {turns : List Turn} {failure? : Option GameError}

theorem actsOn (h : Placing pool c turns failure? c') : Contest.ActsOn pool c c' := by
  induction h with
  | finished => exact .refl _ _
  | failed => exact .refl _ _
  | turn t _ hpool _ _ ih =>
      refine ⟨t.actsOn.toKeeps.trans ih.toKeeps, ?_⟩
      intro i hi
      have hids : i ∉ t.ids := fun hmem => hi (hpool i hmem)
      have hleft : i ∉ Game.unplaced _ t.ids := fun hmem => hi (Game.mem_unplaced.mp hmem).1
      rw [ih.untouched i hleft, t.actsOn.untouched i hids]

/-- Every turn begins with the rules, arenas, pools and names that the placing begins with, and in
a contest that is not decided. -/
theorem before_of_mem (h : Placing pool c turns failure? c') :
    ∀ t ∈ turns, Contest.Keeps c t.before ∧ t.before.isOver = false := by
  induction h with
  | finished => simp
  | failed => simp
  | turn t hopen _ _ _ ih =>
      intro u hu
      rcases List.mem_cons.mp hu with rfl | hu
      · exact ⟨.refl _, hopen⟩
      · exact ⟨t.actsOn.toKeeps.trans (ih u hu).1, (ih u hu).2⟩

/-- The players of the turns, with those left over, make up the pool; nobody is left over when the
placing ends in good order and the contest is still open. -/
theorem exists_perm (h : Placing pool c turns failure? c') (hpool : pool.Nodup) :
    ∃ rest, (turns.flatMap Turn.ids ++ rest).Perm pool ∧
      (failure? = none → c'.isOver = false → rest = []) := by
  induction h with
  | @finished pool c hend =>
      refine ⟨pool, .refl pool, ?_⟩
      intro _ hopen
      rcases hend with hnil | hover
      · exact hnil
      · rw [hopen] at hover
        cases hover
  | failed pool c e => exact ⟨pool, .refl pool, by simp⟩
  | turn t _ hsub hids _ ih =>
      obtain ⟨rest, hperm, hrest⟩ := ih (Game.nodup_unplaced t.ids hpool)
      refine ⟨rest, ?_, hrest⟩
      rw [List.flatMap_cons, List.append_assoc]
      exact (hperm.append_left t.ids).trans (Game.perm_unplaced hpool hids hsub)

theorem mem_pool (h : Placing pool c turns failure? c') :
    ∀ i ∈ turns.flatMap Turn.ids, i ∈ pool := by
  induction h with
  | finished => simp
  | failed => simp
  | turn t _ hpool _ _ ih =>
      intro i hi
      rw [List.flatMap_cons, List.mem_append] at hi
      rcases hi with hi | hi
      · exact hpool i hi
      · exact (Game.mem_unplaced.mp (ih i hi)).1

theorem nodup_ids (h : Placing pool c turns failure? c') (hpool : pool.Nodup) :
    (turns.flatMap Turn.ids).Nodup := by
  obtain ⟨rest, hperm, -⟩ := h.exists_perm hpool
  exact (hperm.nodup_iff.mpr hpool).of_append_left

theorem nodup_of_mem (h : Placing pool c turns failure? c') (hpool : pool.Nodup) :
    ∀ t ∈ turns, t.ids.Nodup :=
  (List.nodup_flatMap.mp (h.nodup_ids hpool)).1

/-! ## Who is put out -/

theorem out_sublist_ids (turns : List Turn) :
    (turns.flatMap Turn.out).Sublist (turns.flatMap Turn.ids) := by
  induction turns with
  | nil => exact .refl _
  | cons t turns ih =>
      rw [List.flatMap_cons, List.flatMap_cons]
      exact List.Sublist.append List.filter_sublist ih

/-- A placing of living players puts out exactly those who are alive before and not alive after
it. -/
theorem mem_out_iff (h : Placing pool c turns failure? c')
    (hpool : ∀ i ∈ pool, c.isAliveAt i = true) (i : Nat) :
    i ∈ turns.flatMap Turn.out ↔ c.isAliveAt i = true ∧ c'.isAliveAt i = false := by
  induction h with
  | finished => simp
  | failed => simp
  | @turn pool turns failure? c' t _ hsub _ hrest ih =>
      have hleft : ∀ j ∈ Game.unplaced pool t.ids, t.after.isAliveAt j = true := by
        intro j hj
        obtain ⟨hjpool, hjids⟩ := Game.mem_unplaced.mp hj
        rw [t.actsOn.isAliveAt_eq hjids]
        exact hpool j hjpool
      rw [List.flatMap_cons, List.mem_append, ih hleft]
      by_cases hi : i ∈ t.ids
      · -- `i` is placed by this turn, so no later turn touches it
        have hout : i ∈ t.out ↔ t.after.isAliveAt i = false := by
          simp [Turn.out, hi]
        have hplaced : i ∉ Game.unplaced pool t.ids := fun hmem => (Game.mem_unplaced.mp hmem).2 hi
        rw [hout, hrest.actsOn.isAliveAt_eq hplaced, hpool i (hsub i hi)]
        cases t.after.isAliveAt i <;> simp
      · have hout : i ∉ t.out := fun hmem => hi (List.mem_of_mem_filter hmem)
        rw [t.actsOn.isAliveAt_eq hi]
        simp [hout]

theorem alive_of_after (h : Placing pool c turns failure? c')
    (hpool : ∀ i ∈ pool, c.isAliveAt i = true) :
    ∀ t ∈ turns, ∀ i, t.after.isAliveAt i = true → t.before.isAliveAt i = true := by
  induction h with
  | finished => simp
  | failed => simp
  | @turn pool turns failure? c' t _ hsub _ _ ih =>
      intro u hu i halive
      rcases List.mem_cons.mp hu with rfl | hu
      · by_cases hi : i ∈ u.ids
        · exact hpool i (hsub i hi)
        · rwa [u.actsOn.isAliveAt_eq hi] at halive
      · refine ih ?_ u hu i halive
        intro j hj
        obtain ⟨hjpool, hjids⟩ := Game.mem_unplaced.mp hj
        rw [t.actsOn.isAliveAt_eq hjids]
        exact hpool j hjpool

/-! ## What is reported -/

/-- What the reports say of each turn by name, together, where `ids` gives the places it is said
of. -/
theorem flatMap_report {field : EventReport → List String} {ids : Turn → List Nat}
    (hfield : ∀ t ∈ turns, field t.report = c.namesAt (ids t)) :
    (turns.map Turn.report).flatMap field = c.namesAt (turns.flatMap ids) := by
  unfold Contest.namesAt at hfield ⊢
  rw [List.flatMap_map, List.filterMap_flatMap]
  exact List.flatMap_congr hfield

theorem flatMap_players (h : Placing pool c turns failure? c') :
    (turns.map Turn.report).flatMap (·.players) = c.namesAt (turns.flatMap Turn.ids) := by
  apply flatMap_report
  intro t ht
  have hkeeps := (h.before_of_mem t ht).1
  change t.before.namesAt t.ids = _
  unfold Contest.namesAt
  rw [hkeeps.nameAt?_eq]

theorem flatMap_eliminated (h : Placing pool c turns failure? c') :
    (turns.map Turn.report).flatMap (·.eliminated) = c.namesAt (turns.flatMap Turn.out) := by
  apply flatMap_report
  intro t ht
  have hkeeps := (h.before_of_mem t ht).1.trans t.actsOn.toKeeps
  change t.after.namesAt t.out = _
  unfold Contest.namesAt
  rw [hkeeps.nameAt?_eq]

end Placing

end Tournament
