import Tournament.Draw.Seeded
import Tournament.Proofs.Advance
import Tournament.Proofs.Assignment
import Tournament.Proofs.Comparison
import Tournament.Proofs.Drawable

/-!
# Whom an event is cast with

The players with whom an event is cast come from different places of the pool, one for every slot,
and meet what their slots demand (`fitted_of_cast`).  One demand is checked from the wrong side: a
player fits a slot whose height is not at or beyond its bounds, and so does one whose height is not a
number, which is within no bounds at all (`Requirement.heightMet_iff`).
-/

namespace Tournament

open Draw (Keystream Source seeded)

variable {σ : Type}

/-! ## Bounds on the height -/

instance (r : Requirement) (p : Player) : Decidable (r.HeightMet p) :=
  decidable_of_iff ((∀ l ∈ r.shorterThan, p.height.metres < l.metres) ∧
    ∀ l ∈ r.tallerThan, l.metres < p.height.metres)
    ⟨fun h => ⟨h.1, h.2⟩, fun h => ⟨h.shorter, h.taller⟩⟩

structure Requirement.FiniteBounds (r : Requirement) : Prop where
  shorter : ∀ l ∈ r.shorterThan, l.metres.isFinite = true
  taller : ∀ l ∈ r.tallerThan, l.metres.isFinite = true

/-- The height of a player is a number, or there are no bounds to compare it with. -/
def Requirement.Comparable (r : Requirement) (p : Player) : Prop :=
  p.height.metres.isNaN = true → r.shorterThan = none ∧ r.tallerThan = none

/-- Who passes the check of a slot has a height within its bounds, unless the height is not a
number. -/
theorem Requirement.heightMet_iff {r : Requirement} {p : Player} (hpassed : r.HeightPassed p)
    (hfinite : r.FiniteBounds) : r.HeightMet p ↔ r.Comparable p := by
  constructor
  · intro h hnan
    refine ⟨Option.eq_none_iff_forall_not_mem.mpr ?_, Option.eq_none_iff_forall_not_mem.mpr ?_⟩
    · exact fun l hl => Number.not_lt_of_isNaN (.inl hnan) (h.shorter l hl)
    · exact fun l hl => Number.not_lt_of_isNaN (.inr hnan) (h.taller l hl)
  · intro h
    cases hnan : p.height.metres.isNaN with
    | true =>
        obtain ⟨hshorter, htaller⟩ := h hnan
        exact ⟨by simp [hshorter], by simp [htaller]⟩
    | false =>
        constructor
        · intro l hl
          have hnumber := Number.isNaN_of_isFinite (hfinite.shorter l hl)
          exact (Number.lt_iff_not_ge hnan hnumber).mpr (hpassed.shorter l hl)
        · intro l hl
          have hnumber := Number.isNaN_of_isFinite (hfinite.taller l hl)
          exact (Number.lt_iff_not_ge hnumber hnan).mpr (hpassed.taller l hl)

theorem Length.isFinite_of_parse {s : String} {l : Length} (h : Length.parse s = .ok l) :
    l.metres.isFinite = true := by
  unfold parse at h
  cases hread : read s with
  | error flaw => simp [hread] at h
  | ok l' =>
      simp only [hread, Except.ok.injEq] at h
      subst h
      unfold read at hread
      split at hread
      · cases hread
      · split at hread
        · cases hread
        · split_ifs at hread with hfinite
          obtain rfl := Except.ok.inj hread
          exact hfinite

namespace Requirement

theorem FiniteBounds.congr {r r' : Requirement} (hr : r.FiniteBounds)
    (hshorter : r'.shorterThan = r.shorterThan) (htaller : r'.tallerThan = r.tallerThan) :
    r'.FiniteBounds :=
  ⟨hshorter ▸ hr.shorter, htaller ▸ hr.taller⟩

theorem FiniteBounds.addEliminations {r r' : Requirement} {bound : List Char}
    (hr : r.FiniteBounds) (h : r.addEliminations bound = .ok r') : r'.FiniteBounds := by
  unfold Requirement.addEliminations at h
  dsimp only at h
  split at h
  · cases h
  · split at h
    · cases h
    · split at h
      case h_4 => cases h
      all_goals
        obtain rfl := Except.ok.inj h
        exact hr.congr rfl rfl

theorem FiniteBounds.addTagged {r r' : Requirement} {clause body : List Char}
    (hr : r.FiniteBounds) (h : r.addTagged clause body = .ok r') : r'.FiniteBounds := by
  unfold Requirement.addTagged at h
  dsimp only at h
  split at h
  · obtain ⟨team, -, rfl⟩ := map_eq_ok.mp h
    exact hr.congr rfl rfl
  · split at h
    · split_ifs at h
      obtain ⟨genders, -, rfl⟩ := map_eq_ok.mp h
      exact hr.congr rfl rfl
    · split_ifs at h
      obtain rfl := Except.ok.inj h
      exact hr.congr rfl rfl
    · split_ifs at h
      obtain rfl := Except.ok.inj h
      exact hr.congr rfl rfl
    · exact hr.addEliminations h
    · cases h

theorem FiniteBounds.addClause {r r' : Requirement} {clause : List Char} (hr : r.FiniteBounds)
    (h : r.addClause clause = .ok r') : r'.FiniteBounds := by
  unfold Requirement.addClause at h
  split at h
  · obtain rfl := Except.ok.inj h
    exact hr
  · obtain ⟨l, hl, rfl⟩ := map_eq_ok.mp h
    exact ⟨by simpa using Length.isFinite_of_parse hl, hr.taller⟩
  · obtain ⟨l, hl, rfl⟩ := map_eq_ok.mp h
    exact ⟨hr.shorter, by simpa using Length.isFinite_of_parse hl⟩
  · exact hr.addTagged h
  · cases h

theorem FiniteBounds.addClauses {r r' : Requirement} {clauses : List (List Char)}
    (hr : r.FiniteBounds) (h : r.addClauses clauses = .ok r') : r'.FiniteBounds := by
  induction clauses generalizing r with
  | nil =>
      obtain rfl := Except.ok.inj h
      exact hr
  | cons clause rest ih =>
      rw [Requirement.addClauses] at h
      cases hclause : r.addClause clause with
      | error e => simp [hclause] at h
      | ok r₁ =>
          rw [hclause] at h
          exact ih (hr.addClause hclause) h

theorem finiteBounds_of_parse {suffix : List Char} {r : Requirement} (h : parse suffix = .ok r) :
    r.FiniteBounds :=
  FiniteBounds.addClauses ⟨by simp, by simp⟩ h

end Requirement

namespace Event

theorem exists_suffix_of_parse {text metadata : String} {e : Event}
    (h : Event.parse text metadata = .ok e) :
    ∀ r ∈ e.slots, ∃ suffix, Requirement.parse suffix = .ok r := by
  obtain ⟨-, hread⟩ := isReadFrom_of_parse h
  refine forall_mem_right hread.slots ?_
  rintro slot - r ⟨suffix, -, hr⟩
  exact ⟨suffix, hr⟩

end Event

/-! ## Places in the pool -/

theorem exists_places_of_subperm {ids pool : List Nat} (h : ids.Subperm pool) :
    ∃ places : List (Fin pool.length), places.Nodup ∧ ids = places.map pool.get := by
  obtain ⟨l, hperm, hsub⟩ := h
  obtain ⟨places, rfl, hplaces⟩ := List.sublist_eq_map_getElem hsub
  obtain ⟨others, hids, hothers⟩ : ∃ others, ids = List.map pool.get others ∧ others.Perm places := by
    have hcomp := congrFun (congrFun (List.eq_map_comp_perm pool.get) ids) places
    exact hcomp.mpr hperm.symm
  exact ⟨others, hothers.nodup_iff.mpr (hplaces.imp Fin.ne_of_lt), hids⟩

/-! ## Casting -/

/-- The players at `ids` are fit to play an event: they come from different places of the pool, one
for every slot, and meet the demands of their slots, where the abstract teams stand for different
teams with a living player; the heights are within the bounds if they are numbers. -/
structure Event.Fitted (e : Event) (c : Contest) (pool ids : List Nat) : Prop where
  length_eq : ids.length = e.tributes
  places : ∃ places : List (Fin pool.length), places.Nodup ∧ ids = places.map pool.get
  nodup : pool.Nodup → ids.Nodup
  players : ∃ real players, e.Assigns c real ∧ c.PlayersAt ids players ∧
    List.Forall₂ (fun r p => r.OthersMet real p ∧ r.HeightPassed p ∧
      (r.HeightMet p ↔ r.Comparable p)) e.slots players

/-- Whatever the contest, the pool and the draws, an event is cast with players who are fit to play
it. -/
theorem Contest.fitted_of_cast {text metadata : String} {e : Event}
    (hparse : Event.parse text metadata = .ok e) {c : Contest} {src : Source σ}
    {pool ids : List Nat} {s s' : σ} (h : c.cast src e pool s = (.cast ids, s')) :
    e.Fitted c pool ids := by
  obtain ⟨bound, -, hfill⟩ := fill_of_cast h
  obtain ⟨players, hplayers, real, hassigns, hpassed⟩ := exists_players_of_cast h
  have hfinite : ∀ r ∈ e.slots, r.FiniteBounds := by
    intro r hr
    obtain ⟨suffix, hsuffix⟩ := Event.exists_suffix_of_parse hparse r hr
    exact Requirement.finiteBounds_of_parse hsuffix
  have hsubperm : ids.Subperm pool :=
    (subperm_of_fill hfill).trans (src.shuffle_perm pool s).subperm
  refine ⟨length_of_cast h, exists_places_of_subperm hsubperm, nodup_of_cast h,
    real, players, hassigns, hplayers, ?_⟩
  refine ((List.forall₂_and_left _ _).mpr ⟨hfinite, hpassed⟩).imp ?_
  rintro r p ⟨hr, hp⟩
  exact ⟨hp.others, hp.height, Requirement.heightMet_iff hp.height hr⟩

def hedgeSpec : String :=
  "[players]\n\"Ann\"\ngender:F, height:1m\n\"Bo\"\ngender:M, height:2m\n"

/-- The tall player looks for the small one, and not the other way round. -/
theorem fitted_of_hedge :
    ∃ reading e, Spec.parse hedgeSpec = .ok reading ∧
      Event.parse "%1>1.5m% looks for %2<1.5m%." "tributes:2" = .ok e ∧
      (reading.contest.cast .first e [0, 1] ()).1 = .cast [1, 0] ∧
      e.Fitted reading.contest [0, 1] [1, 0] := by
  obtain ⟨reading, hspec, hreading⟩ :=
    Spec.exists_of_parse hedgeSpec
      (P := fun reading =>
        (Event.parse "%1>1.5m% looks for %2<1.5m%." "tributes:2").toOption.any fun e =>
          (reading.contest.cast .first e [0, 1] ()).1 = .cast [1, 0])
      (by decide +kernel)
  obtain ⟨e, hevent, hcast⟩ := exists_of_any hreading
  have hcast := of_decide_eq_true hcast
  exact ⟨reading, e, hspec, hevent, hcast,
    Contest.fitted_of_cast hevent (Prod.ext hcast rfl)⟩

def ghostSpec : String :=
  "[setup]\nautoelim:no\n[players]\n\"Ann\"\ngender:F, height:0m\n"

/-- Divided by a tiny factor, the height of the ghost is no number any more, and she is cast as
someone who is shorter than one metre and taller than two. -/
theorem ghost_fits_any_bounds :
    ∃ reading e resize c p, Spec.parse ghostSpec = .ok reading ∧
      Event.parse "%1<1m&>2m% hides." "tributes:1" = .ok e ∧
      Resize.parse "/1e-320" = .ok resize ∧ c = reading.contest.modify 0 (·.resize resize) ∧
      (c.cast seeded e c.aliveIds (Keystream.ofSeed "nan")).1 = .cast [0] ∧
      c.roster[0]? = some p ∧ ∀ r ∈ e.slots, ¬ r.HeightMet p := by
  obtain ⟨reading, hspec, hreading⟩ :=
    Spec.exists_of_parse ghostSpec
      (P := fun reading =>
        (Event.parse "%1<1m&>2m% hides." "tributes:1").toOption.any fun e =>
          (Resize.parse "/1e-320").toOption.any fun resize =>
            let c := reading.contest.modify 0 (·.resize resize)
            (c.cast seeded e c.aliveIds (Keystream.ofSeed "nan")).1 = .cast [0] ∧
              (c.roster[0]?.any fun p => ∀ r ∈ e.slots, ¬ r.HeightMet p) = true)
      (by decide +kernel)
  obtain ⟨e, hevent, hreading⟩ := exists_of_any hreading
  obtain ⟨resize, hresize, hreading⟩ := exists_of_any hreading
  obtain ⟨hcast, hbounds⟩ := of_decide_eq_true hreading
  obtain ⟨p, hp, hbounds⟩ := (Option.any_eq_true _ _).mp hbounds
  exact ⟨reading, e, resize, _, p, hspec, hevent, hresize, rfl, hcast, hp,
    of_decide_eq_true hbounds⟩

end Tournament
