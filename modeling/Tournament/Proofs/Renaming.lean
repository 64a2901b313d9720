import Tournament.Casting
import Tournament.Proofs.Changes

/-!
# Contests under other names

Two contests are renamings of each other when their players differ in names and pictures only, place
by place, and no two names become one (`Contest.Renames`).  Then the same players are alive, the same
candidates fit the same slots, and the winners correspond; an event played by the same places makes
renamings of renamings (`Renames.applyEffects`).
-/

namespace Tournament

open Draw (Source)

variable {σ : Type} {f : String → String}

/-- `q` is the player `p` under the new name, with any picture. -/
def Player.Renamed (f : String → String) (p q : Player) : Prop :=
  q = { p with name := f p.name, picture := q.picture }

instance (p q : Player) : Decidable (p.Renamed f q) :=
  inferInstanceAs (Decidable (q = { p with name := f p.name, picture := q.picture }))

theorem Player.Renamed.exists_eq {p q : Player} (h : p.Renamed f q) :
    ∃ picture, q = { p with name := f p.name, picture := picture } :=
  ⟨q.picture, h⟩

theorem Player.Renamed.act (x : Change) (p q : Player) (h : p.Renamed f q) :
    (x.act p).Renamed f (x.act q) := by
  obtain ⟨picture, rfl⟩ := h.exists_eq
  cases x <;> rfl

namespace Contest

/-- `d` is the contest `c` with the players renamed. -/
structure Renames (f : String → String) (c d : Contest) : Prop where
  rules : d.rules = c.rules
  arenas : d.arenas = c.arenas
  pools : d.pools = c.pools
  roster : List.Forall₂ (Player.Renamed f) c.roster d.roster
  /-- Players with different names have different new names. -/
  injective : ∀ m ∈ c.roster.map (·.name), ∀ n ∈ c.roster.map (·.name), f m = f n → m = n

variable {c d : Contest}

theorem renames_iff :
    c.Renames f d ↔ (d.rules = c.rules ∧ d.arenas = c.arenas ∧ d.pools = c.pools) ∧
      (c.roster.length = d.roster.length ∧ ∀ x ∈ c.roster.zip d.roster, x.1.Renamed f x.2) ∧
      ∀ m ∈ c.roster.map (·.name), ∀ n ∈ c.roster.map (·.name), f m = f n → m = n := by
  constructor
  · intro h
    obtain ⟨hlength, hzip⟩ := List.forall₂_iff_zip.mp h.roster
    exact ⟨⟨h.rules, h.arenas, h.pools⟩, ⟨hlength, fun x hx => hzip hx⟩, h.injective⟩
  · rintro ⟨⟨hrules, harenas, hpools⟩, ⟨hlength, hzip⟩, hinj⟩
    exact ⟨hrules, harenas, hpools, List.forall₂_iff_zip.mpr ⟨hlength, fun hx => hzip _ hx⟩, hinj⟩

instance : Decidable (c.Renames f d) :=
  decidable_of_iff _ renames_iff.symm

theorem map_eq_of_forall₂ {α β γ : Type} {R : α → β → Prop} {u : α → γ} {v : β → γ}
    (huv : ∀ a b, R a b → v b = u a) {as : List α} {bs : List β} (h : List.Forall₂ R as bs) :
    bs.map v = as.map u := by
  induction h with
  | nil => rfl
  | cons hab _ ih => rw [List.map_cons, List.map_cons, huv _ _ hab, ih]

/-! ## Who is alive -/

theorem Renames.isAlive_eq (h : c.Renames f d) {p q : Player} (hpq : p.Renamed f q) :
    d.isAlive q = c.isAlive p := by
  obtain ⟨picture, rfl⟩ := hpq.exists_eq
  unfold isAlive
  rw [h.rules]

theorem Renames.isAliveAt_eq (h : c.Renames f d) (i : Nat) : d.isAliveAt i = c.isAliveAt i := by
  unfold isAliveAt
  have hrel := forall₂_getElem? h.roster i
  generalize c.roster[i]? = p at hrel
  generalize d.roster[i]? = q at hrel
  cases hrel with
  | none => rfl
  | some hpq => exact h.isAlive_eq hpq

theorem Renames.aliveIds_eq (h : c.Renames f d) : d.aliveIds = c.aliveIds := by
  unfold aliveIds
  rw [← h.roster.length_eq]
  congr 1
  funext i
  exact h.isAliveAt_eq i

theorem Renames.alivePlayers (h : c.Renames f d) :
    List.Forall₂ (Player.Renamed f) c.alivePlayers d.alivePlayers := by
  refine List.rel_filter ?_ h.roster
  intro p q hpq
  change c.isAlive p = true ↔ d.isAlive q = true
  rw [h.isAlive_eq hpq]

theorem Renames.remaining_eq (h : c.Renames f d) : d.remaining = c.remaining :=
  h.alivePlayers.length_eq.symm

theorem Renames.aliveTeams_eq (h : c.Renames f d) : d.aliveTeams = c.aliveTeams := by
  have hteams : d.alivePlayers.map Player.team = c.alivePlayers.map Player.team := by
    apply map_eq_of_forall₂ _ h.alivePlayers
    intro p q hpq
    obtain ⟨picture, rfl⟩ := hpq.exists_eq
    rfl
  have hfilter : ∀ ps : List Player, ps.filterMap Player.team = (ps.map Player.team).filterMap id := by
    intro ps
    rw [List.filterMap_map]
    rfl
  unfold aliveTeams
  rw [hfilter, hteams, ← hfilter]

end Contest

/-! ## Who has won -/

def Side.rename (f : String → String) : Side → Side
  | .team letter => .team letter
  | .solo name => .solo (f name)

def Winner.rename (f : String → String) : Winner → Winner
  | .team letter => .team letter
  | .player name => .player (f name)
  | .nobody => .nobody

namespace Contest

variable {c d : Contest}

theorem Renames.map_side (h : c.Renames f d) :
    d.alivePlayers.map Player.side = (c.alivePlayers.map Player.side).map (Side.rename f) := by
  rw [List.map_map]
  apply map_eq_of_forall₂ _ h.alivePlayers
  intro p q hpq
  obtain ⟨picture, rfl⟩ := hpq.exists_eq
  cases hteam : p.team <;> simp [Player.side, Side.rename, hteam]

theorem Renames.side_inj (h : c.Renames f d) {s t : Side} (hs : s ∈ c.alivePlayers.map Player.side)
    (ht : t ∈ c.alivePlayers.map Player.side) : s.rename f = t.rename f ↔ s = t := by
  have hname : ∀ {name}, Side.solo name ∈ c.alivePlayers.map Player.side →
      name ∈ c.roster.map (·.name) := by
    intro name hmem
    obtain ⟨p, hp, hside⟩ := List.mem_map.mp hmem
    unfold Player.side at hside
    cases hteam : p.team with
    | some letter => simp [hteam] at hside
    | none =>
        obtain rfl : p.name = name := by simpa [hteam] using hside
        exact List.mem_map_of_mem (List.mem_of_mem_filter hp)
  cases s with
  | team letter => cases t <;> simp [Side.rename]
  | solo m =>
      cases t with
      | team letter => simp [Side.rename]
      | solo n =>
          simp only [Side.rename, Side.solo.injEq]
          exact ⟨h.injective m (hname hs) n (hname ht), congrArg f⟩

theorem Renames.winner?_eq (h : c.Renames f d) : d.winner? = c.winner?.map (Winner.rename f) := by
  have hinj := fun s t => h.side_inj (s := s) (t := t)
  unfold winner?
  rw [h.map_side]
  cases hsides : c.alivePlayers.map Player.side with
  | nil => rfl
  | cons side others =>
      have hall : (others.map (Side.rename f)).all (· = side.rename f) =
          others.all (· = side) := by
        rw [List.all_map, Bool.eq_iff_iff, List.all_eq_true, List.all_eq_true]
        refine forall₂_congr fun s hs => ?_
        have hs' : s ∈ c.alivePlayers.map Player.side := by
          rw [hsides]
          exact List.mem_cons_of_mem _ hs
        have hside : side ∈ c.alivePlayers.map Player.side := by
          rw [hsides]
          exact List.mem_cons_self
        simpa using hinj s side hs' hside
      simp only [List.map_cons, hall]
      cases others.all (· = side) with
      | false => rfl
      | true => cases side <;> rfl

theorem Renames.isOver_eq (h : c.Renames f d) : d.isOver = c.isOver := by
  unfold isOver
  rw [h.winner?_eq, Option.isSome_map]

/-! ## Who is cast -/

theorem Renames.fits_eq (h : c.Renames f d) (bound : List (Char × Char)) (r : Requirement)
    (id : Nat) : d.fits bound r id = c.fits bound r id := by
  unfold fits
  have hrel := forall₂_getElem? h.roster id
  generalize c.roster[id]? = p at hrel
  generalize d.roster[id]? = q at hrel
  cases hrel with
  | none => rfl
  | some hpq =>
      obtain ⟨picture, rfl⟩ := hpq.exists_eq
      rfl

theorem Renames.fill_eq (h : c.Renames f d) (bound : List (Char × Char)) (slots : List Requirement)
    (candidates : List Nat) : d.fill bound slots candidates = c.fill bound slots candidates := by
  induction slots generalizing candidates with
  | nil => rfl
  | cons r rest ih =>
      have hfits : d.fits bound r = c.fits bound r := funext (h.fits_eq bound r)
      unfold fill
      rw [hfits]
      cases candidates.find? (c.fits bound r) with
      | none => rfl
      | some id =>
          dsimp only
          rw [ih]

theorem Renames.cast_eq (h : c.Renames f d) (src : Source σ) (e : Event) (pool : List Nat) (s : σ) :
    d.cast src e pool s = c.cast src e pool s := by
  unfold cast
  simp only [h.aliveTeams_eq, h.fill_eq]

/-! ## What events do -/

theorem Renames.applyEffects (h : c.Renames f d) (e : Event) (ids : List Nat) :
    (c.applyEffects e ids).Renames f (d.applyEffects e ids) := by
  have hc : c.Keeps (c.applyEffects e ids) := (actsOn_applyEffects c e ids).toKeeps
  have hd : d.Keeps (d.applyEffects e ids) := (actsOn_applyEffects d e ids).toKeeps
  refine ⟨?_, ?_, ?_, forall₂_applyEffects Player.Renamed.act h.roster e ids, ?_⟩
  · rw [hd.rules, h.rules, hc.rules]
  · rw [hd.arenas, h.arenas, hc.arenas]
  · rw [hd.pools, h.pools, hc.pools]
  · rw [hc.names]
    exact h.injective

theorem Renames.holdsEffects_eq (h : c.Renames f d) (e : Event) (ids : List Nat) :
    d.holdsEffects e ids = c.holdsEffects e ids := by
  refine holdsEffects_congr Player.Renamed.act ?_ h.roster e ids
  intro p q hpq
  obtain ⟨picture, rfl⟩ := hpq.exists_eq
  rfl

/-! ## Names by place -/

theorem Renames.nameAt?_eq (h : c.Renames f d) (i : Nat) : d.nameAt? i = (c.nameAt? i).map f := by
  unfold nameAt?
  have hrel := forall₂_getElem? h.roster i
  generalize c.roster[i]? = p at hrel
  generalize d.roster[i]? = q at hrel
  cases hrel with
  | none => rfl
  | some hpq =>
      obtain ⟨picture, rfl⟩ := hpq.exists_eq
      rfl

theorem Renames.namesAt_eq (h : c.Renames f d) (ids : List Nat) :
    d.namesAt ids = (c.namesAt ids).map f := by
  unfold namesAt
  rw [List.map_filterMap]
  congr 1
  funext i
  exact h.nameAt?_eq i

theorem Renames.filterMap (h : c.Renames f d) (ids : List Nat) :
    List.Forall₂ (Player.Renamed f) (ids.filterMap (c.roster[·]?)) (ids.filterMap (d.roster[·]?)) := by
  induction ids with
  | nil => exact .nil
  | cons id ids ih =>
      have hrel := forall₂_getElem? h.roster id
      rw [List.filterMap_cons, List.filterMap_cons]
      generalize c.roster[id]? = p at hrel
      generalize d.roster[id]? = q at hrel
      cases hrel with
      | none => exact ih
      | some hpq => exact .cons hpq ih

end Contest
end Tournament
