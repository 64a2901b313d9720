import Tournament.Effects
import Mathlib.Data.List.Nodup

/-!
# The roster while a contest is played

Playing changes players and nothing else, and an event changes only the players it is played with.
`Keeps` states the first and `ActsOn` the second; both hold of the effects of every event
(`actsOn_applyEffects`).  Places in the roster are stable, so players are followed by place, and
names are read off the places.
-/

namespace Tournament.Contest

variable {c d e : Contest} {ids : List Nat}

/-- The contest `d` has the rules, arenas, pools and names of `c`. -/
structure Keeps (c d : Contest) : Prop where
  rules : d.rules = c.rules
  arenas : d.arenas = c.arenas
  pools : d.pools = c.pools
  names : d.roster.map (·.name) = c.roster.map (·.name)

/-- The contest `d` differs from `c` at most in the players at the places `ids`. -/
structure ActsOn (ids : List Nat) (c d : Contest) : Prop extends Keeps c d where
  untouched : ∀ i, i ∉ ids → d.roster[i]? = c.roster[i]?

theorem Keeps.refl (c : Contest) : Keeps c c :=
  ⟨rfl, rfl, rfl, rfl⟩

theorem Keeps.trans (h : Keeps c d) (h' : Keeps d e) : Keeps c e :=
  ⟨h'.rules.trans h.rules, h'.arenas.trans h.arenas, h'.pools.trans h.pools,
    h'.names.trans h.names⟩

theorem ActsOn.refl (ids : List Nat) (c : Contest) : ActsOn ids c c :=
  ⟨.refl c, fun _ _ => rfl⟩

theorem ActsOn.trans (h : ActsOn ids c d) (h' : ActsOn ids d e) : ActsOn ids c e := by
  refine ⟨h.toKeeps.trans h'.toKeeps, ?_⟩
  intro i hi
  rw [h'.untouched i hi, h.untouched i hi]

/-! ## The effects of an event -/

theorem actsOn_modifySlot {f : Player → Player} (c : Contest) (ids : List Nat) (slot : Nat)
    (hname : ∀ p, (f p).name = p.name) : ActsOn ids c (c.modifySlot ids slot f) := by
  unfold modifySlot
  cases hslot : filler? ids slot with
  | none => exact .refl ids c
  | some id =>
      have hid : id ∈ ids := by
        cases slot with
        | zero => simp [filler?] at hslot
        | succ i => exact List.mem_of_getElem? hslot
      refine ⟨⟨rfl, rfl, rfl, ?_⟩, ?_⟩
      · apply List.ext_getElem?
        intro i
        simp only [modify, List.getElem?_map, List.getElem?_modify]
        cases c.roster[i]? with
        | none => rfl
        | some p => by_cases h : id = i <;> simp [h, hname]
      · intro i hi
        have hne : id ≠ i := by
          rintro rfl
          exact hi hid
        simp [modify, hne]

theorem actsOn_foldl {β : Type} (slot : β → Nat) (f : β → Player → Player)
    (hname : ∀ b p, (f b p).name = p.name) (bs : List β) (c : Contest) :
    ActsOn ids c (bs.foldl (fun c b => c.modifySlot ids (slot b) (f b)) c) := by
  induction bs generalizing c with
  | nil => exact .refl ids c
  | cons b bs ih =>
      have hb : ActsOn ids c (c.modifySlot ids (slot b) (f b)) :=
        actsOn_modifySlot c ids (slot b) (hname b)
      exact hb.trans (ih _)

theorem actsOn_applyEffects (c : Contest) (event : Event) (ids : List Nat) :
    ActsOn ids c (c.applyEffects event ids) := by
  have hresizes : ∀ c, ActsOn ids c (c.applyResizes ids event.resizes) :=
    actsOn_foldl Prod.fst (fun r p => p.resize r.2) (fun _ _ => rfl) event.resizes
  have heliminations : ∀ c, ActsOn ids c (c.applyEliminations ids event.eliminated) :=
    actsOn_foldl id (fun _ p => { p with dead := true }) (fun _ _ => rfl) event.eliminated
  have hcredit : ∀ credit c, ActsOn ids c (c.applyCredit ids event.credited credit) := fun credit =>
    actsOn_foldl id (fun _ p => { p with eliminations := p.eliminations + credit })
      (fun _ _ => rfl) event.credited
  have hgives : ∀ c, ActsOn ids c (c.applyGives ids event.gives) :=
    actsOn_foldl Prod.fst (fun g p => p.give g.2) (fun _ _ => rfl) event.gives
  have htakes : ∀ c, ActsOn ids c (c.applyTakes ids event.takes) :=
    actsOn_foldl Prod.fst (fun g p => p.take g.2) (fun _ _ => rfl) event.takes
  unfold applyEffects beforeTakes
  exact (hresizes _).trans <| (heliminations _).trans <| (hcredit _ _).trans <|
    (hgives _).trans (htakes _)

/-! ## Who is alive -/

theorem Keeps.isAlive_eq (h : Keeps c d) (p : Player) : d.isAlive p = c.isAlive p := by
  unfold isAlive
  rw [h.rules]

theorem ActsOn.isAliveAt_eq (h : ActsOn ids c d) {i : Nat} (hi : i ∉ ids) :
    d.isAliveAt i = c.isAliveAt i := by
  unfold isAliveAt
  rw [h.untouched i hi]
  congr 1
  funext p
  exact h.isAlive_eq p

theorem mem_aliveIds {i : Nat} : i ∈ c.aliveIds ↔ c.isAliveAt i = true := by
  unfold aliveIds
  rw [List.mem_filter, List.mem_range, and_iff_right_iff_imp]
  intro h
  by_contra hlen
  rw [isAliveAt, List.getElem?_eq_none (Nat.le_of_not_lt hlen)] at h
  simp at h

theorem nodup_aliveIds (c : Contest) : c.aliveIds.Nodup :=
  List.nodup_range.filter _

theorem alivePlayers_eq_filterMap (c : Contest) :
    c.alivePlayers = c.aliveIds.filterMap (c.roster[·]?) := by
  unfold alivePlayers aliveIds isAliveAt
  generalize c.isAlive = alive
  induction c.roster with
  | nil => rfl
  | cons p ps ih =>
      rw [List.length_cons, List.range_succ_eq_map, List.filter_cons, List.filter_cons, ih]
      have hps : List.filterMap (fun i => (p :: ps)[i]?)
            (List.filter (fun i => ((p :: ps)[i]?).any alive)
              (List.map Nat.succ (List.range ps.length))) =
          List.filterMap (fun i => ps[i]?)
            (List.filter (fun i => (ps[i]?).any alive) (List.range ps.length)) := by
        rw [List.filter_map, List.filterMap_map]
        rfl
      by_cases halive : alive p = true
      · simp [halive, hps]
      · simp [halive, hps]

theorem aliveIds_ne_nil (h : c.isOver = false) : c.aliveIds ≠ [] := by
  intro hnil
  have halive : c.alivePlayers = [] := by
    rw [alivePlayers_eq_filterMap, hnil]
    rfl
  simp [isOver, winner?, halive] at h

/-! ## Names by place -/

def nameAt? (c : Contest) (i : Nat) : Option String :=
  (c.roster[i]?).map (·.name)

def namesAt (c : Contest) (ids : List Nat) : List String :=
  ids.filterMap c.nameAt?

def DistinctNames (c : Contest) : Prop :=
  (c.roster.map (·.name)).Nodup

theorem nameAt?_eq (c : Contest) (i : Nat) : c.nameAt? i = (c.roster.map (·.name))[i]? := by
  rw [nameAt?, List.getElem?_map]

theorem Keeps.nameAt?_eq (h : Keeps c d) : d.nameAt? = c.nameAt? := by
  funext i
  rw [Contest.nameAt?_eq, Contest.nameAt?_eq, h.names]

theorem Keeps.distinctNames (h : Keeps c d) (hc : c.DistinctNames) : d.DistinctNames := by
  unfold DistinctNames
  rw [h.names]
  exact hc

theorem map_name_filterMap (c : Contest) (ids : List Nat) :
    (ids.filterMap (c.roster[·]?)).map (·.name) = c.namesAt ids :=
  List.map_filterMap

theorem map_name_alivePlayers (c : Contest) :
    c.alivePlayers.map (·.name) = c.namesAt c.aliveIds := by
  rw [alivePlayers_eq_filterMap, map_name_filterMap]

theorem map_name_filter_out (c : Contest) (ids : List Nat) :
    ((ids.filterMap (c.roster[·]?)).filter fun p => !c.isAlive p).map (·.name) =
      c.namesAt (ids.filter fun id => !c.isAliveAt id) := by
  induction ids with
  | nil => rfl
  | cons id ids ih =>
      unfold namesAt nameAt? isAliveAt at ih ⊢
      cases hp : c.roster[id]? with
      | none => simpa [hp] using ih
      | some p => by_cases halive : c.isAlive p = true <;> simpa [hp, halive] using ih

theorem DistinctNames.nameAt?_inj (h : c.DistinctNames) {i j : Nat} {name : String}
    (hi : c.nameAt? i = some name) (hj : c.nameAt? j = some name) : i = j := by
  rw [nameAt?_eq] at hi hj
  obtain ⟨hlt, -⟩ := List.getElem?_eq_some_iff.mp hi
  exact (List.getElem?_inj hlt h).mp (hi.trans hj.symm)

theorem DistinctNames.nodup_namesAt (h : c.DistinctNames) (hids : ids.Nodup) :
    (c.namesAt ids).Nodup := by
  refine hids.filterMap ?_
  intro i j name hi hj
  exact h.nameAt?_inj hi hj

/-- Where names are distinct, a name is among those of some places only by its own place. -/
theorem DistinctNames.mem_namesAt_iff (h : c.DistinctNames) {i : Nat} {name : String}
    (hi : c.nameAt? i = some name) : name ∈ c.namesAt ids ↔ i ∈ ids := by
  unfold namesAt
  rw [List.mem_filterMap]
  constructor
  · rintro ⟨j, hj, hname⟩
    rwa [h.nameAt?_inj hi hname]
  · intro hids
    exact ⟨i, hids, hi⟩

end Tournament.Contest
