import Tournament.Proofs.Acceptance
import Tournament.Proofs.Changes

/-!
# What an event does to each participant

With distinct participants the changes of an event fall apart by slots: the participant in a slot
undergoes the changes of this slot, in order, and nothing else (`getElem?_applyEffects`).  Which
changes these are is read off the directives (`changesOf_changes`).  The slots of an accepted event
are those of its participants, so that no change misses its player (`Event.exists_participant`).
-/

namespace Tournament

def changesOf (slot : Nat) (changes : List (Nat × Change)) : List Change :=
  (changes.filter (·.1 = slot)).map (·.2)

def Player.undergo (p : Player) (changes : List Change) : Player :=
  changes.foldl (fun p x => x.act p) p

@[simp]
theorem Player.undergo_nil (p : Player) : p.undergo [] = p := rfl

theorem Player.undergo_cons (p : Player) (x : Change) (changes : List Change) :
    p.undergo (x :: changes) = (x.act p).undergo changes := rfl

theorem Player.undergo_append (p : Player) (xs ys : List Change) :
    p.undergo (xs ++ ys) = (p.undergo xs).undergo ys :=
  List.foldl_append

section

variable {slot : Nat}

theorem changesOf_cons (slot : Nat) (x : Nat × Change) (xs : List (Nat × Change)) :
    changesOf slot (x :: xs) =
      if x.1 = slot then x.2 :: changesOf slot xs else changesOf slot xs := by
  unfold changesOf
  rw [List.filter_cons]
  simp only [decide_eq_true_eq]
  split_ifs <;> rfl

theorem changesOf_append (slot : Nat) (xs ys : List (Nat × Change)) :
    changesOf slot (xs ++ ys) = changesOf slot xs ++ changesOf slot ys := by
  rw [changesOf, List.filter_append, List.map_append]
  rfl

theorem changesOf_map {α : Type} (f : α → Change) (directives : List (Nat × α)) (slot : Nat) :
    changesOf slot (directives.map fun d => (d.1, f d.2)) =
      (directives.filter (·.1 = slot)).map fun d => f d.2 := by
  rw [changesOf, List.filter_map, List.map_map]
  rfl

theorem changesOf_map_const (x : Change) (slots : List Nat) (slot : Nat) :
    changesOf slot (slots.map fun s => (s, x)) = List.replicate (slots.count slot) x := by
  have hslots : slots.filter (· = slot) = List.replicate (slots.count slot) slot :=
    List.filter_eq slot
  rw [changesOf, List.filter_map, List.map_map]
  simp only [Function.comp_def, hslots, List.map_replicate]

theorem changesOf_changes (e : Event) (slot : Nat) :
    changesOf slot e.changes =
      (e.resizes.filter (·.1 = slot)).map (fun r => .resize r.2) ++
        List.replicate (e.eliminated.count slot) .death ++
        List.replicate (e.credited.count slot) (.credit (UInt32.ofNat e.eliminated.length)) ++
        (e.gives.filter (·.1 = slot)).map (fun g => .gift g.2) ++
        (e.takes.filter (·.1 = slot)).map (fun t => .loss t.2) := by
  simp only [Event.changes, changesOf_append, changesOf_map_const, changesOf_map]

end

namespace Contest

variable {c : Contest} {ids : List Nat} {k i : Nat}

theorem filler?_eq_some_iff (hids : ids.Nodup) (hk : ids[k]? = some i) {slot : Nat} :
    filler? ids slot = some i ↔ slot = k + 1 := by
  cases slot with
  | zero => simp [filler?]
  | succ l =>
      rw [filler?, Nat.add_right_cancel_iff]
      constructor
      · intro hl
        obtain ⟨hlt, rfl⟩ := List.getElem?_eq_some_iff.mp hl
        obtain ⟨hlt', hsame⟩ := List.getElem?_eq_some_iff.mp hk
        exact ((List.Nodup.getElem_inj_iff hids).mp hsame).symm
      · rintro rfl
        exact hk

theorem getElem?_modifySlot (hids : ids.Nodup) (hk : ids[k]? = some i) (slot : Nat)
    (f : Player → Player) :
    (c.modifySlot ids slot f).roster[i]? =
      if slot = k + 1 then c.roster[i]?.map f else c.roster[i]? := by
  rw [modifySlot_eq]
  dsimp only
  cases hfiller : filler? ids slot with
  | none =>
      have hne : slot ≠ k + 1 := by
        rintro rfl
        rw [(filler?_eq_some_iff hids hk).mpr rfl] at hfiller
        cases hfiller
      rw [if_neg hne]
      rfl
  | some j =>
      have hsame : j = i ↔ slot = k + 1 := by
        rw [← filler?_eq_some_iff hids hk, hfiller, Option.some.injEq]
      rw [Option.map_some, Option.getD_some, List.getElem?_modify]
      by_cases hslot : slot = k + 1
      · rw [if_pos hslot]
        simp only [hsame.mpr hslot, if_true]
        rfl
      · rw [if_neg hslot]
        simp only [mt hsame.mp hslot, if_false]
        exact Option.map_id'

theorem getElem?_applyChanges (hids : ids.Nodup) (hk : ids[k]? = some i)
    (changes : List (Nat × Change)) :
    (c.applyChanges ids changes).roster[i]? =
      c.roster[i]?.map (·.undergo (changesOf (k + 1) changes)) := by
  induction changes generalizing c with
  | nil => exact Option.map_id'.symm
  | cons x changes ih =>
      have hstep : c.applyChanges ids (x :: changes) =
          (c.modifySlot ids x.1 x.2.act).applyChanges ids changes := rfl
      rw [hstep, ih, getElem?_modifySlot hids hk, changesOf_cons]
      split_ifs
      · rw [Option.map_map]
        rfl
      · rfl

theorem getElem?_applyEffects (hids : ids.Nodup) (hk : ids[k]? = some i) (e : Event) :
    (c.applyEffects e ids).roster[i]? =
      c.roster[i]?.map (·.undergo (changesOf (k + 1) e.changes)) := by
  rw [applyEffects_eq, getElem?_applyChanges hids hk]

end Contest

/-! ## No change misses its player -/

namespace Event

theorem RefersWithin.bounds {n slot : Nat} {word : String} (h : RefersWithin n word)
    (hslot : IsSlot word slot) : 1 ≤ slot ∧ slot ≤ n := by
  obtain ⟨slot', hslot', hle⟩ := h
  obtain rfl := hslot'.unique hslot
  exact ⟨hslot.2.1, hle⟩

variable {text metadata : String} {e : Event}

theorem bounds_of_mem_changes (h : parse text metadata = .ok e) :
    ∀ x ∈ e.changes, 1 ≤ x.1 ∧ x.1 ≤ e.tributes := by
  obtain ⟨hwell, hread⟩ := isReadFrom_of_parse h
  have hwords : ∀ {words slots}, (∀ w ∈ words, RefersWithin e.tributes w) →
      List.Forall₂ IsSlot words slots → ∀ slot ∈ slots, 1 ≤ slot ∧ slot ≤ e.tributes :=
    fun hwithin hslots => forall_mem_right hslots fun w hw _ hslot => (hwithin w hw).bounds hslot
  simp only [changes, List.forall_mem_append, List.forall_mem_map]
  refine ⟨⟨⟨⟨?_, hwords hwell.elim hread.eliminated⟩, hwords hwell.perp hread.credited⟩, ?_⟩, ?_⟩
  · refine forall_mem_right hread.resizes ?_
    rintro v hv r ⟨x, hx, hslot, -⟩
    obtain ⟨word, size, resize, hpair, hwithin, -⟩ := hwell.size v hv
    obtain rfl := Except.ok.inj (hx.symm.trans hpair)
    exact hwithin.bounds hslot
  · refine forall_mem_right hread.gives ?_
    rintro v hv g ⟨x, hx, hslot, -⟩
    obtain ⟨word, item, hpair, hwithin⟩ := hwell.give v hv
    obtain rfl := Except.ok.inj (hx.symm.trans hpair)
    exact hwithin.bounds hslot
  · refine forall_mem_right hread.takes ?_
    rintro v hv g ⟨x, hx, hslot, -⟩
    obtain ⟨word, item, hpair, hwithin⟩ := hwell.remove v hv
    obtain rfl := Except.ok.inj (hx.symm.trans hpair)
    exact hwithin.bounds hslot

theorem exists_participant (h : parse text metadata = .ok e) {ids : List Nat}
    (hlength : ids.length = e.tributes) {x : Nat × Change} (hx : x ∈ e.changes) :
    ∃ k i, x.1 = k + 1 ∧ ids[k]? = some i := by
  obtain ⟨hpos, hle⟩ := bounds_of_mem_changes h x hx
  obtain ⟨k, hk⟩ := Nat.exists_eq_add_of_le' hpos
  exact ⟨k, _, hk, List.getElem?_eq_getElem (by omega)⟩

end Event

end Tournament
