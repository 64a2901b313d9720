import Tournament.Proofs.Credit
import Tournament.Proofs.Frame
import Mathlib.Data.List.Count

/-!
# What participants are after an event

All changes that befall a slot amount to a single update of the player in it (`undergo_changesOf`):
each field depends on the directives of one kind, and only on those that name the slot.  Items are
lost from those held before the event first, and from the new ones after that
(`append_diff`).  Every directive finds its player when its turn comes (`exists_acted_on`).
-/

namespace Tournament

/-! ## Items -/

section

variable {α : Type} [DecidableEq α]

/-- What is taken from one list with another behind it is taken from the first as long as it is
there. -/
theorem append_diff (held given taken : List α) :
    (held ++ given).diff taken = held.diff taken ++ given.diff (taken.diff held) := by
  -- the first item taken is one of those held, or else goes on to what was given
  induction taken generalizing held given with
  | nil => rw [List.diff_nil, List.diff_nil, List.nil_diff, List.diff_nil]
  | cons item taken ih =>
      rw [List.diff_cons, List.diff_cons, List.erase_append, List.cons_diff]
      split_ifs with hitem
      · rw [ih]
      · rw [ih, List.diff_cons, List.erase_of_not_mem hitem]

end

/-! ## Changes of one kind -/

namespace Player

theorem undergo_resizes (p : Player) (resizes : List Resize) :
    p.undergo (resizes.map .resize) =
      { p with height := resizes.foldl (fun height r => r.apply height) p.height } := by
  induction resizes generalizing p with
  | nil => rfl
  | cons r resizes ih => exact ih (p.resize r)

theorem undergo_deaths (p : Player) (n : Nat) :
    p.undergo (List.replicate n .death) = { p with dead := p.dead || decide (0 < n) } := by
  induction n generalizing p with
  | zero => simp
  | succ n ih =>
      rw [List.replicate_succ, p.undergo_cons, ih]
      simp [Change.act]

theorem undergo_credits (p : Player) (n credit : Nat) :
    p.undergo (List.replicate n (.credit (UInt32.ofNat credit))) =
      { p with eliminations := p.eliminations + UInt32.ofNat (n * credit) } := by
  induction n generalizing p with
  | zero => simp
  | succ n ih =>
      rw [List.replicate_succ, p.undergo_cons, ih, Nat.succ_mul, UInt32.ofNat_add,
        UInt32.add_comm (UInt32.ofNat (n * credit)), ← UInt32.add_assoc]
      rfl

theorem undergo_gifts (p : Player) (items : List String) :
    p.undergo (items.map .gift) = { p with items := p.items ++ items } := by
  induction items generalizing p with
  | nil => simp
  | cons item items ih =>
      rw [List.map_cons, p.undergo_cons, ih, List.append_cons]
      rfl

theorem undergo_losses (p : Player) (items : List String) :
    p.undergo (items.map .loss) = { p with items := p.items.diff items } := by
  induction items generalizing p with
  | nil => simp
  | cons item items ih =>
      rw [List.map_cons, p.undergo_cons, ih, List.diff_cons]
      rfl

end Player

/-! ## All changes of a slot -/

/-- What directives that name a slot each have for one slot, in order. -/
def forSlot {α : Type} (slot : Nat) (directives : List (Nat × α)) : List α :=
  (directives.filter (·.1 = slot)).map (·.2)

theorem Player.undergo_changesOf (p : Player) (e : Event) (slot : Nat) :
    p.undergo (changesOf slot e.changes) =
      { p with
        height := (forSlot slot e.resizes).foldl (fun height r => r.apply height) p.height
        dead := p.dead || decide (slot ∈ e.eliminated)
        eliminations :=
          p.eliminations + UInt32.ofNat (e.credited.count slot * e.eliminated.length)
        items := (p.items ++ forSlot slot e.gives).diff (forSlot slot e.takes) } := by
  have hmap : ∀ {α : Type} (f : α → Change) (directives : List (Nat × α)),
      (directives.filter (·.1 = slot)).map (fun d => f d.2) = (forSlot slot directives).map f := by
    intro α f directives
    rw [forSlot, List.map_map]
    rfl
  simp only [changesOf_changes, hmap, undergo_append, undergo_resizes, undergo_deaths,
    undergo_credits, undergo_gifts, undergo_losses, List.count_pos_iff]

def Length.clamped (l : Length) : Length :=
  if l.metres < 0.0 then ⟨0.0⟩ else l

structure Event.Leaves (e : Event) (slot : Nat) (p p' : Player) : Prop where
  height : p'.height =
    (forSlot slot e.resizes).foldl (fun height r => (r.target height).clamped) p.height
  dead : p'.dead = true ↔ p.dead = true ∨ slot ∈ e.eliminated
  copies : ∀ item, p'.items.count item =
    p.items.count item + e.gives.count (slot, item) - e.takes.count (slot, item)
  order : ∃ held given, p'.items = held ++ given ∧
    held.Sublist p.items ∧ given.Sublist (forSlot slot e.gives)
  credit : p'.eliminations =
    p.eliminations + UInt32.ofNat (e.credited.count slot * e.eliminated.length)
  identity : p'.identity = p.identity

theorem count_forSlot {α : Type} [DecidableEq α] (slot : Nat) (directives : List (Nat × α))
    (a : α) : (forSlot slot directives).count a = directives.count (slot, a) := by
  rw [forSlot, List.count, List.count, List.countP_map, List.countP_filter]
  refine List.countP_congr ?_
  intro d _
  simp [Prod.ext_iff, and_comm]

theorem Player.leaves_undergo (p : Player) (e : Event) (slot : Nat) :
    e.Leaves slot p (p.undergo (changesOf slot e.changes)) := by
  rw [p.undergo_changesOf]
  refine ⟨rfl, ?_, ?_, ?_, rfl, rfl⟩
  · simp
  · intro item
    rw [List.count_diff, List.count_append, count_forSlot, count_forSlot]
  · exact ⟨_, _, append_diff _ _ _, List.diff_sublist _ _, List.diff_sublist _ _⟩

namespace Contest

variable {c : Contest} {e : Event} {ids : List Nat} {text metadata : String}

/-- Every directive of an accepted event finds its player when its turn comes, and acts on it. -/
theorem exists_acted_on (h : Event.parse text metadata = .ok e) (hids : ids.Nodup)
    (hlength : ids.length = e.tributes) (hroster : ∀ i ∈ ids, i < c.roster.length)
    {before after : List (Nat × Change)} {x : Nat × Change}
    (hx : e.changes = before ++ x :: after) :
    ∃ i p, filler? ids x.1 = some i ∧ (c.applyChanges ids before).roster[i]? = some p ∧
      (c.applyChanges ids (before ++ [x])).roster[i]? = some (x.2.act p) := by
  obtain ⟨k, i, hk, hi⟩ := Event.exists_participant h hlength (x := x) (by simp [hx])
  have hlt : i < c.roster.length := hroster i (List.mem_of_getElem? hi)
  have hp : (c.applyChanges ids before).roster[i]? =
      some (c.roster[i].undergo (changesOf (k + 1) before)) := by
    rw [getElem?_applyChanges hids hi, List.getElem?_eq_getElem]
    rfl
  have hstep : c.applyChanges ids (before ++ [x]) =
      (c.applyChanges ids before).modifySlot ids x.1 x.2.act := by
    rw [applyChanges, List.foldl_append]
    rfl
  refine ⟨i, _, (filler?_eq_some_iff hids hi).mpr hk, hp, ?_⟩
  rw [hstep, getElem?_modifySlot hids hi, if_pos hk, hp]
  rfl

/-- What an accepted event does, with as many distinct participants as it has tributes.  The player
in a slot has the height with the changes for the slot, is dead if it was or the slot is eliminated,
and of every item has as many as before and given less those taken, the old ones first.  Nobody else
changes, and every directive finds its player. -/
theorem effects_of_event (h : Event.parse text metadata = .ok e) (hids : ids.Nodup)
    (hlength : ids.length = e.tributes) (hroster : ∀ i ∈ ids, i < c.roster.length) :
    (∀ k i p, ids[k]? = some i → c.roster[i]? = some p →
      ∃ p', (c.applyEffects e ids).roster[i]? = some p' ∧ e.Leaves (k + 1) p p') ∧
    (∀ i, i ∉ ids → (c.applyEffects e ids).roster[i]? = c.roster[i]?) ∧
    c.applyEffects e ids = c.applyChanges ids e.changes ∧
    (∀ before x after, e.changes = before ++ x :: after →
      ∃ i p, filler? ids x.1 = some i ∧ (c.applyChanges ids before).roster[i]? = some p ∧
        (c.applyChanges ids (before ++ [x])).roster[i]? = some (x.2.act p)) := by
  refine ⟨?_, (actsOn_applyEffects c e ids).untouched, applyEffects_eq c e ids, ?_⟩
  · intro k i p hk hp
    refine ⟨_, ?_, p.leaves_undergo e (k + 1)⟩
    rw [getElem?_applyEffects hids hk, hp]
    rfl
  · intro before x after hx
    exact exists_acted_on h hids hlength hroster hx

/-- One of two players grows, strikes the other down, and keeps one of the three items received. -/
theorem effects_of_plunder :
    ∃ reading e p p', Spec.parse duelSpec = .ok reading ∧
      Event.parse "%1% robs %2%."
        ("tributes:2, size:1:+1m, size:1:x2, elim:2 2, perp:1, give:1:rope, give:1:torch, " ++
          "give:1:rope, remove:1:rope, remove:2:map, remove:1:rope, remove:1:rope") = .ok e ∧
      reading.contest.roster[1]? = some p ∧
      (reading.contest.applyEffects e [1, 0]).roster[1]? = some p' ∧
      e.Leaves 1 p p' ∧ p'.items = ["torch"] ∧ p'.height = ⟨4.0⟩ := by
  obtain ⟨reading, hspec, hreading⟩ :=
    Spec.exists_of_parse duelSpec
      (P := fun reading => (Event.parse "%1% robs %2%."
          ("tributes:2, size:1:+1m, size:1:x2, elim:2 2, perp:1, give:1:rope, give:1:torch, " ++
            "give:1:rope, remove:1:rope, remove:2:map, remove:1:rope, remove:1:rope")).toOption.any
        fun e => e.tributes = 2 ∧ reading.contest.roster.length = 2 ∧
          ((reading.contest.applyEffects e [1, 0]).roster.map fun p => (p.items, p.height)) =
            [([], ⟨1.0⟩), (["torch"], ⟨4.0⟩)])
      (by decide +kernel)
  obtain ⟨e, hevent, hvalues⟩ := exists_of_any hreading
  obtain ⟨htributes, hlength, hafter⟩ := of_decide_eq_true hvalues
  have hp := List.getElem?_eq_getElem (l := reading.contest.roster) (i := 1) (by omega)
  have hids : ([1, 0] : List Nat).Nodup := by decide
  obtain ⟨p', hp', hleaves⟩ :=
    (effects_of_event (c := reading.contest) hevent hids (by rw [htributes]; rfl)
      (by simp [hlength])).1 0 1 _ rfl hp
  have hlast : (p'.items, p'.height) = (["torch"], (⟨4.0⟩ : Length)) := by
    have hone := congrArg (·[1]?) hafter
    rw [List.getElem?_map, hp'] at hone
    exact Option.some.inj hone
  obtain ⟨hitems, hheight⟩ := Prod.mk.inj hlast
  exact ⟨reading, e, _, p', hspec, hevent, hp, hp', hleaves, hitems, hheight⟩

end Contest
end Tournament
