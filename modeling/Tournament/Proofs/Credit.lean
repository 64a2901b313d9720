import Tournament.Proofs.Draft
import Tournament.Proofs.Participants
import Mathlib.Algebra.GroupWithZero.Nat
import Mathlib.Data.List.Dedup

/-!
# Credit for eliminations

A participant is credited once for every entry of the list of credited slots, each time with the
length of the list of eliminated slots (`eliminations_applyEffects`).  This is one elimination for
every player whom the event eliminates as long as neither list repeats a slot, and otherwise only
where one of the lists is empty (`credit_of_event`).
-/

namespace Tournament

theorem toNat_add_ofNat (a : UInt32) (n : Nat) :
    (a + UInt32.ofNat n).toNat = (a.toNat + n) % UInt32.size := by
  rw [UInt32.toNat_add, UInt32.toNat_ofNat', Nat.add_mod_mod]

def Change.credits : Change → Nat
  | .credit n => n.toNat
  | _ => 0

theorem Change.eliminations_act (x : Change) (p : Player) :
    (x.act p).eliminations = p.eliminations + UInt32.ofNat x.credits := by
  cases x with
  | credit n => rw [credits, UInt32.ofNat_toNat]; rfl
  | _ => exact (UInt32.add_zero _).symm

theorem Player.eliminations_undergo (p : Player) (changes : List Change) :
    (p.undergo changes).eliminations =
      p.eliminations + UInt32.ofNat (changes.map Change.credits).sum := by
  induction changes generalizing p with
  | nil => exact (UInt32.add_zero _).symm
  | cons x changes ih =>
      rw [p.undergo_cons, ih, x.eliminations_act, List.map_cons, List.sum_cons, UInt32.ofNat_add,
        UInt32.add_assoc]

theorem sum_credits (e : Event) (slot : Nat) :
    ((changesOf slot e.changes).map Change.credits).sum =
      e.credited.count slot * (UInt32.ofNat e.eliminated.length).toNat := by
  simp [changesOf_changes, Function.comp_def, Change.credits]

namespace Contest

variable {c : Contest} {e : Event} {ids : List Nat} {i : Nat} {p : Player}

theorem eliminations_applyEffects (hids : ids.Nodup) {k : Nat} (hk : ids[k]? = some i)
    (hp : c.roster[i]? = some p) :
    ∃ p', (c.applyEffects e ids).roster[i]? = some p' ∧ p'.eliminations =
      p.eliminations + UInt32.ofNat (e.credited.count (k + 1) * e.eliminated.length) := by
  refine ⟨p.undergo (changesOf (k + 1) e.changes), ?_, ?_⟩
  · rw [getElem?_applyEffects hids hk, hp]
    rfl
  · rw [p.eliminations_undergo, sum_credits, UInt32.ofNat_mul, UInt32.ofNat_toNat,
      ← UInt32.ofNat_mul]

theorem hasRoom_iff {c : Contest} {ids : List Nat} {credit : UInt32} {slot : Nat} :
    c.hasRoom ids credit slot = true ↔ ∀ i p, filler? ids slot = some i → c.roster[i]? = some p →
      p.eliminations.toNat + credit.toNat < UInt32.size := by
  simp only [hasRoom, Option.all_eq_true, Option.bind_eq_some_iff, decide_eq_true_eq]
  exact ⟨fun h i p hi hp => h p ⟨i, hi, hp⟩, fun h p ⟨i, hi, hp⟩ => h i p hi hp⟩

theorem room_cons_iff {credit : UInt32} {slot k : Nat} {rest : List Nat} {p : Player} :
    p.eliminations.toNat + (slot :: rest).count (k + 1) * credit.toNat < UInt32.size ↔
      (slot = k + 1 → p.eliminations.toNat + credit.toNat < UInt32.size) ∧
        (if slot = k + 1 then (Change.credit credit).act p else p).eliminations.toNat +
          rest.count (k + 1) * credit.toNat < UInt32.size := by
  by_cases hslot : slot = k + 1
  · rw [hslot, List.count_cons_self, Nat.succ_mul, if_pos rfl, Change.act, UInt32.toNat_add]
    constructor
    · intro h
      have hnow : p.eliminations.toNat + credit.toNat < UInt32.size := by omega
      rw [Nat.mod_eq_of_lt hnow]
      exact ⟨fun _ => hnow, by omega⟩
    · rintro ⟨hnow, hrest⟩
      rw [Nat.mod_eq_of_lt (hnow rfl)] at hrest
      omega
  · simp [hslot]

/-- With distinct participants there is room for the credit if each of their counts has room for as
much of it as there are entries for the slot. -/
theorem holdsCredit_iff (hids : ids.Nodup) {credit : UInt32} {slots : List Nat} :
    holdsCredit ids credit c slots = true ↔
      ∀ k i p, ids[k]? = some i → c.roster[i]? = some p →
        p.eliminations.toNat + slots.count (k + 1) * credit.toNat < UInt32.size := by
  induction slots generalizing c with
  | nil =>
      simp only [holdsCredit, List.count_nil, Nat.zero_mul, Nat.add_zero, true_iff]
      exact fun _ _ p _ _ => p.eliminations.toNat_lt
  | cons slot rest ih =>
      rw [holdsCredit_cons, Bool.and_eq_true, hasRoom_iff, ih]
      simp only [room_cons_iff]
      have hafter (k i : Nat) (p : Player) (hk : ids[k]? = some i) (hp : c.roster[i]? = some p) :
          (c.modifySlot ids slot (Change.credit credit).act).roster[i]? =
            some (if slot = k + 1 then (Change.credit credit).act p else p) := by
        rw [getElem?_modifySlot hids hk, hp]
        split <;> rfl
      constructor
      · rintro ⟨hroom, hrest⟩ k i p hk hp
        exact ⟨fun hslot => hroom i p ((filler?_eq_some_iff hids hk).mpr hslot) hp,
          hrest k i _ hk (hafter k i p hk hp)⟩
      · intro h
        refine ⟨?_, ?_⟩
        · intro i p hfiller hp
          obtain ⟨k, hk, rfl⟩ : ∃ k, ids[k]? = some i ∧ slot = k + 1 := by
            cases slot with
            | zero => cases hfiller
            | succ k => exact ⟨k, hfiller, rfl⟩
          exact (h k i p hk hp).1 rfl
        · intro k i q hk hq
          obtain ⟨p, hp⟩ : ∃ p, c.roster[i]? = some p := by
            rw [getElem?_modifySlot hids hk] at hq
            cases hp : c.roster[i]? with
            | none => simp [hp] at hq
            | some p => exact ⟨p, rfl⟩
          obtain rfl := Option.some.inj ((hafter k i p hk hp).symm.trans hq)
          exact (h k i p hk hp).2

/-- With distinct participants the effects of an event fit if the count of each participant has room
for what the slot is credited with. -/
theorem holdsEffects_iff (hids : ids.Nodup) :
    c.holdsEffects e ids = true ↔
      ∀ k i p, ids[k]? = some i → c.roster[i]? = some p → p.eliminations.toNat +
        e.credited.count (k + 1) * (UInt32.ofNat e.eliminated.length).toNat < UInt32.size := by
  have hcount (p : Player) (slot : Nat) : (p.undergo (changesOf slot
      (e.resizes.map (fun r => (r.1, .resize r.2)) ++
        e.eliminated.map fun s => (s, .death)))).eliminations = p.eliminations := by
    rw [p.eliminations_undergo, changesOf_append, changesOf_map, changesOf_map_const]
    simp [Function.comp_def, Change.credits]
  rw [holdsEffects_eq, holdsCredit_iff hids]
  constructor
  · intro h k i p hk hp
    have hroom := h k i _ hk (by rw [getElem?_applyChanges hids hk, hp]; rfl)
    rwa [hcount] at hroom
  · intro h k i q hk hq
    rw [getElem?_applyChanges hids hk] at hq
    obtain ⟨p, hp, rfl⟩ := Option.map_eq_some_iff.mp hq
    rw [hcount]
    exact h k i p hk hp

/-- Every participant who is credited has one elimination more for each of the slots that the event
eliminates, and nobody else has any more. -/
def CreditIsKills (c : Contest) (e : Event) (ids : List Nat) : Prop :=
  ∀ i p p', c.roster[i]? = some p → (c.applyEffects e ids).roster[i]? = some p' →
    ((∃ k, ids[k]? = some i ∧ k + 1 ∈ e.credited) →
      p'.eliminations.toNat = p.eliminations.toNat + e.eliminated.dedup.length) ∧
    ((¬ ∃ k, ids[k]? = some i ∧ k + 1 ∈ e.credited) → p'.eliminations = p.eliminations)

end Contest

/-! ## Counting with and without repetitions -/

section

variable {α : Type} [DecidableEq α] {l m : List α}

theorem length_dedup_eq_iff : m.dedup.length = m.length ↔ m.Nodup := by
  constructor
  · intro h
    rw [← (List.dedup_sublist m).eq_of_length h]
    exact List.nodup_dedup m
  · intro h
    rw [h.dedup]

theorem count_mul_length_iff :
    (∀ a ∈ l, l.count a * m.length = m.dedup.length) ↔ l = [] ∨ m = [] ∨ l.Nodup ∧ m.Nodup := by
  constructor
  · intro h
    by_cases hl : l = []
    · exact .inl hl
    by_cases hm : m = []
    · exact .inr (.inl hm)
    have hdedup : 0 < m.dedup.length := by
      rw [List.length_pos_iff, ne_eq, List.dedup_eq_nil]
      exact hm
    have hle : m.dedup.length ≤ m.length := (List.dedup_sublist m).length_le
    have honce : ∀ a ∈ l, l.count a = 1 := by
      intro a ha
      have hpos : 0 < l.count a := List.count_pos_iff.mpr ha
      have hmul : l.count a * m.length ≤ 1 * m.length := by
        rw [h a ha, one_mul]
        exact hle
      have hle_one := Nat.le_of_mul_le_mul_right hmul (hdedup.trans_le hle)
      omega
    obtain ⟨a, ha⟩ := List.exists_mem_of_ne_nil l hl
    have heq := h a ha
    rw [honce a ha, one_mul] at heq
    refine .inr (.inr ⟨?_, length_dedup_eq_iff.mp heq.symm⟩)
    rw [List.nodup_iff_count_le_one]
    intro b
    by_cases hb : b ∈ l
    · exact (honce b hb).le
    · rw [List.count_eq_zero_of_not_mem hb]
      exact zero_le_one
  · rintro (rfl | rfl | ⟨hl, hm⟩) a ha
    · cases ha
    · rfl
    · rw [List.count_eq_one_of_mem hl ha, one_mul, length_dedup_eq_iff.mpr hm]

end

/-! ## Credit and kills -/

namespace Contest

variable {c : Contest} {e : Event} {ids : List Nat} {i : Nat} {p : Player} {text metadata : String}

theorem toNat_eliminations_applyEffects (hids : ids.Nodup) {k : Nat} (hk : ids[k]? = some i)
    (hp : c.roster[i]? = some p)
    (hroom : p.eliminations.toNat + e.credited.length * e.eliminated.length < UInt32.size) :
    ∃ p', (c.applyEffects e ids).roster[i]? = some p' ∧ p'.eliminations.toNat =
      p.eliminations.toNat + e.credited.count (k + 1) * e.eliminated.length := by
  obtain ⟨p', hp', heliminations⟩ := eliminations_applyEffects (e := e) hids hk hp
  refine ⟨p', hp', ?_⟩
  have hcount : e.credited.count (k + 1) * e.eliminated.length ≤
      e.credited.length * e.eliminated.length := Nat.mul_le_mul_right _ List.count_le_length
  rw [heliminations, toNat_add_ofNat]
  exact Nat.mod_eq_of_lt (by omega)

theorem exists_credited (h : Event.parse text metadata = .ok e) (hlength : ids.length = e.tributes)
    (hroster : ∀ i ∈ ids, i < c.roster.length) :
    ∀ slot ∈ e.credited, ∃ k i p, slot = k + 1 ∧ ids[k]? = some i ∧ c.roster[i]? = some p := by
  intro slot hslot
  have hmem : (slot, .credit (UInt32.ofNat e.eliminated.length)) ∈ e.changes := by
    simp [Event.changes, hslot]
  obtain ⟨k, i, hk, hi⟩ := Event.exists_participant h hlength hmem
  have hlt : i < c.roster.length := hroster i (List.mem_of_getElem? hi)
  exact ⟨k, i, _, hk, hi, List.getElem?_eq_getElem hlt⟩

theorem creditIsKills_iff (h : Event.parse text metadata = .ok e) (hids : ids.Nodup)
    (hlength : ids.length = e.tributes) (hroster : ∀ i ∈ ids, i < c.roster.length)
    (hroom : ∀ p ∈ c.roster,
      p.eliminations.toNat + e.credited.length * e.eliminated.length < UInt32.size) :
    CreditIsKills c e ids ↔
      ∀ slot ∈ e.credited,
        e.credited.count slot * e.eliminated.length = e.eliminated.dedup.length := by
  constructor
  · intro hlaw slot hslot
    obtain ⟨k, i, p, rfl, hk, hp⟩ := exists_credited h hlength hroster slot hslot
    obtain ⟨p', hp', hcount⟩ :=
      toNat_eliminations_applyEffects hids hk hp (hroom p (List.mem_of_getElem? hp))
    have hcredited := (hlaw i p p' hp hp').1 ⟨k, hk, hslot⟩
    omega
  · intro hcounts i p p' hp hp'
    constructor
    · rintro ⟨k, hk, hslot⟩
      obtain ⟨p'', hp'', hcount⟩ :=
        toNat_eliminations_applyEffects hids hk hp (hroom p (List.mem_of_getElem? hp))
      obtain rfl := Option.some.inj (hp''.symm.trans hp')
      rw [hcount, hcounts _ hslot]
    · intro hnone
      by_cases hi : i ∈ ids
      · obtain ⟨k, hk⟩ := List.mem_iff_getElem?.mp hi
        obtain ⟨p'', hp'', hsame⟩ := eliminations_applyEffects (e := e) hids hk hp
        obtain rfl := Option.some.inj (hp''.symm.trans hp')
        have hcount : e.credited.count (k + 1) = 0 :=
          List.count_eq_zero_of_not_mem fun hslot => hnone ⟨k, hk, hslot⟩
        rw [hsame, hcount, Nat.zero_mul]
        exact UInt32.add_zero _
      · rw [(actsOn_applyEffects c e ids).untouched i hi, hp] at hp'
        rw [Option.some.inj hp']

/-- A participant of an accepted event is credited with the length of one list for every entry of
the other, and the players who do not take part keep what they have.  This is one elimination for
each eliminated slot just where no slot is repeated, unless a list is empty. -/
theorem credit_of_event (h : Event.parse text metadata = .ok e) (hids : ids.Nodup)
    (hlength : ids.length = e.tributes) (hroster : ∀ i ∈ ids, i < c.roster.length) :
    (∀ k i p, ids[k]? = some i → c.roster[i]? = some p →
      ∃ p', (c.applyEffects e ids).roster[i]? = some p' ∧ p'.eliminations =
        p.eliminations + UInt32.ofNat (e.credited.count (k + 1) * e.eliminated.length)) ∧
    (∀ i, i ∉ ids → (c.applyEffects e ids).roster[i]? = c.roster[i]?) ∧
    (∀ slot ∈ e.credited, ∃ k i p, slot = k + 1 ∧ ids[k]? = some i ∧ c.roster[i]? = some p) ∧
    ((∀ p ∈ c.roster,
        p.eliminations.toNat + e.credited.length * e.eliminated.length < UInt32.size) →
      (CreditIsKills c e ids ↔
        e.credited = [] ∨ e.eliminated = [] ∨ e.credited.Nodup ∧ e.eliminated.Nodup)) := by
  refine ⟨?_, (actsOn_applyEffects c e ids).untouched, exists_credited h hlength hroster, ?_⟩
  · intro k i p hk hp
    exact eliminations_applyEffects hids hk hp
  · intro hroom
    rw [creditIsKills_iff h hids hlength hroster hroom, count_mul_length_iff]

def duelSpec : String :=
  "[players]\n\"Ann\"\ngender:F, height:1m\n\"Bo\"\ngender:M, height:1m\n"

/-- One of the two strikes the other down, and has one elimination more. -/
theorem credit_of_duel :
    ∃ reading e p', Spec.parse duelSpec = .ok reading ∧
      Event.parse "%1% strikes %2% down." "tributes:2, elim:2, perp:1" = .ok e ∧
      (reading.contest.applyEffects e [1, 0]).roster[1]? = some p' ∧ p'.eliminations = 1 ∧
      CreditIsKills reading.contest e [1, 0] := by
  obtain ⟨reading, hspec, hreading⟩ :=
    Spec.exists_of_parse duelSpec
      (P := fun reading => (Event.parse "%1% strikes %2% down."
          "tributes:2, elim:2, perp:1").toOption.any fun e =>
        e.tributes = 2 ∧ e.eliminated = [2] ∧ e.credited = [1] ∧
          reading.contest.roster.map (·.eliminations) = [0, 0])
      (by decide +kernel)
  obtain ⟨e, hevent, hvalues⟩ := exists_of_any hreading
  obtain ⟨htributes, heliminated, hcredited, hroster⟩ := of_decide_eq_true hvalues
  have hlength : reading.contest.roster.length = 2 := by
    simpa using congrArg List.length hroster
  have hfresh : ∀ p ∈ reading.contest.roster, p.eliminations = 0 := by
    intro p hp
    have hmem : p.eliminations ∈ reading.contest.roster.map (·.eliminations) :=
      List.mem_map_of_mem hp
    simpa [hroster] using hmem
  obtain ⟨hcount, -, -, hlaw⟩ := @credit_of_event reading.contest e [1, 0] _ _ hevent
    (by decide) (by rw [htributes]; rfl) (by simp [hlength])
  have hkills : CreditIsKills reading.contest e [1, 0] := by
    refine (hlaw ?_).mpr (.inr (.inr ?_))
    · intro p hp
      rw [hfresh p hp, heliminated, hcredited]
      decide
    · rw [heliminated, hcredited]
      decide
  have hp := List.getElem?_eq_getElem (l := reading.contest.roster) (i := 1) (by omega)
  obtain ⟨p', hp', hadded⟩ := hcount 0 1 _ rfl hp
  refine ⟨reading, e, p', hspec, hevent, hp', ?_, hkills⟩
  rw [hadded, hfresh _ (List.getElem_mem _), heliminated, hcredited]
  rfl

/-- Whoever strikes the other down twice is credited twice. -/
theorem credit_of_repeated_slot :
    ∃ reading e, Spec.parse duelSpec = .ok reading ∧
      Event.parse "%1% strikes %2% down twice." "tributes:2, elim:2 2, perp:1" = .ok e ∧
      ((reading.contest.applyEffects e [1, 0]).roster.map fun p => (p.eliminations, p.dead)) =
        [(0, true), (2, false)] ∧
      ¬ CreditIsKills reading.contest e [1, 0] := by
  obtain ⟨reading, hspec, hreading⟩ :=
    Spec.exists_of_parse duelSpec
      (P := fun reading => (Event.parse "%1% strikes %2% down twice."
          "tributes:2, elim:2 2, perp:1").toOption.any fun e =>
        e.credited = [1] ∧ e.eliminated.dedup.length = 1 ∧
          reading.contest.roster.map (·.eliminations) = [0, 0] ∧
          ((reading.contest.applyEffects e [1, 0]).roster.map fun p => (p.eliminations, p.dead)) =
            [(0, true), (2, false)])
      (by decide +kernel)
  obtain ⟨e, hevent, hvalues⟩ := exists_of_any hreading
  obtain ⟨hcredited, hdistinct, hbefore, hafter⟩ := of_decide_eq_true hvalues
  refine ⟨reading, e, hspec, hevent, hafter, ?_⟩
  intro hlaw
  obtain ⟨p, hp, hnone⟩ : ∃ p, reading.contest.roster[1]? = some p ∧ p.eliminations = 0 := by
    rw [← Option.map_eq_some_iff, ← List.getElem?_map, hbefore]
    rfl
  obtain ⟨p', hp', htwo⟩ : ∃ p', (reading.contest.applyEffects e [1, 0]).roster[1]? = some p' ∧
      (p'.eliminations, p'.dead) = (2, false) := by
    rw [← Option.map_eq_some_iff, ← List.getElem?_map, hafter]
    rfl
  have hadded := (hlaw 1 p p' hp hp').1 ⟨0, rfl, by rw [hcredited]; exact List.mem_singleton_self 1⟩
  rw [hdistinct, hnone, (Prod.mk.inj htwo).1] at hadded
  exact absurd hadded (by decide)

end Contest
end Tournament
