import Tournament.Proofs.Roster
import Mathlib.Data.List.Forall2

/-!
# The effects of an event as changes of players

Whatever an event does, it does to one player after the other: its effects are a list of changes,
each of the player in a slot (`applyEffects_eq`).  What single changes preserve is preserved by every
event, for one contest as it is played (`forall₂_applyEffects_right`) and for two contests side by
side (`forall₂_applyEffects`).
-/

namespace Tournament

inductive Change where
  | resize (r : Resize)
  | death
  | credit (n : UInt32)
  | gift (item : String)
  | loss (item : String)

def Change.act : Change → Player → Player
  | .resize r, p => p.resize r
  | .death, p => { p with dead := true }
  | .credit n, p => { p with eliminations := p.eliminations + n }
  | .gift item, p => p.give item
  | .loss item, p => p.take item

/-- The changes that an event makes, in order, each with its slot. -/
def Event.changes (e : Event) : List (Nat × Change) :=
  e.resizes.map (fun r => (r.1, .resize r.2)) ++
    e.eliminated.map (fun slot => (slot, .death)) ++
    e.credited.map (fun slot => (slot, .credit (UInt32.ofNat e.eliminated.length))) ++
    e.gives.map (fun g => (g.1, .gift g.2)) ++
    e.takes.map (fun t => (t.1, .loss t.2))

namespace Contest

variable {c d : Contest} {ids : List Nat}

def applyChanges (ids : List Nat) (changes : List (Nat × Change)) (c : Contest) : Contest :=
  changes.foldl (fun c x => c.modifySlot ids x.1 x.2.act) c

theorem applyEffects_eq (c : Contest) (e : Event) (ids : List Nat) :
    c.applyEffects e ids = c.applyChanges ids e.changes := by
  unfold applyChanges Event.changes
  simp only [List.foldl_append, List.foldl_map]
  rfl

theorem modifySlot_eq (c : Contest) (ids : List Nat) (slot : Nat) (f : Player → Player) :
    c.modifySlot ids slot f =
      { c with roster := ((filler? ids slot).map fun id => c.roster.modify id f).getD c.roster } := by
  unfold modifySlot
  cases filler? ids slot <;> rfl

/-! ## What changes preserve -/

theorem forall₂_modify {α β : Type} {R : α → β → Prop} {f : α → α} {g : β → β}
    (hfg : ∀ a b, R a b → R (f a) (g b)) {as : List α} {bs : List β} (h : List.Forall₂ R as bs)
    (i : Nat) : List.Forall₂ R (as.modify i f) (bs.modify i g) := by
  induction h generalizing i with
  | nil => simp
  | @cons a b as bs hab hrest ih =>
      cases i with
      | zero =>
          rw [List.modify_zero_cons, List.modify_zero_cons]
          exact .cons (hfg a b hab) hrest
      | succ i =>
          rw [List.modify_succ_cons, List.modify_succ_cons]
          exact .cons hab (ih i)

variable {R : Player → Player → Prop}

theorem forall₂_modifySlot {f g : Player → Player} (hfg : ∀ p q, R p q → R (f p) (g q))
    (h : List.Forall₂ R c.roster d.roster) (ids : List Nat) (slot : Nat) :
    List.Forall₂ R (c.modifySlot ids slot f).roster (d.modifySlot ids slot g).roster := by
  rw [modifySlot_eq, modifySlot_eq]
  cases filler? ids slot with
  | none => exact h
  | some id => exact forall₂_modify hfg h id

theorem forall₂_applyChanges (hact : ∀ (x : Change) p q, R p q → R (x.act p) (x.act q))
    (h : List.Forall₂ R c.roster d.roster) (ids : List Nat) (changes : List (Nat × Change)) :
    List.Forall₂ R (c.applyChanges ids changes).roster (d.applyChanges ids changes).roster := by
  induction changes generalizing c d with
  | nil => exact h
  | cons x changes ih => exact ih (forall₂_modifySlot (hact x.2) h ids x.1)

theorem forall₂_applyEffects (hact : ∀ (x : Change) p q, R p q → R (x.act p) (x.act q))
    (h : List.Forall₂ R c.roster d.roster) (e : Event) (ids : List Nat) :
    List.Forall₂ R (c.applyEffects e ids).roster (d.applyEffects e ids).roster := by
  rw [applyEffects_eq, applyEffects_eq]
  exact forall₂_applyChanges hact h ids e.changes

theorem forall₂_applyEffects_right (hact : ∀ (x : Change) p q, R p q → R p (x.act q))
    (h : List.Forall₂ R c.roster d.roster) (e : Event) (ids : List Nat) :
    List.Forall₂ R c.roster (d.applyEffects e ids).roster := by
  rw [applyEffects_eq]
  induction e.changes generalizing d with
  | nil => exact h
  | cons x changes ih =>
      have hstep : List.Forall₂ R (c.modifySlot ids x.1 id).roster
          (d.modifySlot ids x.1 x.2.act).roster := forall₂_modifySlot (hact x.2) h ids x.1
      have hsame : (c.modifySlot ids x.1 id).roster = c.roster := by
        rw [modifySlot_eq]
        cases filler? ids x.1 <;> simp
      rw [hsame] at hstep
      exact ih hstep

/-! ## Whether the counts hold the credit -/

theorem forall₂_getElem? {α β : Type} {R : α → β → Prop} {as : List α} {bs : List β}
    (h : List.Forall₂ R as bs) (i : Nat) : Option.Rel R as[i]? bs[i]? := by
  induction h generalizing i with
  | nil => exact .none
  | cons hab _ ih =>
      cases i with
      | zero => exact .some hab
      | succ i => exact ih i

theorem holdsEffects_eq (c : Contest) (e : Event) (ids : List Nat) :
    c.holdsEffects e ids =
      holdsCredit ids (UInt32.ofNat e.eliminated.length)
        (c.applyChanges ids (e.resizes.map (fun r => (r.1, .resize r.2)) ++
          e.eliminated.map fun slot => (slot, .death))) e.credited := by
  unfold holdsEffects applyChanges
  simp only [List.foldl_append, List.foldl_map]
  rfl

theorem holdsCredit_cons (ids : List Nat) (credit : UInt32) (c : Contest) (slot : Nat)
    (rest : List Nat) :
    holdsCredit ids credit c (slot :: rest) =
      (c.hasRoom ids credit slot &&
        holdsCredit ids credit (c.modifySlot ids slot (Change.credit credit).act) rest) := rfl

theorem hasRoom_congr (hcount : ∀ p q, R p q → q.eliminations = p.eliminations)
    (h : List.Forall₂ R c.roster d.roster) (ids : List Nat) (credit : UInt32) (slot : Nat) :
    d.hasRoom ids credit slot = c.hasRoom ids credit slot := by
  unfold hasRoom
  cases filler? ids slot with
  | none => rfl
  | some id =>
      have hrel := forall₂_getElem? h id
      simp only [Option.bind_some]
      generalize c.roster[id]? = p at hrel
      generalize d.roster[id]? = q at hrel
      cases hrel with
      | none => rfl
      | some hpq => simp only [Option.all_some, hcount _ _ hpq]

theorem holdsCredit_congr (hact : ∀ (x : Change) p q, R p q → R (x.act p) (x.act q))
    (hcount : ∀ p q, R p q → q.eliminations = p.eliminations)
    (h : List.Forall₂ R c.roster d.roster) (ids : List Nat) (credit : UInt32) (slots : List Nat) :
    holdsCredit ids credit d slots = holdsCredit ids credit c slots := by
  induction slots generalizing c d with
  | nil => rfl
  | cons slot rest ih =>
      rw [holdsCredit_cons, holdsCredit_cons, hasRoom_congr hcount h,
        ih (forall₂_modifySlot (hact (.credit credit)) h ids slot)]

theorem holdsEffects_congr (hact : ∀ (x : Change) p q, R p q → R (x.act p) (x.act q))
    (hcount : ∀ p q, R p q → q.eliminations = p.eliminations)
    (h : List.Forall₂ R c.roster d.roster) (e : Event) (ids : List Nat) :
    d.holdsEffects e ids = c.holdsEffects e ids := by
  rw [holdsEffects_eq, holdsEffects_eq]
  exact holdsCredit_congr hact hcount (forall₂_applyChanges hact h ids _) ids _ e.credited

end Contest
end Tournament
