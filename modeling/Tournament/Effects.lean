import Tournament.Contest
import Tournament.Record

/-!
# The effects of an event

An event that has found its players acts on them slot by slot: first the changes of height, then
the eliminations, the credit for them, the items given and the items taken. The credit is added to
counts of 32 bits: an event whose credit does not fit ends the game (`holdsEffects`).
-/

namespace Tournament

def filler? (ids : List Nat) (slot : Nat) : Option Nat :=
  match slot with
  | 0 => none
  | i + 1 => ids[i]?

namespace Contest

def modifySlot (c : Contest) (ids : List Nat) (slot : Nat) (f : Player → Player) : Contest :=
  match filler? ids slot with
  | none => c
  | some id => c.modify id f

def applyResizes (ids : List Nat) (resizes : List (Nat × Resize)) (c : Contest) : Contest :=
  resizes.foldl (fun c r => c.modifySlot ids r.1 fun p => p.resize r.2) c

def applyEliminations (ids : List Nat) (slots : List Nat) (c : Contest) : Contest :=
  slots.foldl (fun c slot => c.modifySlot ids slot fun p => { p with dead := true }) c

/-- Gives the players in the given slots credit for a number of eliminations. -/
def applyCredit (ids : List Nat) (slots : List Nat) (credit : UInt32) (c : Contest) : Contest :=
  slots.foldl
    (fun c slot => c.modifySlot ids slot fun p => { p with eliminations := p.eliminations + credit })
    c

/-- Whether the count of the player in a slot holds so many eliminations more. -/
def hasRoom (c : Contest) (ids : List Nat) (credit : UInt32) (slot : Nat) : Bool :=
  ((filler? ids slot).bind (c.roster[·]?)).all fun p =>
    p.eliminations.toNat + credit.toNat < UInt32.size

/-- Whether the counts of the players in the given slots hold the credit, each when its turn
comes. -/
def holdsCredit (ids : List Nat) (credit : UInt32) : Contest → List Nat → Bool
  | _, [] => true
  | c, slot :: rest =>
    c.hasRoom ids credit slot && holdsCredit ids credit (c.applyCredit ids [slot] credit) rest

def applyGives (ids : List Nat) (gives : List (Nat × String)) (c : Contest) : Contest :=
  gives.foldl (fun c g => c.modifySlot ids g.1 fun p => p.give g.2) c

def applyTakes (ids : List Nat) (takes : List (Nat × String)) (c : Contest) : Contest :=
  takes.foldl (fun c g => c.modifySlot ids g.1 fun p => p.take g.2) c

/-- Whether no count overflows by the effects of an event. -/
def holdsEffects (c : Contest) (e : Event) (ids : List Nat) : Bool :=
  holdsCredit ids (UInt32.ofNat e.eliminated.length)
    (c.applyResizes ids e.resizes |>.applyEliminations ids e.eliminated) e.credited

/-- The contest after all effects of an event but the taking of items. -/
def beforeTakes (c : Contest) (e : Event) (ids : List Nat) : Contest :=
  c.applyResizes ids e.resizes
    |>.applyEliminations ids e.eliminated
    |>.applyCredit ids e.credited (UInt32.ofNat e.eliminated.length)
    |>.applyGives ids e.gives

/-- The contest after all effects of an event on the players given. -/
def applyEffects (c : Contest) (e : Event) (ids : List Nat) : Contest :=
  (c.beforeTakes e ids).applyTakes ids e.takes

/-- What there is to report about a single item taken: that the player does not hold it. -/
def takeRemark (c : Contest) (ids : List Nat) (take : Nat × String) : List Record :=
  match (filler? ids take.1).bind (c.roster[·]?) with
  | none => []
  | some p =>
    if p.holds take.2 then []
    else [⟨.warning, s!"{p.name} has no item {Text.quoted take.2} to remove"⟩]

def takeRemarks (ids : List Nat) : Contest → List (Nat × String) → List Record
  | _, [] => []
  | c, take :: rest => c.takeRemark ids take ++ takeRemarks ids (c.applyTakes ids [take]) rest

def effectRemarks (c : Contest) (e : Event) (ids : List Nat) : List Record :=
  takeRemarks ids (c.beforeTakes e ids) e.takes

end Contest

end Tournament
