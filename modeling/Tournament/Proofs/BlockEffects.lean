import Tournament.Proofs.Blocks
import Tournament.Spec.Draft

/-!
# What blocks are read as

Every block of lines that says anything is read as one effect on the contest, or is an error
(`Block.outcome`).  The players, the arenas with their events and the changes of the rules that a
list of effects amounts to are those of the list without its last effect, and what that adds.
-/

namespace Tournament.Spec

/-! ## Effects -/

inductive Effect where
  /-- Changes of the rules, from the line with a number. -/
  | rules (line : Nat) (changes : RuleChanges)
  | player (p : Player)
  | event (kind : RoundKind) (e : Event)
  | opening (name description : String)
  | arenaEvent (e : Event)

namespace Effect

def rules? : Effect → Option (Nat × RuleChanges)
  | .rules line changes => some (line, changes)
  | _ => none

def player? : Effect → Option Player
  | .player p => some p
  | _ => none

def event? (kind : RoundKind) : Effect → Option Event
  | .event k e => if k = kind then some e else none
  | _ => none

def opening? : Effect → Option Arena
  | .opening name description => some ⟨name, description, []⟩
  | _ => none

def arenaEvent? : Effect → Option Event
  | .arenaEvent e => some e
  | _ => none

/-- What speaks against an effect after others: a player's name is taken, or there is no arena. -/
def refusal? (before : List Effect) : Effect → Option SpecError
  | .player p =>
    if p.name ∈ (before.filterMap player?).map (·.name) then some (.duplicatePlayer p.name) else none
  | .arenaEvent _ =>
    if before.filterMap opening? = [] then some (.malformed .strayEvent) else none
  | _ => none

end Effect

/-! ## Blocks -/

/-- The block says nothing: it is a comment, a header or a line of an unknown section. -/
def Block.IsVoid (b : Block) : Prop :=
  isComment b.first.text = true ∨ (headerName? b.first.text).isSome = true ∨ b.inside = .unknown

/-- What a block is read as by itself, if it says anything: an effect or an error. -/
def Block.reads (b : Block) : Option (Except SpecError Effect) :=
  match b.second with
  | some next =>
    let text := String.ofList ((quotedText? b.first.text).getD [])
    let metadata := String.ofList next.text
    match b.inside with
    | .players => some ((Player.parse text metadata).map .player)
    | .events kind => some ((Event.parse text metadata).map (.event kind))
    | .arenas => some ((Event.parse text metadata).map .arenaEvent)
    | _ => none
  | none =>
    let text := String.ofList b.first.text
    let malformed (kind : Malformed) : Except SpecError Effect := .error (.malformed kind)
    if isComment b.first.text || (headerName? b.first.text).isSome then none
    else
      match b.inside, (quotedText? b.first.text).isSome with
      | .start, _ => some (malformed (.outsideSection text))
      | .rules, _ => some ((RuleChanges.parse text).map (.rules b.first.number))
      | .players, true => some (malformed (.unpairedQuote text))
      | .players, false => some (malformed (.unquoted text))
      | .events _, true => some (malformed (.unpairedQuote text))
      | .events _, false => some (malformed (.unquoted text))
      | .arenas, true => some (malformed (.unpairedQuote text))
      | .arenas, false =>
        match arenaOpening? b.first.text with
        | some (name, description) =>
          some (.ok (.opening (String.ofList name) (String.ofList description)))
        | none => some (malformed (.arenaOpening text))
      | .unknown, _ => none

def Block.effect? (b : Block) : Option Effect :=
  b.reads.bind Except.toOption

/-- What becomes of a block after the effects that earlier blocks were read as. -/
def Block.outcome (before : List Effect) (b : Block) : Option (Except SpecError Effect) :=
  b.reads.map fun result => result.bind fun x =>
    match x.refusal? before with
    | some e => .error e
    | none => .ok x

def outcomesFrom : List Effect → List Block → List (Block × Option (Except SpecError Effect))
  | _, [] => []
  | before, b :: blocks =>
    (b, b.outcome before) :: outcomesFrom (before ++ b.effect?.toList) blocks

def accepted? : Block × Option (Except SpecError Effect) → Option Effect
  | (_, some (.ok x)) => some x
  | _ => none

/-- The problem that a block is, with the number of its first line. -/
def problem? : Block × Option (Except SpecError Effect) → Option Problem
  | (b, some (.error e)) => some ⟨b.first.number, e⟩
  | _ => none

theorem not_void_of_quoted {text : List Char} (h : (quotedText? text).isSome = true) :
    isComment text = false ∧ headerName? text = none := by
  unfold quotedText? at h
  split at h
  · exact ⟨by simp [isComment], by simp [headerName?]⟩
  · cases h

theorem Block.reads_eq_none_iff {b : Block}
    (hpaired : ∀ next ∈ b.second, Paired b.inside b.first.text next.text) :
    b.reads = none ↔ b.IsVoid := by
  obtain ⟨inside, first, second⟩ := b
  cases second with
  | some next =>
      have hpair := hpaired next rfl
      obtain ⟨hcomment, hheader⟩ := not_void_of_quoted hpair.quoted
      cases inside with
      | start | rules | unknown => cases hpair.hasEntries
      | players | events | arenas => simp [reads, IsVoid, hcomment, hheader]
  | none =>
      unfold reads IsVoid
      dsimp only
      split_ifs with hvoid
      · simp only [true_iff]
        rcases Bool.or_eq_true_iff.mp hvoid with h | h
        · exact .inl h
        · exact .inr (.inl h)
      · rw [Bool.or_eq_true_iff, not_or] at hvoid
        simp only [hvoid.1, hvoid.2]
        cases inside with
        | start | rules | unknown => simp
        | players | events => cases (quotedText? first.text).isSome <;> simp
        | arenas =>
            cases (quotedText? first.text).isSome with
            | true => simp
            | false => cases arenaOpening? first.text <;> simp

/-- A block is read as an event of a pool only in the section of the pool. -/
theorem Block.inside_of_event {b : Block} {kind : RoundKind} {e : Event}
    (h : b.reads = some (.ok (.event kind e))) : b.inside = .events kind := by
  obtain ⟨inside, first, second⟩ := b
  unfold reads at h
  cases second with
  | some next => cases inside <;> simp_all [map_eq_ok]
  | none =>
      dsimp only at h
      split_ifs at h
      split at h <;> simp_all [map_eq_ok]
      split at h <;> simp at h

theorem Block.event?_arena {b : Block} (hinside : b.inside ≠ .events .arena) {x : Effect}
    (hx : b.reads = some (.ok x)) : x.event? .arena = none := by
  cases x with
  | rules | player | opening | arenaEvent => rfl
  | event kind e =>
      have hkind : kind ≠ .arena := by
        rintro rfl
        exact hinside (inside_of_event hx)
      simp [Effect.event?, hkind]

/-! ## What effects amount to -/

def firstOfEachName (ps : List Player) : List Player :=
  ps.eraseDupsBy fun p q => p.name == q.name

/-- The arenas that are opened, each with the events of arenas up to the next one. -/
def arenasOf : List Effect → List Arena
  | [] => []
  | x :: rest =>
    match x.opening? with
    | some a =>
      { a with events := (rest.takeWhile (·.opening?.isNone)).filterMap Effect.arenaEvent? } ::
        arenasOf rest
    | none => arenasOf rest

/-- All changes of the rules, and the number of the line of the last of them. -/
def changesOf (effects : List Effect) : RuleChanges × Nat :=
  (effects.filterMap Effect.rules?).foldl (fun s x => (s.1.merge x.2, x.1)) ({}, 0)

theorem filterMap_concat {α β : Type} (f : α → Option β) (as : List α) (a : α) :
    (as ++ [a]).filterMap f = as.filterMap f ++ (f a).toList := by
  rw [List.filterMap_append]
  cases h : f a <;> simp [h]

theorem changesOf_concat (before : List Effect) (x : Effect) :
    changesOf (before ++ [x]) =
      x.rules?.elim (changesOf before) fun r => ((changesOf before).1.merge r.2, r.1) := by
  unfold changesOf
  rw [filterMap_concat, List.foldl_append]
  cases x.rules? <;> rfl

/-! ## The first player of each name -/

theorem firstOfEachName_cons (p : Player) (ps : List Player) :
    firstOfEachName (p :: ps) = p :: firstOfEachName (ps.filter (·.name ≠ p.name)) := by
  unfold firstOfEachName
  rw [List.eraseDupsBy_cons]
  congr 2
  refine List.filter_congr fun q _ => ?_
  simp

theorem mem_names_filter {ps : List Player} {name other : String} (h : name ≠ other) :
    name ∈ (ps.filter (·.name ≠ other)).map (·.name) ↔ name ∈ ps.map (·.name) := by
  simp only [List.mem_map, List.mem_filter, decide_eq_true_eq]
  constructor
  · rintro ⟨p, ⟨hp, -⟩, rfl⟩
    exact ⟨p, hp, rfl⟩
  · rintro ⟨p, hp, rfl⟩
    exact ⟨p, ⟨hp, h⟩, rfl⟩

theorem mem_names_firstOfEachName {ps : List Player} {name : String} :
    name ∈ (firstOfEachName ps).map (·.name) ↔ name ∈ ps.map (·.name) := by
  -- by length: what is left to go through is not the tail, but a part of it
  induction hlength : ps.length using Nat.strongRecOn generalizing ps with
  | ind n ih =>
  subst hlength
  cases ps with
  | nil => rfl
  | cons q ps =>
      have hlt : (ps.filter (·.name ≠ q.name)).length < (q :: ps).length :=
        Nat.lt_succ_of_le (List.length_filter_le _ _)
      rw [firstOfEachName_cons, List.map_cons, List.mem_cons, ih _ hlt rfl, List.map_cons,
        List.mem_cons]
      by_cases hname : name = q.name
      · simp [hname]
      · rw [mem_names_filter hname]

theorem firstOfEachName_concat (ps : List Player) (p : Player) :
    firstOfEachName (ps ++ [p]) =
      if p.name ∈ ps.map (·.name) then firstOfEachName ps else firstOfEachName ps ++ [p] := by
  induction hlength : ps.length using Nat.strongRecOn generalizing ps with
  | ind n ih =>
  subst hlength
  cases ps with
  | nil => rfl
  | cons q ps =>
      have hlt : (ps.filter (·.name ≠ q.name)).length < (q :: ps).length :=
        Nat.lt_succ_of_le (List.length_filter_le _ _)
      rw [List.cons_append, firstOfEachName_cons, firstOfEachName_cons, List.filter_append]
      by_cases hname : p.name = q.name
      · rw [List.filter_cons_of_neg (by simpa using hname), List.filter_nil, List.append_nil,
          if_pos (by simp [hname])]
      · have hmem : p.name ∈ (ps.filter (·.name ≠ q.name)).map (·.name) ↔
            p.name ∈ (q :: ps).map (·.name) := by
          rw [mem_names_filter hname, List.map_cons, List.mem_cons, or_iff_right hname]
        rw [List.filter_cons_of_pos (by simpa using hname), List.filter_nil, ih _ hlt _ rfl,
          if_congr hmem rfl rfl]
        split_ifs <;> rfl

/-! ## Arenas and their events -/

theorem arenasOf_cons_of_none {x : Effect} (h : x.opening? = none) (rest : List Effect) :
    arenasOf (x :: rest) = arenasOf rest := by
  simp [arenasOf, h]

theorem arenasOf_cons_of_some {x : Effect} {a : Arena} (h : x.opening? = some a)
    (rest : List Effect) :
    arenasOf (x :: rest) =
      { a with events := (rest.takeWhile (·.opening?.isNone)).filterMap Effect.arenaEvent? } ::
        arenasOf rest := by
  simp [arenasOf, h]

theorem arenasOf_eq_nil_iff {effects : List Effect} :
    arenasOf effects = [] ↔ effects.filterMap Effect.opening? = [] := by
  induction effects with
  | nil => simp [arenasOf]
  | cons x rest ih =>
      cases hx : x.opening? with
      | none => rw [arenasOf_cons_of_none hx, List.filterMap_cons_none hx, ih]
      | some a => simp [arenasOf_cons_of_some hx, List.filterMap_cons_some hx]

theorem arenasOf_concat_opening (effects : List Effect) (name description : String) :
    arenasOf (effects ++ [.opening name description]) =
      arenasOf effects ++ [⟨name, description, []⟩] := by
  have hstops : ∀ rest : List Effect,
      (rest ++ [Effect.opening name description]).takeWhile (·.opening?.isNone) =
        rest.takeWhile (·.opening?.isNone) := by
    intro rest
    induction rest with
    | nil => rfl
    | cons y rest ih => rw [List.cons_append, List.takeWhile_cons, List.takeWhile_cons, ih]
  induction effects with
  | nil => rfl
  | cons y rest ih =>
      cases hy : y.opening? with
      | none => rw [List.cons_append, arenasOf_cons_of_none hy, arenasOf_cons_of_none hy, ih]
      | some a =>
          rw [List.cons_append, arenasOf_cons_of_some hy, arenasOf_cons_of_some hy, ih, hstops]
          rfl

/-- Up to the next arena one sees everything if there is none, and otherwise not what comes last. -/
theorem takeWhile_concat (effects : List Effect) {x : Effect} (hx : x.opening? = none) :
    (effects ++ [x]).takeWhile (·.opening?.isNone) =
      effects.takeWhile (·.opening?.isNone) ++ if arenasOf effects = [] then [x] else [] := by
  induction effects with
  | nil => simp [hx, arenasOf]
  | cons y rest ih =>
      cases hy : y.opening? with
      | none => simp [hy, ih, arenasOf_cons_of_none hy]
      | some a => simp [hy, arenasOf_cons_of_some hy]

/-- What comes last and opens no arena can only be an event of the last arena. -/
theorem arenasOf_concat {x : Effect} (hx : x.opening? = none) (effects : List Effect) :
    arenasOf effects = [] ∧ arenasOf (effects ++ [x]) = [] ∨
      ∃ others last, arenasOf effects = others ++ [last] ∧ arenasOf (effects ++ [x]) =
        others ++ [{ last with events := last.events ++ x.arenaEvent?.toList }] := by
  induction effects with
  | nil => exact .inl ⟨rfl, by simp [arenasOf, hx]⟩
  | cons y rest ih =>
      cases hy : y.opening? with
      | none =>
          rw [List.cons_append, arenasOf_cons_of_none hy, arenasOf_cons_of_none hy]
          exact ih
      | some a =>
          rw [List.cons_append, arenasOf_cons_of_some hy, arenasOf_cons_of_some hy,
            takeWhile_concat rest hx]
          right
          -- the last arena is this one, or it is the last of the rest
          rcases ih with ⟨hnil, hnil'⟩ | ⟨others, last, hrest, hrest'⟩
          · refine ⟨[], _, by rw [hnil, List.nil_append], ?_⟩
            rw [hnil', if_pos hnil, List.filterMap_append]
            cases x <;> rfl
          · refine ⟨_ :: others, last, by rw [hrest, List.cons_append], ?_⟩
            rw [hrest', if_neg (by simp [hrest]), List.append_nil, List.cons_append]

theorem arenasOf_concat_of_none {x : Effect} (hopening : x.opening? = none)
    (hevent : x.arenaEvent? = none) (effects : List Effect) :
    arenasOf (effects ++ [x]) = arenasOf effects := by
  rcases arenasOf_concat hopening effects with ⟨hnil, hnil'⟩ | ⟨others, last, heq, heq'⟩
  · rw [hnil, hnil']
  · rw [heq, heq', hevent, Option.toList_none, List.append_nil]

theorem arenasOf_concat_of_nil {x : Effect} (hopening : x.opening? = none) {effects : List Effect}
    (h : arenasOf effects = []) : arenasOf (effects ++ [x]) = [] := by
  rcases arenasOf_concat hopening effects with ⟨-, hnil⟩ | ⟨others, last, heq, -⟩
  · exact hnil
  · simp [h] at heq

end Tournament.Spec
