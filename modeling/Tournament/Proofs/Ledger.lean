import Tournament.Proofs.BlockEffects
import Tournament.Proofs.Draft

/-!
# What becomes of the lines of a spec

A contest that is read from a spec holds what the accepted effects of its blocks bring, each once
and in their order, and the errors are the problems of the reading (`account_of_parse`).
-/

namespace Tournament.Spec

/-- The contest holds what each of the effects brings once, and nothing else. -/
structure Holds (c : Contest) (effects : List Effect) : Prop where
  players : effects.filterMap Effect.player? = c.roster
  events : ∀ kind, effects.filterMap (Effect.event? kind) = c.pools.of kind
  openings : effects.filterMap Effect.opening? = c.arenas.map fun a => { a with events := [] }
  arenaEvents : effects.filterMap Effect.arenaEvent? = c.arenas.flatMap (·.events)

/-! ## Taking in a block -/

def Draft.enter (d : Draft) : Effect → Except SpecError Draft
  | .rules line changes =>
    .ok { d with changes := d.changes.merge changes, lastRuleLine := line }
  | .player p =>
    if d.players.any (·.name = p.name) then .error (.duplicatePlayer p.name)
    else .ok { d with players := d.players ++ [p] }
  | .event kind e => .ok { d with pools := d.pools.add kind e }
  | .opening name description => .ok { d with arenas := d.arenas ++ [⟨name, description, []⟩] }
  | .arenaEvent e =>
    match addToLast e d.arenas with
    | none => .error (.malformed .strayEvent)
    | some arenas => .ok { d with arenas }

theorem Block.take_eq {b : Block}
    (hpaired : ∀ next ∈ b.second, Paired b.inside b.first.text next.text) (d : Draft) :
    d.take ⟨b.first.number, b.item⟩ =
      match b.reads with
      | none => .ok d
      | some (.error e) => .error e
      | some (.ok x) => d.enter x := by
  obtain ⟨inside, first, second⟩ := b
  cases second with
  | some next =>
      have hpair := hpaired next rfl
      unfold item reads entry Draft.take
      cases inside with
      | start | rules | unknown => cases hpair.hasEntries
      | players =>
          dsimp only
          cases Player.parse _ _ <;> rfl
      | events kind =>
          dsimp only
          cases Event.parse _ _ <;> rfl
      | arenas =>
          dsimp only
          cases Event.parse _ _ <;> rfl
  | none =>
      unfold item reads single Draft.take
      cases hcomment : isComment first.text with
      | true => rfl
      | false =>
          cases hheader : headerName? first.text with
          | some name => rfl
          | none =>
              cases inside with
              | start | unknown => rfl
              | rules =>
                  simp only [Bool.false_eq_true, ↓reduceIte, Bool.or_self, Option.isSome_none]
                  cases RuleChanges.parse _ <;> rfl
              | players | events => cases quotedText? first.text <;> rfl
              | arenas =>
                  cases quotedText? first.text with
                  | some text => rfl
                  | none =>
                      simp only [Bool.false_eq_true, ↓reduceIte, Bool.or_self, Option.isSome_none]
                      cases arenaOpening? first.text <;> rfl

theorem addToLast_concat (e : Event) (others : List Arena) (last : Arena) :
    addToLast e (others ++ [last]) =
      some (others ++ [{ last with events := last.events ++ [e] }]) := by
  induction others with
  | nil => rfl
  | cons a others ih =>
      cases others with
      | nil => rfl
      | cons b others =>
          change (addToLast e (b :: others ++ [last])).map (a :: ·) = _
          rw [ih]
          rfl

/-! ## Taking in all blocks -/

attribute [local simp] Effect.rules? Effect.player? Effect.event? Effect.opening?
  Effect.arenaEvent?

def Draft.contents (d : Draft) : Contest :=
  ⟨.standard, d.players, d.arenas, d.pools⟩

/-- The draft is what comes of blocks that are read as these effects, the refused ones included. -/
structure Entered (effects : List Effect) (d : Draft) : Prop where
  rules : (d.changes, d.lastRuleLine) = changesOf effects
  players : d.players = firstOfEachName (effects.filterMap Effect.player?)
  events : ∀ kind, d.pools.of kind = effects.filterMap (Effect.event? kind)
  arenas : d.arenas = arenasOf effects

theorem entered_empty : Entered [] {} := by
  refine ⟨rfl, rfl, ?_, rfl⟩
  intro kind
  cases kind <;> rfl

theorem holds_empty : Holds ({} : Draft).contents [] := by
  refine ⟨rfl, ?_, rfl, rfl⟩
  intro kind
  cases kind <;> rfl

/-- One more effect that makes no difference to players and arenas, which are all that can refuse
one. -/
theorem Entered.unmoved {before : List Effect} {d : Draft} (h : Entered before d) {x : Effect}
    (hrules : x.rules? = none) (hevents : ∀ kind, x.event? kind = none)
    (hplayers : firstOfEachName ((before ++ [x]).filterMap Effect.player?) =
      firstOfEachName (before.filterMap Effect.player?))
    (harenas : arenasOf (before ++ [x]) = arenasOf before) : Entered (before ++ [x]) d := by
  refine ⟨?_, h.players.trans hplayers.symm, ?_, h.arenas.trans harenas.symm⟩
  · rw [changesOf_concat, hrules]
    exact h.rules
  · intro kind
    rw [filterMap_concat, hevents, Option.toList_none, List.append_nil]
    exact h.events kind

theorem Entered.refused {before : List Effect} {d : Draft} (h : Entered before d) {x : Effect}
    {e : SpecError} (hx : x.refusal? before = some e) :
    d.enter x = .error e ∧ Entered (before ++ [x]) d := by
  cases x with
  | rules | event | opening => cases hx
  | player p =>
      simp only [Effect.refusal?, Option.ite_none_right_eq_some, Option.some.injEq] at hx
      obtain ⟨htaken, rfl⟩ := hx
      have hany : d.players.any (·.name = p.name) = true := by
        rw [← mem_names_firstOfEachName, ← h.players] at htaken
        simpa using htaken
      have hplayers : firstOfEachName ((before ++ [Effect.player p]).filterMap Effect.player?) =
          firstOfEachName (before.filterMap Effect.player?) := by
        rw [filterMap_concat]
        exact (firstOfEachName_concat _ p).trans (if_pos htaken)
      refine ⟨by simp [Draft.enter, hany], h.unmoved rfl (fun _ => rfl) hplayers ?_⟩
      exact arenasOf_concat_of_none rfl rfl before
  | arenaEvent event =>
      simp only [Effect.refusal?, Option.ite_none_right_eq_some, Option.some.injEq] at hx
      obtain ⟨hnone, rfl⟩ := hx
      have hnil : arenasOf before = [] := arenasOf_eq_nil_iff.mpr hnone
      have hplayers : firstOfEachName ((before ++ [Effect.arenaEvent event]).filterMap Effect.player?) =
          firstOfEachName (before.filterMap Effect.player?) := by
        rw [filterMap_concat]
        exact congrArg firstOfEachName (List.append_nil _)
      refine ⟨by simp [Draft.enter, h.arenas, hnil, addToLast],
        h.unmoved rfl (fun _ => rfl) hplayers ?_⟩
      rw [hnil, arenasOf_concat_of_nil rfl hnil]

/-- What a draft gains by an effect. -/
structure Draft.Gains (d d' : Draft) (x : Effect) : Prop where
  rules : (d'.changes, d'.lastRuleLine) =
    x.rules?.elim (d.changes, d.lastRuleLine) fun r => (d.changes.merge r.2, r.1)
  players : d'.players = d.players ++ x.player?.toList
  events : ∀ kind, d'.pools.of kind = d.pools.of kind ++ (x.event? kind).toList
  openings : (d'.arenas.map fun a => { a with events := [] }) =
    (d.arenas.map fun a => { a with events := [] }) ++ x.opening?.toList
  arenaEvents : d'.arenas.flatMap (·.events) =
    d.arenas.flatMap (·.events) ++ x.arenaEvent?.toList

theorem Holds.gains {d d' : Draft} {x : Effect} {effects : List Effect}
    (h : Holds d.contents effects) (hgains : d.Gains d' x) : Holds d'.contents (effects ++ [x]) := by
  refine ⟨?_, ?_, ?_, ?_⟩
  · rw [filterMap_concat, h.players]
    exact hgains.players.symm
  · intro kind
    rw [filterMap_concat, h.events]
    exact (hgains.events kind).symm
  · rw [filterMap_concat, h.openings]
    exact hgains.openings.symm
  · rw [filterMap_concat, h.arenaEvents]
    exact hgains.arenaEvents.symm

theorem Entered.gains {before : List Effect} {d d' : Draft} {x : Effect} (h : Entered before d)
    (hgains : d.Gains d' x) (hx : x.refusal? before = none)
    (harenas : d'.arenas = arenasOf (before ++ [x])) : Entered (before ++ [x]) d' := by
  refine ⟨?_, ?_, ?_, harenas⟩
  · rw [hgains.rules, changesOf_concat, ← h.rules]
  · rw [hgains.players, filterMap_concat, h.players]
    cases x with
    | player p =>
        have hnew : p.name ∉ (before.filterMap Effect.player?).map (·.name) := by
          simpa [Effect.refusal?] using hx
        exact ((firstOfEachName_concat _ p).trans (if_neg hnew)).symm
    | _ => simp
  · intro kind
    rw [hgains.events, filterMap_concat, h.events]

theorem Entered.accepted {before : List Effect} {d : Draft} (h : Entered before d) {x : Effect}
    (hx : x.refusal? before = none) (hkind : x.event? .arena = none) :
    ∃ d', d.enter x = .ok d' ∧ d.Gains d' x ∧ Entered (before ++ [x]) d' := by
  cases x with
  | rules line changes =>
      have hgains : d.Gains { d with changes := d.changes.merge changes, lastRuleLine := line }
          (.rules line changes) := by
        constructor <;> simp
      refine ⟨_, rfl, hgains, h.gains hgains hx ?_⟩
      rw [arenasOf_concat_of_none rfl rfl]
      exact h.arenas
  | player p =>
      have hany : d.players.any (·.name = p.name) = false := by
        have hnew : p.name ∉ d.players.map (·.name) := by
          rw [h.players, mem_names_firstOfEachName]
          simpa [Effect.refusal?] using hx
        simpa using hnew
      have hgains : d.Gains { d with players := d.players ++ [p] } (.player p) := by
        constructor <;> simp
      refine ⟨_, by simp [Draft.enter, hany], hgains, h.gains hgains hx ?_⟩
      rw [arenasOf_concat_of_none rfl rfl]
      exact h.arenas
  | event kind e =>
      have hne : kind ≠ .arena := by simpa using hkind
      have hevents : ∀ other, (d.pools.add kind e).of other =
          d.pools.of other ++ ((Effect.event kind e).event? other).toList := by
        intro other
        rw [Pools.of_add]
        by_cases hother : other = kind
        · subst hother
          simp [hne]
        · simp [hother, Ne.symm hother]
      have hgains : d.Gains { d with pools := d.pools.add kind e } (.event kind e) := by
        refine ⟨?_, ?_, hevents, ?_, ?_⟩ <;> simp
      refine ⟨_, rfl, hgains, h.gains hgains hx ?_⟩
      rw [arenasOf_concat_of_none rfl rfl]
      exact h.arenas
  | opening name description =>
      have hgains : d.Gains { d with arenas := d.arenas ++ [⟨name, description, []⟩] }
          (.opening name description) := by
        constructor <;> simp
      refine ⟨_, rfl, hgains, h.gains hgains hx ?_⟩
      rw [arenasOf_concat_opening, ← h.arenas]
  | arenaEvent e =>
      have hne : arenasOf before ≠ [] := by
        rw [Ne, arenasOf_eq_nil_iff]
        simpa [Effect.refusal?] using hx
      obtain ⟨others, last, heq, heq'⟩ :=
        (arenasOf_concat (x := .arenaEvent e) rfl before).resolve_left fun hnil => hne hnil.1
      rw [← h.arenas] at heq
      have hgains : d.Gains
          { d with arenas := others ++ [{ last with events := last.events ++ [e] }] }
          (.arenaEvent e) := by
        constructor <;> simp [heq]
      refine ⟨_, by rw [Draft.enter, heq, addToLast_concat], hgains, h.gains hgains hx ?_⟩
      rw [heq']
      rfl

/-- What one block does to a draft is its outcome: nothing, an error or an effect. -/
inductive Taken (before : List Effect) (b : Block) (d : Draft) : Prop where
  | void (houtcome : b.outcome before = none)
      (htake : d.take ⟨b.first.number, b.item⟩ = .ok d)
      (hentered : Entered (before ++ b.effect?.toList) d)
  | problem {e : SpecError} (houtcome : b.outcome before = some (.error e))
      (htake : d.take ⟨b.first.number, b.item⟩ = .error e)
      (hentered : Entered (before ++ b.effect?.toList) d)
  | effect {x : Effect} {d' : Draft} (houtcome : b.outcome before = some (.ok x))
      (htake : d.take ⟨b.first.number, b.item⟩ = .ok d') (hgains : d.Gains d' x)
      (hentered : Entered (before ++ b.effect?.toList) d')

theorem Entered.taken {before : List Effect} {b : Block} {d : Draft} (h : Entered before d)
    (hpaired : ∀ next ∈ b.second, Paired b.inside b.first.text next.text)
    (hinside : b.inside ≠ .events .arena) : Taken before b d := by
  have htake := b.take_eq hpaired d
  -- only what is read as an effect counts for the blocks that follow
  have hstays : b.effect? = none → Entered (before ++ b.effect?.toList) d := by
    intro heffect
    rw [heffect, Option.toList_none, List.append_nil]
    exact h
  cases hreads : b.reads with
  | none =>
      rw [hreads] at htake
      exact .void (by rw [Block.outcome, hreads]; rfl) htake
        (hstays (by rw [Block.effect?, hreads]; rfl))
  | some result =>
      cases result with
      | error e =>
          rw [hreads] at htake
          exact .problem (by rw [Block.outcome, hreads]; rfl) htake
            (hstays (by rw [Block.effect?, hreads]; rfl))
      | ok x =>
          have heffect : b.effect? = some x := by rw [Block.effect?, hreads]; rfl
          rw [hreads] at htake
          cases hx : x.refusal? before with
          | some e =>
              obtain ⟨henter, hentered⟩ := h.refused hx
              have houtcome : b.outcome before = some (.error e) := by
                rw [Block.outcome, hreads, Option.map_some, Except.bind, hx]
              exact .problem houtcome (htake.trans henter) (heffect ▸ hentered)
          | none =>
              have hkind : x.event? .arena = none := Block.event?_arena hinside hreads
              obtain ⟨d', henter, hgains, hentered⟩ := h.accepted hx hkind
              have houtcome : b.outcome before = some (.ok x) := by
                rw [Block.outcome, hreads, Option.map_some, Except.bind, hx]
              exact .effect houtcome (htake.trans henter) hgains (heffect ▸ hentered)

theorem takeAll_cons_ok {d d' : Draft} {i : Numbered} (h : d.take i = .ok d')
    (rest : List Numbered) : d.takeAll (i :: rest) = d'.takeAll rest := by
  rw [Draft.takeAll, h]

theorem takeAll_cons_error {d : Draft} {i : Numbered} {e : SpecError} (h : d.take i = .error e)
    (rest : List Numbered) :
    d.takeAll (i :: rest) = ((d.takeAll rest).1, ⟨i.line, e⟩ :: (d.takeAll rest).2) := by
  rw [Draft.takeAll, h]

/-- Taking in blocks, one after the other: the draft at the end holds what they are read as, each
effect that they have is in it, and the other outcomes are the problems. -/
theorem takeAll_account {before effects : List Effect} {blocks : List Block} {d : Draft}
    (hentered : Entered before d) (hholds : Holds d.contents effects)
    (hpaired : ∀ b ∈ blocks, ∀ next ∈ b.second, Paired b.inside b.first.text next.text)
    (hinside : ∀ b ∈ blocks, b.inside ≠ .events .arena) :
    let taken := d.takeAll (blocks.map fun b => ⟨b.first.number, b.item⟩)
    Entered (before ++ blocks.filterMap Block.effect?) taken.1 ∧
      Holds taken.1.contents (effects ++ (outcomesFrom before blocks).filterMap accepted?) ∧
      taken.2 = (outcomesFrom before blocks).filterMap problem? := by
  induction blocks generalizing before effects d with
  | nil => simpa [outcomesFrom] using ⟨hentered, hholds, rfl⟩
  | cons b blocks ih =>
      rw [List.forall_mem_cons] at hpaired hinside
      have heffects : before ++ (b :: blocks).filterMap Block.effect? =
          before ++ b.effect?.toList ++ blocks.filterMap Block.effect? := by
        cases h : b.effect? <;> simp [h]
      rw [heffects, List.map_cons, outcomesFrom]
      cases hentered.taken hpaired.1 hinside.1 with
      | void houtcome htake hnext =>
          have haccepted : accepted? (b, none) = none := rfl
          have hproblem : problem? (b, none) = none := rfl
          rw [takeAll_cons_ok htake, houtcome, List.filterMap_cons_none haccepted,
            List.filterMap_cons_none hproblem]
          exact ih hnext hholds hpaired.2 hinside.2
      | @problem e houtcome htake hnext =>
          have haccepted : accepted? (b, some (.error e)) = none := rfl
          have hproblem : problem? (b, some (.error e)) = some ⟨b.first.number, e⟩ := rfl
          rw [takeAll_cons_error htake, houtcome, List.filterMap_cons_none haccepted,
            List.filterMap_cons_some hproblem]
          obtain ⟨hlast, hlastHolds, hproblems⟩ := ih hnext hholds hpaired.2 hinside.2
          exact ⟨hlast, hlastHolds, congrArg _ hproblems⟩
      | @effect x d' houtcome htake hgains hnext =>
          have haccepted : accepted? (b, some (.ok x)) = some x := rfl
          have hproblem : problem? (b, some (.ok x)) = none := rfl
          rw [takeAll_cons_ok htake, houtcome, List.filterMap_cons_some haccepted,
            List.filterMap_cons_none hproblem, List.append_cons]
          exact ih hnext (hholds.gains hgains) hpaired.2 hinside.2

/-! ## The account of a spec -/

structure Account (blocks : List Block) (r : Reading) : Prop where
  outcomes : (outcomesFrom [] blocks).map Prod.fst = blocks
  /-- which is an effect or an error unless the block says nothing. -/
  void_iff : ∀ x ∈ outcomesFrom [] blocks, x.2 = none ↔ x.1.IsVoid
  holds : Holds r.contest ((outcomesFrom [] blocks).filterMap accepted?)
  players : r.contest.roster =
    firstOfEachName ((blocks.filterMap Block.effect?).filterMap Effect.player?)
  events : ∀ kind,
    r.contest.pools.of kind = (blocks.filterMap Block.effect?).filterMap (Effect.event? kind)
  arenas : r.contest.arenas = arenasOf (blocks.filterMap Block.effect?)
  rules : r.contest.rules =
    ((Rules.ofChanges (changesOf (blocks.filterMap Block.effect?)).1).toOption.getD .standard)
  /-- The errors in their order, and at the end bounds that contradict each other, if they do. -/
  problems : r.problems = (outcomesFrom [] blocks).filterMap problem? ++
    match Rules.ofChanges (changesOf (blocks.filterMap Block.effect?)).1 with
    | .ok _ => []
    | .error e => [⟨(changesOf (blocks.filterMap Block.effect?)).2, e⟩]

theorem map_fst_outcomesFrom (before : List Effect) (blocks : List Block) :
    (outcomesFrom before blocks).map Prod.fst = blocks := by
  induction blocks generalizing before with
  | nil => rfl
  | cons b blocks ih => rw [outcomesFrom, List.map_cons, ih]

theorem void_iff_of_mem {before : List Effect} {blocks : List Block}
    (hpaired : ∀ b ∈ blocks, ∀ next ∈ b.second, Paired b.inside b.first.text next.text) :
    ∀ x ∈ outcomesFrom before blocks, x.2 = none ↔ x.1.IsVoid := by
  induction blocks generalizing before with
  | nil => simp [outcomesFrom]
  | cons b blocks ih =>
      rw [List.forall_mem_cons] at hpaired
      rw [outcomesFrom, List.forall_mem_cons]
      refine ⟨?_, ih hpaired.2⟩
      rw [Block.outcome, Option.map_eq_none_iff]
      exact Block.reads_eq_none_iff hpaired.1

theorem Entered.account {blocks : List Block} {d : Draft} {problems : List Problem}
    (h : Entered (blocks.filterMap Block.effect?) d)
    (hholds : Holds d.contents ((outcomesFrom [] blocks).filterMap accepted?))
    (hproblems : problems = (outcomesFrom [] blocks).filterMap problem?)
    (hpaired : ∀ b ∈ blocks, ∀ next ∈ b.second, Paired b.inside b.first.text next.text) :
    Account blocks (d.finish problems) := by
  have hcontents : (d.finish problems).contest =
      { d.contents with rules := (Rules.ofChanges d.changes).toOption.getD .standard } := by
    unfold Draft.finish
    cases Rules.ofChanges d.changes <;> rfl
  have hnoted : (d.finish problems).problems = problems ++
      match Rules.ofChanges d.changes with
      | .ok _ => []
      | .error e => [⟨d.lastRuleLine, e⟩] := by
    unfold Draft.finish
    cases Rules.ofChanges d.changes with
    | ok rules => exact (List.append_nil _).symm
    | error e => rfl
  obtain ⟨hplayers, hevents, hopenings, harenaEvents⟩ := hholds
  constructor
  · exact map_fst_outcomesFrom _ _
  · exact void_iff_of_mem hpaired
  · rw [hcontents]
    exact ⟨hplayers, hevents, hopenings, harenaEvents⟩
  · rw [hcontents]
    exact h.players
  · intro kind
    rw [hcontents]
    exact h.events kind
  · rw [hcontents]
    exact h.arenas
  · rw [hcontents, ← h.rules]
  · rw [hnoted, hproblems, ← h.rules]

theorem lines_ne_nil {input : String}
    (h : ∃ raw ∈ Text.splitBy (· = '\n') input.toList, Text.trim raw ≠ []) : lines input ≠ [] := by
  obtain ⟨raw, hraw, htrim⟩ := h
  rw [← List.zipIdx_map_fst 1 (Text.splitBy _ _), List.mem_map] at hraw
  obtain ⟨numbered, hnumbered, rfl⟩ := hraw
  have hkept : normalize numbered.1 ≠ [] := by
    rw [normalize, Ne, List.map_eq_nil_iff]
    exact htrim
  have hline : ⟨numbered.2, normalize numbered.1⟩ ∈ lines input := by
    rw [lines_eq_filterMap, List.mem_filterMap]
    exact ⟨numbered, hnumbered, if_neg hkept⟩
  exact List.ne_nil_of_mem hline

/-- Every line of a spec that is not blank is in one block, in its order, and what becomes of the
blocks is all that the reading of the spec holds. -/
theorem account_of_parse {input : String}
    (h : ∃ raw ∈ Text.splitBy (· = '\n') input.toList, Text.trim raw ≠ []) :
    ∃ blocks reading,
      (blocks.flatMap Block.lines =
        ((Text.splitBy (· = '\n') input.toList).zipIdx 1).filterMap fun raw =>
          if normalize raw.1 = [] then none else some ⟨raw.2, normalize raw.1⟩) ∧
      Splits .start (lines input) blocks ∧
      (∀ others, Splits .start (lines input) others → others = blocks) ∧
      parse input = .ok reading ∧ Account blocks reading := by
  obtain ⟨blocks, hsplits, hitems⟩ := exists_splits .start (lines input)
  obtain ⟨hentered, hholds, hproblems⟩ := takeAll_account entered_empty holds_empty hsplits.paired
    (hsplits.inside_ne_arena (by simp))
  rw [← hitems, List.nil_append] at hentered hholds
  rw [← hitems] at hproblems
  have hparse : parse input = .ok ((({} : Draft).takeAll (items input)).1.finish
      (({} : Draft).takeAll (items input)).2) := by
    rw [parse, if_neg (lines_ne_nil h)]
  refine ⟨blocks, _, ?_, hsplits, ?_, hparse, hentered.account hholds hproblems hsplits.paired⟩
  · rw [hsplits.flatMap_lines, lines_eq_filterMap]
  · intro others hothers
    exact hothers.unique hsplits

/-- A spec with sections that come back, a name that is taken and an event before any arena. -/
def fairSpec : String :=
  "# A fair\n[arena]\n\"%1% waits.\"\ntributes:1\n[players]\n\"Ann\"\ngender:F, height:1m\n" ++
  "[arena]\nLake \"Deep.\"\n\n[players]\n\"Ann\"\ngender:F, height:2m\n\"Bo\"\n" ++
  "[arena]\n\"%1% swims.\"\ntributes:1\nHill \"Steep.\"\n[lore]\nIt rains.\n"

/-- The event that comes after a section of players is still one of the lake, and the problems are
the event before it, the second Ann and Bo, of whom nothing is said. -/
theorem account_of_fair :
    ∃ blocks reading, Splits .start (lines fairSpec) blocks ∧
      parse fairSpec = .ok reading ∧ Account blocks reading ∧
      reading.contest.roster.map (·.name) = ["Ann"] ∧
      (reading.contest.arenas.map fun a => (a.name, a.events.length)) =
        [("Lake", 1), ("Hill", 0)] ∧
      reading.problems = [⟨3, .malformed .strayEvent⟩, ⟨12, .duplicatePlayer "Ann"⟩,
        ⟨14, .malformed (.unpairedQuote "\"Bo\"")⟩] := by
  obtain ⟨blocks, reading, -, hsplits, -, hparse, haccount⟩ :=
    @account_of_parse fairSpec (by decide +kernel)
  obtain ⟨reading', hparse', hreading⟩ :=
    exists_of_parse fairSpec
      (P := fun reading => reading.contest.roster.map (·.name) = ["Ann"] ∧
        (reading.contest.arenas.map fun a => (a.name, a.events.length)) =
          [("Lake", 1), ("Hill", 0)] ∧
        reading.problems = [⟨3, .malformed .strayEvent⟩, ⟨12, .duplicatePlayer "Ann"⟩,
          ⟨14, .malformed (.unpairedQuote "\"Bo\"")⟩])
      (by decide +kernel)
  obtain rfl : reading = reading' := Except.ok.inj (hparse.symm.trans hparse')
  exact ⟨blocks, reading, hsplits, hparse, haccount, of_decide_eq_true hreading⟩

end Tournament.Spec
