import Tournament.Proofs.Cuts
import Tournament.Proofs.Fitting
import Tournament.Proofs.Joining
import Tournament.Proofs.ProblemOrder
import Mathlib.Data.List.Induction

/-!
# How the rules of a contest come together

A line of rules is good where each of its keys can be read (`RuleChanges.parse_eq_ok_iff`); one that
is not sets nothing.  For every key the value of the last good line that sets it counts, in
whatever sections the lines are (`rules_draftOf`).  With the defaults for the keys that no line sets
these are the rules, if the bounds are in order, and otherwise the standard rules are, with one
problem more (`assembled_of_parse`).
-/

namespace Tournament

/-! ## What a line of rules sets -/

namespace RuleChanges

/-- What the values of a key set: nothing if there are none, and otherwise what the only one is. -/
def Sets {α : Type} (values : List (List Char)) (f : String → Except SpecError α) (x : Option α) :
    Prop :=
  values = [] ∧ x = none ∨
    ∃ value a, values = [value] ∧ f (String.ofList value) = .ok a ∧ x = some a

theorem setting_eq_ok_iff {α : Type} {t : Tags} {key : String} {values : List (List Char)}
    {f : String → Except SpecError α} {x : Option α}
    (h : TagValue.Gathered .one values (t.get key)) :
    setting t key f = .ok x ↔ Sets values f x := by
  unfold setting Tags.one? Sets
  generalize t.get key = held at h ⊢
  cases h with
  | unset => simp [eq_comm]
  | @one value =>
      simp only [map_eq_ok]
      constructor
      · rintro ⟨a, ha, rfl⟩
        exact .inr ⟨value, a, rfl, ha, rfl⟩
      · rintro (⟨hnone, -⟩ | ⟨value', a, hvalue, ha, rfl⟩)
        · cases hnone
        · obtain rfl := List.singleton_inj.mp hvalue
          exact ⟨a, ha, rfl⟩

theorem ofTags_eq_ok_iff {t : Tags} {c : RuleChanges} :
    ofTags t = .ok c ↔ setting t "autoelim" parseSwitch = .ok c.autoElimination ∧
      setting t "deathrate" (parseRate "deathrate") = .ok c.deathRate ∧
      setting t "minsize" Length.parse = .ok c.minSize ∧
      setting t "maxsize" Length.parse = .ok c.maxSize ∧
      setting t "arenafreq" (parseRate "arenafreq") = .ok c.arenaFrequency := by
  constructor
  · intro h
    obtain ⟨autoElimination, hautoElimination, h⟩ := exists_of_bind_eq_ok h
    obtain ⟨deathRate, hdeathRate, h⟩ := exists_of_bind_eq_ok h
    obtain ⟨minSize, hminSize, h⟩ := exists_of_bind_eq_ok h
    obtain ⟨maxSize, hmaxSize, h⟩ := exists_of_bind_eq_ok h
    obtain ⟨arenaFrequency, harenaFrequency, h⟩ := exists_of_bind_eq_ok h
    obtain rfl := Except.ok.inj h
    exact ⟨hautoElimination, hdeathRate, hminSize, hmaxSize, harenaFrequency⟩
  · rintro ⟨hautoElimination, hdeathRate, hminSize, hmaxSize, harenaFrequency⟩
    simp only [ofTags, bind, Except.bind, hautoElimination, hdeathRate, hminSize, hmaxSize,
      harenaFrequency, pure, Except.pure]

/-- The changes are those that a line asks for: all its items are keys with values, and every key
has a value that can be read, or none. -/
structure IsReadFrom (c : RuleChanges) (items : List (List Char)) : Prop where
  legible : ∀ item ∈ items, Tags.Legible item
  autoElimination : Sets (Tags.valuesOf "autoelim" items) parseSwitch c.autoElimination
  deathRate : Sets (Tags.valuesOf "deathrate" items) (parseRate "deathrate") c.deathRate
  minSize : Sets (Tags.valuesOf "minsize" items) Length.parse c.minSize
  maxSize : Sets (Tags.valuesOf "maxsize" items) Length.parse c.maxSize
  arenaFrequency : Sets (Tags.valuesOf "arenafreq" items) (parseRate "arenafreq") c.arenaFrequency

theorem Sets.exists_gathered {α : Type} {values : List (List Char)}
    {f : String → Except SpecError α} {x : Option α} (h : Sets values f x) :
    ∃ held, TagValue.Gathered .one values held := by
  rcases h with ⟨rfl, -⟩ | ⟨value, a, rfl, -⟩
  · exact ⟨_, .unset⟩
  · exact ⟨_, .one⟩

theorem IsReadFrom.readable {c : RuleChanges} {items : List (List Char)}
    (h : c.IsReadFrom items) : Tags.Readable schema items := by
  refine ⟨h.legible, ?_⟩
  intro key shape hkey
  obtain ⟨before, after, hkeys, -⟩ := List.lookup_eq_some_iff.mp hkey
  have hmem : (key, shape) ∈ schema.keys := by
    rw [hkeys]
    exact List.mem_append_right _ List.mem_cons_self
  simp only [schema, List.mem_cons, Prod.mk.injEq, List.not_mem_nil, or_false] at hmem
  rcases hmem with ⟨rfl, rfl⟩ | ⟨rfl, rfl⟩ | ⟨rfl, rfl⟩ | ⟨rfl, rfl⟩ | ⟨rfl, rfl⟩
  · exact h.autoElimination.exists_gathered
  · exact h.deathRate.exists_gathered
  · exact h.maxSize.exists_gathered
  · exact h.minSize.exists_gathered
  · exact h.arenaFrequency.exists_gathered

theorem keys_nodup : (schema.keys.map (·.1)).Nodup := by decide

theorem parse_eq_ok_iff {s : String} {c : RuleChanges} :
    parse s = .ok c ↔ c.IsReadFrom (Tags.items s) := by
  constructor
  · intro h
    obtain ⟨t, hread, h⟩ := exists_of_bind_eq_ok h
    obtain ⟨-, hlegible, ht⟩ := (Tags.read_eq_ok_iff keys_nodup).mp hread
    obtain ⟨hautoElimination, hdeathRate, hminSize, hmaxSize, harenaFrequency⟩ :=
      ofTags_eq_ok_iff.mp h
    exact
      { legible := hlegible
        autoElimination := (setting_eq_ok_iff (ht.gathered _ _ rfl)).mp hautoElimination
        deathRate := (setting_eq_ok_iff (ht.gathered _ _ rfl)).mp hdeathRate
        minSize := (setting_eq_ok_iff (ht.gathered _ _ rfl)).mp hminSize
        maxSize := (setting_eq_ok_iff (ht.gathered _ _ rfl)).mp hmaxSize
        arenaFrequency := (setting_eq_ok_iff (ht.gathered _ _ rfl)).mp harenaFrequency }
  · intro h
    obtain ⟨t, ht⟩ := Tags.exists_gathers h.readable
    have hread : Tags.read schema s = .ok t :=
      (Tags.read_eq_ok_iff keys_nodup).mpr ⟨by decide, h.legible, ht⟩
    have htags : ofTags t = .ok c :=
      ofTags_eq_ok_iff.mpr ⟨(setting_eq_ok_iff (ht.gathered _ _ rfl)).mpr h.autoElimination,
        (setting_eq_ok_iff (ht.gathered _ _ rfl)).mpr h.deathRate,
        (setting_eq_ok_iff (ht.gathered _ _ rfl)).mpr h.minSize,
        (setting_eq_ok_iff (ht.gathered _ _ rfl)).mpr h.maxSize,
        (setting_eq_ok_iff (ht.gathered _ _ rfl)).mpr h.arenaFrequency⟩
    rw [parse, hread]
    exact htags

end RuleChanges

/-! ## Good lines -/

namespace Spec

/-- The lines of sections of rules that are neither headers nor comments. -/
def ruleLinesFrom : Section → List Line → List Line
  | _, [] => []
  | s, l :: rest =>
    if s = .rules ∧ isComment l.text = false ∧ headerName? l.text = none then
      l :: ruleLinesFrom s rest
    else ruleLinesFrom (s.after l.text) rest

/-- The good lines of rules, each with its number and what it sets. -/
def goodRules (ls : List Line) : List (Nat × RuleChanges) :=
  (ruleLinesFrom .start ls).filterMap fun l =>
    (RuleChanges.parse (String.ofList l.text)).toOption.map (l.number, ·)

/-- The value of a key from the last of the lines that set it. -/
def lastSet {α : Type} (key : RuleChanges → Option α) (good : List (Nat × RuleChanges)) :
    Option α :=
  (good.filterMap fun x => key x.2).getLast?

def overrides (good : List (Nat × RuleChanges)) : RuleChanges where
  autoElimination := lastSet (·.autoElimination) good
  deathRate := lastSet (·.deathRate) good
  minSize := lastSet (·.minSize) good
  maxSize := lastSet (·.maxSize) good
  arenaFrequency := lastSet (·.arenaFrequency) good

theorem lastSet_concat {α : Type} (key : RuleChanges → Option α) (good : List (Nat × RuleChanges))
    (x : Nat × RuleChanges) : lastSet key (good ++ [x]) = (key x.2).or (lastSet key good) := by
  rw [lastSet, filterMap_concat]
  cases hx : key x.2 <;> simp [lastSet]

theorem overrides_concat (good : List (Nat × RuleChanges)) (x : Nat × RuleChanges) :
    overrides (good ++ [x]) = (overrides good).merge x.2 := by
  simp only [overrides, lastSet_concat, RuleChanges.merge]

/-- Merging line after line keeps of every key the last value, and the number of the last line. -/
theorem foldl_merge (good : List (Nat × RuleChanges)) :
    good.foldl (fun s x => (s.1.merge x.2, x.1)) (({} : RuleChanges), 0) =
      (overrides good, (good.getLast?.map (·.1)).getD 0) := by
  induction good using List.reverseRecOn with
  | nil => rfl
  | append_singleton good x ih =>
      rw [List.foldl_append, ih, overrides_concat]
      simp

theorem Block.rules?_of_pair {s : Section} {first second : Line}
    (hpair : Paired s first.text second.text) :
    (Block.mk s first (some second)).effect?.bind Effect.rules? = none := by
  unfold effect? reads
  cases s with
  | start | rules | unknown => cases hpair.hasEntries
  | players =>
      dsimp only
      cases Player.parse _ _ <;> rfl
  | events kind =>
      dsimp only
      cases Event.parse _ _ <;> rfl
  | arenas =>
      dsimp only
      cases Event.parse _ _ <;> rfl

theorem Block.rules?_of_single (s : Section) (l : Line) :
    (Block.mk s l none).effect?.bind Effect.rules? =
      if s = .rules ∧ isComment l.text = false ∧ headerName? l.text = none then
        (RuleChanges.parse (String.ofList l.text)).toOption.map (l.number, ·)
      else none := by
  unfold effect? reads
  cases hcomment : isComment l.text with
  | true => simp
  | false =>
      cases hheader : headerName? l.text with
      | some name => simp
      | none =>
          cases s with
          | rules =>
              simp only [Bool.or_self, Option.isSome_none, Bool.false_eq_true, if_false, and_self,
                if_true]
              cases RuleChanges.parse (String.ofList l.text) <;> rfl
          | start | unknown => rfl
          | players | events => cases quotedText? l.text <;> rfl
          | arenas =>
              cases quotedText? l.text with
              | some text => rfl
              | none => cases arenaOpening? l.text <;> rfl

theorem Splits.goodRules_eq {s : Section} {ls : List Line} {blocks : List Block}
    (h : Splits s ls blocks) :
    (blocks.filterMap Block.effect?).filterMap Effect.rules? =
      (ruleLinesFrom s ls).filterMap fun l =>
        (RuleChanges.parse (String.ofList l.text)).toOption.map (l.number, ·) := by
  rw [List.filterMap_filterMap]
  induction h with
  | nil => rfl
  | @pair s first second rest blocks hpair hrest ih =>
      -- lines in quotes are paired with their metadata in other sections only
      have hsection : s ≠ .rules := by
        rintro rfl
        cases hpair.hasEntries
      rw [List.filterMap_cons, Block.rules?_of_pair hpair, ih, ruleLinesFrom,
        if_neg (by simp [hsection]), hpair.after_eq, ruleLinesFrom, if_neg (by simp [hsection]),
        Section.after_of_not_header hpair.not_header]
  | @single s first rest blocks hsingle hrest ih =>
      rw [ruleLinesFrom, List.filterMap_cons, Block.rules?_of_single, ih]
      split_ifs with hrule
      · rw [List.filterMap_cons, hrule.1, Section.after_of_not_header hrule.2.2]
      · rfl

theorem rules_draftOf (input : String) :
    (draftOf (lines input)).changes = overrides (goodRules (lines input)) ∧
      (draftOf (lines input)).lastRuleLine =
        ((goodRules (lines input)).getLast?.map (·.1)).getD 0 := by
  obtain ⟨blocks, hsplits, hitems⟩ := exists_splits .start (lines input)
  obtain ⟨hentered, -⟩ := takeAll_account entered_empty holds_empty hsplits.paired
    (hsplits.inside_ne_arena (by simp))
  have hrules := hentered.rules
  rw [← hitems, List.nil_append, changesOf, hsplits.goodRules_eq] at hrules
  exact Prod.mk.inj (hrules.trans (foldl_merge _))

/-! ## The rules -/

theorem mem_of_lastSet {α : Type} {key : RuleChanges → Option α} {good : List (Nat × RuleChanges)}
    {a : α} (h : lastSet key good = some a) : ∃ x ∈ good, key x.2 = some a :=
  List.mem_filterMap.mp (List.mem_of_getLast? h)

theorem parsed_of_mem_goodRules {ls : List Line} {x : Nat × RuleChanges} (h : x ∈ goodRules ls) :
    ∃ l ∈ ruleLinesFrom .start ls, x.1 = l.number ∧
      RuleChanges.parse (String.ofList l.text) = .ok x.2 := by
  obtain ⟨l, hl, hx⟩ := List.mem_filterMap.mp h
  obtain ⟨c, hc, rfl⟩ := Option.map_eq_some_iff.mp hx
  refine ⟨l, hl, rfl, ?_⟩
  cases hparse : RuleChanges.parse (String.ofList l.text) with
  | error e => simp [hparse, Except.toOption] at hc
  | ok c' => simpa [hparse, Except.toOption] using hc

theorem mem_of_mem_ruleLinesFrom {s : Section} {ls : List Line} {l : Line}
    (h : l ∈ ruleLinesFrom s ls) : l ∈ ls := by
  induction ls generalizing s with
  | nil => cases h
  | cons first rest ih =>
      rw [ruleLinesFrom] at h
      split_ifs at h
      · rcases List.mem_cons.mp h with rfl | h
        · exact List.mem_cons_self
        · exact List.mem_cons_of_mem _ (ih h)
      · exact List.mem_cons_of_mem _ (ih h)

end Spec

namespace RuleChanges

def bounds (c : RuleChanges) : Length × Length :=
  (c.minSize.getD Rules.standard.minSize, c.maxSize.getD Rules.standard.maxSize)

/-- The rules with a default for every key that is not set. -/
def withDefaults (c : RuleChanges) : Rules where
  autoElimination := c.autoElimination.getD Rules.standard.autoElimination
  deathRate := c.deathRate.getD Rules.standard.deathRate
  minSize := c.bounds.1
  maxSize := c.bounds.2
  arenaFrequency := c.arenaFrequency.getD Rules.standard.arenaFrequency

/-- What is wrong with bounds that are not in order. -/
def contradiction (c : RuleChanges) : SpecError :=
  .invalidValue "minsize" c.bounds.1.text s!"must be below maxsize {c.bounds.2.text}"

theorem ofChanges_eq (c : RuleChanges) :
    Rules.ofChanges c =
      if c.bounds.1.metres ≥ c.bounds.2.metres then .error c.contradiction
      else .ok c.withDefaults := rfl

theorem Sets.apply_eq {α : Type} {values : List (List Char)} {f : String → Except SpecError α}
    {x : Option α} {a : α} (h : Sets values f x) (hx : x = some a) : ∃ s, f s = .ok a := by
  subst hx
  rcases h with ⟨-, hnone⟩ | ⟨value, a', -, ha', hsame⟩
  · cases hnone
  · exact ⟨_, Option.some.inj hsame ▸ ha'⟩

structure FiniteBounds (c : RuleChanges) : Prop where
  minSize : ∀ l, c.minSize = some l → l.metres.isFinite = true
  maxSize : ∀ l, c.maxSize = some l → l.metres.isFinite = true

theorem finiteBounds_of_parse {s : String} {c : RuleChanges} (h : parse s = .ok c) :
    c.FiniteBounds := by
  have hread := parse_eq_ok_iff.mp h
  constructor
  · intro l hl
    obtain ⟨s, hs⟩ := hread.minSize.apply_eq hl
    exact Length.isFinite_of_parse hs
  · intro l hl
    obtain ⟨s, hs⟩ := hread.maxSize.apply_eq hl
    exact Length.isFinite_of_parse hs

theorem FiniteBounds.bounds {c : RuleChanges} (h : c.FiniteBounds) :
    c.bounds.1.metres.isFinite = true ∧ c.bounds.2.metres.isFinite = true := by
  have hgetD : ∀ {bound : Option Length} {default : Length},
      (∀ l, bound = some l → l.metres.isFinite = true) → default.metres.isFinite = true →
        (bound.getD default).metres.isFinite = true := by
    rintro (_ | l) default hbound hdefault
    · exact hdefault
    · exact hbound l rfl
  exact ⟨hgetD h.minSize (by decide +kernel), hgetD h.maxSize (by decide +kernel)⟩

end RuleChanges

namespace Spec

/-- The rules and the problems of a reading with these good lines of rules, where these problems
were noted on the way. -/
structure Assembled (good : List (Nat × RuleChanges)) (noted : List Problem) (r : Reading) :
    Prop where
  inOrder : (overrides good).bounds.1.metres < (overrides good).bounds.2.metres →
    r.contest.rules = (overrides good).withDefaults ∧ r.problems = noted
  /-- Otherwise the last good line is to blame. -/
  contradictory : ¬ (overrides good).bounds.1.metres < (overrides good).bounds.2.metres →
    r.contest.rules = .standard ∧ ∃ last, good.getLast? = some last ∧ 0 < last.1 ∧
      r.problems = noted ++ [⟨last.1, (overrides good).contradiction⟩]
  bounds : r.contest.rules.minSize.metres < r.contest.rules.maxSize.metres
  deathRate : 0 < r.contest.rules.deathRate
  arenaFrequency : 0 < r.contest.rules.arenaFrequency

theorem overrides_finite (ls : List Line) : (overrides (goodRules ls)).FiniteBounds := by
  have hfinite : ∀ x ∈ goodRules ls, x.2.FiniteBounds := by
    intro x hx
    obtain ⟨l, -, -, hparse⟩ := parsed_of_mem_goodRules hx
    exact RuleChanges.finiteBounds_of_parse hparse
  constructor
  · intro l hl
    obtain ⟨x, hx, hset⟩ := mem_of_lastSet hl
    exact (hfinite x hx).minSize l hset
  · intro l hl
    obtain ⟨x, hx, hset⟩ := mem_of_lastSet hl
    exact (hfinite x hx).maxSize l hset

theorem standard_bounds : Rules.standard.minSize.metres < Rules.standard.maxSize.metres := by
  decide +kernel

theorem pos_of_mem_goodRules {input : String} {x : Nat × RuleChanges}
    (h : x ∈ goodRules (lines input)) : 0 < x.1 := by
  obtain ⟨l, hl, hline, -⟩ := parsed_of_mem_goodRules h
  rw [hline]
  exact (rawLine_of_mem_lines (mem_of_mem_ruleLinesFrom hl)).1

theorem assembled_readLines {input : String} (h : lines input ≠ []) :
    Assembled (goodRules (lines input)) (notedProblems (lines input))
      (readLines (lines input)) := by
  have hrates := drawable_of_parse (parse_eq_of_ne_nil h)
  obtain ⟨hmin, hmax⟩ := (overrides_finite (lines input)).bounds
  have hlt := Number.lt_iff_not_ge (Number.isNaN_of_isFinite hmin) (Number.isNaN_of_isFinite hmax)
  have hread : readLines (lines input) =
      (draftOf (lines input)).finish (notedProblems (lines input)) := rfl
  obtain ⟨hchanges, hlast⟩ := rules_draftOf input
  rw [Draft.finish, hchanges, RuleChanges.ofChanges_eq, hlast] at hread
  split_ifs at hread with hge
  · -- without a good line the bounds are the standard ones, which are in order
    have hne : goodRules (lines input) ≠ [] := by
      intro hnone
      rw [hnone] at hge hlt
      exact hlt.mp standard_bounds hge
    obtain ⟨x, hx⟩ := Option.isSome_iff_exists.mp (List.getLast?_isSome.mpr hne)
    have hpos := pos_of_mem_goodRules (List.mem_of_getLast? hx)
    rw [hx] at hread
    refine ⟨fun hbounds => absurd hge (hlt.mp hbounds), fun _ => ?_, ?_, hrates.deathRate_pos,
      hrates.arenaFrequency_pos⟩
    · rw [hread]
      exact ⟨rfl, x, hx, hpos, rfl⟩
    · rw [hread]
      exact standard_bounds
  · have hbounds := hlt.mpr hge
    refine ⟨fun _ => ?_, fun hcontrary => absurd hbounds hcontrary, ?_, hrates.deathRate_pos,
      hrates.arenaFrequency_pos⟩
    · rw [hread]
      exact ⟨rfl, rfl⟩
    · rw [hread]
      exact hbounds

theorem lines_eq_nil {input : String} (h : ∀ raw ∈ rawLines input, Text.trim raw = []) :
    lines input = [] := by
  apply List.eq_nil_iff_forall_not_mem.mpr
  intro l hl
  obtain ⟨-, raw, hraw, hne⟩ := rawLine_of_mem_lines hl
  exact hne (h raw (List.mem_of_getElem? hraw))

/-- The rules of a spec.  A line of rules sets something just where each of its keys can be read; of
every key the last value counts.  With defaults for the others these are the rules of the contest,
unless the bounds contradict each other: then the standard rules are, with one problem more.  Only
a spec without any text is refused. -/
theorem assembled_of_parse (input : String) :
    (∀ text changes,
      RuleChanges.parse text = .ok changes ↔ changes.IsReadFrom (Tags.items text)) ∧
    (draftOf (lines input)).changes = overrides (goodRules (lines input)) ∧
    ((∃ raw ∈ rawLines input, Text.trim raw ≠ []) → ∃ reading, parse input = .ok reading ∧
      Assembled (goodRules (lines input)) (notedProblems (lines input)) reading) ∧
    ((∀ raw ∈ rawLines input, Text.trim raw = []) → parse input = .error .emptySpec) := by
  refine ⟨fun _ _ => RuleChanges.parse_eq_ok_iff, (rules_draftOf input).1, ?_, ?_⟩
  · intro htext
    have hlines := lines_ne_nil htext
    exact ⟨_, parse_eq_of_ne_nil hlines, assembled_readLines hlines⟩
  · intro hblank
    rw [parse, if_pos (lines_eq_nil hblank)]

/-- A spec with rules before and after the players.  One of its lines has a rate of zero, and the
last one puts the lower bound above the upper. -/
def tightSpec : String :=
  "[setup]\nmaxsize:2m, deathrate:3\nminsize:1m\nautoelim:no, arenafreq:0\n" ++
  "[players]\n\"Ann\"\ngender:F, height:1m\n[SETUP]\n# bounds\nminsize:3m\n"

/-- The switch of the bad line stays unset, and the standard rules stand in for all the others. -/
theorem assembled_of_tight :
    (∃ raw ∈ rawLines tightSpec, Text.trim raw ≠ []) ∧
    ∃ reading, parse tightSpec = .ok reading ∧
      Assembled (goodRules (lines tightSpec)) (notedProblems (lines tightSpec)) reading ∧
      overrides (goodRules (lines tightSpec)) =
        { deathRate := some 3, minSize := some ⟨3.0⟩, maxSize := some ⟨2.0⟩ } ∧
      reading.contest.rules = .standard ∧ reading.problems.map (·.line) = [4, 10] := by
  have htext : ∃ raw ∈ rawLines tightSpec, Text.trim raw ≠ [] := by
    rw [rawLines, ← Text.chars_eq_toList]
    decide +kernel
  obtain ⟨reading, hparse, hassembled⟩ := (assembled_of_parse tightSpec).2.2.1 htext
  have hset : overrides (goodRules (lines tightSpec)) =
      { deathRate := some 3, minSize := some ⟨3.0⟩, maxSize := some ⟨2.0⟩ } := by
    rw [lines_eq_linesOf]
    decide +kernel
  obtain ⟨reading', hparse', hreading⟩ :=
    exists_of_parse tightSpec
      (P := fun reading => reading.contest.rules = .standard ∧
        reading.problems.map (·.line) = [4, 10])
      (by decide +kernel)
  obtain rfl : reading = reading' := Except.ok.inj (hparse.symm.trans hparse')
  exact ⟨htext, reading, hparse, hassembled, hset, of_decide_eq_true hreading⟩

end Spec
end Tournament
