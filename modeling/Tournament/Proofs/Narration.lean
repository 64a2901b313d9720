import Tournament.Proofs.Clauses
import Tournament.Proofs.Fitting
import Tournament.Proofs.Provenance

/-!
# What the players of a reported event have met

A slot demands what its clauses say.  Who passes the check of a slot meets each clause that no later
one takes the place of, one of those that list genders, and all of them where no two are of one
kind; a bound on the height is met just where the height is a number (`meetsClauses_of_passed`).
This is what is known of the players of every event that a round reports
(`Game.provenance_of_advance`).
-/

namespace Tournament

open Draw (Keystream Source seeded)

variable {σ : Type}

/-! ## Clauses that count -/

/-- A later clause takes the place of an earlier one: both set one bound, or both name a team. -/
def Requirement.Overrides (later earlier : Requirement) : Prop :=
  earlier.SharesBound later ∨ earlier.team ≠ none ∧ later.team ≠ none

/-- One of the clauses that none after it takes the place of. -/
def Stands (clauses : List Requirement) (s : Requirement) : Prop :=
  ∃ before after, clauses = before ++ s :: after ∧ ∀ later ∈ after, ¬ later.Overrides s

theorem Stands.lasts {clauses : List Requirement} {s : Requirement} (h : Stands clauses s) :
    Lasts clauses s := by
  obtain ⟨before, after, hclauses, hafter⟩ := h
  exact ⟨before, after, hclauses, fun later hlater hshares => hafter later hlater (.inl hshares)⟩

/-- How far a player meets the clauses of a slot, each taken as a slot by itself. -/
structure MeetsClauses (clauses : List Requirement) (real : Char → Char) (p : Player) : Prop where
  /-- A clause that stands is met, unless it bounds a height that is not a number. -/
  stands : ∀ s, Stands clauses s → s.genders = [] →
    s.OthersMet real p ∧ (s.HeightMet p ↔ s.Comparable p)
  genders : (∃ s ∈ clauses, s.genders ≠ []) → ∃ s ∈ clauses, s.genders ≠ [] ∧ s.Met real p
  /-- Each clause is met where no two are of one kind, items and attributes apart, and no bound is
  compared with what is not a number. -/
  all : (clauses.Pairwise fun s later =>
      ¬ later.Overrides s ∧ (s.genders = [] ∨ later.genders = [])) →
    (∀ s ∈ clauses, s.Comparable p) → ∀ s ∈ clauses, s.Met real p

theorem Requirement.passed_iff_accepts {r : Requirement} {real : Char → Char} {p : Player} :
    r.Passed real p ↔
      r.Accepts none p ∧ ∀ letter ∈ r.team, p.team = some (real letter) := by
  rw [← r.admits_iff_passed, r.admits_iff_accepts]
  constructor
  · intro h
    refine ⟨⟨h.bounds, h.gender, h.items, h.attributes, by simp⟩, ?_⟩
    intro letter hletter
    exact h.team _ (by rw [Option.mem_def.mp hletter]; rfl)
  · rintro ⟨h, hteam⟩
    refine ⟨h.bounds, h.gender, h.items, h.attributes, ?_⟩
    intro letter hletter
    obtain ⟨abstract, habstract, rfl⟩ := Option.map_eq_some_iff.mp hletter
    exact hteam abstract habstract

theorem Requirement.comparable_of_bound_eq_none {r : Requirement} (h : ∀ b, r.bound b = none)
    (p : Player) : r.Comparable p := by
  intro _
  exact ⟨Option.map_eq_none_iff.mp (h .shorter), Option.map_eq_none_iff.mp (h .taller)⟩

section

variable {clauses : List Clause} {real : Char → Char} {p : Player}

/-- A team that a clause names is that of the whole slot if the clause stands. -/
theorem team_total_of_stands {s : Requirement} (hs : Stands (clauses.map Clause.slot) s)
    {letter : Char} (hletter : s.team = some letter) : (total clauses).team = some letter := by
  obtain ⟨before, after, hclauses, hafter⟩ := hs
  refine (@last_total_eq_some_iff clauses _ (·.team) rfl (fun c r => c.team_add r) letter).mpr
    ⟨before, s, after, hclauses, hletter, ?_⟩
  intro later hlater
  by_contra hnamed
  exact hafter later hlater (.inr ⟨by simp [hletter], hnamed⟩)

theorem meetsClauses_stands (hfinite : ∀ s ∈ clauses.map Clause.slot, s.FiniteBounds)
    (h : (total clauses).Passed real p) {s : Requirement}
    (hs : Stands (clauses.map Clause.slot) s) (hgenders : s.genders = []) :
    s.OthersMet real p ∧ (s.HeightMet p ↔ s.Comparable p) := by
  obtain ⟨haccepts, hteam⟩ := Requirement.passed_iff_accepts.mp h
  have hpassed : s.Passed real p := by
    refine Requirement.passed_iff_accepts.mpr ⟨accepts_of_lasts haccepts hs.lasts hgenders, ?_⟩
    exact fun letter hletter => hteam letter (team_total_of_stands hs hletter)
  obtain ⟨before, after, hclauses, -⟩ := hs
  have hmem : s ∈ clauses.map Clause.slot := by simp [hclauses]
  exact ⟨hpassed.others, Requirement.heightMet_iff hpassed.height (hfinite s hmem)⟩

theorem meetsClauses_genders (hfinite : ∀ s ∈ clauses.map Clause.slot, s.FiniteBounds)
    (h : (total clauses).Passed real p)
    (hgenders : ∃ s ∈ clauses.map Clause.slot, s.genders ≠ []) :
    ∃ s ∈ clauses.map Clause.slot, s.genders ≠ [] ∧ s.Met real p := by
  obtain ⟨haccepts, -⟩ := Requirement.passed_iff_accepts.mp h
  obtain ⟨s, hs, hne, haccepts⟩ := exists_accepts_of_genders haccepts hgenders
  obtain ⟨c, -, rfl⟩ := List.mem_map.mp hs
  -- a clause that lists genders demands nothing else
  obtain ⟨hbounds, -, -, hteam⟩ := Clause.only_genders hne
  have hpassed : c.slot.Passed real p :=
    Requirement.passed_iff_accepts.mpr ⟨haccepts, by simp [hteam]⟩
  have hheight := (Requirement.heightMet_iff hpassed.height (hfinite _ hs)).mpr
    (Requirement.comparable_of_bound_eq_none hbounds p)
  exact ⟨_, hs, hne, hheight, hpassed.others⟩

theorem meetsClauses_of_passed (hfinite : ∀ s ∈ clauses.map Clause.slot, s.FiniteBounds)
    (h : (total clauses).Passed real p) : MeetsClauses (clauses.map Clause.slot) real p := by
  refine ⟨fun s => meetsClauses_stands hfinite h, meetsClauses_genders hfinite h, ?_⟩
  intro hpairwise hcomparable s hs
  obtain ⟨before, after, hclauses⟩ := List.append_of_mem hs
  rw [hclauses, List.pairwise_append, List.pairwise_cons] at hpairwise
  obtain ⟨-, ⟨hafter, -⟩, hbefore⟩ := hpairwise
  by_cases hgenders : s.genders = []
  · obtain ⟨hothers, hheight⟩ := meetsClauses_stands hfinite h
      ⟨before, after, hclauses, fun later hlater => (hafter later hlater).1⟩ hgenders
    exact ⟨hheight.mpr (hcomparable s hs), hothers⟩
  · obtain ⟨s', hs', hgenders', hmet⟩ := meetsClauses_genders hfinite h ⟨s, hs, hgenders⟩
    -- no other clause lists genders
    rw [hclauses] at hs'
    rcases List.mem_append.mp hs' with hs' | hs'
    · exact absurd (hbefore s' hs' s List.mem_cons_self).2 (by simp [hgenders, hgenders'])
    rcases List.mem_cons.mp hs' with rfl | hs'
    · exact hmet
    · exact absurd (hafter s' hs').2 (by simp [hgenders, hgenders'])

end

/-! ## Slots of an event -/

/-- The clauses of a suffix, each read as a slot by itself. -/
def ClausesOf (suffix : List Char) (clauses : List Requirement) : Prop :=
  List.Forall₂ (fun part s => Requirement.parse part = .ok s) (Text.splitBy (· = '&') suffix)
    clauses

theorem Requirement.exists_of_addClauses {parts : List (List Char)} {r r' : Requirement}
    (h : r.addClauses parts = .ok r') :
    ∃ clauses : List Clause, r' = clauses.foldl (fun r c => c.add r) r ∧
      List.Forall₂ (fun part s => ({} : Requirement).addClause part = .ok s) parts
        (clauses.map Clause.slot) := by
  induction parts generalizing r with
  | nil =>
      obtain rfl := Except.ok.inj h
      exact ⟨[], rfl, .nil⟩
  | cons part parts ih =>
      rw [addClauses] at h
      cases hpart : r.addClause part with
      | error e => simp [hpart] at h
      | ok r₁ =>
          rw [hpart] at h
          obtain ⟨c, hc⟩ := exists_clause hpart
          obtain rfl := Except.ok.inj ((hc r).symm.trans hpart)
          obtain ⟨clauses, rfl, hparts⟩ := ih h
          exact ⟨c :: clauses, rfl, .cons (hc {}) hparts⟩

theorem Requirement.exists_clausesOf {suffix : List Char} {r : Requirement}
    (h : parse suffix = .ok r) :
    ∃ clauses : List Clause, r = total clauses ∧ ClausesOf suffix (clauses.map Clause.slot) := by
  obtain ⟨clauses, rfl, hparts⟩ := exists_of_addClauses h
  refine ⟨clauses, rfl, ?_⟩
  have hboth := (List.forall₂_and_left (p := (· ∈ Text.splitBy (· = '&') suffix)) _ _).mpr
    ⟨fun _ hpart => hpart, hparts⟩
  exact hboth.imp fun part s hs => (parse_clause hs.1).trans hs.2

/-- The players play the event in a contest, where its abstract teams stand for different teams with
a living player: there is one for every slot, in slot order, who meets what its clauses demand. -/
def Event.ServedBy (e : Event) (c : Contest) (players : List Player) : Prop :=
  ∃ ps real, Scans e.text.toList ps ∧ e.Assigns c real ∧
    List.Forall₂ (fun slot p => ∃ suffix clauses, Names ps slot suffix ∧
      ClausesOf suffix clauses ∧ MeetsClauses clauses real p) (List.range' 1 e.tributes) players

theorem Event.PlayableBy.servedBy {text metadata : String} {e : Event} {c : Contest}
    {players : List Player} (h : e.PlayableBy c players) (hparse : parse text metadata = .ok e) :
    e.ServedBy c players := by
  obtain ⟨-, hread⟩ := isReadFrom_of_parse hparse
  obtain ⟨real, hassigns, hpassed⟩ := h
  refine ⟨pieces text.toList, real, ?_, hassigns, ?_⟩
  · rw [hread.text_eq]
    exact scans_pieces _
  refine (forall₂_comp hread.slots hpassed).imp ?_
  rintro slot p ⟨r, ⟨suffix, hnames, hr⟩, hp⟩
  obtain ⟨clauses, rfl, hclauses⟩ := Requirement.exists_clausesOf hr
  refine ⟨suffix, _, hnames, hclauses, meetsClauses_of_passed ?_ hp⟩
  exact forall_mem_right hclauses fun _ _ _ hs => Requirement.finiteBounds_of_parse hs

/-! ## Reported rounds -/

/-- A turn as it is told: it is of such an origin, and the players, told in slot order, are those
who play the event in the contest as it stood then. -/
structure Narrated (c : Contest) (round : RoundKind) (arena : Option Arena) (t : Turn) : Prop
    extends Origin c round arena t where
  players : ∃ players, t.before.PlayersAt t.ids players ∧ t.event.ServedBy t.before players ∧
    t.report.players = players.map (·.name) ∧ t.report.text = t.event.render players

def Event.IsRead (e : Event) : Prop :=
  ∃ text metadata, parse text metadata = .ok e

theorem Provenance.narrated {c : Contest} {round : RoundKind} {arena : Option Arena} {t : Turn}
    (h : Provenance c round arena t) (hc : c.EveryEvent Event.IsRead) :
    Narrated c round arena t := by
  obtain ⟨text, metadata, hparse⟩ := h.toOrigin.of_everyEvent hc
  obtain ⟨players, hplayers, hplayable, htold⟩ := h.players
  exact ⟨h.toOrigin, players, hplayers, hplayable.servedBy hparse, htold⟩

namespace Game

theorem Reachable.everyEvent {src : Source σ} {g : Game σ} (hg : Reachable src g) :
    g.contest.EveryEvent Event.IsRead := by
  induction hg with
  | start hparse =>
      exact Spec.everyEvent_of_parse (fun text metadata _ h => ⟨text, metadata, h⟩) hparse
  | advance _ ih => exact (keeps_advance src _).everyEvent ih

/-- Every event of a reported round is one of the source that its kind names, played by players who
met what the clauses of its slots demand, as far as these count: the turns follow on each other from
the contest before the round to the one after it. -/
theorem provenance_of_advance {src : Source σ} {g g' : Game σ} {report : RoundReport}
    (hg : Reachable src g) (h : g.advance src = (.ok report, g')) :
    ∃ (turns : List Turn) (arena : Option Arena), report.events = turns.map Turn.report ∧
      Chained g.contest turns g'.contest ∧ report.arena = arena.map (·.name) ∧
      ∀ t ∈ turns, Narrated g.contest report.round arena t := by
  obtain ⟨turns, hadvances⟩ := exists_advances src g
  rw [h] at hadvances
  obtain ⟨arena, harena, hprovenance⟩ := hadvances.provenance
  exact ⟨turns, arena, hadvances.report_eq.2.1, hadvances.placing.chained, harena,
    fun t ht => (hprovenance t ht).narrated hg.everyEvent⟩

/-- Two of one team chase a small player of another, and who is left watches. -/
theorem provenance_of_chase :
    ∃ (reading : Spec.Reading) (report : RoundReport) (g' : Game Unit) (turns : List Turn)
      (arena : Option Arena),
      (start reading.contest "" ()).advance .first = (.ok report, g') ∧
      report.events.map (·.text) = ["Cy and Ann chase Bo.", "Di watches herself."] ∧
      report.events = turns.map Turn.report ∧ Chained reading.contest turns g'.contest ∧
      ∀ t ∈ turns, Narrated reading.contest report.round arena t := by
  obtain ⟨reading, report, g', hparse, hadvance, hreport⟩ :=
    exists_of_advance .first
      ("[players]\n\"Ann\"\nteam:A, gender:F, height:1m\n\"Bo\"\nteam:B, gender:M, height:2m\n" ++
        "\"Cy\"\nteam:A, gender:M, height:3m\n\"Di\"\nteam:B, gender:F, height:3m\n" ++
        "[bloodbath]\n\"%1:X% and %2:X% chase %3:Y&<2.5m%.\"\ntributes:3\n" ++
        "\"%1>2m% watches %p:1self%.\"\ntributes:1\n")
      "" () 0
      (fun report => report.events.map (·.text) = ["Cy and Ann chase Bo.", "Di watches herself."])
      (by decide +kernel)
  obtain ⟨turns, arena, hevents, hchained, -, hnarrated⟩ :=
    provenance_of_advance (.start hparse "" ()) hadvance
  exact ⟨reading, report, g', turns, arena, hadvance, of_decide_eq_true hreport, hevents, hchained,
    hnarrated⟩

/-- A spec in which two players of no height at all fade, and by day hide, who are shorter than one
metre and taller than two. -/
def fadeSpec : String :=
  "[setup]\nautoelim:no\n[players]\n\"Ann\"\ngender:F, height:0m\n\"Bo\"\ngender:M, height:0m\n" ++
  "[bloodbath]\n\"%1% fades.\"\ntributes:1, size:1:/1e-320\n" ++
  "[day]\n\"%1<1m&>2m% hides.\"\ntributes:1\n"

/-- The day is reported with both players hiding, though nobody is within the bounds. -/
theorem fade_narrates_nobody_fit :
    ∃ (reading : Spec.Reading) (g : Game Keystream) (report : RoundReport) (e : Event),
      Spec.parse fadeSpec = .ok reading ∧ reading.contest.pools.of .day = [e] ∧
      g = (start reading.contest "fade" (Keystream.ofSeed "fade")).later seeded 1 ∧
      (g.advance seeded).1 = .ok report ∧
      report.events.map (·.text) = ["Ann hides.", "Bo hides."] ∧
      (∀ a ∈ report.events, a.kind = .day) ∧
      ∀ p ∈ g.contest.roster, ∀ r ∈ e.slots, ¬ r.HeightMet p := by
  obtain ⟨reading, hparse, hreading⟩ :=
    Spec.exists_of_parse fadeSpec
      (P := fun reading =>
        let g := (start reading.contest "fade" (Keystream.ofSeed "fade")).later seeded 1
        (g.advance seeded).1.toOption.any (fun report =>
          report.events.map (·.text) = ["Ann hides.", "Bo hides."] ∧
            ∀ a ∈ report.events, a.kind = .day) ∧
          (reading.contest.pools.of .day).length = 1 ∧
          ∀ e ∈ reading.contest.pools.of .day, ∀ p ∈ g.contest.roster, ∀ r ∈ e.slots,
            ¬ r.HeightMet p)
      (by decide +kernel)
  obtain ⟨hreport, hlength, hbounds⟩ := of_decide_eq_true hreading
  obtain ⟨report, hresult, hreport⟩ := exists_of_any hreport
  obtain ⟨htexts, hkinds⟩ := of_decide_eq_true hreport
  obtain ⟨e, he⟩ := List.length_eq_one_iff.mp hlength
  exact ⟨reading, _, report, e, hparse, he, rfl, hresult, htexts, hkinds, hbounds e (by simp [he])⟩

end Game
end Tournament
