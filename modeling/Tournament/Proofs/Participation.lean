import Tournament.Proofs.Advance

/-!
# Who takes part in a round

A round that is reported has placed players who were alive when it began, each at most once, and in
a contest that was still open before each of its events.  If the contest is open after it too, it
has placed everyone.
-/

namespace Tournament

open Draw (Source)

variable {σ : Type}

/-- A placing of somebody, in a contest that is not decided, that ends in good order takes a turn. -/
theorem Placing.turns_ne_nil {pool : List Nat} {c c' : Contest} {turns : List Turn}
    (h : Placing pool c turns none c') (hpool : pool ≠ []) (hopen : c.isOver = false) :
    turns ≠ [] := by
  cases h with
  | finished hend =>
      rcases hend with hnil | hover
      · exact absurd hnil hpool
      · rw [hopen] at hover
        cases hover
  | turn => exact List.cons_ne_nil _ _

namespace Game

/-- What a reported round from `g` owes its players, where `turns` are its events as they were
played. -/
structure Participation (g : Game σ) (turns : List Turn) (report : RoundReport) : Prop where
  events_eq : report.events = turns.map Turn.report
  events_ne_nil : report.events ≠ []
  isOver_eq : ∀ t ∈ turns, t.before.isOver = false
  nodup_places : (turns.flatMap Turn.ids).Nodup
  alive_places : ∀ i ∈ turns.flatMap Turn.ids, g.contest.isAliveAt i = true
  nodup_players : (report.events.flatMap (·.players)).Nodup
  alive_players : ∀ name ∈ report.events.flatMap (·.players),
    ∃ p ∈ g.contest.alivePlayers, p.name = name
  /-- Unless the round decides the contest, the players of its events are the living ones, each
  once. -/
  everyone : report.winner = none →
    (report.events.flatMap (·.players)).Perm (g.contest.alivePlayers.map (·.name))

theorem Advances.participation {src : Source σ} {g g' : Game σ} {turns : List Turn}
    {report : RoundReport} (h : Advances src g turns (.ok report) g')
    (hnames : g.contest.DistinctNames) : Participation g turns report := by
  obtain ⟨hopen, hevents, hwinner⟩ := h.report_eq
  have hplacing := h.placing
  have hnodup := hplacing.nodup_ids g.contest.nodup_aliveIds
  have hplayers : report.events.flatMap (·.players) =
      g.contest.namesAt (turns.flatMap Turn.ids) := by
    rw [hevents, hplacing.flatMap_players]
  refine ⟨hevents, ?_, ?_, hnodup, ?_, ?_, ?_, ?_⟩
  · rw [hevents]
    have hturns := hplacing.turns_ne_nil (Contest.aliveIds_ne_nil hopen) hopen
    exact List.map_eq_nil_iff.not.mpr hturns
  · exact fun t ht => (hplacing.before_of_mem t ht).2
  · exact fun i hi => Contest.mem_aliveIds.mp (hplacing.mem_pool i hi)
  · rw [hplayers]
    exact hnames.nodup_namesAt hnodup
  · intro name hname
    rw [hplayers] at hname
    rw [← List.mem_map, Contest.map_name_alivePlayers]
    obtain ⟨i, hi, hat⟩ := List.mem_filterMap.mp hname
    exact List.mem_filterMap.mpr ⟨i, hplacing.mem_pool i hi, hat⟩
  · intro hnone
    -- the contest is open after the round, so the placing has left nobody over
    obtain ⟨rest, hperm, hrest⟩ := hplacing.exists_perm g.contest.nodup_aliveIds
    have hopen' : g'.contest.isOver = false := by
      rw [Contest.isOver, ← hwinner, hnone]
      rfl
    rw [hrest rfl hopen', List.append_nil] at hperm
    rw [hplayers, Contest.map_name_alivePlayers]
    exact hperm.filterMap _

theorem participation_of_advance {src : Source σ} {g g' : Game σ} {report : RoundReport}
    (hg : Reachable src g) (h : g.advance src = (.ok report, g')) :
    ∃ turns, Advances src g turns (.ok report) g' ∧ Participation g turns report := by
  obtain ⟨turns, hadvances⟩ := exists_advances src g
  rw [h] at hadvances
  exact ⟨turns, hadvances, hadvances.participation hg.distinctNames⟩

/-- Two players and an event for one of them: the bloodbath is a round of two events. -/
theorem participation_of_waiting :
    ∃ (reading : Spec.Reading) (report : RoundReport) (g' : Game Unit) (turns : List Turn),
      (start reading.contest "" ()).advance .first = (.ok report, g') ∧
      report.events.length = 2 ∧ report.winner = none ∧
      Participation (start reading.contest "" ()) turns report := by
  obtain ⟨reading, report, g', hparse, hadvance, hreport⟩ :=
    exists_of_advance .first
      ("[players]\n\"Ann\"\ngender:F, height:1m\n\"Bo\"\ngender:M, height:1m\n" ++
        "[bloodbath]\n\"%1% waits.\"\ntributes:1\n")
      "" () 0 (fun report => report.events.length = 2 ∧ report.winner = none) (by decide +kernel)
  obtain ⟨turns, -, hturns⟩ := participation_of_advance (.start hparse "" ()) hadvance
  obtain ⟨hlength, hwinner⟩ := of_decide_eq_true hreport
  exact ⟨reading, report, g', turns, hadvance, hlength, hwinner, hturns⟩

end Game
end Tournament
