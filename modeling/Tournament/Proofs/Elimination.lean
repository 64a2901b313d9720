import Tournament.Proofs.Advance

/-!
# Who is put out

Nobody comes back: whether a call succeeds or fails, who is out before it is out after it, since it
plays its events with living players only and with each at most once.  A reported round names those
it puts out, each once.
-/

namespace Tournament

open Draw (Source)

variable {σ : Type}

namespace Game

theorem Advances.alive_of_alive {src : Source σ} {g g' : Game σ} {turns : List Turn}
    {result : Except GameError RoundReport} (h : Advances src g turns result g') {i : Nat}
    (halive : g'.contest.isAliveAt i = true) : g.contest.isAliveAt i = true := by
  by_contra hout
  have hi : i ∉ g.contest.aliveIds := fun hmem => hout (Contest.mem_aliveIds.mp hmem)
  rw [h.placing.actsOn.isAliveAt_eq hi] at halive
  exact hout halive

theorem alive_of_later {src : Source σ} {g : Game σ} {n i : Nat}
    (h : (g.later src n).contest.isAliveAt i = true) : g.contest.isAliveAt i = true := by
  induction n generalizing g with
  | zero => exact h
  | succ n ih =>
      obtain ⟨turns, hadvances⟩ := exists_advances src g
      exact hadvances.alive_of_alive (ih h)

theorem Advances.nodup_eliminated {src : Source σ} {g g' : Game σ} {turns : List Turn}
    {report : RoundReport} (h : Advances src g turns (.ok report) g')
    (hnames : g.contest.DistinctNames) : (report.events.flatMap (·.eliminated)).Nodup := by
  have hplacing := h.placing
  rw [h.report_eq.2.1, hplacing.flatMap_eliminated]
  apply hnames.nodup_namesAt
  exact (hplacing.nodup_ids g.contest.nodup_aliveIds).sublist (Placing.out_sublist_ids turns)

/-- Those who are reported to be put out are those who are alive before the round and not after
it. -/
theorem Advances.mem_eliminated_iff {src : Source σ} {g g' : Game σ} {turns : List Turn}
    {report : RoundReport} (h : Advances src g turns (.ok report) g')
    (hnames : g.contest.DistinctNames) (name : String) :
    name ∈ report.events.flatMap (·.eliminated) ↔
      name ∈ g.contest.alivePlayers.map (·.name) ∧
        name ∉ g'.contest.alivePlayers.map (·.name) := by
  have hplacing := h.placing
  have hafter : g'.contest.namesAt g'.contest.aliveIds = g.contest.namesAt g'.contest.aliveIds := by
    unfold Contest.namesAt
    rw [hplacing.actsOn.toKeeps.nameAt?_eq]
  rw [h.report_eq.2.1, hplacing.flatMap_eliminated, Contest.map_name_alivePlayers,
    Contest.map_name_alivePlayers, hafter]
  by_cases hname : ∃ i, g.contest.nameAt? i = some name
  · obtain ⟨i, hi⟩ := hname
    have hout := hplacing.mem_out_iff (fun j hj => Contest.mem_aliveIds.mp hj) i
    rw [hnames.mem_namesAt_iff hi, hnames.mem_namesAt_iff hi, hnames.mem_namesAt_iff hi, hout,
      Contest.mem_aliveIds, Contest.mem_aliveIds, Bool.not_eq_true]
  · -- nobody in the roster has this name
    have hno : ∀ ids, name ∉ g.contest.namesAt ids := by
      intro ids hmem
      obtain ⟨i, -, hi⟩ := List.mem_filterMap.mp hmem
      exact hname ⟨i, hi⟩
    simp [hno]

/-- Whatever calls return, nobody comes back, neither by a call nor by an event in it; and a
reported round names those it puts out, each once. -/
theorem elimination_is_final {src : Source σ} {g : Game σ} (hg : Reachable src g) :
    (∀ n i, (g.later src n).contest.isAliveAt i = true → g.contest.isAliveAt i = true) ∧
    (∀ turns result g', Advances src g turns result g' → ∀ t ∈ turns, ∀ i,
      t.after.isAliveAt i = true → t.before.isAliveAt i = true) ∧
    ∀ report g', g.advance src = (.ok report, g') →
      (report.events.flatMap (·.eliminated)).Nodup ∧
      ∀ name, name ∈ report.events.flatMap (·.eliminated) ↔
        name ∈ g.contest.alivePlayers.map (·.name) ∧
          name ∉ g'.contest.alivePlayers.map (·.name) := by
  refine ⟨fun n i => alive_of_later, ?_, ?_⟩
  · intro turns result g' h
    exact h.placing.alive_of_after fun i hi => Contest.mem_aliveIds.mp hi
  · intro report g' h
    obtain ⟨turns, hadvances⟩ := exists_advances src g
    rw [h] at hadvances
    exact ⟨hadvances.nodup_eliminated hg.distinctNames,
      hadvances.mem_eliminated_iff hg.distinctNames⟩

/-- Of three players two drown in the bloodbath. -/
theorem elimination_of_drowning :
    ∃ (reading : Spec.Reading) (report : RoundReport) (g' : Game Unit),
      (start reading.contest "" ()).advance .first = (.ok report, g') ∧
      report.events.flatMap (·.eliminated) = ["Bo", "Cy"] ∧
      "Bo" ∈ (start reading.contest "" ()).contest.alivePlayers.map (·.name) ∧
      "Bo" ∉ g'.contest.alivePlayers.map (·.name) := by
  obtain ⟨reading, report, g', hparse, hadvance, hreport⟩ :=
    exists_of_advance .first
      ("[players]\n\"Ann\"\ngender:F, height:1m\n\"Bo\"\ngender:M, height:1m\n" ++
        "\"Cy\"\ngender:M, height:1m\n[bloodbath]\n\"%1% drowns.\"\ntributes:1, elim:1\n")
      "" () 0 (fun report => report.events.flatMap (·.eliminated) = ["Bo", "Cy"])
      (by decide +kernel)
  have heliminated := of_decide_eq_true hreport
  have hfinal := (elimination_is_final (.start hparse "" ())).2.2 report g' hadvance
  have hbo := (hfinal.2 "Bo").mp (by rw [heliminated]; exact List.mem_cons_self)
  exact ⟨reading, report, g', hadvance, heliminated, hbo⟩

end Game
end Tournament
