import Tournament.Proofs.Evaluation
import Tournament.Proofs.Roster

/-!
# Drafts

What taking in the items of a spec can do is listed by `Draft.Takes`, and what all of it preserves
holds of every contest that is read from a spec.  Players enter a draft one at a time, each under a
name that is not taken, so no two players of such a contest have the same name.
-/

namespace Tournament.Spec

/-- `Takes d i d'`: taking the item `i` into the draft `d` gives `d'`. -/
inductive Draft.Takes (d : Draft) (i : Numbered) : Draft → Prop where
  /-- A comment, a header or a line of an unknown section. -/
  | nothing : Takes d i d
  | rules {text : List Char} {changes : RuleChanges}
      (hparse : RuleChanges.parse (String.ofList text) = .ok changes) :
      Takes d i { d with changes := d.changes.merge changes, lastRuleLine := i.line }
  | player {name metadata : List Char} {p : Player}
      (hparse : Player.parse (String.ofList name) (String.ofList metadata) = .ok p)
      (hfresh : ∀ q ∈ d.players, q.name ≠ p.name) :
      Takes d i { d with players := d.players ++ [p] }
  | event {kind : RoundKind} {text metadata : List Char} {e : Event}
      (hparse : Event.parse (String.ofList text) (String.ofList metadata) = .ok e) :
      Takes d i { d with pools := d.pools.add kind e }
  | arenaEvent {text metadata : List Char} {e : Event} {arenas : List Arena}
      (hparse : Event.parse (String.ofList text) (String.ofList metadata) = .ok e)
      (hadd : addToLast e d.arenas = some arenas) : Takes d i { d with arenas }
  | arenaOpening (name description : List Char) :
      Takes d i { d with
        arenas := d.arenas ++ [⟨String.ofList name, String.ofList description, []⟩] }

theorem Draft.takes_of_take {d d' : Draft} {i : Numbered} (h : d.take i = .ok d') :
    d.Takes i d' := by
  unfold Draft.take at h
  cases hitem : i.item with
  | comment | header | ignored =>
      simp only [hitem, Except.ok.injEq] at h
      exact h ▸ .nothing
  | unpairedQuote | unquoted | outside => simp [hitem] at h
  | rules text =>
      simp only [hitem] at h
      cases hparse : RuleChanges.parse (String.ofList text) with
      | error e => simp [hparse, Except.map] at h
      | ok changes =>
          simp only [hparse, Except.map, Except.ok.injEq] at h
          exact h ▸ .rules hparse
  | event kind text metadata =>
      simp only [hitem] at h
      cases hparse : Event.parse (String.ofList text) (String.ofList metadata) with
      | error e => simp [hparse, Except.map] at h
      | ok event =>
          simp only [hparse, Except.map, Except.ok.injEq] at h
          exact h ▸ .event hparse
  | arenaEvent text metadata =>
      simp only [hitem] at h
      split at h
      · simp at h
      · rename_i e hparse
        split at h
        · simp at h
        · rename_i arenas hadd
          simp only [Except.ok.injEq] at h
          exact h ▸ .arenaEvent hparse hadd
  | arenaOpening text =>
      simp only [hitem] at h
      split at h
      · simp at h
      · rename_i name description hopening
        simp only [Except.ok.injEq] at h
        exact h ▸ .arenaOpening name description
  | player name metadata =>
      simp only [hitem] at h
      split at h
      · simp at h
      · rename_i p hparse
        split at h
        · simp at h
        · rename_i hfresh
          simp only [Except.ok.injEq] at h
          exact h ▸ .player hparse (by simpa using hfresh)

theorem Draft.takeAll_induction {P : Draft → Prop} (hstep : ∀ d i d', d.Takes i d' → P d → P d')
    (d : Draft) (items : List Numbered) (hd : P d) : P (d.takeAll items).1 := by
  fun_induction Draft.takeAll d items with
  | case1 d => exact hd
  | case2 d i rest d' htake ih => exact ih (hstep d i d' (takes_of_take htake) hd)
  | case3 d i rest e htake d' problems hrest ih =>
      rw [hrest] at ih
      exact ih hd

/-- What every item that is taken in preserves holds of the draft that a contest is made of. -/
theorem exists_draft_of_parse {P : Draft → Prop} (hempty : P {})
    (hstep : ∀ d i d', d.Takes i d' → P d → P d') {input : String} {reading : Reading}
    (h : parse input = .ok reading) : ∃ d problems, reading = d.finish problems ∧ P d := by
  unfold parse at h
  split_ifs at h
  exact ⟨_, _, (Except.ok.inj h).symm, Draft.takeAll_induction hstep _ (items input) hempty⟩

/-! ## Names -/

def Draft.DistinctNames (d : Draft) : Prop :=
  (d.players.map (·.name)).Nodup

theorem Draft.Takes.distinctNames {d d' : Draft} {i : Numbered} (h : d.Takes i d')
    (hd : d.DistinctNames) : d'.DistinctNames := by
  cases h with
  | nothing | rules | event | arenaEvent | arenaOpening => exact hd
  | @player _ _ p _ hfresh =>
      unfold DistinctNames at hd ⊢
      rw [List.map_append, List.nodup_append]
      refine ⟨hd, List.nodup_singleton _, ?_⟩
      intro name hname other hother
      obtain ⟨q, hq, rfl⟩ := List.mem_map.mp hname
      obtain rfl : other = p.name := by simpa using hother
      exact hfresh q hq

theorem Draft.finish_roster (d : Draft) (problems : List Problem) :
    (d.finish problems).contest.roster = d.players := by
  unfold Draft.finish
  split <;> rfl

/-- No two players of a contest that is read from a spec have the same name. -/
theorem distinctNames_of_parse {input : String} {reading : Reading}
    (h : parse input = .ok reading) : reading.contest.DistinctNames := by
  obtain ⟨d, problems, rfl, hd⟩ := exists_draft_of_parse (P := Draft.DistinctNames) List.nodup_nil
    (fun _ _ _ htakes => htakes.distinctNames) h
  rw [Contest.DistinctNames, Draft.finish_roster]
  exact hd

end Tournament.Spec
