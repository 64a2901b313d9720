import Tournament.Proofs.Cuts
import Tournament.Proofs.Readings

/-!
# The order of sections

Every section reads and writes a part of the draft of its own (`Draft.Agrees.take`,
`agrees_of_take`), and no block of lines goes across a header.  So two sections of different kinds
that follow one another can change places: the contest is the same, and so are the problems up to
their order and their lines (`sections_swap`).
-/

namespace Tournament.Spec

/-! ## Parts of a draft -/

/-- The drafts have the same in the part that belongs to a section. -/
def Draft.Agrees (s : Section) (d d' : Draft) : Prop :=
  match s with
  | .rules => d.changes = d'.changes ∧ d.lastRuleLine = d'.lastRuleLine
  | .players => d.players = d'.players
  | .events kind => d.pools.of kind = d'.pools.of kind
  | .arenas => d.arenas = d'.arenas
  | .start => True
  | .unknown => True

/-- The section whose part of a draft an item can look at and change. -/
def Item.section? : Item → Option Section
  | .rules _ => some .rules
  | .player _ _ => some .players
  | .event kind _ _ => some (.events kind)
  | .arenaEvent _ _ => some .arenas
  | .arenaOpening _ => some .arenas
  | _ => none

def Within (s : Section) (items : List Numbered) : Prop :=
  ∀ i ∈ items, ∀ t ∈ i.item.section?, t = s

namespace Draft.Agrees

variable {s : Section} {d d' d'' : Draft}

theorem refl (s : Section) (d : Draft) : d.Agrees s d := by
  cases s <;> simp [Agrees]

theorem symm (h : d.Agrees s d') : d'.Agrees s d := by
  cases s with
  | start | unknown => trivial
  | rules => exact ⟨h.1.symm, h.2.symm⟩
  | players | events | arenas => exact Eq.symm h

theorem trans (h : d.Agrees s d') (h' : d'.Agrees s d'') : d.Agrees s d'' := by
  cases s with
  | start | unknown => trivial
  | rules => exact ⟨h.1.trans h'.1, h.2.trans h'.2⟩
  | players | events | arenas => exact Eq.trans h h'

end Draft.Agrees

theorem pools_eq_of_forall_of {p q : Pools} (h : ∀ kind, p.of kind = q.of kind) : p = q := by
  obtain ⟨_, _, _, _, _, _⟩ := p
  obtain ⟨_, _, _, _, _, _⟩ := q
  rw [Pools.mk.injEq]
  exact ⟨h .bloodbath, h .day, h .night, h .fatalDay, h .fatalNight, h .feast⟩

theorem Draft.eq_of_forall_agrees {d d' : Draft} (h : ∀ s, d.Agrees s d') : d = d' := by
  obtain ⟨hchanges, hline⟩ := h .rules
  have hplayers := h .players
  have harenas := h .arenas
  have hpools := pools_eq_of_forall_of fun kind => h (.events kind)
  obtain ⟨_, _, _, _, _⟩ := d
  obtain ⟨_, _, _, _, _⟩ := d'
  rw [Draft.mk.injEq]
  exact ⟨hchanges, hline, hplayers, harenas, hpools⟩

/-! ## Taking in items of one section -/

theorem of_add_congr {kind : RoundKind} {p q : Pools} (h : p.of kind = q.of kind) (e : Event) :
    (p.add kind e).of kind = (q.add kind e).of kind := by
  rw [Pools.of_add, Pools.of_add, h]

theorem agrees_of_changed (t : Section) (d : Draft) :
    (t ≠ .rules → ∀ changes line, d.Agrees t { d with changes, lastRuleLine := line }) ∧
    (t ≠ .players → ∀ players, d.Agrees t { d with players }) ∧
    (t ≠ .arenas → ∀ arenas, d.Agrees t { d with arenas }) ∧
    (∀ kind, t ≠ .events kind → ∀ e, d.Agrees t { d with pools := d.pools.add kind e }) := by
  refine ⟨?_, ?_, ?_, ?_⟩
  · intro ht changes line
    cases t with
    | rules => exact absurd rfl ht
    | _ => trivial
  · intro ht players
    cases t with
    | players => exact absurd rfl ht
    | _ => trivial
  · intro ht arenas
    cases t with
    | arenas => exact absurd rfl ht
    | _ => trivial
  · intro kind ht e
    cases t with
    | events other =>
        have hother : other ≠ kind := fun heq => ht (congrArg _ heq)
        exact ((d.pools.of_add kind e other).trans (if_neg fun hsame => hother hsame.1)).symm
    | _ => trivial

theorem agrees_of_take {t : Section} {d d' : Draft} {i : Numbered}
    (hi : ∀ s ∈ i.item.section?, t ≠ s) (h : d.take i = .ok d') : d.Agrees t d' := by
  obtain ⟨hrules, hplayers, harenas, hevents⟩ := agrees_of_changed t d
  obtain ⟨line, item⟩ := i
  unfold Draft.take at h
  cases item with
  | comment | header | ignored =>
      cases h
      exact .refl t d
  | unpairedQuote | unquoted | outside => cases h
  | rules text =>
      obtain ⟨changes, -, rfl⟩ := map_eq_ok.mp h
      exact hrules (hi _ rfl) _ _
  | event kind text metadata =>
      obtain ⟨e, -, rfl⟩ := map_eq_ok.mp h
      exact hevents kind (hi _ rfl) e
  | player name metadata =>
      dsimp only at h
      split at h
      · cases h
      · split at h
        · cases h
        · cases h
          exact hplayers (hi _ rfl) _
  | arenaEvent text metadata =>
      dsimp only at h
      split at h
      · cases h
      · split at h
        · cases h
        · cases h
          exact harenas (hi _ rfl) _
  | arenaOpening text =>
      dsimp only at h
      split at h
      · cases h
      · cases h
        exact harenas (hi _ rfl) _

/-- Both results are the same error, or drafts that agree on the section. -/
def SameResult (s : Section) : Except SpecError Draft → Except SpecError Draft → Prop
  | .ok d, .ok d' => d.Agrees s d'
  | .error e, .error e' => e = e'
  | _, _ => False

theorem Draft.Agrees.take {s : Section} {d d' : Draft} (h : d.Agrees s d') {i : Numbered}
    (hi : ∀ t ∈ i.item.section?, t = s) : SameResult s (d.take i) (d'.take i) := by
  obtain ⟨line, item⟩ := i
  unfold Draft.take
  cases item with
  | comment | header | ignored => exact h
  | unpairedQuote | unquoted | outside => rfl
  | rules text =>
      obtain rfl := hi _ rfl
      dsimp only
      cases RuleChanges.parse (String.ofList text) with
      | error e => rfl
      | ok changes => exact ⟨congrArg (·.merge changes) h.1, rfl⟩
  | event kind text metadata =>
      obtain rfl := hi _ rfl
      dsimp only
      cases Event.parse (String.ofList text) (String.ofList metadata) with
      | error e => rfl
      | ok e => exact of_add_congr h e
  | player name metadata =>
      obtain rfl := hi _ rfl
      dsimp only
      cases Player.parse (String.ofList name) (String.ofList metadata) with
      | error e => rfl
      | ok p =>
          have hplayers : d.players = d'.players := h
          rw [hplayers]
          dsimp only
          split
          · rfl
          · exact rfl
  | arenaEvent text metadata =>
      obtain rfl := hi _ rfl
      dsimp only
      cases Event.parse (String.ofList text) (String.ofList metadata) with
      | error e => rfl
      | ok e =>
          have harenas : d.arenas = d'.arenas := h
          rw [harenas]
          dsimp only
          split
          · rfl
          · exact rfl
  | arenaOpening text =>
      obtain rfl := hi _ rfl
      dsimp only
      cases arenaOpening? text with
      | none => rfl
      | some opening =>
          have harenas : d.arenas = d'.arenas := h
          rw [harenas]
          exact rfl

theorem agrees_of_takeAll {s t : Section} {items : List Numbered} (hitems : Within s items)
    (hst : t ≠ s) (d : Draft) : d.Agrees t (d.takeAll items).1 := by
  induction items generalizing d with
  | nil => exact .refl t d
  | cons i rest ih =>
      rw [Within, List.forall_mem_cons] at hitems
      cases htake : d.take i with
      | error e =>
          rw [takeAll_cons_error htake]
          exact ih hitems.2 d
      | ok d' =>
          rw [takeAll_cons_ok htake]
          have hi : ∀ r ∈ i.item.section?, t ≠ r := by
            intro r hr
            rw [hitems.1 r hr]
            exact hst
          exact (agrees_of_take hi htake).trans (ih hitems.2 d')

theorem Draft.Agrees.takeAll {s : Section} {items : List Numbered} (hitems : Within s items)
    {d d' : Draft} (h : d.Agrees s d') :
    (d.takeAll items).1.Agrees s (d'.takeAll items).1 ∧
      (d.takeAll items).2 = (d'.takeAll items).2 := by
  induction items generalizing d d' with
  | nil => exact ⟨h, rfl⟩
  | cons i rest ih =>
      rw [Within, List.forall_mem_cons] at hitems
      have hsame := h.take hitems.1
      cases htake : d.take i with
      | error e =>
          cases htake' : d'.take i with
          | ok =>
              rw [htake, htake'] at hsame
              cases hsame
          | error e' =>
              rw [htake, htake'] at hsame
              obtain rfl : e = e' := hsame
              rw [takeAll_cons_error htake, takeAll_cons_error htake']
              obtain ⟨hdraft, hproblems⟩ := ih hitems.2 h
              exact ⟨hdraft, congrArg (_ :: ·) hproblems⟩
      | ok d₁ =>
          cases htake' : d'.take i with
          | error =>
              rw [htake, htake'] at hsame
              cases hsame
          | ok d₁' =>
              rw [htake, htake'] at hsame
              rw [takeAll_cons_ok htake, takeAll_cons_ok htake']
              exact ih hitems.2 hsame

theorem takeAll_swap {s t : Section} (hst : s ≠ t) {xs ys : List Numbered} (hxs : Within s xs)
    (hys : Within t ys) (d : Draft) :
    (d.takeAll (xs ++ ys)).1 = (d.takeAll (ys ++ xs)).1 ∧
      (d.takeAll (xs ++ ys)).2.Perm (d.takeAll (ys ++ xs)).2 := by
  -- neither list notices that the other one was there first
  have hafterXs := agrees_of_takeAll hxs hst.symm d
  have hafterYs := agrees_of_takeAll hys hst d
  obtain ⟨hdraftYs, hproblemsYs⟩ := hafterXs.takeAll hys
  obtain ⟨hdraftXs, hproblemsXs⟩ := hafterYs.takeAll hxs
  rw [takeAll_append, takeAll_append]
  constructor
  · apply Draft.eq_of_forall_agrees
    intro r
    by_cases hrt : r = t
    · rw [hrt]
      exact hdraftYs.symm.trans (agrees_of_takeAll hxs hst.symm _)
    by_cases hrs : r = s
    · rw [hrs]
      exact (agrees_of_takeAll hys hst _).symm.trans hdraftXs
    · exact ((agrees_of_takeAll hxs hrs d).trans (agrees_of_takeAll hys hrt _)).symm.trans
        ((agrees_of_takeAll hys hrt d).trans (agrees_of_takeAll hxs hrs _))
  · rw [← hproblemsXs, ← hproblemsYs]
    exact List.perm_append_comm

/-! ## Sections of lines -/

theorem section?_single {s : Section} {text : List Char} (h : headerName? text = none) :
    ∀ t ∈ (single s text).section?, t = s := by
  unfold single
  rw [h]
  cases isComment text with
  | true => simp [Item.section?]
  | false =>
      cases s with
      | start | rules | unknown => simp [Item.section?]
      | players | events | arenas => cases quotedText? text <;> simp [Item.section?]

theorem section?_entry (s : Section) (quotedText metadata : List Char) :
    ∀ t ∈ (entry s quotedText metadata).section?, t = s := by
  cases s <;> simp [entry, Item.section?]

theorem within_itemsFrom {s : Section} {ls : List Line}
    (h : ∀ l ∈ ls, headerName? l.text = none) : Within s (itemsFrom s ls) := by
  fun_induction itemsFrom s ls with
  | case1 s => simp [Within]
  | case2 s l =>
      rw [Within, List.forall_mem_singleton]
      exact section?_single (h l List.mem_cons_self)
  | case3 s l next rest text htext ih =>
      rw [List.forall_mem_cons, List.forall_mem_cons] at h
      rw [Within, List.forall_mem_cons]
      exact ⟨section?_entry s text next.text, ih h.2.2⟩
  | case4 s l next rest htext ih =>
      rw [List.forall_mem_cons] at h
      rw [Section.after_of_not_header h.1] at ih ⊢
      rw [Within, List.forall_mem_cons]
      exact ⟨section?_single h.1, ih h.2⟩

theorem itemsFrom_eq_of_headerFirst {ls : List Line} (h : HeaderFirst ls) (s t : Section) :
    itemsFrom s ls = itemsFrom t ls := by
  cases ls with
  | nil => rfl
  | cons l rest =>
      obtain ⟨name, hname⟩ := Option.isSome_iff_exists.mp (h l rfl)
      rw [itemsFrom_header hname, itemsFrom_header hname]

structure IsSection (name : List Char) (texts : List (List Char)) : Prop where
  header : ∃ header ∈ texts.head?, headerName? header = some name
  body : ∀ text ∈ texts.tail, headerName? text = none

namespace IsSection

variable {name : List Char} {ls : List Line}

theorem exists_eq_cons (h : IsSection name (ls.map (·.text))) :
    ∃ header body, ls = header :: body ∧ headerName? header.text = some name ∧
      ∀ l ∈ body, headerName? l.text = none := by
  obtain ⟨⟨_, hheader, hname⟩, hbody⟩ := h
  cases ls with
  | nil => cases hheader
  | cons header body =>
      cases hheader
      exact ⟨header, body, rfl, hname, by simpa using hbody⟩

theorem headerFirst (h : IsSection name (ls.map (·.text))) (rest : List Line) :
    HeaderFirst (ls ++ rest) := by
  obtain ⟨header, body, rfl, hname, -⟩ := h.exists_eq_cons
  rintro _ ⟨⟩
  rw [hname]
  rfl

/-- The items of a section are all of its kind, and no pair of lines goes across its end. -/
theorem exists_items (h : IsSection name (ls.map (·.text))) :
    ∃ items, Within (Section.named name) items ∧ ∀ rest, HeaderFirst rest → ∀ s t,
      itemsFrom s (ls ++ rest) = items ++ itemsFrom t rest := by
  obtain ⟨header, body, rfl, hname, hbody⟩ := h.exists_eq_cons
  refine ⟨⟨header.number, .header name⟩ :: itemsFrom (Section.named name) body, ?_, ?_⟩
  · rw [Within, List.forall_mem_cons]
    exact ⟨by simp [Item.section?], within_itemsFrom hbody⟩
  · intro rest hrest s t
    rw [List.cons_append, itemsFrom_header hname, itemsFrom_append_header hrest,
      itemsFrom_eq_of_headerFirst hrest _ t]
    rfl

end IsSection

theorem takeAll_swap_between {s t : Section} (hst : s ≠ t) {xs ys : List Numbered}
    (hxs : Within s xs) (hys : Within t ys) (us vs : List Numbered) (d : Draft) :
    (d.takeAll (us ++ (xs ++ (ys ++ vs)))).1 = (d.takeAll (us ++ (ys ++ (xs ++ vs)))).1 ∧
      (d.takeAll (us ++ (xs ++ (ys ++ vs)))).2.Perm (d.takeAll (us ++ (ys ++ (xs ++ vs)))).2 := by
  obtain ⟨hdraft, hproblems⟩ := takeAll_swap hst hxs hys (d.takeAll us).1
  rw [← List.append_assoc xs ys vs, ← List.append_assoc ys xs vs, takeAll_append d us,
    takeAll_append d us, takeAll_append _ (xs ++ ys) vs, takeAll_append _ (ys ++ xs) vs, hdraft]
  exact ⟨rfl, (hproblems.append_right _).append_left _⟩

theorem readLines_swap {before xs ys after : List Line} {name name' : List Char}
    (hxs : IsSection name (xs.map (·.text))) (hys : IsSection name' (ys.map (·.text)))
    (hafter : HeaderFirst after) (hne : Section.named name ≠ Section.named name') :
    (readLines (before ++ (xs ++ (ys ++ after)))).contest =
        (readLines (before ++ (ys ++ (xs ++ after)))).contest ∧
      (readLines (before ++ (xs ++ (ys ++ after)))).problems.Perm
        (readLines (before ++ (ys ++ (xs ++ after)))).problems := by
  obtain ⟨is, his, hitems⟩ := hxs.exists_items
  obtain ⟨js, hjs, hitems'⟩ := hys.exists_items
  have hfirst : itemsFrom .start (before ++ (xs ++ (ys ++ after))) =
      itemsFrom .start before ++ (is ++ (js ++ itemsFrom .start after)) := by
    rw [itemsFrom_append_header (hxs.headerFirst _), hitems _ (hys.headerFirst _) _ .start,
      hitems' _ hafter _ .start]
  have hsecond : itemsFrom .start (before ++ (ys ++ (xs ++ after))) =
      itemsFrom .start before ++ (js ++ (is ++ itemsFrom .start after)) := by
    rw [itemsFrom_append_header (hys.headerFirst _), hitems' _ (hxs.headerFirst _) _ .start,
      hitems _ hafter _ .start]
  obtain ⟨hdraft, hproblems⟩ := takeAll_swap_between hne his hjs (itemsFrom .start before)
    (itemsFrom .start after) {}
  unfold readLines draftOf notedProblems
  rw [hfirst, hsecond, hdraft, Draft.finish_problems, Draft.finish_problems]
  exact ⟨Draft.finish_contest _ _ _, hproblems.append_right _⟩

/-! ## Sections of a spec -/

def unnumbered (raws : List (List Char)) : List Line :=
  (textsOf raws).map (⟨0, ·⟩)

theorem unnumbered_append (xs ys : List (List Char)) :
    unnumbered (xs ++ ys) = unnumbered xs ++ unnumbered ys := by
  rw [unnumbered, textsOf_append, List.map_append]
  rfl

theorem map_text_unnumbered (raws : List (List Char)) :
    (unnumbered raws).map (·.text) = textsOf raws := by
  rw [unnumbered, List.map_map]
  exact List.map_id _

/-- Without the numbers of the lines, all is read the same but the lines of the problems. -/
theorem readLines_unnumbered (raws : List (List Char)) :
    (readLines (unnumbered raws)).contest = (readLines (numberFrom 1 raws)).contest ∧
      (readLines (unnumbered raws)).problems.map (·.error) =
        (readLines (numberFrom 1 raws)).problems.map (·.error) := by
  have hlines : unnumbered raws = (numberFrom 1 raws).map (·.renumber fun _ => 0) := by
    rw [unnumbered, ← map_text_numberFrom 1, List.map_map]
    rfl
  rw [hlines, readLines_renumber rfl]
  exact ⟨rfl, by simp [Reading.renumber, Problem.renumber]⟩

theorem textsOf_ne_nil {input : String} : textsOf (rawLines input) ≠ [] ↔ lines input ≠ [] := by
  rw [← map_text_numberFrom 1, Ne, List.map_eq_nil_iff]
  rfl

theorem IsSection.textsOf {name : List Char} {raws : List (List Char)}
    (h : IsSection name (raws.map normalize)) : IsSection name (textsOf raws) := by
  obtain ⟨⟨header, hheader, hname⟩, hbody⟩ := h
  cases raws with
  | nil => cases hheader
  | cons raw raws =>
      cases hheader
      have hne : normalize raw ≠ [] := by
        intro hnil
        simp [hnil, headerName?] at hname
      have htexts : Spec.textsOf (raw :: raws) = normalize raw :: Spec.textsOf raws := by
        simp [Spec.textsOf, hne]
      rw [htexts]
      refine ⟨⟨_, rfl, hname⟩, ?_⟩
      intro text htext
      exact hbody text (List.mem_of_mem_filter htext)

theorem IsSection.lines_ne_nil {name : List Char} {input : String}
    {xs before after : List (List Char)} (h : IsSection name (xs.map normalize))
    (hinput : rawLines input = before ++ (xs ++ after)) :
    lines input ≠ [] := by
  obtain ⟨header, hheader, -⟩ := h.textsOf.header
  rw [← textsOf_ne_nil, hinput, textsOf_append, textsOf_append]
  intro hnil
  simp only [List.append_eq_nil_iff] at hnil
  rw [hnil.2.1] at hheader
  cases hheader

/-- Two sections of different kinds that follow one another can change places. What comes after
them begins with a header again, but for blank lines. -/
theorem sections_swap {input input' : String} {before xs ys after : List (List Char)}
    {name name' : List Char} (hxs : IsSection name (xs.map normalize))
    (hys : IsSection name' (ys.map normalize))
    (hafter : ∀ text ∈ (textsOf after).head?, (headerName? text).isSome = true)
    (hne : Section.named name ≠ Section.named name')
    (hinput : rawLines input = before ++ (xs ++ (ys ++ after)))
    (hinput' : rawLines input' = before ++ (ys ++ (xs ++ after))) :
    ∃ reading reading', parse input = .ok reading ∧ parse input' = .ok reading' ∧
      reading.contest = reading'.contest ∧
      (reading.problems.map (·.error)).Perm (reading'.problems.map (·.error)) := by
  have hafter' : HeaderFirst (unnumbered after) := by
    intro l hl
    refine hafter l.text ?_
    rw [← map_text_unnumbered after, List.head?_map]
    exact Option.mem_map_of_mem (·.text) hl
  have hxs' : IsSection name ((unnumbered xs).map (·.text)) := by
    rw [map_text_unnumbered]
    exact hxs.textsOf
  have hys' : IsSection name' ((unnumbered ys).map (·.text)) := by
    rw [map_text_unnumbered]
    exact hys.textsOf
  obtain ⟨hcontest, hproblems⟩ :=
    @readLines_swap (unnumbered before) _ _ _ name name' hxs' hys' hafter' hne
  simp only [← unnumbered_append, ← hinput, ← hinput'] at hcontest hproblems
  obtain ⟨hcontest₁, hproblems₁⟩ := readLines_unnumbered (rawLines input)
  obtain ⟨hcontest₂, hproblems₂⟩ := readLines_unnumbered (rawLines input')
  refine ⟨_, _, parse_eq_of_ne_nil (hxs.lines_ne_nil hinput),
    parse_eq_of_ne_nil (hys.lines_ne_nil hinput'), ?_, ?_⟩
  · exact hcontest₁.symm.trans (hcontest.trans hcontest₂)
  · have herrors := hproblems.map (·.error)
    rw [hproblems₁, hproblems₂] at herrors
    exact herrors

def lakeSection : List (List Char) :=
  ["[arena]", "Lake \"Deep.\"", "", "\"%1% waits.\""].map String.toList

def narrowSection : List (List Char) :=
  ["[Setup]", "minsize:2m, maxsize:1m", "slowly"].map String.toList

/-- A spec whose lake is left open at a quoted line, with rules after it, and with an event of the
lake after the rules. -/
def lakeFirstSpec : String :=
  "Once\n[arena]\nLake \"Deep.\"\n\n\"%1% waits.\"\n[Setup]\nminsize:2m, maxsize:1m\nslowly\n" ++
  "\n[arena]\n\"%1% swims.\"\ntributes:1"

def rulesFirstSpec : String :=
  "Once\n[Setup]\nminsize:2m, maxsize:1m\nslowly\n[arena]\nLake \"Deep.\"\n\n\"%1% waits.\"\n" ++
  "\n[arena]\n\"%1% swims.\"\ntributes:1"

theorem sections_swap_of_lake :
    ∃ reading reading', parse lakeFirstSpec = .ok reading ∧ parse rulesFirstSpec = .ok reading' ∧
      reading.contest = reading'.contest ∧
      (reading.problems.map (·.error)).Perm (reading'.problems.map (·.error)) ∧
      (reading.contest.arenas.map fun a => (a.name, a.events.length)) = [("Lake", 1)] ∧
      reading.problems.map (·.line) = [1, 5, 8, 7] ∧
      reading'.problems.map (·.line) = [1, 4, 8, 3] := by
  have hlake : IsSection "arena".toList (lakeSection.map normalize) :=
    ⟨⟨_, rfl, by decide +kernel⟩, by decide +kernel⟩
  have hnarrow : IsSection "Setup".toList (narrowSection.map normalize) :=
    ⟨⟨_, rfl, by decide +kernel⟩, by decide +kernel⟩
  obtain ⟨reading, reading', hparse, hparse', hcontest, herrors⟩ :=
    @sections_swap lakeFirstSpec rulesFirstSpec ["Once".toList] lakeSection narrowSection
      (["", "[arena]", "\"%1% swims.\"", "tributes:1"].map String.toList) "arena".toList
      "Setup".toList hlake hnarrow (by decide +kernel) (by decide +kernel) (by decide +kernel)
      (by decide +kernel)
  obtain ⟨_, hfirst, hevaluated⟩ := exists_of_parse lakeFirstSpec
    (P := fun reading => reading.problems.map (·.line) = [1, 5, 8, 7] ∧
      (reading.contest.arenas.map fun a => (a.name, a.events.length)) = [("Lake", 1)])
    (by decide +kernel)
  obtain ⟨_, hsecond, hevaluated'⟩ := exists_of_parse rulesFirstSpec
    (P := fun reading => reading.problems.map (·.line) = [1, 4, 8, 3]) (by decide +kernel)
  obtain rfl := Except.ok.inj (hparse.symm.trans hfirst)
  obtain rfl := Except.ok.inj (hparse'.symm.trans hsecond)
  obtain ⟨hlines, harenas⟩ := of_decide_eq_true hevaluated
  exact ⟨_, _, hparse, hparse', hcontest, herrors, harenas, hlines, of_decide_eq_true hevaluated'⟩

end Tournament.Spec
