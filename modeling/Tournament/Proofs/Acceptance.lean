import Tournament.Proofs.Metadata
import Tournament.Proofs.Slots
import Mathlib.Data.List.Sort

/-!
# Which events are accepted

An event is read from a text and a metadata line exactly where the two fit together
(`WellFormed`): the tokens of the text name the slots from 1 up to the number of tributes, each with
one suffix that can be read, and whatever refers to a slot refers to one of these.  The event then
has the demands of each slot and the directives in the order of the line (`IsReadFrom`).
-/

namespace Tournament

/-! ## Lists of related elements -/

section

variable {α β γ : Type}

theorem exists_forall₂ {R : α → β → Prop} {as : List α} (h : ∀ a ∈ as, ∃ b, R a b) :
    ∃ bs, List.Forall₂ R as bs := by
  induction as with
  | nil => exact ⟨[], .nil⟩
  | cons a as ih =>
      obtain ⟨⟨b, hb⟩, has⟩ := List.forall_mem_cons.mp h
      obtain ⟨bs, hbs⟩ := ih has
      exact ⟨b :: bs, .cons hb hbs⟩

theorem forall₂_comp {R : α → β → Prop} {S : β → γ → Prop} {as : List α} {bs : List β}
    {cs : List γ} (h : List.Forall₂ R as bs) (h' : List.Forall₂ S bs cs) :
    List.Forall₂ (fun a c => ∃ b, R a b ∧ S b c) as cs := by
  induction h generalizing cs with
  | nil =>
      obtain rfl := List.forall₂_nil_left_iff.mp h'
      exact .nil
  | cons hab _ ih =>
      obtain ⟨c, cs, hbc, hcs, rfl⟩ := List.forall₂_cons_left_iff.mp h'
      exact .cons ⟨_, hab, hbc⟩ (ih hcs)

theorem forall_mem_right {R : α → β → Prop} {P : β → Prop} {as : List α} {bs : List β}
    (h : List.Forall₂ R as bs) (hP : ∀ a ∈ as, ∀ b, R a b → P b) : ∀ b ∈ bs, P b := by
  induction h with
  | nil => simp
  | @cons a b as bs hab _ ih =>
      refine List.forall_mem_cons.mpr ⟨hP a List.mem_cons_self b hab, ih ?_⟩
      exact fun a ha => hP a (List.mem_cons_of_mem _ ha)

theorem forall_mem_left {R : α → β → Prop} {P : β → Prop} {as : List α} {bs : List β}
    (h : List.Forall₂ R as bs) (hP : ∀ b ∈ bs, P b) : ∀ a ∈ as, ∃ b, R a b ∧ P b := by
  induction h with
  | nil => simp
  | @cons a b as bs hab _ ih =>
      obtain ⟨hb, hbs⟩ := List.forall_mem_cons.mp hP
      exact List.forall_mem_cons.mpr ⟨⟨b, hab, hb⟩, ih hbs⟩

end

namespace Event

/-! ## What is accepted -/

/-- The values that a metadata line gives a key, in the order of the line. -/
def values (metadata key : String) : List (List Char) :=
  Tags.valuesOf key (Tags.items metadata)

/-- The words of the values that a metadata line gives a key. -/
def valueWords (metadata key : String) : List String :=
  ((values metadata key).flatMap Text.words).map String.ofList

/-- A value that is the number of one of the first `n` slots. -/
def RefersWithin (n : Nat) (value : String) : Prop :=
  ∃ slot, IsSlot value slot ∧ slot ≤ n

/-- A text with the pieces `ps` and a metadata line fit together as an event with `n` tributes. -/
structure WellFormed (ps : List Piece) (metadata : String) (n : Nat) : Prop where
  decodes : ∃ t, Tags.read schema metadata = .ok t
  tributes : ∃ v, values metadata "tributes" = [v] ∧ Number.Writes v n ∧ 0 < n ∧ n < UInt64.size
  rarity : ∀ v ∈ values metadata "rarity",
    ∃ r, Number.readFloat v = some r ∧ r.isFinite = true ∧ r > 0.0
  size : ∀ v ∈ values metadata "size", ∃ slot size resize, Tags.readPair v = .ok (slot, size) ∧
    RefersWithin n slot ∧ Resize.parse size = .ok resize
  elim : ∀ w ∈ valueWords metadata "elim", RefersWithin n w
  perp : ∀ w ∈ valueWords metadata "perp", RefersWithin n w
  give : ∀ v ∈ values metadata "give", ∃ slot item, Tags.readPair v = .ok (slot, item) ∧
    RefersWithin n slot
  remove : ∀ v ∈ values metadata "remove", ∃ slot item, Tags.readPair v = .ok (slot, item) ∧
    RefersWithin n slot
  legible : Legible ps
  suffix : ∀ slot suffix, Names ps slot suffix → ∃ r, Requirement.parse suffix = .ok r
  slot : ∀ slot, (∃ suffix, Names ps slot suffix) ↔ 1 ≤ slot ∧ slot ≤ n
  pronoun : ∀ slot, SpeaksOf ps slot → slot ≤ n

/-- The event says what a text with the pieces `ps` and a metadata line say. -/
structure IsReadFrom (e : Event) (ps : List Piece) (text metadata : String) : Prop where
  text_eq : e.text = text
  slots : List.Forall₂ (fun slot r => ∃ suffix, Names ps slot suffix ∧
    Requirement.parse suffix = .ok r) (List.range' 1 e.tributes) e.slots
  rarity : values metadata "rarity" = [] ∧ e.rarity = 1.0 ∨
    ∃ v, values metadata "rarity" = [v] ∧ Number.readFloat v = some e.rarity
  resizes : List.Forall₂ (fun v r => ∃ x, Tags.readPair v = .ok x ∧ IsSlot x.1 r.1 ∧
    Resize.parse x.2 = .ok r.2) (values metadata "size") e.resizes
  eliminated : List.Forall₂ IsSlot (valueWords metadata "elim") e.eliminated
  credited : List.Forall₂ IsSlot (valueWords metadata "perp") e.credited
  gives : List.Forall₂ (fun v g => ∃ x, Tags.readPair v = .ok x ∧ IsSlot x.1 g.1 ∧ x.2 = g.2)
    (values metadata "give") e.gives
  takes : List.Forall₂ (fun v g => ∃ x, Tags.readPair v = .ok x ∧ IsSlot x.1 g.1 ∧ x.2 = g.2)
    (values metadata "remove") e.takes

/-! ## What reading asks for -/

theorem parseEach_eq_ok_iff {α β : Type} {f : α → Except SpecError β} {as : List α} {bs : List β} :
    parseEach f as = .ok bs ↔ List.Forall₂ (fun a b => f a = .ok b) as bs := by
  induction as generalizing bs with
  | nil =>
      rw [parseEach, List.forall₂_nil_left_iff, Except.ok.injEq, eq_comm]
  | cons a as ih =>
      rw [parseEach, List.forall₂_cons_left_iff]
      cases ha : f a with
      | error e => simp
      | ok b =>
          cases has : parseEach f as with
          | error e =>
              have hnone : ∀ bs, ¬ List.Forall₂ (fun a b => f a = .ok b) as bs := by
                intro bs h
                simp [ih.mpr h] at has
              simp [hnone]
          | ok more =>
              have hmore := ih.mp has
              simp only [Except.ok.injEq]
              constructor
              · rintro rfl
                exact ⟨b, more, rfl, hmore, rfl⟩
              · rintro ⟨b', more', rfl, hmore', rfl⟩
                rw [ih.mpr hmore'] at has
                rw [Except.ok.inj has]

theorem parse_eq_ok_iff {text metadata : String} {e : Event} :
    parse text metadata = .ok e ↔ ∃ t d, Tags.read schema metadata = .ok t ∧
      Directives.ofTags t = .ok d ∧ ofDirectives text d = .ok e := by
  constructor
  · intro h
    obtain ⟨t, ht, h⟩ := exists_of_bind_eq_ok h
    obtain ⟨d, hd, h⟩ := exists_of_bind_eq_ok h
    exact ⟨t, d, ht, hd, h⟩
  · rintro ⟨t, d, ht, hd, h⟩
    rw [parse, ht]
    simp only [bind, Except.bind, hd, h]

theorem parseTributes_eq_ok_iff {value : Option String} {n : Nat} :
    parseTributes value = .ok n ↔
      ∃ s, value = some s ∧ Number.Writes s.toList n ∧ 0 < n ∧ n < UInt64.size := by
  cases value with
  | none => simp [parseTributes]
  | some s =>
      simp only [Option.some.injEq, exists_eq_left', ← readPositive64_eq_some_iff]
      unfold parseTributes
      dsimp only
      cases Number.readPositive64 s <;> simp

theorem parseRarity_eq_ok_iff {value : Option String} {r : Float} :
    parseRarity value = .ok r ↔ value = none ∧ r = 1.0 ∨
      ∃ s, value = some s ∧ Number.readFloat s.toList = some r ∧ r.isFinite = true ∧ r > 0.0 := by
  cases value with
  | none =>
      rw [parseRarity, Except.ok.injEq, eq_comm (a := r)]
      simp only [true_and, reduceCtorEq, false_and, exists_false, or_false]
  | some s =>
      unfold parseRarity
      dsimp only
      cases hread : Number.readFloat s.toList with
      | none => simp [hread]
      | some r' =>
          simp only [Bool.and_eq_true, decide_eq_true_eq, reduceCtorEq, false_and, false_or,
            Option.some.injEq, exists_eq_left', hread]
          split_ifs with hpositive
          · rw [Except.ok.injEq]
            constructor
            · rintro rfl
              exact ⟨rfl, hpositive⟩
            · exact fun h => h.1
          · constructor
            · exact nofun
            · rintro ⟨rfl, h⟩
              exact absurd h hpositive

theorem parseResize_eq_ok_iff {x : String × String} {r : Nat × Resize} :
    parseResize x = .ok r ↔ IsSlot x.1 r.1 ∧ Resize.parse x.2 = .ok r.2 := by
  rw [← parseSlot_eq_ok_iff "size"]
  constructor
  · intro h
    obtain ⟨slot, hslot, h⟩ := exists_of_bind_eq_ok h
    obtain ⟨resize, hresize, h⟩ := exists_of_bind_eq_ok h
    obtain rfl := Except.ok.inj h
    exact ⟨hslot, hresize⟩
  · rintro ⟨hslot, hresize⟩
    simp only [parseResize, bind, Except.bind, hslot, hresize, pure, Except.pure]

theorem parseItem_eq_ok_iff (key : String) {x : String × String} {g : Nat × String} :
    parseItem key x = .ok g ↔ IsSlot x.1 g.1 ∧ x.2 = g.2 := by
  rw [← parseSlot_eq_ok_iff key, parseItem, map_eq_ok]
  constructor
  · rintro ⟨slot, hslot, rfl⟩
    exact ⟨hslot, rfl⟩
  · rintro ⟨hslot, hitem⟩
    exact ⟨g.1, hslot, by rw [hitem]⟩

/-- The directives are read one after the other, and all of them have to be read. -/
theorem ofTags_eq_ok_iff {t : Tags} {d : Directives} :
    Directives.ofTags t = .ok d ↔ parseTributes (t.one? "tributes") = .ok d.tributes ∧
      parseRarity (t.one? "rarity") = .ok d.rarity ∧
      parseEach parseResize (t.pairs "size") = .ok d.resizes ∧
      parseEach (parseSlot "elim") (t.words "elim") = .ok d.eliminated ∧
      parseEach (parseSlot "perp") (t.words "perp") = .ok d.credited ∧
      parseEach (parseItem "give") (t.pairs "give") = .ok d.gives ∧
      parseEach (parseItem "remove") (t.pairs "remove") = .ok d.takes := by
  constructor
  · intro h
    obtain ⟨tributes, htributes, h⟩ := exists_of_bind_eq_ok h
    obtain ⟨rarity, hrarity, h⟩ := exists_of_bind_eq_ok h
    obtain ⟨resizes, hresizes, h⟩ := exists_of_bind_eq_ok h
    obtain ⟨eliminated, heliminated, h⟩ := exists_of_bind_eq_ok h
    obtain ⟨credited, hcredited, h⟩ := exists_of_bind_eq_ok h
    obtain ⟨gives, hgives, h⟩ := exists_of_bind_eq_ok h
    obtain ⟨takes, htakes, h⟩ := exists_of_bind_eq_ok h
    obtain rfl := Except.ok.inj h
    exact ⟨htributes, hrarity, hresizes, heliminated, hcredited, hgives, htakes⟩
  · rintro ⟨htributes, hrarity, hresizes, heliminated, hcredited, hgives, htakes⟩
    simp only [Directives.ofTags, bind, Except.bind, htributes, hrarity, hresizes, heliminated,
      hcredited, hgives, htakes, pure, Except.pure]

structure Joins (text : String) (d : Directives) (scan : SlotScan) (e : Event) : Prop where
  scan_eq : ({} : SlotScan).addAll (pieces text.toList) = .ok scan
  slots : parseEach (fun s => Requirement.parse s.2) scan.suffixes = .ok e.slots
  numbers : scan.suffixes.map (·.1) = List.range' 1 scan.suffixes.length
  tributes : d.tributes = e.tributes
  references : ∀ r ∈ references d scan.pronouns, r.2 ≤ d.tributes
  text_eq : e.text = text
  resizes : e.resizes = d.resizes
  eliminated : e.eliminated = d.eliminated
  credited : e.credited = d.credited
  gives : e.gives = d.gives
  takes : e.takes = d.takes
  rarity : e.rarity = d.rarity

theorem exists_joins {text : String} {d : Directives} {e : Event}
    (h : ofDirectives text d = .ok e) : ∃ scan, Joins text d scan e := by
  unfold ofDirectives at h
  split at h
  · cases h
  · next scan hscan =>
    split at h
    · cases h
    · next slots hslots =>
      dsimp only at h
      split_ifs at h with hnumbers
      split at h
      · cases h
      · split_ifs at h with htributes
        split at h
        · cases h
        · next href =>
          obtain rfl := Except.ok.inj h
          refine ⟨scan, hscan, hslots, ?_, not_not.mp htributes, ?_, rfl, rfl, rfl, rfl, rfl, rfl,
            rfl⟩
          · simpa using hnumbers
          · intro r hr
            simpa using List.find?_eq_none.mp href r hr

theorem exists_ofDirectives {text : String} {d : Directives} {scan : SlotScan}
    {slots : List Requirement} (hscan : ({} : SlotScan).addAll (pieces text.toList) = .ok scan)
    (hslots : parseEach (fun s => Requirement.parse s.2) scan.suffixes = .ok slots)
    (hnumbers : scan.suffixes.map (·.1) = List.range' 1 d.tributes) (hpos : 0 < d.tributes)
    (hreferences : ∀ r ∈ references d scan.pronouns, r.2 ≤ d.tributes) :
    ∃ e, ofDirectives text d = .ok e := by
  have hlength : scan.suffixes.length = d.tributes := by
    simpa using congrArg List.length hnumbers
  have htributes : d.tributes = slots.length := by
    rw [← hlength, (parseEach_eq_ok_iff.mp hslots).length_eq]
  obtain ⟨slot, more, rfl⟩ : ∃ slot more, slots = slot :: more := by
    cases slots with
    | nil => rw [htributes] at hpos; cases hpos
    | cons slot more => exact ⟨slot, more, rfl⟩
  have hfind : (references d scan.pronouns).find? (fun r => d.tributes < r.2) = none := by
    refine List.find?_eq_none.mpr ?_
    intro r hr
    simpa using hreferences r hr
  unfold ofDirectives
  simp only [hscan, hslots, hnumbers, htributes, List.length_range', ne_eq, not_true_eq_false,
    if_false]
  rw [← htributes]
  simp only [hfind]
  exact ⟨_, rfl⟩

theorem forall_references {d : Directives} {pronouns : List Nat} {n : Nat} :
    (∀ r ∈ references d pronouns, r.2 ≤ n) ↔
      (∀ r ∈ d.resizes, r.1 ≤ n) ∧ (∀ slot ∈ d.eliminated, slot ≤ n) ∧
      (∀ slot ∈ d.credited, slot ≤ n) ∧ (∀ g ∈ d.gives, g.1 ≤ n) ∧ (∀ g ∈ d.takes, g.1 ≤ n) ∧
      ∀ slot ∈ pronouns, slot ≤ n := by
  simp only [references, List.forall_mem_append, List.forall_mem_map, and_assoc]

/-! ## The slots of the text -/

theorem eq_range'_of_rising {l : List Nat} (h : l.Pairwise (· < ·)) {n : Nat}
    (hmem : ∀ k, k ∈ l ↔ 1 ≤ k ∧ k ≤ n) : l = List.range' 1 n := by
  have hrange : (List.range' 1 n).Pairwise (· < ·) := List.pairwise_lt_range'
  have hperm : l.Perm (List.range' 1 n) := by
    refine (List.perm_ext_iff_of_nodup (h.imp ne_of_lt) (hrange.imp ne_of_lt)).mpr ?_
    intro k
    rw [hmem, List.mem_range'_1]
    omega
  exact hperm.eq_of_pairwise (fun a b _ _ hab hba => absurd hba (lt_asymm hab)) h hrange

/-! ## From the line to the directives -/

section

variable {α : Type} {metadata : String} {t : Tags}

theorem values_one? (ht : Tags.read schema metadata = .ok t) (key : String)
    (hkey : schema.keys.lookup key = some .one) :
    values metadata key = ((t.one? key).map String.toList).toList :=
  (Tags.one?_of_read ht hkey).symm

theorem valueWords_eq (ht : Tags.read schema metadata = .ok t) {key : String}
    (hkey : schema.keys.lookup key = some .words) : valueWords metadata key = t.words key :=
  (Tags.words_of_read ht hkey).symm

theorem forall₂_of_parseEach (ht : Tags.read schema metadata = .ok t) {key : String}
    (hkey : schema.keys.lookup key = some .pairs) {f : String × String → Except SpecError α}
    {as : List α} (h : parseEach f (t.pairs key) = .ok as) :
    List.Forall₂ (fun v a => ∃ x, Tags.readPair v = .ok x ∧ f x = .ok a) (values metadata key) as :=
  forall₂_comp (Tags.pairs_of_read ht hkey) (parseEach_eq_ok_iff.mp h)

theorem exists_parseEach (ht : Tags.read schema metadata = .ok t) (key : String)
    (hkey : schema.keys.lookup key = some .pairs) {f : String × String → Except SpecError α}
    {P : α → Prop}
    (h : ∀ v ∈ values metadata key, ∃ x a, Tags.readPair v = .ok x ∧ f x = .ok a ∧ P a) :
    ∃ as, parseEach f (t.pairs key) = .ok as ∧ ∀ a ∈ as, P a := by
  have hpairs : ∀ x ∈ t.pairs key, ∃ a, f x = .ok a ∧ P a := by
    refine forall_mem_right (Tags.pairs_of_read ht hkey) ?_
    intro v hv x hx
    obtain ⟨y, a, hy, ha⟩ := h v hv
    obtain rfl : x = y := Except.ok.inj (hx.symm.trans hy)
    exact ⟨a, ha⟩
  obtain ⟨as, has⟩ := exists_forall₂ hpairs
  exact ⟨as, parseEach_eq_ok_iff.mpr (has.imp fun _ _ h => h.1),
    forall_mem_right has fun _ _ _ h => h.2⟩

theorem exists_parseEach_parseItem (ht : Tags.read schema metadata = .ok t) (key : String)
    (hkey : schema.keys.lookup key = some .pairs) {n : Nat}
    (h : ∀ v ∈ values metadata key, ∃ slot item, Tags.readPair v = .ok (slot, item) ∧
      RefersWithin n slot) :
    ∃ gs, parseEach (parseItem key) (t.pairs key) = .ok gs ∧ ∀ g ∈ gs, g.1 ≤ n := by
  refine exists_parseEach ht key hkey ?_
  intro v hv
  obtain ⟨word, item, hread, slot, hslot, hle⟩ := h v hv
  exact ⟨_, (slot, item), hread, (parseItem_eq_ok_iff key).mpr ⟨hslot, rfl⟩, hle⟩

theorem exists_parseEach_parseSlot {n : Nat} (key : String) {words : List String}
    (h : ∀ w ∈ words, RefersWithin n w) :
    ∃ slots, parseEach (parseSlot key) words = .ok slots ∧ ∀ slot ∈ slots, slot ≤ n := by
  obtain ⟨slots, hslots⟩ := exists_forall₂ h
  exact ⟨slots, parseEach_eq_ok_iff.mpr (hslots.imp fun _ _ h => (parseSlot_eq_ok_iff key).mpr h.1),
    forall_mem_right hslots fun _ _ _ h => h.2⟩

end

/-! ## From the text and the directives to the event -/

variable {text metadata : String} {e : Event}

theorem Joins.length_eq {d : Directives} {scan : SlotScan} (h : Joins text d scan e) :
    scan.suffixes.length = e.tributes :=
  (parseEach_eq_ok_iff.mp h.slots).length_eq

theorem Joins.mem_numbers {d : Directives} {scan : SlotScan} (h : Joins text d scan e)
    (slot : Nat) :
    (∃ suffix, Names (pieces text.toList) slot suffix) ↔ 1 ≤ slot ∧ slot ≤ e.tributes := by
  have hreads := reads_of_addAll h.scan_eq
  calc (∃ suffix, Names (pieces text.toList) slot suffix)
      ↔ ∃ suffix, (slot, suffix) ∈ scan.suffixes := by simp only [hreads.mem_suffixes]
    _ ↔ slot ∈ scan.suffixes.map (·.1) := by simp
    _ ↔ 1 ≤ slot ∧ slot ≤ e.tributes := by
        rw [h.numbers, List.mem_range'_1, h.length_eq]
        omega

theorem Joins.forall₂_slots {d : Directives} {scan : SlotScan} (h : Joins text d scan e) :
    List.Forall₂ (fun slot r => ∃ suffix, Names (pieces text.toList) slot suffix ∧
      Requirement.parse suffix = .ok r) (List.range' 1 e.tributes) e.slots := by
  have hreads := reads_of_addAll h.scan_eq
  have hnames : ∀ s ∈ scan.suffixes, Names (pieces text.toList) s.1 s.2 :=
    fun s hs => (hreads.mem_suffixes s.1 s.2).mp hs
  rw [← h.length_eq, ← h.numbers, List.forall₂_map_left_iff]
  have hboth := (List.forall₂_and_left _ _).mpr ⟨hnames, parseEach_eq_ok_iff.mp h.slots⟩
  exact hboth.imp fun _ _ hs => ⟨_, hs⟩

theorem Joins.isReadFrom {t : Tags} {d : Directives} {scan : SlotScan}
    (ht : Tags.read schema metadata = .ok t) (hd : Directives.ofTags t = .ok d)
    (h : Joins text d scan e) : e.IsReadFrom (pieces text.toList) text metadata := by
  obtain ⟨-, hrarity, hresizes, heliminated, hcredited, hgives, htakes⟩ := ofTags_eq_ok_iff.mp hd
  rw [← valueWords_eq ht rfl, parseEach_eq_ok_iff] at heliminated hcredited
  have hresizes := forall₂_of_parseEach ht rfl hresizes
  have hgives := forall₂_of_parseEach ht rfl hgives
  have htakes := forall₂_of_parseEach ht rfl htakes
  simp only [parseSlot_eq_ok_iff] at heliminated hcredited
  simp only [parseResize_eq_ok_iff] at hresizes
  simp only [parseItem_eq_ok_iff] at hgives htakes
  refine
    { text_eq := h.text_eq
      slots := h.forall₂_slots
      rarity := ?rarity
      resizes := h.resizes ▸ hresizes
      eliminated := h.eliminated ▸ heliminated
      credited := h.credited ▸ hcredited
      gives := h.gives ▸ hgives
      takes := h.takes ▸ htakes }
  rw [values_one? ht _ rfl, h.rarity]
  obtain ⟨hnone, hr⟩ | ⟨r, hr, hread, -⟩ := parseRarity_eq_ok_iff.mp hrarity
  · exact .inl ⟨by rw [hnone]; rfl, hr⟩
  · exact .inr ⟨r.toList, by rw [hr]; rfl, hread⟩

theorem Joins.wellFormed {t : Tags} {d : Directives} {scan : SlotScan}
    (ht : Tags.read schema metadata = .ok t) (hd : Directives.ofTags t = .ok d)
    (h : Joins text d scan e) : WellFormed (pieces text.toList) metadata e.tributes := by
  have hread := h.isReadFrom ht hd
  have hreads := reads_of_addAll h.scan_eq
  obtain ⟨htributes, hrarity, -⟩ := ofTags_eq_ok_iff.mp hd
  rw [h.tributes, parseTributes_eq_ok_iff] at htributes
  obtain ⟨s, hs, hwrites, hpos, hlt⟩ := htributes
  have hwithin := h.references
  rw [forall_references, h.tributes, ← h.resizes, ← h.eliminated, ← h.credited, ← h.gives,
    ← h.takes] at hwithin
  obtain ⟨hin_resizes, hin_eliminated, hin_credited, hin_gives, hin_takes, hin_pronouns⟩ := hwithin
  refine
    { decodes := ⟨t, ht⟩
      tributes := ⟨s.toList, by rw [values_one? ht _ rfl, hs]; rfl, hwrites, hpos, hlt⟩
      rarity := ?rarity
      size := ?size
      elim := forall_mem_left hread.eliminated hin_eliminated
      perp := forall_mem_left hread.credited hin_credited
      give := ?give
      remove := ?remove
      legible := hreads.legible
      suffix := ?suffix
      slot := h.mem_numbers
      pronoun := fun slot hspeaks => hin_pronouns slot ((hreads.mem_pronouns slot).mpr hspeaks) }
  case rarity =>
    intro v hv
    rw [values_one? ht _ rfl] at hv
    obtain ⟨hnone, -⟩ | ⟨r, hr, hvalue, hfinite, hpositive⟩ := parseRarity_eq_ok_iff.mp hrarity
    · simp [hnone] at hv
    · obtain rfl : v = r.toList := by simpa [hr] using hv
      exact ⟨_, hvalue, hfinite, hpositive⟩
  case size =>
    intro v hv
    obtain ⟨r, ⟨x, hx, hslot, hresize⟩, hr⟩ := forall_mem_left hread.resizes hin_resizes v hv
    exact ⟨x.1, x.2, r.2, hx, ⟨r.1, hslot, hr⟩, hresize⟩
  case give =>
    intro v hv
    obtain ⟨g, ⟨x, hx, hslot, -⟩, hg⟩ := forall_mem_left hread.gives hin_gives v hv
    exact ⟨x.1, x.2, hx, g.1, hslot, hg⟩
  case remove =>
    intro v hv
    obtain ⟨g, ⟨x, hx, hslot, -⟩, hg⟩ := forall_mem_left hread.takes hin_takes v hv
    exact ⟨x.1, x.2, hx, g.1, hslot, hg⟩
  case suffix =>
    intro slot suffix hnames
    have hmem := (hreads.mem_suffixes slot suffix).mpr hnames
    have hparsed := parseEach_eq_ok_iff.mp h.slots
    obtain ⟨r, hr, -⟩ := forall_mem_left hparsed (fun _ hmem => hmem) _ hmem
    exact ⟨r, hr⟩

/-- What an accepted event is read from fits together, and the event says what it says. -/
theorem isReadFrom_of_parse (h : parse text metadata = .ok e) :
    WellFormed (pieces text.toList) metadata e.tributes ∧
      e.IsReadFrom (pieces text.toList) text metadata := by
  obtain ⟨t, d, ht, hd, hjoin⟩ := parse_eq_ok_iff.mp h
  obtain ⟨scan, hscan⟩ := exists_joins hjoin
  exact ⟨hscan.wellFormed ht hd, hscan.isReadFrom ht hd⟩

/-! ## From what fits together to the event -/

variable {n : Nat}

theorem WellFormed.exists_directives {ps : List Piece} {t : Tags} (h : WellFormed ps metadata n)
    (ht : Tags.read schema metadata = .ok t) :
    ∃ d, Directives.ofTags t = .ok d ∧ d.tributes = n ∧
      ∀ pronouns : List Nat, (∀ slot ∈ pronouns, slot ≤ n) →
        ∀ r ∈ references d pronouns, r.2 ≤ n := by
  have htributes : parseTributes (t.one? "tributes") = .ok n := by
    obtain ⟨v, hv, hwrites⟩ := h.tributes
    rw [values_one? ht _ rfl] at hv
    cases hone : t.one? "tributes" with
    | none => simp [hone] at hv
    | some s =>
        obtain rfl : s.toList = v := by simpa [hone] using hv
        exact parseTributes_eq_ok_iff.mpr ⟨s, rfl, hwrites⟩
  have hrarity : ∃ r, parseRarity (t.one? "rarity") = .ok r := by
    simp only [parseRarity_eq_ok_iff]
    cases hone : t.one? "rarity" with
    | none => exact ⟨1.0, .inl ⟨rfl, rfl⟩⟩
    | some s =>
        obtain ⟨r, hr⟩ := h.rarity s.toList (by rw [values_one? ht _ rfl, hone]; simp)
        exact ⟨r, .inr ⟨s, rfl, hr⟩⟩
  have hresizes : ∃ rs, parseEach parseResize (t.pairs "size") = .ok rs ∧ ∀ r ∈ rs, r.1 ≤ n := by
    refine exists_parseEach ht "size" rfl ?_
    intro v hv
    obtain ⟨word, size, resize, hread, ⟨slot, hslot, hle⟩, hresize⟩ := h.size v hv
    exact ⟨_, (slot, resize), hread, parseResize_eq_ok_iff.mpr ⟨hslot, hresize⟩, hle⟩
  obtain ⟨rarity, hrarity⟩ := hrarity
  obtain ⟨resizes, hresizes, hin_resizes⟩ := hresizes
  obtain ⟨eliminated, heliminated, hin_eliminated⟩ := exists_parseEach_parseSlot "elim" h.elim
  obtain ⟨credited, hcredited, hin_credited⟩ := exists_parseEach_parseSlot "perp" h.perp
  obtain ⟨gives, hgives, hin_gives⟩ := exists_parseEach_parseItem ht "give" rfl h.give
  obtain ⟨takes, htakes, hin_takes⟩ := exists_parseEach_parseItem ht "remove" rfl h.remove
  rw [valueWords_eq ht rfl] at heliminated hcredited
  refine ⟨{ tributes := n, rarity, resizes, eliminated, credited, gives, takes }, ?_, rfl, ?_⟩
  · exact ofTags_eq_ok_iff.mpr
      ⟨htributes, hrarity, hresizes, heliminated, hcredited, hgives, htakes⟩
  · intro pronouns hpronouns
    exact forall_references.mpr
      ⟨hin_resizes, hin_eliminated, hin_credited, hin_gives, hin_takes, hpronouns⟩

theorem WellFormed.slots_of_reads {ps : List Piece} {scan : SlotScan} (h : WellFormed ps metadata n)
    (hreads : Reads ps scan) :
    scan.suffixes.map (·.1) = List.range' 1 n ∧
      ∃ slots, parseEach (fun s => Requirement.parse s.2) scan.suffixes = .ok slots := by
  constructor
  · refine eq_range'_of_rising (List.pairwise_map.mpr hreads.rising) ?_
    intro slot
    rw [← h.slot]
    simp [← hreads.mem_suffixes]
  · simp only [parseEach_eq_ok_iff]
    refine exists_forall₂ ?_
    intro s hs
    exact h.suffix s.1 s.2 ((hreads.mem_suffixes s.1 s.2).mp hs)

theorem exists_of_wellFormed (h : WellFormed (pieces text.toList) metadata n) :
    ∃ e, parse text metadata = .ok e := by
  obtain ⟨t, ht⟩ := h.decodes
  obtain ⟨d, hd, rfl, hwithin⟩ := h.exists_directives ht
  obtain ⟨scan, hscan⟩ := exists_addAll_iff.mpr h.legible
  have hreads := reads_of_addAll hscan
  obtain ⟨hnumbers, slots, hslots⟩ := h.slots_of_reads hreads
  have hpronouns : ∀ slot ∈ scan.pronouns, slot ≤ d.tributes :=
    fun slot hslot => h.pronoun slot ((hreads.mem_pronouns slot).mp hslot)
  obtain ⟨-, -, -, hpos, -⟩ := h.tributes
  obtain ⟨e, he⟩ := exists_ofDirectives hscan hslots hnumbers hpos (hwithin _ hpronouns)
  exact ⟨e, parse_eq_ok_iff.mpr ⟨t, d, ht, hd, he⟩⟩

/-- Over the pieces of a text, an event is read from it exactly where it fits together with its
metadata line, and then the event says what they say. -/
theorem accepted_iff_wellFormed (text metadata : String) :
    ∃ ps, Scans text.toList ps ∧
      ((∃ e, parse text metadata = .ok e) ↔ ∃ n, WellFormed ps metadata n) ∧
      ∀ e, parse text metadata = .ok e →
        WellFormed ps metadata e.tributes ∧ e.IsReadFrom ps text metadata := by
  refine ⟨pieces text.toList, scans_pieces _, ⟨?_, ?_⟩, fun e h => isReadFrom_of_parse h⟩
  · rintro ⟨e, h⟩
    exact ⟨e.tributes, (isReadFrom_of_parse h).1⟩
  · rintro ⟨n, h⟩
    exact exists_of_wellFormed h

/-- A text with a repeated slot, a number with a zero before it and two clauses after it, a plain
percent sign and two pronouns. -/
def rescueText : String :=
  "%1% and %02:A&>1m% drop 100% of it, %P:1s% friend saves %1% from %p:2self%."

/-- A line with signs, zeros and spaces at the numbers and with repeated slots. -/
def rescueMetadata : String :=
  "tributes:+2, size:1:x2, elim:02 1 2, give:1:rope: frayed, give: 01 :map, rarity:0.5"

theorem accepted_rescue :
    ∃ e ps, parse rescueText rescueMetadata = .ok e ∧ e.tributes = 2 ∧ e.eliminated = [2, 1, 2] ∧
      e.gives = [(1, "rope: frayed"), (1, "map")] ∧
      e.slots = [{}, { team := some 'A', tallerThan := some ⟨1.0⟩ }] ∧ Scans rescueText.toList ps ∧
      WellFormed ps rescueMetadata 2 ∧ e.IsReadFrom ps rescueText rescueMetadata := by
  obtain ⟨e, he, hvalues⟩ := exists_of_any (x := parse rescueText rescueMetadata)
    (P := fun e => e.tributes = 2 ∧ e.eliminated = [2, 1, 2] ∧
      e.gives = [(1, "rope: frayed"), (1, "map")] ∧
      e.slots = [{}, { team := some 'A', tallerThan := some ⟨1.0⟩ }])
    (by decide +kernel)
  obtain ⟨htributes, heliminated, hgives, hslots⟩ := of_decide_eq_true hvalues
  obtain ⟨ps, hscans, -, hall⟩ := accepted_iff_wellFormed rescueText rescueMetadata
  obtain ⟨hwell, hread⟩ := hall e he
  exact ⟨e, ps, he, htributes, heliminated, hgives, hslots, hscans, htributes ▸ hwell, hread⟩

end Event
end Tournament
