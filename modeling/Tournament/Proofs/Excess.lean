import Tournament.Proofs.Credit
import Tournament.Proofs.Cuts
import Tournament.Proofs.Failure
import Tournament.Proofs.Joining
import Tournament.Proofs.Participation
import Tournament.Proofs.Readings

/-!
# How much an event can credit

Nothing bounds the lists of slots of an event: for any numbers there is a spec whose bloodbath has a
single event, which eliminates its only player so many times and credits the player so many times
with it (`Spec.exists_fall_of_parse`).  A game on it begins with this event, whose credit is the
product of the numbers, and so ends at once if this is more than a count holds
(`Game.exists_overflow`).
-/

namespace Tournament

/-! ## A line of metadata -/

/-- A `1` more than `n` of them, with a blank between each two. -/
def ones : Nat → List Char
  | 0 => ['1']
  | n + 1 => '1' :: ' ' :: ones n

theorem notMem_ones {c : Char} (hone : c ≠ '1') (hblank : c ≠ ' ') (n : Nat) : c ∉ ones n := by
  induction n with
  | zero => simpa [ones] using hone
  | succ n ih => simp [ones, hone, hblank, ih]

theorem getLast?_append_ones (before : List Char) (n : Nat) :
    (before ++ ones n).getLast? = some '1' := by
  induction n generalizing before with
  | zero => exact List.getLast?_concat
  | succ n ih => simpa [ones] using ih (before ++ ['1', ' '])

theorem trim_append_ones {before : List Char}
    (hhead : ∀ c ∈ before.head?, Text.isBlank c = false) (n : Nat) :
    Text.trim (before ++ ones n) = before ++ ones n := by
  apply Text.trim_eq_self
  · cases before with
    | nil =>
        intro c hc
        cases n <;> cases hc <;> decide
    | cons c before => exact hhead
  · rw [getLast?_append_ones]
    rintro c ⟨⟩
    decide

theorem words_ones (n : Nat) : Text.words (ones n) = List.replicate (n + 1) ['1'] := by
  induction n with
  | zero => decide
  | succ n ih =>
      have hcut : ones (n + 1) = ['1'] ++ ' ' :: ones n := rfl
      have hone : Text.splitBy Text.isBlank ['1'] = [['1']] := by decide
      rw [Text.words, hcut, Text.splitBy_append (by decide), hone, List.filter_append]
      exact congrArg (['1'] :: ·) ih

def onesItem (key : String) (n : Nat) : List Char :=
  key.toList ++ ':' :: ones n

theorem items_of_trimmed {item : List Char} (hcomma : ',' ∉ item) (htrim : Text.trim item = item)
    (hne : item ≠ []) : Tags.items (String.ofList item) = [item] := by
  have hcut : Text.splitBy (· = ',') item = [item] :=
    Text.splitBy_eq_singleton fun c hc => decide_eq_false (ne_of_mem_of_not_mem hc hcomma)
  simp [Tags.items, hcut, htrim, hne]

theorem items_onesItem {key : String} (hcomma : ',' ∉ key.toList)
    (hhead : ∀ c ∈ key.toList.head?, Text.isBlank c = false) (n : Nat) :
    Tags.items (String.ofList (onesItem key n)) = [onesItem key n] := by
  refine items_of_trimmed ?_ ?_ (List.append_ne_nil_of_right_ne_nil _ (List.cons_ne_nil _ _))
  · rw [onesItem, List.mem_append, List.mem_cons]
    rintro (hkey | hcolon | hones)
    · exact hcomma hkey
    · exact absurd hcolon (by decide)
    · exact notMem_ones (by decide) (by decide) n hones
  · rw [onesItem, List.append_cons]
    refine trim_append_ones ?_ n
    cases hkey : key.toList with
    | nil =>
        rintro c ⟨⟩
        decide
    | cons c rest => simpa [hkey] using hhead

/-- What an event for one player has as metadata: so many eliminations of the player, and so many
credits for them. -/
def fallMetadata (n m : Nat) : String :=
  "tributes:1" ++ "," ++ String.ofList (onesItem "elim" n) ++ "," ++
    String.ofList (onesItem "perp" m)

theorem items_fallMetadata (n m : Nat) :
    Tags.items (fallMetadata n m) =
      ["tributes:1".toList, onesItem "elim" n, onesItem "perp" m] := by
  have htributes : Tags.items "tributes:1" = ["tributes:1".toList] := by decide
  have helim : Tags.items (String.ofList (onesItem "elim" n)) = [onesItem "elim" n] :=
    items_onesItem (by decide) (by rintro c ⟨⟩; decide) n
  have hperp : Tags.items (String.ofList (onesItem "perp" m)) = [onesItem "perp" m] :=
    items_onesItem (by decide) (by rintro c ⟨⟩; decide) m
  rw [fallMetadata, Tags.items_append, Tags.items_append, htributes, helim, hperp]
  rfl

def fallTags (n m : Nat) : Tags where
  entries := [("tributes", .one "1"), ("size", .unset),
    ("elim", .words (List.replicate (n + 1) "1")), ("perp", .words (List.replicate (m + 1) "1")),
    ("give", .unset), ("remove", .unset), ("rarity", .unset)]

theorem readItem_onesItem {key : String} (hkey : ':' ∉ key.toList)
    (htrim : Text.trim key.toList = key.toList) (n : Nat) :
    Tags.readItem (onesItem key n) = .ok (key, ones n) := by
  have hne : ones n ≠ [] := by cases n <;> exact List.cons_ne_nil _ _
  have htrimOnes : Text.trim ([] ++ ones n) = [] ++ ones n := trim_append_ones (by simp) n
  rw [List.nil_append] at htrimOnes
  rw [Tags.readItem, onesItem, Text.cut_append hkey]
  simp [htrimOnes, hne, htrim]

theorem read_fallMetadata (n m : Nat) :
    Tags.read Event.schema (fallMetadata n m) = .ok (fallTags n m) := by
  have htributes : Tags.readItem "tributes:1".toList = .ok ("tributes", ['1']) := by decide
  have helim : Tags.readItem (onesItem "elim" n) = .ok ("elim", ones n) :=
    readItem_onesItem (by decide) (by decide) n
  have hperp : Tags.readItem (onesItem "perp" m) = .ok ("perp", ones m) :=
    readItem_onesItem (by decide) (by decide) m
  rw [Tags.read, if_neg (by decide), items_fallMetadata]
  simp only [Tags.addAll, Tags.add, htributes, helim, hperp]
  simp [Event.schema, Tags.blank, Tags.put, Tags.get, Tags.set, words_ones, fallTags, List.lookup_cons]

/-! ## The event -/

def fallDirectives (n m : Nat) : Event.Directives where
  tributes := 1
  rarity := 1.0
  resizes := []
  eliminated := List.replicate (n + 1) 1
  credited := List.replicate (m + 1) 1
  gives := []
  takes := []

theorem parseEach_replicate {α β : Type} {f : α → Except SpecError β} {a : α} {b : β}
    (h : f a = .ok b) (n : Nat) :
    Event.parseEach f (List.replicate n a) = .ok (List.replicate n b) := by
  induction n with
  | zero => rfl
  | succ n ih => rw [List.replicate_succ, Event.parseEach, h, ih]; rfl

theorem ofTags_fallTags (n m : Nat) :
    Event.Directives.ofTags (fallTags n m) = .ok (fallDirectives n m) := by
  have hread : Number.readPositive64 (String.ofList (Text.trim "1".toList)) = some 1 := by
    decide +kernel
  have hslot (key : String) : Event.parseSlot key "1" = .ok 1 := by
    have hone := Event.readPositive64_eq_some_iff.mp hread
    rw [String.toList_ofList] at hone
    exact (Event.parseSlot_eq_ok_iff key).mpr hone
  have htributes : Event.parseTributes ((fallTags n m).one? "tributes") = .ok 1 := by
    have hone : (fallTags n m).one? "tributes" = some "1" := rfl
    rw [hone]
    decide +kernel
  refine Event.ofTags_eq_ok_iff.mpr ⟨htributes, rfl, rfl, ?_, ?_, rfl, rfl⟩
  · exact parseEach_replicate (hslot "elim") (n + 1)
  · exact parseEach_replicate (hslot "perp") (m + 1)

structure Event.IsFall (n m : Nat) (e : Event) : Prop where
  slots : e.slots = [{}]
  rarity : e.rarity = 1.0
  eliminated : e.eliminated = List.replicate (n + 1) 1
  credited : e.credited = List.replicate (m + 1) 1

theorem exists_fall (n m : Nat) :
    ∃ e, Event.parse "%1% falls." (fallMetadata n m) = .ok e ∧ e.IsFall n m := by
  have hscan : ({} : Event.SlotScan).addAll (pieces "%1% falls.".toList) = .ok ⟨[(1, [])], []⟩ := by
    decide +kernel
  have hslots : Event.parseEach (fun s => Requirement.parse s.2) [((1 : Nat), ([] : List Char))] =
      .ok [{}] := rfl
  have hreferences : ∀ r ∈ Event.references (fallDirectives n m) [], r.2 ≤ 1 := by
    rw [Event.forall_references]
    simp [fallDirectives]
  obtain ⟨e, he⟩ := Event.exists_ofDirectives (d := fallDirectives n m) hscan hslots rfl
    Nat.zero_lt_one hreferences
  obtain ⟨scan, hjoins⟩ := Event.exists_joins he
  obtain rfl := Except.ok.inj (hscan.symm.trans hjoins.scan_eq)
  refine ⟨e, ?_, (Except.ok.inj (hslots.symm.trans hjoins.slots)).symm, hjoins.rarity,
    hjoins.eliminated, hjoins.credited⟩
  rw [Event.parse, read_fallMetadata]
  change (Event.Directives.ofTags (fallTags n m)).bind _ = _
  rw [ofTags_fallTags]
  exact he

theorem Turn.not_fits_of_isFall {n m : Nat} {t : Turn} (h : t.event.IsFall n m)
    (hn : n + 1 < UInt32.size) (hsize : UInt32.size ≤ (m + 1) * (n + 1)) (hids : t.ids.Nodup)
    {i : Nat} {p : Player} (hi : t.ids[0]? = some i) (hp : t.before.roster[i]? = some p) :
    ¬ t.Fits := by
  intro hfits
  have hroom := (Contest.holdsEffects_iff hids).mp hfits 0 i p hi hp
  rw [h.credited, h.eliminated, List.count_replicate_self, List.length_replicate,
    UInt32.toNat_ofNat', Nat.mod_eq_of_lt hn] at hroom
  omega

/-! ## The spec -/

/-- The lines before the metadata: two players, the days and the nights, and the text of the
event. -/
def fallHead : String :=
  "[players]\n\"Ann\"\ngender:F, height:1m\n\"Bo\"\ngender:M, height:1m\n" ++
    "[day]\n\"%1% naps.\"\ntributes:1\n[night]\n\"%1% snores.\"\ntributes:1\n" ++
    "[bloodbath]\n\"%1% falls.\""

/-- A spec with a single event in each of its sources, and in the bloodbath that of the numbers. -/
def fallSpec (n m : Nat) : String :=
  fallHead ++ "\n" ++ fallMetadata n m

theorem toList_fallMetadata (n m : Nat) :
    (fallMetadata n m).toList =
      't' :: ("ributes:1,elim:".toList ++ ones n ++ ",perp:".toList) ++ ones m := by
  simp [fallMetadata, onesItem]

theorem notMem_fallMetadata (n m : Nat) : '\n' ∉ (fallMetadata n m).toList := by
  have helim : '\n' ∉ 't' :: "ributes:1,elim:".toList := by decide
  have hperp : '\n' ∉ ",perp:".toList := by decide
  have hones (k : Nat) : '\n' ∉ ones k := notMem_ones (by decide) (by decide) k
  rw [toList_fallMetadata, ← List.cons_append, ← List.cons_append]
  simp only [List.mem_append, not_or]
  exact ⟨⟨⟨helim, hones n⟩, hperp⟩, hones m⟩

namespace Spec

theorem map_plainQuote_ones (n : Nat) : (ones n).map plainQuote = ones n := by
  induction n with
  | zero => decide
  | succ n ih => rw [ones, List.map_cons, List.map_cons, ih]; rfl

theorem normalize_fallMetadata (n m : Nat) :
    normalize (fallMetadata n m).toList = (fallMetadata n m).toList := by
  have htrim : Text.trim (fallMetadata n m).toList = (fallMetadata n m).toList := by
    rw [toList_fallMetadata]
    refine trim_append_ones ?_ m
    rintro c ⟨⟩
    decide
  rw [normalize, htrim, toList_fallMetadata]
  simp only [List.map_cons, List.map_append, map_plainQuote_ones]
  rfl

theorem lines_fallSpec (n m : Nat) :
    lines (fallSpec n m) = lines fallHead ++ [⟨14, (fallMetadata n m).toList⟩] := by
  have hlist : (fallSpec n m).toList = fallHead.toList ++ '\n' :: (fallMetadata n m).toList := by
    simp [fallSpec]
  have hone : Text.splitBy (· = '\n') (fallMetadata n m).toList = [(fallMetadata n m).toList] :=
    Text.splitBy_eq_singleton fun c hc =>
      decide_eq_false (ne_of_mem_of_not_mem hc (notMem_fallMetadata n m))
  have hthirteen : (Text.splitBy (· = '\n') fallHead.toList).length = 13 := by
    rw [← Text.chars_eq_toList]
    decide +kernel
  have hlast : numberFrom (1 + 13) [(fallMetadata n m).toList] =
      [⟨14, (fallMetadata n m).toList⟩] := by
    rw [numberFrom, normalize_fallMetadata, toList_fallMetadata]
    rfl
  rw [lines, hlist, Text.splitBy_append (by decide), hone, numberFrom_append, hthirteen, hlast, lines]

/-- A line in quotes with its metadata, after lines of which the last takes none along. -/
theorem itemsFrom_concat_pair {ls : List Line} {s : Section} {n n' : Nat}
    {line text metadata : List Char} (hsection : sectionAfter .start ls = s)
    (hlast : ∀ last ∈ ls.getLast?, quotedText? last.text = none)
    (hpaired : pairedQuote? s line metadata = some text) :
    itemsFrom .start (ls ++ [⟨n, line⟩, ⟨n', metadata⟩]) =
      itemsFrom .start ls ++ [⟨n, entry s text metadata⟩] := by
  rw [itemsFrom_append fun last hmem next _ => not_paired_of_not_quoted (hlast last hmem), hsection,
    itemsFrom, hpaired]
  rfl

structure Draft.LacksBloodbath (d : Draft) : Prop where
  changes : d.changes = {}
  bloodbath : d.pools.bloodbath = []
  others : ∀ events ∈ (Contest.mk .standard d.players d.arenas d.pools).sources.tail,
    (∃ e ∈ events, e.Undemanding) ∧ HasFiniteSum events
  isOpen : (Contest.mk .standard d.players d.arenas d.pools).isOver = false

instance (d : Draft) : Decidable d.LacksBloodbath :=
  decidable_of_iff (d.changes = {} ∧ d.pools.bloodbath = [] ∧
    (∀ events ∈ (Contest.mk .standard d.players d.arenas d.pools).sources.tail,
      (∃ e ∈ events, e.Undemanding) ∧ HasFiniteSum events) ∧
    (Contest.mk .standard d.players d.arenas d.pools).isOver = false)
    ⟨fun ⟨h₁, h₂, h₃, h₄⟩ => ⟨h₁, h₂, h₃, h₄⟩,
      fun h => ⟨h.changes, h.bloodbath, h.others, h.isOpen⟩⟩

theorem exists_fallHead :
    ∃ (ls : List Line) (d : Draft), lines fallHead = ls ++ [⟨13, "\"%1% falls.\"".toList⟩] ∧
      sectionAfter .start ls = .events .bloodbath ∧
      (∀ last ∈ ls.getLast?, quotedText? last.text = none) ∧
      (({} : Draft).takeAll (itemsFrom .start ls)).1 = d ∧ d.LacksBloodbath := by
  rw [lines_eq_linesOf]
  exact ⟨(linesOf (Text.chars fallHead)).dropLast, _, by decide +kernel, by decide +kernel,
    by decide +kernel, rfl, by decide +kernel⟩

/-- For any numbers there is a spec with an event for anyone in each source, of which that of the
bloodbath eliminates its player so many times and credits the player so many times with it. -/
theorem exists_fall_of_parse (n m : Nat) :
    ∃ reading e, parse (fallSpec n m) = .ok reading ∧ reading.contest.isOver = false ∧
      reading.contest.Provisioned ∧ reading.contest.pools.bloodbath = [e] ∧ e.IsFall n m := by
  obtain ⟨e, he, hfall⟩ := exists_fall n m
  obtain ⟨ls, d, hlines, hsection, hlast, hdraft, hd⟩ := exists_fallHead
  have hpaired : pairedQuote? (.events .bloodbath) "\"%1% falls.\"".toList
      (fallMetadata n m).toList = some "%1% falls.".toList := by
    rw [toList_fallMetadata]
    rfl
  have hrules : Rules.ofChanges {} = .ok .standard := by decide +kernel
  have htake : d.take ⟨13, .event .bloodbath "%1% falls.".toList (fallMetadata n m).toList⟩ =
      .ok { d with pools := d.pools.add .bloodbath e } := by
    simp only [Draft.take, String.ofList_toList, he, Except.map]
  have hall : draftOf (lines (fallSpec n m)) = { d with pools := d.pools.add .bloodbath e } := by
    rw [draftOf, lines_fallSpec, hlines, List.append_assoc, List.singleton_append,
      itemsFrom_concat_pair hsection hlast hpaired, takeAll_append, hdraft, entry,
      takeAll_cons_ok htake]
    rfl
  have hcontest : (readLines (lines (fallSpec n m))).contest =
      ⟨.standard, d.players, d.arenas, { d.pools with bloodbath := [e] }⟩ := by
    rw [readLines, hall, Draft.finish]
    simp only [hd.changes, hrules, Pools.add, hd.bloodbath, List.nil_append]
  have hne : lines (fallSpec n m) ≠ [] := by
    rw [lines_fallSpec]
    exact List.append_ne_nil_of_right_ne_nil _ (List.cons_ne_nil _ _)
  have hsources : (readLines (lines (fallSpec n m))).contest.sources =
      [e] :: (Contest.mk .standard d.players d.arenas d.pools).sources.tail := by
    rw [hcontest]
    rfl
  have hsum : HasFiniteSum [e] := by
    rw [HasFiniteSum, List.map_singleton, hfall.rarity]
    decide +kernel
  refine ⟨_, e, parse_eq_of_ne_nil hne, ?_, ⟨?_, ?_⟩, by rw [hcontest], hfall⟩
  · rw [hcontest]
    exact hd.isOpen
  · rw [hsources, List.forall_mem_cons]
    exact ⟨⟨e, List.mem_singleton_self e, hfall.slots⟩, fun events h => (hd.others events h).1⟩
  · rw [hsources, List.forall_mem_cons]
    exact ⟨hsum, fun events h => (hd.others events h).2⟩

end Spec

/-! ## The first round -/

namespace Game

open Draw (Source)

variable {σ : Type} {src : Source σ}

theorem mem_bloodbath_of_start {c : Contest} {seed : String} {dice : σ} {g' : Game σ}
    {turns : List Turn} {result : Except GameError RoundReport}
    (h : Advances src (start c seed dice) turns result g') :
    ∀ t ∈ turns, t.event ∈ c.pools.bloodbath := by
  have hdrawn : ∀ {round : RoundKind} {g₁ : Game σ} {arena : Option Arena} {t : Turn},
      (start c seed dice).nextRound src = (.ok round, g₁) → Provenance c round arena t →
        t.event ∈ c.pools.bloodbath := by
    intro round g₁ arena t hnext hprovenance
    obtain rfl : round = .bloodbath := by cases hnext; rfl
    have hkind : t.kind = .bloodbath := by
      rcases hprovenance.kind with hkind | ⟨hfatal, -⟩
      · exact hkind
      · cases hfatal
    have hpool := hprovenance.pool (by rw [hkind]; decide)
    rwa [hkind] at hpool
  cases h with
  | decided | noRound | noDeck => simp
  | broken _ hnext hdeck hplays =>
      exact fun t ht => hdrawn hnext (hplays.provenance hnext hdeck t ht)
  | finished _ hnext hdeck hplays =>
      exact fun t ht => hdrawn hnext (hplays.provenance hnext hdeck t ht)

/-- On some spec with an event for anyone in each of its sources every game ends in its first call,
because what a player is credited with is more than a count holds. -/
theorem exists_overflow {n m : Nat} (hn : n + 1 < UInt32.size)
    (hsize : UInt32.size ≤ (m + 1) * (n + 1)) :
    ∃ reading, Spec.parse (fallSpec n m) = .ok reading ∧ reading.contest.Provisioned ∧
      ∀ {σ : Type} (src : Source σ) (seed : String) (dice : σ),
        ((start reading.contest seed dice).advance src).1 = .error .overflow := by
  obtain ⟨reading, e, hparse, hopen, hprovisioned, hpool, hfall⟩ := Spec.exists_fall_of_parse n m
  refine ⟨reading, hparse, hprovisioned, ?_⟩
  intro σ src seed dice
  cases hresult : ((start reading.contest seed dice).advance src).1 with
  | error failure =>
      have hfailure := failure_later hparse src seed dice 0 hresult
      obtain ⟨hover, -⟩ | rfl := hfailure.of_provisioned hprovisioned
      · exact absurd (hopen.symm.trans hover) Bool.false_ne_true
      · rfl
  | ok report =>
      -- the first turn would have to be that of the only event there is
      obtain ⟨turns, h⟩ := exists_advances src (start reading.contest seed dice)
      rw [hresult] at h
      have hturns := h.placing.turns_ne_nil (Contest.aliveIds_ne_nil hopen) hopen
      obtain ⟨t, turns, rfl⟩ := List.exists_cons_of_ne_nil hturns
      have hdrawn : t.event = e := by
        simpa [hpool] using mem_bloodbath_of_start h t List.mem_cons_self
      have hids := h.placing.nodup_of_mem (Contest.nodup_aliveIds _) t List.mem_cons_self
      obtain ⟨round, arena, hprovenance⟩ := h.exists_provenance t List.mem_cons_self
      obtain ⟨players, hplayers, ⟨_, -, hmet⟩, -⟩ := hprovenance.players
      rw [← hdrawn] at hfall
      rw [hfall.slots] at hmet
      obtain ⟨p, _, -, -, rfl⟩ := List.forall₂_cons_left_iff.mp hmet
      obtain ⟨i, _, hp, -, heq⟩ := List.forall₂_cons_right_iff.mp hplayers
      have hfirst : t.ids[0]? = some i := by rw [heq, List.getElem?_cons_zero]
      exact absurd (h.fits t List.mem_cons_self)
        (t.not_fits_of_isFall hfall hn hsize hids hfirst hp)

end Game
end Tournament
