import Tournament.Event
import Tournament.Proofs.Metadata
import Tournament.Proofs.Splitting

/-!
# Lines of metadata put together

A line is read just where each of its items is a key with a value and every key takes the values
that the items give it (`Tags.read_eq_ok_iff`); what it says is settled by these values, key by key
(`Tags.Gathers.unique`).  So two lines with a comma between them are read where both are and no key
with one value has it in both, and they say together what each of them says (`Tags.read_joined`).
-/

namespace Tournament

/-! ## The values of one key -/

/-- What a key holds that is given values by one line and then by another. -/
def TagValue.join : TagValue → TagValue → TagValue
  | .unset, y => y
  | .pairs xs, .pairs ys => .pairs (xs ++ ys)
  | x, _ => x

def TagValue.ofPairs (entries : List (String × String)) : TagValue :=
  if entries = [] then .unset else .pairs entries

theorem TagValue.join_unset (x : TagValue) : x.join .unset = x := by
  cases x <;> rfl

theorem TagValue.join_ofPairs (xs ys : List (String × String)) :
    (ofPairs xs).join (ofPairs ys) = ofPairs (xs ++ ys) := by
  cases xs with
  | nil => rfl
  | cons x xs =>
      cases ys with
      | nil => rw [List.append_nil]; rfl
      | cons y ys => rfl

namespace TagValue.Gathered

variable {shape : Shape} {vs ws : List (List Char)} {x y z : TagValue}

theorem pairs_iff : Gathered .pairs vs x ↔
    ∃ entries, List.Forall₂ (fun v e => Tags.readPair v = .ok e) vs entries ∧
      x = ofPairs entries := by
  constructor
  · intro h
    cases h with
    | unset => exact ⟨[], .nil, rfl⟩
    | @pairs _ entries hne hentries =>
        have hsome : entries ≠ [] := by
          rintro rfl
          exact hne (List.forall₂_nil_right_iff.mp hentries)
        exact ⟨entries, hentries, (if_neg hsome).symm⟩
  · rintro ⟨entries, hentries, rfl⟩
    cases hentries with
    | nil => exact .unset
    | cons he hrest => exact .pairs (List.cons_ne_nil _ _) (.cons he hrest)

theorem unique (h : Gathered shape vs x) (h' : Gathered shape vs y) : x = y := by
  cases shape with
  | one => cases h <;> cases h' <;> rfl
  | words => cases h <;> cases h' <;> rfl
  | pairs =>
      obtain ⟨entries, hentries, rfl⟩ := pairs_iff.mp h
      obtain ⟨entries', hentries', rfl⟩ := pairs_iff.mp h'
      have hfunctional : Relator.RightUnique fun v e => Tags.readPair v = .ok e :=
        fun _ _ _ he he' => Except.ok.inj (he.symm.trans he')
      rw [hfunctional.forall₂ hentries hentries']

/-- A key takes some values and then others if it takes each of them by themselves, and either are
none unless the key is one of pairs. -/
theorem append_iff : Gathered shape (vs ++ ws) z ↔
    ∃ x y, Gathered shape vs x ∧ Gathered shape ws y ∧
      (shape ≠ .pairs → x = .unset ∨ y = .unset) ∧ z = x.join y := by
  by_cases hshape : shape = .pairs
  · subst hshape
    simp only [pairs_iff, ne_eq, not_true_eq_false, false_implies, true_and]
    constructor
    · rintro ⟨entries, hentries, rfl⟩
      have hvs := List.forall₂_take vs.length hentries
      have hws := List.forall₂_drop vs.length hentries
      rw [List.take_left] at hvs
      rw [List.drop_left] at hws
      refine ⟨_, _, ⟨_, hvs, rfl⟩, ⟨_, hws, rfl⟩, ?_⟩
      rw [join_ofPairs, List.take_append_drop]
    · rintro ⟨_, _, ⟨xs, hxs, rfl⟩, ⟨ys, hys, rfl⟩, rfl⟩
      exact ⟨xs ++ ys, List.rel_append hxs hys, join_ofPairs xs ys⟩
  · constructor
    · intro h
      -- at most one value is taken, and it is one of the first or one of the others
      have hleft : ws = [] → ∃ x y, Gathered shape vs x ∧ Gathered shape ws y ∧
          (shape ≠ .pairs → x = .unset ∨ y = .unset) ∧ z = x.join y := by
        rintro rfl
        rw [List.append_nil] at h
        exact ⟨z, .unset, h, .unset, fun _ => .inr rfl, z.join_unset.symm⟩
      have hright : vs = [] → ∃ x y, Gathered shape vs x ∧ Gathered shape ws y ∧
          (shape ≠ .pairs → x = .unset ∨ y = .unset) ∧ z = x.join y := by
        rintro rfl
        exact ⟨.unset, z, .unset, h, fun _ => .inl rfl, rfl⟩
      generalize hvalues : vs ++ ws = values at h
      cases h with
      | unset => exact hright (List.append_eq_nil_iff.mp hvalues).1
      | one | words =>
          rcases List.append_eq_singleton_iff.mp hvalues with ⟨hvs, -⟩ | ⟨-, hws⟩
          · exact hright hvs
          · exact hleft hws
      | pairs => exact absurd rfl hshape
    · rintro ⟨x, y, hx, hy, hone, rfl⟩
      rcases hone hshape with rfl | rfl
      · cases hx with
        | unset => exact hy
      · rw [join_unset]
        cases hy with
        | unset => rwa [List.append_nil]

end TagValue.Gathered

namespace Tags

variable {schema : Schema} {t u a b : Tags} {xs ys : List (List Char)}

theorem valuesOf_append (key : String) (xs ys : List (List Char)) :
    valuesOf key (xs ++ ys) = valuesOf key xs ++ valuesOf key ys :=
  List.filterMap_append

/-! ## Which lines are read -/

def Legible (item : List Char) : Prop :=
  ∃ key value, readItem item = .ok (key, value)

/-- Every item is a key with a value, and every key of the schema takes its values. -/
structure Readable (schema : Schema) (items : List (List Char)) : Prop where
  legible : ∀ item ∈ items, Legible item
  gathered : ∀ key shape, schema.keys.lookup key = some shape →
    ∃ x, TagValue.Gathered shape (valuesOf key items) x

theorem Readable.of_append (h : Readable schema (xs ++ ys)) :
    Readable schema xs ∧ Readable schema ys := by
  obtain ⟨hxs, hys⟩ := List.forall_mem_append.mp h.legible
  refine ⟨⟨hxs, ?_⟩, ⟨hys, ?_⟩⟩
  all_goals
    intro key shape hkey
    obtain ⟨z, hz⟩ := h.gathered key shape hkey
    rw [valuesOf_append] at hz
    obtain ⟨x, y, hx, hy, -⟩ := TagValue.Gathered.append_iff.mp hz
    first | exact ⟨x, hx⟩ | exact ⟨y, hy⟩

theorem legible_of_addAll (h : t.addAll schema xs = .ok u) : ∀ item ∈ xs, Legible item := by
  induction xs generalizing t with
  | nil => simp
  | cons item xs ih =>
      rw [addAll] at h
      cases hadd : t.add schema item with
      | error e => simp [hadd] at h
      | ok t' =>
          rw [hadd] at h
          refine List.forall_mem_cons.mpr ⟨?_, ih h⟩
          unfold add at hadd
          cases hitem : readItem item with
          | error e => simp [hitem] at hadd
          | ok x => exact ⟨x.1, x.2, hitem⟩

theorem exists_put {key : String} {shape : Shape} {values : List (List Char)} {v : List Char}
    {x : TagValue} (ht : TagValue.Gathered shape values (t.get key))
    (h : TagValue.Gathered shape (values ++ [v]) x) : ∃ t', t.put key shape v = .ok t' := by
  obtain ⟨y, z, hy, hz, hone, -⟩ := TagValue.Gathered.append_iff.mp h
  obtain rfl := ht.unique hy
  unfold put
  cases hz with
  | one | words =>
      have hunset : t.get key = .unset := by
        rcases hone (by simp) with hunset | hset
        · exact hunset
        · cases hset
      rw [hunset]
      exact ⟨_, rfl⟩
  | pairs _ hentries =>
      obtain ⟨e, _, he, -, -⟩ := List.forall₂_cons_left_iff.mp hentries
      cases hget : t.get key with
      | unset | pairs => exact ⟨_, map_eq_ok.mpr ⟨e, he, rfl⟩⟩
      | one | words =>
          rw [hget] at ht
          cases ht

theorem exists_add {item : List Char} (ht : Gathers schema xs t)
    (h : Readable schema (xs ++ [item])) : ∃ u, t.add schema item = .ok u := by
  obtain ⟨key, value, hitem⟩ := h.legible item (by simp)
  unfold add
  simp only [hitem]
  cases hkey : schema.keys.lookup key with
  | none => exact ⟨t, rfl⟩
  | some shape =>
      obtain ⟨x, hx⟩ := h.gathered key shape hkey
      rw [valuesOf_concat hitem, if_pos rfl] at hx
      exact exists_put (ht.gathered key shape hkey) hx

theorem exists_addAll (ht : Gathers schema xs t) (h : Readable schema (xs ++ ys)) :
    ∃ u, t.addAll schema ys = .ok u := by
  induction ys generalizing xs t with
  | nil => exact ⟨t, rfl⟩
  | cons item ys ih =>
      rw [List.append_cons] at h
      obtain ⟨t', hadd⟩ := exists_add ht h.of_append.1
      rw [addAll, hadd]
      exact ih (gathers_of_add ht hadd) h

theorem Gathers.readable (h : Gathers schema xs t) (hlegible : ∀ item ∈ xs, Legible item) :
    Readable schema xs :=
  ⟨hlegible, fun key shape hkey => ⟨_, h.gathered key shape hkey⟩⟩

theorem exists_gathers (h : Readable schema xs) : ∃ t, Gathers schema xs t := by
  obtain ⟨t, ht⟩ := exists_addAll (gathers_blank schema) h
  exact ⟨t, gathers_of_addAll (gathers_blank schema) ht⟩

/-! ## What a line says -/

theorem get_of_notMem {key : String} (h : key ∉ t.entries.map (·.1)) : t.get key = .unset := by
  have hnone : t.entries.lookup key = none := by
    rw [List.lookup_eq_none_iff]
    intro e he
    rw [bne_iff_ne]
    rintro rfl
    exact h (List.mem_map_of_mem he)
  rw [get, hnone]
  rfl

/-- Where keys are distinct, the values of the keys are all there is to the tags. -/
theorem Follows.ext (ht : t.Follows schema) (hu : u.Follows schema)
    (hdistinct : (schema.keys.map (·.1)).Nodup) (h : ∀ key, t.get key = u.get key) : t = u := by
  have hkeys := ht.trans hu.symm
  rw [← ht] at hdistinct
  clear ht hu
  obtain ⟨entries⟩ := t
  obtain ⟨entries'⟩ := u
  congr 1
  dsimp only at hkeys hdistinct
  induction entries generalizing entries' with
  | nil => exact (List.map_eq_nil_iff.mp hkeys.symm).symm
  | cons e entries ih =>
      cases entries' with
      | nil => cases hkeys
      | cons e' entries' =>
          obtain ⟨key, x⟩ := e
          obtain ⟨key', x'⟩ := e'
          simp only [List.map_cons, List.cons.injEq] at hkeys
          obtain ⟨rfl, hkeys⟩ := hkeys
          obtain ⟨hfresh, hdistinct⟩ := List.nodup_cons.mp hdistinct
          obtain rfl : x = x' := by simpa [get] using h key
          rw [ih hdistinct entries' ?_ hkeys]
          intro other
          by_cases hother : other = key
          · subst hother
            rw [get_of_notMem hfresh, get_of_notMem (hkeys ▸ hfresh)]
          · have hne : (other == key) = false := by simpa using hother
            simpa [get, List.lookup_cons, hne] using h other

theorem Follows.get_of_unknown (ht : t.Follows schema) {key : String}
    (h : schema.keys.lookup key = none) : t.get key = .unset := by
  refine get_of_notMem ?_
  rw [ht, List.mem_map]
  rintro ⟨k, hk, rfl⟩
  simpa using List.lookup_eq_none_iff.mp h k hk

theorem Gathers.unique (hdistinct : (schema.keys.map (·.1)).Nodup)
    (ht : Gathers schema xs t) (hu : Gathers schema ys u)
    (h : ∀ key shape, schema.keys.lookup key = some shape → valuesOf key xs = valuesOf key ys) :
    t = u := by
  refine ht.follows.ext hu.follows hdistinct ?_
  intro key
  cases hkey : schema.keys.lookup key with
  | some shape =>
      have hx := ht.gathered key shape hkey
      rw [h key shape hkey] at hx
      exact hx.unique (hu.gathered key shape hkey)
  | none => rw [ht.follows.get_of_unknown hkey, hu.follows.get_of_unknown hkey]

/-- A line says what its items give the keys, if they are keys with values that the keys take. -/
theorem read_eq_ok_iff (hdistinct : (schema.keys.map (·.1)).Nodup) {s : String} :
    read schema s = .ok t ↔
      schema.keys ≠ [] ∧ (∀ item ∈ items s, Legible item) ∧ Gathers schema (items s) t := by
  constructor
  · intro h
    have hgathers := gathers_of_read h
    unfold read at h
    split_ifs at h with hne
    exact ⟨hne, legible_of_addAll h, hgathers⟩
  · rintro ⟨hne, hlegible, ht⟩
    obtain ⟨u, hu⟩ : ∃ u, (blank schema).addAll schema (items s) = .ok u :=
      exists_addAll (gathers_blank schema) (ht.readable hlegible)
    rw [read, if_neg hne, hu,
      ht.unique hdistinct (gathers_of_addAll (gathers_blank schema) hu) fun _ _ _ => rfl]

/-! ## What two lines say together -/

/-- What two lines say together: a key with one value has it from either, and a key of pairs has
the pairs of both. -/
def join (a b : Tags) : Tags :=
  ⟨a.entries.map fun e => (e.1, e.2.join (b.get e.1))⟩

def Compatible (schema : Schema) (a b : Tags) : Prop :=
  ∀ key ∈ schema.keys.map (·.1),
    schema.keys.lookup key ≠ some .pairs → a.get key = .unset ∨ b.get key = .unset

instance : Decidable (Compatible schema a b) :=
  inferInstanceAs (Decidable (∀ key ∈ schema.keys.map (·.1),
    schema.keys.lookup key ≠ some .pairs → a.get key = .unset ∨ b.get key = .unset))

theorem Follows.join (ha : a.Follows schema) (b : Tags) : (a.join b).Follows schema := by
  unfold Follows Tags.join at *
  rw [← ha, List.map_map]
  rfl

theorem get_join {key : String} (h : key ∈ a.entries.map (·.1)) (b : Tags) :
    (a.join b).get key = (a.get key).join (b.get key) := by
  unfold join get
  dsimp only
  generalize a.entries = entries at h ⊢
  induction entries with
  | nil => cases h
  | cons e entries ih =>
      rw [List.map_cons, List.lookup_cons, List.lookup_cons]
      by_cases he : key = e.1
      · simp [he]
      · have hne : (key == e.1) = false := by simpa using he
        simp only [hne]
        exact ih ((List.mem_cons.mp h).resolve_left he)

theorem Gathers.join (ha : Gathers schema xs a) (hb : Gathers schema ys b)
    (h : Compatible schema a b) : Gathers schema (xs ++ ys) (a.join b) := by
  refine ⟨ha.follows.join b, ?_⟩
  intro key shape hkey
  have hone : shape ≠ .pairs → a.get key = .unset ∨ b.get key = .unset := by
    intro hshape
    refine h key (mem_keys_of_lookup hkey) ?_
    simpa [hkey] using hshape
  rw [valuesOf_append, get_join (ha.follows.mem_keys hkey)]
  exact TagValue.Gathered.append_iff.mpr
    ⟨_, _, ha.gathered key shape hkey, hb.gathered key shape hkey, hone, rfl⟩

theorem gathers_append_iff (hdistinct : (schema.keys.map (·.1)).Nodup)
    (hlegible : ∀ item ∈ xs ++ ys, Legible item) :
    Gathers schema (xs ++ ys) u ↔ ∃ a b, Gathers schema xs a ∧ Gathers schema ys b ∧
      Compatible schema a b ∧ u = a.join b := by
  constructor
  · intro h
    obtain ⟨hxs, hys⟩ := (h.readable hlegible).of_append
    obtain ⟨a, ha⟩ := exists_gathers hxs
    obtain ⟨b, hb⟩ := exists_gathers hys
    have hcompatible : Compatible schema a b := by
      intro key _ hshape
      cases hkey : schema.keys.lookup key with
      | none => exact .inl (ha.follows.get_of_unknown hkey)
      | some shape =>
          have hz := h.gathered key shape hkey
          rw [valuesOf_append] at hz
          obtain ⟨x, y, hx, hy, hone, -⟩ := TagValue.Gathered.append_iff.mp hz
          rw [(ha.gathered key shape hkey).unique hx, (hb.gathered key shape hkey).unique hy]
          refine hone ?_
          simpa [hkey] using hshape
    exact ⟨a, b, ha, hb, hcompatible,
      h.unique hdistinct (ha.join hb hcompatible) fun _ _ _ => rfl⟩
  · rintro ⟨a, b, ha, hb, hcompatible, rfl⟩
    exact ha.join hb hcompatible

theorem items_append (s t : String) : items (s ++ "," ++ t) = items s ++ items t := by
  have hlist : (s ++ "," ++ t).toList = s.toList ++ ',' :: t.toList := by simp
  rw [items, items, items, hlist, Text.splitBy_append (by simp), List.map_append,
    List.filter_append]

theorem addAll_append : t.addAll schema (xs ++ ys) =
    (t.addAll schema xs).bind fun t' => t'.addAll schema ys := by
  induction xs generalizing t with
  | nil => rfl
  | cons item xs ih =>
      rw [List.cons_append, addAll, addAll]
      cases t.add schema item with
      | error e => rfl
      | ok t' => exact ih

/-- The item is a value for a key that the schema does not name. -/
def IsForeign (schema : Schema) (item : List Char) : Prop :=
  ∃ key value, readItem item = .ok (key, value) ∧ schema.keys.lookup key = none

theorem addAll_of_isForeign (h : ∀ item ∈ xs, IsForeign schema item) :
    t.addAll schema xs = .ok t := by
  induction xs with
  | nil => rfl
  | cons item xs ih =>
      obtain ⟨⟨key, value, hitem, hkey⟩, hxs⟩ := List.forall_mem_cons.mp h
      have hadd : t.add schema item = .ok t := by
        rw [add, hitem]
        simp only [hkey]
      rw [addAll, hadd]
      exact ih hxs

/-- Two lines with the same items in another order say the same, as long as the values of every key
keep their order. -/
theorem read_eq_ok_iff_of_perm (hdistinct : (schema.keys.map (·.1)).Nodup) {s s' : String}
    (hperm : (items s).Perm (items s'))
    (hvalues : ∀ key ∈ schema.keys.map (·.1), valuesOf key (items s) = valuesOf key (items s')) :
    read schema s = .ok t ↔ read schema s' = .ok t := by
  have hlegible : (∀ item ∈ items s, Legible item) ↔ ∀ item ∈ items s', Legible item :=
    forall_congr' fun _ => by rw [hperm.mem_iff]
  have hgathers : Gathers schema (items s) t ↔ Gathers schema (items s') t := by
    constructor
    all_goals
      rintro ⟨hfollows, hgathered⟩
      refine ⟨hfollows, fun key shape hkey => ?_⟩
      simpa [hvalues key (mem_keys_of_lookup hkey)] using hgathered key shape hkey
  rw [read_eq_ok_iff hdistinct, read_eq_ok_iff hdistinct, hlegible, hgathers]

/-- Reading `s` and `t` with a comma between them.  The line is read where both are and no key with
one value has it in both, and it says what the two say together.  Items of different keys may come
in any order, and items with keys that the schema does not name change nothing. -/
theorem read_joined (hdistinct : (schema.keys.map (·.1)).Nodup) (s t : String) :
    (∀ u, read schema (s ++ "," ++ t) = .ok u ↔
      ∃ a b, read schema s = .ok a ∧ read schema t = .ok b ∧ Compatible schema a b ∧
        u = a.join b) ∧
    (∀ a b, read schema s = .ok a → read schema t = .ok b →
      ∀ key, (a.join b).get key = (a.get key).join (b.get key)) ∧
    (∀ s', (items s).Perm (items s') →
      (∀ key ∈ schema.keys.map (·.1), valuesOf key (items s) = valuesOf key (items s')) →
      ∀ u, read schema s = .ok u ↔ read schema s' = .ok u) ∧
    (∀ x, (∀ item ∈ items x, IsForeign schema item) →
      read schema (s ++ "," ++ x ++ "," ++ t) = read schema (s ++ "," ++ t)) := by
  refine ⟨?_, ?_, ?_, ?_⟩
  · intro u
    have hlegible : (∀ item ∈ items s ++ items t, Legible item) ↔
        (∀ item ∈ items s, Legible item) ∧ ∀ item ∈ items t, Legible item :=
      List.forall_mem_append
    simp only [read_eq_ok_iff hdistinct, items_append]
    constructor
    · rintro ⟨hne, hitems, hu⟩
      obtain ⟨a, b, ha, hb, hcompatible, rfl⟩ := (gathers_append_iff hdistinct hitems).mp hu
      obtain ⟨hs, ht⟩ := hlegible.mp hitems
      exact ⟨a, b, ⟨hne, hs, ha⟩, ⟨hne, ht, hb⟩, hcompatible, rfl⟩
    · rintro ⟨a, b, ⟨hne, hs, ha⟩, ⟨-, ht, hb⟩, hcompatible, rfl⟩
      exact ⟨hne, hlegible.mpr ⟨hs, ht⟩, ha.join hb hcompatible⟩
  · intro a b ha hb key
    cases hkey : schema.keys.lookup key with
    | some shape => exact get_join ((gathers_of_read ha).follows.mem_keys hkey) b
    | none =>
        rw [((gathers_of_read ha).follows.join b).get_of_unknown hkey,
          (gathers_of_read ha).follows.get_of_unknown hkey,
          (gathers_of_read hb).follows.get_of_unknown hkey]
        rfl
  · intro s' hperm hvalues u
    exact read_eq_ok_iff_of_perm hdistinct hperm hvalues
  · intro x hx
    simp only [read, items_append, List.append_assoc, addAll_append, addAll_of_isForeign hx]
    rfl

/-- The second line adds a pair to the one of the first. -/
theorem read_joined_gifts :
    (Event.schema.keys.map (·.1)).Nodup ∧
    ∃ a b, read Event.schema "tributes:2, give:1:rope" = .ok a ∧
      read Event.schema ", give:2:a:b" = .ok b ∧
      read Event.schema "give:1:rope, tributes:2" = .ok a ∧
      read Event.schema ("tributes:2, give:1:rope" ++ "," ++ "note:x" ++ "," ++ ", give:2:a:b") =
        .ok (a.join b) ∧
      (a.join b).get "give" = .pairs [("1", "rope"), ("2", "a:b")] := by
  have hdistinct : (Event.schema.keys.map (·.1)).Nodup := by decide
  have hread : (read Event.schema "tributes:2, give:1:rope").toOption.any fun a =>
      (read Event.schema ", give:2:a:b").toOption.any fun b =>
        Compatible Event.schema a b ∧
          (a.join b).get "give" = .pairs [("1", "rope"), ("2", "a:b")] := by
    decide +kernel
  obtain ⟨a, ha, hrest⟩ := exists_of_any hread
  obtain ⟨b, hb, hvalues⟩ := exists_of_any hrest
  obtain ⟨hcompatible, hgive⟩ := of_decide_eq_true hvalues
  obtain ⟨hjoined, -, hperm, hforeign⟩ :=
    read_joined hdistinct "tributes:2, give:1:rope" ", give:2:a:b"
  have hturned : read Event.schema "give:1:rope, tributes:2" = .ok a :=
    (hperm "give:1:rope, tributes:2" (by decide +kernel) (by decide +kernel) a).mp ha
  have hnote : ∀ item ∈ items "note:x", IsForeign Event.schema item := by
    intro item hitem
    have hitems : items "note:x" = ["note:x".toList] := by decide +kernel
    rw [hitems, List.mem_singleton] at hitem
    subst hitem
    exact ⟨"note", "x".toList, by decide +kernel, by decide +kernel⟩
  refine ⟨hdistinct, a, b, ha, hb, hturned, ?_, hgive⟩
  rw [hforeign "note:x" hnote]
  exact (hjoined _).mpr ⟨a, b, ha, hb, hcompatible, rfl⟩

end Tags
end Tournament
