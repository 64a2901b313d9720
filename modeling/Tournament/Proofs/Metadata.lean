import Tournament.Tags
import Mathlib.Data.List.Forall2
import Mathlib.Tactic.SplitIfs

/-!
# What a metadata line says about a key

The items of a line give each key some values, in the order of the line (`Tags.valuesOf`).  Reading a
line gives a key nothing but these: the text or the words of its only value, or all its values as
pairs (`Tags.gathered_of_read`).
-/

namespace Tournament

/-- The value that an item gives a key, if it gives it one. -/
def Tags.valueFor? (key : String) (item : List Char) : Option (List Char) :=
  match readItem item with
  | .error _ => none
  | .ok (k, value) => if k = key then some value else none

def Tags.valuesOf (key : String) (items : List (List Char)) : List (List Char) :=
  items.filterMap (valueFor? key)

/-- What a key of a shape holds once it was given some values. -/
inductive TagValue.Gathered : Shape → List (List Char) → TagValue → Prop where
  | unset {shape : Shape} : Gathered shape [] .unset
  | one {value : List Char} : Gathered .one [value] (.one (String.ofList value))
  | words {value : List Char} :
      Gathered .words [value] (.words ((Text.words value).map String.ofList))
  | pairs {values : List (List Char)} {entries : List (String × String)} (hne : values ≠ [])
      (hentries : List.Forall₂ (fun v x => Tags.readPair v = .ok x) values entries) :
      Gathered .pairs values (.pairs entries)

namespace Tags

variable {schema : Schema} {t t' : Tags} {key other : String} {value : TagValue}

/-! ## Keys -/

def Follows (t : Tags) (schema : Schema) : Prop :=
  t.entries.map (·.1) = schema.keys.map (·.1)

theorem follows_blank (schema : Schema) : (blank schema).Follows schema := by
  simp [Follows, blank]

theorem Follows.set (h : t.Follows schema) : (t.set key value).Follows schema := by
  have hkeys : (t.set key value).entries.map (·.1) = t.entries.map (·.1) := by
    rw [Tags.set, List.map_map]
    refine List.map_congr_left ?_
    intro e _
    dsimp only [Function.comp_apply]
    split_ifs <;> rfl
  exact hkeys.trans h

theorem get_blank (schema : Schema) (key : String) : (blank schema).get key = .unset := by
  unfold get blank
  induction schema.keys with
  | nil => rfl
  | cons k keys ih =>
      rw [List.map_cons, List.lookup_cons]
      split
      · rfl
      · exact ih

theorem get_set_of_ne (h : other ≠ key) : (t.set key value).get other = t.get other := by
  unfold get set
  induction t.entries with
  | nil => rfl
  | cons e entries ih =>
      rw [List.map_cons, List.lookup_cons, List.lookup_cons]
      split_ifs with he
      · have hne : (other == e.1) = false := by simpa [he] using h
        simp only [hne]
        exact ih
      · split
        · rfl
        · exact ih

theorem get_set (h : key ∈ t.entries.map (·.1)) : (t.set key value).get key = value := by
  unfold get set
  dsimp only
  generalize t.entries = entries at h ⊢
  induction entries with
  | nil => cases h
  | cons e entries ih =>
      rw [List.map_cons, List.lookup_cons]
      split_ifs with he
      · simp [he]
      · have hne : (key == e.1) = false := by simpa using Ne.symm he
        simp only [hne]
        exact ih ((List.mem_cons.mp h).resolve_left (Ne.symm he))

theorem mem_keys_of_lookup {shape : Shape} (h : schema.keys.lookup key = some shape) :
    key ∈ schema.keys.map (·.1) := by
  obtain ⟨before, after, hkeys, -⟩ := List.lookup_eq_some_iff.mp h
  simp [hkeys]

theorem Follows.mem_keys (h : t.Follows schema) {shape : Shape}
    (hkey : schema.keys.lookup key = some shape) : key ∈ t.entries.map (·.1) := by
  rw [h]
  exact mem_keys_of_lookup hkey

theorem Follows.get_set (h : t.Follows schema) {shape : Shape}
    (hkey : schema.keys.lookup key = some shape) : (t.set key value).get key = value :=
  Tags.get_set (h.mem_keys hkey)

/-! ## One item -/

theorem exists_set_of_put {shape : Shape} {v : List Char} (h : t.put key shape v = .ok t') :
    ∃ value, t' = t.set key value := by
  unfold put at h
  split at h
  · obtain ⟨x, -, rfl⟩ := map_eq_ok.mp h
    exact ⟨_, rfl⟩
  · exact ⟨_, (Except.ok.inj h).symm⟩
  · exact ⟨_, (Except.ok.inj h).symm⟩
  · obtain ⟨x, -, rfl⟩ := map_eq_ok.mp h
    exact ⟨_, rfl⟩
  · cases h

theorem gathered_of_put {shape : Shape} {v : List Char} {values : List (List Char)}
    (ht : t.Follows schema) (hkey : schema.keys.lookup key = some shape)
    (hvalues : TagValue.Gathered shape values (t.get key)) (h : t.put key shape v = .ok t') :
    TagValue.Gathered shape (values ++ [v]) (t'.get key) := by
  unfold put at h
  cases hget : t.get key with
  | unset =>
      rw [hget] at hvalues h
      cases hvalues
      cases shape with
      | one =>
          obtain rfl := Except.ok.inj h
          rw [ht.get_set hkey]
          exact .one
      | words =>
          obtain rfl := Except.ok.inj h
          rw [ht.get_set hkey]
          exact .words
      | pairs =>
          obtain ⟨x, hx, rfl⟩ := map_eq_ok.mp h
          rw [ht.get_set hkey]
          exact .pairs (by simp) (.cons hx .nil)
  | one text =>
      rw [hget] at h
      cases h
  | words texts =>
      rw [hget] at h
      cases h
  | pairs entries =>
      rw [hget] at hvalues h
      cases hvalues with
      | pairs hne hentries =>
          obtain ⟨x, hx, rfl⟩ := map_eq_ok.mp h
          rw [ht.get_set hkey]
          exact .pairs (by simp) (List.rel_append hentries (.cons hx .nil))

/-! ## All items -/

/-- Every key of the schema holds what the items have given it. -/
structure Gathers (schema : Schema) (items : List (List Char)) (t : Tags) : Prop where
  follows : t.Follows schema
  gathered : ∀ key shape, schema.keys.lookup key = some shape →
    TagValue.Gathered shape (valuesOf key items) (t.get key)

theorem gathers_blank (schema : Schema) : Gathers schema [] (blank schema) := by
  refine ⟨follows_blank schema, ?_⟩
  intro key shape _
  rw [get_blank]
  exact .unset

theorem valuesOf_concat {items : List (List Char)} {item v : List Char} {k : String}
    (h : readItem item = .ok (k, v)) (key : String) :
    valuesOf key (items ++ [item]) = valuesOf key items ++ if k = key then [v] else [] := by
  have hvalue : valueFor? key item = if k = key then some v else none := by
    rw [valueFor?, h]
  rw [valuesOf, List.filterMap_append]
  congr 1
  split_ifs at hvalue ⊢
  · exact List.filterMap_cons_some hvalue
  · exact List.filterMap_cons_none hvalue

theorem gathers_of_add {items : List (List Char)} {item : List Char}
    (ht : Gathers schema items t) (h : t.add schema item = .ok t') :
    Gathers schema (items ++ [item]) t' := by
  unfold add at h
  split at h
  · cases h
  · next k v hitem =>
    split at h
    · next hunknown =>
      obtain rfl := Except.ok.inj h
      refine ⟨ht.follows, ?_⟩
      intro key shape hkey
      have hne : k ≠ key := by
        rintro rfl
        rw [hkey] at hunknown
        cases hunknown
      rw [valuesOf_concat hitem, if_neg hne, List.append_nil]
      exact ht.gathered key shape hkey
    · next shape' hknown =>
      obtain ⟨value, hset⟩ := exists_set_of_put h
      refine ⟨hset ▸ ht.follows.set, ?_⟩
      intro key shape hkey
      rw [valuesOf_concat hitem]
      by_cases hk : k = key
      · subst hk
        obtain rfl : shape = shape' := Option.some.inj (hkey.symm.trans hknown)
        rw [if_pos rfl]
        exact gathered_of_put ht.follows hkey (ht.gathered k shape hkey) h
      · rw [if_neg hk, List.append_nil, hset, get_set_of_ne (Ne.symm hk)]
        exact ht.gathered key shape hkey

theorem gathers_of_addAll {items more : List (List Char)} (ht : Gathers schema items t)
    (h : t.addAll schema more = .ok t') : Gathers schema (items ++ more) t' := by
  induction more generalizing items t with
  | nil =>
      obtain rfl := Except.ok.inj h
      rwa [List.append_nil]
  | cons item more ih =>
      rw [addAll] at h
      cases hadd : t.add schema item with
      | error e => simp [hadd] at h
      | ok t₁ =>
          rw [hadd] at h
          have hmore := ih (gathers_of_add ht hadd) h
          rwa [List.append_assoc, List.singleton_append] at hmore

/-- Reading a line gives every key of the schema what the items of the line say about it. -/
theorem gathers_of_read {s : String} (h : read schema s = .ok t) : Gathers schema (items s) t := by
  unfold read at h
  split_ifs at h
  exact gathers_of_addAll (gathers_blank schema) h

theorem gathered_of_read {s : String} (h : read schema s = .ok t) {shape : Shape}
    (hkey : schema.keys.lookup key = some shape) :
    TagValue.Gathered shape (valuesOf key (items s)) (t.get key) :=
  (gathers_of_read h).gathered key shape hkey

theorem one?_of_read {s : String} (h : read schema s = .ok t)
    (hkey : schema.keys.lookup key = some .one) :
    ((t.one? key).map String.toList).toList = valuesOf key (items s) := by
  have hgathered := gathered_of_read h hkey
  unfold one?
  generalize t.get key = value at hgathered ⊢
  generalize valuesOf key (items s) = values at hgathered ⊢
  cases hgathered with
  | unset => rfl
  | one => simp

theorem words_of_read {s : String} (h : read schema s = .ok t)
    (hkey : schema.keys.lookup key = some .words) :
    t.words key = ((valuesOf key (items s)).flatMap Text.words).map String.ofList := by
  have hgathered := gathered_of_read h hkey
  unfold words words?
  generalize t.get key = value at hgathered ⊢
  generalize valuesOf key (items s) = values at hgathered ⊢
  cases hgathered with
  | unset => rfl
  | words => simp

theorem pairs_of_read {s : String} (h : read schema s = .ok t)
    (hkey : schema.keys.lookup key = some .pairs) :
    List.Forall₂ (fun v x => readPair v = .ok x) (valuesOf key (items s)) (t.pairs key) := by
  have hgathered := gathered_of_read h hkey
  unfold pairs pairs?
  generalize t.get key = value at hgathered ⊢
  generalize valuesOf key (items s) = values at hgathered ⊢
  cases hgathered with
  | unset => exact .nil
  | pairs _ hentries => exact hentries

end Tags
end Tournament
