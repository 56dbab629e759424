import RoleGrants.Proofs.Schema.RoundTrip

/-!
# Records and their normal forms

A record that a closed reader accepts has no entries but those of its fields, and the entries of a
field are the one its reader finds: nothing in it is overlooked.  `normalRecord_of_closed` says so,
and `Tidy.required` and `Tidy.withDefault` say that the normal form holds for each field the dump of
what was read of it.
-/

namespace RoleGrants

open RoleGrants.Schema

variable {α : Type}

/-- A field that is found is found under one of its spellings. -/
theorem of_fieldFind? {f : NormalField} {entries : List (String × Json)} {spelling : String}
    {v : Value} (h : f.name.find? (Json.toEntries entries) = some (spelling, v)) :
    spelling ∈ f.spellings ∧
      ∃ value, Json.find? spelling entries = some value ∧ value.toValue = v := by
  unfold FieldName.find? at h
  rw [findText?_toEntries] at h
  cases hfirst : Json.find? f.name.spelling entries with
  | some value =>
      simp only [hfirst, Option.map_some] at h
      cases h
      exact ⟨List.mem_cons_self, value, hfirst, rfl⟩
  | none =>
      simp only [hfirst, Option.map_none] at h
      obtain ⟨plain, hplain, h⟩ := Option.bind_eq_some_iff.1 h
      obtain ⟨v', hfind, heq⟩ := Option.map_eq_some_iff.1 h
      cases heq
      rw [findText?_toEntries] at hfind
      obtain ⟨value, hvalue, rfl⟩ := Option.map_eq_some_iff.1 hfind
      exact ⟨by simp [NormalField.spellings, hplain], value, hvalue, rfl⟩

/-- The entries of a record settle a field if none gives it and none is found, or if one gives it
and this one is found. -/
def NormalField.IsSettledBy (f : NormalField) (entries : List (String × Json)) : Prop :=
  (entries.filter f.isGivenBy = [] ∧ f.name.find? (Json.toEntries entries) = none) ∨
    ∃ e ∈ entries, entries.filter f.isGivenBy = [e] ∧
      f.name.find? (Json.toEntries entries) = some (e.1, e.2.toValue)

/-- A field is settled if every entry that gives it is the one that is found. -/
theorem isSettledBy_of_found {f : NormalField} {entries : List (String × Json)}
    (hnodup : (entries.map Prod.fst).Nodup)
    (h : ∀ e ∈ entries, f.isGivenBy e →
      f.name.find? (Json.toEntries entries) = some (e.1, e.2.toValue)) :
    f.IsSettledBy entries := by
  cases hgiven : entries.filter f.isGivenBy with
  | nil =>
      refine .inl ⟨hgiven, ?_⟩
      cases hfind : f.name.find? (Json.toEntries entries) with
      | none => rfl
      | some found =>
          obtain ⟨hspelling, value, hvalue, -⟩ := of_fieldFind? hfind
          have hmem : (found.1, value) ∈ entries.filter f.isGivenBy :=
            List.mem_filter.2 ⟨mem_of_find? hvalue, List.contains_iff_mem.2 hspelling⟩
          rw [hgiven] at hmem
          cases hmem
  | cons e rest =>
      have hfound : ∀ e' ∈ e :: rest, e' ∈ entries ∧
          f.name.find? (Json.toEntries entries) = some (e'.1, e'.2.toValue) := by
        intro e' he'
        obtain ⟨hmem, hgives⟩ := List.mem_filter.1 (hgiven ▸ he')
        exact ⟨hmem, h e' hmem hgives⟩
      obtain ⟨hmem, hfind⟩ := hfound e List.mem_cons_self
      cases rest with
      | nil => exact .inr ⟨e, hmem, hgiven, hfind⟩
      | cons e' more =>
          obtain ⟨-, hfind'⟩ := hfound e' (by simp)
          rw [hfind, Option.some.injEq, Prod.mk.injEq] at hfind'
          have hkey : e.1 = e'.1 := hfind'.1
          have hsub : ((e :: e' :: more).map Prod.fst).Nodup :=
            hnodup.sublist ((hgiven ▸ List.filter_sublist).map Prod.fst)
          simp [hkey] at hsub

/-- The entries of a record that settle all its fields, none of which has a key twice inside. -/
structure Tidy (fields : List NormalField) (entries : List (String × Json)) : Prop where
  distinct : ∀ e ∈ entries, e.2.hasDistinctKeys
  settled : ∀ f ∈ fields, f.IsSettledBy entries

namespace Tidy

variable {name : FieldName} {value : Json → Json} {fields : List NormalField}
variable {entries dumps : List (String × Json)} {r : Reader α} {dump : α → Json} {x : α}

theorem tail {f : NormalField} (htidy : Tidy (f :: fields) entries) : Tidy fields entries :=
  ⟨htidy.distinct, fun g hg => htidy.settled g (List.mem_cons_of_mem f hg)⟩

theorem required (htidy : Tidy (⟨name, none, value⟩ :: fields) entries)
    (h : Normalizes r dump value)
    (hread : (Fields.required name r).read (Json.toEntries entries) = .ok x)
    (hrest : Tidy fields entries → fields.flatMap (·.taken entries) = dumps) :
    (⟨name, none, value⟩ :: fields).flatMap (·.taken entries) =
      (name.plain.getD name.spelling, dump x) :: dumps := by
  rw [List.flatMap_cons, hrest htidy.tail]
  obtain ⟨spelling, v, hfind, hv⟩ := Fields.of_required hread
  rcases htidy.settled _ List.mem_cons_self with ⟨-, hnone⟩ | ⟨e, he, hgiven, hsome⟩
  · rw [hfind] at hnone
    cases hnone
  · rw [hfind] at hsome
    cases hsome
    rw [NormalField.taken, hgiven, h e.2 x (htidy.distinct e he) hv]
    rfl

theorem withDefault {default : α} {default' : Json}
    (htidy : Tidy (⟨name, some default', value⟩ :: fields) entries)
    (h : Normalizes r dump value) (hdefault : default' = dump default)
    (hread : (Fields.withDefault name default r).read (Json.toEntries entries) = .ok x)
    (hrest : Tidy fields entries → fields.flatMap (·.taken entries) = dumps) :
    (⟨name, some default', value⟩ :: fields).flatMap (·.taken entries) =
      (name.plain.getD name.spelling, dump x) :: dumps := by
  rw [List.flatMap_cons, hrest htidy.tail]
  unfold Fields.withDefault at hread
  dsimp only at hread
  rcases htidy.settled _ List.mem_cons_self with ⟨hgiven, hnone⟩ | ⟨e, he, hgiven, hsome⟩
  · rw [hnone] at hread
    cases hread
    rw [NormalField.taken, hgiven, hdefault]
    rfl
  · rw [hsome] at hread
    rw [NormalField.taken, hgiven, h e.2 x (htidy.distinct e he) (Check.under_eq_ok hread)]
    rfl

end Tidy

/-- An entry that is not unknown has a spelling that was taken. -/
theorem mem_of_unknown_eq_nil {taken : List String} {entries : List (String × Json)}
    (h : Fields.unknown taken (Json.toEntries entries) = []) {e : String × Json}
    (he : e ∈ entries) : e.1 ∈ taken := by
  induction entries with
  | nil => cases he
  | cons first rest ih =>
      rw [Json.toEntries, Fields.unknown] at h
      split at h
      case isTrue hfirst =>
        rcases List.mem_cons.1 he with rfl | he
        · simpa using hfirst
        · exact ih h he
      case isFalse => cases h

/-- Two fields that share a spelling are one, if no spelling occurs twice. -/
theorem eq_of_mem_spellings {fields : List NormalField}
    (hnodup : (fields.flatMap NormalField.spellings).Nodup) {f g : NormalField} (hf : f ∈ fields)
    (hg : g ∈ fields) {spelling : String} (hfs : spelling ∈ f.spellings)
    (hgs : spelling ∈ g.spellings) : f = g := by
  induction fields with
  | nil => cases hf
  | cons first rest ih =>
      rw [List.flatMap_cons, List.nodup_append] at hnodup
      obtain ⟨-, hrest, hdisjoint⟩ := hnodup
      have habsurd : ∀ field ∈ rest, spelling ∈ field.spellings → spelling ∉ first.spellings :=
        fun field hfield hs hfirst =>
          hdisjoint _ hfirst _ (List.mem_flatMap.2 ⟨field, hfield, hs⟩) rfl
      rcases List.mem_cons.1 hf with hfirst | hf <;> rcases List.mem_cons.1 hg with hfirst' | hg
      · rw [hfirst, hfirst']
      · exact absurd (hfirst ▸ hfs) (habsurd g hg hgs)
      · exact absurd (hfirst' ▸ hgs) (habsurd f hf hfs)
      · exact ih hrest hf hg

/-- Where no entry is unknown, every entry gives a field and is found there. -/
theorem found_of_known {fields : List NormalField} {entries : List (String × Json)}
    (hnodup : (entries.map Prod.fst).Nodup)
    (h : Fields.unknown (Fields.spellings (fields.map NormalField.name) (Json.toEntries entries))
      (Json.toEntries entries) = []) {e : String × Json} (he : e ∈ entries) :
    ∃ f ∈ fields, e.1 ∈ f.spellings ∧
      f.name.find? (Json.toEntries entries) = some (e.1, e.2.toValue) := by
  have hmem := mem_of_unknown_eq_nil h he
  rw [Fields.spellings, List.filterMap_map, List.mem_filterMap] at hmem
  obtain ⟨f, hf, htaken⟩ := hmem
  obtain ⟨found, hfind, hkey⟩ := Option.map_eq_some_iff.1 htaken
  obtain ⟨hspelling, value, hvalue, hfv⟩ := of_fieldFind? hfind
  rw [hkey, find?_of_mem hnodup he] at hvalue
  obtain rfl := Option.some.inj hvalue
  exact ⟨f, hf, hkey ▸ hspelling, by rw [hfind, ← hkey, hfv]⟩

/-- A closed record that was read has its fields settled and no other entries. -/
theorem normalRecord_of_closed (fields : List NormalField) {kind : String} {r : Fields α}
    (hnames : r.names = fields.map NormalField.name)
    (hspellings : (fields.flatMap NormalField.spellings).Nodup) {j : Json}
    (hkeys : j.hasDistinctKeys) {x : α} (h : Fields.closed kind r j.toValue = .ok x) :
    ∃ entries, Tidy fields entries ∧ r.read (Json.toEntries entries) = .ok x ∧
      Json.normalRecord fields j = .object (fields.flatMap (·.taken entries)) := by
  obtain ⟨es, hentries, hknown, hread⟩ := Fields.closed_eq_ok_iff.1 h
  obtain ⟨entries, rfl, rfl⟩ := exists_object_of_entries? hentries
  obtain ⟨hfresh, hdistinct⟩ := (hasDistinctKeys_object entries).1 hkeys
  rw [hnames] at hknown
  have hsettled : ∀ f ∈ fields, f.IsSettledBy entries := by
    intro f hf
    refine isSettledBy_of_found hfresh ?_
    intro e he hgives
    obtain ⟨g, hg, hspelling, hfind⟩ := found_of_known hfresh hknown he
    rw [eq_of_mem_spellings hspellings hf hg (List.contains_iff_mem.1 hgives) hspelling]
    exact hfind
  have hothers : (entries.filter fun e => !fields.any (·.isGivenBy e)) = [] := by
    rw [List.filter_eq_nil_iff]
    intro e he
    obtain ⟨f, hf, hspelling, -⟩ := found_of_known hfresh hknown he
    have hany : fields.any (·.isGivenBy e) :=
      List.any_eq_true.2 ⟨f, hf, List.contains_iff_mem.2 hspelling⟩
    simp [hany]
  refine ⟨entries, ⟨hdistinct, hsettled⟩, hread, ?_⟩
  rw [Json.normalRecord, hothers, List.append_nil]

/-- A field with one spelling is settled by every record. -/
theorem isSettledBy_of_one {f : NormalField} (hone : f.name.plain = none)
    {entries : List (String × Json)} (hnodup : (entries.map Prod.fst).Nodup) :
    f.IsSettledBy entries := by
  refine isSettledBy_of_found hnodup ?_
  intro e he hgives
  have hkey : e.1 = f.name.spelling := by
    simpa [NormalField.isGivenBy, NormalField.spellings, hone] using hgives
  rw [FieldName.find?, findText?_toEntries, ← hkey, find?_of_mem hnodup he]
  rfl

/-- An open record that was read has its fields settled, if they have one spelling each. -/
theorem normalOpenRecord_of_opened (fields : List NormalField) {kind : String} {r : Fields α}
    (hone : ∀ f ∈ fields, f.name.plain = none) {j : Json} (hkeys : j.hasDistinctKeys)
    {x : α} (h : Fields.opened kind r j.toValue = .ok x) :
    ∃ entries, Tidy fields entries ∧ r.read (Json.toEntries entries) = .ok x ∧
      Json.normalOpenRecord fields j = .object (fields.flatMap (·.taken entries)) := by
  obtain ⟨es, hentries, hread⟩ := Fields.opened_eq_ok_iff.1 h
  obtain ⟨entries, rfl, rfl⟩ := exists_object_of_entries? hentries
  obtain ⟨hfresh, hdistinct⟩ := (hasDistinctKeys_object entries).1 hkeys
  exact ⟨entries, ⟨hdistinct, fun f hf => isSettledBy_of_one (hone f hf) hfresh⟩, hread, rfl⟩

end RoleGrants
