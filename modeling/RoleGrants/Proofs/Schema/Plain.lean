import RoleGrants.Schema.Check

/-!
# Plain data as document values

Plain data contain no collections that contain themselves, so looking one level into them finds
their own members and entries: `items?_toValue_array` and `entries?_toValue_object`, with the
converses that only arrays have members and only objects entries.

An object is a list of entries here, and in a document no key occurs twice in one object.
`Json.hasDistinctKeys` says so at every level.
-/

namespace RoleGrants

open RoleGrants.Schema

/-! ## Looking one level down -/

theorem toValues_eq_map (items : List Json) : Json.toValues items = items.map Json.toValue := by
  induction items with
  | nil => rfl
  | cons item rest ih => rw [Json.toValues, ih, List.map_cons]

mutual

/-- Plain data refer to no collection around them. -/
theorem plug_toValue (whole : Value) (depth : Nat) :
    ∀ j : Json, Value.plug whole depth j.toValue = j.toValue
  | .null | .bool _ | .int _ | .float _ | .text _ => rfl
  | .array items => by rw [Json.toValue, Value.plug, plugItems_toValues]
  | .object entries => by rw [Json.toValue, Value.plug, plugEntries_toEntries]

theorem plugItems_toValues (whole : Value) (depth : Nat) :
    ∀ items : List Json, Value.plugItems whole depth (Json.toValues items) = Json.toValues items
  | [] => rfl
  | item :: rest => by
      rw [Json.toValues, Value.plugItems, plug_toValue whole depth item,
        plugItems_toValues whole depth rest]

theorem plugEntries_toEntries (whole : Value) (depth : Nat) :
    ∀ entries : List (String × Json),
      Value.plugEntries whole depth (Json.toEntries entries) = Json.toEntries entries
  | [] => rfl
  | (key, value) :: rest => by
      rw [Json.toEntries, Value.plugEntries, plug_toValue whole depth value,
        plugEntries_toEntries whole depth rest]

end

@[simp] theorem items?_toValue_array (items : List Json) :
    (Json.array items).toValue.items? = some (Json.toValues items) := by
  rw [Json.toValue, Value.items?, plugItems_toValues]

@[simp] theorem entries?_toValue_object (entries : List (String × Json)) :
    (Json.object entries).toValue.entries? = some (Json.toEntries entries) := by
  rw [Json.toValue, Value.entries?, plugEntries_toEntries]

/-- Only arrays have members. -/
theorem exists_array_of_items? {j : Json} {vs : List Value} (h : j.toValue.items? = some vs) :
    ∃ items, j = .array items ∧ vs = Json.toValues items := by
  cases j with
  | array items =>
      rw [items?_toValue_array] at h
      exact ⟨items, rfl, (Option.some.inj h).symm⟩
  | null | bool | int | float | text | object => cases h

/-- Only objects have entries. -/
theorem exists_object_of_entries? {j : Json} {es : List (Value × Value)}
    (h : j.toValue.entries? = some es) :
    ∃ entries, j = .object entries ∧ es = Json.toEntries entries := by
  cases j with
  | object entries =>
      rw [entries?_toValue_object] at h
      exact ⟨entries, rfl, (Option.some.inj h).symm⟩
  | null | bool | int | float | text | array => cases h

/-! ## Looking for a key -/

theorem findText?_toEntries (key : String) (entries : List (String × Json)) :
    Value.findText? key (Json.toEntries entries) = (Json.find? key entries).map Json.toValue := by
  induction entries with
  | nil => rfl
  | cons e rest ih =>
      rw [Json.toEntries, Value.findText?, Json.find?, ih]
      split <;> rfl

theorem mem_of_find? {key : String} {entries : List (String × Json)} {value : Json}
    (h : Json.find? key entries = some value) : (key, value) ∈ entries := by
  induction entries with
  | nil => cases h
  | cons e rest ih =>
      rw [Json.find?] at h
      split at h
      case isTrue hkey =>
        obtain rfl := Option.some.inj h
        exact hkey ▸ List.mem_cons_self
      case isFalse => exact List.mem_cons_of_mem e (ih h)

/-- Where no key occurs twice, every entry is found under its key. -/
theorem find?_of_mem {entries : List (String × Json)} (hnodup : (entries.map Prod.fst).Nodup)
    {key : String} {value : Json} (h : (key, value) ∈ entries) :
    Json.find? key entries = some value := by
  induction entries with
  | nil => cases h
  | cons e rest ih =>
      obtain ⟨hfresh, hrest⟩ := List.nodup_cons.1 hnodup
      rcases List.mem_cons.1 h with rfl | h
      · rw [Json.find?, if_pos rfl]
      · have hne : e.1 ≠ key := by
          rintro rfl
          exact hfresh (List.mem_map.2 ⟨_, h, rfl⟩)
        rw [Json.find?, if_neg hne, ih hrest h]

/-! ## Keys that do not repeat -/

mutual

/-- Whether no key occurs twice in any object. -/
def Json.hasDistinctKeys : Json → Bool
  | .array items => Json.itemsHaveDistinctKeys items
  | .object entries => decide (entries.map Prod.fst).Nodup && Json.entriesHaveDistinctKeys entries
  | _ => true

/-- `hasDistinctKeys` of each of several data. -/
def Json.itemsHaveDistinctKeys : List Json → Bool
  | [] => true
  | item :: rest => item.hasDistinctKeys && Json.itemsHaveDistinctKeys rest

/-- `hasDistinctKeys` of the values of entries. -/
def Json.entriesHaveDistinctKeys : List (String × Json) → Bool
  | [] => true
  | (_, value) :: rest => value.hasDistinctKeys && Json.entriesHaveDistinctKeys rest

end

theorem itemsHaveDistinctKeys_iff (items : List Json) :
    Json.itemsHaveDistinctKeys items ↔ ∀ item ∈ items, item.hasDistinctKeys := by
  induction items with
  | nil => simp [Json.itemsHaveDistinctKeys]
  | cons item rest ih => simp [Json.itemsHaveDistinctKeys, ih]

theorem entriesHaveDistinctKeys_iff (entries : List (String × Json)) :
    Json.entriesHaveDistinctKeys entries ↔ ∀ e ∈ entries, e.2.hasDistinctKeys := by
  induction entries with
  | nil => simp [Json.entriesHaveDistinctKeys]
  | cons e rest ih => simp [Json.entriesHaveDistinctKeys, ih]

theorem hasDistinctKeys_array (items : List Json) :
    (Json.array items).hasDistinctKeys ↔ ∀ item ∈ items, item.hasDistinctKeys := by
  rw [Json.hasDistinctKeys, itemsHaveDistinctKeys_iff]

theorem hasDistinctKeys_object (entries : List (String × Json)) :
    (Json.object entries).hasDistinctKeys ↔
      (entries.map Prod.fst).Nodup ∧ ∀ e ∈ entries, e.2.hasDistinctKeys := by
  rw [Json.hasDistinctKeys, Bool.and_eq_true, decide_eq_true_iff, entriesHaveDistinctKeys_iff]

end RoleGrants
