import RoleGrants.Schema.Check

/-!
# What readers accept

A reader of a collection or a record accepts a value only if the readers of its parts accept theirs.
These lemmas go from a valid whole down to its parts, one for each way readers are put together, so
that a rule on a part can be used of everything that was read from a document.
-/

namespace RoleGrants.Schema

variable {α β : Type}

/-- Each member of a list that was read was read by the reader of members. -/
theorem of_mem_members {r : Reader α} {n : Nat} {vs : List Value} {xs : List α}
    (h : members r n vs = .ok xs) {x : α} (hx : x ∈ xs) : ∃ v, r v = .ok x := by
  induction vs generalizing n xs with
  | nil =>
      cases h
      cases hx
  | cons v rest ih =>
      obtain ⟨f, ys, hfirst, hrest, rfl⟩ := (Check.and_ok_iff _ _ _).1 h
      obtain ⟨y, hy, rfl⟩ := Check.map_eq_ok hfirst
      rcases List.mem_cons.1 hx with rfl | hx
      · exact ⟨v, Check.under_eq_ok hy⟩
      · exact ih hrest hx

theorem of_mem_listOf {r : Reader α} {v : Value} {xs : List α} (h : listOf r v = .ok xs) {x : α}
    (hx : x ∈ xs) : ∃ v, r v = .ok x := by
  unfold listOf at h
  cases hitems : v.items? with
  | none => simp [hitems, Check.problem] at h
  | some items =>
      rw [hitems] at h
      exact of_mem_members h hx

/-- A value that is not absent was read. -/
theorem of_optional_eq_some {r : Reader α} {v : Value} {x : α} (h : optional r v = .ok (some x)) :
    ∃ v, r v = .ok x := by
  unfold optional at h
  split at h
  · cases h
  · obtain ⟨y, hy, hxy⟩ := Check.map_eq_ok h
    obtain rfl := Option.some.inj hxy
    exact ⟨v, hy⟩

namespace Fields

/-- What is read of a field is its default, or was read from a value. -/
theorem of_withDefault {name : FieldName} {default : α} {r : Reader α}
    {entries : List (Value × Value)} {x : α}
    (h : (withDefault name default r).read entries = .ok x) : x = default ∨ ∃ v, r v = .ok x := by
  unfold withDefault at h
  dsimp only at h
  split at h
  · exact .inr ⟨_, Check.under_eq_ok h⟩
  · exact .inl (Check.ok.inj h).symm

/-- Each member of a list that is read of a field was read by the reader of members. -/
theorem of_mem_withDefault {name : FieldName} {r : Reader α} {entries : List (Value × Value)}
    {xs : List α} (h : (withDefault name [] (listOf r)).read entries = .ok xs) {x : α}
    (hx : x ∈ xs) : ∃ v, r v = .ok x := by
  rcases of_withDefault h with rfl | ⟨v, hread⟩
  · cases hx
  · exact of_mem_listOf hread hx

/-- A closed record is read exactly when it has no entries but those of its fields, and these are
read. -/
theorem closed_eq_ok_iff {kind : String} {r : Fields α} {v : Value} {x : α} :
    closed kind r v = .ok x ↔ ∃ entries, v.entries? = some entries ∧
      unknown (spellings r.names entries) entries = [] ∧ r.read entries = .ok x := by
  unfold closed
  cases v.entries? with
  | none => simp [Check.problem]
  | some entries =>
      dsimp only
      constructor
      · intro h
        split at h
        case h_1 hknown => exact ⟨entries, rfl, hknown, h⟩
        case h_2 =>
          obtain ⟨_, _, _, hfaults, -⟩ := (Check.and_ok_iff _ _ _).1 h
          cases hfaults
      · rintro ⟨_, ⟨⟩, hknown, h⟩
        rw [hknown]
        exact h

/-- An open record is read exactly when its fields are. -/
theorem opened_eq_ok_iff {kind : String} {r : Fields α} {v : Value} {x : α} :
    opened kind r v = .ok x ↔ ∃ entries, v.entries? = some entries ∧ r.read entries = .ok x := by
  unfold opened
  cases v.entries? <;> simp [Check.problem]

/-- A record that was read has its fields read. -/
theorem of_closed {kind : String} {r : Fields α} {v : Value} {x : α} (h : closed kind r v = .ok x) :
    ∃ entries, r.read entries = .ok x := by
  obtain ⟨entries, -, -, hread⟩ := closed_eq_ok_iff.1 h
  exact ⟨entries, hread⟩

/-- The parts of a record that are put together were read on their own. -/
theorem of_seq {f : Fields (α → β)} {r : Fields α} {entries : List (Value × Value)} {y : β}
    (h : (f <*> r).read entries = .ok y) :
    ∃ g x, f.read entries = .ok g ∧ r.read entries = .ok x ∧ g x = y :=
  (Check.and_ok_iff _ _ _).1 h

theorem of_map {f : α → β} {r : Fields α} {entries : List (Value × Value)} {y : β}
    (h : (f <$> r).read entries = .ok y) : ∃ x, r.read entries = .ok x ∧ f x = y :=
  Check.map_eq_ok h

end Fields

end RoleGrants.Schema
