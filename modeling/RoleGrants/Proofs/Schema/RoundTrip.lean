import RoleGrants.Proofs.Schema.Accepted
import RoleGrants.Proofs.Schema.Normal
import RoleGrants.Proofs.Schema.Plain

/-!
# Readers and dumps

Reading and dumping are inverse in two ways.  `Rereads` says that the dump of whatever was read is
read again, and to the same.  `Normalizes` says that the dump of what was read from plain data is
the normal form of these data.

There is one lemma of either kind for each way readers of texts, lists and maps are put together.
Of records only the first is shown here, field by field: what a dump says of a field is found there
and read again.
-/

namespace RoleGrants.Schema

variable {α β : Type}

/-- Reading the dump of something that was read gives it again. -/
def Rereads (r : Reader α) (dump : α → Json) : Prop :=
  ∀ v x, r v = .ok x → r (dump x).toValue = .ok x

/-- The dump of something that was read from plain data is their normal form. -/
def Normalizes (r : Reader α) (dump : α → Json) (normal : Json → Json) : Prop :=
  ∀ j x, j.hasDistinctKeys → r j.toValue = .ok x → dump x = normal j

theorem Check.of_obey {rule : α → Option Rule} {c : Check α} {a : α} (h : c.obey rule = .ok a) :
    c = .ok a := by
  cases c with
  | failed => cases h
  | ok a' =>
      rw [Check.obey] at h
      cases hrule : rule a' with
      | some broken => simp [hrule, Check.problem] at h
      | none => simpa [hrule] using h

theorem Check.obey_of_eq_ok {rule : α → Option Rule} {c : Check α} {a : α} (h : c = .ok a)
    (hrule : rule a = none) : c.obey rule = .ok a := by
  rw [h, Check.obey, hrule]

theorem Check.satisfy_eq_ok {holds : α → Bool} {otherwise : Problem} {c : Check α} {a : α}
    (h : c.satisfy holds otherwise = .ok a) : c = .ok a ∧ holds a := by
  cases c with
  | failed => cases h
  | ok a' =>
      rw [Check.satisfy] at h
      split at h
      case isTrue hholds =>
        cases h
        exact ⟨rfl, hholds⟩
      case isFalse => cases h

/-! ## Texts -/

theorem eq_text_of_text {j : Json} {s : String} (h : text j.toValue = .ok s) : j = .text s := by
  cases j with
  | text s' =>
      cases h
      rfl
  | null | bool | int | float | array | object => cases h

theorem text_rereads : Rereads text .text := fun _ _ _ => rfl

theorem text_normalizes : Normalizes text .text id :=
  fun _ _ _ h => (eq_text_of_text h).symm

theorem nonEmptyText_rereads : Rereads nonEmptyText .text := by
  intro v s h
  obtain ⟨-, hs⟩ := Check.satisfy_eq_ok h
  exact if_pos hs

theorem nonEmptyText_normalizes : Normalizes nonEmptyText .text id :=
  fun j s hkeys h => text_normalizes j s hkeys (Check.satisfy_eq_ok h).1

/-- One of several texts was read from that text. -/
theorem of_oneOf {choices : List (String × α)} {v : Value} {a : α} (h : oneOf choices v = .ok a) :
    ∃ c ∈ choices, v = .text c.1 ∧ c.2 = a := by
  cases v with
  | text s =>
      rw [oneOf] at h
      cases hfind : choices.find? fun c => c.1 == s with
      | none => simp [hfind, Check.problem] at h
      | some c =>
          rw [hfind] at h
          obtain rfl : c.1 = s := by simpa using List.find?_some hfind
          exact ⟨c, List.mem_of_find?_eq_some hfind, rfl, Check.ok.inj h⟩
  | _ => cases h

section

variable {choices : List (String × α)} {word : α → String}

theorem oneOf_rereads (hword : ∀ c ∈ choices, word c.2 = c.1) :
    Rereads (oneOf choices) fun a => .text (word a) := by
  intro v a h
  obtain ⟨c, hc, rfl, rfl⟩ := of_oneOf h
  show oneOf choices (.text (word c.2)) = .ok c.2
  rw [hword c hc]
  exact h

theorem oneOf_normalizes (hword : ∀ c ∈ choices, word c.2 = c.1) :
    Normalizes (oneOf choices) (fun a => .text (word a)) id := by
  intro j a _ h
  obtain ⟨c, hc, hv, rfl⟩ := of_oneOf h
  have htext : text j.toValue = .ok c.1 := by
    rw [hv]
    rfl
  show Json.text (word c.2) = j
  rw [hword c hc, eq_text_of_text htext]

end

/-! ## Values that may be missing -/

section

variable {r : Reader α} {dump : α → Json} {normal : Json → Json}

theorem optional_of_ne_null {v : Value} (h : v ≠ .null) : optional r v = (r v).map some := by
  cases v with
  | null => exact absurd rfl h
  | _ => rfl

theorem optional_rereads (h : Rereads r dump) (hnull : ∀ x, r .null ≠ .ok x) :
    Rereads (optional r) fun o => (o.map dump).getD .null := by
  intro v o hread
  cases o with
  | none => rfl
  | some x =>
      obtain ⟨v', hx⟩ := of_optional_eq_some hread
      have hdump := h v' x hx
      have hne : (dump x).toValue ≠ .null := by
        intro heq
        exact hnull x (heq ▸ hdump)
      show optional r (dump x).toValue = .ok (some x)
      rw [optional_of_ne_null hne, hdump]
      rfl

theorem optional_normalizes (h : Normalizes r dump normal) (hnull : normal .null = .null) :
    Normalizes (optional r) (fun o => (o.map dump).getD .null) normal := by
  intro j o hkeys hread
  cases hj : j.toValue with
  | null =>
      obtain rfl : j = .null := by cases j <;> cases hj; rfl
      cases hread
      exact hnull.symm
  | _ =>
      have hne : j.toValue ≠ .null := by simp [hj]
      rw [optional_of_ne_null hne] at hread
      obtain ⟨x, hx, rfl⟩ := Check.map_eq_ok hread
      exact h j x hkeys hx

end

theorem text?_eq (o : Option String) : Json.text? o = (o.map Json.text).getD .null := by
  cases o <;> rfl

theorem optionalText_rereads : Rereads (optional text) .text? := by
  intro v o h
  rw [text?_eq]
  exact optional_rereads text_rereads (fun _ h => by cases h) v o h

theorem optionalText_normalizes : Normalizes (optional text) .text? id := by
  intro j o hkeys h
  rw [text?_eq]
  exact optional_normalizes text_normalizes rfl j o hkeys h

/-! ## Lists -/

section

variable {r : Reader α} {dump : α → Json} {normal : Json → Json}

theorem members_eq_ok {n : Nat} {xs : List α} {value : α → Value}
    (h : ∀ x ∈ xs, r (value x) = .ok x) : members r n (xs.map value) = .ok xs := by
  induction xs generalizing n with
  | nil => rfl
  | cons x rest ih =>
      rw [List.map_cons, members, h x List.mem_cons_self,
        ih fun y hy => h y (List.mem_cons_of_mem x hy)]
      rfl

theorem listOf_rereads (h : Rereads r dump) :
    Rereads (listOf r) fun xs => .array (xs.map dump) := by
  intro v xs hread
  have hmembers : ∀ x ∈ xs, r (dump x).toValue = .ok x := by
    intro x hx
    obtain ⟨v', hv'⟩ := of_mem_listOf hread hx
    exact h v' x hv'
  rw [listOf, items?_toValue_array, toValues_eq_map, List.map_map]
  exact members_eq_ok hmembers

theorem members_normalizes (h : Normalizes r dump normal) {n : Nat} {items : List Json}
    (hkeys : ∀ item ∈ items, item.hasDistinctKeys) {xs : List α}
    (hread : members r n (Json.toValues items) = .ok xs) : xs.map dump = items.map normal := by
  induction items generalizing n xs with
  | nil =>
      cases hread
      rfl
  | cons item rest ih =>
      obtain ⟨f, ys, hfirst, hrest, rfl⟩ := (Check.and_ok_iff _ _ _).1 hread
      obtain ⟨x, hx, rfl⟩ := Check.map_eq_ok hfirst
      have hitem := h item x (hkeys item List.mem_cons_self) (Check.under_eq_ok hx)
      rw [List.map_cons, List.map_cons, hitem,
        ih (fun j hj => hkeys j (List.mem_cons_of_mem item hj)) hrest]

theorem listOf_normalizes (h : Normalizes r dump normal) :
    Normalizes (listOf r) (fun xs => .array (xs.map dump)) (Json.normalItems normal) := by
  intro j xs hkeys hread
  unfold listOf at hread
  cases hitems : j.toValue.items? with
  | none => simp [hitems, Check.problem] at hread
  | some vs =>
      obtain ⟨items, rfl, rfl⟩ := exists_array_of_items? hitems
      rw [hitems] at hread
      show Json.array (xs.map dump) = Json.array (items.map normal)
      rw [members_normalizes h ((hasDistinctKeys_array items).1 hkeys) hread]

end

/-- Lists of values that have no other form have none either. -/
theorem listOf_normalizes_id {r : Reader α} {dump : α → Json} (h : Normalizes r dump id) :
    Normalizes (listOf r) (fun xs => .array (xs.map dump)) id := by
  intro j xs hkeys hread
  rw [listOf_normalizes h j xs hkeys hread]
  cases j with
  | array items => rw [Json.normalItems, List.map_id, id]
  | _ => rfl

/-! ## Maps of texts -/

theorem keys_putText (key value : String) (m : List (String × String)) :
    (putText key value m).map Prod.fst =
      if key ∈ m.map Prod.fst then m.map Prod.fst else m.map Prod.fst ++ [key] := by
  induction m with
  | nil => rfl
  | cons e rest ih =>
      rw [putText]
      by_cases h : e.1 = key
      · simp [h]
      · by_cases hmem : key ∈ rest.map Prod.fst <;> simp_all [Ne.symm h]

/-- Putting texts into a map one after the other leaves no key twice. -/
theorem nodup_foldl_putText (pairs m : List (String × String)) (h : (m.map Prod.fst).Nodup) :
    ((pairs.foldl (fun m p => putText p.1 p.2 m) m).map Prod.fst).Nodup := by
  induction pairs generalizing m with
  | nil => exact h
  | cons p rest ih =>
      refine ih _ ?_
      rw [keys_putText]
      split
      case isTrue => exact h
      case isFalse hfresh =>
        refine List.nodup_append.2 ⟨h, List.pairwise_singleton _ _, ?_⟩
        intro a ha b hb heq
        rw [List.mem_singleton.1 hb] at heq
        exact hfresh (heq ▸ ha)

theorem putText_new {key : String} {m : List (String × String)} (h : key ∉ m.map Prod.fst)
    (value : String) : putText key value m = m ++ [(key, value)] := by
  induction m with
  | nil => rfl
  | cons e rest ih =>
      obtain ⟨hne, hrest⟩ := not_or.1 (fun hor => h (List.mem_cons.2 hor))
      rw [putText, if_neg (Ne.symm hne), ih hrest, List.cons_append]

/-- Texts whose keys differ stay as they are when they are put into a map. -/
theorem foldl_putText {pairs m : List (String × String)}
    (h : ((m ++ pairs).map Prod.fst).Nodup) :
    pairs.foldl (fun m p => putText p.1 p.2 m) m = m ++ pairs := by
  induction pairs generalizing m with
  | nil => rw [List.foldl_nil, List.append_nil]
  | cons p rest ih =>
      have hfresh : p.1 ∉ m.map Prod.fst := by
        rw [List.map_append, List.nodup_append] at h
        exact fun hmem => h.2.2 _ hmem _ List.mem_cons_self rfl
      rw [List.foldl_cons, putText_new hfresh, ih (by simpa using h), List.append_assoc]
      rfl

theorem textEntries_eq_ok (pairs : List (String × String)) :
    textEntries (Json.toEntries (pairs.map fun p => (p.1, Json.text p.2))) = .ok pairs := by
  induction pairs with
  | nil => rfl
  | cons p rest ih =>
      rw [List.map_cons, Json.toEntries, textEntries, ih]
      rfl

/-- The texts of plain entries are these entries. -/
theorem of_textEntries {entries : List (String × Json)} {pairs : List (String × String)}
    (h : textEntries (Json.toEntries entries) = .ok pairs) :
    entries = pairs.map fun p => (p.1, Json.text p.2) := by
  induction entries generalizing pairs with
  | nil =>
      cases h
      rfl
  | cons e rest ih =>
      obtain ⟨f, more, hfirst, hrest, rfl⟩ := (Check.and_ok_iff _ _ _).1 h
      obtain ⟨g, value, hg, hvalue, rfl⟩ := (Check.and_ok_iff _ _ _).1 hfirst
      obtain ⟨key, hkey, rfl⟩ := Check.map_eq_ok hg
      have htext := eq_text_of_text (Check.under_eq_ok hvalue)
      obtain rfl : e.1 = key := Check.ok.inj (Check.under_eq_ok (Check.under_eq_ok hkey))
      rw [List.map_cons, ← ih hrest, ← htext]

/-- A map of texts was read from entries, and its keys differ. -/
theorem of_textMap {v : Value} {m : List (String × String)} (h : textMap v = .ok m) :
    ∃ entries pairs, v.entries? = some entries ∧ textEntries entries = .ok pairs ∧
      pairs.foldl (fun m p => putText p.1 p.2 m) [] = m := by
  unfold textMap at h
  cases hentries : v.entries? with
  | none => simp [hentries, Check.problem] at h
  | some entries =>
      rw [hentries] at h
      obtain ⟨pairs, hpairs, rfl⟩ := Check.map_eq_ok h
      exact ⟨entries, pairs, rfl, hpairs, rfl⟩

theorem textMap_rereads : Rereads textMap fun m => .object (m.map fun e => (e.1, .text e.2)) := by
  intro v m h
  obtain ⟨entries, pairs, -, -, rfl⟩ := of_textMap h
  have hnodup := nodup_foldl_putText pairs [] List.nodup_nil
  generalize pairs.foldl (fun m p => putText p.1 p.2 m) [] = m at hnodup
  rw [textMap, entries?_toValue_object]
  simp only [textEntries_eq_ok, Check.map]
  rw [foldl_putText (m := []) hnodup, List.nil_append]

theorem textMap_normalizes :
    Normalizes textMap (fun m => .object (m.map fun e => (e.1, .text e.2))) id := by
  intro j m hkeys h
  obtain ⟨es, pairs, hes, hpairs, rfl⟩ := of_textMap h
  obtain ⟨entries, rfl, rfl⟩ := exists_object_of_entries? hes
  obtain rfl := of_textEntries hpairs
  have hnodup := ((hasDistinctKeys_object _).1 hkeys).1
  rw [List.map_map] at hnodup
  rw [foldl_putText (m := []) hnodup, List.nil_append]
  rfl

/-! ## Records that are read again -/

namespace Fields

theorem of_required {name : FieldName} {r : Reader α} {entries : List (Value × Value)} {x : α}
    (h : (required name r).read entries = .ok x) :
    ∃ spelling v, name.find? entries = some (spelling, v) ∧ r v = .ok x := by
  unfold required at h
  dsimp only at h
  cases hfind : name.find? entries with
  | none => simp [hfind, Check.problem, Check.under] at h
  | some found =>
      rw [hfind] at h
      exact ⟨found.1, found.2, rfl, Check.under_eq_ok h⟩

section

variable {name : FieldName} {r : Reader α} {dump : α → Json} {x : α} {spelling : String}
variable {entries again : List (Value × Value)}

theorem required_rereads (h : Rereads r dump) (hread : (required name r).read entries = .ok x)
    (hfind : name.find? again = some (spelling, (dump x).toValue)) :
    (required name r).read again = .ok x := by
  obtain ⟨-, v, -, hv⟩ := of_required hread
  rw [required]
  simp only [hfind, h v x hv]
  rfl

theorem withDefault_rereads (h : Rereads r dump) {default : α}
    (hdefault : r (dump default).toValue = .ok default)
    (hread : (withDefault name default r).read entries = .ok x)
    (hfind : name.find? again = some (spelling, (dump x).toValue)) :
    (withDefault name default r).read again = .ok x := by
  have hx : r (dump x).toValue = .ok x := by
    rcases of_withDefault hread with rfl | ⟨v, hv⟩
    · exact hdefault
    · exact h v x hv
  rw [withDefault]
  simp only [hfind, hx]
  rfl

end

section

variable {γ δ ε : Type} {entries : List (Value × Value)}

theorem seq_eq_ok {f : Fields (α → β)} {r : Fields α} {g : α → β} {x : α}
    (hf : f.read entries = .ok g) (hr : r.read entries = .ok x) :
    (f <*> r).read entries = .ok (g x) :=
  (Check.and_ok_iff _ _ _).2 ⟨g, x, hf, hr, rfl⟩

theorem map_eq_ok {f : α → β} {r : Fields α} {x : α} (h : r.read entries = .ok x) :
    (f <$> r).read entries = .ok (f x) := by
  show (r.read entries).map f = .ok (f x)
  rw [h]
  rfl

variable {a : Fields α} {b : Fields β} {c : Fields γ} {d : Fields δ}

/-- A record of two fields is read exactly when both are, and so on for more. -/
theorem two_eq_ok_iff {f : α → β → γ} {y : γ} :
    (f <$> a <*> b).read entries = .ok y ↔
      ∃ x₁ x₂, a.read entries = .ok x₁ ∧ b.read entries = .ok x₂ ∧ f x₁ x₂ = y := by
  constructor
  · intro h
    obtain ⟨_, x₂, hfirst, hb, rfl⟩ := of_seq h
    obtain ⟨x₁, ha, rfl⟩ := of_map hfirst
    exact ⟨x₁, x₂, ha, hb, rfl⟩
  · rintro ⟨x₁, x₂, ha, hb, rfl⟩
    exact seq_eq_ok (map_eq_ok ha) hb

theorem three_eq_ok_iff {f : α → β → γ → δ} {y : δ} :
    (f <$> a <*> b <*> c).read entries = .ok y ↔
      ∃ x₁ x₂ x₃, a.read entries = .ok x₁ ∧ b.read entries = .ok x₂ ∧ c.read entries = .ok x₃ ∧
        f x₁ x₂ x₃ = y := by
  constructor
  · intro h
    obtain ⟨_, x₃, hfirst, hc, rfl⟩ := of_seq h
    obtain ⟨x₁, x₂, ha, hb, rfl⟩ := two_eq_ok_iff.1 hfirst
    exact ⟨x₁, x₂, x₃, ha, hb, hc, rfl⟩
  · rintro ⟨x₁, x₂, x₃, ha, hb, hc, rfl⟩
    exact seq_eq_ok (two_eq_ok_iff.2 ⟨x₁, x₂, ha, hb, rfl⟩) hc

theorem four_eq_ok_iff {f : α → β → γ → δ → ε} {y : ε} :
    (f <$> a <*> b <*> c <*> d).read entries = .ok y ↔
      ∃ x₁ x₂ x₃ x₄, a.read entries = .ok x₁ ∧ b.read entries = .ok x₂ ∧
        c.read entries = .ok x₃ ∧ d.read entries = .ok x₄ ∧ f x₁ x₂ x₃ x₄ = y := by
  constructor
  · intro h
    obtain ⟨_, x₄, hfirst, hd, rfl⟩ := of_seq h
    obtain ⟨x₁, x₂, x₃, ha, hb, hc, rfl⟩ := three_eq_ok_iff.1 hfirst
    exact ⟨x₁, x₂, x₃, x₄, ha, hb, hc, hd, rfl⟩
  · rintro ⟨x₁, x₂, x₃, x₄, ha, hb, hc, hd, rfl⟩
    exact seq_eq_ok (three_eq_ok_iff.2 ⟨x₁, x₂, x₃, ha, hb, hc, rfl⟩) hd

end

/-- What a dump says of a closed record is read if its fields are. -/
theorem closed_eq_ok {kind : String} {r : Fields α} {entries : List (String × Json)} {x : α}
    (hknown : unknown (spellings r.names (Json.toEntries entries)) (Json.toEntries entries) = [])
    (h : r.read (Json.toEntries entries) = .ok x) :
    closed kind r (Json.object entries).toValue = .ok x :=
  closed_eq_ok_iff.2 ⟨_, entries?_toValue_object entries, hknown, h⟩

theorem opened_eq_ok {kind : String} {r : Fields α} {entries : List (String × Json)} {x : α}
    (h : r.read (Json.toEntries entries) = .ok x) :
    opened kind r (Json.object entries).toValue = .ok x :=
  opened_eq_ok_iff.2 ⟨_, entries?_toValue_object entries, h⟩

end Fields

end RoleGrants.Schema
