import RoleGrants.Proofs.Yaml.Writing
import RoleGrants.Yaml.Node

/-!
# Trees of documents

The tokens of a document are read as its tree. The steps of the descent come first, one for each
form that the tokens of a document have; they are followed along the blocks of the document.
-/

namespace RoleGrants.Yaml

/-! ## Trees -/

mutual

/-- The tree of a value. -/
def valueNode : Json → Node
  | .text s => .scalar .str (textReading s.toList)
  | .bool b => .scalar .bool (truthWord b)
  | .array items => .sequence .seq (itemNodes items)
  | .object entries => .mapping .map (entryNodes entries)
  | _ => .missing

/-- The trees of items. -/
def itemNodes : List Json → List Node
  | [] => []
  | item :: rest => valueNode item :: itemNodes rest

/-- The trees of entries. -/
def entryNodes : List (String × Json) → List (Node × Node)
  | [] => []
  | (key, value) :: rest => (.scalar .str key.toList, valueNode value) :: entryNodes rest

end

/-! ## Tokens in front of others -/

theorem valueTokens_object_append (entries : List (String × Json)) (t : List Token) :
    valueTokens (.object entries) ++ t =
      .blockMappingStart :: (entryTokens entries ++ .blockEnd :: t) := by
  simp [valueTokens]

theorem length_valueTokens_object (entries : List (String × Json)) :
    (valueTokens (.object entries)).length = (entryTokens entries).length + 2 := by
  simp [valueTokens]

theorem itemTokens_cons_append (item : Json) (rest : List Json) (t : List Token) :
    itemTokens (item :: rest) ++ t =
      .blockEntry :: (valueTokens item ++ (itemTokens rest ++ t)) := by
  simp [itemTokens]

theorem entryTokens_cons_append (key : String) (value : Json) (rest : List (String × Json))
    (t : List Token) : entryTokens ((key, value) :: rest) ++ t =
      .key :: .scalar key.toList true :: .value ::
        (valueTokens value ++ (entryTokens rest ++ t)) := by
  simp [entryTokens]

/-! ## Steps of the descent -/

section

variable {block indentless : Bool} {depth fuel : Nat} {tokens : List Token}
  {anchors : List (List Char × Anchored)} {handles : List (List Char × List Char)}

theorem readNode_scalar (text : List Char) (plain : Bool) :
    readNode block indentless depth (fuel + 1) ⟨.scalar text plain :: tokens, anchors, handles⟩ =
      .ok (.scalar (scalarTag none plain text) text, ⟨tokens, anchors, handles⟩) := by
  with_unfolding_all rfl

theorem readNode_mapping :
    readNode true indentless depth (fuel + 1)
        ⟨.blockMappingStart :: tokens, anchors, handles⟩ =
      (readEntries (depth + 1) fuel ⟨tokens, anchors, handles⟩).bind
        fun r => .ok (.mapping .map r.1, r.2) := by
  cases indentless <;> with_unfolding_all rfl

theorem readNode_items :
    readNode block true depth (fuel + 1) ⟨.blockEntry :: tokens, anchors, handles⟩ =
      (readItems true (depth + 1) fuel ⟨.blockEntry :: tokens, anchors, handles⟩).bind
        fun r => .ok (.sequence .seq r.1, r.2) := by
  with_unfolding_all rfl

/-- An item that is an object. -/
theorem readItems_object :
    readItems true depth (fuel + 1)
        ⟨.blockEntry :: .blockMappingStart :: tokens, anchors, handles⟩ =
      (readNode true false depth fuel ⟨.blockMappingStart :: tokens, anchors, handles⟩).bind
        fun item => (readItems true depth fuel item.2).bind
          fun items => .ok (item.1 :: items.1, items.2) := by
  with_unfolding_all rfl

/-- Items without indentation of their own end in front of a key or the end of the mapping. -/
theorem readItems_end {t : Token} (ht : t = .key ∨ t = .blockEnd) :
    readItems true depth (fuel + 1) ⟨t :: tokens, anchors, handles⟩ =
      .ok ([], ⟨t :: tokens, anchors, handles⟩) := by
  rcases ht with rfl | rfl <;> with_unfolding_all rfl

theorem readEntries_entry :
    readEntries depth (fuel + 1) ⟨.key :: tokens, anchors, handles⟩ =
      (readPart depth fuel ⟨tokens, anchors, handles⟩).bind fun (key, r) => do
        let (value, r) ← match r.next with
          | .value => readPart depth fuel r.drop
          | _ => .ok (Node.missing, r)
        let (entries, r) ← readEntries depth fuel r
        return ((key, value) :: entries, r) := by
  with_unfolding_all rfl

/-- An entry whose key was read up to its value. -/
theorem readEntries_key {key : Node} {rest : List Token}
    (hkey : readPart depth fuel ⟨tokens, anchors, handles⟩ =
      .ok (key, ⟨.value :: rest, anchors, handles⟩)) :
    readEntries depth (fuel + 1) ⟨.key :: tokens, anchors, handles⟩ =
      (readPart depth fuel ⟨rest, anchors, handles⟩).bind fun value =>
        (readEntries depth fuel value.2).bind fun entries =>
          .ok ((key, value.1) :: entries.1, entries.2) := by
  rw [readEntries_entry, hkey]
  with_unfolding_all rfl

theorem readEntries_end :
    readEntries depth (fuel + 1) ⟨.blockEnd :: tokens, anchors, handles⟩ =
      .ok ([], ⟨tokens, anchors, handles⟩) := by
  with_unfolding_all rfl

/-- The tokens with which a value may begin. -/
def StartsValue : Token → Prop
  | .scalar _ _ | .blockMappingStart | .blockEntry => True
  | _ => False

theorem readPart_node {t : Token} (ht : StartsValue t) :
    readPart depth (fuel + 1) ⟨t :: tokens, anchors, handles⟩ =
      readNode true true depth fuel ⟨t :: tokens, anchors, handles⟩ := by
  cases t with
  | scalar | blockMappingStart | blockEntry => with_unfolding_all rfl
  | _ => exact ht.elim

end

/-! ## Tags of scalars -/

theorem ofPlain_of_allowsPlain {s : List Char} (h : allowsPlain s) : Tag.ofPlain s = .str := by
  simp only [allowsPlain, Bool.and_eq_true, decide_eq_true_eq] at h
  exact h.1.1.1.1.1.1

/-- A text is read as a text, whatever its style. -/
theorem scalarTag_text (s : List Char) : scalarTag none (isPlain s) (textReading s) = .str := by
  rw [scalarTag, isPlain, textReading]
  cases hstyle : Style.ofText s with
  | plain => exact ofPlain_of_allowsPlain (allowsPlain_of_style hstyle)
  | single => rfl
  | double => rfl

theorem scalarTag_truthWord (b : Bool) : scalarTag none true (truthWord b) = .bool := by
  cases b <;> decide

theorem scalarTag_key {s : List Char} (h : KeyText s) : scalarTag none true s = .str :=
  ofPlain_of_allowsPlain h.plain

/-! ## Trees of pieces -/

/-- The tokens that may follow a value inside a mapping. -/
def EndsValue (t : Token) : Prop := t = .key ∨ t = .blockEnd

/-- The tokens of a piece are read as its tree, up to a token that does not belong to it. Two units
of fuel for each token are enough. -/
def Piece.Reads : Piece → Prop
  | .value v => ∀ {depth fuel : Nat} {t : Token} {rest : List Token}
      {anchors : List (List Char × Anchored)} {handles : List (List Char × List Char)},
      EndsValue t → 2 * (valueTokens v).length + 3 ≤ fuel →
      readPart depth fuel ⟨valueTokens v ++ t :: rest, anchors, handles⟩ =
        .ok (valueNode v, ⟨t :: rest, anchors, handles⟩)
  | .entries es => ∀ {depth fuel : Nat} {rest : List Token}
      {anchors : List (List Char × Anchored)} {handles : List (List Char × List Char)},
      2 * (entryTokens es).length + 2 ≤ fuel →
      readEntries depth fuel ⟨entryTokens es ++ .blockEnd :: rest, anchors, handles⟩ =
        .ok (entryNodes es, ⟨rest, anchors, handles⟩)
  | .items vs => ∀ {depth fuel : Nat} {t : Token} {rest : List Token}
      {anchors : List (List Char × Anchored)} {handles : List (List Char × List Char)},
      EndsValue t → 2 * (itemTokens vs).length + 1 ≤ fuel →
      readItems true depth fuel ⟨itemTokens vs ++ t :: rest, anchors, handles⟩ =
        .ok (itemNodes vs, ⟨t :: rest, anchors, handles⟩)

section

variable {depth fuel : Nat} {rest : List Token} {anchors : List (List Char × Anchored)}
  {handles : List (List Char × List Char)}

/-- An object is read as its tree, wherever a block may begin. -/
theorem Piece.Reads.object {entries : List (String × Json)} (h : (Piece.entries entries).Reads)
    (indentless : Bool) (hfuel : 2 * (entryTokens entries).length + 3 ≤ fuel) :
    readNode true indentless depth fuel
        ⟨.blockMappingStart :: (entryTokens entries ++ .blockEnd :: rest), anchors, handles⟩ =
      .ok (valueNode (.object entries), ⟨rest, anchors, handles⟩) := by
  obtain ⟨fuel, rfl⟩ : ∃ m, fuel = m + 1 := ⟨fuel - 1, by omega⟩
  rw [readNode_mapping, h (by omega), valueNode]
  rfl

/-- Behind a value stands the key of the next entry, or the end of the mapping. -/
theorem entryTokens_ends (entries : List (String × Json)) (rest : List Token) :
    ∃ t more, EndsValue t ∧ entryTokens entries ++ .blockEnd :: rest = t :: more := by
  cases entries with
  | nil => exact ⟨.blockEnd, rest, .inr rfl, rfl⟩
  | cons e entries => exact ⟨.key, _, .inl rfl, rfl⟩

/-- The text of a key is read as its tree. -/
theorem readPart_key {key : List Char} (h : KeyText key) (hfuel : 2 ≤ fuel) :
    readPart depth fuel ⟨.scalar key true :: rest, anchors, handles⟩ =
      .ok (.scalar .str key, ⟨rest, anchors, handles⟩) := by
  obtain ⟨fuel, rfl⟩ : ∃ m, fuel = m + 2 := ⟨fuel - 2, by omega⟩
  rw [readPart_node (by trivial), readNode_scalar, scalarTag_key h]

end

/-- The tokens of a block are read as its tree. -/
theorem Block.reads {n : Nat} {piece : Piece} (h : Block n piece) : piece.Reads := by
  induction h with
  | text s _ =>
      intro depth fuel t rest anchors handles _ hfuel
      obtain ⟨fuel, rfl⟩ : ∃ m, fuel = m + 2 := ⟨fuel - 2, by omega⟩
      rw [valueTokens, List.singleton_append, readPart_node (by trivial), readNode_scalar,
        scalarTag_text, valueNode]
  | bool b _ =>
      intro depth fuel t rest anchors handles _ hfuel
      obtain ⟨fuel, rfl⟩ : ∃ m, fuel = m + 2 := ⟨fuel - 2, by omega⟩
      rw [valueTokens, List.singleton_append, readPart_node (by trivial), readNode_scalar,
        scalarTag_truthWord, valueNode]
  | @object n es _ _ _ ih =>
      intro depth fuel t rest anchors handles _ hfuel
      rw [length_valueTokens_object] at hfuel
      obtain ⟨fuel, rfl⟩ : ∃ m, fuel = m + 1 := ⟨fuel - 1, by omega⟩
      rw [valueTokens_object_append, readPart_node (by trivial), ih.object true (by omega)]
  | @array n vs hne hitems ih =>
      intro depth fuel t rest anchors handles ht hfuel
      rw [valueTokens] at hfuel
      obtain ⟨fuel, rfl⟩ : ∃ m, fuel = m + 2 := ⟨fuel - 2, by omega⟩
      have hread := @ih (depth + 1) fuel t rest anchors handles ht (by omega)
      -- The first dash is what tells the descent that a sequence begins.
      obtain ⟨v, vs, rfl⟩ := List.exists_cons_of_ne_nil hne
      rw [itemTokens_cons_append] at hread
      rw [valueTokens, itemTokens_cons_append, readPart_node (by trivial), readNode_items, hread,
        valueNode]
      rfl
  | noEntries =>
      intro depth fuel rest anchors handles hfuel
      obtain ⟨fuel, rfl⟩ : ∃ m, fuel = m + 1 := ⟨fuel - 1, by omega⟩
      rw [entryTokens, List.nil_append, readEntries_end, entryNodes]
  | @entry n key v es hkey _ _ ih ih' =>
      intro depth fuel rest anchors handles hfuel
      have hlength : (entryTokens ((key, v) :: es)).length =
          (valueTokens v).length + (entryTokens es).length + 3 := by
        simp [entryTokens]
      obtain ⟨fuel, rfl⟩ : ∃ m, fuel = m + 1 := ⟨fuel - 1, by omega⟩
      -- The value ends in front of the next key, or where the mapping does.
      obtain ⟨t, more, ht, hmore⟩ := entryTokens_ends es rest
      have hrest := @ih' depth fuel rest anchors handles (by omega)
      have hvalue := @ih depth fuel t more anchors handles ht (by omega)
      rw [hmore] at hrest
      rw [entryTokens_cons_append, hmore, readEntries_key (readPart_key hkey (by omega)), hvalue,
        entryNodes]
      simp only [Except.bind, hrest]
  | noItems =>
      intro depth fuel t rest anchors handles ht hfuel
      obtain ⟨fuel, rfl⟩ : ∃ m, fuel = m + 1 := ⟨fuel - 1, by omega⟩
      rw [itemTokens, List.nil_append, readItems_end ht, itemNodes]
  | @item n es vs _ _ _ _ ih ih' =>
      intro depth fuel t rest anchors handles ht hfuel
      have hlength : (itemTokens (.object es :: vs)).length =
          (entryTokens es).length + (itemTokens vs).length + 3 := by
        rw [itemTokens, List.cons_append, List.length_cons, List.length_append,
          length_valueTokens_object]
        omega
      obtain ⟨fuel, rfl⟩ : ∃ m, fuel = m + 1 := ⟨fuel - 1, by omega⟩
      have hrest := @ih' depth fuel t rest anchors handles ht (by omega)
      rw [itemTokens_cons_append, valueTokens_object_append, readItems_object,
        ih.object false (by omega), itemNodes]
      simp only [Except.bind, hrest]

end RoleGrants.Yaml
