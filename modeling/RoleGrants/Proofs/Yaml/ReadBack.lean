import RoleGrants.Proofs.Yaml.Composing
import RoleGrants.Proofs.Yaml.Stream

/-!
# Reading documents back

The text of documents is read as these documents in their order, each text of them replaced by what
it reads as. A text reads as itself unless it is written between single quotes and contains a next
line: the reader takes that character for a line break and folds it.
-/

namespace RoleGrants.Yaml

variable {doc : Json} {docs : List Json} {depth fuel : Nat}
  {anchors : List (List Char × Anchored)} {handles : List (List Char × List Char)}

/-! ## One document -/

/-- A document is read as its tree. -/
theorem IsDocument.readNode (h : IsDocument doc) (rest : List Token)
    (hfuel : 2 * (valueTokens doc).length ≤ fuel) :
    readNode true false depth fuel ⟨valueTokens doc ++ rest, anchors, handles⟩ =
      .ok (valueNode doc, ⟨rest, anchors, handles⟩) := by
  obtain ⟨-, -, hblock⟩ := h
  rw [valueTokens_object_append]
  rw [length_valueTokens_object] at hfuel
  exact Piece.Reads.object hblock.reads false (by omega)

/-- The tree of a document has the document as it is read as its value. -/
theorem IsDocument.outcome (h : IsDocument doc) :
    (valueNode doc).outcome.result = .ok (reread doc).toValue := by
  obtain ⟨-, hnodup, hblock⟩ := h
  exact (makes_object hnodup hblock.composes).result

/-! ## Streams -/

/-- The tokens behind a document. -/
def laterTokens : List Json → List Token
  | [] => [.streamEnd]
  | doc :: docs => .documentStart :: streamTokens (doc :: docs)

theorem streamTokens_cons (doc : Json) (docs : List Json) :
    streamTokens (doc :: docs) = valueTokens doc ++ laterTokens docs := by
  cases docs <;> rfl

theorem documentValue_laterTokens (h : IsDocument doc) (docs : List Json) :
    documentValue (valueNode doc) ⟨laterTokens docs, anchors, handles⟩ =
      .ok (reread doc).toValue := by
  rw [← h.outcome]
  cases docs <;> rfl

/-- The tokens of a document with more behind it take enough of the fuel that all tokens give. -/
theorem length_valueTokens_le (doc : Json) (docs : List Json) :
    2 * (valueTokens doc).length ≤ 4 * (streamTokens (doc :: docs)).length + 4 := by
  rw [streamTokens_cons, List.length_append]
  omega

theorem length_laterTokens_le (docs : List Json) : docs.length ≤ (laterTokens docs).length := by
  induction docs with
  | nil => exact Nat.zero_le _
  | cons doc docs ih =>
      rw [laterTokens, streamTokens_cons, List.length_cons, List.length_cons, List.length_append]
      omega

/-- Behind a marker stands a document. -/
theorem explicitDocument_streamTokens (h : IsDocument doc) (docs : List Json) :
    explicitDocument (.documentStart :: streamTokens (doc :: docs)) =
      .ok (valueNode doc, ⟨laterTokens docs, [], defaultHandles⟩) := by
  have hcontent : readContent (4 * (streamTokens (doc :: docs)).length + 8)
      ⟨streamTokens (doc :: docs), [], defaultHandles⟩ =
        readNode true false 0 (4 * (streamTokens (doc :: docs)).length + 8)
          ⟨streamTokens (doc :: docs), [], defaultHandles⟩ := by
    obtain ⟨-, -, -⟩ := h
    rw [streamTokens_cons, valueTokens_object_append]
    rfl
  have hlength := length_valueTokens_le doc docs
  have hread := @IsDocument.readNode doc 0 (4 * (streamTokens (doc :: docs)).length + 8) []
    defaultHandles h (laterTokens docs) (by omega)
  rw [← streamTokens_cons] at hread
  rw [← hread, ← hcontent]
  rfl

/-- The first document stands without a marker. -/
theorem firstDocument_streamTokens (h : IsDocument doc) (docs : List Json) :
    firstDocument (streamTokens (doc :: docs)) =
      .ok (valueNode doc, ⟨laterTokens docs, [], defaultHandles⟩) := by
  have hfirst : firstDocument (streamTokens (doc :: docs)) =
      readNode true false 0 (4 * (streamTokens (doc :: docs)).length + 4)
        ⟨streamTokens (doc :: docs), [], defaultHandles⟩ := by
    obtain ⟨-, -, -⟩ := h
    rw [streamTokens_cons, valueTokens_object_append]
    rfl
  have hlength := length_valueTokens_le doc docs
  rw [hfirst, streamTokens_cons]
  exact h.readNode _ (streamTokens_cons doc docs ▸ hlength)

theorem laterValues_laterTokens (h : ∀ doc ∈ docs, IsDocument doc) {n : Nat}
    (hn : docs.length < n) :
    laterValues n (laterTokens docs) = .ok (docs.map fun doc => (reread doc).toValue) := by
  induction docs generalizing n with
  | nil =>
      obtain ⟨n, rfl⟩ : ∃ m, n = m + 1 := ⟨n - 1, by omega⟩
      rfl
  | cons doc docs ih =>
      obtain ⟨n, rfl⟩ : ∃ m, n = m + 1 := ⟨n - 1, by omega⟩
      rw [List.forall_mem_cons] at h
      have hlater : laterValues (n + 1) (laterTokens (doc :: docs)) =
          valuesFrom n (explicitDocument (laterTokens (doc :: docs))) := rfl
      rw [hlater, valuesFrom_eq_ok_iff]
      exact ⟨_, _, _, _, explicitDocument_streamTokens h.1 docs, documentValue_laterTokens h.1 docs,
        ih h.2 (Nat.lt_of_succ_lt_succ hn), rfl⟩

/-- The tokens of documents have the documents as they are read as their values. -/
theorem valuesOfTokens_streamTokens (h : ∀ doc ∈ docs, IsDocument doc) :
    valuesOfTokens (streamTokens docs) = .ok (docs.map fun doc => (reread doc).toValue) := by
  cases docs with
  | nil => rfl
  | cons doc docs =>
      rw [List.forall_mem_cons] at h
      -- Every document takes a token, so the bound on the number of documents is never met.
      have hcount : docs.length < (streamTokens (doc :: docs)).length + 1 := by
        have hle := length_laterTokens_le docs
        rw [streamTokens_cons, List.length_append]
        omega
      have hvalues : valuesOfTokens (streamTokens (doc :: docs)) =
          valuesFrom ((streamTokens (doc :: docs)).length + 1)
            (firstDocument (streamTokens (doc :: docs))) := by
        obtain ⟨-, -, -⟩ := h.1
        rw [streamTokens_cons, valueTokens_object_append]
        exact valuesOfTokens_eq nofun
      rw [hvalues, valuesFrom_eq_ok_iff]
      exact ⟨_, _, _, _, firstDocument_streamTokens h.1 docs, documentValue_laterTokens h.1 docs,
        laterValues_laterTokens h.2 hcount, rfl⟩

/-- The text of documents is read as these documents. -/
theorem loadAll_render (h : ∀ doc ∈ docs, IsDocument doc) :
    loadAll (render docs).toList = .ok (docs.map fun doc => (reread doc).toValue) := by
  cases docs with
  | nil => rfl
  | cons doc docs =>
      rw [loadAll, (render_lays (by simp) h).tokens_eq, valuesOfTokens_streamTokens h]

/-! ## Documents that are read unchanged -/

mutual

/-- The texts in a document, its keys apart. -/
def textsOf : Json → List String
  | .text s => [s]
  | .array items => itemTexts items
  | .object entries => entryTexts entries
  | _ => []

/-- The texts in items. -/
def itemTexts : List Json → List String
  | [] => []
  | item :: rest => textsOf item ++ itemTexts rest

/-- The texts in entries. -/
def entryTexts : List (String × Json) → List String
  | [] => []
  | (_, value) :: rest => textsOf value ++ entryTexts rest

end

/-- A text is read as another one exactly when it stands between single quotes with a next line. -/
theorem textReading_eq_self_iff {s : List Char} :
    textReading s = s ↔ (Style.ofText s = .single → '\x85' ∉ s) := by
  rw [textReading]
  by_cases h : Style.ofText s = .single
  · rw [if_pos h, singleReading_eq_self_iff]
    exact ⟨fun hnel _ => hnel, fun hnel => hnel h⟩
  · rw [if_neg h]
    exact ⟨fun _ hsingle => absurd hsingle h, fun _ => rfl⟩

theorem ofList_eq_iff {l : List Char} {s : String} : String.ofList l = s ↔ l = s.toList := by
  constructor
  · rintro rfl
    exact String.toList_ofList.symm
  · rintro rfl
    exact String.ofList_toList

mutual

/-- A document is read unchanged exactly when each of its texts is. -/
theorem toValue_reread_iff (v : Json) : (reread v).toValue = v.toValue ↔
    ∀ s ∈ textsOf v, textReading s.toList = s.toList := by
  cases v with
  | null | bool | int | float => simp [reread, textsOf]
  | text s => simp [reread, textsOf, Json.toValue, ofList_eq_iff]
  | array items => simpa [reread, textsOf, Json.toValue] using toValues_rereadItems_iff items
  | object entries =>
      simpa [reread, textsOf, Json.toValue] using toEntries_rereadEntries_iff entries

theorem toValues_rereadItems_iff (items : List Json) :
    Json.toValues (rereadItems items) = Json.toValues items ↔
      ∀ s ∈ itemTexts items, textReading s.toList = s.toList := by
  cases items with
  | nil => simp [rereadItems, itemTexts]
  | cons item rest =>
      rw [rereadItems, Json.toValues, Json.toValues, itemTexts, List.forall_mem_append,
        List.cons.injEq, toValue_reread_iff item, toValues_rereadItems_iff rest]

theorem toEntries_rereadEntries_iff (entries : List (String × Json)) :
    Json.toEntries (rereadEntries entries) = Json.toEntries entries ↔
      ∀ s ∈ entryTexts entries, textReading s.toList = s.toList := by
  match entries with
  | [] => simp [rereadEntries, entryTexts]
  | (key, value) :: rest =>
      rw [rereadEntries, Json.toEntries, Json.toEntries, entryTexts, List.forall_mem_append,
        List.cons.injEq, Prod.mk.injEq, toValue_reread_iff value, toEntries_rereadEntries_iff rest]
      simp

end

/-- The text of documents is read as just these documents exactly when none of their texts stands
between single quotes with a next line. -/
theorem loadAll_render_eq_iff (h : ∀ doc ∈ docs, IsDocument doc) :
    loadAll (render docs).toList = .ok (docs.map Json.toValue) ↔
      ∀ doc ∈ docs, ∀ s ∈ textsOf doc, Style.ofText s.toList = .single → '\x85' ∉ s.toList := by
  rw [loadAll_render h, Except.ok.injEq, List.map_inj_left]
  refine forall₂_congr fun doc _ => (toValue_reread_iff doc).trans ?_
  exact forall₂_congr fun s _ => textReading_eq_self_iff

end RoleGrants.Yaml
