import RoleGrants.Proofs.Yaml.Double
import RoleGrants.Proofs.Yaml.Scanning

/-!
# The layout of documents

`Layout n piece w` says that `w` is how a piece of a document is laid out in a block of indentation
`n`: the value behind the colon of a key, the entries of a mapping, or the items of a sequence. The
documents are those that manifests are: objects with keys of one word, and in them texts, truth
values, objects and arrays of objects.

Each layout is split into the tokens of its piece, whatever line stands behind it.
-/

namespace RoleGrants.Yaml

/-- What a text reads as after it was written in its style. -/
def textReading (s : List Char) : List Char :=
  if Style.ofText s = .single then singleReading true s else s

/-- Whether a text is written without quotes. -/
def isPlain (s : List Char) : Bool := Style.ofText s = .plain

/-- The word of a truth value. -/
def truthWord (b : Bool) : List Char := (if b then "true" else "false").toList

/-! ## Tokens of documents -/

mutual

/-- The tokens of a value. -/
def valueTokens : Json → List Token
  | .text s => [.scalar (textReading s.toList) (isPlain s.toList)]
  | .bool b => [.scalar (truthWord b) true]
  | .array items => itemTokens items
  | .object entries => .blockMappingStart :: entryTokens entries ++ [.blockEnd]
  | _ => []

/-- The tokens of items. -/
def itemTokens : List Json → List Token
  | [] => []
  | item :: rest => .blockEntry :: valueTokens item ++ itemTokens rest

/-- The tokens of entries. -/
def entryTokens : List (String × Json) → List Token
  | [] => []
  | (key, value) :: rest =>
    .key :: .scalar key.toList true :: .value :: valueTokens value ++ entryTokens rest

end

theorem reverse_entryTokens_cons (key : String) (value : Json) (rest : List (String × Json))
    (emitted : List Token) : (entryTokens ((key, value) :: rest)).reverse ++ emitted =
      (entryTokens rest).reverse ++
        ((valueTokens value).reverse ++ .value :: .scalar key.toList true :: .key :: emitted) := by
  simp [entryTokens]

theorem reverse_itemTokens_cons (item : Json) (rest : List Json) (emitted : List Token) :
    (itemTokens (item :: rest)).reverse ++ emitted =
      (itemTokens rest).reverse ++ ((valueTokens item).reverse ++ .blockEntry :: emitted) := by
  simp [itemTokens]

/-- The tokens of documents. -/
def streamTokens : List Json → List Token
  | [] => [.streamEnd]
  | [doc] => valueTokens doc ++ [.streamEnd]
  | doc :: rest => valueTokens doc ++ .documentStart :: streamTokens rest

/-! ## Layouts -/

/-- A piece of a document. -/
inductive Piece where
  | value (v : Json)
  | entries (entries : List (String × Json))
  | items (items : List Json)

/-- How a piece of a document is laid out in a block of some indentation. -/
inductive Layout : Nat → Piece → List Char → Prop
  | text {n : Nat} {s : String} {w : List Char} :
      ScalarForm n (isPlain s.toList) w (textReading s.toList) → (∀ x ∈ w, isAllowed x) →
      Layout n (.value (.text s)) (' ' :: w)
  | bool {n : Nat} {b : Bool} {w : List Char} :
      ScalarForm n true w (truthWord b) → (∀ x ∈ w, isAllowed x) →
      Layout n (.value (.bool b)) (' ' :: w)
  | object {n : Nat} {entries : List (String × Json)} {w : List Char} :
      Layout (n + 2) (.entries entries) w → Layout n (.value (.object entries)) (nextLine (n + 2) w)
  | array {n : Nat} {items : List Json} {w : List Char} :
      Layout n (.items items) w → Layout n (.value (.array items)) (nextLine n w)
  | lastEntry {n : Nat} {key : String} {v : Json} {w : List Char} :
      KeyText key.toList → Layout n (.value v) w →
      Layout n (.entries [(key, v)]) (key.toList ++ ':' :: w)
  | entry {n : Nat} {key : String} {v : Json} {rest : List (String × Json)} {w u : List Char} :
      KeyText key.toList → Layout n (.value v) w → Layout n (.entries rest) u →
      Layout n (.entries ((key, v) :: rest)) (key.toList ++ ':' :: (w ++ nextLine n u))
  | lastItem {n : Nat} {entries : List (String × Json)} {w : List Char} :
      Layout (n + 2) (.entries entries) w →
      Layout n (.items [.object entries]) ('-' :: ' ' :: w)
  | item {n : Nat} {entries : List (String × Json)} {rest : List Json} {w u : List Char} :
      Layout (n + 2) (.entries entries) w → Layout n (.items rest) u →
      Layout n (.items (.object entries :: rest)) ('-' :: ' ' :: (w ++ nextLine n u))

/-- How documents are laid out. -/
inductive StreamLayout : List Json → List Char → Prop
  | last {entries : List (String × Json)} {w : List Char} :
      Layout 0 (.entries entries) w → StreamLayout [.object entries] (w ++ nextLine 0 [])
  | more {entries : List (String × Json)} {docs : List Json} {w u : List Char} :
      Layout 0 (.entries entries) w → StreamLayout docs u →
      StreamLayout (.object entries :: docs)
        (w ++ nextLine 0 ('-' :: '-' :: '-' :: nextLine 0 u))

namespace Layout

variable {n : Nat} {v : Json} {entries : List (String × Json)} {items : List Json}
  {piece : Piece} {w : List Char}

/-- A value behind a colon begins with a space or a line break. -/
theorem isGap_value (h : Layout n (.value v) w) (t : List Char) :
    isGap ((w ++ t).headD endMark) := by
  cases h <;> rfl

theorem opensToken_entries (h : Layout n (.entries entries) w) (t : List Char) :
    OpensToken (w ++ t) := by
  cases h with
  | lastEntry hkey => rw [List.append_assoc]; exact hkey.opensPlain.opensToken _
  | entry hkey => rw [List.append_assoc]; exact hkey.opensPlain.opensToken _

theorem opensToken_items (h : Layout n (.items items) w) (t : List Char) :
    OpensToken (w ++ t) := by
  cases h <;> exact opensToken_cons.mpr (by decide)

/-! ## Characters -/

theorem allowed_nextLine {k : Nat} {t : List Char} (h : ∀ x ∈ t, isAllowed x) :
    ∀ x ∈ nextLine k t, isAllowed x :=
  allowed_append (allowed_line k) h

theorem allowed_key {s : List Char} (h : KeyText s) : ∀ x ∈ s, isAllowed x := fun x hx =>
  isAllowed_of_not_needsEscape (h.continuesPlain.printable x hx)

theorem allowed (h : Layout n piece w) : ∀ x ∈ w, isAllowed x := by
  have hcons : ∀ {x : Char} {t : List Char}, isAllowed x → (∀ y ∈ t, isAllowed y) →
      ∀ y ∈ x :: t, isAllowed y := fun hx ht => List.forall_mem_cons.mpr ⟨hx, ht⟩
  induction h with
  | text _ hw => exact hcons (by decide) hw
  | bool _ hw => exact hcons (by decide) hw
  | object _ ih => exact allowed_nextLine ih
  | array _ ih => exact allowed_nextLine ih
  | lastEntry hkey _ ih => exact allowed_append (allowed_key hkey) (hcons (by decide) ih)
  | entry hkey _ _ ih ih' =>
      exact allowed_append (allowed_key hkey)
        (hcons (by decide) (allowed_append ih (allowed_nextLine ih')))
  | lastItem _ ih => exact hcons (by decide) (hcons (by decide) ih)
  | item _ _ ih ih' =>
      exact hcons (by decide) (hcons (by decide) (allowed_append ih (allowed_nextLine ih')))

end Layout

/-! ## Tokens of layouts -/

/-- A text is split into the tokens of a piece, up to a line that is not indented further. -/
def Piece.Scans (n : Nat) (w : List Char) : Piece → Prop
  | .value v => ∀ {emitted : List Token} {outer : List Int} {column k : Nat} {t : List Char},
      n < column → k ≤ n → OpensToken t →
      Spot.Reaches ⟨emitted, n, outer, false, column, w ++ nextLine k t⟩
        ⟨(valueTokens v).reverse ++ emitted, n, outer, true, k, t⟩
  | .entries es => ∀ {emitted : List Token} {indent : Int} {outer : List Int} {k : Nat}
      {t : List Char}, indent ≤ n → k ≤ n → OpensToken t →
      Spot.Reaches ⟨emitted, indent, outer, true, n, w ++ nextLine k t⟩
        ⟨(entryTokens es).reverse ++
            (if indent < n then .blockMappingStart :: emitted else emitted),
          n, if indent < n then indent :: outer else outer, true, k, t⟩
  | .items vs => ∀ {emitted : List Token} {outer : List Int} {k : Nat} {t : List Char},
      k ≤ n → OpensToken t →
      Spot.Reaches ⟨emitted, n, outer, true, n, w ++ nextLine k t⟩
        ⟨(itemTokens vs).reverse ++ emitted, n, outer, true, k, t⟩

/-- Entries that are indented further than what is around them are split into the tokens of an
object. -/
theorem Spot.reaches_object {n : Nat} {entries : List (String × Json)} {w : List Char}
    (h : (Piece.entries entries).Scans n w) {emitted : List Token} {indent : Int}
    {outer : List Int} {k : Nat} {t : List Char} (hindent : indent < n) (hk : k < n)
    (ht : OpensToken t) :
    Spot.Reaches ⟨emitted, indent, outer, true, n, w ++ nextLine k t⟩
      ⟨(valueTokens (.object entries)).reverse ++ emitted, indent, outer, true, k, t⟩ := by
  have hscan := @h emitted indent outer k t (Int.le_of_lt hindent) (Nat.le_of_lt hk) ht
  rw [if_pos hindent, if_pos hindent] at hscan
  have hclose := hscan.trans (Spot.reaches_blockEnd ht (Int.ofNat_lt.mpr hk))
  simpa [valueTokens] using hclose

/-- A layout is split into the tokens of its piece. -/
theorem Layout.scans {n : Nat} {piece : Piece} {w : List Char} (h : Layout n piece w) :
    piece.Scans n w := by
  induction h with
  | text hform _ =>
      intro emitted outer column k t hcolumn hk ht
      exact (Spot.reaches_spaces (k := 1) (hform.opensToken _)).trans
        (Spot.reaches_scalar hform (Nat.lt_succ_of_lt hcolumn) hk ht)
  | bool hform _ =>
      intro emitted outer column k t hcolumn hk ht
      exact (Spot.reaches_spaces (k := 1) (hform.opensToken _)).trans
        (Spot.reaches_scalar hform (Nat.lt_succ_of_lt hcolumn) hk ht)
  | object hentries ih =>
      intro emitted outer column k t hcolumn hk ht
      rw [nextLine_append]
      exact (Spot.reaches_line (hentries.opensToken_entries _)).trans
        (Spot.reaches_object ih (by omega) (by omega) ht)
  | array hitems ih =>
      intro emitted outer column k t hcolumn hk ht
      rw [nextLine_append]
      exact (Spot.reaches_line (hitems.opensToken_items _)).trans (ih hk ht)
  | lastEntry hkey hvalue ih =>
      intro emitted indent outer k t hindent hk ht
      rw [List.append_assoc, List.cons_append, reverse_entryTokens_cons]
      exact (Spot.reaches_key hkey (hvalue.isGap_value _) hindent).trans (ih (by omega) hk ht)
  | @entry n key v rest w u hkey hvalue hrest ih ih' =>
      intro emitted indent outer k t hindent hk ht
      rw [List.append_assoc, List.cons_append, List.append_assoc, nextLine_append,
        reverse_entryTokens_cons]
      have hlater := @ih' ((valueTokens v).reverse ++ .value :: .scalar key.toList true :: .key ::
          (if indent < n then .blockMappingStart :: emitted else emitted)) n
        (if indent < n then indent :: outer else outer) k t (Int.le_refl _) hk ht
      rw [if_neg (Int.lt_irrefl _), if_neg (Int.lt_irrefl _)] at hlater
      exact ((Spot.reaches_key hkey (hvalue.isGap_value _) hindent).trans
        (ih (by omega) (Nat.le_refl _) (hrest.opensToken_entries _))).trans hlater
  | lastItem hentries ih =>
      intro emitted outer k t hk ht
      rw [reverse_itemTokens_cons]
      exact (Spot.reaches_dash (hentries.opensToken_entries _)).trans
        (Spot.reaches_object ih (by omega) (by omega) ht)
  | item hentries hrest ih ih' =>
      intro emitted outer k t hk ht
      rw [List.cons_append, List.cons_append, List.append_assoc, nextLine_append,
        reverse_itemTokens_cons]
      exact ((Spot.reaches_dash (hentries.opensToken_entries _)).trans
        (Spot.reaches_object ih (by omega) (by omega) (hrest.opensToken_items _))).trans (ih' hk ht)

/-! ## Tokens of texts -/

/-- Entries at the beginning of a document. -/
theorem Layout.reaches_document {entries : List (String × Json)} {w t : List Char}
    (h : Layout 0 (.entries entries) w) (ht : OpensToken t) (emitted : List Token) :
    Spot.Reaches ⟨emitted, -1, [], true, 0, w ++ nextLine 0 t⟩
      ⟨(entryTokens entries).reverse ++ .blockMappingStart :: emitted, 0, [-1], true, 0, t⟩ :=
  @Layout.scans 0 (.entries entries) w h emitted (-1) [] 0 t (by decide) (Nat.le_refl 0) ht

theorem StreamLayout.opensToken {docs : List Json} {w : List Char} (h : StreamLayout docs w) :
    OpensToken w := by
  cases h with
  | last hentries => exact hentries.opensToken_entries _
  | more hentries => exact hentries.opensToken_entries _

theorem StreamLayout.allowed {docs : List Json} {w : List Char} (h : StreamLayout docs w) :
    ∀ x ∈ w, isAllowed x := by
  induction h with
  | last hentries =>
      exact allowed_append hentries.allowed (Layout.allowed_nextLine (fun _ hx => nomatch hx))
  | more hentries _ ih =>
      have hmarker : ∀ x ∈ ['-', '-', '-'], isAllowed x := List.all_eq_true.mp (by decide)
      exact allowed_append hentries.allowed (Layout.allowed_nextLine
        (allowed_append hmarker (Layout.allowed_nextLine ih)))

/-- The tokens of a document with more documents behind it. -/
theorem StreamLayout.streamTokens_cons {docs : List Json} {w : List Char} (h : StreamLayout docs w)
    (doc : Json) :
    streamTokens (doc :: docs) = valueTokens doc ++ .documentStart :: streamTokens docs := by
  cases h <;> rfl

/-- From the beginning of a document the rest of the text is split into the tokens of the
documents. -/
theorem StreamLayout.finishes {docs : List Json} {w : List Char} (h : StreamLayout docs w)
    (emitted : List Token) (index line : Nat) :
    (Spot.scanner ⟨emitted, -1, [], true, 0, w⟩ index line).Finishes
      (emitted.reverse ++ streamTokens docs) := by
  induction h generalizing emitted index line with
  | last hentries =>
      obtain ⟨index', line', hleads⟩ := hentries.reaches_document OpensToken.nil emitted index line
      have hfinish := hleads _ (Spot.finishes_at_end index' line')
      simpa [streamTokens, valueTokens] using hfinish
  | more hentries hdocs ih =>
      obtain ⟨index', line', hleads⟩ := ((hentries.reaches_document
        (opensToken_cons.mpr (by decide)) emitted).trans
          (Spot.reaches_documentStart hdocs.opensToken)) index line
      have hfinish := hleads _ (ih _ index' line')
      rw [hdocs.streamTokens_cons]
      simpa [valueTokens] using hfinish

/-- The text of documents is split into their tokens. -/
theorem StreamLayout.tokens_eq {docs : List Json} {w : List Char} (h : StreamLayout docs w) :
    Token.ofText w = streamTokens docs := by
  have hallowed : w.all isAllowed = true := List.all_eq_true.mpr h.allowed
  have hmark : w.head? ≠ some byteOrderMark := by
    have hfirst : ∃ s t, KeyText s ∧ w = s ++ t := by
      cases h with
      | last hentries => cases hentries <;> exact ⟨_, _, ‹KeyText _›, List.append_assoc _ _ _⟩
      | more hentries => cases hentries <;> exact ⟨_, _, ‹KeyText _›, List.append_assoc _ _ _⟩
    obtain ⟨s, t, hs, rfl⟩ := hfirst
    obtain ⟨x, v, rfl, -⟩ := hs.opensPlain
    rintro ⟨⟩
    exact absurd (hs.isLineChar _ List.mem_cons_self) (by decide)
  have hfinish := (h.finishes [] 0 0).run_eq (n := w.length + 2) (by
    simp only [Spot.scanner]
    omega)
  rw [Token.ofText, hallowed, if_neg (by decide)]
  simp only [hmark, if_false]
  exact hfinish

end RoleGrants.Yaml
