import RoleGrants.Proofs.Yaml.Layout

/-!
# What the writer lays out

The writer lays out every document that is a block: it has keys of one word, texts, truth values,
objects and arrays of objects, none of them empty, and is not nested so deep that lines have no
width left.
-/

namespace RoleGrants.Yaml

/-- A piece of a document that the writer lays out in a block of some indentation. -/
inductive Block : Nat → Piece → Prop
  | text {n : Nat} (s : String) : n + 2 < Pen.width → Block n (.value (.text s))
  | bool {n : Nat} (b : Bool) : n + 2 < Pen.width → Block n (.value (.bool b))
  | object {n : Nat} {entries : List (String × Json)} : entries ≠ [] →
      (entries.map Prod.fst).Nodup → Block (n + 2) (.entries entries) →
      Block n (.value (.object entries))
  | array {n : Nat} {items : List Json} : items ≠ [] → Block n (.items items) →
      Block n (.value (.array items))
  | noEntries {n : Nat} : Block n (.entries [])
  | entry {n : Nat} {key : String} {v : Json} {rest : List (String × Json)} :
      KeyText key.toList → Block n (.value v) → Block n (.entries rest) →
      Block n (.entries ((key, v) :: rest))
  | noItems {n : Nat} : Block n (.items [])
  | item {n : Nat} {entries : List (String × Json)} {rest : List Json} : entries ≠ [] →
      (entries.map Prod.fst).Nodup → Block (n + 2) (.entries entries) → Block n (.items rest) →
      Block n (.items (.object entries :: rest))

/-- An object that the writer lays out with its keys at some indentation. -/
inductive IsObject (n : Nat) : Json → Prop
  | intro {entries : List (String × Json)} : entries ≠ [] → (entries.map Prod.fst).Nodup →
      Block n (.entries entries) → IsObject n (.object entries)

namespace IsObject

variable {n : Nat} {v : Json}

/-- Behind a key an object is indented further. -/
theorem block (h : IsObject (n + 2) v) : Block n (.value v) := by
  obtain ⟨hne, hnodup, hentries⟩ := h
  exact .object hne hnodup hentries

/-- Behind the dashes of an array objects are indented further. -/
theorem block_array {items : List Json} (hne : items ≠ []) (h : ∀ v ∈ items, IsObject (n + 2) v) :
    Block n (.value (.array items)) := by
  refine .array hne ?_
  clear hne
  induction items with
  | nil => exact .noItems
  | cons v rest ih =>
      obtain ⟨hobject, hrest⟩ := List.forall_mem_cons.mp h
      obtain ⟨hne, hnodup, hentries⟩ := hobject
      exact .item hne hnodup hentries (ih hrest)

end IsObject

namespace Pen

variable {p q : Pen} {n : Nat} {s : List Char}

/-! ## States of the pen -/

/-- The pen stands behind text inside a document. -/
structure BehindText (p : Pen) : Prop where
  indenting : p.indenting = false
  openEnded : p.openEnded = false

/-- The pen stands at an indentation, with nothing but indentation and dashes on the line. -/
structure AtIndent (n : Nat) (p : Pen) : Prop where
  column : p.column = n
  blank : p.blank = true
  indenting : p.indenting = true
  openEnded : p.openEnded = false

theorem BehindText.onLine (h : BehindText p) (n : Nat) : AtIndent n (p.onLine n) :=
  ⟨rfl, rfl, rfl, h.openEnded⟩

theorem AtIndent.toIndent (h : AtIndent n p) : p.toIndent n = p := by
  rw [← h.column]
  exact toIndent_eq_self h.indenting h.blank

theorem toIndent_openEnded (n : Nat) (p : Pen) : (p.toIndent n).openEnded = p.openEnded := by
  simp only [toIndent]
  split <;> split <;> rfl

theorem plainChars_behindText (fold : Bool) (indent : Nat) (previous : Char) (h : BehindText p) :
    BehindText (plainChars fold indent previous s p) := by
  induction s generalizing previous p with
  | nil => exact h
  | cons c s ih =>
      rw [plainChars]
      split
      · exact ih _ ⟨rfl, (toIndent_openEnded indent p).trans h.openEnded⟩
      · exact ih _ ⟨h.indenting, h.openEnded⟩

theorem indicator_behindText (text : List Char) (spaced : Bool) (p : Pen) :
    BehindText (p.indicator text spaced false) :=
  ⟨Bool.and_false _, rfl⟩

/-! ## Scalars -/

/-- A text of plain form without quotes, in a block of some indentation. -/
theorem plain_lays (hn : n + 2 < width) (hs : hasPlainForm s) (hp : BehindText p)
    (hblank : p.blank = false) : ∃ w, p.Adds (' ' :: w) (p.plain false true (n + 2) s) ∧
      ScalarForm n true w s ∧ (∀ x ∈ w, isAllowed x) ∧
      BehindText (p.plain false true (n + 2) s) := by
  have hne : s.isEmpty = false := by
    cases s with
    | nil => exact absurd hs (by decide)
    | cons x s => rfl
  obtain ⟨w, hadds, hw⟩ := @plainChars_reads true (n + 2) n (Nat.lt_add_of_pos_right Nat.two_pos)
    (Nat.le_of_lt hn) s (continuesPlain_of_hasPlainForm hs) 'x' (p.put [' ']).inText
  obtain ⟨hopens, hstarts⟩ := startsPlain_of_hasPlainForm hs hw.start
  have hplain : p.plain false true (n + 2) s =
      plainChars true (n + 2) 'x' s (p.put [' ']).inText := by
    simp [plain, hne, hblank]
  rw [hplain]
  exact ⟨w, (adds_put [' '] p).trans hadds, .plain hw.reads hopens hstarts, hw.allowed,
    plainChars_behindText _ _ _ ⟨rfl, hp.openEnded⟩⟩

/-- A text between quotes, if what stands between them reads as it. -/
theorem quoted_lays (double : Bool) {chars : Pen → Pen} {read : List Char}
    (hchars : ∀ q : Pen, q.indenting = false → ∃ w, q.Adds w (chars q) ∧ QuotedReads double w read ∧
      ∀ x ∈ w, isAllowed x) (hblank : p.blank = false) :
    ∃ w, p.Adds (' ' :: w) ((chars (p.indicator [quoteMark double] true false)).indicator
        [quoteMark double] false false) ∧
      ScalarForm n false w read ∧ (∀ x ∈ w, isAllowed x) ∧
      BehindText ((chars (p.indicator [quoteMark double] true false)).indicator
        [quoteMark double] false false) := by
  have hopen : p.Adds [' ', quoteMark double] (p.indicator [quoteMark double] true false) := by
    simp [indicator, hblank, Adds, put]
  obtain ⟨w, hadds, hreads, hallowed⟩ := hchars (p.indicator [quoteMark double] true false)
    (indicator_behindText _ _ p).indenting
  have hclose : ∀ q : Pen,
      q.Adds [quoteMark double] (q.indicator [quoteMark double] false false) := by
    intro q
    simp [indicator, Adds, put]
  refine ⟨quoteMark double :: w ++ [quoteMark double], (hopen.trans hadds).trans (hclose _),
    .quoted double hreads, ?_, indicator_behindText _ _ _⟩
  have hmark : ∀ x ∈ [quoteMark double], isAllowed x :=
    List.forall_mem_singleton.mpr (by cases double <;> decide)
  exact allowed_append (allowed_append (v := [quoteMark double]) hmark hallowed) hmark

/-- Every text, in the style it needs. -/
theorem text_lays (hn : n + 2 < width) (s : List Char) (hp : BehindText p)
    (hblank : p.blank = false) : ∃ w, p.Adds (' ' :: w) (p.text false true (n + 2) s) ∧
      ScalarForm n (isPlain s) w (textReading s) ∧ (∀ x ∈ w, isAllowed x) ∧
      BehindText (p.text false true (n + 2) s) := by
  have hpos : 0 < n + 2 := Nat.succ_pos _
  rw [text, isPlain, textReading]
  cases hstyle : Style.ofText s with
  | plain =>
      exact plain_lays hn (hasPlainForm_of_allowsPlain (allowsPlain_of_style hstyle)) hp hblank
  | single =>
      refine quoted_lays false (fun q _ => ?_) hblank
      obtain ⟨w, hadds, hreads, hallowed, -⟩ := @singleChars_reads true (n + 2) none hpos
        (Nat.le_of_lt hn) s (allowsSingle_of_style hstyle) (fun _ => rfl) q
      exact ⟨w, hadds, hreads, hallowed⟩
  | double =>
      refine quoted_lays true (fun q hq => ?_) hblank
      obtain ⟨w, hadds, hw⟩ := @doubleChars_reads true (n + 2) hpos hn true false s q hq
      exact ⟨w, hadds, hw.reads.reads, hw.allowed⟩

/-! ## Pieces -/

/-- Before entries the pen goes to their indentation. -/
theorem entries_toIndent {es : List (String × Json)} (hne : es ≠ [])
    (h : AtIndent n (p.toIndent n)) : p.entries n es = (p.toIndent n).entries n es := by
  obtain ⟨e, rest, rfl⟩ := List.exists_cons_of_ne_nil hne
  rw [entries, entries, h.toIndent]

theorem items_toIndent {vs : List Json} (hne : vs ≠ []) (h : AtIndent n (p.toIndent n)) :
    p.items n vs = (p.toIndent n).items n vs := by
  obtain ⟨v, rest, rfl⟩ := List.exists_cons_of_ne_nil hne
  rw [items, items, h.toIndent]

/-- Behind text entries begin on a new line. -/
theorem entries_onLine {es : List (String × Json)} (hne : es ≠ []) (hp : BehindText p) :
    p.entries n es = (p.onLine n).entries n es := by
  have hline : p.toIndent n = p.onLine n := toIndent_eq_onLine (Or.inl hp.indenting)
  rw [entries_toIndent hne (hline ▸ hp.onLine n), hline]

theorem items_onLine {vs : List Json} (hne : vs ≠ []) (hp : BehindText p) :
    p.items n vs = (p.onLine n).items n vs := by
  have hline : p.toIndent n = p.onLine n := toIndent_eq_onLine (Or.inl hp.indenting)
  rw [items_toIndent hne (hline ▸ hp.onLine n), hline]

/-- A key and its colon. -/
theorem key_lays (hs : KeyText s) (hp : AtIndent n p) :
    p.Adds (s ++ [':']) ((p.text false false (n + 2) s).indicator [':'] false false) ∧
      BehindText ((p.text false false (n + 2) s).indicator [':'] false false) ∧
      ((p.text false false (n + 2) s).indicator [':'] false false).blank = false := by
  have hne : s.isEmpty = false := by
    obtain ⟨x, v, rfl, -⟩ := hs.opensPlain
    rfl
  have htext : p.text false false (n + 2) s = p.inText.put s := by
    rw [text, Style.ofText, if_pos hs.plain]
    simp [plain, hne, hp.blank, plainChars_unfolded]
  rw [htext]
  refine ⟨?_, indicator_behindText _ _ _, rfl⟩
  simp [indicator, Adds, put, inText]

/-- A dash, and the space behind it. -/
theorem dash_lays (hp : AtIndent n p) :
    p.Adds ['-', ' '] ((p.indicator ['-'] true true).toIndent (n + 2)) ∧
      AtIndent (n + 2) ((p.indicator ['-'] true true).toIndent (n + 2)) := by
  obtain ⟨written, column, blank, indenting, openEnded⟩ := p
  obtain ⟨rfl, rfl, rfl, rfl⟩ := hp
  have hdash : (Pen.indicator ['-'] true true ⟨written, column, true, true, false⟩) =
      ⟨'-' :: written, column + 1, false, true, false⟩ := rfl
  have hspace : (Pen.toIndent (column + 2) ⟨'-' :: written, column + 1, false, true, false⟩) =
      ⟨' ' :: '-' :: written, column + 2, true, true, false⟩ := by
    simp [toIndent, put]
  rw [hdash, hspace]
  exact ⟨rfl, rfl, rfl, rfl, rfl⟩

end Pen

/-- The pen lays a piece out in a block of some indentation. -/
def Piece.Lays (n : Nat) : Piece → Prop
  | .value v => ∀ p : Pen, p.BehindText → p.blank = false →
      ∃ w, p.Adds w (p.node .entry (some n) v) ∧ Layout n (.value v) w ∧
        (p.node .entry (some n) v).BehindText
  | .entries es => es ≠ [] → ∀ p : Pen, p.AtIndent n →
      ∃ w, p.Adds w (p.entries n es) ∧ Layout n (.entries es) w ∧ (p.entries n es).BehindText
  | .items vs => vs ≠ [] → ∀ p : Pen, p.AtIndent n →
      ∃ w, p.Adds w (p.items n vs) ∧ Layout n (.items vs) w ∧ (p.items n vs).BehindText

/-- The entries of an object that stands as an item of a sequence. -/
theorem Piece.Lays.item {n : Nat} {es : List (String × Json)} (h : (Piece.entries es).Lays (n + 2))
    (hne : es ≠ []) {p : Pen} (hp : p.AtIndent n) :
    ∃ w, p.Adds ('-' :: ' ' :: w) ((p.indicator ['-'] true true).node .item (some n) (.object es)) ∧
      Layout (n + 2) (.entries es) w ∧
      ((p.indicator ['-'] true true).node .item (some n) (.object es)).BehindText := by
  obtain ⟨hdash, hat⟩ := Pen.dash_lays hp
  obtain ⟨w, hadds, hlayout, hbehind⟩ := h hne _ hat
  have hnode : (p.indicator ['-'] true true).node .item (some n) (.object es) =
      ((p.indicator ['-'] true true).toIndent (n + 2)).entries (n + 2) es := by
    rw [Pen.node, if_neg (by simpa using hne), ← Pen.entries_toIndent hne hat]
    rfl
  rw [hnode]
  exact ⟨w, hdash.trans hadds, hlayout, hbehind⟩

/-- Every block is laid out. -/
theorem Block.lays {n : Nat} {piece : Piece} (h : Block n piece) : piece.Lays n := by
  induction h with
  | text s hn =>
      intro p hp hblank
      rw [Pen.node]
      obtain ⟨w, hadds, hform, hallowed, hbehind⟩ := Pen.text_lays hn s.toList hp hblank
      exact ⟨' ' :: w, hadds, .text hform hallowed, hbehind⟩
  | bool b hn =>
      intro p hp hblank
      rw [Pen.node]
      obtain ⟨w, hadds, hform, hallowed, hbehind⟩ :=
        @Pen.plain_lays p _ (truthWord b) hn (by cases b <;> decide) hp hblank
      exact ⟨' ' :: w, hadds, .bool hform hallowed, hbehind⟩
  | @object n es hne _ _ ih =>
      intro p hp hblank
      rw [Pen.node, if_neg (by simpa using hne)]
      obtain ⟨w, hadds, hlayout, hbehind⟩ := ih hne (p.onLine (n + 2)) (hp.onLine _)
      rw [show Pen.inner (some n) = n + 2 from rfl, Pen.entries_onLine hne hp]
      exact ⟨nextLine (n + 2) w, (Pen.adds_onLine _ p).trans hadds, .object hlayout, hbehind⟩
  | @array n vs hne _ ih =>
      intro p hp hblank
      rw [Pen.node, if_neg (by simpa using hne)]
      obtain ⟨w, hadds, hlayout, hbehind⟩ := ih hne (p.onLine n) (hp.onLine _)
      simp only [hp.indenting, decide_true, Bool.not_false, Bool.and_self, if_true,
        Option.getD_some, Pen.items_onLine hne hp]
      exact ⟨nextLine n w, (Pen.adds_onLine _ p).trans hadds, .array hlayout, hbehind⟩
  | noEntries => exact fun h => absurd rfl h
  | @entry n key v rest hkey _ _ ih ih' =>
      intro _ p hp
      rw [Pen.entries, hp.toIndent, if_pos hkey.simple]
      obtain ⟨hadds, hbehind, hblank⟩ := Pen.key_lays hkey hp
      obtain ⟨w, hadds', hlayout, hbehind'⟩ := ih _ hbehind hblank
      cases rest with
      | nil =>
          rw [Pen.entries]
          refine ⟨key.toList ++ ':' :: w, ?_, .lastEntry hkey hlayout, hbehind'⟩
          simpa using hadds.trans hadds'
      | cons e rest =>
          obtain ⟨u, hadds'', hlayout', hbehind''⟩ := ih' (by simp) _ (hbehind'.onLine n)
          rw [Pen.entries_onLine (by simp) hbehind']
          refine ⟨key.toList ++ ':' :: (w ++ nextLine n u), ?_, .entry hkey hlayout hlayout',
            hbehind''⟩
          simpa [nextLine] using
            (hadds.trans hadds').trans ((Pen.adds_onLine n _).trans hadds'')
  | noItems => exact fun h => absurd rfl h
  | @item n es rest hne _ _ _ ih ih' =>
      intro _ p hp
      rw [Pen.items, hp.toIndent]
      obtain ⟨w, hadds, hlayout, hbehind⟩ := ih.item hne hp
      cases rest with
      | nil => exact ⟨'-' :: ' ' :: w, hadds, .lastItem hlayout, hbehind⟩
      | cons v rest =>
          obtain ⟨u, hadds', hlayout', hbehind'⟩ := ih' (by simp) _ (hbehind.onLine n)
          rw [Pen.items_onLine (by simp) hbehind]
          refine ⟨'-' :: ' ' :: (w ++ nextLine n u), ?_, .item hlayout hlayout', hbehind'⟩
          simpa [nextLine] using hadds.trans ((Pen.adds_onLine n _).trans hadds')

/-! ## Documents -/

/-- A document that the writer lays out. -/
def IsDocument (doc : Json) : Prop := IsObject 0 doc

namespace Pen

variable {p : Pen} {doc : Json}

/-- A document on its own lines. -/
theorem document_lays {entries : List (String × Json)} (hne : entries ≠ [])
    (h : Block 0 (.entries entries)) (hp : AtIndent 0 p) :
    ∃ w, p.Adds (w ++ ['\n']) (p.document (.object entries)) ∧ Layout 0 (.entries entries) w ∧
      AtIndent 0 (p.document (.object entries)) := by
  obtain ⟨w, hadds, hlayout, hbehind⟩ := h.lays hne p hp
  have hdocument : p.document (.object entries) = (p.entries 0 entries).onLine 0 := by
    rw [document, node, if_neg (by simpa using hne), show inner none = 0 from rfl,
      toIndent_eq_onLine (Or.inl hbehind.indenting)]
  rw [hdocument]
  exact ⟨w, hadds.trans (adds_onLine 0 _), hlayout, hbehind.onLine 0⟩

/-- Behind a marker a mapping begins on a new line. -/
theorem object_onLine {entries : List (String × Json)} (hne : entries ≠ []) (hp : BehindText p) :
    p.document (.object entries) = (p.onLine 0).document (.object entries) := by
  rw [document, document, node, node, if_neg (by simpa using hne), if_neg (by simpa using hne),
    show inner none = 0 from rfl, entries_onLine hne hp]

theorem document_onLine (h : IsDocument doc) (hp : BehindText p) :
    p.document doc = (p.onLine 0).document doc := by
  obtain ⟨hne, -, -⟩ := h
  exact object_onLine hne hp

/-- Documents from the beginning of a line on. -/
theorem laterDocuments_lays {rest : List Json} (hdoc : IsDocument doc)
    (hrest : ∀ d ∈ rest, IsDocument d) (hp : AtIndent 0 p) :
    ∃ w, p.Adds w (laterDocuments rest (p.document doc)) ∧ StreamLayout (doc :: rest) w ∧
      (laterDocuments rest (p.document doc)).openEnded = false := by
  induction rest generalizing doc p with
  | nil =>
      obtain ⟨hne, -, hblock⟩ := hdoc
      obtain ⟨w, hadds, hlayout, hat⟩ := document_lays hne hblock hp
      exact ⟨w ++ nextLine 0 [], hadds, .last hlayout, hat.openEnded⟩
  | cons d rest ih =>
      obtain ⟨hne, -, hblock⟩ := hdoc
      rename_i entries
      obtain ⟨w, hadds, hlayout, hat⟩ := document_lays hne hblock hp
      -- The marker stands on the line that the document in front of it left.
      have hmarker : (p.document (.object entries)).Adds ['-', '-', '-']
          ((p.document (.object entries)).indicator ['-', '-', '-'] true false) := by
        simp [indicator, hat.blank, Adds, put]
      have hbehind := indicator_behindText ['-', '-', '-'] true (p.document (.object entries))
      have hd := hrest d List.mem_cons_self
      obtain ⟨u, hadds', hlayout', hopen⟩ :=
        ih hd (fun e he => hrest e (List.mem_cons_of_mem d he)) (hbehind.onLine 0)
      rw [laterDocuments, hat.toIndent, document_onLine hd hbehind]
      refine ⟨w ++ nextLine 0 ('-' :: '-' :: '-' :: nextLine 0 u), ?_, .more hlayout hlayout',
        hopen⟩
      simpa [nextLine] using
        (hadds.trans hmarker).trans ((adds_onLine 0 _).trans hadds')

end Pen

/-- The text of documents is a layout of them. -/
theorem render_lays {docs : List Json} (hne : docs ≠ []) (h : ∀ doc ∈ docs, IsDocument doc) :
    StreamLayout docs (render docs).toList := by
  obtain ⟨doc, rest, rfl⟩ := List.exists_cons_of_ne_nil hne
  obtain ⟨w, hadds, hlayout, hopen⟩ := Pen.laterDocuments_lays (h doc List.mem_cons_self)
    (fun d hd => h d (List.mem_cons_of_mem doc hd)) (p := Pen.start) ⟨rfl, rfl, rfl, rfl⟩
  have hrender : (render (doc :: rest)).toList = w := by
    rw [render]
    simp only [hopen]
    rw [String.toList_ofList, if_neg Bool.false_ne_true, hadds]
    simp [Pen.start]
  rw [hrender]
  exact hlayout

end RoleGrants.Yaml
