import RoleGrants.Proofs.Yaml.Writing

/-!
# Documents in a stream do not touch each other

What the pen writes depends on where it is, and not on what it has written before
(`Pen.Blind`, with one lemma for each stroke).  An object is never open at its end, so behind it the
pen stands at the beginning of a line as it did at the start.  Hence nothing of a document reaches
the next one: the text of objects is the text of each of them on its own, one behind the other with
a marker line between them, and so is the text of a stream that is split anywhere
(`render_eq_intercalate`, `render_flatten`).
-/

namespace RoleGrants.Yaml

namespace Pen

/-! ## Moves that do not look back -/

/-- The pen with a text in front of all that is written. -/
def after (w : List Char) (p : Pen) : Pen := { p with written := p.written ++ w.reverse }

/-- A move that is the same whatever was written before, and leaves no document open that was not
open. -/
structure Blind (f : Pen → Pen) : Prop where
  after : ∀ (w : List Char) (p : Pen), f (p.after w) = (f p).after w
  closed : ∀ p : Pen, p.openEnded = false → (f p).openEnded = false

namespace Blind

variable {f g : Pen → Pen}

theorem id : Blind fun p => p := ⟨fun _ _ => rfl, fun _ h => h⟩

theorem comp (hg : Blind g) (hf : Blind f) : Blind fun p => g (f p) where
  after w p := by rw [hf.after, hg.after]
  closed p h := hg.closed _ (hf.closed p h)

/-- A choice that what was written has no part in. -/
theorem choice {c : Pen → Prop} [DecidablePred c]
    (hc : ∀ (w : List Char) (p : Pen), c (p.after w) ↔ c p) (hf : Blind f) (hg : Blind g) :
    Blind fun p => if c p then f p else g p where
  after w p := by
    by_cases h : c p
    · rw [if_pos h, if_pos ((hc w p).mpr h), hf.after]
    · rw [if_neg h, if_neg (mt (hc w p).mp h), hg.after]
  closed p h := by
    by_cases hp : c p
    · rw [if_pos hp]
      exact hf.closed p h
    · rw [if_neg hp]
      exact hg.closed p h

/-- What was written stays, for it is in front of all that is written later. -/
theorem length_le (hf : Blind f) (p : Pen) : p.written.length ≤ (f p).written.length := by
  have hp : p = ({ p with written := [] } : Pen).after p.written.reverse := by simp [Pen.after]
  rw [hp, hf.after]
  simp [Pen.after]

/-- A choice between two indentations that what was written has no part in. -/
theorem choiceOf {c : Pen → Prop} [DecidablePred c]
    (hc : ∀ (w : List Char) (p : Pen), c (p.after w) ↔ c p) {f : Nat → Pen → Pen}
    (hf : ∀ n, Blind (f n)) (m n : Nat) : Blind fun p => f (if c p then m else n) p := by
  have hsplit : (fun p => f (if c p then m else n) p) = fun p => if c p then f m p else f n p := by
    funext p
    split <;> rfl
  rw [hsplit]
  exact choice hc (hf m) (hf n)

end Blind

/-! ## Strokes -/

theorem put_blind (s : List Char) : Blind (put s) where
  after w p := by simp [put, Pen.after]
  closed _ h := h

theorem breakLine_blind (b : Char) : Blind (breakLine b) := ⟨fun _ _ => rfl, fun _ h => h⟩

theorem inText_blind : Blind inText := ⟨fun _ _ => rfl, fun _ h => h⟩

theorem toIndent_blind (indent : Nat) : Blind (toIndent indent) := by
  have hspaces : Blind fun p =>
      { p.put (List.replicate (indent - p.column) ' ') with blank := true } :=
    ⟨fun w p => by simp [put, Pen.after], fun _ h => h⟩
  have hin : Blind fun p => if p.column < indent then
      { p.put (List.replicate (indent - p.column) ' ') with blank := true } else p :=
    .choice (fun _ _ => Iff.rfl) hspaces .id
  exact hin.comp (.choice (fun _ _ => Iff.rfl) (breakLine_blind '\n') .id)

theorem indicator_blind (s : List Char) (spaced indents : Bool) :
    Blind (indicator s spaced indents) := by
  have hend : Blind fun p =>
      { p with blank := false, indenting := p.indenting && indents, openEnded := false } :=
    ⟨fun _ _ => rfl, fun _ _ => rfl⟩
  exact hend.comp (.choice (fun _ _ => Iff.rfl) (put_blind s) (put_blind (' ' :: s)))

theorem indicator_ne_nil {s : List Char} (hs : s ≠ []) (spaced indents : Bool) (p : Pen) :
    0 < (p.indicator s spaced indents).written.length := by
  have hpos : 0 < s.length := List.length_pos_iff.mpr hs
  unfold indicator
  dsimp only
  split
  · simp only [put, List.length_append, List.length_reverse]
    omega
  · simp [put]

/-! ## Scalars -/

theorem plainChars_blind (fold : Bool) (indent : Nat) (previous : Char) (s : List Char) :
    Blind (plainChars fold indent previous s) := by
  induction s generalizing previous with
  | nil => exact .id
  | cons c rest ih =>
      exact .choice (fun _ _ => Iff.rfl) ((ih c).comp (inText_blind.comp (toIndent_blind indent)))
        ((ih c).comp (put_blind [c]))

theorem plain_blind (fold : Bool) (indent : Nat) (s : List Char) :
    Blind (plain false fold indent s) := by
  cases s with
  | nil => exact .id
  | cons c rest =>
      exact (plainChars_blind fold indent 'x' (c :: rest)).comp (inText_blind.comp
        (.choice (fun _ _ => Iff.rfl) .id (put_blind [' '])))

theorem singleChars_blind (fold : Bool) (indent : Nat) (previous : Option Char) (s : List Char) :
    Blind (singleChars fold indent previous s) := by
  induction s generalizing previous with
  | nil => exact .id
  | cons c rest ih =>
      have hbreaks : Blind fun p =>
          if (rest.head?.map isTextBreak).getD false then p.breakLine c
          else (p.breakLine c).toIndent indent :=
        .choice (fun _ _ => Iff.rfl) (breakLine_blind c)
          ((toIndent_blind indent).comp (breakLine_blind c))
      refine (ih (some c)).comp (.choice (fun _ _ => Iff.rfl) ?spaced (.choice (fun _ _ => Iff.rfl)
        ?broken (.choice (fun _ _ => Iff.rfl) (put_blind ['\'', '\'']) (put_blind [c]))))
      case spaced => exact .choice (fun _ _ => Iff.rfl) (toIndent_blind indent) (put_blind [c])
      case broken =>
        exact hbreaks.comp (.choice (fun _ _ => Iff.rfl) (breakLine_blind '\n') .id)

theorem single_blind (fold : Bool) (indent : Nat) (s : List Char) :
    Blind (single fold indent s) :=
  (indicator_blind ['\''] false false).comp
    ((singleChars_blind fold indent none s).comp (indicator_blind ['\''] true false))

theorem foldDouble_blind (indent : Nat) (next : Option Char) : Blind (foldDouble indent next) :=
  Blind.comp (g := fun p => if next = some ' ' then p.put ['\\'] else p)
    (.choice (fun _ _ => Iff.rfl) (put_blind ['\\']) .id)
    (inText_blind.comp ((toIndent_blind indent).comp (put_blind ['\\'])))

theorem doubleChars_blind (fold : Bool) (indent : Nat) (first escaped : Bool) (s : List Char) :
    Blind (doubleChars fold indent first escaped s) := by
  induction s generalizing first escaped with
  | nil => exact .id
  | cons c rest ih =>
      show Blind fun p => doubleChars fold indent first escaped (c :: rest) p
      simp only [doubleChars]
      cases escape? c with
      | some text =>
          have hfold : Blind fun p =>
              if fold && !first && !rest.isEmpty && width + 1 < p.column then
                p.foldDouble indent rest.head?
              else p :=
            .choice (fun _ _ => Iff.rfl) (foldDouble_blind indent rest.head?) .id
          exact (ih false true).comp (hfold.comp (put_blind text))
      | none =>
          exact (ih false false).comp ((put_blind [c]).comp
            (.choice (fun _ _ => Iff.rfl) (foldDouble_blind indent (some c)) .id))

theorem double_blind (fold : Bool) (indent : Nat) (s : List Char) :
    Blind (double fold indent s) :=
  (indicator_blind ['"'] false false).comp
    ((doubleChars_blind fold indent true false s).comp (indicator_blind ['"'] true false))

theorem text_blind (fold : Bool) (indent : Nat) (s : List Char) :
    Blind (text false fold indent s) := by
  unfold text
  cases Style.ofText s with
  | plain => exact plain_blind fold indent s
  | single => exact single_blind fold indent s
  | double => exact double_blind fold indent s

/-! ## Nodes -/

/-- A key with its colon. -/
def key (indent : Nat) (s : List Char) (p : Pen) : Pen :=
  if isSimpleKey s then (p.text false false (indent + 2) s).indicator [':'] false false
  else
    (((p.indicator ['?'] true true).text false true (indent + 2) s).toIndent indent).indicator
      [':'] true true

theorem key_blind (indent : Nat) (s : List Char) : Blind (key indent s) :=
  .choice (fun _ _ => Iff.rfl)
    ((indicator_blind [':'] false false).comp (text_blind false (indent + 2) s))
    ((indicator_blind [':'] true true).comp ((toIndent_blind indent).comp
      ((text_blind true (indent + 2) s).comp (indicator_blind ['?'] true true))))

theorem key_ne_nil (indent : Nat) (s : List Char) (p : Pen) :
    0 < (p.key indent s).written.length := by
  unfold key
  split
  · exact indicator_ne_nil (by simp) _ _ _
  · exact indicator_ne_nil (by simp) _ _ _

/-- An entry is a key with its value. -/
theorem entries_cons (indent : Nat) (s : String) (v : Json) (rest : List (String × Json))
    (p : Pen) : p.entries indent ((s, v) :: rest) =
      (((p.toIndent indent).key indent s.toList).node .entry (some indent) v).entries indent
        rest := rfl

/-- An empty collection. -/
theorem brackets_blind (opening closing : Char) : Blind fun p =>
    (p.indicator [opening] true false).indicator [closing] false false :=
  (indicator_blind [closing] false false).comp (indicator_blind [opening] true false)

/-- A sequence; where it begins depends on whether anything stands on the line. -/
theorem array_blind (place : Place) (indent : Option Nat) {values : List Json}
    (h : ∀ n, Blind (items n values)) : Blind (node place indent (.array values)) := by
  show Blind fun p => node place indent (.array values) p
  simp only [node]
  by_cases hempty : values.isEmpty
  · simp only [if_pos hempty]
    exact brackets_blind '[' ']'
  · simp only [if_neg hempty]
    exact .choiceOf (fun _ _ => Iff.rfl) h _ _

/-- A mapping, also one that is a document. -/
theorem object_blind (place : Place) (indent : Option Nat) {values : List (String × Json)}
    (h : ∀ n, Blind (entries n values)) : Blind (node place indent (.object values)) := by
  show Blind fun p => node place indent (.object values) p
  simp only [node]
  by_cases hempty : values.isEmpty
  · simp only [if_pos hempty]
    exact brackets_blind '\x7b' '\x7d'
  · simp only [if_neg hempty]
    exact h (inner indent)

mutual

/-- Every node inside of a document. -/
theorem node_blind {place : Place} (hplace : place ≠ .root) (indent : Option Nat) (v : Json) :
    Blind (node place indent v) := by
  have hroot : decide (place = .root) = false := decide_eq_false hplace
  cases v with
  | null | bool | int | float =>
      show Blind fun p => node place indent _ p
      simp only [node, hroot]
      exact plain_blind _ _ _
  | text s =>
      show Blind fun p => node place indent (.text s) p
      simp only [node, hroot]
      exact text_blind true (hanging indent) s.toList
  | array values => exact array_blind place indent fun n => items_blind n values
  | object values => exact object_blind place indent fun n => entries_blind n values

theorem items_blind (indent : Nat) (values : List Json) : Blind (items indent values) := by
  cases values with
  | nil => exact .id
  | cons v rest =>
      exact (items_blind indent rest).comp ((node_blind (by decide) (some indent) v).comp
        ((indicator_blind ['-'] true true).comp (toIndent_blind indent)))

theorem entries_blind (indent : Nat) (values : List (String × Json)) :
    Blind (entries indent values) := by
  match values with
  | [] => exact .id
  | (s, v) :: rest =>
      exact (entries_blind indent rest).comp ((node_blind (by decide) (some indent) v).comp
        ((key_blind indent s.toList).comp (toIndent_blind indent)))

end

/-! ## Documents -/

/-- Behind the end of a line, with no document open, the pen is where it was at the start. -/
theorem toIndent_zero {p : Pen} (h : p.openEnded = false) :
    p.toIndent 0 = start.after (p.toIndent 0).written.reverse := by
  obtain ⟨written, column, blank, indenting, openEnded⟩ := p
  obtain rfl : openEnded = false := h
  by_cases hline : indenting = true ∧ column = 0 ∧ blank = true
  · obtain ⟨rfl, rfl, rfl⟩ := hline
    simp [toIndent, start, after]
  · have hbreak : (!indenting || decide (0 < column) || (column = 0 && !blank)) = true := by
      cases indenting <;> cases blank <;> simp_all [Nat.pos_iff_ne_zero]
    simp [toIndent, hbreak, breakLine, start, after]

theorem document_blind (entries : List (String × Json)) : Blind (document (.object entries)) :=
  (toIndent_blind 0).comp (object_blind .root none fun n => entries_blind n entries)

/-- What is written of a document on its own. -/
def page (doc : Json) : List Char := (start.document doc).written.reverse

/-- A mapping that is not empty has a key written. -/
theorem page_ne_nil {entries : List (String × Json)} (hne : entries ≠ []) :
    page (.object entries) ≠ [] := by
  obtain ⟨⟨s, v⟩, rest, rfl⟩ := List.exists_cons_of_ne_nil hne
  have hkey := key_ne_nil 0 s.toList (start.toIndent 0)
  have hplace : Place.entry ≠ .root := by
    rintro ⟨⟩
  have hnode := (node_blind hplace (some 0) v).length_le ((start.toIndent 0).key 0 s.toList)
  have hrest := (entries_blind 0 rest).length_le
    (((start.toIndent 0).key 0 s.toList).node .entry (some 0) v)
  have hline := (toIndent_blind 0).length_le (start.entries 0 ((s, v) :: rest))
  rw [entries_cons] at hline
  have hpos : 0 < (page (.object ((s, v) :: rest))).length := by
    rw [page, List.length_reverse, document]
    exact Nat.lt_of_lt_of_le hkey (hnode.trans (hrest.trans hline))
  exact List.length_pos_iff.mp hpos

/-- The line between two documents. -/
def markerLine : List Char := ['-', '-', '-', '\n']

theorem document_start (entries : List (String × Json)) (w : List Char) :
    (start.after w).document (.object entries) = start.after (w ++ page (.object entries)) := by
  have hopen : (node .root none (.object entries) start).openEnded = false :=
    (object_blind .root none fun n => entries_blind n entries).closed start rfl
  have hpage : start.document (.object entries) = start.after (page (.object entries)) :=
    toIndent_zero hopen
  rw [(document_blind entries).after w start, hpage]
  simp [after]

/-- Behind a marker a mapping is written as it is at the start. -/
theorem document_marker {entries : List (String × Json)} (hne : entries ≠ []) (w : List Char) :
    (((start.after w).toIndent 0).indicator ['-', '-', '-'] true false).document (.object entries) =
      start.after (w ++ (markerLine ++ page (.object entries))) := by
  have hmarker : (((start.after w).toIndent 0).indicator ['-', '-', '-'] true false).onLine 0 =
      start.after (w ++ markerLine) := by
    simp [onLine, indicator, toIndent, after, start, put, markerLine]
  rw [object_onLine hne (indicator_behindText _ _ _), hmarker, document_start, List.append_assoc]

end Pen

/-- A mapping that is not empty. -/
def HasEntries (doc : Json) : Prop := ∃ entries, entries ≠ [] ∧ doc = .object entries

/-- Later documents add a marker line and a page each. -/
theorem laterDocuments_start {docs : List Json} (h : ∀ doc ∈ docs, HasEntries doc)
    (w : List Char) : Pen.laterDocuments docs (Pen.start.after w) =
      Pen.start.after (w ++ docs.flatMap fun doc => Pen.markerLine ++ Pen.page doc) := by
  induction docs generalizing w with
  | nil => simp [Pen.laterDocuments]
  | cons doc rest ih =>
      obtain ⟨⟨entries, hne, rfl⟩, hrest⟩ := List.forall_mem_cons.mp h
      rw [Pen.laterDocuments, Pen.document_marker hne, ih hrest, List.flatMap_cons]
      simp

/-! ## Streams -/

/-- A stream is the page of its first document, and a marker line and a page for each other one. -/
theorem render_cons {doc : Json} {rest : List Json} (h : ∀ d ∈ doc :: rest, HasEntries d) :
    render (doc :: rest) =
      String.ofList (Pen.page doc ++ rest.flatMap fun d => Pen.markerLine ++ Pen.page d) := by
  obtain ⟨⟨entries, -, rfl⟩, hrest⟩ := List.forall_mem_cons.mp h
  have hfirst :
      Pen.start.document (.object entries) = Pen.start.after (Pen.page (.object entries)) :=
    Pen.document_start entries []
  rw [render, hfirst, laterDocuments_start hrest]
  -- No document is open at the end, so no end mark is written.
  simp [Pen.after, Pen.start]

theorem render_singleton {doc : Json} (h : HasEntries doc) :
    render [doc] = String.ofList (Pen.page doc) := by
  rw [render_cons (List.forall_mem_singleton.mpr h)]
  simp

/-- The text of documents is the text of each of them, with marker lines between. -/
theorem render_eq_intercalate {docs : List Json} (h : ∀ doc ∈ docs, HasEntries doc) :
    render docs = "---\n".intercalate (docs.map fun doc => render [doc]) := by
  induction docs with
  | nil => simp [render]
  | cons doc rest ih =>
      obtain ⟨hdoc, hrest⟩ := List.forall_mem_cons.mp h
      cases rest with
      | nil => simp
      | cons d rest =>
          have hlater := ih hrest
          rw [List.map_cons] at hlater
          rw [List.map_cons, List.map_cons, String.intercalate_cons_cons, ← hlater, render_cons h,
            render_singleton hdoc, render_cons hrest]
          apply String.toList_injective
          simp [Pen.markerLine]

/-- Only of no documents the text is empty. -/
theorem render_eq_empty_iff {docs : List Json} (h : ∀ doc ∈ docs, HasEntries doc) :
    render docs = "" ↔ docs = [] := by
  cases docs with
  | nil => simp [render]
  | cons doc rest =>
      obtain ⟨entries, hne, rfl⟩ := h doc List.mem_cons_self
      have hpage := Pen.page_ne_nil hne
      rw [render_cons h]
      simp [← String.toList_inj, hpage]

/-- The text of documents that stand in several lists is the text of each list, the empty ones left
out, with marker lines between. -/
theorem render_flatten {groups : List (List Json)}
    (h : ∀ docs ∈ groups, ∀ doc ∈ docs, HasEntries doc) :
    render groups.flatten = "---\n".intercalate ((groups.map render).filter (· ≠ "")) := by
  induction groups with
  | nil => simp [render]
  | cons docs rest ih =>
      obtain ⟨hdocs, hrest⟩ := List.forall_mem_cons.mp h
      have hflat : ∀ doc ∈ rest.flatten, HasEntries doc := by
        intro doc hdoc
        obtain ⟨group, hgroup, hmem⟩ := List.mem_flatten.mp hdoc
        exact hrest group hgroup doc hmem
      by_cases hempty : docs = []
      · subst hempty
        simpa [render] using ih hrest
      · have hkept : render docs ≠ "" := mt (render_eq_empty_iff hdocs).mp hempty
        rw [List.flatten_cons, List.map_cons, List.filter_cons_of_pos (by simpa using hkept)]
        by_cases hlast : rest.flatten = []
        · have hnone : (rest.map render).filter (· ≠ "") = [] := by
            rw [List.filter_eq_nil_iff, List.forall_mem_map]
            intro group hgroup
            simp [List.flatten_eq_nil_iff.mp hlast group hgroup, render]
          rw [hlast, hnone, List.append_nil, String.intercalate_singleton]
        · have hsome : (rest.map render).filter (· ≠ "") ≠ [] := by
            intro hnone
            have htext := ih hrest
            rw [hnone, String.intercalate_nil, render_eq_empty_iff hflat] at htext
            exact hlast htext
          rw [render_eq_intercalate (List.forall_mem_append.mpr ⟨hdocs, hflat⟩), List.map_append,
            String.intercalate_append_of_ne_nil (by simpa using hempty) (by simpa using hlast),
            ← render_eq_intercalate hdocs, ← render_eq_intercalate hflat, ih hrest,
            String.intercalate_cons_of_ne_nil hsome]

end RoleGrants.Yaml
