import Mathlib.Data.List.Basic
import RoleGrants.Selector.Matching
import RoleGrants.Text.Blank

/-!
# The query language of the cluster

A cluster that is sent a query reads it on its own terms: the text is split at the commas that
stand outside of parentheses, each piece is a term that asks something of one label, and a namespace
is selected when it satisfies all terms.  The empty query has no terms and selects everything.

This is the other end of what a selector writes.  Nothing in a text keeps the pieces apart but its
characters, and so reading gives back what was written only where keys and values are label text:
`read_joined`.
-/

namespace RoleGrants.Query

open RoleGrants.Text

/-! ## Terms -/

/-- What a piece of a query asks of the labels of a namespace. -/
inductive Term where
  | equals (key value : String)
  | among (key : String) (values : List String)
  | notAmong (key : String) (values : List String)
  | present (key : String)
  | absent (key : String)
  deriving DecidableEq, Repr

/-- Whether labels satisfy a term.  A label that is absent is not among any values. -/
def Term.holds (labels : Labels) : Term → Bool
  | .equals key value => labels.get? key == some value
  | .among key values => (labels.get? key).any values.contains
  | .notAmong key values => !(labels.get? key).any values.contains
  | .present key => (labels.get? key).isSome
  | .absent key => (labels.get? key).isNone

/-! ## Reading -/

/-- Puts text in front of the first of some pieces. -/
def attach (w : List Char) : List (List Char) → List (List Char)
  | [] => [w]
  | piece :: more => (w ++ piece) :: more

/-- How deep the text behind a character lies in parentheses. -/
def depthBehind (depth : Nat) (c : Char) : Nat :=
  if c = '(' then depth + 1 else if c = ')' then depth - 1 else depth

/-- The pieces of a text between the commas that stand outside of parentheses. -/
def splitOutside (depth : Nat) : List Char → List (List Char)
  | [] => [[]]
  | c :: rest =>
    if c = ',' ∧ depth = 0 then [] :: splitOutside depth rest
    else attach [c] (splitOutside (depthBehind depth c) rest)

/-- The pieces of a query. -/
def pieces (query : List Char) : List (List Char) :=
  if query.isEmpty then [] else splitOutside 0 query

/-- The values of a list in parentheses, behind the words that open it. -/
def values? (opening : String) (s : List Char) : Option (List String) :=
  ((s.dropPrefix? opening.toList).bind (·.dropSuffix? [')'])).map fun inner =>
    (inner.splitOn ',').map String.ofList

/-- Whether a character belongs to the key that a piece begins with. -/
def isKeyChar (c : Char) : Bool := c ≠ '=' && c ≠ ' '

/-- The term that a key is with what stands behind it. -/
def Term.readBehind (key : String) (rest : List Char) : Option Term :=
  if rest = [] then some (.present key)
  else if rest.head? = some '=' then some (.equals key (String.ofList rest.tail))
  else
    match values? " in (" rest with
    | some values => some (.among key values)
    | none => (values? " notin (" rest).map (.notAmong key)

/-- The term that a piece is. -/
def Term.read (piece : List Char) : Option Term :=
  if piece.head? = some '!' then some (.absent (String.ofList piece.tail))
  else Term.readBehind (String.ofList (piece.takeWhile isKeyChar)) (piece.dropWhile isKeyChar)

/-- The terms of a query, if all of its pieces are terms. -/
def read (query : String) : Option (List Term) := (pieces query.toList).mapM Term.read

/-- The namespaces of a table that a query selects, in the order of the table. -/
def select? (query : String) (table : List (String × Labels)) : Option (List String) :=
  (read query).map fun terms => (table.filter fun n => terms.all (Term.holds n.2)).map (·.1)

/-! ## Label text -/

/-- Whether a character may stand in the key or the value of a label. -/
def isLabelChar (c : Char) : Bool := !([',', '(', ')', '=', '!'].contains c) && !isBlank c

/-- Text that is the key or the value of a label. -/
def IsLabelText (s : String) : Prop := s ≠ "" ∧ ∀ c ∈ s.toList, isLabelChar c

instance (s : String) : Decidable (IsLabelText s) :=
  decidable_of_iff (s ≠ "" ∧ s.toList.all isLabelChar) (and_congr_right fun _ => List.all_eq_true)

theorem IsLabelText.toList_ne_nil {s : String} (h : IsLabelText s) : s.toList ≠ [] := by
  intro hnil
  exact h.1 (String.toList_eq_nil_iff.1 hnil)

/-- A character with a meaning in the language of queries is in no label text. -/
theorem IsLabelText.not_mem {s : String} (h : IsLabelText s) {c : Char}
    (hc : isLabelChar c = false) : c ∉ s.toList := by
  intro hmem
  rw [h.2 c hmem] at hc
  cases hc

theorem IsLabelText.isKeyChar {s : String} (h : IsLabelText s) : ∀ c ∈ s.toList, isKeyChar c := by
  intro c hc
  have heq : c ≠ '=' := fun e => h.not_mem (c := '=') (by decide) (e ▸ hc)
  have hspace : c ≠ ' ' := fun e => h.not_mem (c := ' ') (by decide) (e ▸ hc)
  simp [Query.isKeyChar, heq, hspace]

/-- A piece that begins with label text begins with no exclamation mark. -/
theorem IsLabelText.head?_ne {s : String} (h : IsLabelText s) (rest : List Char) :
    (s.toList ++ rest).head? ≠ some '!' := by
  have hbang := h.not_mem (c := '!') (by decide)
  cases hs : s.toList with
  | nil => exact absurd hs h.toList_ne_nil
  | cons c cs =>
      rw [hs] at hbang
      rintro ⟨⟩
      exact hbang List.mem_cons_self

/-! ## Writing -/

/-- The text of values between parentheses. -/
def valuesText (values : List String) : List Char := [','].intercalate (values.map String.toList)

/-- The text of a term. -/
def Term.text : Term → List Char
  | .equals key value => key.toList ++ '=' :: value.toList
  | .among key values => key.toList ++ (" in (".toList ++ (valuesText values ++ [')']))
  | .notAmong key values => key.toList ++ (" notin (".toList ++ (valuesText values ++ [')']))
  | .present key => key.toList
  | .absent key => '!' :: key.toList

/-- A term with keys and values that are label text; values are only compared with if there are
any. -/
def Term.Legible : Term → Prop
  | .equals key value => IsLabelText key ∧ IsLabelText value
  | .among key values | .notAmong key values =>
    IsLabelText key ∧ values ≠ [] ∧ ∀ v ∈ values, IsLabelText v
  | .present key | .absent key => IsLabelText key

/-! ## Reading back what was written -/

/-- A piece that begins with a key is read by what stands behind the key. -/
theorem Term.read_append {key : String} (h : IsLabelText key) (rest : List Char)
    (hrest : ∀ c ∈ rest.head?, isKeyChar c = false) :
    Term.read (key.toList ++ rest) = Term.readBehind key rest := by
  have htake : (key.toList ++ rest).takeWhile isKeyChar = key.toList := by
    rw [List.takeWhile_append_of_pos h.isKeyChar]
    cases rest with
    | nil => simp
    | cons c rest => simp [hrest c rfl]
  have hdrop : (key.toList ++ rest).dropWhile isKeyChar = rest := by
    rw [List.dropWhile_append_of_pos h.isKeyChar]
    cases rest with
    | nil => rfl
    | cons c rest => simp [hrest c rfl]
  rw [Term.read, if_neg (h.head?_ne rest), htake, hdrop, String.ofList_toList]

theorem dropPrefix?_append (p s : List Char) : (p ++ s).dropPrefix? p = some s :=
  List.dropPrefix?_eq_some_iff.2 ⟨p, rfl, beq_self_eq_true p⟩

theorem dropSuffix?_append (p s : List Char) : (p ++ s).dropSuffix? s = some p :=
  List.dropSuffix?_eq_some_iff.2 ⟨s, rfl, beq_self_eq_true s⟩

/-- Values are found again behind the words that open their list. -/
theorem values?_append (opening : String) {values : List String} (hne : values ≠ [])
    (h : ∀ v ∈ values, IsLabelText v) :
    values? opening (opening.toList ++ (valuesText values ++ [')'])) = some values := by
  have hcomma : ∀ v ∈ values.map String.toList, ',' ∉ v := by
    intro v hv
    obtain ⟨value, hvalue, rfl⟩ := List.mem_map.1 hv
    exact (h value hvalue).not_mem (by decide)
  have hsplit : (valuesText values).splitOn ',' = values.map String.toList :=
    List.splitOn_intercalate ',' hcomma (by simpa using hne)
  unfold values?
  rw [dropPrefix?_append, Option.bind_some, dropSuffix?_append, Option.map_some, hsplit]
  simp [Function.comp_def]

/-- A term with legible parts is read as itself. -/
theorem Term.read_text {t : Term} (h : t.Legible) : Term.read t.text = some t := by
  cases t with
  | absent key => simp [Term.read, Term.text]
  | present key =>
      have hread := Term.read_append h [] (by simp)
      rwa [List.append_nil] at hread
  | equals key value =>
      have hread := Term.read_append h.1 ('=' :: value.toList) (by simp [isKeyChar])
      exact hread.trans (by simp [Term.readBehind])
  | among key values =>
      obtain ⟨hkey, hne, hvalues⟩ := h
      have hin := values?_append " in (" hne hvalues
      rw [Term.text, Term.read_append hkey _ (by simp [isKeyChar]), Term.readBehind, hin]
      simp
  | notAmong key values =>
      obtain ⟨hkey, hne, hvalues⟩ := h
      have hnotin := values?_append " notin (" hne hvalues
      have hin : values? " in (" (" notin (".toList ++ (valuesText values ++ [')'])) = none :=
        rfl
      rw [Term.text, Term.read_append hkey _ (by simp [isKeyChar]), Term.readBehind, hin, hnotin]
      simp

/-! ## Splitting what was joined -/

theorem attach_attach (v w : List Char) (ps : List (List Char)) :
    attach v (attach w ps) = attach (v ++ w) ps := by
  cases ps <;> simp [attach]

theorem splitOutside_ne_nil (depth : Nat) (s : List Char) : splitOutside depth s ≠ [] := by
  cases s with
  | nil => simp [splitOutside]
  | cons c rest =>
      rw [splitOutside]
      split
      · simp
      · cases splitOutside (depthBehind depth c) rest <;> simp [attach]

/-- Text without parentheses belongs to the first piece, if it has no comma that separates. -/
theorem splitOutside_append {depth : Nat} {w : List Char}
    (h : ∀ c ∈ w, c ≠ '(' ∧ c ≠ ')' ∧ (c = ',' → depth ≠ 0)) (rest : List Char) :
    splitOutside depth (w ++ rest) = attach w (splitOutside depth rest) := by
  induction w with
  | nil =>
      cases hs : splitOutside depth rest with
      | nil => exact absurd hs (splitOutside_ne_nil depth rest)
      | cons piece more => simp [attach, hs]
  | cons c w ih =>
      obtain ⟨hopen, hclose, hcomma⟩ := h c List.mem_cons_self
      have hkeep : ¬(c = ',' ∧ depth = 0) := fun hsep => hcomma hsep.1 hsep.2
      have hdepth : depthBehind depth c = depth := by simp [depthBehind, hopen, hclose]
      rw [List.cons_append, splitOutside, if_neg hkeep, hdepth,
        ih fun c' hc' => h c' (List.mem_cons_of_mem c hc'), attach_attach]
      rfl

/-- A text that is never split, whatever stands behind it. -/
def IsWhole (w : List Char) : Prop :=
  ∀ rest, splitOutside 0 (w ++ rest) = attach w (splitOutside 0 rest)

/-- Pieces that are whole come apart again at the commas that join them. -/
theorem splitOutside_joined {ps : List (List Char)} (hne : ps ≠ []) (h : ∀ p ∈ ps, IsWhole p) :
    splitOutside 0 ([','].intercalate ps) = ps := by
  induction ps with
  | nil => exact absurd rfl hne
  | cons p rest ih =>
      have hp : IsWhole p := h p List.mem_cons_self
      cases rest with
      | nil =>
          have hsplit := hp []
          rw [List.append_nil] at hsplit
          rw [List.intercalate_singleton, hsplit]
          simp [splitOutside, attach]
      | cons q more =>
          have hrest := ih (by simp) fun r hr => h r (List.mem_cons_of_mem p hr)
          rw [List.intercalate_cons_cons, List.append_assoc, hp]
          simp [splitOutside, attach, hrest]

/-- Label text begins a piece. -/
theorem IsLabelText.isWhole_append {s : String} (h : IsLabelText s) {w : List Char}
    (hw : ∀ c ∈ w, c ≠ '(' ∧ c ≠ ')' ∧ c ≠ ',') : IsWhole (s.toList ++ w) := by
  refine fun rest => splitOutside_append (fun c hc => ?_) rest
  rcases List.mem_append.1 hc with hc | hc
  · refine ⟨?_, ?_, ?_⟩ <;> rintro rfl <;> exact absurd hc (h.not_mem (by decide))
  · exact ⟨(hw c hc).1, (hw c hc).2.1, fun e => absurd e (hw c hc).2.2⟩

/-- What is in joined values is a comma or is in a value. -/
theorem mem_valuesText {values : List String} {c : Char} (h : c ∈ valuesText values) :
    c = ',' ∨ ∃ v ∈ values, c ∈ v.toList := by
  unfold valuesText at h
  induction values with
  | nil => simp at h
  | cons v rest ih =>
      cases rest with
      | nil => exact .inr ⟨v, by simp, by simpa using h⟩
      | cons w more =>
          simp only [List.map_cons, List.intercalate_cons_cons, List.mem_append,
            List.mem_singleton] at h ih
          rcases h with (h | h) | h
          · exact .inr ⟨v, by simp, h⟩
          · exact .inl h
          · rcases ih h with h | ⟨v', hv', h⟩
            · exact .inl h
            · exact .inr ⟨v', List.mem_cons_of_mem v hv', h⟩

theorem IsWhole.append {v w : List Char} (hv : IsWhole v) (hw : IsWhole w) : IsWhole (v ++ w) := by
  intro rest
  rw [List.append_assoc, hv, hw, attach_attach]

/-- Text between parentheses is never split, if it has no parentheses of its own. -/
theorem isWhole_parenthesised {inner : List Char} (h : ∀ c ∈ inner, c ≠ '(' ∧ c ≠ ')') :
    IsWhole ('(' :: (inner ++ [')'])) := by
  have hinside : ∀ c ∈ inner, c ≠ '(' ∧ c ≠ ')' ∧ (c = ',' → 1 ≠ 0) := fun c hc =>
    ⟨(h c hc).1, (h c hc).2, fun _ => Nat.one_ne_zero⟩
  intro rest
  rw [List.cons_append, List.append_assoc]
  -- The parenthesis opens a level, and the one behind the text closes it.
  have hopen : splitOutside 0 ('(' :: (inner ++ ([')'] ++ rest))) =
      attach ['('] (splitOutside 1 (inner ++ ([')'] ++ rest))) := rfl
  have hclose : splitOutside 1 ([')'] ++ rest) = attach [')'] (splitOutside 0 rest) := rfl
  rw [hopen, splitOutside_append hinside, hclose]
  simp only [attach_attach, List.cons_append, List.nil_append]

/-- Values without parentheses are together without parentheses. -/
theorem not_paren_of_mem_valuesText {values : List String}
    (h : ∀ v ∈ values, ∀ c ∈ v.toList, c ≠ '(' ∧ c ≠ ')') :
    ∀ c ∈ valuesText values, c ≠ '(' ∧ c ≠ ')' := by
  intro c hc
  rcases mem_valuesText hc with rfl | ⟨v, hv, hcv⟩
  · decide
  · exact h v hv c hcv

/-- Values between parentheses are never split. -/
theorem isWhole_listed {key : String} (hkey : IsLabelText key) (opening : List Char)
    (hopening : opening.all fun c => c ≠ '(' ∧ c ≠ ')' ∧ c ≠ ',') {values : List String}
    (h : ∀ v ∈ values, IsLabelText v) :
    IsWhole (key.toList ++ (opening ++ '(' :: (valuesText values ++ [')']))) := by
  have hplain : ∀ c ∈ opening, c ≠ '(' ∧ c ≠ ')' ∧ c ≠ ',' := by simpa using hopening
  have hvalues : ∀ c ∈ valuesText values, c ≠ '(' ∧ c ≠ ')' :=
    not_paren_of_mem_valuesText fun v hv c hcv => by
      constructor <;> rintro rfl <;> exact absurd hcv ((h v hv).not_mem (by decide))
  rw [← List.append_assoc]
  exact (hkey.isWhole_append hplain).append (isWhole_parenthesised hvalues)

theorem Term.isWhole_text {t : Term} (h : t.Legible) : IsWhole t.text := by
  cases t with
  | absent key =>
      intro rest
      have hkey := IsLabelText.isWhole_append h (w := []) (by simp)
      rw [List.append_nil] at hkey
      rw [Term.text, List.cons_append, splitOutside, if_neg (by decide)]
      exact (congrArg (attach ['!']) (hkey rest)).trans (attach_attach _ _ _)
  | present key =>
      have hkey := IsLabelText.isWhole_append h (w := []) (by simp)
      rwa [List.append_nil] at hkey
  | equals key value =>
      refine IsLabelText.isWhole_append h.1 fun c hc => ?_
      rcases List.mem_cons.1 hc with rfl | hc
      · decide
      · refine ⟨?_, ?_, ?_⟩ <;> rintro rfl <;> exact absurd hc (h.2.not_mem (by decide))
  | among key values =>
      obtain ⟨hkey, -, hvalues⟩ := h
      exact isWhole_listed hkey [' ', 'i', 'n', ' '] (by decide) hvalues
  | notAmong key values =>
      obtain ⟨hkey, -, hvalues⟩ := h
      exact isWhole_listed hkey [' ', 'n', 'o', 't', 'i', 'n', ' '] (by decide) hvalues

theorem Term.text_ne_nil {t : Term} (h : t.Legible) : t.text ≠ [] := by
  cases t with
  | absent key => simp [Term.text]
  | present key => exact IsLabelText.toList_ne_nil h
  | equals key value => simp [Term.text]
  | among key values | notAmong key values => simp [Term.text]

theorem mapM_read_text {ts : List Term} (h : ∀ t ∈ ts, t.Legible) :
    (ts.map Term.text).mapM Term.read = some ts := by
  induction ts with
  | nil => rfl
  | cons t rest ih =>
      rw [List.map_cons, List.mapM_cons, Term.read_text (h t List.mem_cons_self),
        ih fun t' ht' => h t' (List.mem_cons_of_mem t ht')]
      rfl

/-- Terms with legible parts, joined by commas, are read as themselves. -/
theorem read_joined {ts : List Term} (h : ∀ t ∈ ts, t.Legible) {query : String}
    (hquery : query.toList = [','].intercalate (ts.map Term.text)) : read query = some ts := by
  unfold read pieces
  rw [hquery]
  cases ts with
  | nil => simp
  | cons t rest =>
      have hwhole : ∀ p ∈ (t :: rest).map Term.text, IsWhole p := by
        intro p hp
        obtain ⟨t', ht', rfl⟩ := List.mem_map.1 hp
        exact Term.isWhole_text (h t' ht')
      have hsome : ([','].intercalate ((t :: rest).map Term.text)).isEmpty = false := by
        have hne := Term.text_ne_nil (h t List.mem_cons_self)
        cases rest <;> simp [hne]
      rw [hsome, splitOutside_joined (by simp) hwhole]
      exact mapM_read_text h

end RoleGrants.Query
