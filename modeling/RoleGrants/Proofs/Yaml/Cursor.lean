import RoleGrants.Yaml.Style

/-!
# Moves of the cursor

Where the cursor stands after the moves of the reader, by what the text begins with: over characters
of a line, over a line break with the indentation behind it, and over a run of characters that pass
a test. Line breaks are those the writer makes; it never leaves a carriage return in a text.
-/

namespace RoleGrants.Yaml

/-- The character that a written line break reads as. -/
def unifiedBreak (b : Char) : Char := if b = '\x85' then '\n' else b

/-- Whether a character takes a column and nothing else. -/
def isLineChar (c : Char) : Bool := !isBreak c && c ≠ byteOrderMark

theorem isBreak_of_isTextBreak {b : Char} (h : isTextBreak b) : isBreak b := by
  simp only [isTextBreak, Bool.or_eq_true, decide_eq_true_eq] at h
  rcases h with ((rfl | rfl) | rfl) | rfl <;> rfl

theorem ne_carriageReturn_of_isTextBreak {b : Char} (h : isTextBreak b) : b ≠ '\r' := by
  rintro rfl
  exact absurd h (by decide)

theorem isLineChar_space : isLineChar ' ' := by decide

/-! ## Words -/

/-- Whether a text begins with something else than a blank or a line break. -/
def OpensWord (t : List Char) : Prop := ∀ x ∈ t.head?, isGap x = false

theorem OpensWord.nil : OpensWord [] := fun _ h => nomatch h

theorem opensWord_cons {x : Char} {t : List Char} : OpensWord (x :: t) ↔ isGap x = false :=
  ⟨fun h => h x rfl, fun h _ hy => Option.some.inj hy ▸ h⟩

/-- What opens a word also does so in front of something else that does. -/
theorem OpensWord.append {w t : List Char} (hw : OpensWord w) (ht : OpensWord t) :
    OpensWord (w ++ t) := by
  cases w with
  | nil => exact ht
  | cons x w => exact opensWord_cons.mpr (opensWord_cons.mp hw)

section Gap

variable {x : Char} (h : isGap x = false)

include h

theorem ne_space_of_not_gap : x ≠ ' ' := by rintro rfl; exact absurd h (by decide)

theorem ne_tab_of_not_gap : x ≠ '\t' := by rintro rfl; exact absurd h (by decide)

theorem ne_endMark_of_not_gap : x ≠ endMark := by rintro rfl; exact absurd h (by decide)

theorem not_isBreak_of_not_gap : isBreak x = false := by
  simp only [isGap, isSpaceOrEnd, isBreakOrEnd, Bool.or_eq_false_iff] at h
  exact h.2.2.2

end Gap

theorem isGap_of_isTextBreak {b : Char} (h : isTextBreak b) : isGap b := by
  simp [isGap, isSpaceOrEnd, isBreakOrEnd, isBreak_of_isTextBreak h]

theorem OpensWord.head?_ne_space {t : List Char} (h : OpensWord t) : t.head? ≠ some ' ' :=
  fun e => ne_space_of_not_gap (h ' ' e) rfl

namespace Cursor

variable {c : Cursor} {w t : List Char} {x : Char} {p : Char → Bool}

/-! ## What is left -/

theorem peekAt_eq (c : Cursor) (n : Nat) : c.peekAt n = c.rest.getD n endMark := rfl

theorem peek_of_rest (h : c.rest = x :: t) : c.peek = x := by simp [peek, peekAt, h]

theorem peek_of_nil (h : c.rest = []) : c.peek = endMark := by simp [peek, peekAt, h]

theorem rest_advance (c : Cursor) : c.advance.rest = c.rest.tail := by
  cases h : c.rest <;> simp [advance, h]

theorem rest_advanceBy (n : Nat) (c : Cursor) : (c.advanceBy n).rest = c.rest.drop n := by
  induction n generalizing c with
  | zero => rfl
  | succ n ih => simp [advanceBy, ih, rest_advance]

/-! ## Lines -/

theorem advance_of_lineChar (h : c.rest = x :: t) (hx : isLineChar x) :
    c.advance = ⟨t, c.index + 1, c.line, c.column + 1⟩ := by
  obtain ⟨rest, index, line, column⟩ := c
  obtain rfl : rest = x :: t := h
  have hb : isBreak x = false := by simpa [isLineChar] using (Bool.and_eq_true_iff.mp hx).1
  have hm : x ≠ byteOrderMark := by simpa [isLineChar, hb] using hx
  have hr : x ≠ '\r' := by rintro rfl; exact absurd hb (by decide)
  simp [advance, hb, hm, hr]

theorem column_le_advance (h : c.rest = x :: t) (hx : isBreak x = false) :
    c.column ≤ c.advance.column := by
  have hr : x ≠ '\r' := by rintro rfl; exact absurd hx (by decide)
  have hbreaks : (x ≠ '\r' && isBreak x || x = '\r' && t.head? ≠ some '\n') = false := by
    simp [hx, hr]
  simp only [advance, h, hbreaks]
  rw [if_neg Bool.false_ne_true]
  split
  · exact Nat.le_refl _
  · exact Nat.le_succ _

/-- Characters of a line take a column each. -/
theorem advanceBy_of_lineChars (h : c.rest = w ++ t) (hw : ∀ x ∈ w, isLineChar x) :
    c.advanceBy w.length = ⟨t, c.index + w.length, c.line, c.column + w.length⟩ := by
  induction w generalizing c with
  | nil => subst h; rfl
  | cons x w ih =>
    have hx := advance_of_lineChar h (hw x List.mem_cons_self)
    rw [List.length_cons, advanceBy, hx, ih rfl fun y hy => hw y (List.mem_cons_of_mem x hy)]
    simp only [Cursor.mk.injEq, true_and]
    omega

theorem advance_of_break (h : c.rest = x :: t) (hx : isTextBreak x) :
    c.advance = ⟨t, c.index + 1, c.line + 1, 0⟩ := by
  obtain ⟨rest, index, line, column⟩ := c
  obtain rfl : rest = x :: t := h
  simp [advance, ne_carriageReturn_of_isTextBreak hx, isBreak_of_isTextBreak hx]

theorem lineBreak?_of_break (h : c.rest = x :: t) (hx : isTextBreak x) :
    c.lineBreak? = some (unifiedBreak x, ⟨t, c.index + 1, c.line + 1, 0⟩) := by
  have hp := peek_of_rest h
  rw [← advance_of_break h hx]
  simp only [isTextBreak, Bool.or_eq_true, decide_eq_true_eq] at hx
  rcases hx with ((rfl | rfl) | rfl) | rfl <;> simp [lineBreak?, hp, isBreak, unifiedBreak]

theorem lineBreak?_of_not_break (h : isBreak c.peek = false) : c.lineBreak? = none := by
  simp [lineBreak?, h]

theorem lineBreak?_of_opensWord (h : OpensWord c.rest) : c.lineBreak? = none := by
  apply lineBreak?_of_not_break
  cases hr : c.rest with
  | nil => rw [peek_of_nil hr]; rfl
  | cons x t => rw [peek_of_rest hr]; exact not_isBreak_of_not_gap (h x (by rw [hr]; rfl))

/-! ## Runs -/

theorem span_of_append (h : c.rest = w ++ t) (hw : ∀ x ∈ w, p x) (ht : ∀ x ∈ t.head?, ¬ p x) :
    c.span p = (w, c.advanceBy w.length) := by
  have htake : t.takeWhile p = [] := by
    cases t with
    | nil => rfl
    | cons x t => exact List.takeWhile_cons_of_neg (ht x rfl)
  have hrun : c.rest.takeWhile p = w := by
    rw [h, List.takeWhile_append_of_pos hw, htake, List.append_nil]
  simp [span, hrun]

theorem span_eq_self (h : ∀ x ∈ c.rest.head?, ¬ p x) : c.span p = ([], c) :=
  span_of_append (w := []) rfl (by simp) h

/-- Spaces up to something else are moved over. -/
theorem span_spaces {k : Nat} (h : c.rest = List.replicate k ' ' ++ t) (hp : p ' ')
    (ht : ∀ x ∈ t.head?, ¬ p x) :
    c.span p = (List.replicate k ' ', ⟨t, c.index + k, c.line, c.column + k⟩) := by
  have hw : ∀ x ∈ List.replicate k ' ', x = ' ' := fun x hx => List.eq_of_mem_replicate hx
  rw [span_of_append h (fun x hx => hw x hx ▸ hp) ht,
    advanceBy_of_lineChars h fun x hx => hw x hx ▸ isLineChar_space, List.length_replicate]

theorem skipSpaces_of_spaces {k : Nat} (h : c.rest = List.replicate k ' ' ++ t)
    (ht : t.head? ≠ some ' ') : c.skipSpaces = ⟨t, c.index + k, c.line, c.column + k⟩ := by
  have hspan := span_spaces (p := (· = ' ')) h (by decide) (by
    rintro x hx hp
    exact ht (by rw [Option.mem_def.mp hx, of_decide_eq_true hp]))
  rw [skipSpaces, skip, hspan]

theorem skipSpaces_eq_self (h : c.rest.head? ≠ some ' ') : c.skipSpaces = c := by
  rw [skipSpaces_of_spaces (k := 0) (t := c.rest) rfl h]
  rfl

theorem skipComment_eq_self (h : c.rest.head? ≠ some '#') : c.skipComment = c := by
  have hp : c.peek ≠ '#' := by
    cases hr : c.rest with
    | nil => rw [peek_of_nil hr]; decide
    | cons x t => rw [peek_of_rest hr]; rintro rfl; exact h (by rw [hr]; rfl)
  simp [skipComment, hp]

/-! ## Separators -/

/-- A line that begins with something else than a hyphen or a dot separates nothing. -/
theorem atSeparator_eq_false (h : c.rest.head? ≠ some '-') (h' : c.rest.head? ≠ some '.') :
    c.atSeparator = false := by
  cases hr : c.rest with
  | nil => simp [atSeparator, hr]
  | cons x t =>
    rw [hr] at h h'
    have hx : x ≠ '-' := fun e => h (e ▸ rfl)
    have hx' : x ≠ '.' := fun e => h' (e ▸ rfl)
    simp [atSeparator, hr, hx, hx']

end Cursor

end RoleGrants.Yaml
