import RoleGrants.Proofs.Yaml.Cursor
import RoleGrants.Yaml.Token.Quoted

/-!
# Reading between quotes

`QuotedReads double w s` says that `w` in front of the closing quote reads as `s`, wherever it
stands. There is a rule for each kind of thing that may come next: a character that means itself, an
escape, spaces, and a run of line breaks with the indentation behind it.
-/

namespace RoleGrants.Yaml

/-- The quote that ends a quoted scalar. -/
def quoteMark (double : Bool) : Char := if double then '"' else '\''

theorem opensWord_quoteMark (double : Bool) (t : List Char) :
    OpensWord (quoteMark double :: t) := by
  cases double <;> exact opensWord_cons.mpr (by decide)

theorem ne_quoteMark_of_isTextBreak (double : Bool) {b : Char} (h : isTextBreak b) :
    b ≠ quoteMark double := by
  rintro rfl
  cases double <;> exact absurd h (by decide)

theorem OpensWord.not_blank {t : List Char} (h : OpensWord t) :
    ∀ x ∈ t.head?, ¬ (fun ch : Char => decide (ch = ' ') || decide (ch = '\t')) x = true := by
  intro x hx
  simp [ne_space_of_not_gap (h x hx), ne_tab_of_not_gap (h x hx)]

/-- No blanks stand in front of a line break. -/
theorem span_blanks_of_break {c : Cursor} {b : Char} {t : List Char} (hc : c.rest = b :: t)
    (hb : isTextBreak b) : c.span (fun ch => ch = ' ' || ch = '\t') = ([], c) := by
  apply Cursor.span_eq_self
  rw [hc]
  rintro x ⟨⟩ hx
  simp only [Bool.or_eq_true, decide_eq_true_eq] at hx
  rcases hx with rfl | rfl <;> exact absurd hb (by decide)

/-! ## Blank lines -/

/-- The breaks of a run are read up to the line that has more than indentation. -/
theorem quotedBreaks_run {run t : List Char} {k : Nat} (hrun : ∀ b ∈ run, isTextBreak b)
    (hk : 0 < k) (ht : OpensWord t) {c : Cursor} {n : Nat}
    (hc : c.rest = run ++ (List.replicate k ' ' ++ t)) (hn : run.length < n) :
    ∃ c' : Cursor, c'.rest = t ∧ quotedBreaks n c = .ok (run.map unifiedBreak, c') := by
  induction run generalizing c n with
  | nil =>
      obtain ⟨n, rfl⟩ : ∃ m, n = m + 1 := ⟨n - 1, by omega⟩
      obtain ⟨k, rfl⟩ : ∃ m, k = m + 1 := ⟨k - 1, by omega⟩
      have hsep : c.atSeparator = false := by
        apply Cursor.atSeparator_eq_false <;> rw [hc] <;> simp [List.replicate_succ]
      have hspan := Cursor.span_spaces hc rfl ht.not_blank
      refine ⟨⟨t, c.index + (k + 1), c.line, c.column + (k + 1)⟩, rfl, ?_⟩
      have hnone : (⟨t, c.index + (k + 1), c.line, c.column + (k + 1)⟩ : Cursor).lineBreak? =
          none := Cursor.lineBreak?_of_opensWord ht
      simp [quotedBreaks, hsep, Cursor.skip, hspan, hnone]
  | cons b run ih =>
      obtain ⟨n, rfl⟩ : ∃ m, n = m + 1 := ⟨n - 1, by omega⟩
      have hb : isTextBreak b := hrun b List.mem_cons_self
      have hsep : c.atSeparator = false := by
        apply Cursor.atSeparator_eq_false <;> rw [hc] <;> rintro ⟨⟩ <;> exact absurd hb (by decide)
      have hc : c.rest = b :: (run ++ (List.replicate k ' ' ++ t)) := hc
      obtain ⟨c', hc', hread⟩ := ih (fun x hx => hrun x (List.mem_cons_of_mem b hx))
        (c := ⟨run ++ (List.replicate k ' ' ++ t), c.index + 1, c.line + 1, 0⟩) rfl
        (Nat.lt_of_succ_lt_succ hn)
      refine ⟨c', hc', ?_⟩
      rw [quotedBreaks, hsep, Cursor.skip, span_blanks_of_break hc hb]
      simp only [Bool.false_eq_true, if_false, Cursor.lineBreak?_of_break hc hb, hread]
      rfl

/-! ## Steps -/

/-- At a cursor the next thing reads as a text, and reading goes on at another. -/
def QuotedSteps (double : Bool) (c : Cursor) (text : List Char) (c' : Cursor) : Prop :=
  ∀ fuel, quotedText double (fuel + 1) c =
    (quotedText double fuel c').bind fun r => .ok (text ++ r.1, r.2)

/-- Text in front of the closing quote reads as another text. -/
def QuotedReads (double : Bool) (w s : List Char) : Prop :=
  ∀ ⦃c : Cursor⦄ ⦃tail : List Char⦄ ⦃fuel : Nat⦄, c.rest = w ++ quoteMark double :: tail →
    tail.head? ≠ some '\'' → w.length < fuel →
    ∃ c' : Cursor, c'.rest = tail ∧ quotedText double fuel c = .ok (s, c')

/-- What reads in one step goes in front of what reads as a whole. -/
theorem QuotedReads.of_steps {double : Bool} {w s : List Char} (h : QuotedReads double w s)
    (pre text : List Char) (hpre : pre ≠ [])
    (hstep : ∀ (c : Cursor) (tail : List Char), c.rest = pre ++ (w ++ quoteMark double :: tail) →
      ∃ c', c'.rest = w ++ quoteMark double :: tail ∧ QuotedSteps double c text c') :
    QuotedReads double (pre ++ w) (text ++ s) := by
  intro c tail fuel hc htail hfuel
  obtain ⟨fuel, rfl⟩ : ∃ n, fuel = n + 1 := ⟨fuel - 1, by omega⟩
  obtain ⟨c₁, hc₁, hsteps⟩ := hstep c tail (by rw [hc, List.append_assoc])
  have hlen : 0 < pre.length := List.length_pos_iff.mpr hpre
  obtain ⟨c', hc', hread⟩ := h hc₁ htail (by
    rw [List.length_append] at hfuel
    exact Nat.lt_of_succ_lt_succ (Nat.lt_of_le_of_lt (by omega) hfuel))
  exact ⟨c', hc', by rw [hsteps, hread]; rfl⟩

variable {double : Bool} {w s : List Char}

theorem QuotedReads.nil (double : Bool) : QuotedReads double [] [] := by
  intro c tail fuel hc htail hfuel
  obtain ⟨fuel, rfl⟩ : ∃ n, fuel = n + 1 := ⟨fuel - 1, by simp at hfuel; omega⟩
  have hnext : c.peekAt 1 ≠ '\'' := by
    rw [Cursor.peekAt_eq, hc]
    cases tail with
    | nil => show endMark ≠ '\''; decide
    | cons x tail => exact fun e => htail (congrArg some e)
  refine ⟨c.advance, by rw [Cursor.rest_advance, hc]; rfl, ?_⟩
  rw [quotedText, Cursor.peek_of_rest hc]
  cases double <;> simp [quoteMark, hnext]

/-- Whether a character between quotes means itself. -/
def meansItself (double : Bool) (x : Char) : Bool :=
  x ≠ quoteMark double && !isGap x && !(double && x = '\\')

theorem quotedSteps_char {c : Cursor} {x : Char} {t : List Char} (hc : c.rest = x :: t)
    (hx : meansItself double x) : QuotedSteps double c [x] c.advance := by
  intro fuel
  simp only [meansItself, Bool.and_eq_true, Bool.not_eq_true', decide_eq_true_eq] at hx
  obtain ⟨⟨hmark, hgap⟩, hslash⟩ := hx
  have hend : isBreakOrEnd x = false := by
    simp [isBreakOrEnd, not_isBreak_of_not_gap hgap, ne_endMark_of_not_gap hgap]
  simp only [quoteMark] at hmark
  rw [quotedText, Cursor.peek_of_rest hc]
  simp only [hmark, hslash, hend, ne_space_of_not_gap hgap, ne_tab_of_not_gap hgap, if_false,
    decide_false, Bool.or_false, Bool.false_eq_true]
  rfl

theorem QuotedReads.char {x : Char} (h : QuotedReads double w s) (hx : meansItself double x) :
    QuotedReads double (x :: w) (x :: s) := by
  refine h.of_steps [x] [x] (by simp) fun c tail hc => ?_
  exact ⟨c.advance, by rw [Cursor.rest_advance, hc]; rfl, quotedSteps_char hc hx⟩

/-- A quote that is written twice. -/
theorem QuotedReads.quote (h : QuotedReads false w s) :
    QuotedReads false ('\'' :: '\'' :: w) ('\'' :: s) := by
  refine h.of_steps ['\'', '\''] ['\''] (by simp) fun c tail hc => ?_
  refine ⟨c.advanceBy 2, by rw [Cursor.rest_advanceBy, hc]; rfl, fun fuel => ?_⟩
  have hnext : c.peekAt 1 = '\'' := by rw [Cursor.peekAt_eq, hc]; rfl
  rw [quotedText, Cursor.peek_of_rest hc]
  simp only [hnext]
  rfl

/-- Spaces in front of a word. -/
theorem QuotedReads.spaces (h : QuotedReads double w s) (hw : OpensWord w) (k : Nat) :
    QuotedReads double (List.replicate (k + 1) ' ' ++ w) (List.replicate (k + 1) ' ' ++ s) := by
  refine h.of_steps (List.replicate (k + 1) ' ') (List.replicate (k + 1) ' ')
    (by simp [List.replicate_succ]) fun c tail hc => ?_
  have hword := hw.append (opensWord_quoteMark double tail)
  have hspan := Cursor.span_spaces hc rfl hword.not_blank
  obtain ⟨x, t, ht⟩ := List.exists_cons_of_ne_nil (l := w ++ quoteMark double :: tail) (by simp)
  rw [ht] at hc hword hspan ⊢
  have hx := opensWord_cons.mp hword
  have hmark : ¬ ' ' = if double then '"' else '\'' := by cases double <;> decide
  have hpeek := Cursor.peek_of_rest (c := ⟨x :: t, c.index + (k + 1), c.line, c.column + (k + 1)⟩)
    rfl
  have hnone := Cursor.lineBreak?_of_opensWord
    (c := ⟨x :: t, c.index + (k + 1), c.line, c.column + (k + 1)⟩) hword
  refine ⟨⟨x :: t, c.index + (k + 1), c.line, c.column + (k + 1)⟩, rfl, fun fuel => ?_⟩
  rw [quotedText, Cursor.peek_of_rest (x := ' ') hc, hspan]
  simp only [hmark, hnone, if_false, decide_true, Bool.true_or, if_true, hpeek,
    ne_endMark_of_not_gap hx]
  rfl

/-- A run of line breaks, folded. -/
theorem QuotedReads.breaks (h : QuotedReads double w s) (hw : OpensWord w) {b : Char}
    {run : List Char} (hb : isTextBreak b) (hrun : ∀ x ∈ run, isTextBreak x) {k : Nat}
    (hk : 0 < k) :
    QuotedReads double (b :: run ++ List.replicate k ' ' ++ w)
      (folded (unifiedBreak b) (run.map unifiedBreak) ++ s) := by
  refine h.of_steps (b :: run ++ List.replicate k ' ')
    (folded (unifiedBreak b) (run.map unifiedBreak)) (by simp) fun c tail hc => ?_
  have hc : c.rest = b :: (run ++ (List.replicate k ' ' ++ (w ++ quoteMark double :: tail))) := by
    simpa using hc
  have hbreak := Cursor.lineBreak?_of_break hc hb
  obtain ⟨c', hc', hread⟩ := quotedBreaks_run hrun hk (hw.append (opensWord_quoteMark double tail))
    (c := ⟨run ++ (List.replicate k ' ' ++ (w ++ quoteMark double :: tail)), c.index + 1,
      c.line + 1, 0⟩)
    (n := (run ++ (List.replicate k ' ' ++ (w ++ quoteMark double :: tail))).length + 1) rfl
    (Nat.lt_succ_of_le (by rw [List.length_append]; exact Nat.le_add_right ..))
  refine ⟨c', hc', fun fuel => ?_⟩
  have hmark : ¬ b = if double then '"' else '\'' := ne_quoteMark_of_isTextBreak double hb
  have hend : b ≠ endMark := by rintro rfl; exact absurd hb (by decide)
  rw [quotedText, Cursor.peek_of_rest hc, span_blanks_of_break hc hb]
  simp only [hmark, hbreak, hread, isBreakOrEnd, isBreak_of_isTextBreak hb, if_false,
    Bool.or_true, if_true, Cursor.peek_of_rest hc, hend]
  rfl

/-- A single line break reads as a space. -/
theorem QuotedReads.foldedLine (h : QuotedReads double w s) (hw : OpensWord w) {k : Nat}
    (hk : 0 < k) : QuotedReads double ('\n' :: List.replicate k ' ' ++ w) (' ' :: s) :=
  @QuotedReads.breaks double w s h hw '\n' [] (by decide) (fun _ hx => nomatch hx) k hk

/-- A text that reads as another, both behind the same number of spaces. -/
def SpacedReads (double : Bool) (w s : List Char) : Prop :=
  ∃ k v t, w = List.replicate k ' ' ++ v ∧ s = List.replicate k ' ' ++ t ∧ OpensWord v ∧
    QuotedReads double v t

theorem SpacedReads.of_reads (h : QuotedReads double w s) (hw : OpensWord w) :
    SpacedReads double w s := ⟨0, w, s, rfl, rfl, hw, h⟩

theorem SpacedReads.space (h : SpacedReads double w s) :
    SpacedReads double (' ' :: w) (' ' :: s) := by
  obtain ⟨k, v, t, rfl, rfl, hv, hreads⟩ := h
  exact ⟨k + 1, v, t, rfl, rfl, hv, hreads⟩

theorem SpacedReads.reads (h : SpacedReads double w s) : QuotedReads double w s := by
  obtain ⟨k, v, t, rfl, rfl, hv, hreads⟩ := h
  cases k with
  | zero => exact hreads
  | succ k => exact hreads.spaces hv k

/-! ## Escapes -/

/-- An escape of one letter. -/
theorem QuotedReads.letter {letter x : Char} (h : QuotedReads true w s)
    (hx : escapeLetters.lookup letter = some x) :
    QuotedReads true ('\\' :: letter :: w) (x :: s) := by
  refine h.of_steps ['\\', letter] [x] (by simp) fun c tail hc => ?_
  have hc₁ : c.advance.rest = letter :: (w ++ quoteMark true :: tail) := by
    rw [Cursor.rest_advance, hc]; rfl
  refine ⟨c.advance.advance, by rw [Cursor.rest_advance, hc₁]; rfl, fun fuel => ?_⟩
  rw [quotedText, Cursor.peek_of_rest hc]
  simp only [Cursor.peek_of_rest hc₁, hx]
  rfl

/-- An escape that spells the number of a character. -/
theorem QuotedReads.number {letter x : Char} {digits : List Char} (h : QuotedReads true w s)
    (hletter : escapeLetters.lookup letter = none)
    (hwidth : escapeWidth letter = some digits.length)
    (hdigits : digits.all isHexDigit) (hvalue : hexValue digits = x.toNat) :
    QuotedReads true ('\\' :: letter :: digits ++ w) (x :: s) := by
  refine h.of_steps ('\\' :: letter :: digits) [x] (by simp) fun c tail hc => ?_
  have hc₁ : c.advance.rest = letter :: (digits ++ (w ++ quoteMark true :: tail)) := by
    rw [Cursor.rest_advance, hc]; simp
  refine ⟨c.advance.advanceBy (digits.length + 1), ?_, fun fuel => ?_⟩
  · rw [Cursor.rest_advanceBy, hc₁, List.drop_succ_cons, List.drop_left]
  have hsmall : x.toNat < 0x110000 := by
    rcases x.valid with hx | hx
    · exact Nat.lt_trans hx (by decide)
    · exact hx.2
  have htaken : (c.advance.rest.drop 1).take digits.length = digits := by
    rw [hc₁, List.drop_succ_cons, List.drop_zero, List.take_left]
  rw [quotedText, Cursor.peek_of_rest hc]
  simp only [Cursor.peek_of_rest hc₁, hletter, hwidth, htaken, hvalue, hdigits]
  rw [if_neg (by decide), if_neg (by decide), if_pos (by decide), if_neg (by simp),
    if_neg (by omega), if_neg (by omega), Char.ofNat_toNat]
  rfl

/-- A line break behind a backslash, which nothing is read for. -/
theorem QuotedReads.hiddenBreak (h : QuotedReads true w s) (hw : OpensWord w) {k : Nat}
    (hk : 0 < k) : QuotedReads true ('\\' :: '\n' :: List.replicate k ' ' ++ w) s := by
  refine h.of_steps ('\\' :: '\n' :: List.replicate k ' ') [] (by simp)
    fun c tail hc => ?_
  have hc₁ : c.advance.rest = '\n' :: (List.replicate k ' ' ++ (w ++ quoteMark true :: tail)) := by
    rw [Cursor.rest_advance, hc]; simp
  have hbreak := Cursor.lineBreak?_of_break hc₁ (by decide)
  obtain ⟨c', hc', hread⟩ := quotedBreaks_run (fun b (hb : b ∈ ([] : List Char)) => nomatch hb) hk
    (hw.append (opensWord_quoteMark true tail))
    (c := ⟨List.replicate k ' ' ++ (w ++ quoteMark true :: tail), c.advance.index + 1,
      c.advance.line + 1, 0⟩)
    (n := (List.replicate k ' ' ++ (w ++ quoteMark true :: tail)).length + 1) rfl (Nat.succ_pos _)
  refine ⟨c', hc', fun fuel => ?_⟩
  rw [quotedText, Cursor.peek_of_rest (x := '\\') hc]
  simp only [Cursor.peek_of_rest hc₁, hbreak, hread]
  rfl

end RoleGrants.Yaml
