import RoleGrants.Proofs.Yaml.Single

/-!
# Texts without quotes

A plain scalar is written as it is, but for single spaces where the line is folded, and it reads as
the same text. It ends where a line begins that is not indented further than its block.

`PlainReads n w s` says that `w`, in a block of indentation `n`, reads as `s` from the middle of a
word on.
-/

namespace RoleGrants.Yaml

/-! ## Words -/

theorem plainWord_cons {x : Char} {t : List Char} (hx : isGap x = false)
    (hcolon : x = ':' → isGap (t.headD endMark) = false) :
    plainWord false (x :: t) = x :: plainWord false t := by
  rw [plainWord, if_neg (by simp [hx]), if_neg, if_neg (by simp)]
  simp only [Bool.false_and, Bool.or_false, Bool.and_eq_true, decide_eq_true_eq, not_and,
    Bool.not_eq_true]
  exact hcolon

theorem plainWord_of_gap {t : List Char} (h : ∀ x ∈ t.head?, isGap x) : plainWord false t = [] := by
  cases t with
  | nil => rfl
  | cons x t => rw [plainWord, if_pos (h x rfl)]

/-- A colon with room behind it ends a word. -/
theorem plainWord_colon {t : List Char} (h : isGap (t.headD endMark)) :
    plainWord false (':' :: t) = [] := by
  rw [plainWord, if_neg (by decide),
    if_pos (by simp only [decide_true, h, Bool.true_or, Bool.true_and])]

/-- Whether a word begins that a plain scalar can go on with. -/
def OpensPlain (w : List Char) : Prop :=
  ∃ x v, w = x :: v ∧ isGap x = false ∧ x ≠ '#' ∧ (x = ':' → ∃ y u, v = y :: u ∧ isGap y = false)

theorem OpensPlain.opensWord {w : List Char} (h : OpensPlain w) (t : List Char) :
    OpensWord (w ++ t) := by
  obtain ⟨x, v, rfl, hx, -⟩ := h
  exact opensWord_cons.mpr hx

theorem OpensPlain.plainWord {w : List Char} (h : OpensPlain w) (t : List Char) :
    plainWord false (w ++ t) ≠ [] := by
  obtain ⟨x, v, rfl, hx, -, hcolon⟩ := h
  rw [List.cons_append, plainWord_cons hx]
  · exact List.cons_ne_nil x _
  · intro hc
    obtain ⟨y, u, rfl, hy⟩ := hcolon hc
    exact hy

theorem OpensPlain.peek {w t : List Char} (h : OpensPlain w) {c : Cursor} (hc : c.rest = w ++ t) :
    c.peek ≠ '#' := by
  obtain ⟨x, v, rfl, -, hx, -⟩ := h
  rw [Cursor.peek_of_rest hc]
  exact hx

/-! ## Gaps -/

theorem plainGap_none {c : Cursor} (h : OpensWord c.rest) : plainGap c = ([], false, c) := by
  have hspan : c.span (· = ' ') = ([], c) :=
    Cursor.span_eq_self fun x hx => by simpa using ne_space_of_not_gap (h x hx)
  simp [plainGap, hspan, Cursor.lineBreak?_of_opensWord h]

/-- Spaces inside a line. -/
theorem plainGap_spaces {c : Cursor} {k : Nat} {t : List Char}
    (hc : c.rest = List.replicate k ' ' ++ t) (ht : OpensWord t) :
    plainGap c = (List.replicate k ' ', false, ⟨t, c.index + k, c.line, c.column + k⟩) := by
  have hspan := Cursor.span_spaces (p := (· = ' ')) hc rfl
    fun x hx => by simpa using ne_space_of_not_gap (ht x hx)
  have hbreak : (⟨t, c.index + k, c.line, c.column + k⟩ : Cursor).lineBreak? = none :=
    Cursor.lineBreak?_of_opensWord ht
  simp [plainGap, hspan, hbreak]

/-- A line break reads as a space, unless a separator follows. -/
theorem plainGap_line {c : Cursor} {k : Nat} {t : List Char}
    (hc : c.rest = '\n' :: (List.replicate k ' ' ++ t)) (ht : OpensWord t) : ∃ next,
    plainGap c = (next, true, ⟨t, c.index + 1 + k, c.line + 1, k⟩) ∧ (0 < k → next = [' ']) := by
  have hspan : c.span (· = ' ') = ([], c) := by
    apply Cursor.span_eq_self
    rw [hc]
    rintro x ⟨⟩
    decide
  have hbreak := Cursor.lineBreak?_of_break hc (by decide)
  generalize hd : (⟨List.replicate k ' ' ++ t, c.index + 1, c.line + 1, 0⟩ : Cursor) = d at hbreak
  have hrest : d.rest = List.replicate k ' ' ++ t := by rw [← hd]
  have hskip : d.skipSpaces = ⟨t, c.index + 1 + k, c.line + 1, k⟩ := by
    rw [Cursor.skipSpaces_of_spaces hrest ht.head?_ne_space, ← hd, Nat.zero_add]
  have hnone : (⟨t, c.index + 1 + k, c.line + 1, k⟩ : Cursor).lineBreak? = none :=
    Cursor.lineBreak?_of_opensWord ht
  by_cases hsep : d.atSeparator
  · have hk : k = 0 := by
      cases k with
      | zero => rfl
      | succ k =>
          rw [Cursor.atSeparator_eq_false] at hsep
          · cases hsep
          all_goals rw [hrest]; simp [List.replicate_succ]
    refine ⟨[], ?_, fun h => absurd hk (Nat.ne_of_gt h)⟩
    subst hk
    rw [plainGap, hspan]
    simp only [hbreak, hsep, if_true]
    rw [← hd]
    rfl
  · refine ⟨[' '], ?_, fun _ => rfl⟩
    rw [plainGap, hspan]
    simp only [hbreak, hsep, plainBreaks, hskip, hnone]
    rfl

/-! ## Reading -/

/-- What is read of a plain scalar from the middle of a word on. -/
def restOfPlain (indent : Int) (fuel : Nat) (c : Cursor) : List Char × Bool × Cursor :=
  let word := plainWord false c.rest
  let (next, lineBroken, c) := plainGap (c.advanceBy word.length)
  if next.isEmpty || c.peek = '#' || (c.column : Int) < indent then (word, lineBroken, c)
  else
    let (more, lineBroken, c) := plainText false indent lineBroken next fuel c
    (word ++ more, lineBroken, c)

/-- At the beginning of a word the reader is as in the middle of it. -/
theorem plainText_of_word {indent : Int} {c : Cursor} (hpeek : c.peek ≠ '#')
    (hword : plainWord false c.rest ≠ []) (lineBroken : Bool) (gap : List Char) (fuel : Nat) :
    plainText false indent lineBroken gap (fuel + 1) c =
      (gap ++ (restOfPlain indent fuel c).1, (restOfPlain indent fuel c).2) := by
  obtain ⟨x, word, hx⟩ := List.exists_cons_of_ne_nil hword
  rw [plainText, if_neg hpeek, restOfPlain, hx]
  simp only [Bool.not_false, Bool.true_and]
  split
  · rfl
  · simp only [List.append_assoc]

/-- In a block of some indentation, text up to a line that is not indented further reads as another
text, the cursor standing inside of a word. -/
def PlainReads (n : Nat) (w s : List Char) : Prop :=
  ∀ ⦃c : Cursor⦄ ⦃k : Nat⦄ ⦃t : List Char⦄ ⦃fuel : Nat⦄,
    c.rest = w ++ '\n' :: (List.replicate k ' ' ++ t) → n < c.column → k ≤ n → OpensWord t →
    w.length < fuel →
    ∃ c' : Cursor, c'.rest = t ∧ c'.column = k ∧ restOfPlain (n + 1) fuel c = (s, true, c')

variable {n : Nat} {w s : List Char}

theorem PlainReads.nil (n : Nat) : PlainReads n [] [] := by
  intro c k t fuel hc _ hk ht _
  obtain ⟨next, hgap, -⟩ := plainGap_line hc ht
  have hword : plainWord false c.rest = [] := plainWord_of_gap (by rw [hc]; rintro x ⟨⟩; decide)
  have hstop : ((k : Int) < n + 1) := by omega
  refine ⟨⟨t, c.index + 1 + k, c.line + 1, k⟩, rfl, rfl, ?_⟩
  rw [restOfPlain, hword]
  simp only [List.length_nil, Cursor.advanceBy, hgap, hstop, decide_true, Bool.or_true, if_true]

/-- A character of a word. -/
theorem PlainReads.char {x : Char} (h : PlainReads n w s) (hx : isGap x = false)
    (hcolon : x = ':' → ∃ y v, w = y :: v ∧ isGap y = false) : PlainReads n (x :: w) (x :: s) := by
  intro c k t fuel hc hcolumn hk ht hfuel
  have hc₁ : c.advance.rest = w ++ '\n' :: (List.replicate k ' ' ++ t) := by
    rw [Cursor.rest_advance, hc]
    rfl
  have hcolumn₁ : n < c.advance.column := Nat.lt_of_lt_of_le hcolumn
    (Cursor.column_le_advance hc (not_isBreak_of_not_gap hx))
  obtain ⟨c', hrest', hcolumn', hread⟩ := h hc₁ hcolumn₁ hk ht (Nat.lt_of_succ_lt hfuel)
  refine ⟨c', hrest', hcolumn', ?_⟩
  have hword : plainWord false c.rest = x :: plainWord false c.advance.rest := by
    rw [hc, hc₁]
    refine plainWord_cons hx fun hx => ?_
    obtain ⟨y, v, rfl, hy⟩ := hcolon hx
    exact hy
  rw [restOfPlain] at hread ⊢
  rw [hword, List.length_cons, Cursor.advanceBy]
  generalize plainGap (Cursor.advanceBy (plainWord false c.advance.rest).length c.advance) = gap
    at hread ⊢
  obtain ⟨next, lineBroken, d⟩ := gap
  dsimp only at hread ⊢
  split at hread
  · next hstop =>
    rw [if_pos hstop]
    exact congrArg (fun r => (x :: r.1, r.2)) hread
  · next hstop =>
    rw [if_neg hstop]
    exact congrArg (fun r => (x :: r.1, r.2)) hread

/-- Between two words a gap is read. -/
theorem PlainReads.gap (h : PlainReads n w s) (hw : OpensPlain w) {pre : List Char}
    (hpre : pre ≠ []) (gap : List Char) (hne : gap ≠ [])
    (hgap : ∀ (c : Cursor) (t : List Char), c.rest = pre ++ t → OpensWord t → n < c.column →
      ∃ (lineBroken : Bool) (d : Cursor), plainGap c = (gap, lineBroken, d) ∧ d.rest = t ∧
        n < d.column ∧ plainWord false c.rest = []) :
    PlainReads n (pre ++ w) (gap ++ s) := by
  intro c k t fuel hc hcolumn hk ht hfuel
  obtain ⟨fuel, rfl⟩ : ∃ m, fuel = m + 1 := ⟨fuel - 1, by omega⟩
  rw [List.append_assoc] at hc
  obtain ⟨lineBroken, d, hgap, hd, hcolumn₁, hword⟩ := hgap c _ hc (hw.opensWord _) hcolumn
  have hlen : 0 < pre.length := List.length_pos_iff.mpr hpre
  obtain ⟨c', hrest', hcolumn', hread⟩ := @h d k t fuel hd hcolumn₁ hk ht (by
    rw [List.length_append] at hfuel
    omega)
  refine ⟨c', hrest', hcolumn', ?_⟩
  have hgo : ¬ ((d.column : Int) < n + 1) := by omega
  rw [restOfPlain, hword]
  simp only [List.length_nil, Cursor.advanceBy, hgap, hgo, hw.peek hd, List.isEmpty_iff, hne,
    decide_false, Bool.or_false, if_false,
    plainText_of_word (hw.peek hd) (hd ▸ hw.plainWord _), hread, List.nil_append]

theorem PlainReads.spaces (h : PlainReads n w s) (hw : OpensPlain w) (k : Nat) :
    PlainReads n (List.replicate (k + 1) ' ' ++ w) (List.replicate (k + 1) ' ' ++ s) := by
  refine h.gap hw (by simp [List.replicate_succ]) _ (by simp [List.replicate_succ])
    fun c t hc ht hcolumn => ⟨_, _, plainGap_spaces hc ht, rfl, Nat.lt_add_right _ hcolumn, ?_⟩
  rw [hc]
  exact plainWord_of_gap (by rintro x ⟨⟩; decide)

theorem PlainReads.foldedLine (h : PlainReads n w s) (hw : OpensPlain w) {k : Nat} (hk : n < k) :
    PlainReads n ('\n' :: List.replicate k ' ' ++ w) (' ' :: s) := by
  refine h.gap hw (by simp) [' '] (by simp) fun c t hc ht _ => ?_
  obtain ⟨next, hgap, hnext⟩ := plainGap_line hc ht
  rw [hnext (Nat.zero_lt_of_lt hk)] at hgap
  refine ⟨_, _, hgap, rfl, hk, ?_⟩
  rw [hc]
  exact plainWord_of_gap (by rintro x ⟨⟩; decide)

/-- A plain scalar is read up to the line that is not indented further, where a key may begin. -/
theorem scanPlain_reads (h : PlainReads n w s) (hw : OpensPlain w) {c : Cursor} {k : Nat}
    {t : List Char} (hc : c.rest = w ++ '\n' :: (List.replicate k ' ' ++ t))
    (hcolumn : n < c.column) (hk : k ≤ n) (ht : OpensWord t) :
    ∃ c' : Cursor, c'.rest = t ∧ c'.column = k ∧
      scanPlain false n c = (.scalar s true, true, c') := by
  obtain ⟨c', hrest, hcolumn', hread⟩ := @h c k t c.rest.length hc hcolumn hk ht (by
    rw [hc, List.length_append, List.length_cons]
    omega)
  refine ⟨c', hrest, hcolumn', ?_⟩
  rw [scanPlain, plainText_of_word (hw.peek hc) (hc ▸ hw.plainWord _), hread]
  rfl

/-! ## Texts that may go without quotes -/

/-- Whether a text may go on a plain scalar from the middle of a word on. -/
structure ContinuesPlain (s : List Char) : Prop where
  printable : ∀ x ∈ s, needsEscape x = false
  oneLine : ∀ x ∈ s, isTextBreak x = false
  ends : s.getLast? ≠ some ' '
  inner : hasInnerIndicator s = false

theorem hasInnerIndicator_of_suffix {t : List Char} (h : hasInnerIndicator t) (u : List Char) :
    hasInnerIndicator (u ++ t) := by
  induction u with
  | nil => exact h
  | cons x u ih => simp [hasInnerIndicator, ih]

namespace ContinuesPlain

variable {x : Char} {t u : List Char}

theorem of_append (h : ContinuesPlain (u ++ t)) : ContinuesPlain t where
  printable x hx := h.printable x (List.mem_append_right u hx)
  oneLine x hx := h.oneLine x (List.mem_append_right u hx)
  ends ht := h.ends (by rw [List.getLast?_append, ht]; rfl)
  inner := Bool.eq_false_iff.mpr fun ht =>
    Bool.eq_false_iff.mp h.inner (hasInnerIndicator_of_suffix ht u)

theorem not_isGap_head (h : ContinuesPlain (x :: t)) (hx : x ≠ ' ') : isGap x = false :=
  not_isGap (h.printable x List.mem_cons_self) hx (h.oneLine x List.mem_cons_self)

/-- Behind a colon stands something that is no gap. -/
theorem colon (h : ContinuesPlain (':' :: t)) : ∃ y u, t = y :: u ∧ isGap y = false := by
  have hinner := h.inner
  simp only [hasInnerIndicator, decide_true, Bool.true_and, Bool.or_eq_false_iff] at hinner
  cases t with
  | nil => exact absurd hinner.1.1 (by decide)
  | cons y u =>
      have hy : y ≠ ' ' := by simpa [spaceFollows] using hinner.1.1
      exact ⟨y, u, rfl, (of_append (u := [':']) h).not_isGap_head hy⟩

/-- Behind spaces stands something that goes on with the scalar. -/
theorem spaces {k : Nat} (h : ContinuesPlain (List.replicate (k + 1) ' ' ++ t))
    (ht : t.head? ≠ some ' ') : ∃ x u, t = x :: u ∧ x ≠ ' ' ∧ x ≠ '#' := by
  cases t with
  | nil => exact absurd (by simp [List.replicate_succ']) h.ends
  | cons x u =>
      refine ⟨x, u, rfl, fun hx => ht (by rw [hx]; rfl), ?_⟩
      rintro rfl
      rw [List.replicate_succ', List.append_assoc] at h
      exact absurd h.of_append.inner (by simp [hasInnerIndicator])

end ContinuesPlain

/-- Whether a text has the form of a plain scalar, whatever it means. -/
def hasPlainForm (s : List Char) : Bool :=
  !s.isEmpty && !s.any needsEscape && !s.any isTextBreak && s.head? ≠ some ' '
    && s.getLast? ≠ some ' ' && !startsWithIndicator s && !hasInnerIndicator s

theorem allowsPlain_of_style {s : List Char} (h : Style.ofText s = .plain) : allowsPlain s := by
  by_contra hplain
  rw [Style.ofText, if_neg hplain] at h
  split at h <;> cases h

theorem allowsSingle_of_style {s : List Char} (h : Style.ofText s = .single) : allowsSingle s := by
  by_contra hsingle
  rw [Style.ofText, if_neg hsingle] at h
  split at h <;> cases h

theorem hasPlainForm_of_allowsPlain {s : List Char} (h : allowsPlain s) : hasPlainForm s := by
  simp only [allowsPlain, Bool.and_eq_true] at h
  obtain ⟨⟨⟨⟨⟨⟨htag, hprint⟩, hline⟩, hspace⟩, hend⟩, hindicator⟩, hinner⟩ := h
  have hne : s.isEmpty = false := by
    cases s with
    | nil => exact absurd htag (by decide)
    | cons x s => rfl
  simp [hasPlainForm, hne, hprint, hline, hspace, hend, hindicator, hinner]

theorem continuesPlain_of_hasPlainForm {s : List Char} (h : hasPlainForm s) :
    ContinuesPlain s := by
  simp only [hasPlainForm, Bool.and_eq_true, Bool.not_eq_true', List.any_eq_false,
    Bool.not_eq_true, decide_eq_true_eq] at h
  obtain ⟨⟨⟨⟨⟨⟨-, hprint⟩, hline⟩, -⟩, hend⟩, -⟩, hinner⟩ := h
  exact ⟨hprint, hline, hend, hinner⟩

/-- Two texts that begin alike: where one begins with no space the other has the same first
character, and the same second one unless a space is second. -/
def SameStart (w s : List Char) : Prop :=
  ∀ x t, s = x :: t → x ≠ ' ' → ∃ v, w = x :: v ∧ (t.head? ≠ some ' ' → v.head? = t.head?)

theorem SameStart.refl (s : List Char) : SameStart s s :=
  fun _ t h _ => ⟨t, h, fun _ => rfl⟩

/-- Where a scalar can go on, a word begins. -/
theorem SameStart.opensPlain {w : List Char} {x : Char} {t : List Char}
    (h : SameStart w (x :: t)) (hs : ContinuesPlain (x :: t)) (hx : x ≠ ' ') (hx' : x ≠ '#') :
    OpensPlain w := by
  obtain ⟨v, rfl, hv⟩ := h x t rfl hx
  refine ⟨x, v, rfl, hs.not_isGap_head hx, hx', ?_⟩
  rintro rfl
  obtain ⟨y, u, rfl, hy⟩ := hs.colon
  obtain ⟨u', hu'⟩ := List.head?_eq_some_iff.mp (hv (by simpa using ne_space_of_not_gap hy))
  exact ⟨y, u', hu', hy⟩

/-- What begins like a text without quotes looks like the beginning of a plain scalar. -/
theorem startsPlain_of_hasPlainForm {w s : List Char} (hs : hasPlainForm s) (h : SameStart w s) :
    OpensPlain w ∧ ∀ (c : Cursor) (t : List Char), c.rest = w ++ t → startsPlain false c := by
  have hrest := continuesPlain_of_hasPlainForm hs
  simp only [hasPlainForm, Bool.and_eq_true, Bool.not_eq_true', decide_eq_true_eq,
    List.isEmpty_eq_false_iff] at hs
  obtain ⟨⟨⟨⟨⟨⟨hne, -⟩, -⟩, hspace⟩, -⟩, hindicator⟩, -⟩ := hs
  obtain ⟨x, t, rfl⟩ := List.exists_cons_of_ne_nil hne
  have hx : x ≠ ' ' := by simpa using hspace
  simp only [startsWithIndicator, Bool.or_eq_false_iff, List.contains_eq_mem,
    decide_eq_false_iff_not, List.mem_cons, not_or] at hindicator
  obtain ⟨⟨⟨hlist, hfollows⟩, -⟩, -⟩ := hindicator
  have hopens := h.opensPlain hrest hx hlist.1
  refine ⟨hopens, fun c tail hc => ?_⟩
  obtain ⟨v, rfl, hv⟩ := h x t rfl hx
  have hgap := hrest.not_isGap_head hx
  rw [startsPlain, Cursor.peek_of_rest hc, hgap, Bool.false_or]
  by_cases hdash : x = '-' ∨ x = '?' ∨ x = ':'
  · have hroom : spaceFollows t = false := by
      rcases hdash with rfl | rfl | rfl <;> simpa using hfollows
    cases t with
    | nil => exact absurd hroom (by decide)
    | cons y u =>
        have hy : y ≠ ' ' := by simpa [spaceFollows] using hroom
        obtain ⟨v, rfl⟩ := List.head?_eq_some_iff.mp (hv (by simpa using hy))
        have hnext : c.peekAt 1 = y := by rw [Cursor.peekAt_eq, hc]; rfl
        have hygap : isGap y = false :=
          (ContinuesPlain.of_append (u := [x]) hrest).not_isGap_head hy
        rw [hnext, hygap]
        rcases hdash with rfl | rfl | rfl <;> decide
  · simp only [not_or] at hdash
    simp [hdash, hlist]

/-! ## Keys -/

/-- Whether a text is written as a key of one word that separates nothing. -/
def isKeyText (s : List Char) : Bool :=
  Style.ofText s = .plain && isSimpleKey s && !s.contains ' ' && s.head? ≠ some '-'
    && s.head? ≠ some '.'

/-- What is known of a key. -/
structure KeyText (s : List Char) : Prop where
  plain : allowsPlain s
  simple : isSimpleKey s
  oneWord : ' ' ∉ s
  hyphen : s.head? ≠ some '-'
  dot : s.head? ≠ some '.'

theorem keyText_of_isKeyText {s : List Char} (h : isKeyText s) : KeyText s := by
  simp only [isKeyText, Bool.and_eq_true, decide_eq_true_eq, Bool.not_eq_true',
    List.contains_eq_mem, decide_eq_false_iff_not] at h
  obtain ⟨⟨⟨⟨hstyle, hsimple⟩, hspace⟩, hhyphen⟩, hdot⟩ := h
  exact ⟨allowsPlain_of_style hstyle, hsimple, hspace, hhyphen, hdot⟩

namespace KeyText

variable {s t : List Char}

theorem continuesPlain (h : KeyText s) : ContinuesPlain s :=
  continuesPlain_of_hasPlainForm (hasPlainForm_of_allowsPlain h.plain)

theorem opensPlain (h : KeyText s) : OpensPlain s :=
  (startsPlain_of_hasPlainForm (hasPlainForm_of_allowsPlain h.plain) (SameStart.refl s)).1

theorem startsPlain (h : KeyText s) {c : Cursor} (hc : c.rest = s ++ t) : startsPlain false c :=
  (startsPlain_of_hasPlainForm (hasPlainForm_of_allowsPlain h.plain) (SameStart.refl s)).2 c t hc

theorem not_isGap (h : KeyText s) : ∀ x ∈ s, isGap x = false := fun x hx =>
  Yaml.not_isGap (h.continuesPlain.printable x hx) (fun e => h.oneWord (e ▸ hx))
    (h.continuesPlain.oneLine x hx)

/-- A key takes a column for each of its characters. -/
theorem isLineChar (h : KeyText s) : ∀ x ∈ s, isLineChar x := by
  intro x hx
  have hmark : x ≠ byteOrderMark := by
    rintro rfl
    exact absurd (h.continuesPlain.printable _ hx) (by decide)
  simp [Yaml.isLineChar, not_isBreak_of_not_gap (h.not_isGap x hx), hmark]

theorem length_lt (h : KeyText s) : s.length < 1024 := by
  have hsimple := h.simple
  simp only [isSimpleKey, Bool.and_eq_true, decide_eq_true_eq] at hsimple
  omega

end KeyText

/-- A word without gaps is read up to the colon behind it. -/
theorem plainWord_of_continuesPlain {s t : List Char} (hs : ContinuesPlain s)
    (hgap : ∀ x ∈ s, isGap x = false) (ht : isGap (t.headD endMark)) :
    plainWord false (s ++ ':' :: t) = s := by
  induction s with
  | nil => exact plainWord_colon ht
  | cons x s ih =>
      rw [List.cons_append, plainWord_cons (hgap x List.mem_cons_self),
        ih (ContinuesPlain.of_append (u := [x]) hs) fun y hy => hgap y (List.mem_cons_of_mem x hy)]
      rintro rfl
      obtain ⟨y, u, rfl, hy⟩ := hs.colon
      exact hy

/-- A key is read up to its colon. -/
theorem scanPlain_key {s t : List Char} (hs : KeyText s) (ht : isGap (t.headD endMark))
    {c : Cursor} (hc : c.rest = s ++ ':' :: t) (indent : Int) :
    scanPlain false indent c = (.scalar s true, false,
      ⟨':' :: t, c.index + s.length, c.line, c.column + s.length⟩) := by
  have hopens : OpensWord (':' :: t) := opensWord_cons.mpr (by decide)
  have hword := plainWord_of_continuesPlain hs.continuesPlain hs.not_isGap ht
  have hrest : restOfPlain (indent + 1) c.rest.length c = (s, false,
      ⟨':' :: t, c.index + s.length, c.line, c.column + s.length⟩) := by
    rw [restOfPlain, hc, hword, Cursor.advanceBy_of_lineChars hc hs.isLineChar]
    simp only [plainGap_none
      (c := ⟨':' :: t, c.index + s.length, c.line, c.column + s.length⟩) hopens]
    rfl
  rw [scanPlain, plainText_of_word (hs.opensPlain.peek hc) (hc ▸ hs.opensPlain.plainWord _), hrest]
  rfl

/-! ## Writing -/

namespace Pen

variable {fold : Bool} {indent : Nat} {previous : Char} {t : List Char} {p : Pen}

/-- Spaces behind a space are written as they are. -/
theorem plainChars_moreSpaces (k : Nat) (p : Pen) :
    plainChars fold indent ' ' (List.replicate k ' ' ++ t) p =
      plainChars fold indent ' ' t (p.put (List.replicate k ' ')) := by
  induction k generalizing p with
  | zero => rfl
  | succ k ih =>
      rw [List.replicate_succ, List.cons_append, plainChars, if_neg (by simp), ih, put_put,
        List.singleton_append]

/-- A run of spaces is written as it is, or it is one space where the line is folded. -/
theorem plainChars_spaces (k : Nat) : ∃ q,
    plainChars fold indent previous (List.replicate (k + 1) ' ' ++ t) p =
      plainChars fold indent ' ' t q ∧
    (q = p.put (List.replicate (k + 1) ' ') ∨
      k = 0 ∧ width < p.column ∧ q = (p.toIndent indent).inText) := by
  rw [List.replicate_succ, List.cons_append, plainChars]
  split
  · next hfold =>
    simp only [Bool.and_eq_true, decide_eq_true_eq] at hfold
    obtain ⟨⟨⟨-, hnext⟩, -⟩, hcolumn⟩ := hfold
    have hk : k = 0 := by
      cases k with
      | zero => rfl
      | succ k => simp [List.replicate_succ] at hnext
    exact ⟨_, by rw [hk]; rfl, Or.inr ⟨hk, hcolumn, rfl⟩⟩
  · exact ⟨_, by rw [plainChars_moreSpaces, put_put, List.singleton_append], Or.inl rfl⟩

/-- What is written for a text from the middle of a plain scalar on reads as the text, and begins as
it does unless it begins with a space. -/
structure WritesPlain (n : Nat) (w s : List Char) : Prop where
  reads : PlainReads n w s
  allowed : ∀ x ∈ w, isAllowed x
  head : s.head? ≠ some ' ' → w.head? = s.head?
  start : SameStart w s

/-- A text is written without quotes so that it reads as itself. -/
theorem plainChars_reads {n : Nat} (hn : n < indent) (hwidth : indent ≤ width) {s : List Char}
    (hs : ContinuesPlain s) (previous : Char) (p : Pen) :
    ∃ w, p.Adds w (plainChars fold indent previous s p) ∧ WritesPlain n w s := by
  induction s using runs_induction generalizing previous p with
  | nil => exact ⟨[], Adds.refl p, .nil n, by simp, fun _ => rfl, SameStart.refl []⟩
  | char x t hx hb ih =>
      have ht := ContinuesPlain.of_append (u := [x]) hs
      obtain ⟨w, hadds, hw⟩ := ih ht x (p.put [x])
      have hcolon : x = ':' → ∃ y v, w = y :: v ∧ isGap y = false := by
        rintro rfl
        obtain ⟨y, u, rfl, hy⟩ := hs.colon
        obtain ⟨v, rfl, -⟩ := hw.start y u rfl (ne_space_of_not_gap hy)
        exact ⟨y, v, rfl, hy⟩
      rw [plainChars, if_neg (by simp [hx])]
      refine ⟨x :: w, (adds_put [x] p).trans hadds, hw.reads.char (hs.not_isGap_head hx) hcolon,
        List.forall_mem_cons.mpr ⟨?_, hw.allowed⟩, fun _ => rfl, ?_⟩
      · exact isAllowed_of_not_needsEscape (hs.printable x List.mem_cons_self)
      · rintro y u ⟨rfl, rfl⟩ -
        exact ⟨w, rfl, hw.head⟩
  | spaces k t ht ih =>
      obtain ⟨x, u, rfl, hx, hx'⟩ := hs.spaces ht
      obtain ⟨q, heq, hq⟩ := @plainChars_spaces fold indent previous (x :: u) p k
      obtain ⟨w, hadds, hw⟩ := ih hs.of_append ' ' q
      have hopens := hw.start.opensPlain hs.of_append hx hx'
      have hfirst : ∀ y v, List.replicate (k + 1) ' ' ++ x :: u = y :: v → y = ' ' := by
        rintro y v ⟨rfl, -⟩
        rfl
      rw [heq]
      rcases hq with rfl | ⟨rfl, hcolumn, rfl⟩
      · exact ⟨List.replicate (k + 1) ' ' ++ w, (adds_put _ p).trans hadds,
          hw.reads.spaces hopens k, allowed_append (allowed_spaces _) hw.allowed,
          fun h => absurd rfl h, fun y v h hy => absurd (hfirst y v h) hy⟩
      · rw [toIndent_eq_onLine (Or.inr (Nat.lt_of_le_of_lt hwidth hcolumn))] at hadds ⊢
        exact ⟨'\n' :: List.replicate indent ' ' ++ w, (adds_onLine indent p).trans hadds,
          hw.reads.foldedLine hopens hn, allowed_append (allowed_line indent) hw.allowed,
          fun h => absurd rfl h, fun y v h hy => absurd (hfirst y v h) hy⟩
  | breaks b run t hb =>
      exact absurd hb (by simp [hs.oneLine b List.mem_cons_self])

/-- Where the line is not folded, a text is written as it is. -/
theorem plainChars_unfolded (s : List Char) (previous : Char) (p : Pen) :
    plainChars false indent previous s p = p.put s := by
  induction s generalizing previous p with
  | nil => simp [plainChars, put]
  | cons c s ih => rw [plainChars, if_neg (by simp), ih, put_put, List.singleton_append]

end Pen

end RoleGrants.Yaml
