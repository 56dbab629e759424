import Mathlib.Data.Nat.Digits.Defs
import RoleGrants.Proofs.Yaml.Single

/-!
# Texts between double quotes

What the writer puts between double quotes reads as the same text, whatever the text is: a character
that cannot stand for itself is escaped, and lines are folded behind a backslash.
-/

namespace RoleGrants.Yaml

open RoleGrants.Number RoleGrants.Text

/-! ## Hexadecimal numbers -/

theorem hexDigit_spec {d : Nat} (h : d < 16) :
    isHexDigit (Nat.digitChar d).toUpper ∧ digitValue (Nat.digitChar d).toUpper = some d ∧
      isAllowed (Nat.digitChar d).toUpper := by
  have hall : ∀ d : Fin 16, isHexDigit (Nat.digitChar d).toUpper = true ∧
      digitValue (Nat.digitChar d).toUpper = some d.val ∧
      isAllowed (Nat.digitChar d).toUpper = true := by decide
  exact hall ⟨d, h⟩

theorem hexValue_append (s : List Char) (c : Char) :
    hexValue (s ++ [c]) = hexValue s * 16 + (digitValue c).getD 0 := by
  simp [hexValue]

theorem hexValue_zeros (k : Nat) (s : List Char) :
    hexValue (List.replicate k '0' ++ s) = hexValue s := by
  induction k with
  | zero => rfl
  | succ k ih => exact ih

/-- The digits of a number spell it, in characters that are digits and may be written. -/
theorem toDigits_spec (n : Nat) :
    hexValue ((Nat.toDigits 16 n).map Char.toUpper) = n ∧
      ∀ c ∈ (Nat.toDigits 16 n).map Char.toUpper, isHexDigit c ∧ isAllowed c := by
  induction n using Nat.strongRecOn with
  | ind n ih =>
    rw [Nat.toDigits_eq_if (by decide)]
    split
    · next h =>
      obtain ⟨hdigit, hvalue, hallowed⟩ := hexDigit_spec h
      refine ⟨?_, ?_⟩
      · simp [hexValue, hvalue]
      · simp [hdigit, hallowed]
    · next h =>
      obtain ⟨hdigit, hvalue, hallowed⟩ := hexDigit_spec (Nat.mod_lt n (by decide : 0 < 16))
      obtain ⟨ihvalue, ihdigits⟩ := ih (n / 16) (by omega)
      rw [List.map_append, List.map_singleton]
      refine ⟨?_, fun c hc => ?_⟩
      · rw [hexValue_append, ihvalue, hvalue, Option.getD_some]
        omega
      · rcases List.mem_append.mp hc with hc | hc
        · exact ihdigits c hc
        · rw [List.mem_singleton.mp hc]
          exact ⟨hdigit, hallowed⟩

namespace Pen

variable {fold : Bool} {indent : Nat} {p : Pen}

/-- A numeral of a width that the number fits in has that width and spells the number. -/
theorem capitalHex_spec {width n : Nat} (hpos : 0 < width) (h : n < 16 ^ width) :
    (capitalHex width n).length = width ∧ hexValue (capitalHex width n) = n ∧
      ∀ c ∈ capitalHex width n, isHexDigit c ∧ isAllowed c := by
  obtain ⟨hvalue, hdigits⟩ := toDigits_spec n
  have hlen := (Nat.length_toDigits_le_iff (b := 16) (by decide) hpos).mpr h
  have hhex : capitalHex width n =
      List.replicate (width - (Nat.toDigits 16 n).length) '0' ++
        (Nat.toDigits 16 n).map Char.toUpper := by
    rw [capitalHex, hexadecimal, padLeft, List.map_append, List.map_replicate]
    rfl
  rw [hhex]
  refine ⟨?_, ?_, fun c hc => ?_⟩
  · rw [List.length_append, List.length_replicate, List.length_map]
    omega
  · rw [hexValue_zeros, hvalue]
  · rcases List.mem_append.mp hc with hc | hc
    · rw [List.eq_of_mem_replicate hc]
      decide
    · exact hdigits c hc

/-! ## Escapes -/

/-- What is written without an escape is a space or a character that means itself. -/
theorem escape?_eq_none {c : Char} (h : escape? c = none) :
    isAllowed c ∧ (c ≠ ' ' → meansItself true c) := by
  simp only [escape?] at h
  split at h
  · next hdirect =>
    simp only [Bool.and_eq_true, Bool.or_eq_true, decide_eq_true_eq, Bool.not_eq_true',
      List.contains_eq_mem, decide_eq_false_iff_not, List.mem_cons, not_or] at hdirect
    obtain ⟨hrange, hquote, hslash, hline, hparagraph, -, -⟩ := hdirect
    refine ⟨?_, fun hspace => ?_⟩
    · simp only [isAllowed, Bool.or_eq_true, Bool.and_eq_true, decide_eq_true_eq]
      omega
    · have hne : ∀ x : Char, (x.toNat < 0x20 ∨ (0x7E < x.toNat ∧ x.toNat < 0xA0)) → c ≠ x := by
        rintro x hx rfl
        omega
      have htab := hne '\t' (by decide)
      have hfeed := hne '\n' (by decide)
      have hreturn := hne '\r' (by decide)
      have hnel := hne '\x85' (by decide)
      have hend := hne endMark (by decide)
      simp [meansItself, quoteMark, isGap, isSpaceOrEnd, isBreakOrEnd, isBreak, *]
  · split at h
    · cases h
    · split at h
      · cases h
      · split at h <;> cases h

/-- The letters of the writer are known to the reader. -/
theorem escapes_lookup {c letter : Char} (h : escapes.lookup c = some letter) :
    escapeLetters.lookup letter = some c ∧ isAllowed letter := by
  have hall : ∀ e ∈ escapes, escapeLetters.lookup e.2 = some e.1 ∧ isAllowed e.2 := by decide
  obtain ⟨front, back, hsplit, -⟩ := List.lookup_eq_some_iff.mp h
  exact hall (c, letter) (hsplit ▸ List.mem_append_right front List.mem_cons_self)

/-- A number of a character in digits. -/
theorem numberEscape_reads {c letter : Char} {width : Nat} (hpos : 0 < width)
    (hc : c.toNat < 16 ^ width) (hletter : escapeLetters.lookup letter = none)
    (hwidth : escapeWidth letter = some width) (hallowed : isAllowed letter) :
    (∃ rest, '\\' :: letter :: capitalHex width c.toNat = '\\' :: rest) ∧
      (∀ x ∈ '\\' :: letter :: capitalHex width c.toNat, isAllowed x) ∧
      ∀ w s, QuotedReads true w s →
        QuotedReads true ('\\' :: letter :: capitalHex width c.toNat ++ w) (c :: s) := by
  obtain ⟨hlen, hvalue, hdigits⟩ := capitalHex_spec hpos hc
  refine ⟨⟨_, rfl⟩, ?_, fun w s h => ?_⟩
  · exact List.forall_mem_cons.mpr ⟨by decide, List.forall_mem_cons.mpr
      ⟨hallowed, fun x hx => (hdigits x hx).2⟩⟩
  · exact h.number hletter (hlen.symm ▸ hwidth)
      (List.all_eq_true.mpr fun x hx => (hdigits x hx).1) hvalue

/-- An escape begins with a backslash and reads as the character. -/
theorem escape?_eq_some {c : Char} {text : List Char} (h : escape? c = some text) :
    (∃ rest, text = '\\' :: rest) ∧ (∀ x ∈ text, isAllowed x) ∧
      ∀ w s, QuotedReads true w s → QuotedReads true (text ++ w) (c :: s) := by
  simp only [escape?] at h
  split at h
  · cases h
  · split at h
    · next letter hletter =>
      obtain ⟨hknown, hallowed⟩ := escapes_lookup hletter
      cases h
      exact ⟨⟨_, rfl⟩, List.forall_mem_cons.mpr ⟨by decide, List.forall_mem_singleton.mpr hallowed⟩,
        fun w s h => h.letter hknown⟩
    · split at h
      · next hn =>
        cases h
        exact numberEscape_reads (by decide) (Nat.lt_succ_of_le hn) (by decide) (by decide)
          (by decide)
      · split at h
        · next hn =>
          cases h
          exact numberEscape_reads (by decide) (Nat.lt_succ_of_le hn) (by decide) (by decide)
            (by decide)
        · cases h
          refine numberEscape_reads (by decide) ?_ (by decide) (by decide) (by decide)
          rcases c.valid with hc | hc
          · exact Nat.lt_trans hc (by decide)
          · exact Nat.lt_trans hc.2 (by decide)

/-! ## Writing -/

/-- What is written where a line is folded: a backslash hides the break, and one more keeps a space
that is next. -/
def foldText (indent : Nat) (next : Option Char) : List Char :=
  '\\' :: '\n' :: List.replicate indent ' ' ++ if next = some ' ' then ['\\'] else []

theorem foldDouble_adds (hwidth : indent < width) (hp : p.indenting = false)
    (next : Option Char) :
    p.Adds (foldText indent next) (p.foldDouble indent next) ∧
      (p.foldDouble indent next).indenting = false ∧
      (p.foldDouble indent next).column ≤ width := by
  have hline : (p.put ['\\']).toIndent indent = (p.put ['\\']).onLine indent :=
    toIndent_eq_onLine (Or.inl hp)
  rw [foldDouble, foldText, hline]
  by_cases hn : next = some ' '
  · rw [if_pos hn, if_pos hn]
    exact ⟨((adds_put ['\\'] p).trans (adds_onLine indent _)).trans (adds_put ['\\'] _), rfl,
      hwidth⟩
  · rw [if_neg hn, if_neg hn, List.append_nil]
    exact ⟨(adds_put ['\\'] p).trans (adds_onLine indent _), rfl, Nat.le_of_lt hwidth⟩

theorem allowed_foldText (indent : Nat) (next : Option Char) :
    ∀ x ∈ foldText indent next, isAllowed x := by
  refine allowed_append (List.forall_mem_cons.mpr ⟨by decide, allowed_line indent⟩) fun x hx => ?_
  split at hx
  · rw [List.mem_singleton.mp hx]
    decide
  · cases hx

theorem opensWord_backslash (w : List Char) : OpensWord ('\\' :: w) :=
  opensWord_cons.mpr (by decide)

/-- What is written for a text from a column on reads as the text. A space within the width is
written as itself, so a backslash in front of it makes it an escape. -/
structure WritesDouble (column : Nat) (w s : List Char) : Prop where
  reads : SpacedReads true w s
  allowed : ∀ x ∈ w, isAllowed x
  begins : ∀ t, s = ' ' :: t → column ≤ width → ∃ v, w = ' ' :: v ∧ SpacedReads true v t
  opens : s.head? ≠ some ' ' → OpensWord w

namespace WritesDouble

variable {column column' : Nat} {c : Char} {w s text : List Char}

theorem nil (column : Nat) : WritesDouble column [] [] where
  reads := .of_reads (.nil true) .nil
  allowed := by simp
  begins := by simp
  opens _ := .nil

/-- What opens with a backslash has no first space to account for. -/
theorem of_backslash (h : QuotedReads true ('\\' :: w) s)
    (hallowed : ∀ x ∈ '\\' :: w, isAllowed x) (hs : s.head? = some ' ' → width < column) :
    WritesDouble column ('\\' :: w) s where
  reads := .of_reads h (opensWord_backslash w)
  allowed := hallowed
  begins t ht hcolumn := by
    subst ht
    exact absurd (hs rfl) (Nat.not_lt.mpr hcolumn)
  opens _ := opensWord_backslash w

/-- A character that is written as itself. -/
theorem char (h : WritesDouble column' w s) (hc : escape? c = none) :
    WritesDouble column (c :: w) (c :: s) := by
  obtain ⟨hallowed, hself⟩ := escape?_eq_none hc
  have hopens : c ≠ ' ' → OpensWord (c :: w) := fun hne => by
    have hx := hself hne
    simp only [meansItself, Bool.and_eq_true, Bool.not_eq_true'] at hx
    exact opensWord_cons.mpr hx.1.2
  refine ⟨?_, List.forall_mem_cons.mpr ⟨hallowed, h.allowed⟩, ?_,
    fun hne => hopens (by simpa using hne)⟩
  · by_cases hspace : c = ' '
    · subst hspace
      exact h.reads.space
    · exact .of_reads (h.reads.reads.char (hself hspace)) (hopens hspace)
  · rintro t ⟨rfl, rfl⟩ -
    exact ⟨w, rfl, h.reads⟩

/-- A character in front of which the line is folded. -/
theorem foldedChar (h : WritesDouble column' w s) (hc : escape? c = none) (hpos : 0 < indent)
    (hcolumn : width < column) :
    WritesDouble column (foldText indent (some c) ++ c :: w) (c :: s) := by
  obtain ⟨hallowed, hself⟩ := escape?_eq_none hc
  refine of_backslash ?_ (allowed_append (allowed_foldText indent (some c))
    (List.forall_mem_cons.mpr ⟨hallowed, h.allowed⟩)) fun _ => hcolumn
  by_cases hspace : c = ' '
  · subst hspace
    have hreads : QuotedReads true ('\\' :: ' ' :: w) (' ' :: s) := h.reads.reads.letter (by decide)
    simpa [List.append_assoc] using hreads.hiddenBreak (opensWord_backslash _) hpos
  · have hx := hself hspace
    have hopens : OpensWord (c :: w) := by
      simp only [meansItself, Bool.and_eq_true, Bool.not_eq_true'] at hx
      exact opensWord_cons.mpr hx.1.2
    simpa [hspace] using (h.reads.reads.char hx).hiddenBreak hopens hpos

/-- A character that is escaped. -/
theorem escape (h : WritesDouble column' w s) (hc : escape? c = some text) :
    WritesDouble column (text ++ w) (c :: s) := by
  obtain ⟨⟨rest, rfl⟩, hallowed, hreads⟩ := escape?_eq_some hc
  refine of_backslash (hreads w s h.reads.reads) (allowed_append hallowed h.allowed) ?_
  rintro ⟨⟩
  exact nomatch (show none = some _ from hc)

/-- A character that is escaped and behind which the line is folded. -/
theorem foldedEscape (h : WritesDouble column' w s) (hc : escape? c = some text)
    (hpos : 0 < indent) (hcolumn : column' ≤ width) :
    WritesDouble column (text ++ foldText indent s.head? ++ w) (c :: s) := by
  obtain ⟨⟨rest, rfl⟩, hallowed, hreads⟩ := escape?_eq_some hc
  have hfold : QuotedReads true (foldText indent s.head? ++ w) s := by
    by_cases hspace : s.head? = some ' '
    · obtain ⟨t, rfl⟩ := List.head?_eq_some_iff.mp hspace
      obtain ⟨v, rfl, hv⟩ := h.begins t rfl hcolumn
      have hletter : QuotedReads true ('\\' :: ' ' :: v) (' ' :: t) := hv.reads.letter (by decide)
      simpa [foldText] using hletter.hiddenBreak (opensWord_backslash _) hpos
    · simpa [foldText, hspace] using h.reads.reads.hiddenBreak (h.opens hspace) hpos
  rw [List.append_assoc]
  refine of_backslash (hreads _ s hfold)
    (allowed_append hallowed (allowed_append (allowed_foldText indent _) h.allowed)) ?_
  rintro ⟨⟩
  exact nomatch (show none = some _ from hc)

end WritesDouble

/-- Every text is written so that it reads as itself. -/
theorem doubleChars_reads (hpos : 0 < indent) (hwidth : indent < width) (first escaped : Bool)
    (s : List Char) (p : Pen) (hp : p.indenting = false) :
    ∃ w, p.Adds w (doubleChars fold indent first escaped s p) ∧ WritesDouble p.column w s := by
  induction s generalizing first escaped p with
  | nil => exact ⟨[], Adds.refl p, .nil _⟩
  | cons c rest ih =>
      rw [doubleChars]
      cases hc : escape? c with
      | none =>
          dsimp only
          split
          · next hfold =>
            simp only [Bool.and_eq_true, decide_eq_true_eq] at hfold
            obtain ⟨hadds, hindenting, -⟩ := foldDouble_adds hwidth hp (some c)
            obtain ⟨w, hadds', hw⟩ :=
              ih false false ((p.foldDouble indent (some c)).put [c]) hindenting
            refine ⟨foldText indent (some c) ++ [c] ++ w,
              (hadds.trans (adds_put [c] _)).trans hadds', ?_⟩
            rw [List.append_assoc]
            exact hw.foldedChar hc hpos hfold.2
          · obtain ⟨w, hadds, hw⟩ := ih false false (p.put [c]) hp
            exact ⟨c :: w, (adds_put [c] p).trans hadds, hw.char hc⟩
      | some text =>
          dsimp only
          split
          · obtain ⟨hadds, hindenting, hcolumn⟩ :=
              foldDouble_adds hwidth (p := p.put text) hp rest.head?
            obtain ⟨w, hadds', hw⟩ := ih false true _ hindenting
            exact ⟨_, ((adds_put text p).trans hadds).trans hadds',
              hw.foldedEscape hc hpos hcolumn⟩
          · obtain ⟨w, hadds, hw⟩ := ih false true (p.put text) hp
            exact ⟨text ++ w, (adds_put text p).trans hadds, hw.escape hc⟩

end Pen

end RoleGrants.Yaml
