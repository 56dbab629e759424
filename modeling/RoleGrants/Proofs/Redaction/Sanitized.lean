import RoleGrants.Proofs.Redaction.Link
import RoleGrants.Proofs.Redaction.Secret

/-!
# What is left of a sanitized text

A text is rewritten twice, first its links and then its secrets, and the second time what the first
one wrote is read again.  That does no harm.  What is written for a secret ends in front of a blank,
and in it the marker comes last, so no link with credentials comes about:
`not_link_infix_sanitizeTo`.  It is a secret again, which is written as it is; and where no secret
began before, none begins now: `sanitizeTo_sanitizeTo`.
-/

namespace RoleGrants.Redaction

open RoleGrants.Text

/-- A text without its credentials. -/
def redacted (s : List Char) : List Char := redactValues (redactLinks s)

/-! ## No links come about

A link ends in an at sign and has no blanks. Of such a text, nothing stands in what is written for a
secret but in what is kept of it. -/

theorem at_mem_of_append {u v w : List Char} (h : w ++ ['@'] = u ++ v) (hv : v ≠ []) : '@' ∈ v := by
  rw [← List.dropLast_append_getLast hv, ← List.append_assoc] at h
  have hlast := (List.append_inj' h rfl).2
  rw [List.cons.injEq] at hlast
  rw [hlast.1]
  exact List.getLast_mem hv

theorem prefix_of_prefix_append {u v w : List Char} (hv : '@' ∉ v) (h : w ++ ['@'] <+: u ++ v) :
    w ++ ['@'] <+: u := by
  rcases prefix_append_cases h with h' | ⟨x, hx, hsplit, hstarts⟩
  · exact h'
  · exact absurd (hstarts.subset (at_mem_of_append hsplit hx)) hv

theorem infix_of_infix_append {u v w : List Char} (hv : '@' ∉ v) (h : w ++ ['@'] <:+: u ++ v) :
    w ++ ['@'] <:+: u := by
  rcases List.infix_append_iff_ne_nil.mp h with h | h | ⟨x, y, -, hy, hsplit, -, hstarts⟩
  · exact h
  · exact absurd (h.subset (by simp)) hv
  · exact absurd (hstarts.subset (at_mem_of_append hsplit hy)) hv

theorem infix_or_infix_of_opensBlank {s t x : List Char} (ht : OpensBlank t)
    (hx : ∀ c ∈ x, ¬ isBlank c) (h : x <:+: s ++ t) : x <:+: s ∨ x <:+: t := by
  rcases List.infix_append_iff_ne_nil.mp h with h | h | ⟨v, w, -, hw, rfl, -, ⟨r, rfl⟩⟩
  · exact .inl h
  · exact .inr h
  · obtain ⟨c, w, rfl⟩ := List.exists_cons_of_ne_nil hw
    exact absurd (ht c rfl) (hx c (by simp))

namespace Secret

variable (a : Secret)

/-- The secret that is written for a secret. -/
def again : Secret where
  word := a.word
  gap := a.gap
  separator := a.separator
  space := if a.Leaks then a.space else if a.separator = '=' then [] else [' ']
  value := if a.Leaks then a.leaked ++ '=' :: marker else marker
  isTelling_word := a.isTelling_word
  isBlank_gap := a.isBlank_gap
  isSeparator := a.isSeparator
  isBlank_space := by
    split
    · exact a.isBlank_space
    · split
      · exact List.forall_mem_nil _
      · exact List.all_eq_true.mp (by decide)
  value_ne_nil := by
    split
    · simp
    · decide
  not_isBlank_value := by
    split
    · exact a.not_isBlank_leaked
    · exact not_isBlank_marker

variable {a}

theorem again_of_leaks (h : a.Leaks) :
    a.again.space = a.space ∧ a.again.value = a.leaked ++ '=' :: marker :=
  ⟨if_pos h, if_pos h⟩

theorem again_of_not_leaks (h : ¬ a.Leaks) :
    a.again.space = (if a.separator = '=' then [] else [' ']) ∧ a.again.value = marker :=
  ⟨if_neg h, if_neg h⟩

theorem leaked_again (h : a.Leaks) : a.again.leaked = a.leaked := by
  have hleaked : '=' ∉ a.leaked := by
    intro hmem
    have hne := List.mem_takeWhile_imp (p := (· ≠ '=')) hmem
    simp at hne
  rw [leaked, (again_of_leaks h).2, takeWhile_ne_append hleaked]

theorem leaks_again : a.again.Leaks ↔ a.Leaks := by
  by_cases h : a.Leaks
  · simp only [h, iff_true]
    refine ⟨h.1, ?_⟩
    rw [(again_of_leaks h).2]
    simp
  · simp only [h, iff_false]
    rintro ⟨-, hvalue⟩
    rw [(again_of_not_leaks h).2] at hvalue
    exact absurd hvalue (by decide)

variable (a)

theorem text_again : a.again.text = a.shown := by
  by_cases h : a.Leaks
  · rw [text, (again_of_leaks h).1, (again_of_leaks h).2, shown, if_pos h, ← h.1]
    rfl
  · rw [text, (again_of_not_leaks h).1, (again_of_not_leaks h).2, shown, if_neg h, veiled]
    rcases a.isSeparator with hseparator | hseparator
    · simp [again, lead, hseparator]
    · simp [again, lead, hseparator]

/-- What is written for a secret is a secret that is written as it is. -/
theorem shown_again : a.again.shown = a.shown := by
  by_cases h : a.Leaks
  · rw [shown, shown, if_pos (leaks_again.mpr h), if_pos h, leaked_again h, (again_of_leaks h).1]
    rfl
  · rw [shown, shown, if_neg (leaks_again.not.mpr h), if_neg h]
    rfl

/-- What is written for a secret is a part of it that is kept, and nothing with an at sign. -/
theorem shown_eq_append : ∃ u v, a.shown = u ++ v ∧ u ≠ [] ∧ u <+: a.text ∧ '@' ∉ v := by
  by_cases hleaks : a.Leaks
  · refine ⟨a.lead ++ ':' :: (a.space ++ a.leaked), '=' :: marker, ?_, by simp, ?_, by decide⟩
    · simp [shown, hleaks]
    · rw [text, hleaks.1, List.prefix_append_right_inj, List.cons_prefix_cons,
        List.prefix_append_right_inj]
      exact ⟨rfl, List.takeWhile_prefix _⟩
  · refine ⟨a.lead ++ [a.separator], if a.separator = '=' then marker else ' ' :: marker, ?_,
      by simp, ?_, ?_⟩
    · rcases a.isSeparator with hseparator | hseparator
      · simp [shown, veiled, hleaks, hseparator]
      · simp [shown, veiled, hleaks, hseparator]
    · rw [text, List.prefix_append_right_inj]
      exact List.cons_prefix_cons.mpr ⟨rfl, List.nil_prefix⟩
    · split
      · decide
      · decide

end Secret

section

variable {pieces : List (Piece Secret)} {w : List Char}

/-- A text up to an at sign with which the pieces begin stood there before secrets were replaced. -/
theorem prefix_text_of_shown (h : Leftmost secretForm pieces)
    (hw : ∀ c ∈ w ++ ['@'], ¬ isBlank c) (hstarts : w ++ ['@'] <+: written Secret.shown pieces) :
    w ++ ['@'] <+: written Secret.text pieces := by
  induction h generalizing w with
  | nil => exact hstarts
  | @kept c pieces _ _ ih =>
    cases w with
    | nil => simpa using hstarts
    | cons d w =>
      rw [written_kept, List.cons_append, List.cons_prefix_cons] at hstarts ⊢
      exact ⟨hstarts.1, ih (fun x hx => hw x (List.mem_cons_of_mem d hx)) hstarts.2⟩
  | @passage a pieces hends _ _ =>
    obtain ⟨u, v, hshown, hu, hkept, hv⟩ := a.shown_eq_append
    have hne : a.shown ≠ [] := by simp [hshown, hu]
    have hapart : Apart a.shown (written Secret.shown pieces) :=
      (opensBlank_written hends Secret.shown).apart a.shown
    have hshort := hapart.prefix_of_prefix hne hw hstarts
    rw [hshown] at hshort
    have htext := (prefix_of_prefix_append hv hshort).trans hkept
    exact htext.trans (List.prefix_append _ _)

/-- A text up to an at sign that stands in the pieces stood there before secrets were replaced. -/
theorem infix_text_of_shown (h : Leftmost secretForm pieces)
    (hw : ∀ c ∈ w ++ ['@'], ¬ isBlank c) (hinside : w ++ ['@'] <:+: written Secret.shown pieces) :
    w ++ ['@'] <:+: written Secret.text pieces := by
  induction h with
  | nil => exact hinside
  | kept hbegins hpieces ih =>
    rcases List.infix_cons_iff.mp hinside with hstarts | hinside
    · exact (prefix_text_of_shown (.kept hbegins hpieces) hw hstarts).isInfix
    · exact List.infix_cons (ih hinside)
  | @passage a pieces hends _ ih =>
    obtain ⟨u, v, hshown, -, hkept, hv⟩ := a.shown_eq_append
    have hblank := opensBlank_written hends Secret.shown
    rcases infix_or_infix_of_opensBlank hblank hw hinside with hinside | hinside
    · rw [hshown] at hinside
      have htext := (infix_of_infix_append hv hinside).trans hkept.isInfix
      exact htext.trans List.infix_append_left
    · exact (ih hinside).trans List.infix_append_right

end

/-- Replacing secrets makes no links with credentials. -/
theorem not_link_infix_redactValues {s : List Char} (hs : ∀ l : Link, ¬ l.text <:+: s) (l : Link) :
    ¬ l.text <:+: redactValues s := by
  obtain ⟨pieces, hpieces, rfl⟩ := exists_leftmost secretForm s
  rw [rewrites_redactValues.eq_written hpieces]
  intro hl
  apply hs l
  exact infix_text_of_shown (w := ':' :: '/' :: '/' :: l.credential) hpieces l.not_isBlank hl

theorem not_link_infix_redacted (s : List Char) (l : Link) : ¬ l.text <:+: redacted s :=
  not_link_infix_redactValues (not_link_infix_redactLinks s) l

theorem cut_isPrefix (length : Int) (s : List Char) : cut length s <+: s := by
  unfold cut
  split
  · exact List.take_prefix _ _
  · exact List.take_prefix _ _

/-- A sanitized text has no link with credentials, wherever it is cut off. -/
theorem not_link_infix_sanitizeTo (length : Int) (message : String) (l : Link) :
    ¬ l.text <:+: (sanitizeTo length message).toList := by
  intro hl
  rw [sanitizeTo, String.toList_ofList] at hl
  exact not_link_infix_redacted message.toList l (hl.trans (cut_isPrefix length _).isInfix)

/-! ## Sanitizing again

Whether a secret begins at a place depends on what follows up to the first sign, and on there being
anything but blanks behind it.  That part of the text is kept. -/

/-- A secret begins where a telling word, blanks and a sign stand, and then not only blanks. -/
theorem begins_secret_iff {s : List Char} :
    secretForm.Begins s ↔ ∃ word gap separator rest, s = (word ++ gap) ++ separator :: rest ∧
      IsTelling word ∧ (∀ c ∈ gap, isBlank c) ∧ IsSeparator separator ∧
      ∃ c ∈ rest, ¬ isBlank c := by
  constructor
  · rintro ⟨a, rest, rfl, -⟩
    obtain ⟨c, hc, hblank⟩ := a.exists_mem_value
    refine ⟨a.word, a.gap, a.separator, a.space ++ a.value ++ rest, ?_, a.isTelling_word,
      a.isBlank_gap, a.isSeparator, c, by simp [hc], hblank⟩
    simp [secretForm, Secret.text, Secret.lead]
  · rintro ⟨word, gap, separator, rest, rfl, hword, hgap, hseparator, c, hc, hblank⟩
    have hbehind : rest.dropWhile isBlank ≠ [] := fun hnil =>
      hblank (List.dropWhile_eq_nil_iff.mp hnil c hc)
    let a : Secret := {
      word, gap, separator
      space := rest.takeWhile isBlank
      value := (rest.dropWhile isBlank).takeWhile (!isBlank ·)
      isTelling_word := hword
      isBlank_gap := hgap
      isSeparator := hseparator
      isBlank_space := fun _ => List.mem_takeWhile_imp
      value_ne_nil := takeWhile_ne_nil_of_dropWhile hbehind
      not_isBlank_value := fun d hd => by simpa using List.mem_takeWhile_imp hd }
    refine ⟨a, (rest.dropWhile isBlank).dropWhile (!isBlank ·), ?_, opensBlank_dropWhile _⟩
    simp [secretForm, Secret.text, Secret.lead, a]

/-- Pieces with a secret stay as they are up to its sign, behind which there are not only blanks. -/
theorem written_cases (pieces : List (Piece Secret)) :
    written Secret.shown pieces = written Secret.text pieces ∨
      ∃ u v w, written Secret.shown pieces = u ++ v ∧ written Secret.text pieces = u ++ w ∧
        (∃ c ∈ u, IsSeparator c) ∧ ∃ c ∈ w, ¬ isBlank c := by
  induction pieces with
  | nil => exact .inl rfl
  | cons piece pieces ih =>
    cases piece with
    | kept c =>
      rcases ih with hsame | ⟨u, v, w, hshown, htext, ⟨d, hd, hsign⟩, hrest⟩
      · exact .inl (by rw [written_kept, written_kept, hsame])
      · exact .inr ⟨c :: u, v, w, by simp [hshown], by simp [htext],
          ⟨d, List.mem_cons_of_mem c hd, hsign⟩, hrest⟩
    | passage a =>
      obtain ⟨c, hc, hblank⟩ := a.exists_mem_value
      refine .inr ⟨a.lead ++ [a.separator],
        a.again.space ++ a.again.value ++ written Secret.shown pieces,
        a.space ++ a.value ++ written Secret.text pieces, ?_, ?_, ?_, ?_⟩
      · rw [written_passage, ← a.text_again, Secret.text]
        simp [Secret.again, Secret.lead]
      · simp [Secret.text]
      · exact ⟨a.separator, by simp, a.isSeparator⟩
      · exact ⟨c, by simp [hc], hblank⟩

/-- A word with its blanks has no sign, so the sign behind it is not behind another one. -/
theorem IsTelling.separator_prefix {word gap rest u v : List Char} {separator d : Char}
    (hword : IsTelling word) (hgap : ∀ c ∈ gap, isBlank c) (hd : d ∈ u) (hsign : IsSeparator d)
    (hsplit : (word ++ gap) ++ separator :: rest = u ++ v) :
    (word ++ gap) ++ [separator] <+: u := by
  have hboth : (word ++ gap) ++ [separator] <+: u ++ v :=
    ⟨rest, by rw [← hsplit, List.append_assoc, List.singleton_append]⟩
  rcases List.prefix_or_prefix_of_prefix hboth (List.prefix_append u v) with hu | hu
  · exact hu
  · rcases List.prefix_concat_iff.mp hu with rfl | hu
    · exact List.prefix_rfl
    · exact absurd (hu.subset hd) (hword.separator_not_mem hgap hsign)

/-- Where a secret begins, one began before secrets were replaced. -/
theorem begins_text_of_shown {pieces : List (Piece Secret)}
    (h : secretForm.Begins (written Secret.shown pieces)) :
    secretForm.Begins (written Secret.text pieces) := by
  rcases written_cases pieces with hsame | ⟨u, v, w, hshown, htext, ⟨d, hd, hsign⟩, c, hc, hblank⟩
  · rwa [← hsame]
  rw [begins_secret_iff] at h ⊢
  obtain ⟨word, gap, separator, rest, hsplit, hword, hgap, hseparator, -⟩ := h
  have hkept : (word ++ gap) ++ [separator] <+: u :=
    hword.separator_prefix hgap hd hsign (hsplit.symm.trans hshown)
  obtain ⟨r, rfl⟩ := hkept
  refine ⟨word, gap, separator, r ++ w, ?_, hword, hgap, hseparator, c, by simp [hc], hblank⟩
  rw [htext, List.append_assoc, List.append_assoc, List.singleton_append]

/-- Replacing secrets again changes nothing. -/
theorem redactValues_redactValues (s : List Char) :
    redactValues (redactValues s) = redactValues s := by
  obtain ⟨pieces, hpieces, rfl⟩ := exists_leftmost secretForm s
  rw [rewrites_redactValues.eq_written hpieces]
  induction hpieces with
  | nil => rfl
  | @kept c pieces hbegins _ ih =>
    have hagain : ¬ secretForm.Begins (written Secret.shown (.kept c :: pieces)) := fun h =>
      hbegins (begins_text_of_shown h)
    rw [written_kept, rewrites_redactValues.kept hagain, ih]
  | @passage a pieces hends _ ih =>
    have hopens := opensBlank_written hends Secret.shown
    have hpassage := rewrites_redactValues.passage a.again hopens
    rw [show secretForm.text a.again = a.shown from a.text_again, a.shown_again, ih] at hpassage
    exact hpassage

theorem redacted_redacted (s : List Char) : redacted (redacted s) = redacted s := by
  have hlinks : redactLinks (redacted s) = redacted s :=
    rewrites_redactLinks.eq_self (not_link_infix_redacted s)
  rw [redacted, hlinks, redacted, redactValues_redactValues]

/-- A sanitized text of which nothing was cut off is left alone when it is sanitized again. -/
theorem sanitizeTo_sanitizeTo {length : Int} {message : String}
    (h : cut length (redacted message.toList) = redacted message.toList) :
    sanitizeTo length (sanitizeTo length message) = sanitizeTo length message := by
  have hfirst : sanitizeTo length message = String.ofList (redacted message.toList) :=
    congrArg String.ofList h
  rw [hfirst, sanitizeTo, String.toList_ofList]
  exact congrArg String.ofList ((congrArg (cut length) (redacted_redacted _)).trans h)

/-- A password in a link and a padded token, told twice. -/
theorem refusedLogin_unchanged :
    cut 80 (redacted "no login at https://jo:pw@host with token: YWJjZA==".toList) =
        redacted "no login at https://jo:pw@host with token: YWJjZA==".toList ∧
      sanitizeTo 80 (sanitizeTo 80 "no login at https://jo:pw@host with token: YWJjZA==") =
        sanitizeTo 80 "no login at https://jo:pw@host with token: YWJjZA==" :=
  ⟨by decide, sanitizeTo_sanitizeTo (by decide)⟩

end RoleGrants.Redaction
