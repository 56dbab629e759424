import RoleGrants.Proofs.Redaction.Sanitized

/-!
# Texts without credentials

A text is clean if sanitizing leaves it alone, as long as nothing is cut off.  It is then without
links with credentials, and the marker stands for the value of each of its secrets already
(`clean_iff`).  What stands in front of a blank in a clean text is clean, `Clean.of_append`, so a
text that is not clean does not become so by what is told behind it.
-/

namespace RoleGrants.Redaction

open RoleGrants.Text

/-- Sanitizing leaves a text alone if all of it may be kept. -/
def Clean (message : String) : Prop :=
  ∀ length : Nat, message.length ≤ length → sanitizeTo length message = message

theorem cut_of_length_le {length : Nat} {s : List Char} (h : s.length ≤ length) :
    cut length s = s := by
  rw [cut, if_pos (Int.natCast_nonneg length), Int.toNat_natCast, List.take_of_length_le h]

theorem clean_iff_redacted {message : String} :
    Clean message ↔ redacted message.toList = message.toList := by
  constructor
  · intro h
    -- Nothing of what is written is cut off if the length is that of the longer text.
    have hlength := h (max message.length (redacted message.toList).length) (Nat.le_max_left _ _)
    have hkept := cut_of_length_le (Nat.le_max_right message.length (redacted message.toList).length)
    calc redacted message.toList
        = (String.ofList (cut _ (redacted message.toList))).toList := by
          rw [hkept, String.toList_ofList]
      _ = message.toList := congrArg String.toList hlength
  · intro h length hlength
    have hkept : cut length message.toList = message.toList := cut_of_length_le hlength
    show String.ofList (cut length (redacted message.toList)) = message
    rw [h, hkept, String.ofList_toList]

/-! ## Secrets that are written as they are -/

namespace Secret

variable {a : Secret}

/-- The marker stands where the value of a secret would. -/
inductive IsVeiled (a : Secret) : Prop
  | behindEquals (separator : a.separator = '=') (space : a.space = []) (value : a.value = marker)
  | behindColon (separator : a.separator = ':') (space : a.space = [' ']) (value : a.value = marker)
  /-- What leaked of a value stands in front of the marker. -/
  | inside {u : List Char} (separator : a.separator = ':') (first : '=' ∉ u)
      (value : a.value = u ++ '=' :: marker)

theorem again_eq_self_iff : a.again = a ↔ a.IsVeiled := by
  have hmarker : '=' ∉ marker := by decide
  constructor
  · intro h
    by_cases hleaks : a.Leaks
    · have hvalue := (again_of_leaks hleaks).2
      rw [h] at hvalue
      refine .inside hleaks.1 (fun hmem => ?_) hvalue
      have hne := List.mem_takeWhile_imp (p := (· ≠ '=')) hmem
      simp at hne
    · obtain ⟨hspace, hvalue⟩ := again_of_not_leaks hleaks
      rw [h] at hspace hvalue
      rcases a.isSeparator with hseparator | hseparator
      · rw [if_pos hseparator] at hspace
        exact .behindEquals hseparator hspace hvalue
      · rw [if_neg (by simp [hseparator])] at hspace
        exact .behindColon hseparator hspace hvalue
  · intro h
    have hparts : a.again.space = a.space ∧ a.again.value = a.value := by
      cases h with
      | behindEquals separator space value =>
        have hleaks : ¬ a.Leaks := fun hleaks => hmarker (value ▸ hleaks.2)
        simp [again_of_not_leaks hleaks, separator, space, value]
      | behindColon separator space value =>
        have hleaks : ¬ a.Leaks := fun hleaks => hmarker (value ▸ hleaks.2)
        simp [again_of_not_leaks hleaks, separator, space, value]
      | inside separator first value =>
        have hleaks : a.Leaks := ⟨separator, by simp [value]⟩
        rw [(again_of_leaks hleaks).1, (again_of_leaks hleaks).2, leaked, value,
          takeWhile_ne_append first]
        exact ⟨rfl, rfl⟩
    exact Secret.ext rfl rfl rfl hparts.1 hparts.2

end Secret

/-! ## Pieces -/

section

variable {α β : Type}

/-- A piece with another passage in place of its own. -/
def Piece.map (f : α → β) : Piece α → Piece β
  | .kept c => .kept c
  | .passage a => .passage (f a)

theorem written_map (shown : β → List Char) (f : α → β) (pieces : List (Piece α)) :
    written shown (pieces.map (.map f)) = written (shown ∘ f) pieces := by
  induction pieces with
  | nil => rfl
  | cons piece pieces ih => cases piece <;> simp [Piece.map, ih]

end

variable {pieces : List (Piece Secret)}

theorem written_again (pieces : List (Piece Secret)) :
    written Secret.text (pieces.map (.map Secret.again)) = written Secret.shown pieces := by
  have htext : Secret.text ∘ Secret.again = Secret.shown := funext Secret.text_again
  rw [written_map, htext]

/-- What is written for pieces has pieces again, of the same kinds. -/
theorem leftmost_again (h : Leftmost secretForm pieces) :
    Leftmost secretForm (pieces.map (.map Secret.again)) := by
  induction h with
  | nil => exact .nil
  | @kept c pieces hbegins _ ih =>
    refine .kept (fun hagain => ?_) ih
    have hshown : secretForm.Begins (written Secret.shown (.kept c :: pieces)) := by
      rw [written_kept, ← written_again]
      exact hagain
    exact hbegins (begins_text_of_shown hshown)
  | @passage a pieces hends _ ih =>
    refine .passage ?_ ih
    show OpensBlank (written Secret.text (pieces.map (.map Secret.again)))
    rw [written_again]
    exact opensBlank_written hends Secret.shown

/-- Secrets are left alone if the marker stands for each value already. -/
theorem redactValues_eq_self_iff (h : Leftmost secretForm pieces) :
    redactValues (written Secret.text pieces) = written Secret.text pieces ↔
      ∀ a, .passage a ∈ pieces → a.IsVeiled := by
  have hsame : redactValues (written Secret.text pieces) = written Secret.text pieces ↔
      pieces.map (.map Secret.again) = pieces := by
    rw [show redactValues (written Secret.text pieces) = written Secret.shown pieces from
      rewrites_redactValues.eq_written h, ← written_again]
    exact ⟨(leftmost_again h).unique secretForm_unambiguous h, congrArg (written Secret.text)⟩
  have hpieces : pieces.map (.map Secret.again) = pieces ↔
      ∀ piece ∈ pieces, piece.map Secret.again = piece := by
    simpa using List.map_inj_left (f := Piece.map Secret.again) (g := id) (l := pieces)
  rw [hsame, hpieces]
  constructor
  · intro h a ha
    exact Secret.again_eq_self_iff.mp (Piece.passage.inj (h _ ha))
  · intro h piece hpiece
    cases piece with
    | kept c => rfl
    | passage a => exact congrArg Piece.passage (Secret.again_eq_self_iff.mpr (h a hpiece))

/-! ## Clean texts -/

theorem redacted_eq_self_iff {s : List Char} :
    redacted s = s ↔ (∀ l : Link, ¬ l.text <:+: s) ∧ redactValues s = s := by
  constructor
  · intro h
    have hlinks : ∀ l : Link, ¬ l.text <:+: s := h ▸ not_link_infix_redacted s
    rw [redacted, rewrites_redactLinks.eq_self hlinks] at h
    exact ⟨hlinks, h⟩
  · rintro ⟨hlinks, hvalues⟩
    rw [redacted, rewrites_redactLinks.eq_self hlinks, hvalues]

/-- No link with credentials stands in a clean text, and its secrets are veiled. -/
theorem clean_iff {message : String} :
    Clean message ↔ (∀ l : Link, ¬ l.text <:+: message.toList) ∧
      ∀ pieces, Leftmost secretForm pieces → written Secret.text pieces = message.toList →
        ∀ a, .passage a ∈ pieces → a.IsVeiled := by
  rw [clean_iff_redacted, redacted_eq_self_iff]
  refine and_congr_right fun _ => ?_
  constructor
  · intro h pieces hpieces htext
    rw [← htext] at h
    exact (redactValues_eq_self_iff hpieces).mp h
  · intro h
    obtain ⟨pieces, hpieces, htext⟩ := exists_leftmost secretForm message.toList
    rw [← htext]
    exact (redactValues_eq_self_iff hpieces).mpr (h pieces hpieces htext)

/-- A text without equals signs and colons is clean. -/
theorem clean_of_no_separator {message : String} (hequals : '=' ∉ message.toList)
    (hcolon : ':' ∉ message.toList) : Clean message := by
  rw [clean_iff_redacted, redacted_eq_self_iff]
  constructor
  · intro l hl
    exact hcolon (hl.subset List.mem_cons_self)
  · refine rewrites_redactValues.eq_self fun a ha => ?_
    have hseparator : a.separator ∈ message.toList :=
      ha.subset (by simp [secretForm, Secret.text])
    rcases a.isSeparator with heq | heq
    · exact hequals (heq ▸ hseparator)
    · exact hcolon (heq ▸ hseparator)

/-! ## Clean texts in front of others -/

/-- If a secret begins with a text and reaches over it, there is none in the rest of the text. -/
theorem not_secret_infix_of_begins {c : Char} {s t : List Char}
    (hover : secretForm.Begins (c :: (s ++ t))) (hnot : ¬ secretForm.Begins (c :: s)) (a : Secret) :
    ¬ a.text <:+: s := by
  rintro ⟨before, behind, rfl⟩
  apply hnot
  rw [begins_secret_iff] at hover ⊢
  obtain ⟨word, gap, separator, rest, hsplit, hword, hgap, hseparator, -⟩ := hover
  -- The first sign would be in front of that of the other secret, and the value behind it.
  have hboth : (word ++ gap) ++ separator :: rest =
      (c :: before ++ a.lead ++ [a.separator]) ++ (a.space ++ a.value ++ behind ++ t) := by
    rw [← hsplit]
    simp [Secret.text]
  obtain ⟨r, hr⟩ := hword.separator_prefix hgap (by simp) a.isSeparator hboth
  obtain ⟨d, hd, hblank⟩ := a.exists_mem_value
  refine ⟨word, gap, separator, r ++ a.space ++ a.value ++ behind, ?_, hword, hgap, hseparator,
    d, by simp [hd], hblank⟩
  calc c :: (before ++ a.text ++ behind)
      = (c :: before ++ a.lead ++ [a.separator]) ++ (a.space ++ a.value ++ behind) := by
        simp [Secret.text]
    _ = ((word ++ gap) ++ [separator] ++ r) ++ (a.space ++ a.value ++ behind) := by rw [hr]
    _ = (word ++ gap) ++ separator :: (r ++ a.space ++ a.value ++ behind) := by simp

theorem opensBlank_redactValues {s : List Char} (h : OpensBlank s) :
    OpensBlank (redactValues s) := by
  obtain ⟨pieces, hpieces, rfl⟩ := exists_leftmost secretForm s
  rw [rewrites_redactValues.eq_written hpieces]
  exact opensBlank_written h Secret.shown

/-- A secret that is left alone is veiled, and so what is behind it is left alone. -/
theorem isVeiled_of_redactValues {a : Secret} {rest : List Char} (hends : OpensBlank rest)
    (h : redactValues (a.text ++ rest) = a.text ++ rest) :
    a.IsVeiled ∧ redactValues rest = rest := by
  have hpassage : a.again.text ++ redactValues rest = a.text ++ rest := by
    rw [a.text_again, ← h]
    exact (rewrites_redactValues.passage a hends).symm
  have hsame : a.again = a :=
    secretForm_unambiguous _ _ _ _ hpassage (opensBlank_redactValues hends) hends
  rw [hsame] at hpassage
  exact ⟨Secret.again_eq_self_iff.mp hsame, List.append_cancel_left hpassage⟩

/-- Where secrets are left alone, they are so in what stands in front of a blank. -/
theorem redactValues_eq_self_of_append {s t : List Char} (ht : OpensBlank t)
    (h : redactValues (s ++ t) = s ++ t) : redactValues s = s := by
  obtain ⟨pieces, hpieces, rfl⟩ := exists_leftmost secretForm s
  induction hpieces with
  | nil => rfl
  | @kept c pieces hbegins _ ih =>
    rw [written_kept, rewrites_redactValues.kept hbegins]
    by_cases hover : secretForm.Begins (c :: (written secretForm.text pieces ++ t))
    · rw [rewrites_redactValues.eq_self (not_secret_infix_of_begins hover hbegins)]
    · rw [written_kept, List.cons_append, rewrites_redactValues.kept hover, List.cons.injEq] at h
      rw [ih h.2]
  | @passage a pieces hends hpieces ih =>
    rw [written_passage, List.append_assoc] at h
    obtain ⟨hveiled, hrest⟩ := isVeiled_of_redactValues (hends.append ht) h
    have hshown : a.shown = secretForm.text a := by
      rw [← a.text_again, Secret.again_eq_self_iff.mpr hveiled]
      rfl
    rw [written_passage, rewrites_redactValues.passage a hends, hshown, ih hrest]

/-- What stands in front of a blank in a clean text is clean. -/
theorem Clean.of_append {s t : String} (h : Clean (s ++ t)) (ht : OpensBlank t.toList) :
    Clean s := by
  rw [clean_iff_redacted, redacted_eq_self_iff, String.toList_append] at h
  rw [clean_iff_redacted, redacted_eq_self_iff]
  exact ⟨fun l hl => h.1 l (hl.trans List.infix_append_left),
    redactValues_eq_self_of_append ht h.2⟩

end RoleGrants.Redaction
