import RoleGrants.Proofs.Redaction.Sanitized

/-!
# Tokens of bearers

A request shows who it comes from in a header that names itself, `Authorization`, the scheme,
`Bearer`, and a token.  To redaction the header's name is a telling word, and its value ends at the
next blank: it is the scheme.  So the marker stands for the scheme, and the token behind it is read
on its own.  `bearer_tokens_told_apart` says that this is all that is done to it: a token that holds
no credentials of its own is shown in full.
-/

namespace RoleGrants.Redaction

open RoleGrants.Text

/-! ## Texts without telling words -/

/-- No telling word stands in a text, whatever its case. -/
def Wordless (s : List Char) : Prop := ∀ word ∈ tellingWords, ¬ word <:+: s.map folded

instance (s : List Char) : Decidable (Wordless s) :=
  inferInstanceAs (Decidable (∀ _ ∈ tellingWords, _))

theorem wordless_iff {s : List Char} : Wordless s ↔ ∀ w, w <:+: s → ¬ IsTelling w := by
  constructor
  · intro h w hw htelling
    exact h _ htelling (hw.map folded)
  · rintro h word hword hinside
    obtain ⟨w, hw, rfl⟩ := List.infix_map_iff.mp hinside
    exact h w hw hword

/-- Where no telling word stands, values are left alone. -/
theorem redactValues_append_of_wordless {s t : List Char} (hs : Wordless s) (h : Apart s t) :
    redactValues (s ++ t) = s ++ redactValues t := by
  rw [wordless_iff] at hs
  induction s with
  | nil => rfl
  | cons c s ih =>
    have hbegins : ¬ secretForm.Begins (c :: (s ++ t)) := by
      rintro ⟨a, rest, htext, -⟩
      have hstarts : a.word <+: (c :: s) ++ t := by
        refine ⟨a.gap ++ a.separator :: (a.space ++ a.value) ++ rest, ?_⟩
        rw [List.cons_append, htext, ← List.append_assoc, ← a.text_eq]
        rfl
      have hword := h.prefix_of_prefix (List.cons_ne_nil c s) a.isTelling_word.not_isBlank hstarts
      exact hs _ hword.isInfix a.isTelling_word
    rw [List.cons_append, rewrites_redactValues.kept hbegins,
      ih (fun w hw => hs w (List.infix_cons hw)) (Apart.of_append (u := [c]) h), List.cons_append]

/-! ## Links beside blanks -/

theorem redactLinks_blank {b : Char} (h : isBlank b) : redactLinks [b] = [b] := by
  apply redactLinks_of_no_at
  intro hmem
  rw [← List.mem_singleton.mp hmem] at h
  exact absurd h (by decide)

theorem endsBlank_redactLinks {s : List Char} (h : EndsBlank s) : EndsBlank (redactLinks s) := by
  rcases List.eq_nil_or_concat s with rfl | ⟨s, b, rfl⟩
  · exact h
  · rw [List.concat_eq_append] at h ⊢
    have hblank := endsBlank_concat.mp h
    have hapart : Apart s [b] := (opensBlank_cons.mpr hblank).apart s
    rw [redactLinks_append hapart, redactLinks_blank hblank]
    exact endsBlank_concat.mpr hblank

theorem opensBlank_redactLinks {s : List Char} (h : OpensBlank s) : OpensBlank (redactLinks s) := by
  cases s with
  | nil => exact h
  | cons b s =>
    have hblank := opensBlank_cons.mp h
    have hapart : Apart [b] s := EndsBlank.apart (endsBlank_concat (s := []).mpr hblank) s
    rw [← List.singleton_append, redactLinks_append hapart, redactLinks_blank hblank]
    exact opensBlank_cons.mpr hblank

/-- A telling word that stands in the pieces stood there before links were replaced: it has none of
the signs of a link, and the marker holds no such word. -/
theorem infix_text_of_shown_link {w : List Char} (hw : IsTelling w) {pieces : List (Piece Link)}
    (h : w <:+: written Link.shown pieces) : w <:+: written Link.text pieces := by
  have hslash : '/' ∉ w := hw.not_mem (by decide)
  have hat : '@' ∉ w := hw.not_mem (by decide)
  have hlast : w.getLast? ≠ some ':' := fun h => hw.not_mem (by decide) (List.mem_of_getLast? h)
  induction pieces with
  | nil => exact h
  | cons piece pieces ih =>
    cases piece with
    | kept c =>
      rcases List.infix_cons_iff.mp h with hstarts | hinside
      · have hkept : w <+: written Link.shown (.kept c :: pieces) := hstarts
        exact (prefix_text_of_shown_link hslash hlast hkept).isInfix
      · exact List.infix_cons (ih hinside)
    | passage l =>
      rcases List.infix_append_iff_ne_nil.mp h with
        hmarker | hinside | ⟨v, x, hv, -, rfl, ⟨u, hu⟩, -⟩
      · have hwordless : Wordless (':' :: '/' :: '/' :: (marker ++ ['@'])) := by decide
        exact absurd hw (wordless_iff.mp hwordless w hmarker)
      · exact (ih hinside).trans List.infix_append_right
      · have hmem : '@' ∈ v := at_mem_of_append (w := ':' :: '/' :: '/' :: marker) hu.symm hv
        exact absurd (List.mem_append_left x hmem) hat

/-- Replacing links makes no telling words. -/
theorem wordless_redactLinks {s : List Char} (h : Wordless s) : Wordless (redactLinks s) := by
  rw [wordless_iff] at h ⊢
  intro w hinside hw
  obtain ⟨pieces, hpieces, rfl⟩ := exists_leftmost linkForm s
  rw [rewrites_redactLinks.eq_written hpieces] at hinside
  exact h w (infix_text_of_shown_link hw hinside) hw

/-! ## Headers -/

/-- A header in front of a bearer's token, in some capitalisation. -/
structure BearerHeader where
  name : List Char
  scheme : List Char
  folded_name : name.map folded = "authorization".toList
  folded_scheme : scheme.map folded = "bearer".toList

namespace BearerHeader

variable (header : BearerHeader)

/-- How a header is written. -/
def text : List Char := header.name ++ ':' :: ' ' :: (header.scheme ++ [' '])

/-- What is written for a header. -/
def shown : List Char := header.name ++ ':' :: ' ' :: (marker ++ [' '])

/-- A text with a token behind the header. -/
def carrying (before after token : List Char) : List Char :=
  before ++ (header.text ++ (token ++ after))

theorem isTelling_name : IsTelling header.name := by
  rw [IsTelling, header.folded_name]
  decide

theorem isTelling_scheme : IsTelling header.scheme := by
  rw [IsTelling, header.folded_scheme]
  decide

/-- The name of a header with the scheme as its value. -/
def secret : Secret :=
  .behindColon header.name header.scheme header.isTelling_name header.isTelling_scheme.ne_nil
    header.isTelling_scheme.not_isBlank

theorem text_eq : header.text = header.secret.text ++ [' '] := by
  simp [text, secret, Secret.behindColon, Secret.text, Secret.lead]

theorem shown_eq : header.shown = header.secret.shown ++ [' '] := by
  have hleaks : ¬ header.secret.Leaks := fun h =>
    header.isTelling_scheme.not_mem (by decide) h.2
  rw [Secret.shown, if_neg hleaks]
  simp [shown, secret, Secret.behindColon, Secret.veiled, Secret.lead]

theorem at_not_mem : '@' ∉ header.text := by
  have hname : '@' ∉ header.name := header.isTelling_name.not_mem (by decide)
  have hscheme : '@' ∉ header.scheme := header.isTelling_scheme.not_mem (by decide)
  simp [text, hname, hscheme]

end BearerHeader

variable {before after : List Char}

/-- The marker stands for the scheme, and what is behind it is read on its own. -/
theorem redacted_header (header : BearerHeader) (hbefore : EndsBlank before)
    (hwordless : Wordless before) (rest : List Char) :
    redacted (before ++ (header.text ++ rest)) =
      redactLinks before ++ (header.shown ++ redacted rest) := by
  have hends : EndsBlank header.text := by
    rw [header.text_eq]
    exact endsBlank_concat.mpr (by decide)
  have hopens : OpensBlank (' ' :: redactLinks rest) := opensBlank_cons.mpr (by decide)
  have hspace : EndsBlank [' '] := by decide
  have hlinks : redactLinks (before ++ (header.text ++ rest)) =
      redactLinks before ++ (header.secret.text ++ ' ' :: redactLinks rest) := by
    rw [redactLinks_append (hbefore.apart _), redactLinks_append (hends.apart _),
      redactLinks_of_no_at header.at_not_mem, header.text_eq, List.append_assoc,
      List.singleton_append]
  have hvalues : redactValues (header.secret.text ++ ' ' :: redactLinks rest) =
      header.secret.shown ++ ' ' :: redacted rest := by
    have hpassage := rewrites_redactValues.passage header.secret hopens
    have hrest := redactValues_append_of_wordless (by decide) (hspace.apart (redactLinks rest))
    rw [List.singleton_append] at hrest
    rw [hrest] at hpassage
    exact hpassage
  calc redacted (before ++ (header.text ++ rest))
      = redactValues (redactLinks before ++ (header.secret.text ++ ' ' :: redactLinks rest)) :=
        congrArg redactValues hlinks
    _ = redactLinks before ++ (header.secret.shown ++ ' ' :: redacted rest) := by
        rw [redactValues_append_of_wordless (wordless_redactLinks hwordless)
          ((endsBlank_redactLinks hbefore).apart _), hvalues]
    _ = redactLinks before ++ (header.shown ++ redacted rest) := by
        rw [header.shown_eq, List.append_assoc, List.singleton_append]

/-- A token that holds no credentials of its own. -/
structure Plain (token : List Char) : Prop where
  wordless : Wordless token
  linkless : ∀ l : Link, ¬ l.text <:+: token

theorem Plain.of_no_at {token : List Char} (hwordless : Wordless token) (hat : '@' ∉ token) :
    Plain token :=
  ⟨hwordless, fun l hl => hat (hl.subset l.at_mem_text)⟩

/-- A plain token is shown. -/
theorem Plain.redacted_append {token : List Char} (h : Plain token) (hafter : OpensBlank after) :
    redacted (token ++ after) = token ++ redacted after := by
  rw [redacted, redactLinks_append (hafter.apart token), rewrites_redactLinks.eq_self h.linkless,
    redactValues_append_of_wordless h.wordless ((opensBlank_redactLinks hafter).apart token),
    redacted]

/-- Behind an authorization header the token of a bearer is read as a text of its own, and what is
shown of the header does not depend on it. So two tokens are told apart where redaction tells them
apart, and those that hold no credentials of their own always are. -/
theorem bearer_tokens_told_apart (header : BearerHeader) (hbefore : EndsBlank before)
    (hwordless : Wordless before) (hafter : OpensBlank after) (v w : List Char) :
    (∀ length, sanitizeTo length (String.ofList (header.carrying before after v)) =
      String.ofList (cut length (redactLinks before ++ (header.shown ++ redacted (v ++ after))))) ∧
    (redacted (header.carrying before after v) = redacted (header.carrying before after w) ↔
      redacted (v ++ after) = redacted (w ++ after)) ∧
    (Plain v → Plain w → (redacted (v ++ after) = redacted (w ++ after) ↔ v = w)) := by
  have hredacted := redacted_header header hbefore hwordless
  refine ⟨?_, ?_, ?_⟩
  · intro length
    rw [sanitizeTo, String.toList_ofList]
    exact congrArg (String.ofList <| cut length ·) (hredacted (v ++ after))
  · rw [BearerHeader.carrying, BearerHeader.carrying, hredacted, hredacted,
      List.append_cancel_left_eq, List.append_cancel_left_eq]
  · intro hv hw
    rw [hv.redacted_append hafter, hw.redacted_append hafter, List.append_cancel_right_eq]

/-- A header as clients of the cluster write it. -/
def clientHeader : BearerHeader := ⟨"Authorization".toList, "Bearer".toList, by decide, by decide⟩

/-- The text of a failure that quotes the header, in front of another one. -/
def forbidden (token : List Char) : List Char :=
  clientHeader.carrying "Forbidden for ".toList " Accept: */*".toList token

theorem clientHeader_shown :
    EndsBlank "Forbidden for ".toList ∧ Wordless "Forbidden for ".toList ∧
      OpensBlank " Accept: */*".toList ∧ Plain "eyJh.bGci".toList ∧ Plain "eyJh.aXNz".toList ∧
      sanitizeTo 500 (String.ofList (forbidden "eyJh.bGci".toList)) =
        "Forbidden for Authorization: <REDACTED> eyJh.bGci Accept: */*" ∧
      redacted (forbidden "eyJh.bGci".toList) ≠ redacted (forbidden "eyJh.aXNz".toList) := by
  have hplain : Plain "eyJh.bGci".toList := .of_no_at (by decide) (by decide)
  have hplain' : Plain "eyJh.aXNz".toList := .of_no_at (by decide) (by decide)
  obtain ⟨hshown, hsame, hplains⟩ := @bearer_tokens_told_apart
    "Forbidden for ".toList " Accept: */*".toList clientHeader (by decide) (by decide) (by decide)
    "eyJh.bGci".toList "eyJh.aXNz".toList
  refine ⟨by decide, by decide, by decide, hplain, hplain', (hshown 500).trans (by decide), ?_⟩
  rw [forbidden, forbidden, ne_eq, hsame, hplains hplain hplain']
  decide

/-- What is shown behind a header tells one token from another. -/
theorem bearerTokens_shown :
    sanitize "Authorization: Bearer abc" = "Authorization: <REDACTED> abc" ∧
      sanitize "Authorization: Bearer xyz" = "Authorization: <REDACTED> xyz" := by
  decide

end RoleGrants.Redaction
