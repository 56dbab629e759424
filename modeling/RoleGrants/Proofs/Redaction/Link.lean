import RoleGrants.Proofs.Redaction.Passage

/-!
# Credentials in links

Credentials stand in a link between its two slashes and an at sign: a user, a colon and a password.
Once they are replaced none are left, `not_link_infix_redactLinks`.  A link that only came about by
that would run into what is written for another one, or begin in it.  It can do neither: credentials
have no slashes, and the marker has no colon.
-/

namespace RoleGrants.Redaction

open RoleGrants.Text

/-! ## Links with credentials -/

/-- A link with credentials, up to its at sign. -/
structure Link where
  user : List Char
  password : List Char
  user_ne_nil : user ≠ []
  password_ne_nil : password ≠ []
  isCredentialChar_user : ∀ c ∈ user, isCredentialChar c
  isCredentialChar_password : ∀ c ∈ password, isCredentialChar c

namespace Link

/-- What stands between the slashes and the at sign. -/
def credential (l : Link) : List Char := l.user ++ ':' :: l.password

/-- How a link is written. -/
def text (l : Link) : List Char := ':' :: '/' :: '/' :: (l.credential ++ ['@'])

/-- What is written for a link. -/
def shown (_ : Link) : List Char := ':' :: '/' :: '/' :: (marker ++ ['@'])

theorem isCredentialChar_credential (l : Link) : ∀ c ∈ l.credential, isCredentialChar c := by
  intro c hc
  rcases List.mem_append.mp hc with hc | hc
  · exact l.isCredentialChar_user c hc
  · rcases List.mem_cons.mp hc with rfl | hc
    · decide
    · exact l.isCredentialChar_password c hc

theorem slash_not_mem (l : Link) : '/' ∉ l.credential := fun h =>
  absurd (l.isCredentialChar_credential _ h) (by decide)

theorem not_isBlank (l : Link) : ∀ c ∈ l.text, ¬ isBlank c := by
  have hcredential : ∀ c ∈ l.credential, ¬ isBlank c := by
    intro c hc hblank
    have hchar := l.isCredentialChar_credential c hc
    simp [isCredentialChar, hblank] at hchar
  intro c hc
  simp only [text, List.mem_cons, List.mem_append, List.not_mem_nil, or_false] at hc
  rcases hc with rfl | rfl | rfl | hc | rfl
  · decide
  · decide
  · decide
  · exact hcredential c hc
  · decide

theorem at_mem_text (l : Link) : '@' ∈ l.text := by
  simp [text]

/-- A link does not begin in a text without colons. -/
theorem infix_of_infix_append (l : Link) {u s : List Char} (hu : ':' ∉ u)
    (h : l.text <:+: u ++ s) : l.text <:+: s := by
  rcases List.infix_append_iff_ne_nil.mp h with h | h | ⟨v, w, hv, -, htext, hsuffix, -⟩
  · exact absurd (h.subset List.mem_cons_self) hu
  · exact h
  · obtain ⟨c, v, rfl⟩ := List.exists_cons_of_ne_nil hv
    obtain ⟨rfl, -⟩ := List.cons.inj htext
    exact absurd (hsuffix.subset List.mem_cons_self) hu

end Link

/-- Links with credentials, which may end anywhere. -/
def linkForm : Form Link where
  text := Link.text
  text_ne_nil _ := List.cons_ne_nil _ _
  EndsAt _ := True

theorem isCredential_iff {s : List Char} :
    isCredential s = true ↔ ∃ user password, user ≠ [] ∧ password ≠ [] ∧
      s = user ++ ':' :: password := by
  constructor
  · intro h
    cases s with
    | nil => cases h
    | cons c rest =>
      obtain ⟨before, behind, hsplit⟩ := List.append_of_mem (List.contains_iff_mem.mp h)
      have hrest : rest ≠ [] := by
        rintro rfl
        simp at hsplit
      refine ⟨c :: before, behind ++ [rest.getLast hrest], by simp, by simp, ?_⟩
      calc c :: rest = c :: (rest.dropLast ++ [rest.getLast hrest]) := by
            rw [List.dropLast_append_getLast hrest]
        _ = c :: before ++ ':' :: (behind ++ [rest.getLast hrest]) := by simp [hsplit]
  · rintro ⟨user, password, huser, hpassword, rfl⟩
    obtain ⟨c, user, rfl⟩ := List.exists_cons_of_ne_nil huser
    simp [isCredential, List.dropLast_append_of_ne_nil, List.dropLast_cons_of_ne_nil hpassword]

/-- Credentials up to an at sign, read as the longest run of their characters. -/
theorem behindCredential?_eq_some_iff {s rest : List Char} :
    behindCredential? s = some rest ↔
      ∃ w, isCredential w = true ∧ (∀ c ∈ w, isCredentialChar c) ∧ s = w ++ '@' :: rest := by
  constructor
  · intro h
    unfold behindCredential? at h
    split at h
    next rest' hdrop =>
      split at h
      next hcredential =>
        obtain rfl := Option.some.inj h
        refine ⟨s.takeWhile isCredentialChar, hcredential, fun c => List.mem_takeWhile_imp, ?_⟩
        rw [← hdrop, List.takeWhile_append_dropWhile]
      next => cases h
    next => cases h
  · rintro ⟨w, hcredential, hw, rfl⟩
    have hat : isCredentialChar '@' = false := by decide
    unfold behindCredential?
    rw [List.dropWhile_append_of_pos hw, List.takeWhile_append_of_pos hw]
    simp [hat, hcredential]

theorem links_foundBy : linkForm.FoundBy behindLink? := by
  intro s rest
  constructor
  · intro h
    unfold behindLink? at h
    split at h
    next t =>
      obtain ⟨w, hcredential, hw, rfl⟩ := behindCredential?_eq_some_iff.mp h
      obtain ⟨user, password, huser, hpassword, rfl⟩ := isCredential_iff.mp hcredential
      refine ⟨⟨user, password, huser, hpassword, ?_, ?_⟩, ?_, trivial⟩
      · exact fun c hc => hw c (by simp [hc])
      · exact fun c hc => hw c (by simp [hc])
      · simp [linkForm, Link.text, Link.credential]
    next => cases h
  · rintro ⟨l, rfl, -⟩
    apply behindCredential?_eq_some_iff.mpr
    refine ⟨l.credential, ?_, l.isCredentialChar_credential, by simp⟩
    exact isCredential_iff.mpr ⟨_, _, l.user_ne_nil, l.password_ne_nil, rfl⟩

/-! ## Replacing -/

theorem redactLinksFrom_eq_walkFrom (n : Nat) (s : List Char) :
    redactLinksFrom n s =
      walkFrom behindLink? (fun _ => ':' :: '/' :: '/' :: (marker ++ ['@'])) n s := by
  induction s generalizing n with
  | nil => simp [redactLinksFrom, walkFrom]
  | cons c s ih =>
    cases n with
    | succ n => rw [redactLinksFrom, walkFrom, ih]
    | zero =>
      rw [redactLinksFrom, walkFrom]
      cases behindLink? (c :: s) with
      | none => simp only [ih]
      | some rest => simp [ih]

/-- Links with credentials are replaced from left to right. -/
theorem rewrites_redactLinks : Rewrites linkForm Link.shown redactLinks := by
  have hwalk : redactLinks = walkFrom behindLink? _ 0 := funext (redactLinksFrom_eq_walkFrom 0)
  rw [hwalk]
  exact rewrites_walkFrom links_foundBy fun _ => rfl

/-- A text without at signs has no links with credentials. -/
theorem redactLinks_of_no_at {s : List Char} (h : '@' ∉ s) : redactLinks s = s :=
  rewrites_redactLinks.eq_self fun l hl => h (hl.subset l.at_mem_text)

/-- Links do not reach over a blank. -/
theorem redactLinks_append {s t : List Char} (h : Apart s t) :
    redactLinks (s ++ t) = redactLinks s ++ redactLinks t := by
  obtain ⟨pieces, hpieces, rfl⟩ := exists_leftmost linkForm s
  induction hpieces with
  | nil => rfl
  | @kept c pieces hbegins _ ih =>
    have hover : ¬ linkForm.Begins (c :: (written linkForm.text pieces ++ t)) := by
      rintro ⟨l, rest, htext, -⟩
      obtain ⟨rest', h'⟩ := h.prefix_of_prefix (List.cons_ne_nil _ _) l.not_isBlank
        ⟨rest, htext.symm⟩
      exact hbegins ⟨l, rest', h'.symm, trivial⟩
    have hbehind : Apart (written linkForm.text pieces) t := Apart.of_append (u := [c]) h
    rw [written_kept, List.cons_append, rewrites_redactLinks.kept hover, ih hbehind,
      rewrites_redactLinks.kept hbegins, List.cons_append]
  | passage hends _ ih =>
    rw [written_passage, List.append_assoc, rewrites_redactLinks.passage _ trivial,
      ih h.of_append, rewrites_redactLinks.passage _ trivial, List.append_assoc]

/-! ## What is left -/

/-- Pieces begin with the same text before and after links are replaced, up to where the slashes of
one come. -/
theorem prefix_text_of_shown_link {w : List Char} (hslash : '/' ∉ w) (hlast : w.getLast? ≠ some ':')
    {pieces : List (Piece Link)} (h : w <+: written Link.shown pieces) :
    w <+: written Link.text pieces := by
  induction pieces generalizing w with
  | nil => exact h
  | cons piece pieces ih =>
    rcases w with - | ⟨c, w⟩
    · exact List.nil_prefix
    cases piece with
    | kept d =>
      rw [written_kept, List.cons_prefix_cons] at h ⊢
      refine ⟨h.1, ih (fun hmem => hslash (List.mem_cons_of_mem c hmem)) ?_ h.2⟩
      intro hcolon
      apply hlast
      rw [List.getLast?_cons, hcolon]
      rfl
    | passage l =>
      obtain ⟨rfl, hslashes⟩ := List.cons_prefix_cons.mp h
      cases w with
      | nil => exact absurd rfl hlast
      | cons d w =>
        obtain ⟨rfl, -⟩ := List.cons_prefix_cons.mp hslashes
        exact absurd (by simp) hslash

/-- The pieces begin with a colon or with a character that stays. -/
theorem exists_kept_of_prefix {c : Char} {u : List Char} {pieces : List (Piece Link)} (hc : c ≠ ':')
    (h : c :: u <+: written Link.shown pieces) :
    ∃ more, pieces = .kept c :: more ∧ u <+: written Link.shown more := by
  rcases pieces with - | ⟨d | l, more⟩
  · simp at h
  · rw [written_kept, List.cons_prefix_cons] at h
    obtain ⟨rfl, h⟩ := h
    exact ⟨more, rfl, h⟩
  · exact absurd (List.cons_prefix_cons.mp h).1 hc

theorem not_link_prefix_written {pieces : List (Piece Link)} (h : Leftmost linkForm pieces)
    (l : Link) : ¬ l.text <+: written Link.shown pieces := by
  intro hl
  cases h with
  | nil => simp [Link.text] at hl
  | kept hbegins _ =>
    obtain ⟨rfl, hslashes⟩ := List.cons_prefix_cons.mp hl
    obtain ⟨_, rfl, hslash⟩ := exists_kept_of_prefix (by decide) hslashes
    obtain ⟨_, rfl, hrun⟩ := exists_kept_of_prefix (by decide) hslash
    obtain ⟨rest, hrest⟩ := prefix_text_of_shown_link (by simp [l.slash_not_mem]) (by simp) hrun
    apply hbegins
    refine ⟨l, rest, ?_, trivial⟩
    simp only [written_kept, linkForm, Link.text, List.cons_append, hrest]
  | @passage l' pieces _ _ =>
    -- The marker would be the credentials, but it has no colon.
    obtain ⟨rest, hrest⟩ := hl
    have hrun : l.credential ++ '@' :: rest = marker ++ '@' :: written Link.shown pieces := by
      simpa [Link.text, Link.shown] using hrest
    have hmarker : ∀ c ∈ marker, isCredentialChar c := List.all_eq_true.mp (by decide)
    have hat (s : List Char) : ∀ c ∈ ('@' :: s).head?, ¬ isCredentialChar c := by
      intro c hc
      obtain rfl := Option.some.inj hc
      decide
    obtain ⟨heq, -⟩ := runs_eq l.isCredentialChar_credential hmarker (hat _) (hat _) hrun
    have hcolon : ':' ∈ l.credential := by simp [Link.credential]
    rw [heq] at hcolon
    exact absurd hcolon (by decide)

theorem not_link_infix_written {pieces : List (Piece Link)} (h : Leftmost linkForm pieces)
    (l : Link) : ¬ l.text <:+: written Link.shown pieces := by
  induction h with
  | nil => simp [Link.text]
  | kept hbegins hpieces ih =>
    intro hl
    rcases List.infix_cons_iff.mp hl with hl | hl
    · exact not_link_prefix_written (.kept hbegins hpieces) l hl
    · exact ih hl
  | @passage l' pieces hends hpieces ih =>
    intro hl
    rcases List.infix_cons_iff.mp hl with hl | hl
    · exact not_link_prefix_written (.passage (a := l') hends hpieces) l hl
    · have hcolon : ':' ∉ '/' :: '/' :: (marker ++ ['@']) := by decide
      exact ih (l.infix_of_infix_append hcolon hl)

/-- Once links are replaced, no link with credentials is left. -/
theorem not_link_infix_redactLinks (s : List Char) (l : Link) : ¬ l.text <:+: redactLinks s := by
  obtain ⟨pieces, hpieces, rfl⟩ := exists_leftmost linkForm s
  rw [rewrites_redactLinks.eq_written hpieces]
  exact not_link_infix_written hpieces l

end RoleGrants.Redaction
