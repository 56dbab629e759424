import RoleGrants.Proofs.Redaction.Passage

/-!
# Values of telling words

A secret is a telling word and its value, an equals sign or a colon between them, with blanks around
the sign.  It is meant to be veiled: the word stays with its sign, and the marker stands for the
value.

What is written for a secret is found by cutting it at its first equals sign, or at its first colon
if it has none.  This is not always the sign behind the word: a value that follows a colon and holds
an equals sign is cut inside, and what stands in front of that sign is shown.  `secrets_replaced`
says that this is the only exception.
-/

namespace RoleGrants.Redaction

open RoleGrants.Text

/-! ## Words -/

/-- Whether a character may stand in a word: it is no blank and none of the signs of values and
links. -/
def isWordChar (c : Char) : Bool := !isBlank c && !(['=', ':', '/', '@'].contains c)

theorem isWordChar_of_capital {c : Char} (h : 'A' ≤ c ∧ c ≤ 'Z') : isWordChar c := by
  have hcode : 65 ≤ c.toNat ∧ c.toNat ≤ 90 := by
    simpa [Char.le_def, UInt32.le_iff_toNat_le] using h
  have hsign (d : Char) (hd : d.toNat < 65) : c ≠ d := by
    rintro rfl
    omega
  have hblank : isBlank c = false := by
    simp [isBlank, inRanges, blankRanges]
    omega
  simp [isWordChar, hblank, hsign]

/-- A blank or a sign has no other case. -/
theorem folded_of_not_isWordChar {c : Char} (h : ¬ isWordChar c) : folded c = c := by
  have hother (d : Char) (hd : isWordChar d) : c ≠ d := by
    rintro rfl
    exact h hd
  have hlower : c.toLower = c := dif_neg fun hcapital => h (isWordChar_of_capital hcapital)
  simp [folded, hlower, hother 'ſ' (by decide), hother '\u212A' (by decide),
    hother 'ı' (by decide), hother 'İ' (by decide)]

/-- A text reads as a telling word, whatever its case. -/
def IsTelling (w : List Char) : Prop := w.map folded ∈ tellingWords

instance (w : List Char) : Decidable (IsTelling w) :=
  inferInstanceAs (Decidable (_ ∈ tellingWords))

namespace IsTelling

variable {w : List Char}

theorem isWordChar (h : IsTelling w) : ∀ c ∈ w, isWordChar c := by
  have hwords : ∀ c ∈ tellingWords.flatten, Redaction.isWordChar c :=
    List.all_eq_true.mp (by decide)
  intro c hc
  by_contra hchar
  have hmem := List.mem_map_of_mem (f := folded) hc
  rw [folded_of_not_isWordChar hchar] at hmem
  exact hchar (hwords c (List.mem_flatten.mpr ⟨_, h, hmem⟩))

theorem ne_nil (h : IsTelling w) : w ≠ [] := by
  rintro rfl
  exact absurd h (by decide)

theorem not_isBlank (h : IsTelling w) : ∀ c ∈ w, ¬ isBlank c := by
  intro c hc hblank
  have hchar := h.isWordChar c hc
  simp [Redaction.isWordChar, hblank] at hchar

/-- A sign is in no telling word. -/
theorem not_mem (h : IsTelling w) {c : Char} (hc : Redaction.isWordChar c = false) : c ∉ w := by
  intro hmem
  rw [h.isWordChar c hmem] at hc
  cases hc

end IsTelling

/-! ## Secrets -/

/-- A sign that stands between a word and its value. -/
def IsSeparator (c : Char) : Prop := c = '=' ∨ c = ':'

namespace IsSeparator

variable {c : Char}

theorem not_isWordChar (h : IsSeparator c) : isWordChar c = false := by
  rcases h with rfl | rfl
  · decide
  · decide

theorem not_isBlank (h : IsSeparator c) : ¬ isBlank c := by
  rcases h with rfl | rfl
  · decide
  · decide

end IsSeparator

/-- No separator is in a word or in the blanks behind it. -/
theorem IsTelling.separator_not_mem {w gap : List Char} (h : IsTelling w)
    (hgap : ∀ c ∈ gap, isBlank c) {c : Char} (hc : IsSeparator c) : c ∉ w ++ gap := by
  intro hmem
  rcases List.mem_append.mp hmem with hmem | hmem
  · exact h.not_mem hc.not_isWordChar hmem
  · exact hc.not_isBlank (hgap c hmem)

theorem not_isBlank_marker : ∀ c ∈ marker, ¬ isBlank c := List.any_eq_false.mp (by decide)

/-- A telling word and its value, with what stands between them. -/
@[ext]
structure Secret where
  word : List Char
  /-- The blanks in front of the separator. -/
  gap : List Char
  separator : Char
  /-- The blanks behind the separator. -/
  space : List Char
  value : List Char
  isTelling_word : IsTelling word
  isBlank_gap : ∀ c ∈ gap, isBlank c
  isSeparator : IsSeparator separator
  isBlank_space : ∀ c ∈ space, isBlank c
  value_ne_nil : value ≠ []
  not_isBlank_value : ∀ c ∈ value, ¬ isBlank c

namespace Secret

/-- What stands in front of the separator. -/
def lead (a : Secret) : List Char := a.word ++ a.gap

/-- How a secret is written. -/
def text (a : Secret) : List Char := a.lead ++ a.separator :: (a.space ++ a.value)

/-- A secret with the marker in place of its value. -/
def veiled (a : Secret) : List Char :=
  a.lead ++ if a.separator = '=' then '=' :: marker else ':' :: ' ' :: marker

/-- The value follows a colon and holds an equals sign. -/
def Leaks (a : Secret) : Prop := a.separator = ':' ∧ '=' ∈ a.value

instance (a : Secret) : Decidable a.Leaks := inferInstanceAs (Decidable (_ ∧ _))

/-- What stands of the value in front of its first equals sign. -/
def leaked (a : Secret) : List Char := a.value.takeWhile (· ≠ '=')

/-- What is written for a secret: it is veiled, or its value leaks up to an equals sign. -/
def shown (a : Secret) : List Char :=
  if a.Leaks then a.lead ++ ':' :: (a.space ++ (a.leaked ++ '=' :: marker)) else a.veiled

/-- A word, a colon, a space and a value. -/
def behindColon (word value : List Char) (hword : IsTelling word) (hne : value ≠ [])
    (hvalue : ∀ c ∈ value, ¬ isBlank c) : Secret where
  word := word
  gap := []
  separator := ':'
  space := [' ']
  value := value
  isTelling_word := hword
  isBlank_gap := List.forall_mem_nil _
  isSeparator := .inr rfl
  isBlank_space := List.all_eq_true.mp (by decide)
  value_ne_nil := hne
  not_isBlank_value := hvalue

theorem text_ne_nil (a : Secret) : a.text ≠ [] := by
  simp [text]

theorem text_eq (a : Secret) :
    a.text = a.word ++ (a.gap ++ a.separator :: (a.space ++ a.value)) := by
  rw [text, lead, List.append_assoc]

/-- The separator is the first one. -/
theorem separator_not_mem_lead (a : Secret) {c : Char} (hc : IsSeparator c) : c ∉ a.lead :=
  a.isTelling_word.separator_not_mem a.isBlank_gap hc

theorem exists_mem_value (a : Secret) : ∃ c ∈ a.value, ¬ isBlank c := by
  obtain ⟨c, hc⟩ := List.exists_mem_of_ne_nil a.value a.value_ne_nil
  exact ⟨c, hc, a.not_isBlank_value c hc⟩

theorem not_isWordChar_behind (a : Secret) (s : List Char) :
    ∀ c ∈ (a.gap ++ a.separator :: s).head?, ¬ isWordChar c := by
  intro c hc
  cases hgap : a.gap with
  | nil =>
    rw [hgap] at hc
    obtain rfl := Option.some.inj hc
    simp [a.isSeparator.not_isWordChar]
  | cons d gap =>
    rw [hgap] at hc
    obtain rfl := Option.some.inj hc
    have hblank := a.isBlank_gap d (by simp [hgap])
    simp [isWordChar, hblank]

theorem not_isBlank_leaked (a : Secret) : ∀ c ∈ a.leaked ++ '=' :: marker, ¬ isBlank c := by
  intro c hc
  rcases List.mem_append.mp hc with hc | hc
  · exact a.not_isBlank_value c ((List.takeWhile_prefix _).subset hc)
  · rcases List.mem_cons.mp hc with rfl | hc
    · decide
    · exact not_isBlank_marker c hc

end Secret

/-- A run without blanks begins with none. -/
theorem not_isBlank_head {w s : List Char} (hne : w ≠ []) (hw : ∀ c ∈ w, ¬ isBlank c) :
    ∀ c ∈ (w ++ s).head?, ¬ isBlank c := by
  intro c hc
  obtain ⟨d, w, rfl⟩ := List.exists_cons_of_ne_nil hne
  obtain rfl := Option.some.inj hc
  exact hw _ List.mem_cons_self

/-- Secrets, whose values end at a blank or with the text. -/
def secretForm : Form Secret where
  text := Secret.text
  text_ne_nil := Secret.text_ne_nil
  EndsAt := OpensBlank

theorem OpensBlank.not_not_isBlank {s : List Char} (h : OpensBlank s) :
    ∀ c ∈ s.head?, ¬ (!isBlank c) = true := by
  intro c hc
  simp [h c hc]

/-- Each part of a secret is a run of another class than the next. -/
theorem secretForm_unambiguous : secretForm.Unambiguous := by
  intro a b s t htext hs ht
  simp only [secretForm, Secret.text_eq, List.append_assoc, List.cons_append] at htext
  have behindGap (a : Secret) (r : List Char) : ∀ c ∈ (a.separator :: r).head?, ¬ isBlank c := by
    intro c hc
    obtain rfl := Option.some.inj hc
    exact a.isSeparator.not_isBlank
  have inValue (a : Secret) : ∀ c ∈ a.value, (!isBlank c) = true := by
    intro c hc
    simp [a.not_isBlank_value c hc]
  obtain ⟨hword, htext⟩ := runs_eq a.isTelling_word.isWordChar b.isTelling_word.isWordChar
    (a.not_isWordChar_behind _) (b.not_isWordChar_behind _) htext
  obtain ⟨hgap, htext⟩ := runs_eq a.isBlank_gap b.isBlank_gap (behindGap a _) (behindGap b _) htext
  obtain ⟨hseparator, htext⟩ := List.cons.inj htext
  obtain ⟨hspace, htext⟩ := runs_eq a.isBlank_space b.isBlank_space
    (not_isBlank_head a.value_ne_nil a.not_isBlank_value)
    (not_isBlank_head b.value_ne_nil b.not_isBlank_value) htext
  obtain ⟨hvalue, -⟩ := runs_eq (inValue a) (inValue b) hs.not_not_isBlank ht.not_not_isBlank htext
  exact Secret.ext hword hgap hseparator hspace hvalue

/-! ## Finding -/

theorem behindWord?_eq_some_iff {word s rest : List Char} :
    behindWord? word s = some rest ↔ ∃ w, w.map folded = word ∧ s = w ++ rest := by
  induction word generalizing s with
  | nil => simp [behindWord?, eq_comm]
  | cons x word ih =>
    cases s with
    | nil => simp [behindWord?]
    | cons c s =>
      by_cases hfold : folded c = x
      · rw [behindWord?, if_pos hfold, ih]
        constructor
        · rintro ⟨w, hw, rfl⟩
          exact ⟨c :: w, by simp [hw, hfold], rfl⟩
        · rintro ⟨w, hw, hs⟩
          cases w with
          | nil => cases hw
          | cons d w => exact ⟨w, (List.cons.inj hw).2, (List.cons.inj hs).2⟩
      · rw [behindWord?, if_neg hfold]
        simp only [reduceCtorEq, false_iff]
        rintro ⟨w, hw, hs⟩
        cases w with
        | nil => cases hw
        | cons d w =>
          obtain ⟨rfl, -⟩ := List.cons.inj hs
          exact hfold (List.cons.inj hw).1

/-- Behind blanks there is a run of other characters, or nothing. -/
theorem takeWhile_ne_nil_of_dropWhile {s : List Char} (h : s.dropWhile isBlank ≠ []) :
    (s.dropWhile isBlank).takeWhile (!isBlank ·) ≠ [] := by
  have hhead := List.head?_dropWhile_not isBlank s
  obtain ⟨c, t, ht⟩ := List.exists_cons_of_ne_nil h
  rw [ht] at hhead ⊢
  have hc : isBlank c = false := by simpa using hhead
  rw [List.takeWhile_cons_of_pos (by simp [hc])]
  exact List.cons_ne_nil _ _

theorem opensBlank_dropWhile (s : List Char) : OpensBlank (s.dropWhile (!isBlank ·)) := by
  intro c hc
  have hhead := List.head?_dropWhile_not (!isBlank ·) s
  rw [Option.mem_def.mp hc] at hhead
  simpa using hhead

/-- What `behindValue?` passes over: blanks around a sign, and a value up to a blank. -/
theorem behindValue?_eq_some_iff {s rest : List Char} :
    behindValue? s = some rest ↔
      ∃ gap separator space value, s = gap ++ separator :: (space ++ (value ++ rest)) ∧
        (∀ c ∈ gap, isBlank c) ∧ IsSeparator separator ∧
        (∀ c ∈ space, isBlank c) ∧ value ≠ [] ∧ (∀ c ∈ value, ¬ isBlank c) ∧ OpensBlank rest := by
  constructor
  · intro h
    unfold behindValue? at h
    split at h
    next separator behind hgap =>
      split at h
      next hseparator =>
        simp only at h
        split at h
        next => cases h
        next hvalue =>
          obtain rfl := Option.some.inj h
          refine ⟨s.takeWhile isBlank, separator, behind.takeWhile isBlank,
            (behind.dropWhile isBlank).takeWhile (!isBlank ·), ?_, fun c => List.mem_takeWhile_imp,
            by simpa [IsSeparator] using hseparator, fun c => List.mem_takeWhile_imp, ?_, ?_, ?_⟩
          · rw [List.takeWhile_append_dropWhile, List.takeWhile_append_dropWhile, ← hgap,
              List.takeWhile_append_dropWhile]
          · exact takeWhile_ne_nil_of_dropWhile fun hnil => hvalue (List.isEmpty_iff.mpr hnil)
          · intro c hc
            simpa using List.mem_takeWhile_imp hc
          · exact opensBlank_dropWhile _
      next => cases h
    next => cases h
  · rintro ⟨gap, separator, space, value, rfl, hgap, hseparator, hspace, hne, hvalue, hrest⟩
    have hdrop : (value ++ rest).dropWhile isBlank = value ++ rest := by
      obtain ⟨c, value, rfl⟩ := List.exists_cons_of_ne_nil hne
      exact List.dropWhile_cons_of_neg (hvalue c List.mem_cons_self)
    have hend : (value ++ rest).dropWhile (!isBlank ·) = rest := by
      rw [List.dropWhile_append_of_pos fun c hc => by simp [hvalue c hc]]
      cases rest with
      | nil => rfl
      | cons c rest => exact List.dropWhile_cons_of_neg (hrest.not_not_isBlank c rfl)
    unfold behindValue?
    rw [List.dropWhile_append_of_pos hgap, List.dropWhile_cons_of_neg hseparator.not_isBlank]
    simp only
    rw [if_pos (by simpa [IsSeparator] using hseparator), List.dropWhile_append_of_pos hspace,
      hdrop, hend, if_neg (by simp [hne])]

theorem exists_secret_of_behindSecret? {s rest : List Char} (h : behindSecret? s = some rest) :
    ∃ a : Secret, s = a.text ++ rest ∧ OpensBlank rest := by
  obtain ⟨word, hword, h⟩ := List.exists_of_findSome?_eq_some h
  obtain ⟨t, ht, hrest⟩ := Option.bind_eq_some_iff.mp h
  obtain ⟨w, rfl, rfl⟩ := behindWord?_eq_some_iff.mp ht
  obtain ⟨gap, separator, space, value, rfl, hgap, hseparator, hspace, hne, hvalue, hends⟩ :=
    behindValue?_eq_some_iff.mp hrest
  let a : Secret :=
    ⟨w, gap, separator, space, value, hword, hgap, hseparator, hspace, hne, hvalue⟩
  exact ⟨a, by simp [Secret.text_eq, a], hends⟩

theorem secrets_foundBy : secretForm.FoundBy behindSecret? := by
  intro s rest
  constructor
  · exact exists_secret_of_behindSecret?
  · rintro ⟨a, hs, hends⟩
    have hword : (behindWord? (a.word.map folded) s).bind behindValue? = some rest := by
      rw [Option.bind_eq_some_iff]
      refine ⟨a.gap ++ a.separator :: (a.space ++ (a.value ++ rest)), ?_, ?_⟩
      · exact behindWord?_eq_some_iff.mpr ⟨a.word, rfl, by simp [hs, secretForm, Secret.text_eq]⟩
      · exact behindValue?_eq_some_iff.mpr ⟨_, _, _, _, rfl, a.isBlank_gap, a.isSeparator,
          a.isBlank_space, a.value_ne_nil, a.not_isBlank_value, hends⟩
    cases hfound : behindSecret? s with
    | none =>
      have hnone := List.findSome?_eq_none_iff.mp hfound _ a.isTelling_word
      rw [hword] at hnone
      cases hnone
    | some rest' =>
      -- Another word may be found first, but the words and values at a place are the same.
      obtain ⟨b, hb, hends'⟩ := exists_secret_of_behindSecret? hfound
      obtain rfl := secretForm_unambiguous a b rest rest' (hs.symm.trans hb) hends hends'
      rw [List.append_cancel_left (hs.symm.trans hb)]

/-! ## Replacing -/

theorem redactValuesFrom_eq_walkFrom (n : Nat) (s : List Char) :
    redactValuesFrom n s = walkFrom behindSecret? replacement n s := by
  induction s generalizing n with
  | nil => simp [redactValuesFrom, walkFrom]
  | cons c s ih =>
    cases n with
    | succ n => rw [redactValuesFrom, walkFrom, ih]
    | zero =>
      rw [redactValuesFrom, walkFrom]
      cases behindSecret? (c :: s) with
      | none => simp only [ih]
      | some rest =>
        have hlength : (c :: s).length - rest.length - 1 = s.length - rest.length := by
          rw [List.length_cons]
          omega
        simp only [ih, hlength]

theorem takeWhile_ne_append {c : Char} {w s : List Char} (hw : c ∉ w) :
    (w ++ c :: s).takeWhile (· ≠ c) = w := by
  rw [List.takeWhile_append_of_pos fun d hd => decide_eq_true (ne_of_mem_of_not_mem hd hw),
    List.takeWhile_cons_of_neg (by simp), List.append_nil]

theorem replacement_equals {w s : List Char} (hw : '=' ∉ w) :
    replacement (w ++ '=' :: s) = w ++ '=' :: marker := by
  rw [replacement, if_pos (by simp), takeWhile_ne_append hw]

theorem replacement_colon {w s : List Char} (hw : ':' ∉ w) (hequals : '=' ∉ w ++ ':' :: s) :
    replacement (w ++ ':' :: s) = w ++ ':' :: ' ' :: marker := by
  rw [replacement, if_neg (by simpa using hequals), takeWhile_ne_append hw]

/-- A secret is cut at its first equals sign, or else at its colon. -/
theorem replacement_text (a : Secret) : replacement a.text = a.shown := by
  have hequals : '=' ∉ a.lead := a.separator_not_mem_lead (.inl rfl)
  have hcolon : ':' ∉ a.lead := a.separator_not_mem_lead (.inr rfl)
  have hspace : '=' ∉ a.space := fun h => absurd (a.isBlank_space _ h) (by decide)
  unfold Secret.shown
  split
  next hleaks =>
    obtain ⟨hseparator, hvalue⟩ := hleaks
    obtain ⟨v, t, hsplit, hv⟩ := List.eq_append_cons_of_mem hvalue
    have htext : a.text = (a.lead ++ ':' :: (a.space ++ v)) ++ '=' :: t := by
      simp [Secret.text, hseparator, hsplit]
    rw [htext, replacement_equals (by simp [hequals, hspace, hv]), Secret.leaked, hsplit,
      takeWhile_ne_append hv]
    simp
  next hleaks =>
    unfold Secret.veiled Secret.text
    rcases a.isSeparator with hseparator | hseparator
    · rw [hseparator, if_pos rfl, replacement_equals hequals]
    · have hvalue : '=' ∉ a.value := fun h => hleaks ⟨hseparator, h⟩
      rw [hseparator, if_neg (by decide),
        replacement_colon hcolon (by simp [hequals, hspace, hvalue])]

/-- Secrets are replaced from left to right. -/
theorem rewrites_redactValues : Rewrites secretForm Secret.shown redactValues := by
  have hwalk : redactValues = walkFrom behindSecret? replacement 0 :=
    funext (redactValuesFrom_eq_walkFrom 0)
  rw [hwalk]
  exact rewrites_walkFrom secrets_foundBy replacement_text

/-! ## What is written for secrets -/

theorem opensBlank_written {pieces : List (Piece Secret)}
    (h : OpensBlank (written Secret.text pieces)) (shown : Secret → List Char) :
    OpensBlank (written shown pieces) := by
  rcases pieces with - | ⟨c | a, more⟩
  · exact h
  · exact h
  · have hne : a.word ≠ [] := a.isTelling_word.ne_nil
    obtain ⟨c, word, hword⟩ := List.exists_cons_of_ne_nil hne
    have hblank : isBlank c := h c (by simp [Secret.text, Secret.lead, hword])
    exact absurd hblank (a.isTelling_word.not_isBlank c (by simp [hword]))

/-- What leaks of a value is seen. -/
theorem shown_append_ne_veiled_append {a : Secret} (ha : a.Leaks) {s t : List Char}
    (hs : OpensBlank s) (ht : OpensBlank t) : a.shown ++ s ≠ a.veiled ++ t := by
  intro heq
  have hspace : ∀ c ∈ [' '], isBlank c := List.all_eq_true.mp (by decide)
  have hparts : a.space ++ ((a.leaked ++ '=' :: marker) ++ s) = [' '] ++ (marker ++ t) := by
    have hseparator : a.separator ≠ '=' := by
      rw [ha.1]
      decide
    rw [Secret.shown, if_pos ha, Secret.veiled, if_neg hseparator] at heq
    simpa using heq
  obtain ⟨-, hrun⟩ := runs_eq a.isBlank_space hspace
    (not_isBlank_head (by simp) a.not_isBlank_leaked)
    (not_isBlank_head (by decide) not_isBlank_marker) hparts
  obtain ⟨hsame, -⟩ := runs_eq (p := (!isBlank ·)) (fun c hc => by simp [a.not_isBlank_leaked c hc])
    (fun c hc => by simp [not_isBlank_marker c hc]) hs.not_not_isBlank ht.not_not_isBlank hrun
  have hlength := congrArg List.length hsame
  rw [List.length_append, List.length_cons] at hlength
  omega

theorem written_shown_eq_iff {pieces : List (Piece Secret)} (h : Leftmost secretForm pieces) :
    written Secret.shown pieces = written Secret.veiled pieces ↔
      ∀ a, .passage a ∈ pieces → ¬ a.Leaks := by
  induction h with
  | nil => simp
  | kept _ _ ih => simp [ih]
  | @passage a pieces hends hpieces ih =>
    by_cases ha : a.Leaks
    · have hne := shown_append_ne_veiled_append ha (opensBlank_written hends Secret.shown)
        (opensBlank_written hends Secret.veiled)
      simp [hne, ha]
    · have hshown : a.shown = a.veiled := if_neg ha
      simp [hshown, ih, ha]

/-- In a text whose links are redacted, secrets are found from left to right, in one way only. Word
and sign of each stay, and the marker stands for its value, unless the value follows a colon and
holds an equals sign: then it stands for what follows the first equals sign. So all values are
veiled exactly if there is no such one. -/
theorem secrets_replaced (message : String) :
    ∃ pieces : List (Piece Secret),
      (∀ others, Leftmost secretForm others ∧
        written Secret.text others = redactLinks message.toList ↔ others = pieces) ∧
      (∀ length, sanitizeTo length message =
        String.ofList (cut length (written Secret.shown pieces))) ∧
      (written Secret.shown pieces = written Secret.veiled pieces ↔
        ∀ a, .passage a ∈ pieces → ¬ a.Leaks) := by
  obtain ⟨pieces, hpieces, htext⟩ := exists_leftmost secretForm (redactLinks message.toList)
  have hwritten : redactValues (redactLinks message.toList) = written Secret.shown pieces := by
    rw [← htext, rewrites_redactValues.eq_written hpieces]
  refine ⟨pieces, ?_, ?_, written_shown_eq_iff hpieces⟩
  · intro others
    constructor
    · rintro ⟨hothers, hsame⟩
      exact hothers.unique secretForm_unambiguous hpieces (hsame.trans htext.symm)
    · rintro rfl
      exact ⟨hpieces, htext⟩
  · intro length
    rw [sanitizeTo, hwritten]

/-- A token in Base64, which is padded with equals signs. -/
def paddedToken : Secret :=
  .behindColon "token".toList "YWJjZA==".toList (by decide) (by decide)
    (List.any_eq_false.mp (by decide))

/-- All of a padded token is shown but its padding. -/
theorem paddedToken_shown :
    Leftmost secretForm [.passage paddedToken] ∧
      written Secret.text [.passage paddedToken] = redactLinks "token: YWJjZA==".toList ∧
      String.ofList (written Secret.veiled [.passage paddedToken]) = "token: <REDACTED>" ∧
      sanitize "token: YWJjZA==" = "token: YWJjZA=<REDACTED>" := by
  refine ⟨.passage ?_ .nil, ?_, ?_, ?_⟩
  · intro c hc
    cases hc
  · decide
  · decide
  · decide

end RoleGrants.Redaction
