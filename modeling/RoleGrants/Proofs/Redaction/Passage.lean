import Mathlib.Data.List.Infix
import Mathlib.Data.List.TakeWhile
import RoleGrants.Redaction

/-!
# Passages found from left to right

Credentials of either form are looked for in the same way: from left to right, a passage is replaced
wherever one begins in what is left, and a character at which none begins stays.  Here a text is cut
into pieces accordingly, `Leftmost`, so that what is done to the whole text is what is done to each
of its pieces: `Rewrites.eq_written`.

Every text has such pieces, `exists_leftmost`.  It has no others if what stands at a place is one
passage only, `Leftmost.unique`.
-/

namespace RoleGrants.Redaction

open RoleGrants.Text

variable {α : Type}

/-! ## Pieces -/

/-- A form of passages. -/
structure Form (α : Type) where
  /-- What is written where a passage stands. -/
  text : α → List Char
  text_ne_nil (a : α) : text a ≠ []
  /-- Whether a passage may end in front of a text. -/
  EndsAt : List Char → Prop

/-- A passage stands at the beginning of a text. -/
def Form.Begins (form : Form α) (s : List Char) : Prop :=
  ∃ a rest, s = form.text a ++ rest ∧ form.EndsAt rest

/-- A piece of a text: a character that stays, or a passage. -/
inductive Piece (α : Type) where
  | kept (c : Char)
  | passage (a : α)

/-- Pieces one after the other, with something written for each passage. -/
def written (shown : α → List Char) : List (Piece α) → List Char
  | [] => []
  | .kept c :: pieces => c :: written shown pieces
  | .passage a :: pieces => shown a ++ written shown pieces

@[simp] theorem written_nil (shown : α → List Char) : written shown [] = [] := rfl

@[simp] theorem written_kept (shown : α → List Char) (c : Char) (pieces : List (Piece α)) :
    written shown (.kept c :: pieces) = c :: written shown pieces := rfl

@[simp] theorem written_passage (shown : α → List Char) (a : α) (pieces : List (Piece α)) :
    written shown (.passage a :: pieces) = shown a ++ written shown pieces := rfl

/-- Pieces as they are found from left to right: a passage wherever one begins. -/
inductive Leftmost (form : Form α) : List (Piece α) → Prop
  | nil : Leftmost form []
  | kept {c : Char} {pieces : List (Piece α)} (h : ¬ form.Begins (c :: written form.text pieces))
      (hpieces : Leftmost form pieces) : Leftmost form (.kept c :: pieces)
  | passage {a : α} {pieces : List (Piece α)} (h : form.EndsAt (written form.text pieces))
      (hpieces : Leftmost form pieces) : Leftmost form (.passage a :: pieces)

/-- Every text has pieces that are found from left to right. -/
theorem exists_leftmost (form : Form α) (s : List Char) :
    ∃ pieces, Leftmost form pieces ∧ written form.text pieces = s := by
  induction hlength : s.length using Nat.strong_induction_on generalizing s with
  | _ n ih =>
    subst hlength
    by_cases hbegins : form.Begins s
    · obtain ⟨a, rest, rfl, hends⟩ := hbegins
      have hshorter : rest.length < (form.text a ++ rest).length := by
        have hpos := List.length_pos_of_ne_nil (form.text_ne_nil a)
        rw [List.length_append]
        omega
      obtain ⟨pieces, hpieces, rfl⟩ := ih _ hshorter rest rfl
      exact ⟨.passage a :: pieces, .passage hends hpieces, rfl⟩
    · cases s with
      | nil => exact ⟨[], .nil, rfl⟩
      | cons c s =>
        obtain ⟨pieces, hpieces, rfl⟩ := ih s.length (Nat.lt_succ_self _) s rfl
        exact ⟨.kept c :: pieces, .kept hbegins hpieces, rfl⟩

/-- What stands at a place is one passage only. -/
def Form.Unambiguous (form : Form α) : Prop :=
  ∀ a b s t, form.text a ++ s = form.text b ++ t → form.EndsAt s → form.EndsAt t → a = b

/-- Where passages are unambiguous, a text is cut in one way only. -/
theorem Leftmost.unique {form : Form α} (hform : form.Unambiguous) {pieces others : List (Piece α)}
    (h : Leftmost form pieces) (h' : Leftmost form others)
    (htext : written form.text pieces = written form.text others) : pieces = others := by
  induction h generalizing others with
  | nil =>
    cases h' with
    | nil => rfl
    | kept => cases htext
    | @passage a =>
      have hnil := (List.append_eq_nil_iff.mp htext.symm).1
      exact absurd hnil (form.text_ne_nil a)
  | kept h hpieces ih =>
    cases h' with
    | nil => cases htext
    | kept h' hothers =>
      obtain ⟨rfl, htail⟩ := List.cons.inj htext
      rw [ih hothers htail]
    | @passage b others h' =>
      exact absurd ⟨b, written form.text others, htext, h'⟩ h
  | @passage a pieces h hpieces ih =>
    cases h' with
    | nil => exact absurd (List.append_eq_nil_iff.mp htext).1 (form.text_ne_nil a)
    | kept h' => exact absurd ⟨a, written form.text pieces, htext.symm, h⟩ h'
    | passage h' hothers =>
      obtain rfl := hform _ _ _ _ htext h h'
      rw [ih hothers (List.append_cancel_left htext)]

/-! ## Rewriting

Both forms are replaced in one walk through the text, which passes over what it has replaced. -/

/-- A function writes something else for the passages of a form, from left to right. -/
structure Rewrites (form : Form α) (shown : α → List Char) (f : List Char → List Char) :
    Prop where
  nil : f [] = []
  kept {c : Char} {s : List Char} (h : ¬ form.Begins (c :: s)) : f (c :: s) = c :: f s
  passage (a : α) {rest : List Char} (h : form.EndsAt rest) :
    f (form.text a ++ rest) = shown a ++ f rest

namespace Rewrites

variable {form : Form α} {shown : α → List Char} {f : List Char → List Char}

theorem eq_written (h : Rewrites form shown f) {pieces : List (Piece α)}
    (hpieces : Leftmost form pieces) : f (written form.text pieces) = written shown pieces := by
  induction hpieces with
  | nil => exact h.nil
  | kept hbegins _ ih => rw [written_kept, h.kept hbegins, ih, written_kept]
  | passage hends _ ih => rw [written_passage, h.passage _ hends, ih, written_passage]

/-- A text in which no passage stands is left alone. -/
theorem eq_self (h : Rewrites form shown f) {s : List Char} (hs : ∀ a, ¬ form.text a <:+: s) :
    f s = s := by
  induction s with
  | nil => exact h.nil
  | cons c s ih =>
    have hbegins : ¬ form.Begins (c :: s) := by
      rintro ⟨a, rest, htext, -⟩
      apply hs a
      rw [htext]
      exact List.infix_append_left
    rw [h.kept hbegins, ih fun a ha => hs a (List.infix_cons ha)]

end Rewrites

/-- Walks through a text and replaces what is found. The number of characters still to pass over
belongs to something that was replaced. -/
def walkFrom (behind? : List Char → Option (List Char)) (replace : List Char → List Char) :
    Nat → List Char → List Char
  | _, [] => []
  | n + 1, _ :: s => walkFrom behind? replace n s
  | 0, c :: s =>
    match behind? (c :: s) with
    | some rest =>
      replace ((c :: s).take ((c :: s).length - rest.length)) ++
        walkFrom behind? replace (s.length - rest.length) s
    | none => c :: walkFrom behind? replace 0 s

/-- A function finds the passages of a form, and what is behind them. -/
def Form.FoundBy (form : Form α) (behind? : List Char → Option (List Char)) : Prop :=
  ∀ s rest, behind? s = some rest ↔ ∃ a, s = form.text a ++ rest ∧ form.EndsAt rest

section

variable {form : Form α} {behind? : List Char → Option (List Char)}
  {replace : List Char → List Char} {shown : α → List Char}

theorem walkFrom_eq_drop (n : Nat) (s : List Char) :
    walkFrom behind? replace n s = walkFrom behind? replace 0 (s.drop n) := by
  induction s generalizing n with
  | nil => simp [walkFrom]
  | cons c s ih =>
    cases n with
    | zero => rfl
    | succ n => rw [walkFrom, ih, List.drop_succ_cons]

/-- The walk replaces what a function finds. -/
theorem rewrites_walkFrom (hfound : form.FoundBy behind?)
    (hreplace : ∀ a, replace (form.text a) = shown a) :
    Rewrites form shown (walkFrom behind? replace 0) where
  nil := rfl
  kept {c s} h := by
    have hbehind : behind? (c :: s) = none := by
      rw [Option.eq_none_iff_forall_ne_some]
      intro rest hrest
      obtain ⟨a, htext, hends⟩ := (hfound _ _).mp hrest
      exact h ⟨a, rest, htext, hends⟩
    rw [walkFrom, hbehind]
  passage a {rest} h := by
    have hbehind : behind? (form.text a ++ rest) = some rest := (hfound _ _).mpr ⟨a, rfl, h⟩
    have hlength (u : List Char) : (u ++ rest).length - rest.length = u.length := by simp
    rw [← hreplace a]
    obtain ⟨c, t, ht⟩ := List.exists_cons_of_ne_nil (form.text_ne_nil a)
    rw [ht, List.cons_append] at hbehind ⊢
    rw [walkFrom, hbehind]
    simp only [hlength, ← List.cons_append]
    rw [List.take_left, walkFrom_eq_drop, List.drop_left]

end

/-! ## Runs

Whether a passage begins is read off runs of characters of one class.  A run ends where its class
does, and so none without blanks reaches over a blank. -/

/-- Two runs of a class that end in front of other characters are the same. -/
theorem runs_eq {p : Char → Bool} {v w s t : List Char} (hv : ∀ c ∈ v, p c) (hw : ∀ c ∈ w, p c)
    (hs : ∀ c ∈ s.head?, ¬ p c) (ht : ∀ c ∈ t.head?, ¬ p c) (h : v ++ s = w ++ t) :
    v = w ∧ s = t := by
  have takes {u r : List Char} (hu : ∀ c ∈ u, p c) (hr : ∀ c ∈ r.head?, ¬ p c) :
      (u ++ r).takeWhile p = u := by
    rw [List.takeWhile_append_of_pos hu]
    cases r with
    | nil => exact List.append_nil u
    | cons c r => rw [List.takeWhile_cons_of_neg (hr c rfl), List.append_nil]
  obtain rfl : v = w := by rw [← takes hv hs, h, takes hw ht]
  exact ⟨rfl, List.append_cancel_left h⟩

/-- What a text begins with ends in its first part or reaches over it. -/
theorem prefix_append_cases {s t w : List Char} (h : w <+: s ++ t) :
    w <+: s ∨ ∃ v, v ≠ [] ∧ w = s ++ v ∧ v <+: t := by
  rcases List.prefix_or_prefix_of_prefix h (List.prefix_append s t) with hshort | ⟨v, rfl⟩
  · exact .inl hshort
  · cases v with
    | nil => exact .inl (by rw [List.append_nil])
    | cons c v =>
      exact .inr ⟨c :: v, List.cons_ne_nil c v, rfl, (List.prefix_append_right_inj s).mp h⟩

/-- A text that is empty or begins with a blank. -/
def OpensBlank (s : List Char) : Prop := ∀ c ∈ s.head?, isBlank c

/-- A text that is empty or ends in a blank. -/
def EndsBlank (s : List Char) : Prop := ∀ c ∈ s.getLast?, isBlank c

instance (s : List Char) : Decidable (OpensBlank s) := Option.decidableForallMem s.head?

instance (s : List Char) : Decidable (EndsBlank s) := Option.decidableForallMem s.getLast?

@[simp] theorem opensBlank_cons {c : Char} {s : List Char} : OpensBlank (c :: s) ↔ isBlank c := by
  simp [OpensBlank]

@[simp] theorem endsBlank_concat {c : Char} {s : List Char} :
    EndsBlank (s ++ [c]) ↔ isBlank c := by
  simp [EndsBlank]

theorem OpensBlank.append {s t : List Char} (hs : OpensBlank s) (ht : OpensBlank t) :
    OpensBlank (s ++ t) := by
  cases s with
  | nil => exact ht
  | cons c s => exact hs

/-- Texts between which a blank stands, at the end of the one or at the beginning of the other. -/
def Apart (s t : List Char) : Prop := ∀ c ∈ s.getLast?, ∀ d ∈ t.head?, isBlank c ∨ isBlank d

theorem OpensBlank.apart {t : List Char} (h : OpensBlank t) (s : List Char) : Apart s t :=
  fun _ _ d hd => .inr (h d hd)

theorem EndsBlank.apart {s : List Char} (h : EndsBlank s) (t : List Char) : Apart s t :=
  fun c hc _ _ => .inl (h c hc)

namespace Apart

variable {s t u w : List Char}

theorem of_append (h : Apart (u ++ s) t) : Apart s t := by
  intro c hc
  apply h c
  rw [List.getLast?_append, Option.mem_def.mp hc]
  rfl

theorem prefix_of_prefix (h : Apart s t) (hs : s ≠ []) (hw : ∀ c ∈ w, ¬ isBlank c)
    (hstarts : w <+: s ++ t) : w <+: s := by
  rcases prefix_append_cases hstarts with hshort | ⟨v, hv, rfl, r, rfl⟩
  · exact hshort
  · obtain ⟨d, v, rfl⟩ := List.exists_cons_of_ne_nil hv
    have hlast : s.getLast hs ∈ s.getLast? := List.getLast?_eq_some_getLast hs
    rcases h _ hlast d rfl with hblank | hblank
    · exact absurd hblank (hw _ (by simp))
    · exact absurd hblank (hw d (by simp))

end Apart

end RoleGrants.Redaction
