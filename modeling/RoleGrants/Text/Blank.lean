/-!
# Blanks

White space in the sense of Unicode, widened by the four information separators U+001C to U+001F.
Redaction ends a secret at a blank, and numbers may be written with blanks around them, so one
class serves the whole library.

`isBlank_of_isWhitespace` says that every character which core calls white space is a blank.
-/

namespace RoleGrants.Text

/-- Closed ranges of code points, ascending and apart. -/
def blankRanges : List (Nat × Nat) :=
  [(0x09, 0x0D), (0x1C, 0x20), (0x85, 0x85), (0xA0, 0xA0), (0x1680, 0x1680), (0x2000, 0x200A),
   (0x2028, 0x2029), (0x202F, 0x202F), (0x205F, 0x205F), (0x3000, 0x3000)]

/-- Whether a code point lies in one of the ranges. -/
def inRanges (ranges : List (Nat × Nat)) (n : Nat) : Bool :=
  ranges.any fun r => r.1 ≤ n && n ≤ r.2

/-- Whether a character is a blank. -/
def isBlank (c : Char) : Bool := inRanges blankRanges c.toNat

theorem isBlank_of_isWhitespace (c : Char) (h : c.isWhitespace = true) : isBlank c = true := by
  simp only [Char.isWhitespace, Bool.or_eq_true, decide_eq_true_eq] at h
  rcases h with ((h | h) | h) | h <;> subst h <;> decide

/-! ## Trimming -/

/-- The text without the blanks at its end. -/
def trimEnd (s : List Char) : List Char := (s.reverse.dropWhile isBlank).reverse

/-- The text without the blanks around it. -/
def trim (s : List Char) : List Char := trimEnd (s.dropWhile isBlank)

/-! ## Padding and joining -/

/-- The text, followed by spaces up to a width. -/
def padRight (width : Nat) (s : List Char) : List Char :=
  s ++ List.replicate (width - s.length) ' '

/-- The text, preceded by a filler up to a width. -/
def padLeft (width : Nat) (filler : Char) (s : List Char) : List Char :=
  List.replicate (width - s.length) filler ++ s

/-- Pieces with a separator between each two. -/
def joinWith (separator : List Char) : List (List Char) → List Char
  | [] => []
  | [piece] => piece
  | piece :: more => piece ++ separator ++ joinWith separator more

/-- The pieces of a text between the occurrences of a separating character. -/
def splitAt (separator : Char) : List Char → List (List Char)
  | [] => [[]]
  | c :: s =>
    if c = separator then [] :: splitAt separator s
    else match splitAt separator s with
      | [] => [[c]]
      | piece :: more => (c :: piece) :: more

theorem splitAt_ne_nil (separator : Char) (s : List Char) : splitAt separator s ≠ [] := by
  induction s with
  | nil => simp [splitAt]
  | cons c s ih =>
    unfold splitAt
    split
    · simp
    · split <;> simp

/-- Joining with the separator undoes the split. -/
theorem joinWith_splitAt (separator : Char) (s : List Char) :
    joinWith [separator] (splitAt separator s) = s := by
  induction s with
  | nil => rfl
  | cons c s ih =>
    unfold splitAt
    split
    · rename_i h
      cases hs : splitAt separator s with
      | nil => exact absurd hs (splitAt_ne_nil separator s)
      | cons piece more =>
        rw [hs] at ih
        simp [joinWith, ih, h]
    · cases hs : splitAt separator s with
      | nil => exact absurd hs (splitAt_ne_nil separator s)
      | cons piece more =>
        rw [hs] at ih
        cases more with
        | nil => simp_all [joinWith]
        | cons second rest =>
          simp only [joinWith, List.cons_append, List.append_assoc] at ih ⊢
          rw [ih]

end RoleGrants.Text
