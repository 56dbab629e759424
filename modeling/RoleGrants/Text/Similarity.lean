import RoleGrants.Sorting

/-!
# Similarity of texts

How much of two texts agrees: the longest block that both have in common counts, and then what
agrees in front of it and what agrees behind it. Of two blocks of one length the earlier one in the
first text is taken, and then the earlier one in the second.
-/

namespace RoleGrants.Text

/-- How many characters two texts begin with in common. -/
def commonStart : List Char → List Char → Nat
  | a :: as, b :: bs => if a = b then commonStart as bs + 1 else 0
  | _, _ => 0

/-- A block that two texts have in common: where it begins in each of them, and its length. -/
structure CommonBlock where
  first : Nat
  second : Nat
  length : Nat
  deriving DecidableEq, Repr

/-- The longer of two blocks, the first one if they are of one length. -/
def CommonBlock.longer (a b : CommonBlock) : CommonBlock := if a.length < b.length then b else a

/-- The longest block that begins at a position of the first text, from a position of the second
on. -/
def longestFrom (first : Nat) (a : List Char) (second : Nat) : List Char → CommonBlock
  | [] => ⟨first, second, 0⟩
  | b :: bs =>
    CommonBlock.longer ⟨first, second, commonStart a (b :: bs)⟩
      (longestFrom first a (second + 1) bs)

/-- The longest block from a position of the first text on. -/
def longestBlockFrom (first : Nat) (b : List Char) : List Char → CommonBlock
  | [] => ⟨first, 0, 0⟩
  | a :: as =>
    CommonBlock.longer (longestFrom first (a :: as) 0 b) (longestBlockFrom (first + 1) b as)

/-- The longest block that two texts have in common. -/
def longestBlock (a b : List Char) : CommonBlock := longestBlockFrom 0 b a

/-- How many characters of two texts agree. The number bounds how often the texts are divided. -/
def agreeing : Nat → List Char → List Char → Nat
  | 0, _, _ => 0
  | n + 1, a, b =>
    let block := longestBlock a b
    if block.length = 0 then 0
    else
      agreeing n (a.take block.first) (b.take block.second) + block.length
        + agreeing n (a.drop (block.first + block.length)) (b.drop (block.second + block.length))

/-- Whether at least three fifths of two texts agree. -/
def isSimilar (a b : List Char) : Bool :=
  3 * (a.length + b.length) ≤ 10 * agreeing a.length a b

/-- The similarity of two texts on a scale that is the same for all texts compared with `b`: twice
what agrees, and what there is in all. -/
def similarity (a b : List Char) : Nat × Nat := (2 * agreeing a.length a b, a.length + b.length)

/-- Whether a text is less similar than another to the same one. Of equally similar texts the one
that comes first in the order of texts is. -/
def isLessSimilar (word : List Char) (a b : String) : Bool :=
  let (m, n) := similarity a.toList word
  let (p, q) := similarity b.toList word
  m * q < p * n || (m * q = p * n && a < b)

/-- The texts that are similar to a word, at most three of them, the most similar first. -/
def similarTexts (word : String) (texts : List String) : List String :=
  let close := texts.filter fun t => isSimilar t.toList word.toList
  (sortedBy (fun a b => !isLessSimilar word.toList a b) close).take 3

end RoleGrants.Text
