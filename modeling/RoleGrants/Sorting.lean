/-!
# Sorting

A stable insertion sort by a Boolean order.
-/

namespace RoleGrants

/-- Inserts an element in front of the first one that is greater. -/
def insertSorted {α : Type} (le : α → α → Bool) (a : α) : List α → List α
  | [] => [a]
  | b :: rest => if le b a then b :: insertSorted le a rest else a :: b :: rest

/-- The elements in order; equal ones stay in the order they had. -/
def sortedBy {α : Type} (le : α → α → Bool) (xs : List α) : List α :=
  xs.foldl (fun sorted a => insertSorted le a sorted) []

/-- Sorting keeps the number of elements. -/
theorem length_insertSorted {α : Type} (le : α → α → Bool) (a : α) (xs : List α) :
    (insertSorted le a xs).length = xs.length + 1 := by
  induction xs with
  | nil => rfl
  | cons b rest ih =>
    unfold insertSorted
    split <;> simp [ih]

theorem insertSorted_perm {α : Type} (le : α → α → Bool) (a : α) (xs : List α) :
    (insertSorted le a xs).Perm (a :: xs) := by
  induction xs with
  | nil => exact .refl _
  | cons b rest ih =>
    unfold insertSorted
    split
    · exact (ih.cons b).trans (.swap a b rest)
    · exact .refl _

/-- Sorting gives the same elements in another order. -/
theorem sortedBy_perm {α : Type} (le : α → α → Bool) (xs : List α) :
    (sortedBy le xs).Perm xs := by
  -- The elements met so far are those sorted so far.
  have hfold : ∀ sorted : List α,
      (xs.foldl (fun sorted a => insertSorted le a sorted) sorted).Perm (xs ++ sorted) := by
    induction xs with
    | nil => exact fun sorted => .refl sorted
    | cons a rest ih =>
      intro sorted
      have hstep := ih (insertSorted le a sorted)
      have hinsert := (insertSorted_perm le a sorted).append_left rest
      exact (hstep.trans hinsert).trans List.perm_middle
  have hall := hfold []
  rwa [List.append_nil] at hall

end RoleGrants
