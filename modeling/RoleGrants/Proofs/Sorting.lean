import Mathlib.Data.List.Perm.Basic
import Mathlib.Data.List.Dedup
import Mathlib.Order.Lattice
import RoleGrants.Sorting

/-!
# Sorting by a key

An order may compare elements by a part of them only.  Sorting then puts the elements in the order
of their keys and leaves those that share a key as they stood: `sortedBy_sorted`, `filter_sortedBy`.

So sorting forgets the order of a list up to its ties.  Two lists with the same elements sort to the
same text exactly when, key by key, their tied elements make the same text:
`flatMap_sortedBy_eq_iff`.
-/

namespace RoleGrants

variable {α β κ : Type} [LinearOrder κ] {le : α → α → Bool} {key : α → κ}

/-- The order compares elements by their keys. -/
def OrdersBy (le : α → α → Bool) (key : α → κ) : Prop := ∀ a b, le a b = true ↔ key a ≤ key b

/-- The keys of a list come in order. -/
def SortedOn (key : α → κ) (xs : List α) : Prop := xs.Pairwise fun a b => key a ≤ key b

/-- The elements of a list with a key, in the order of the list. -/
def tied (key : α → κ) (k : κ) (xs : List α) : List α := xs.filter fun a => key a = k

/-! ## Inserting and sorting -/

theorem OrdersBy.lt_of_not_le (h : OrdersBy le key) {a b : α} (hle : ¬le b a) : key a < key b :=
  lt_of_not_ge fun hkey => hle ((h b a).2 hkey)

theorem SortedOn.insertSorted (h : OrdersBy le key) (a : α) {xs : List α} (hxs : SortedOn key xs) :
    SortedOn key (insertSorted le a xs) := by
  induction xs with
  | nil => exact List.pairwise_singleton _ a
  | cons b rest ih =>
    obtain ⟨hb, hrest⟩ := List.pairwise_cons.1 hxs
    unfold RoleGrants.insertSorted
    split
    case isTrue hle =>
      refine List.pairwise_cons.2 ⟨fun c hc => ?_, ih hrest⟩
      rcases List.mem_cons.1 ((insertSorted_perm le a rest).mem_iff.1 hc) with rfl | hc
      · exact (h b c).1 hle
      · exact hb c hc
    case isFalse hle =>
      have hlt := h.lt_of_not_le hle
      refine List.pairwise_cons.2 ⟨fun c hc => ?_, hxs⟩
      rcases List.mem_cons.1 hc with rfl | hc
      · exact hlt.le
      · exact hlt.le.trans (hb c hc)

/-- An element that is inserted goes behind those it is tied with. -/
theorem tied_insertSorted (h : OrdersBy le key) (k : κ) (a : α) {xs : List α}
    (hxs : SortedOn key xs) :
    tied key k (insertSorted le a xs) = tied key k xs ++ tied key k [a] := by
  induction xs with
  | nil => rfl
  | cons b rest ih =>
    obtain ⟨hb, hrest⟩ := List.pairwise_cons.1 hxs
    unfold insertSorted
    split
    case isTrue hle =>
      unfold tied at ih ⊢
      rw [List.filter_cons, List.filter_cons, ih hrest]
      split <;> rfl
    case isFalse hle =>
      have hlt := h.lt_of_not_le hle
      by_cases hk : key a = k
      · -- Everything behind the new element has a greater key.
        have hnone : tied key k (b :: rest) = [] := by
          refine List.filter_eq_nil_iff.2 fun c hc => ?_
          have hkey : key a < key c := by
            rcases List.mem_cons.1 hc with rfl | hc
            · exact hlt
            · exact hlt.trans_le (hb c hc)
          simpa using (hk ▸ hkey).ne'
        have hcons : tied key k (a :: b :: rest) = a :: tied key k (b :: rest) :=
          List.filter_cons_of_pos (by simpa using hk)
        rw [hcons, hnone]
        simp [tied, hk]
      · simp [tied, List.filter_cons, hk]

theorem sortedBy_sorted (h : OrdersBy le key) (xs : List α) : SortedOn key (sortedBy le xs) := by
  have hfold : ∀ sorted : List α, SortedOn key sorted →
      SortedOn key (xs.foldl (fun ys a => insertSorted le a ys) sorted) := by
    induction xs with
    | nil => exact fun _ hsorted => hsorted
    | cons a rest ih => exact fun _ hsorted => ih _ (hsorted.insertSorted h a)
  exact hfold [] .nil

/-- Sorting keeps the order of elements with the same key. -/
theorem tied_sortedBy (h : OrdersBy le key) (k : κ) (xs : List α) :
    tied key k (sortedBy le xs) = tied key k xs := by
  -- The ties met so far stand in front of those that are still to be inserted.
  have hfold : ∀ sorted : List α, SortedOn key sorted →
      tied key k (xs.foldl (fun ys a => insertSorted le a ys) sorted) =
        tied key k sorted ++ tied key k xs := by
    induction xs with
    | nil => exact fun _ _ => (List.append_nil _).symm
    | cons a rest ih =>
      intro sorted hsorted
      rw [List.foldl_cons, ih _ (hsorted.insertSorted h a), tied_insertSorted h k a hsorted,
        List.append_assoc]
      exact congrArg (tied key k sorted ++ ·) (List.filter_append [a] rest).symm
  exact hfold [] .nil

/-- Where no two elements share a key, sorting forgets the order. -/
theorem sortedBy_eq_of_perm (h : OrdersBy le key) (hkey : Function.Injective key) {xs ys : List α}
    (hperm : xs.Perm ys) : sortedBy le xs = sortedBy le ys := by
  refine List.Perm.eq_of_pairwise (fun a b _ _ hab hba => hkey (le_antisymm hab hba))
    (sortedBy_sorted h xs) (sortedBy_sorted h ys) ?_
  exact (sortedBy_perm le xs).trans (hperm.trans (sortedBy_perm le ys).symm)

/-! ## A list in order, key by key -/

/-- In front of a list in order stand the elements with its least key. -/
theorem SortedOn.eq_tied_append {k : κ} {xs : List α} (hxs : SortedOn key xs)
    (hleast : ∀ a ∈ xs, k ≤ key a) : xs = tied key k xs ++ xs.filter fun a => key a ≠ k := by
  induction xs with
  | nil => rfl
  | cons a rest ih =>
    obtain ⟨ha, hrest⟩ := List.pairwise_cons.1 hxs
    by_cases hk : key a = k
    · have hsplit := ih hrest fun b hb => hleast b (List.mem_cons_of_mem a hb)
      calc a :: rest = a :: (tied key k rest ++ rest.filter fun b => key b ≠ k) := by rw [← hsplit]
        _ = tied key k (a :: rest) ++ (a :: rest).filter fun b => key b ≠ k := by
          simp [tied, hk]
    · have hlt : k < key a := lt_of_le_of_ne (hleast a List.mem_cons_self) (Ne.symm hk)
      have hne : ∀ b ∈ a :: rest, key b ≠ k := by
        intro b hb
        rcases List.mem_cons.1 hb with rfl | hb
        · exact hk
        · exact (hlt.trans_le (ha b hb)).ne'
      have hnone : tied key k (a :: rest) = [] :=
        List.filter_eq_nil_iff.2 fun b hb => by simpa using hne b hb
      have hall : ((a :: rest).filter fun b => key b ≠ k) = a :: rest :=
        List.filter_eq_self.2 fun b hb => by simpa using hne b hb
      rw [hnone, hall, List.nil_append]

/-- A list in order consists of its ties, one after the other. -/
theorem SortedOn.eq_flatMap_tied {ks : List κ} (hks : ks.Pairwise (· < ·)) {xs : List α}
    (hxs : SortedOn key xs) (hcover : ∀ a ∈ xs, key a ∈ ks) :
    xs = ks.flatMap fun k => tied key k xs := by
  induction ks generalizing xs with
  | nil => exact List.eq_nil_iff_forall_not_mem.2 fun a ha => by simpa using hcover a ha
  | cons k ks ih =>
    obtain ⟨hk, hks⟩ := List.pairwise_cons.1 hks
    have hleast : ∀ a ∈ xs, k ≤ key a := fun a ha => by
      rcases List.mem_cons.1 (hcover a ha) with heq | hmem
      · exact heq.ge
      · exact (hk _ hmem).le
    -- What is left without the least key is in order and has the keys that are left.
    have hrest := ih hks (hxs.filter fun a => key a ≠ k) fun a ha => by
      obtain ⟨hmem, hne⟩ := List.mem_filter.1 ha
      exact (List.mem_cons.1 (hcover a hmem)).resolve_left (by simpa using hne)
    have hties : ∀ k' ∈ ks, tied key k' (xs.filter fun a => key a ≠ k) = tied key k' xs := by
      intro k' hk'
      unfold tied
      rw [List.filter_filter]
      refine List.filter_congr fun a _ => ?_
      have hne := (hk k' hk').ne'
      by_cases h : key a = k' <;> simp [h, hne]
    calc xs = tied key k xs ++ xs.filter fun a => key a ≠ k := hxs.eq_tied_append hleast
      _ = tied key k xs ++ ks.flatMap fun k' => tied key k' (xs.filter fun a => key a ≠ k) := by
        rw [← hrest]
      _ = tied key k xs ++ ks.flatMap fun k' => tied key k' xs := by
        rw [List.flatMap_congr hties]

/-! ## Texts of sorted lists -/

/-- Texts that are put together from parts of the same lengths are equal part by part. -/
theorem flatMap_eq_flatMap_iff {ι : Type} {f g : ι → List β} {ks : List ι}
    (hlen : ∀ k ∈ ks, (f k).length = (g k).length) :
    ks.flatMap f = ks.flatMap g ↔ ∀ k ∈ ks, f k = g k := by
  induction ks with
  | nil => simp
  | cons k ks ih =>
    obtain ⟨hk, hks⟩ := List.forall_mem_cons.1 hlen
    rw [List.flatMap_cons, List.flatMap_cons, List.forall_mem_cons, ← ih hks]
    constructor
    · exact fun heq => List.append_inj heq hk
    · exact fun ⟨hhead, htail⟩ => congrArg₂ (· ++ ·) hhead htail

/-- Lists with the same elements, as far as keys go, have equally many of each key. -/
theorem length_tied {xs ys : List α} (hperm : (xs.map key).Perm (ys.map key)) (k : κ) :
    (tied key k xs).length = (tied key k ys).length := by
  have hlength : ∀ zs : List α, (tied key k zs).length = (zs.map key).count k := by
    intro zs
    rw [List.count, List.countP_map, tied, ← List.countP_eq_length_filter]
    rfl
  rw [hlength, hlength, hperm.count_eq]

theorem length_flatMap_tied (text : α → List β) {xs ys : List α}
    (hperm : (xs.map fun a => (key a, text a)).Perm (ys.map fun a => (key a, text a))) (k : κ) :
    ((tied key k xs).flatMap text).length = ((tied key k ys).flatMap text).length := by
  have hlengths : ∀ zs : List α, ((tied key k zs).flatMap text).length =
      (((zs.map fun a => (key a, text a)).filter fun p => p.1 = k).map
        fun p => p.2.length).sum := by
    intro zs
    rw [List.length_flatMap, List.filter_map, List.map_map]
    rfl
  rw [hlengths, hlengths]
  exact ((hperm.filter _).map _).sum_nat

/-- Lists with the same elements, as far as keys and texts go, sort to the same text exactly when
their ties do. -/
theorem flatMap_sortedBy_eq_iff (h : OrdersBy le key) (text : α → List β) {xs ys : List α}
    (hperm : (xs.map fun a => (key a, text a)).Perm (ys.map fun a => (key a, text a))) :
    (sortedBy le xs).flatMap text = (sortedBy le ys).flatMap text ↔
      ∀ a ∈ xs, (tied key (key a) xs).flatMap text = (tied key (key a) ys).flatMap text := by
  have hkeys : ∀ k, k ∈ xs.map key ↔ k ∈ ys.map key := by
    intro k
    have hmap := (hperm.map Prod.fst).mem_iff (a := k)
    rw [List.map_map, List.map_map] at hmap
    exact hmap
  -- Both lists consist of their ties, in the order of the keys that they share.
  let ks := ((sortedBy le xs).map key).dedup
  have hmem : ∀ k, k ∈ ks ↔ k ∈ xs.map key := fun k =>
    List.mem_dedup.trans ((sortedBy_perm le xs).map key).mem_iff
  have hks : ks.Pairwise (· < ·) := by
    have hle : ks.Pairwise (· ≤ ·) :=
      (List.pairwise_map.2 (sortedBy_sorted h xs)).sublist (List.dedup_sublist _)
    exact hle.imp₂ (fun _ _ hle hne => lt_of_le_of_ne hle hne) (List.nodup_dedup _)
  have hparts : ∀ zs : List α, (∀ k ∈ zs.map key, k ∈ ks) →
      (sortedBy le zs).flatMap text = ks.flatMap fun k => (tied key k zs).flatMap text := by
    intro zs hcover
    have hsorted := (sortedBy_sorted h zs).eq_flatMap_tied hks fun a ha =>
      hcover _ (List.mem_map_of_mem ((sortedBy_perm le zs).mem_iff.1 ha))
    simp only [tied_sortedBy h] at hsorted
    rw [hsorted, List.flatMap_assoc]
  rw [hparts xs fun k hk => (hmem k).2 hk, hparts ys fun k hk => (hmem k).2 ((hkeys k).2 hk),
    flatMap_eq_flatMap_iff fun k _ => length_flatMap_tied text hperm k]
  exact (forall_congr' fun k => imp_congr_left (hmem k)).trans List.forall_mem_map

end RoleGrants
