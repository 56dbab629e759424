import Mathlib.Data.List.Forall2
import Mathlib.Data.Prod.Lex
import Mathlib.Data.String.Basic
import RoleGrants.Proofs.Selector.Agreement
import RoleGrants.Proofs.Sorting

/-!
# Queries of selectors in another order

The labels, the requirements and the values of a selector may be written in any order, and the order
of its query is meant not to show which.  Three sorts see to that: labels by key, values by
themselves, requirements by key and operator.  The first two leave no choice.  The third one does:
two requirements on one key under one operator are tied, whatever values they list, and tied
requirements stand in the query as they stood in the selector.

`query_of_rearranged` says what follows.  A rearranged selector has the same query exactly when its
tied requirements make the same text as before, and all rearrangements of a selector have its query
exactly when it does not matter in which order two tied requirements are written.  Of label text
that means that they list the same values.
-/

namespace RoleGrants

open RoleGrants.Query RoleGrants.Schema

/-! ## Other orders -/

/-- Requirements that differ in the order of their values at most. -/
structure Requirement.Alike (a b : Requirement) : Prop where
  key : a.key = b.key
  operator : a.operator = b.operator
  values : a.values.Perm b.values

/-- Requirements in another order, each with its values in another order. -/
def RequirementsRearranged (rs ts : List Requirement) : Prop :=
  ∃ us, rs.Perm us ∧ List.Forall₂ Requirement.Alike us ts

/-- A selector with its labels, its requirements and their values in another order. -/
structure Selector.Rearranged (s t : Selector) : Prop where
  labels : Option.Rel List.Perm s.matchLabels t.matchLabels
  requirements : Option.Rel RequirementsRearranged s.matchExpressions t.matchExpressions

/-- Requirements between which the order of a query does not choose. -/
def Requirement.Ties (a b : Requirement) : Prop := a.key = b.key ∧ a.operator = b.operator

instance (a b : Requirement) : Decidable (a.Ties b) := inferInstanceAs (Decidable (_ ∧ _))

/-- Requirements that may be written in either order. -/
def Requirement.Commutes (a b : Requirement) : Prop :=
  a.query ++ "," ++ b.query = b.query ++ "," ++ a.query

/-- The part of the query of a selector that the requirements make which are tied with one. -/
def Selector.tiedQuery (s : Selector) (r : Requirement) : String :=
  ",".intercalate ((s.requirements.filter fun x => x.Ties r).map Requirement.query)

/-! ## The orders of the sorts -/

/-- What requirements are sorted by. -/
def Requirement.place (r : Requirement) : String ×ₗ String := toLex (r.key, r.operator.word)

theorem Operator.word_injective : Function.Injective Operator.word := by
  intro a b h
  cases a <;> cases b <;> first | rfl | exact absurd h (by decide)

theorem Requirement.place_eq_iff {a b : Requirement} : a.place = b.place ↔ a.Ties b := by
  unfold Requirement.place Requirement.Ties
  rw [EmbeddingLike.apply_eq_iff_eq, Prod.mk.injEq, Operator.word_injective.eq_iff]

theorem pairLe_iff (a b : String × String) : pairLe a b = true ↔ toLex a ≤ toLex b := by
  simp [pairLe, Prod.Lex.toLex_le_toLex]

theorem ordersBy_pairLe : OrdersBy pairLe (toLex : String × String → String ×ₗ String) := pairLe_iff

theorem ordersBy_place : OrdersBy Requirement.le Requirement.place := fun _ _ => pairLe_iff _ _

theorem ordersBy_text : OrdersBy (fun a b : String => a ≤ b) id := fun _ _ => decide_eq_true_iff

/-! ## Joined pieces -/

/-- Pieces with a comma behind each, the last one too. -/
def ended (ps : List String) : List Char := ps.flatMap fun p => p.toList ++ [',']

theorem toList_intercalate_append {ps : List String} (hne : ps ≠ []) :
    (",".intercalate ps).toList ++ [','] = ended ps := by
  rw [String.toList_intercalate]
  induction ps with
  | nil => exact absurd rfl hne
  | cons p rest ih =>
    cases rest with
    | nil => simp [ended]
    | cons q more =>
      have hrest := ih (by simp)
      unfold ended at hrest ⊢
      rw [List.flatMap_cons, ← hrest]
      simp

/-- As many pieces join to the same text exactly when they do with a comma behind each. -/
theorem intercalate_eq_iff {ps qs : List String} (hlen : ps.length = qs.length) :
    ",".intercalate ps = ",".intercalate qs ↔ ended ps = ended qs := by
  by_cases hps : ps = []
  · have hqs : qs = [] := List.eq_nil_of_length_eq_zero (by rw [← hlen, hps]; rfl)
    simp [hps, hqs]
  · have hqs : qs ≠ [] := fun h => hps (List.eq_nil_of_length_eq_zero (by rw [hlen, h]; rfl))
    rw [← toList_intercalate_append hps, ← toList_intercalate_append hqs,
      List.append_cancel_right_eq, String.toList_inj]

/-- A requirement in a query, with the comma behind it. -/
def Requirement.ended (r : Requirement) : List Char := r.query.toList ++ [',']

theorem ended_map_query (rs : List Requirement) :
    ended (rs.map Requirement.query) = rs.flatMap Requirement.ended :=
  List.flatMap_map _ _ rs

/-! ## What a rearranged selector keeps -/

theorem Requirement.Alike.query_eq {a b : Requirement} (h : a.Alike b) : a.query = b.query := by
  have hvalues := sortedBy_eq_of_perm ordersBy_text Function.injective_id h.values
  unfold Requirement.query
  rw [h.operator, h.key, hvalues]

theorem Requirement.Alike.place_eq {a b : Requirement} (h : a.Alike b) : a.place = b.place :=
  place_eq_iff.2 ⟨h.key, h.operator⟩

/-- The places and the texts of requirements are the same in every order. -/
theorem RequirementsRearranged.perm {rs ts : List Requirement} (h : RequirementsRearranged rs ts) :
    (rs.map fun r => (r.place, r.ended)).Perm (ts.map fun r => (r.place, r.ended)) := by
  obtain ⟨us, hperm, halike⟩ := h
  have hmap : (us.map fun r => (r.place, r.ended)) = ts.map fun r => (r.place, r.ended) := by
    clear hperm
    induction halike with
    | nil => rfl
    | cons hhead _ ih =>
      rw [List.map_cons, List.map_cons, ih, hhead.place_eq, Requirement.ended, hhead.query_eq]
      rfl
  exact hmap ▸ hperm.map _

theorem RequirementsRearranged.perm_place {rs ts : List Requirement}
    (h : RequirementsRearranged rs ts) :
    (rs.map Requirement.place).Perm (ts.map Requirement.place) := by
  have hfirst := h.perm.map Prod.fst
  rw [List.map_map, List.map_map] at hfirst
  exact hfirst

/-- What is in relation stays so when an absent part is taken for an empty one. -/
theorem getD_rel {α : Type} {R : List α → List α → Prop} (hnil : R [] []) {o p : Option (List α)}
    (h : Option.Rel R o p) : R (o.getD []) (p.getD []) := by
  cases h with
  | none => exact hnil
  | some h => exact h

theorem Selector.Rearranged.perm_labels {s t : Selector} (h : s.Rearranged t) :
    s.labels.Perm t.labels := getD_rel .nil h.labels

theorem Selector.Rearranged.rearranged {s t : Selector} (h : s.Rearranged t) :
    RequirementsRearranged s.requirements t.requirements := getD_rel ⟨[], .nil, .nil⟩ h.requirements

/-! ## Queries and ties -/

/-- Of the query of a rearranged selector only the order of the requirements is in question. -/
theorem Selector.Rearranged.query_eq_iff {s t : Selector} (h : s.Rearranged t) :
    t.query = s.query ↔ (sortedBy Requirement.le s.requirements).flatMap Requirement.ended =
      (sortedBy Requirement.le t.requirements).flatMap Requirement.ended := by
  have hlabels : sortedBy pairLe t.labels = sortedBy pairLe s.labels :=
    sortedBy_eq_of_perm ordersBy_pairLe toLex.injective h.perm_labels.symm
  have hlen : t.requirements.length = s.requirements.length := by
    simpa using h.rearranged.perm_place.length_eq.symm
  have hpieces : t.queryPieces.length = s.queryPieces.length := by
    simp [queryPieces, hlabels, (sortedBy_perm _ _).length_eq, hlen]
  have hended : ∀ u : Selector, ended u.queryPieces =
      ended ((sortedBy pairLe u.labels).map fun l => l.1 ++ "=" ++ l.2) ++
        (sortedBy Requirement.le u.requirements).flatMap Requirement.ended := by
    intro u
    rw [← ended_map_query, ended, queryPieces, List.flatMap_append]
    rfl
  rw [query, query, intercalate_eq_iff hpieces, hended, hended, hlabels,
    List.append_cancel_left_eq, eq_comm]

theorem Selector.filter_ties (s : Selector) (r : Requirement) :
    (s.requirements.filter fun x => x.Ties r) = tied Requirement.place r.place s.requirements :=
  List.filter_congr fun _ _ => decide_eq_decide.2 Requirement.place_eq_iff.symm

theorem Selector.Rearranged.tiedQuery_eq_iff {s t : Selector} (h : s.Rearranged t)
    (r : Requirement) : t.tiedQuery r = s.tiedQuery r ↔
      (tied Requirement.place r.place s.requirements).flatMap Requirement.ended =
        (tied Requirement.place r.place t.requirements).flatMap Requirement.ended := by
  have hlen : ((t.requirements.filter fun x => x.Ties r).map Requirement.query).length =
      ((s.requirements.filter fun x => x.Ties r).map Requirement.query).length := by
    rw [List.length_map, List.length_map, filter_ties, filter_ties]
    exact length_tied h.rearranged.perm_place.symm r.place
  rw [tiedQuery, tiedQuery, intercalate_eq_iff hlen, ended_map_query, ended_map_query, filter_ties,
    filter_ties, eq_comm]

/-- A rearranged selector has the same query exactly when its ties make the same text. -/
theorem Selector.Rearranged.query_eq_iff_tiedQuery {s t : Selector} (h : s.Rearranged t) :
    t.query = s.query ↔ ∀ r ∈ s.requirements, t.tiedQuery r = s.tiedQuery r := by
  rw [h.query_eq_iff, flatMap_sortedBy_eq_iff ordersBy_place Requirement.ended h.rearranged.perm]
  exact forall₂_congr fun r _ => (h.tiedQuery_eq_iff r).symm

/-! ## Ties in either order -/

theorem Requirement.commutes_iff {a b : Requirement} :
    a.Commutes b ↔ a.ended ++ b.ended = b.ended ++ a.ended := by
  have hended : ∀ c d : Requirement,
      c.ended ++ d.ended = (c.query ++ "," ++ d.query).toList ++ [','] :=
    fun c d => by simp [Requirement.ended]
  rw [hended, hended, List.append_cancel_right_eq, String.toList_inj]
  rfl

/-- Texts that may be written in either order make the same text in every order. -/
theorem flatten_eq_of_perm {β : Type} {ps qs : List (List β)} (hperm : ps.Perm qs)
    (hcommute : ∀ p ∈ ps, ∀ q ∈ ps, p ++ q = q ++ p) : ps.flatten = qs.flatten := by
  induction hperm with
  | nil => rfl
  | cons p _ ih =>
    have hrest := ih fun q hq r hr =>
      hcommute q (List.mem_cons_of_mem p hq) r (List.mem_cons_of_mem p hr)
    rw [List.flatten_cons, List.flatten_cons, hrest]
  | swap p q rest =>
    have hpq := hcommute q (by simp) p (by simp)
    rw [List.flatten_cons, List.flatten_cons, List.flatten_cons, List.flatten_cons,
      ← List.append_assoc, ← List.append_assoc, hpq]
  | trans hfirst _ ihfirst ihsecond =>
    have hmiddle := ihsecond fun q hq r hr =>
      hcommute q (hfirst.mem_iff.2 hq) r (hfirst.mem_iff.2 hr)
    exact (ihfirst hcommute).trans hmiddle

/-- Ties that may be written in either order make the same text in all rearranged selectors. -/
theorem Selector.Rearranged.query_eq_of_commutes {s t : Selector} (h : s.Rearranged t)
    (hcommute : ∀ a ∈ s.requirements, ∀ b ∈ s.requirements, a.Ties b → a.Commutes b) :
    t.query = s.query := by
  refine h.query_eq_iff_tiedQuery.2 fun r _ => (h.tiedQuery_eq_iff r).2 ?_
  have hmem : ∀ a, a ∈ tied Requirement.place r.place s.requirements ↔
      a ∈ s.requirements ∧ a.Ties r := by
    intro a
    rw [← s.filter_ties, List.mem_filter, decide_eq_true_iff]
  have htexts : ∀ rs : List Requirement, (tied Requirement.place r.place rs).map Requirement.ended =
      (((rs.map fun x => (x.place, x.ended)).filter fun p => p.1 = r.place).map Prod.snd) := by
    intro rs
    rw [List.filter_map, List.map_map]
    rfl
  have hperm := (h.rearranged.perm.filter fun p => p.1 = r.place).map Prod.snd
  rw [← htexts, ← htexts] at hperm
  rw [List.flatMap_def, List.flatMap_def]
  refine flatten_eq_of_perm hperm fun p hp q hq => ?_
  obtain ⟨a, ha, rfl⟩ := List.mem_map.1 hp
  obtain ⟨b, hb, rfl⟩ := List.mem_map.1 hq
  obtain ⟨hamem, har⟩ := (hmem a).1 ha
  obtain ⟨hbmem, hbr⟩ := (hmem b).1 hb
  exact Requirement.commutes_iff.1
    (hcommute a hamem b hbmem ⟨har.1.trans hbr.1.symm, har.2.trans hbr.2.symm⟩)

theorem RequirementsRearranged.of_perm {rs ts : List Requirement} (h : rs.Perm ts) :
    RequirementsRearranged rs ts :=
  ⟨ts, h, List.forall₂_same.2 fun _ _ => ⟨rfl, rfl, .refl _⟩⟩

/-- A selector with its requirements in another order. -/
theorem Selector.rearranged_of_perm {s : Selector} {rs ts : List Requirement}
    (hs : s.matchExpressions = some rs) (hperm : rs.Perm ts) :
    s.Rearranged { s with matchExpressions := some ts } := by
  refine ⟨?_, hs ▸ .some (.of_perm hperm)⟩
  cases s.matchLabels with
  | none => exact .none
  | some labels => exact .some (.refl _)

/-- If no rearrangement changes the query, ties may be written in either order. -/
theorem Selector.commutes_of_rearranged {s : Selector}
    (hquery : ∀ t, s.Rearranged t → t.query = s.query) {a b : Requirement}
    (ha : a ∈ s.requirements) (hb : b ∈ s.requirements) (hties : a.Ties b) : a.Commutes b := by
  by_cases hab : a = b
  · rw [hab]
    rfl
  · obtain ⟨rs, hrs⟩ : ∃ rs, s.matchExpressions = some rs := by
      cases hs : s.matchExpressions with
      | none => simp [requirements, hs] at ha
      | some rs => exact ⟨rs, rfl⟩
    rw [requirements, hrs] at ha hb
    -- Both requirements in front, in either order.
    let more := (rs.erase a).erase b
    have hperm : rs.Perm (a :: b :: more) :=
      (List.perm_cons_erase ha).trans
        ((List.perm_cons_erase ((List.mem_erase_of_ne (Ne.symm hab)).2 hb)).cons a)
    let t : Selector := { s with matchExpressions := some (a :: b :: more) }
    let u : Selector := { s with matchExpressions := some (b :: a :: more) }
    have htu : t.Rearranged u := t.rearranged_of_perm rfl (.swap b a more)
    have hsame : u.query = t.query :=
      (hquery u (s.rearranged_of_perm hrs (hperm.trans (.swap b a more)))).trans
        (hquery t (s.rearranged_of_perm hrs hperm)).symm
    have htied := (htu.tiedQuery_eq_iff a).1
      (htu.query_eq_iff_tiedQuery.1 hsame a List.mem_cons_self)
    have hplace : b.place = a.place := (Requirement.place_eq_iff.2 hties).symm
    refine Requirement.commutes_iff.2 ((List.append_left_inj
      ((tied Requirement.place a.place more).flatMap Requirement.ended)).1 ?_)
    simpa [tied, t, u, requirements, hplace] using htied

/-! ## Ties of label text -/

/-- Two requirements next to each other are read as their two terms. -/
theorem Requirement.read_pair {a b : Requirement} (ha : a.term.Legible) (hb : b.term.Legible) :
    Query.read (a.query ++ "," ++ b.query) = some [a.term, b.term] := by
  refine read_joined (fun t ht => ?_) ?_
  · rcases List.mem_cons.1 ht with rfl | ht
    · exact ha
    · exact List.mem_singleton.1 ht ▸ hb
  · simp [Requirement.text_term]

/-- A requirement that does not compare with values lists none. -/
theorem Requirement.values_eq_nil {r : Requirement} (rule : r.rule = none)
    (hop : r.operator = .isPresent ∨ r.operator = .isAbsent) : r.values = [] := by
  unfold Requirement.rule at rule
  rcases hop with hop | hop <;>
  · rw [hop] at rule
    by_contra hne
    simp [hne] at rule

/-- Of label text, ties may be written in either order exactly when they list the same values. -/
theorem Requirement.commutes_iff_perm {a b : Requirement} (hties : a.Ties b)
    (ha : a.rule = none) (hb : b.rule = none) (hla : a.term.Legible) (hlb : b.term.Legible) :
    a.Commutes b ↔ a.values.Perm b.values := by
  constructor
  · intro hcommute
    have hread : some [a.term, b.term] = some [b.term, a.term] := by
      rw [← read_pair hla hlb, ← read_pair hlb hla, hcommute]
    have hterm : a.term = b.term := (List.cons.inj (Option.some.inj hread)).1
    have hsorted : sortedBy (fun x y => decide (x ≤ y)) a.values =
        sortedBy (fun x y => decide (x ≤ y)) b.values → a.values.Perm b.values := fun heq =>
      (sortedBy_perm _ a.values).symm.trans (heq ▸ sortedBy_perm _ b.values)
    have hop : b.operator = a.operator := hties.2.symm
    unfold Requirement.term at hterm
    cases hoperator : a.operator with
    | isPresent =>
      rw [values_eq_nil ha (.inl hoperator), values_eq_nil hb (.inl (hop.trans hoperator))]
    | isAbsent =>
      rw [values_eq_nil ha (.inr hoperator), values_eq_nil hb (.inr (hop.trans hoperator))]
    | isIn | isNotIn =>
      rw [hop, hoperator] at hterm
      injection hterm with _ hvalues
      exact hsorted hvalues
  · intro hperm
    have halike : a.Alike b := ⟨hties.1, hties.2, hperm⟩
    rw [Commutes, halike.query_eq]

/-- What the order of a selector does to its query.  A rearranged selector has the same query
exactly when its tied requirements make the same text.  All rearranged selectors have it exactly
when tied requirements may be written in either order, and if keys and values are label text,
exactly when tied requirements list the same values. -/
theorem query_of_rearranged (s : Selector) :
    (∀ t, s.Rearranged t →
      (t.query = s.query ↔ ∀ r ∈ s.requirements, t.tiedQuery r = s.tiedQuery r)) ∧
    ((∀ t, s.Rearranged t → t.query = s.query) ↔
      ∀ a ∈ s.requirements, ∀ b ∈ s.requirements, a.Ties b → a.Commutes b) ∧
    ∀ v, Selector.read v = .ok s → s.HasLabelText →
      ((∀ t, s.Rearranged t → t.query = s.query) ↔
        ∀ a ∈ s.requirements, ∀ b ∈ s.requirements, a.Ties b → a.values.Perm b.values) := by
  have hcommutes : (∀ t, s.Rearranged t → t.query = s.query) ↔
      ∀ a ∈ s.requirements, ∀ b ∈ s.requirements, a.Ties b → a.Commutes b :=
    ⟨fun hquery _ ha _ hb hties => Selector.commutes_of_rearranged hquery ha hb hties,
      fun hcommute _ h => h.query_eq_of_commutes hcommute⟩
  refine ⟨fun t h => h.query_eq_iff_tiedQuery, hcommutes, fun v accepted legible => ?_⟩
  refine hcommutes.trans (forall₂_congr fun a ha => forall₂_congr fun b hb =>
    imp_congr_right fun hties => ?_)
  have hrule : ∀ r ∈ s.requirements, r.rule = none := fun r hr => Selector.rule_of_read accepted hr
  have hlegible : ∀ r ∈ s.requirements, r.term.Legible := fun r hr =>
    have htext := legible.requirements r hr
    Requirement.legible_term (hrule r hr) htext.1 htext.2
  exact Requirement.commutes_iff_perm hties (hrule a ha) (hrule b hb) (hlegible a ha)
    (hlegible b hb)

/-- A selector that wants two things of one label. -/
def tierChoices : Selector where
  matchLabels := none
  matchExpressions := some [⟨"tier", .isIn, ["b"]⟩, ⟨"tier", .isIn, ["a"]⟩]

/-- The same selector, with the two requirements the other way round. -/
def tierChoicesTurned : Selector where
  matchLabels := none
  matchExpressions := some [⟨"tier", .isIn, ["a"]⟩, ⟨"tier", .isIn, ["b"]⟩]

/-- A document of a selector that wants of one label to be among two lists of values. -/
def tierChoicesDocument (first second : String) : Value :=
  let choice := fun (value : String) => Value.map [(.text "key", .text "tier"),
    (.text "operator", .text "In"), (.text "values", .list [.text value])]
  .map [(.text "matchExpressions", .list [choice first, choice second])]

theorem tierChoices_rearranged : tierChoices.Rearranged tierChoicesTurned :=
  tierChoices.rearranged_of_perm rfl (.swap _ _ [])

/-- The order of two requirements on one label shows in the query. -/
theorem tierChoices_query_ne :
    Selector.read (tierChoicesDocument "b" "a") = .ok tierChoices ∧
      Selector.read (tierChoicesDocument "a" "b") = .ok tierChoicesTurned ∧
      tierChoices.Rearranged tierChoicesTurned ∧
      tierChoices.query = "tier in (b),tier in (a)" ∧
      tierChoicesTurned.query = "tier in (a),tier in (b)" ∧
      tierChoicesTurned.query ≠ tierChoices.query :=
  ⟨rfl, rfl, tierChoices_rearranged, by decide, by decide, by decide⟩

/-- The two requirements list different values, and so there is a rearrangement with another
query. -/
theorem tierChoices_settled_iff :
    tierChoices.Rearranged tierChoicesTurned ∧
      (tierChoicesTurned.query = tierChoices.query ↔
        ∀ r ∈ tierChoices.requirements, tierChoicesTurned.tiedQuery r = tierChoices.tiedQuery r) ∧
      Selector.read (tierChoicesDocument "b" "a") = .ok tierChoices ∧ tierChoices.HasLabelText ∧
      ((∀ t, tierChoices.Rearranged t → t.query = tierChoices.query) ↔
        ∀ a ∈ tierChoices.requirements, ∀ b ∈ tierChoices.requirements,
          a.Ties b → a.values.Perm b.values) := by
  have legible : tierChoices.HasLabelText := ⟨by decide, by decide⟩
  obtain ⟨hties, -, htext⟩ := query_of_rearranged tierChoices
  exact ⟨tierChoices_rearranged, hties _ tierChoices_rearranged, rfl, legible,
    htext (tierChoicesDocument "b" "a") rfl legible⟩

end RoleGrants
