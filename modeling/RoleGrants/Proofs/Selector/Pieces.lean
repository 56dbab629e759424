import Mathlib.Algebra.Ring.Nat
import RoleGrants.Proofs.Schema.RoundTrip
import RoleGrants.Proofs.Selector.Agreement

/-!
# Where a query comes apart

A query is meant to come apart into what its selector asks for: one piece for each label and one for
each requirement.  But keys and values are any text, and nothing that is written keeps a comma or a
parenthesis in them from being read as one of the query.

`query_pieces_iff` says when a query comes apart as meant.  No piece may itself be split, and all
but the last have to close the parentheses that they open.  Of a selector without parentheses in its
texts the pieces can be counted: every comma in a key or in the value of a label makes one more, and
only the values of a requirement, which stand in parentheses, may have commas.
-/

namespace RoleGrants

namespace Query

/-! ## Splitting a text at a place -/

/-- How deep the text behind a text lies in parentheses. -/
def depthAfter (depth : Nat) (w : List Char) : Nat := w.foldl depthBehind depth

/-- Pieces of two texts that follow each other: the last piece of the first one goes on in the
first piece of the second one. -/
def glue : List (List Char) → List (List Char) → List (List Char)
  | [], qs => qs
  | [p], qs => attach p qs
  | p :: q :: ps, qs => p :: glue (q :: ps) qs

theorem glue_attach (w : List Char) {ps : List (List Char)} (hne : ps ≠ [])
    (qs : List (List Char)) : glue (attach w ps) qs = attach w (glue ps qs) := by
  match ps, hne with
  | [p], _ => exact (attach_attach w p qs).symm
  | p :: q :: more, _ => rfl

theorem length_attach (w : List Char) {ps : List (List Char)} (hne : ps ≠ []) :
    (attach w ps).length = ps.length := by
  cases ps with
  | nil => exact absurd rfl hne
  | cons p more => rfl

theorem length_glue {ps qs : List (List Char)} (hps : ps ≠ []) (hqs : qs ≠ []) :
    (glue ps qs).length + 1 = ps.length + qs.length := by
  induction ps with
  | nil => exact absurd rfl hps
  | cons p more ih =>
      cases more with
      | nil =>
          rw [glue, length_attach p hqs, List.length_singleton, Nat.add_comm]
      | cons q rest =>
          have hrest := ih (by simp)
          simp only [glue, List.length_cons] at hrest ⊢
          omega

/-- A text is split where its parts are. -/
theorem splitOutside_append_eq_glue (depth : Nat) (v w : List Char) :
    splitOutside depth (v ++ w) =
      glue (splitOutside depth v) (splitOutside (depthAfter depth v) w) := by
  induction v generalizing depth with
  | nil =>
      have hne := splitOutside_ne_nil depth w
      simp only [List.nil_append, splitOutside, glue, depthAfter, List.foldl_nil]
      cases hs : splitOutside depth w with
      | nil => exact absurd hs hne
      | cons p more => rfl
  | cons c v ih =>
      rw [List.cons_append, splitOutside, splitOutside]
      split
      case isTrue hsep =>
          obtain ⟨rfl, rfl⟩ := hsep
          have htail := ih 0
          rw [htail]
          cases hs : splitOutside 0 v with
          | nil => exact absurd hs (splitOutside_ne_nil 0 v)
          | cons p more => rfl
      case isFalse =>
          rw [ih, glue_attach [c] (splitOutside_ne_nil _ v)]
          rfl

theorem depthAfter_append (depth : Nat) (v w : List Char) :
    depthAfter depth (v ++ w) = depthAfter (depthAfter depth v) w := List.foldl_append

/-- Pieces join to the text that was split. -/
theorem intercalate_splitOutside (depth : Nat) (w : List Char) :
    [','].intercalate (splitOutside depth w) = w := by
  have hattach : ∀ c ps, ps ≠ [] →
      [','].intercalate (attach [c] ps) = c :: [','].intercalate ps := by
    intro c ps hne
    match ps, hne with
    | [p], _ => simp [attach]
    | p :: q :: more, _ => simp [attach]
  induction w generalizing depth with
  | nil => simp [splitOutside]
  | cons c w ih =>
      rw [splitOutside]
      split
      case isTrue hsep =>
          have htail := ih depth
          cases hs : splitOutside depth w with
          | nil => exact absurd hs (splitOutside_ne_nil depth w)
          | cons p more =>
              rw [hs] at htail
              rw [List.intercalate_cons_cons, htail, hsep.1]
              rfl
      case isFalse => rw [hattach c _ (splitOutside_ne_nil _ w), ih]

/-- A text is whole when it is not split and closes the parentheses that it opens. -/
theorem isWhole_iff {p : List Char} : IsWhole p ↔ splitOutside 0 p = [p] ∧ depthAfter 0 p = 0 := by
  constructor
  · intro hwhole
    have hself : splitOutside 0 p = [p] := by
      have hnil := hwhole []
      rw [List.append_nil] at hnil
      exact hnil.trans (by simp [splitOutside, attach])
    refine ⟨hself, ?_⟩
    -- A comma behind an open parenthesis would not separate.
    have hcomma := hwhole [',']
    rw [splitOutside_append_eq_glue, hself] at hcomma
    by_contra hdepth
    simp [glue, splitOutside, attach, hdepth] at hcomma
  · rintro ⟨hself, hdepth⟩ rest
    rw [splitOutside_append_eq_glue, hself, hdepth]
    rfl

/-! ## Joined pieces -/

/-- A text that stays the first piece in front of others is not split. -/
theorem splitOutside_eq_self_of_glue {p : List Char} {qs rest : List (List Char)}
    (h : glue (splitOutside 0 p) qs = p :: rest) : splitOutside 0 p = [p] := by
  have hback := intercalate_splitOutside 0 p
  match hs : splitOutside 0 p with
  | [] => exact absurd hs (splitOutside_ne_nil 0 p)
  | [x] =>
      rw [hs, List.intercalate_singleton] at hback
      rw [hback]
  | x :: y :: others =>
      rw [hs] at h hback
      have hx : x = p := (List.cons.inj h).1
      have hlen := congrArg List.length hback
      simp [hx] at hlen

/-- A comma ends the piece in front of it only outside of parentheses. -/
theorem depth_eq_zero_of_glue {depth : Nat} {p w : List Char} {rest : List (List Char)}
    (h : glue [p] (splitOutside depth (',' :: w)) = p :: rest) : depth = 0 := by
  by_contra hdeep
  have hinside : splitOutside depth (',' :: w) =
      attach [','] (splitOutside (depthBehind depth ',') w) := by
    rw [splitOutside, if_neg fun hsep => hdeep hsep.2]
  rw [hinside] at h
  cases hs : splitOutside (depthBehind depth ',') w with
  | nil => exact splitOutside_ne_nil _ w hs
  | cons x others =>
      rw [hs] at h
      have hlen := congrArg List.length (List.cons.inj h).1
      simp at hlen

/-- Pieces that are joined come apart again exactly when none of them is split and all but the last
one close their parentheses. -/
theorem splitOutside_joined_iff {ps : List (List Char)} (hne : ps ≠ []) :
    splitOutside 0 ([','].intercalate ps) = ps ↔
      (∀ p ∈ ps, splitOutside 0 p = [p]) ∧ ∀ p ∈ ps.dropLast, depthAfter 0 p = 0 := by
  induction ps with
  | nil => exact absurd rfl hne
  | cons p rest ih =>
      cases rest with
      | nil => simp
      | cons q more =>
          have hrest := ih (by simp)
          rw [List.intercalate_cons_cons, List.append_assoc, splitOutside_append_eq_glue,
            List.dropLast_cons_cons]
          constructor
          · intro hsplit
            have hself := splitOutside_eq_self_of_glue hsplit
            rw [hself] at hsplit
            have hdepth := depth_eq_zero_of_glue hsplit
            rw [hdepth] at hsplit
            have htail : splitOutside 0 ([','].intercalate (q :: more)) = q :: more := by
              simpa [glue, splitOutside, attach] using hsplit
            obtain ⟨hselves, hdepths⟩ := hrest.1 htail
            exact ⟨List.forall_mem_cons.2 ⟨hself, hselves⟩,
              List.forall_mem_cons.2 ⟨hdepth, hdepths⟩⟩
          · rintro ⟨hselves, hdepths⟩
            obtain ⟨hself, hselves⟩ := List.forall_mem_cons.1 hselves
            obtain ⟨hdepth, hdepths⟩ := List.forall_mem_cons.1 hdepths
            have htail := hrest.2 ⟨hselves, hdepths⟩
            rw [hself, hdepth]
            simp [glue, splitOutside, attach, htail]

/-- Joined pieces that close their parentheses come apart into as many as they do by themselves. -/
theorem length_splitOutside_joined {ps : List (List Char)} (hne : ps ≠ [])
    (hclosed : ∀ p ∈ ps, depthAfter 0 p = 0) :
    (splitOutside 0 ([','].intercalate ps)).length =
      (ps.map fun p => (splitOutside 0 p).length).sum := by
  induction ps with
  | nil => exact absurd rfl hne
  | cons p rest ih =>
      cases rest with
      | nil => simp
      | cons q more =>
          obtain ⟨hp, hmore⟩ := List.forall_mem_cons.1 hclosed
          have hrest := ih (by simp) hmore
          have hglue := length_glue (splitOutside_ne_nil 0 p)
            (splitOutside_ne_nil 0 ([','] ++ [','].intercalate (q :: more)))
          have hcomma : (splitOutside 0 ([','] ++ [','].intercalate (q :: more))).length =
              (splitOutside 0 ([','].intercalate (q :: more))).length + 1 := rfl
          rw [List.intercalate_cons_cons, List.append_assoc, splitOutside_append_eq_glue, hp,
            List.map_cons, List.sum_cons, ← hrest]
          omega

/-! ## Text without parentheses -/

/-- Text that opens and closes no parentheses. -/
def IsFlat (w : List Char) : Prop := ∀ c ∈ w, c ≠ '(' ∧ c ≠ ')'

instance (w : List Char) : Decidable (IsFlat w) := List.decidableBAll _ w

theorem IsFlat.depthAfter_eq {w : List Char} (h : IsFlat w) (depth : Nat) :
    depthAfter depth w = depth := by
  induction w with
  | nil => rfl
  | cons c w ih =>
      obtain ⟨hc, hw⟩ := List.forall_mem_cons.1 h
      have hbehind : depthBehind depth c = depth := by simp [depthBehind, hc.1, hc.2]
      rw [depthAfter, List.foldl_cons, hbehind]
      exact ih hw

/-- Flat text is split at each of its commas. -/
theorem IsFlat.length_split {w : List Char} (h : IsFlat w) :
    (splitOutside 0 w).length = w.count ',' + 1 := by
  induction w with
  | nil => rfl
  | cons c w ih =>
      obtain ⟨hc, hw⟩ := List.forall_mem_cons.1 h
      have hbehind : depthBehind 0 c = 0 := by simp [depthBehind, hc.1, hc.2]
      by_cases hcomma : c = ','
      · simp [splitOutside, hcomma, ih hw]
      · have hne := splitOutside_ne_nil 0 w
        rw [splitOutside, if_neg fun hsep => hcomma hsep.1, hbehind, length_attach [c] hne, ih hw,
          List.count_cons_of_ne hcomma]

/-- A term without parentheses but those that it is written with. -/
def Term.IsFlat : Term → Prop
  | .equals key value => Query.IsFlat key.toList ∧ Query.IsFlat value.toList
  | .among key values | .notAmong key values =>
    Query.IsFlat key.toList ∧ ∀ v ∈ values, Query.IsFlat v.toList
  | .present key | .absent key => Query.IsFlat key.toList

/-- The commas of a flat term that stand outside of parentheses. -/
def Term.commas : Term → Nat
  | .equals key value => key.toList.count ',' + value.toList.count ','
  | .among key _ | .notAmong key _ | .present key | .absent key => key.toList.count ','

/-- A text comes apart at a number of commas, and closes the parentheses that it opens. -/
structure ComesApart (w : List Char) (commas : Nat) : Prop where
  length : (splitOutside 0 w).length = commas + 1
  closed : depthAfter 0 w = 0

theorem IsFlat.comesApart {w : List Char} (h : IsFlat w) : ComesApart w (w.count ',') :=
  ⟨h.length_split, h.depthAfter_eq 0⟩

theorem IsFlat.append {v w : List Char} (hv : IsFlat v) (hw : IsFlat w) : IsFlat (v ++ w) :=
  List.forall_mem_append.2 ⟨hv, hw⟩

/-- Values in parentheses behind a flat key make no piece of their own. -/
theorem comesApart_listed {key : List Char} (hkey : IsFlat key) (opening : List Char)
    (hopening : opening.all fun c => c ≠ '(' ∧ c ≠ ')' ∧ c ≠ ',') {values : List String}
    (hvalues : ∀ v ∈ values, IsFlat v.toList) :
    ComesApart (key ++ (opening ++ '(' :: (valuesText values ++ [')']))) (key.count ',') := by
  have hplain : ∀ c ∈ opening, c ≠ '(' ∧ c ≠ ')' ∧ c ≠ ',' := by simpa using hopening
  have hwhole : IsWhole opening := fun rest =>
    splitOutside_append (fun c hc => ⟨(hplain c hc).1, (hplain c hc).2.1,
      fun e => absurd e (hplain c hc).2.2⟩) rest
  obtain ⟨hself, hclosed⟩ := isWhole_iff.1
    (hwhole.append (isWhole_parenthesised (not_paren_of_mem_valuesText hvalues)))
  constructor
  · have hglue := length_glue (splitOutside_ne_nil 0 key)
      (List.cons_ne_nil (opening ++ '(' :: (valuesText values ++ [')'])) [])
    rw [hkey.length_split, List.length_singleton] at hglue
    rw [splitOutside_append_eq_glue, hkey.depthAfter_eq, hself]
    omega
  · rw [depthAfter_append, hkey.depthAfter_eq, hclosed]

theorem Term.comesApart {t : Term} (h : t.IsFlat) : ComesApart t.text t.commas := by
  cases t with
  | present key => exact Query.IsFlat.comesApart h
  | absent key =>
      have hbang : Query.IsFlat ('!' :: key.toList) := List.forall_mem_cons.2 ⟨by decide, h⟩
      simpa [Term.text, commas] using hbang.comesApart
  | equals key value =>
      have hequals : Query.IsFlat (key.toList ++ '=' :: value.toList) :=
        h.1.append (List.forall_mem_cons.2 ⟨by decide, h.2⟩)
      simpa [Term.text, commas, List.count_cons] using hequals.comesApart
  | among key values => exact comesApart_listed h.1 [' ', 'i', 'n', ' '] (by decide) h.2
  | notAmong key values =>
      exact comesApart_listed h.1 [' ', 'n', 'o', 't', 'i', 'n', ' '] (by decide) h.2

/-- Flat terms come apart into one piece each, and one more for each of their commas. -/
theorem sum_pieces_of_flat {ts : List Term} (h : ∀ t ∈ ts, t.IsFlat) :
    ((ts.map Term.text).map fun p => (splitOutside 0 p).length).sum =
      ts.length + (ts.map Term.commas).sum := by
  induction ts with
  | nil => rfl
  | cons t rest ih =>
      obtain ⟨ht, hrest⟩ := List.forall_mem_cons.1 h
      have hmore := ih hrest
      simp only [List.map_cons, List.sum_cons, List.length_cons, (Term.comesApart ht).length, hmore]
      omega

end Query

open Query Schema

/-! ## Queries of selectors -/

/-- A selector without parentheses in its texts. -/
structure Selector.IsFlat (s : Selector) : Prop where
  labels : ∀ l ∈ s.labels, Query.IsFlat l.1.toList ∧ Query.IsFlat l.2.toList
  requirements : ∀ r ∈ s.requirements,
    Query.IsFlat r.key.toList ∧ ∀ v ∈ r.values, Query.IsFlat v.toList

/-- The commas in the keys of a selector and in the values of its labels. -/
def Selector.strayCommas (s : Selector) : Nat :=
  (s.labels.map fun l => l.1.toList.count ',' + l.2.toList.count ',').sum +
    (s.requirements.map fun r => r.key.toList.count ',').sum

theorem Selector.length_queryPieces (s : Selector) :
    s.queryPieces.length = s.labels.length + s.requirements.length := by
  simp [queryPieces, (sortedBy_perm _ _).length_eq]

theorem Requirement.key_ne_of_read {v : Value} {r : Requirement} (h : Requirement.read v = .ok r) :
    r.key ≠ "" := by
  obtain ⟨entries, hread⟩ := Fields.of_closed (Check.of_obey h)
  obtain ⟨key, operator, values, hkey, -, -, rfl⟩ := Fields.three_eq_ok_iff.1 hread
  obtain ⟨_, w, -, hw⟩ := Fields.of_required hkey
  obtain ⟨-, hne⟩ := Check.satisfy_eq_ok hw
  simpa using hne

/-- No term of a selector that was read is written as the empty text. -/
theorem Selector.text_ne_nil {v : Value} {s : Selector} (accepted : Selector.read v = .ok s) :
    ∀ t ∈ s.terms, t.text ≠ [] := by
  intro t ht
  rcases List.mem_append.1 ht with ht | ht
  · obtain ⟨l, -, rfl⟩ := List.mem_map.1 ht
    simp [Term.text]
  · obtain ⟨r, hr, rfl⟩ := List.mem_map.1 ht
    obtain ⟨w, hw⟩ := Selector.read_of_mem accepted ((sortedBy_perm Requirement.le _).mem_iff.1 hr)
    have hkey := Requirement.key_ne_of_read hw
    unfold Requirement.term
    cases r.operator <;> simp [Term.text, hkey]

/-- The query of a selector with any content is split as the text that its terms join to. -/
theorem Selector.pieces_query {v : Value} {s : Selector} (accepted : Selector.read v = .ok s)
    (hne : s.terms ≠ []) :
    pieces s.query.toList = splitOutside 0 ([','].intercalate (s.terms.map Term.text)) := by
  have hsome : ([','].intercalate (s.terms.map Term.text)).isEmpty = false := by
    match hterms : s.terms, hne with
    | t :: rest, _ =>
        have htext := text_ne_nil accepted t (hterms ▸ List.mem_cons_self)
        cases rest <;> simp [htext]
  rw [pieces, s.toList_query, hsome]
  rfl

theorem Selector.IsFlat.terms {s : Selector} (h : s.IsFlat) : ∀ t ∈ s.terms, t.IsFlat := by
  intro t ht
  rcases List.mem_append.1 ht with ht | ht
  · obtain ⟨l, hl, rfl⟩ := List.mem_map.1 ht
    exact h.labels l ((sortedBy_perm pairLe s.labels).mem_iff.1 hl)
  · obtain ⟨r, hr, rfl⟩ := List.mem_map.1 ht
    obtain ⟨hkey, hvalues⟩ :=
      h.requirements r ((sortedBy_perm Requirement.le s.requirements).mem_iff.1 hr)
    have hsorted : ∀ v ∈ sortedBy (fun a b => a ≤ b) r.values, Query.IsFlat v.toList := fun v hv =>
      hvalues v ((sortedBy_perm _ r.values).mem_iff.1 hv)
    unfold Requirement.term
    cases r.operator
    · exact ⟨hkey, hsorted⟩
    · exact ⟨hkey, hsorted⟩
    · exact hkey
    · exact hkey

theorem Requirement.commas_term (r : Requirement) : r.term.commas = r.key.toList.count ',' := by
  unfold Requirement.term
  cases r.operator <;> rfl

/-- The terms of a selector have the commas of its labels and of the keys of its requirements. -/
theorem Selector.sum_commas (s : Selector) :
    (s.terms.map Term.commas).sum = s.strayCommas := by
  unfold Selector.terms Selector.strayCommas
  rw [List.map_append, List.sum_append, List.map_map, List.map_map]
  have hrequirements : Term.commas ∘ Requirement.term = fun r => r.key.toList.count ',' :=
    funext Requirement.commas_term
  rw [hrequirements]
  exact congrArg₂ (· + ·) ((sortedBy_perm pairLe s.labels).map _).sum_nat
    ((sortedBy_perm Requirement.le s.requirements).map _).sum_nat

theorem Selector.length_terms (s : Selector) :
    s.terms.length = s.labels.length + s.requirements.length := by
  rw [← s.length_queryPieces, ← List.length_map (f := String.toList), s.toList_queryPieces,
    List.length_map]

/-- A query comes apart into what it was joined from exactly when no piece is split and all but the
last one close their parentheses. -/
theorem Selector.pieces_query_iff {v : Value} {s : Selector} (accepted : Selector.read v = .ok s) :
    pieces s.query.toList = s.terms.map Term.text ↔
      (∀ p ∈ s.terms.map Term.text, splitOutside 0 p = [p]) ∧
        ∀ p ∈ (s.terms.map Term.text).dropLast, depthAfter 0 p = 0 := by
  by_cases hterms : s.terms = []
  · simp [pieces, s.toList_query, hterms]
  · rw [Selector.pieces_query accepted hterms, splitOutside_joined_iff (by simpa using hterms)]

/-- The query of a flat selector has a piece for each term and one more for each stray comma. -/
theorem Selector.IsFlat.length_pieces {v : Value} {s : Selector} (flat : s.IsFlat)
    (accepted : Selector.read v = .ok s) :
    (pieces s.query.toList).length = s.terms.length + s.strayCommas := by
  by_cases hterms : s.terms = []
  · simp [pieces, s.toList_query, ← s.sum_commas, hterms]
  · have hclosed : ∀ p ∈ s.terms.map Term.text, depthAfter 0 p = 0 := by
      intro p hp
      obtain ⟨t, ht, rfl⟩ := List.mem_map.1 hp
      exact (Term.comesApart (flat.terms t ht)).closed
    rw [Selector.pieces_query accepted hterms,
      length_splitOutside_joined (by simpa using hterms) hclosed, sum_pieces_of_flat flat.terms,
      s.sum_commas]

/-- The query of a flat selector comes apart as meant exactly when it has no stray comma. -/
theorem Selector.IsFlat.pieces_query_iff {v : Value} {s : Selector} (flat : s.IsFlat)
    (accepted : Selector.read v = .ok s) :
    pieces s.query.toList = s.terms.map Term.text ↔ s.strayCommas = 0 := by
  constructor
  · intro hpieces
    have hlength := flat.length_pieces accepted
    rw [hpieces, List.length_map] at hlength
    omega
  · intro hstray
    refine (Selector.pieces_query_iff accepted).2 ⟨fun p hp => ?_, fun p hp => ?_⟩
    · obtain ⟨t, ht, rfl⟩ := List.mem_map.1 hp
      rw [← s.sum_commas, List.sum_eq_zero_iff_forall_eq_nat] at hstray
      have hlength := (Term.comesApart (flat.terms t ht)).length
      rw [hstray _ (List.mem_map_of_mem ht)] at hlength
      obtain ⟨q, hq⟩ := List.length_eq_one_iff.1 hlength
      have hback := intercalate_splitOutside 0 t.text
      rw [hq, List.intercalate_singleton] at hback
      rw [hq, hback]
    · obtain ⟨t, ht, rfl⟩ := List.mem_map.1 (List.dropLast_subset _ hp)
      exact (Term.comesApart (flat.terms t ht)).closed

/-- When the query of a selector that was read comes apart into a piece for each of its labels and
each of its requirements: exactly when none of these pieces is split and all but the last one close
the parentheses that they open.  Without parentheses in keys and values there are as many pieces as
labels, requirements and stray commas, and so they are the pieces meant exactly when no key and no
value of a label has a comma. -/
theorem query_pieces_iff {v : Value} {s : Selector} (accepted : Selector.read v = .ok s) :
    s.queryPieces.length = s.labels.length + s.requirements.length ∧
    (pieces s.query.toList = s.queryPieces.map String.toList ↔
      (∀ p ∈ s.queryPieces, splitOutside 0 p.toList = [p.toList]) ∧
        ∀ p ∈ s.queryPieces.dropLast, depthAfter 0 p.toList = 0) ∧
    (s.IsFlat →
      (pieces s.query.toList).length =
          s.labels.length + s.requirements.length + s.strayCommas ∧
        (pieces s.query.toList = s.queryPieces.map String.toList ↔ s.strayCommas = 0)) := by
  refine ⟨s.length_queryPieces, ?_, fun flat => ⟨?_, ?_⟩⟩
  · have hsplit := Selector.pieces_query_iff accepted
    rw [← s.toList_queryPieces, ← List.map_dropLast, List.forall_mem_map, List.forall_mem_map]
      at hsplit
    exact hsplit
  · rw [flat.length_pieces accepted, s.length_terms]
  · rw [s.toList_queryPieces, flat.pieces_query_iff accepted]

/-- A selector whose only label has a comma in its value. -/
def commaSelector : Selector where
  matchLabels := some [("env", "prod,tier=web")]
  matchExpressions := none

/-- The document of `commaSelector`. -/
def commaDocument : Value :=
  .map [(.text "matchLabels", .map [(.text "env", .text "prod,tier=web")])]

/-- One label makes two pieces, and the cluster selects a namespace that the selector does not
match. -/
theorem commaSelector_comes_apart :
    Selector.read commaDocument = .ok commaSelector ∧
      commaSelector.labels.length + commaSelector.requirements.length = 1 ∧
      pieces commaSelector.query.toList = ["env=prod".toList, "tier=web".toList] ∧
      (pieces commaSelector.query.toList).length ≠
        commaSelector.labels.length + commaSelector.requirements.length ∧
      Query.select? commaSelector.query [("shop", [("env", "prod"), ("tier", "web")])] =
        some ["shop"] ∧
      LabelTable.list [("shop", [("env", "prod"), ("tier", "web")])] commaSelector = [] := by
  refine ⟨rfl, rfl, ?_, ?_, ?_, ?_⟩ <;> decide

/-- Its comma is counted. -/
theorem commaSelector_counted :
    Selector.read commaDocument = .ok commaSelector ∧ commaSelector.IsFlat ∧
      (pieces commaSelector.query.toList).length =
        commaSelector.labels.length + commaSelector.requirements.length +
          commaSelector.strayCommas ∧
      (pieces commaSelector.query.toList = commaSelector.queryPieces.map String.toList ↔
        commaSelector.strayCommas = 0) := by
  have accepted : Selector.read commaDocument = .ok commaSelector := rfl
  have flat : commaSelector.IsFlat := ⟨by decide, by decide⟩
  exact ⟨accepted, flat, (query_pieces_iff accepted).2.2 flat⟩

end RoleGrants
