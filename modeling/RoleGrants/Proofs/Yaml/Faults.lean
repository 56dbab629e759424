import RoleGrants.Proofs.Yaml.Composing
import RoleGrants.Proofs.Yaml.Reading

/-!
# Where the faults of a text come from

A text gives no value because it is malformed, because a token in it spells no code point or too
long a version, or because of a scalar in its tree whose text is senseless for its tag.  Faults are
kept by their depth and merged while values are made, and entries are moved from mapping to mapping
by merge keys; but none is made on the way: `Node.within_outcome` follows them to the scalars, along
the functions that make values.  `Fault.arises_of_load` puts the three stages of reading a text
together.
-/

namespace RoleGrants.Yaml

open RoleGrants.Number RoleGrants.Calendar

/-! ## Scalars of trees -/

/-- The tags and texts of the scalars in a tree, with what is made of them.  A mapping may stand for
a scalar, whose text is found among its entries. -/
inductive Node.HasScalar : Node → Tag → List Char → Except Fault Value → Prop
  | self (tag : Tag) (text : List Char) :
      HasScalar (.scalar tag text) tag text (readScalar tag text)
  | own {tag : Tag} {entries : List (Node × Node)} {text : List Char}
      (standsFor : Node.text?.entriesText? entries = some text) :
      HasScalar (.mapping tag entries) tag text (readMapped tag text)
  | item {tag t : Tag} {items : List Node} {item : Node} {text : List Char}
      {made : Except Fault Value} (mem : item ∈ items) (has : HasScalar item t text made) :
      HasScalar (.sequence tag items) t text made
  | key {tag t : Tag} {entries : List (Node × Node)} {entry : Node × Node} {text : List Char}
      {made : Except Fault Value} (mem : entry ∈ entries) (has : HasScalar entry.1 t text made) :
      HasScalar (.mapping tag entries) t text made
  | value {tag t : Tag} {entries : List (Node × Node)} {entry : Node × Node} {text : List Char}
      {made : Except Fault Value} (mem : entry ∈ entries) (has : HasScalar entry.2 t text made) :
      HasScalar (.mapping tag entries) t text made

/-- The faults of all scalars of a tree are among some faults. -/
def Node.Covered (faults : Fault → Prop) (n : Node) : Prop :=
  ∀ tag text fault made, n.HasScalar tag text made → made = .error fault → faults fault

variable {faults : Fault → Prop}

theorem Node.Covered.item {tag : Tag} {items : List Node}
    (h : (Node.sequence tag items).Covered faults) : ∀ item ∈ items, item.Covered faults :=
  fun _ mem t text fault made has => h t text fault made (.item mem has)

theorem Node.Covered.entries {tag : Tag} {entries : List (Node × Node)}
    (h : (Node.mapping tag entries).Covered faults) :
    ∀ e ∈ entries, e.1.Covered faults ∧ e.2.Covered faults := fun _ mem =>
  ⟨fun t text fault made has => h t text fault made (.key mem has),
    fun t text fault made has => h t text fault made (.value mem has)⟩

/-! ## Faults that are merged -/

/-- The faults of a node are among some faults. -/
def Outcome.Within (faults : Fault → Prop) (o : Outcome) : Prop :=
  ∀ fault, some fault ∈ o.faults → faults fault

/-- The faults of an entry are among some faults. -/
structure EntryOutcome.Within (faults : Fault → Prop) (e : EntryOutcome) : Prop where
  key : e.key.Within faults
  value : e.value.Within faults
  keyFault : ∀ fault, e.keyFault = some fault → faults fault

/-- The faults of pairs, and the one that stops them, are among some faults. -/
structure PairsWithin (faults : Fault → Prop) (made : List (Outcome × Outcome) × Option Fault) :
    Prop where
  pairs : ∀ p ∈ made.1, p.1.Within faults ∧ p.2.Within faults
  stop : ∀ fault, made.2 = some fault → faults fault

theorem mem_besides {fault : Fault} {fs gs : List (Option Fault)}
    (h : some fault ∈ besides fs gs) : some fault ∈ fs ∨ some fault ∈ gs := by
  fun_induction besides fs gs with
  | case1 gs => exact .inr h
  | case2 fs => exact .inl h
  | case3 f fs g gs ih =>
    rcases List.mem_cons.mp h with heq | hmem
    · rcases Option.or_eq_some_iff.mp heq.symm with hf | ⟨-, hg⟩
      · exact .inl (List.mem_cons.mpr (.inl hf.symm))
      · exact .inr (List.mem_cons.mpr (.inl hg.symm))
    · exact (ih hmem).imp (List.mem_cons_of_mem _) (List.mem_cons_of_mem _)

namespace Outcome

theorem Within.own {o : Outcome} (h : o.Within faults) {fault : Fault}
    (hown : o.own = some fault) : faults fault := by
  obtain ⟨v, _ | ⟨f, fs⟩⟩ := o
  · cases hown
  · exact h fault (List.mem_cons.mpr (.inl hown.symm))

theorem Within.result {o : Outcome} (h : o.Within faults) {fault : Fault}
    (hresult : o.result = .error fault) : faults fault := by
  unfold Outcome.result at hresult
  cases hfirst : o.faults.findSome? id with
  | none =>
    rw [hfirst] at hresult
    cases hresult
  | some first =>
    rw [hfirst] at hresult
    cases hresult
    obtain ⟨f, hmem, rfl⟩ := List.exists_of_findSome?_eq_some hfirst
    exact h _ hmem

theorem within_ofScalar {r : Except Fault Value} (h : ∀ fault, r = .error fault → faults fault) :
    (ofScalar r).Within faults := by
  intro fault hmem
  cases r with
  | ok v => simp [ofScalar] at hmem
  | error f =>
    obtain rfl : fault = f := by simpa [ofScalar] using hmem
    exact h fault rfl

theorem within_ofParts {v : Value} {own : Option Fault} {parts : List Outcome}
    (hown : ∀ fault, own = some fault → faults fault) (hparts : ∀ o ∈ parts, o.Within faults) :
    (ofParts v own parts).Within faults := by
  have hfold : ∀ fs : List (Option Fault), (∀ fault, some fault ∈ fs → faults fault) →
      ∀ fault, some fault ∈ parts.foldl (fun fs o => besides fs o.faults.tail) fs →
        faults fault := by
    induction parts with
    | nil => exact fun _ h => h
    | cons o rest ih =>
      rw [List.forall_mem_cons] at hparts
      intro fs hfs
      refine ih hparts.2 _ fun fault hmem => ?_
      rcases mem_besides hmem with hmem | hmem
      · exact hfs fault hmem
      · exact hparts.1 fault (List.mem_of_mem_tail hmem)
  intro fault hmem
  rcases List.mem_cons.mp hmem with heq | hmem
  · cases heq
  · rcases List.mem_cons.mp hmem with heq | hmem
    · exact hown fault heq.symm
    · exact hfold [] (by simp) fault hmem

end Outcome

open Yaml.Outcome

theorem within_entriesFault {entries : List EntryOutcome} (h : ∀ e ∈ entries, e.Within faults)
    {fault : Fault} (hfault : entriesFault entries = some fault) : faults fault := by
  induction entries with
  | nil => cases hfault
  | cons e rest ih =>
    rw [List.forall_mem_cons] at h
    rw [entriesFault] at hfault
    simp only [Option.or_eq_some_iff] at hfault
    rcases hfault with (hkey | ⟨-, hkey⟩) | ⟨-, hvalue | ⟨-, hrest⟩⟩
    · exact h.1.key.own hkey
    · exact h.1.keyFault fault hkey
    · exact h.1.value.own hvalue
    · exact ih h.2 hrest

theorem within_values {entries : List EntryOutcome} (h : ∀ e ∈ entries, e.Within faults) :
    ∀ o ∈ entries.map (·.value), o.Within faults :=
  List.forall_mem_map.mpr fun e he => (h e he).value

theorem within_mapOf {entries : List EntryOutcome} (h : ∀ e ∈ entries, e.Within faults) :
    (mapOf entries).Within faults :=
  within_ofParts (fun _ hfault => within_entriesFault h hfault) (within_values h)

theorem within_setOf {entries : List EntryOutcome} (h : ∀ e ∈ entries, e.Within faults) :
    (setOf entries).Within faults :=
  within_ofParts (fun _ hfault => within_entriesFault h hfault) (within_values h)

/-! ## Values by the form of their nodes -/

/-- The key of an entry, made. -/
def keyOutcome : Node → Outcome
  | .scalar .value text => .ofScalar (.ok (.text (String.ofList text)))
  | key => key.outcome

theorem within_keyOutcome {key : Node} (h : key.outcome.Within faults) :
    (keyOutcome key).Within faults := by
  unfold keyOutcome
  split
  · exact within_ofScalar nofun
  · exact h

theorem mergedEntries_cons (key value : Node) (rest : List (Node × Node)) :
    mergedEntries ((key, value) :: rest) =
      match mergedEntries rest with
      | none => none
      | some (merged, own) =>
        if key.isMerge then (mergeSource value).map fun more => (more ++ merged, own)
        else
          some (merged, ⟨keyOutcome key, value.outcome,
            if key.isCollection then some Fault.malformed else none⟩ :: own) := by
  cases key with
  | scalar tag text => cases tag <;> with_unfolding_all rfl
  | _ => with_unfolding_all rfl

theorem pairOutcomes_cons (t : Tag) (key value : Node) (rest : List Node) :
    pairOutcomes (.mapping t [(key, value)] :: rest) =
      match key.outcome.own.or value.outcome.own with
      | some fault => ([], some fault)
      | none =>
        ((key.outcome, value.outcome) :: (pairOutcomes rest).1, (pairOutcomes rest).2) := by
  with_unfolding_all rfl

theorem mergeSource_mapping (t : Tag) (entries : List (Node × Node)) :
    mergeSource (.mapping t entries) =
      (mergedEntries entries).map fun (merged, own) => merged ++ own := by
  with_unfolding_all rfl

theorem mergeSources_mapping (t : Tag) (entries : List (Node × Node)) (rest : List Node) :
    mergeSources (.mapping t entries :: rest) =
      match mergedEntries entries, mergeSources rest with
      | some (merged, own), some later => some (later ++ (merged ++ own))
      | _, _ => none := by
  with_unfolding_all rfl

theorem outcome_sequence (tag : Tag) (items : List Node) :
    (Node.sequence tag items).outcome =
      match tag with
      | .seq =>
        .ofParts (.list ((itemOutcomes items).map (·.value)))
          ((itemOutcomes items).findSome? Outcome.own) (itemOutcomes items)
      | .omap | .pairs =>
        .ofParts (.list ((pairOutcomes items).1.map fun p => .tuple [p.1.value, p.2.value]))
          (pairOutcomes items).2 ((pairOutcomes items).1.flatMap fun p => [p.1, p.2])
      | .map | .set => .misfit
      | _ => ⟨.null, [some .malformed]⟩ := by
  cases tag <;> with_unfolding_all rfl

theorem outcome_mapping (tag : Tag) (entries : List (Node × Node)) :
    (Node.mapping tag entries).outcome =
      match tag with
      | .map =>
        match mergedEntries entries with
        | some (merged, own) => mapOf (merged ++ own)
        | none => .misfit
      | .set =>
        match mergedEntries entries with
        | some (merged, own) => setOf (merged ++ own)
        | none => .misfit
      | .seq | .omap | .pairs => .misfit
      | tag =>
        match Node.text?.entriesText? entries with
        | some text => .ofScalar (readMapped tag text)
        | none => ⟨.null, [some .malformed]⟩ := by
  cases tag <;> with_unfolding_all rfl

/-! ## Faults of trees -/

/-- A fault of the key or the value of a pair stops the pairs, and else those behind it follow. -/
theorem within_pairOutcomes_cons {t : Tag} {key value : Node} {rest : List Node}
    (hkey : key.outcome.Within faults) (hvalue : value.outcome.Within faults)
    (hrest : PairsWithin faults (pairOutcomes rest)) :
    PairsWithin faults (pairOutcomes (.mapping t [(key, value)] :: rest)) := by
  rw [pairOutcomes_cons]
  cases hown : key.outcome.own.or value.outcome.own with
  | some fault =>
    refine ⟨List.forall_mem_nil _, ?_⟩
    rintro _ ⟨⟩
    rcases Option.or_eq_some_iff.mp hown with hfault | ⟨-, hfault⟩
    · exact hkey.own hfault
    · exact hvalue.own hfault
  | none => exact ⟨List.forall_mem_cons.mpr ⟨⟨hkey, hvalue⟩, hrest.pairs⟩, hrest.stop⟩

section

variable (malformed : faults .malformed)

include malformed

theorem within_misfit : misfit.Within faults := by
  intro fault hmem
  obtain rfl : fault = .malformed := by simpa [misfit] using hmem
  exact malformed

theorem within_senseless : (Outcome.mk .null [some .malformed]).Within faults := by
  intro fault hmem
  obtain rfl : fault = .malformed := by simpa using hmem
  exact malformed

theorem within_sequence {tag : Tag} {items : List Node}
    (hitems : ∀ o ∈ itemOutcomes items, o.Within faults)
    (hpairs : PairsWithin faults (pairOutcomes items)) :
    (Node.sequence tag items).outcome.Within faults := by
  have hown : ∀ fault, (itemOutcomes items).findSome? Outcome.own = some fault → faults fault := by
    intro fault hfirst
    obtain ⟨o, mem, ho⟩ := List.exists_of_findSome?_eq_some hfirst
    exact (hitems o mem).own ho
  have hparts : ∀ o ∈ (pairOutcomes items).1.flatMap fun p => [p.1, p.2], o.Within faults := by
    intro o mem
    obtain ⟨p, hp, ho⟩ := List.mem_flatMap.mp mem
    simp only [List.mem_cons, List.not_mem_nil, or_false] at ho
    rcases ho with rfl | rfl
    · exact (hpairs.pairs p hp).1
    · exact (hpairs.pairs p hp).2
  rw [outcome_sequence]
  split
  · exact within_ofParts hown hitems
  · exact within_ofParts hpairs.stop hparts
  · exact within_ofParts hpairs.stop hparts
  · exact within_misfit malformed
  · exact within_misfit malformed
  · exact within_senseless malformed

theorem within_mapping {tag : Tag} {entries : List (Node × Node)}
    (h : (Node.mapping tag entries).Covered faults)
    (hentries : ∀ merged own, mergedEntries entries = some (merged, own) →
      ∀ e ∈ merged ++ own, e.Within faults) :
    (Node.mapping tag entries).outcome.Within faults := by
  rw [outcome_mapping]
  split
  · split
    · exact within_mapOf (hentries _ _ ‹_›)
    · exact within_misfit malformed
  · split
    · exact within_setOf (hentries _ _ ‹_›)
    · exact within_misfit malformed
  · exact within_misfit malformed
  · exact within_misfit malformed
  · exact within_misfit malformed
  · split
    · exact within_ofScalar fun fault hfault => h tag _ fault _ (.own ‹_›) hfault
    · exact within_senseless malformed

/-- The entries of a mapping, from those behind the first and from what that one is or brings in. -/
theorem within_mergedEntries_cons {key value : Node} {rest : List (Node × Node)}
    (hkey : key.outcome.Within faults) (hvalue : value.outcome.Within faults)
    (hsource : ∀ es, mergeSource value = some es → ∀ e ∈ es, e.Within faults)
    (hrest : ∀ merged own, mergedEntries rest = some (merged, own) →
      ∀ e ∈ merged ++ own, e.Within faults) {merged own : List EntryOutcome}
    (h : mergedEntries ((key, value) :: rest) = some (merged, own)) :
    ∀ e ∈ merged ++ own, e.Within faults := by
  rw [mergedEntries_cons] at h
  cases hbehind : mergedEntries rest with
  | none =>
    rw [hbehind] at h
    cases h
  | some behind =>
    obtain ⟨merged', own'⟩ := behind
    have hall := List.forall_mem_append.mp (hrest merged' own' hbehind)
    rw [hbehind] at h
    dsimp only at h
    rw [List.forall_mem_append]
    split at h
    · obtain ⟨more, hmore, heq⟩ := Option.map_eq_some_iff.mp h
      cases heq
      exact ⟨List.forall_mem_append.mpr ⟨hsource more hmore, hall.1⟩, hall.2⟩
    · cases h
      refine ⟨hall.1, List.forall_mem_cons.mpr
        ⟨⟨within_keyOutcome hkey, hvalue, fun fault hfault => ?_⟩, hall.2⟩⟩
      -- The only fault that a key adds is that of collections.
      split at hfault
      · cases hfault
        exact malformed
      · cases hfault

end

mutual

/-- The faults of a tree are those of its scalars, or that of malformed texts. -/
theorem Node.within_outcome (malformed : faults .malformed) :
    ∀ n : Node, n.Covered faults → n.outcome.Within faults
  | .enclosing _ _, _ => by simp [Node.outcome, Outcome.Within]
  | .scalar tag text, h => by
    rw [Node.outcome]
    split
    · exact within_misfit malformed
    · exact within_ofScalar fun fault hfault => h tag text fault _ (.self tag text) hfault
  | .sequence _ items, h =>
    within_sequence malformed (within_itemOutcomes malformed items h.item)
      (within_pairOutcomes malformed items h.item)
  | .mapping _ entries, h =>
    within_mapping malformed h (within_mergedEntries malformed entries h.entries)

theorem within_itemOutcomes (malformed : faults .malformed) :
    ∀ items : List Node, (∀ item ∈ items, item.Covered faults) →
    ∀ o ∈ itemOutcomes items, o.Within faults
  | [], _ => List.forall_mem_nil _
  | item :: rest, h => by
    rw [List.forall_mem_cons] at h
    rw [itemOutcomes, List.forall_mem_cons]
    exact ⟨item.within_outcome malformed h.1, within_itemOutcomes malformed rest h.2⟩

theorem within_pairOutcomes (malformed : faults .malformed) :
    ∀ items : List Node, (∀ item ∈ items, item.Covered faults) →
    PairsWithin faults (pairOutcomes items)
  | [], _ => ⟨List.forall_mem_nil _, nofun⟩
  | .mapping _ [(key, value)] :: rest, h => by
    rw [List.forall_mem_cons] at h
    have hentry := h.1.entries (key, value) List.mem_cons_self
    exact within_pairOutcomes_cons (key.within_outcome malformed hentry.1)
      (value.within_outcome malformed hentry.2) (within_pairOutcomes malformed rest h.2)
  | .mapping _ [] :: _, _ | .mapping _ (_ :: _ :: _) :: _, _ | .scalar _ _ :: _, _
  | .sequence _ _ :: _, _ | .enclosing _ _ :: _, _ => by
    refine ⟨List.forall_mem_nil _, ?_⟩
    rintro _ ⟨⟩
    exact malformed

theorem within_mergedEntries (malformed : faults .malformed) : ∀ entries : List (Node × Node),
    (∀ e ∈ entries, e.1.Covered faults ∧ e.2.Covered faults) →
    ∀ merged own, mergedEntries entries = some (merged, own) → ∀ e ∈ merged ++ own, e.Within faults
  | [], _, merged, own, h => by
    rw [mergedEntries_nil] at h
    cases h
    exact List.forall_mem_nil _
  | (key, value) :: rest, hall, _, _, h => by
    rw [List.forall_mem_cons] at hall
    exact within_mergedEntries_cons malformed (key.within_outcome malformed hall.1.1)
      (value.within_outcome malformed hall.1.2) (within_mergeSource malformed value hall.1.2)
      (within_mergedEntries malformed rest hall.2) h

theorem within_mergeSource (malformed : faults .malformed) : ∀ n : Node, n.Covered faults →
    ∀ es, mergeSource n = some es → ∀ e ∈ es, e.Within faults
  | .mapping _ entries, hn, _, h => by
    rw [mergeSource_mapping] at h
    obtain ⟨⟨merged, own⟩, hmerged, rfl⟩ := Option.map_eq_some_iff.mp h
    exact within_mergedEntries malformed entries hn.entries merged own hmerged
  | .sequence _ items, hn, es, h => within_mergeSources malformed items hn.item es h
  | .enclosing true _, _, _, h => by
    cases h
    exact List.forall_mem_nil _
  | .enclosing false _, _, _, h => by cases h
  | .scalar _ _, _, _, h => by cases h

theorem within_mergeSources (malformed : faults .malformed) :
    ∀ items : List Node, (∀ item ∈ items, item.Covered faults) →
    ∀ es, mergeSources items = some es → ∀ e ∈ es, e.Within faults
  | [], _, _, h => by
    cases h
    exact List.forall_mem_nil _
  | .mapping _ entries :: rest, hall, _, h => by
    rw [List.forall_mem_cons] at hall
    rw [mergeSources_mapping] at h
    split at h
    · rename_i merged own later hmerged hlater
      cases h
      have hentries := within_mergedEntries malformed entries hall.1.entries merged own hmerged
      have hlaters := within_mergeSources malformed rest hall.2 later hlater
      exact List.forall_mem_append.mpr ⟨hlaters, hentries⟩
    · cases h
  | .enclosing true _ :: rest, hall, es, h =>
    within_mergeSources malformed rest (List.forall_mem_cons.mp hall).2 es h
  | .enclosing false _ :: _, _, _, h | .scalar _ _ :: _, _, _, h | .sequence _ _ :: _, _, _, h => by
    cases h

end

/-! ## Faults of scalars -/

/-- A fault says what is wrong with the text of a scalar. -/
def Fault.IsScalar (f : Fault) : Prop := ∃ fault, f = .scalar fault

@[simp] theorem Fault.isScalar_scalar (fault : ScalarFault) : (Fault.scalar fault).IsScalar :=
  ⟨fault, rfl⟩

/-- A scalar that has a value, or one whose text is senseless. -/
abbrev ReadsScalar {α : Type} (x : Except Fault α) : Prop := Ends Fault.IsScalar (fun _ => True) x

theorem readsScalar_mapM {α β : Type} {f : α → Except Fault β} (h : ∀ a, ReadsScalar (f a))
    (items : List α) : ReadsScalar (items.mapM f) := by
  induction items with
  | nil => trivial
  | cons a rest ih =>
    simp only [ReadsScalar, List.mapM_cons, Ends.bind_iff, Ends.pure_iff]
    exact (h a).mono fun _ _ => ih

theorem readsScalar_integerIn (base : Nat) (s : List Char) : ReadsScalar (integerIn base s) := by
  unfold integerIn
  cases Number.integer? base s with
  | none => exact ⟨_, rfl⟩
  | some n => simp

theorem readsScalar_numeralBody (s : List Char) : ReadsScalar (numeralBody s) := by
  unfold numeralBody
  split
  · exact ⟨_, rfl⟩
  · trivial

theorem readsScalar_readInteger (text : List Char) : ReadsScalar (readInteger text) := by
  simp only [ReadsScalar, readInteger, Ends.bind_iff]
  refine (readsScalar_numeralBody text).mono fun r _ => ?_
  have hin (base : Nat) (s : List Char) (negative : Bool) :
      ReadsScalar (do let n ← integerIn base s; pure (if negative then -n else n)) :=
    Ends.bind_iff.mpr ((readsScalar_integerIn base s).mono fun _ _ => trivial)
  split
  · exact ⟨_, rfl⟩
  · trivial
  · exact hin _ _ _
  · exact hin _ _ _
  · exact hin _ _ _
  · refine .ite ?_ (hin _ _ _)
    refine Ends.bind_iff.mpr ?_
    exact (readsScalar_mapM (readsScalar_integerIn 10) _).mono fun _ _ => trivial

theorem readsScalar_numberIn (s : List Char) : ReadsScalar (numberIn s) := by
  unfold numberIn
  cases Binary64.ofText? s with
  | none => exact ⟨_, rfl⟩
  | some x => trivial

theorem readsScalar_sexagesimalSum (sum : Binary64) (base : Nat) (parts : List Binary64) :
    ReadsScalar (sexagesimalSum sum base parts) := by
  induction parts generalizing sum base with
  | nil => trivial
  | cons part rest ih =>
    unfold sexagesimalSum
    split
    · exact ⟨_, rfl⟩
    · exact ih _ _

theorem readsScalar_readFloat (text : List Char) : ReadsScalar (readFloat text) := by
  simp only [ReadsScalar, readFloat, Ends.bind_iff]
  refine (readsScalar_numeralBody _).mono fun r _ => .ite trivial (.ite trivial (.ite ?_ ?_))
  · refine Ends.bind_iff.mpr ?_
    refine (readsScalar_mapM readsScalar_numberIn _).mono fun _ _ => ?_
    exact Ends.bind_iff.mpr ((readsScalar_sexagesimalSum _ _ _).mono fun _ _ => trivial)
  · exact Ends.bind_iff.mpr ((readsScalar_numberIn _).mono fun _ _ => trivial)

theorem readsScalar_readBoolean (text : List Char) : ReadsScalar (readBoolean text) := by
  unfold readBoolean
  dsimp only
  split
  · trivial
  · exact ⟨_, rfl⟩

theorem readsScalar_readTimestamp (text : List Char) : ReadsScalar (readTimestamp text) := by
  have hcalendar {α : Type} (r : Except CalendarFault α) :
      ReadsScalar (r.mapError fun fault => Fault.scalar (.calendar fault)) := by
    cases r with
    | ok _ => trivial
    | error _ => exact ⟨_, rfl⟩
  unfold readTimestamp
  dsimp only
  split
  · exact ⟨_, rfl⟩
  · split
    · exact Ends.bind_iff.mpr ((hcalendar _).mono fun _ _ => trivial)
    · exact Ends.bind_iff.mpr ((hcalendar _).mono fun _ _ => trivial)

/-- The tags of scalars whose texts may be senseless. -/
def formedTags : List Tag := [.bool, .int, .float, .timestamp]

/-- A value of a scalar with a tag.  No text is senseless for a tag that is none of these, other than
by making the document malformed. -/
abbrev ReadsTagged (tag : Tag) (made : Except Fault Value) : Prop :=
  Ends (fun fault => fault = .malformed ∨ tag ∈ formedTags ∧ fault.IsScalar) (fun _ => True) made

theorem readsTagged_readScalar (tag : Tag) (text : List Char) :
    ReadsTagged tag (readScalar tag text) := by
  have hformed {α : Type} {x : Except Fault α} {f : α → Value} (formed : tag ∈ formedTags)
      (h : ReadsScalar x) : ReadsTagged tag (x.map f) := by
    cases x with
    | ok _ => trivial
    | error fault => exact .inr ⟨formed, h⟩
  cases tag with
  | bool => exact hformed (by decide) (readsScalar_readBoolean text)
  | int => exact hformed (by decide) (readsScalar_readInteger text)
  | float => exact hformed (by decide) (readsScalar_readFloat text)
  | timestamp =>
    cases h : readTimestamp text with
    | ok v =>
      rw [readScalar, h]
      trivial
    | error fault =>
      rw [readScalar, h]
      exact .inr ⟨by decide, (readsScalar_readTimestamp text).fault h⟩
  | binary =>
    simp only [readScalar, readBinary]
    split
    · split
      · trivial
      · exact .inl rfl
    · exact .inl rfl
  | str | null => trivial
  | _ => exact .inl rfl

theorem readsTagged_readMapped (tag : Tag) (text : List Char) :
    ReadsTagged tag (readMapped tag text) := by
  unfold readMapped
  split
  · rename_i h
    exact .inr ⟨h ▸ by decide, _, rfl⟩
  · exact readsTagged_readScalar tag text

/-- The faults of scalars in a tree. -/
theorem Node.HasScalar.reads {n : Node} {tag : Tag} {text : List Char}
    {made : Except Fault Value} (has : n.HasScalar tag text made) : ReadsTagged tag made := by
  induction has with
  | self tag text => exact readsTagged_readScalar tag text
  | own => exact readsTagged_readMapped _ _
  | item _ _ ih | key _ _ ih | value _ _ ih => exact ih

/-! ## Faults of texts -/

/-- How a fault that is not about a text as a whole comes about: an escape in the text spells no
code point, or a directive too long a version, or a scalar of its tree has a text that is senseless
for its tag. -/
inductive ScalarFault.Arises (text : List Char) : ScalarFault → Prop
  | token {fault : ScalarFault} (broken : .broken (.scalar fault) ∈ Token.ofText text)
      (spelled : fault = .notCodePoint ∨ fault = .oversizedCodePoint ∨
        ∃ digits, fault = .oversizedInteger digits) : Arises text fault
  | scalar {fault : ScalarFault} {node : Node} {tag : Tag} {chars : List Char}
      (tree : Node.ofTokens (Token.ofText text) = .ok (some node))
      (senseless : node.HasScalar tag chars (.error (.scalar fault)))
      (formed : tag ∈ formedTags) : Arises text fault

/-- A fault of the loader of this library says that the text is malformed, or it arises from a
single place of the text. -/
theorem Fault.arises_of_load {text : List Char} {f : Fault} (h : load text = .error f) :
    f = .malformed ∨ ∃ fault, f = .scalar fault ∧ fault.Arises text := by
  cases htree : Node.ofTokens (Token.ofText text) with
  | error g =>
    obtain rfl : g = f := by
      rw [load, htree] at h
      exact Except.error.inj h
    rcases heldBy_of_ofTokens htree with rfl | hbroken
    · exact .inl rfl
    · cases SplitFault.of_broken hbroken with
      | malformed => exact .inl rfl
      | notCodePoint => exact .inr ⟨_, rfl, .token hbroken (.inl rfl)⟩
      | oversizedCodePoint => exact .inr ⟨_, rfl, .token hbroken (.inr (.inl rfl))⟩
      | oversizedVersion digits =>
        exact .inr ⟨_, rfl, .token hbroken (.inr (.inr ⟨digits, rfl⟩))⟩
  | ok found =>
    rw [load, htree] at h
    cases found with
    | none => cases h
    | some node =>
      have hwithin : node.outcome.Within fun f => f = .malformed ∨
          ∃ tag chars, node.HasScalar tag chars (.error f) :=
        node.within_outcome (.inl rfl) fun tag chars f made has hmade =>
          .inr ⟨tag, chars, hmade ▸ has⟩
      rcases hwithin.result h with rfl | ⟨tag, chars, has⟩
      · exact .inl rfl
      · refine has.reads.imp_right ?_
        rintro ⟨formed, fault, rfl⟩
        exact ⟨fault, rfl, .scalar htree has formed⟩

end RoleGrants.Yaml
