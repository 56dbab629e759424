import RoleGrants.Proofs.Yaml.Splitting
import RoleGrants.Proofs.Yaml.Stream

/-!
# Faults of token sequences that are read as trees

A tree is read without looking at texts: what does not fit together is malformed, and every other
fault is one that a token holds.  `heldBy_of_ofTokens` says so of whole documents.  The descent
reads on, and what it leaves is a suffix of what it was given, so that this is an induction on its
depth, with one step for each of the functions that take turns.
-/

namespace RoleGrants.Yaml

/-- The fault of malformed texts, or one that a token holds. -/
def HeldBy (tokens : List Token) (fault : Fault) : Prop :=
  fault = .malformed ∨ .broken fault ∈ tokens

/-- A reading that fails with what tokens hold, and leaves a suffix of them. -/
abbrev Descends {α : Type} (tokens : List Token) (x : Except Fault (α × Reading)) : Prop :=
  Ends (HeldBy tokens) (fun read => read.2.tokens <:+ tokens) x

variable {tokens : List Token} {r : Reading}

/-! ## Steps over single tokens -/

theorem suffix_drop (h : r.tokens <:+ tokens) : r.drop.tokens <:+ tokens :=
  (List.tail_suffix _).trans h

theorem suffix_name (h : r.tokens <:+ tokens) (anchor : Option (List Char)) (what : Anchored) :
    (r.name anchor what).tokens <:+ tokens := by
  cases anchor with
  | none => exact h
  | some a => exact h

theorem ends_look (h : r.tokens <:+ tokens) : Ends (HeldBy tokens) (fun _ => True) r.look := by
  obtain ⟨_ | ⟨t, rest⟩, anchors, handles⟩ := r
  · exact .inl rfl
  · have hmem : t ∈ tokens := h.subset List.mem_cons_self
    cases t with
    | broken fault => exact .inr hmem
    | _ => trivial

theorem ends_unexpected {α : Type} {results : α → Prop} (h : r.tokens <:+ tokens) :
    Ends (HeldBy tokens) results r.unexpected :=
  Ends.bind_iff.mpr ((ends_look h).mono fun _ _ => .inl rfl)

/-- The tag of a node, whose handle has to be one that is known. -/
theorem ends_tag {anchor handle : Option (List Char)} {suffix : List Char}
    (h : r.tokens <:+ tokens) :
    Ends (HeldBy tokens) (fun read => read.2.2.tokens <:+ tokens)
      (match some (handle, suffix) with
        | none => pure (anchor, none, r)
        | some (none, suffix) => pure (anchor, some suffix, r)
        | some (some handle, suffix) =>
          match r.handles.lookup handle with
          | some expansion => pure (anchor, some (expansion ++ suffix), r)
          | none => throw .malformed) := by
  cases handle with
  | none => exact h
  | some handle =>
    dsimp only
    cases r.handles.lookup handle with
    | some expansion => exact h
    | none => exact .inl rfl

theorem ends_properties (h : r.tokens <:+ tokens) :
    Ends (HeldBy tokens) (fun read => read.2.2.tokens <:+ tokens) (properties r) := by
  have hone := suffix_drop h
  have htwo := suffix_drop hone
  unfold properties
  cases r.next with
  | anchor a =>
    refine Ends.bind_iff.mpr ((ends_look hone).mono fun t _ => ?_)
    cases t with
    | tag handle suffix => exact ends_tag htwo
    | _ => exact hone
  | tag handle suffix =>
    refine Ends.bind_iff.mpr ((ends_look hone).mono fun t _ => ?_)
    cases t with
    | anchor a => exact ends_tag htwo
    | _ => exact ends_tag hone
  | _ => exact h

/-- What is put in front of the rest of a list changes nothing in how the rest is read. -/
theorem descends_cons {α : Type} {a : α} {rest : Except Fault (List α × Reading)}
    (h : Descends tokens rest) :
    Descends tokens (rest >>= fun read => return (a :: read.1, read.2)) :=
  Ends.bind_iff.mpr (h.mono fun _ behind => behind)

/-! ## The descent -/

/-- All functions of the descent, with some fuel. -/
structure DescendsAll (tokens : List Token) (fuel : Nat) : Prop where
  node {block indentless : Bool} {depth : Nat} {r : Reading} : r.tokens <:+ tokens →
    Descends tokens (readNode block indentless depth fuel r)
  items {indentless : Bool} {depth : Nat} {r : Reading} : r.tokens <:+ tokens →
    Descends tokens (readItems indentless depth fuel r)
  entries {depth : Nat} {r : Reading} : r.tokens <:+ tokens →
    Descends tokens (readEntries depth fuel r)
  part {depth : Nat} {r : Reading} : r.tokens <:+ tokens →
    Descends tokens (readPart depth fuel r)
  flowItems {first : Bool} {depth : Nat} {r : Reading} : r.tokens <:+ tokens →
    Descends tokens (readFlowItems first depth fuel r)
  flowEntries {first : Bool} {depth : Nat} {r : Reading} : r.tokens <:+ tokens →
    Descends tokens (readFlowEntries first depth fuel r)
  flowPart {depth : Nat} {r : Reading} : r.tokens <:+ tokens →
    Descends tokens (readFlowPart depth fuel r)

section

variable {fuel depth : Nat} (ih : DescendsAll tokens fuel) (h : r.tokens <:+ tokens)

include ih h

theorem descends_readNode {block indentless : Bool} :
    Descends tokens (readNode block indentless depth (fuel + 1) r) := by
  have hfinish {anchor : Option (List Char)} {node : Node} {r : Reading}
      (behind : r.tokens <:+ tokens) :
      Descends tokens (pure (node, r.name anchor (.done node))) := suffix_name behind _ _
  simp only [readNode]
  split
  · split
    · exact suffix_drop h
    · exact suffix_drop h
    · exact .inl rfl
  · refine Ends.bind_iff.mpr ((ends_properties h).mono fun read behind => ?_)
    refine Ends.bind_iff.mpr ((ends_look behind).mono fun t _ => ?_)
    have hdrop := suffix_drop behind
    refine .ite (.inl rfl) ?_
    split
    · exact hfinish hdrop
    · exact Ends.bind_iff.mpr
        ((ih.flowItems (suffix_name hdrop _ _)).mono fun _ behind => hfinish behind)
    · exact Ends.bind_iff.mpr
        ((ih.flowEntries (suffix_name hdrop _ _)).mono fun _ behind => hfinish behind)
    · refine .ite ?_ <| .ite ?_ <| .ite ?_ <| .ite (hfinish behind) (.inl rfl)
      · exact Ends.bind_iff.mpr
          ((ih.items (suffix_name behind _ _)).mono fun _ behind => hfinish behind)
      · exact Ends.bind_iff.mpr
          ((ih.items (suffix_name hdrop _ _)).mono fun _ behind => hfinish behind)
      · exact Ends.bind_iff.mpr
          ((ih.entries (suffix_name hdrop _ _)).mono fun _ behind => hfinish behind)

theorem descends_readItems {indentless : Bool} :
    Descends tokens (readItems indentless depth (fuel + 1) r) := by
  have hdrop := suffix_drop h
  simp only [readItems]
  split
  · exact .ite (descends_cons (ih.items hdrop))
      (Ends.bind_iff.mpr ((ih.node hdrop).mono fun _ behind =>
        descends_cons (ih.items behind)))
  · cases indentless with
    | false => exact hdrop
    | true => exact h
  · exact .ite h (ends_unexpected h)

theorem descends_readEntries : Descends tokens (readEntries depth (fuel + 1) r) := by
  have hdrop := suffix_drop h
  simp only [readEntries]
  split
  · refine Ends.bind_iff.mpr ((ih.part hdrop).mono fun _ behind => ?_)
    split
    · exact Ends.bind_iff.mpr ((ih.part (suffix_drop behind)).mono fun _ behind =>
        descends_cons (ih.entries behind))
    · exact descends_cons (ih.entries behind)
  · exact hdrop
  · exact ends_unexpected h

theorem descends_readPart : Descends tokens (readPart depth (fuel + 1) r) := by
  simp only [readPart]
  split
  · exact h
  · exact h
  · exact h
  · exact ih.node h

/-- A pair between brackets or braces, whose value may be missing, and what follows it. -/
theorem descends_flowPair {β : Type} {f : Node → Node → β}
    {rest : Reading → Except Fault (List β × Reading)}
    (hrest : ∀ {r}, r.tokens <:+ tokens → Descends tokens (rest r)) : Descends tokens (do
      let key ← readFlowPart depth fuel r
      match key.2.next with
      | .value => do
        let value ← readFlowPart depth fuel key.2.drop
        let more ← rest value.2
        return (f key.1 value.1 :: more.1, more.2)
      | _ => do
        let more ← rest key.2
        return (f key.1 .missing :: more.1, more.2)) := by
  refine Ends.bind_iff.mpr ((ih.flowPart h).mono fun _ behind => ?_)
  split
  · exact Ends.bind_iff.mpr ((ih.flowPart (suffix_drop behind)).mono fun _ behind =>
      descends_cons (hrest behind))
  · exact descends_cons (hrest behind)

theorem descends_readFlowItems {first : Bool} :
    Descends tokens (readFlowItems first depth (fuel + 1) r) := by
  have hdrop := suffix_drop h
  simp only [readFlowItems]
  split
  · exact hdrop
  · -- An item is read in the same way whether a comma had to stand in front of it or not.
    refine .ite (Ends.bind_iff.mpr (Ends.pure_iff.mpr ?_))
      (.ite (Ends.bind_iff.mpr (Ends.pure_iff.mpr ?_)) (Ends.bind_iff.mpr (ends_unexpected h)))
    · split
      · exact hdrop
      · exact descends_flowPair (f := fun key value => .mapping .map [(key, value)]) ih hdrop
          ih.flowItems
      · exact Ends.bind_iff.mpr ((ih.node h).mono fun _ behind =>
          descends_cons (ih.flowItems behind))
    · split
      · exact suffix_drop hdrop
      · exact descends_flowPair (f := fun key value => .mapping .map [(key, value)]) ih
          (suffix_drop hdrop) ih.flowItems
      · exact Ends.bind_iff.mpr ((ih.node hdrop).mono fun _ behind =>
          descends_cons (ih.flowItems behind))

theorem descends_readFlowEntries {first : Bool} :
    Descends tokens (readFlowEntries first depth (fuel + 1) r) := by
  have hdrop := suffix_drop h
  simp only [readFlowEntries]
  split
  · exact hdrop
  · refine .ite (Ends.bind_iff.mpr (Ends.pure_iff.mpr ?_))
      (.ite (Ends.bind_iff.mpr (Ends.pure_iff.mpr ?_)) (Ends.bind_iff.mpr (ends_unexpected h)))
    · split
      · exact hdrop
      · exact descends_flowPair (f := Prod.mk) ih hdrop ih.flowEntries
      · exact Ends.bind_iff.mpr ((ih.node h).mono fun _ behind =>
          descends_cons (ih.flowEntries behind))
    · split
      · exact suffix_drop hdrop
      · exact descends_flowPair (f := Prod.mk) ih (suffix_drop hdrop) ih.flowEntries
      · exact Ends.bind_iff.mpr ((ih.node hdrop).mono fun _ behind =>
          descends_cons (ih.flowEntries behind))

theorem descends_readFlowPart : Descends tokens (readFlowPart depth (fuel + 1) r) := by
  simp only [readFlowPart]
  split
  · exact h
  · exact h
  · exact h
  · exact h
  · exact ih.node h

end

/-- Whatever the fuel, a fault is one that the tokens hold. -/
theorem descendsAll (tokens : List Token) (fuel : Nat) : DescendsAll tokens fuel := by
  induction fuel with
  | zero =>
    have hend : HeldBy tokens .malformed := .inl rfl
    exact ⟨fun _ => hend, fun _ => hend, fun _ => hend, fun _ => hend, fun _ => hend, fun _ => hend,
      fun _ => hend⟩
  | succ fuel ih =>
    exact ⟨fun h => descends_readNode ih h, fun h => descends_readItems ih h,
      descends_readEntries ih, descends_readPart ih, fun h => descends_readFlowItems ih h,
      fun h => descends_readFlowEntries ih h, descends_readFlowPart ih⟩

/-! ## Documents -/

theorem ends_readDirectives {versioned : Bool} {handles : List (List Char × List Char)}
    {given : List Token} (h : given <:+ tokens) :
    Ends (HeldBy tokens) (fun read => read.2 <:+ tokens)
      (readDirectives versioned handles given) := by
  induction given generalizing versioned handles with
  | nil => exact h
  | cons t rest ih =>
    have hrest := (List.suffix_cons t rest).trans h
    cases t with
    | version major minor => exact .ite (.inl rfl) (ih hrest)
    | tagHandle handle expansion => exact .ite (.inl rfl) (ih hrest)
    | ignoredDirective => exact ih hrest
    | _ => exact h

theorem descends_readContent {fuel : Nat} (h : r.tokens <:+ tokens) :
    Descends tokens (readContent fuel r) := by
  unfold readContent
  cases r.next with
  | version | tagHandle | ignoredDirective | documentStart | documentEnd | streamEnd => exact h
  | _ => exact (descendsAll tokens fuel).node h

theorem descends_firstDocument (tokens : List Token) : Descends tokens (firstDocument tokens) := by
  have hexplicit : Descends tokens (explicitDocument tokens) := by
    unfold explicitDocument
    refine Ends.bind_iff.mpr
      ((ends_readDirectives List.suffix_rfl).mono fun read behind => ?_)
    dsimp only
    split
    · exact descends_readContent (suffix_drop behind)
    · exact ends_unexpected behind
  unfold firstDocument
  split
  · exact hexplicit
  · exact hexplicit
  · exact hexplicit
  · exact hexplicit
  · exact (descendsAll tokens _).node List.suffix_rfl

theorem ends_atStreamEnd {given : List Token} (h : given <:+ tokens) :
    Ends (HeldBy tokens) (fun _ => True) (atStreamEnd given) := by
  induction given with
  | nil => trivial
  | cons t rest ih =>
    cases t with
    | documentEnd => exact ih ((List.suffix_cons _ rest).trans h)
    | broken fault => exact .inr (h.subset List.mem_cons_self)
    | _ => trivial

/-- Where no tree can be read, the text is malformed, or a token holds the fault. -/
theorem heldBy_of_ofTokens {fault : Fault} (h : Node.ofTokens tokens = .error fault) :
    HeldBy tokens fault := by
  cases tokens with
  | nil =>
    cases h
    exact .inl rfl
  | cons t rest =>
    by_cases ht : t = .streamEnd
    · subst ht
      cases h
    · rw [ofTokens_eq ht] at h
      have hends : Ends (HeldBy (t :: rest)) (fun _ => True)
          (onlyTree (firstDocument (t :: rest))) := by
        refine Ends.bind_iff.mpr ((descends_firstDocument _).mono fun read behind => ?_)
        refine Ends.bind_iff.mpr ((ends_atStreamEnd behind).mono fun isEnd _ => ?_)
        exact .ite trivial (.inl rfl)
      exact hends.fault h

end RoleGrants.Yaml
