import RoleGrants.Proofs.Yaml.Scanning

/-!
# Faults of texts that are split into tokens

Almost all that is wrong with a text as such makes it malformed.  The exceptions are escapes in
double quotes that spell no code point, and numbers of versions with too many digits.  A split that
stops leaves its fault as a token in front of nothing; `SplitFault.of_broken` says which faults
these tokens hold.

`Ends` says of a reading with what it fails and what it gives, so that the faults of a reading are
those of its steps.
-/

namespace RoleGrants.Yaml

/-! ## How readings end -/

/-- A reading fails only with some faults, and gives only some results. -/
def Ends {α : Type} (faults : Fault → Prop) (results : α → Prop) : Except Fault α → Prop
  | .ok a => results a
  | .error fault => faults fault

namespace Ends

variable {α β : Type} {faults : Fault → Prop} {results more : α → Prop} {x : Except Fault α}

@[simp] theorem ok_iff {a : α} : Ends faults results (.ok a) ↔ results a := Iff.rfl

@[simp] theorem pure_iff {a : α} : Ends faults results (pure a) ↔ results a := Iff.rfl

@[simp] theorem error_iff {fault : Fault} :
    Ends faults results (.error fault) ↔ faults fault := Iff.rfl

@[simp] theorem throw_iff {fault : Fault} :
    Ends faults results (throw fault) ↔ faults fault := Iff.rfl

/-- A sequence ends as its second step does, on what the first one gives. -/
@[simp] theorem bind_iff {f : α → Except Fault β} {results : β → Prop} :
    Ends faults results (x >>= f) ↔ Ends faults (fun a => Ends faults results (f a)) x := by
  cases x <;> rfl

@[simp] theorem map_iff {f : α → β} {results : β → Prop} :
    Ends faults results (x.map f) ↔ Ends faults (fun a => results (f a)) x := by
  cases x <;> rfl

@[simp] theorem fmap_iff {f : α → β} {results : β → Prop} :
    Ends faults results (f <$> x) ↔ Ends faults (fun a => results (f a)) x := map_iff

@[simp] theorem ite_iff {c : Prop} [Decidable c] {y : Except Fault α} :
    Ends faults results (if c then x else y) ↔
      (c → Ends faults results x) ∧ (¬ c → Ends faults results y) := by
  by_cases h : c <;> simp [h]

theorem ite {c : Prop} [Decidable c] {y : Except Fault α} (hx : Ends faults results x)
    (hy : Ends faults results y) : Ends faults results (if c then x else y) :=
  ite_iff.mpr ⟨fun _ => hx, fun _ => hy⟩

theorem mono (h : Ends faults results x) (hmore : ∀ a, results a → more a) :
    Ends faults more x := by
  cases x with
  | ok a => exact hmore a h
  | error fault => exact h

theorem fault (h : Ends faults results x) {fault : Fault} (hx : x = .error fault) :
    faults fault := by
  subst hx
  exact h

end Ends

/-! ## Single tokens -/

/-- What can go wrong while a text is split. -/
inductive SplitFault : Fault → Prop
  | malformed : SplitFault .malformed
  | notCodePoint : SplitFault (.scalar .notCodePoint)
  | oversizedCodePoint : SplitFault (.scalar .oversizedCodePoint)
  | oversizedVersion (digits : Nat) : SplitFault (.scalar (.oversizedInteger digits))

attribute [simp] SplitFault.malformed SplitFault.notCodePoint SplitFault.oversizedCodePoint
  SplitFault.oversizedVersion

/-- A token that does not say that a text is broken. -/
def Token.IsWhole : Token → Prop
  | .broken _ => False
  | _ => True

/-- A reading that gives something, unless it ends with a fault of splitting. -/
abbrev Splits {α : Type} (x : Except Fault α) : Prop := Ends SplitFault (fun _ => True) x

/-- A reading that gives a token, and what is behind it. -/
abbrev SplitsOff (x : Except Fault (Token × Cursor)) : Prop :=
  Ends SplitFault (fun r => r.1.IsWhole) x

@[simp] theorem splits_scanName (c : Cursor) : Splits (scanName c) := by simp [scanName]

@[simp] theorem splits_scanUri (c : Cursor) : Splits (scanUri c) := by
  unfold scanUri
  dsimp only
  cases uriText _ _ with
  | none => simp
  | some text => simp

@[simp] theorem splits_scanHandle (c : Cursor) : Splits (scanHandle c) := by simp [scanHandle]

theorem splitsOff_scanTag (c : Cursor) : SplitsOff (scanTag c) := by
  simp [scanTag, Token.IsWhole]

@[simp] theorem splits_scanVersionPart (c : Cursor) : Splits (scanVersionPart c) := by
  simp [scanVersionPart]

theorem splitsOff_scanParameters (name : List Char) (c : Cursor) :
    SplitsOff (scanParameters name c) := by
  simp [scanParameters, Token.IsWhole]

theorem splitsOff_scanDirective (c : Cursor) : SplitsOff (scanDirective c) := by
  simp only [scanDirective, Ends.bind_iff, Ends.ite_iff, Ends.throw_iff]
  refine ⟨fun _ => .malformed, fun _ => (splitsOff_scanParameters _ _).mono fun r whole => ?_⟩
  refine ⟨fun _ => .malformed, fun _ => ?_⟩
  cases r.2.skipSpaces.skipComment.lineBreak? with
  | none => exact whole
  | some next => exact whole

/-! ## Block scalars -/

@[simp] theorem splits_indentDigit? (c : Cursor) : Splits (indentDigit? c) := by
  simp [indentDigit?]

theorem splits_blockHeader (c : Cursor) : Splits (blockHeader c) := by
  unfold blockHeader
  cases chomping? c with
  | some r =>
    simp only [Ends.bind_iff, Ends.pure_iff, Ends.ite_iff, Ends.throw_iff]
    refine (splits_indentDigit? r.2).mono fun digit _ => ?_
    refine ⟨fun _ => .malformed, fun _ => ⟨fun _ => .malformed, fun _ => ?_⟩⟩
    cases digit.2.skipSpaces.skipComment.lineBreak? <;> trivial
  | none =>
    simp only [Ends.bind_iff]
    refine (splits_indentDigit? c).mono fun digit _ => ?_
    split
    all_goals
      simp only [Ends.bind_iff, Ends.pure_iff, Ends.ite_iff, Ends.throw_iff]
      refine ⟨fun _ => .malformed, fun _ => ⟨fun _ => .malformed, fun _ => ?_⟩⟩
      split <;> trivial

theorem splitsOff_scanBlock (indent : Int) (c : Cursor) : SplitsOff (scanBlock indent c) := by
  simp only [scanBlock, Ends.bind_iff]
  exact (splits_blockHeader _).mono fun _ _ => trivial

/-! ## Quoted scalars -/

@[simp] theorem splits_quotedBreaks (fuel : Nat) (c : Cursor) : Splits (quotedBreaks fuel c) := by
  induction fuel generalizing c with
  | zero => trivial
  | succ fuel ih =>
    simp only [quotedBreaks, Ends.ite_iff]
    refine ⟨fun _ => .malformed, fun _ => ?_⟩
    cases (c.skip fun ch => decide (ch = ' ') || decide (ch = '\t')).lineBreak? with
    | none => trivial
    | some next => simp [ih]

/-- This is where faults come from that are not about a text as a whole. -/
theorem splits_quotedText (double : Bool) (fuel : Nat) (c : Cursor) :
    Splits (quotedText double fuel c) := by
  induction fuel generalizing c with
  | zero => exact .malformed
  | succ fuel ih =>
    simp only [quotedText, Ends.ite_iff, Ends.bind_iff]
    refine ⟨fun _ => ?quote, fun _ => ⟨fun _ => ?blank, fun _ => ⟨fun _ => ?escape, fun _ => ?_⟩⟩⟩
    case quote => simp [ih]
    case blank =>
      refine ⟨fun _ => .malformed, fun _ => ?_⟩
      cases (c.span fun ch => decide (ch = ' ') || decide (ch = '\t')).2.lineBreak? with
      | none => simp [ih]
      | some next => simp [ih]
    case escape =>
      cases List.lookup c.advance.peek escapeLetters with
      | some meant => simp [ih]
      | none =>
        cases escapeWidth c.advance.peek with
        | some width => simp [ih]
        | none =>
          cases c.advance.lineBreak? with
          | none => exact .malformed
          | some next => simp [ih]
    · simp [ih]

theorem splitsOff_scanQuoted (c : Cursor) : SplitsOff (scanQuoted c) := by
  simp only [scanQuoted, Ends.bind_iff]
  exact (splits_quotedText _ _ _).mono fun _ _ => trivial

/-! ## Steps of the split -/

/-- None of some tokens says that the text is broken. -/
def AllWhole (tokens : List Token) : Prop := ∀ t ∈ tokens, t.IsWhole

theorem AllWhole.cons {t : Token} {tokens : List Token} (ht : t.IsWhole) (h : AllWhole tokens) :
    AllWhole (t :: tokens) := List.forall_mem_cons.mpr ⟨ht, h⟩

namespace Scanner

/-- A step of the split gives a scanner whose tokens are whole. -/
abbrev GoesOn (x : Except Fault Scanner) : Prop := Ends SplitFault (fun s => AllWhole s.emitted) x

variable {s : Scanner} {t : Token}

theorem allWhole_unwindTo {column : Int} {outer : List Int} (h : AllWhole s.emitted) :
    AllWhole (s.unwindTo column outer).emitted := by
  induction outer generalizing s with
  | nil => exact h
  | cons o rest ih =>
    rw [unwindTo]
    split
    · exact ih (AllWhole.cons trivial h)
    · exact h

theorem allWhole_unwind {column : Int} (h : AllWhole s.emitted) :
    AllWhole (s.unwind column).emitted := by
  unfold unwind
  split
  · exact h
  · exact allWhole_unwindTo h

theorem allWhole_insertAt {n : Nat} {tokens : List Token} (h : AllWhole s.emitted)
    (ht : AllWhole tokens) : AllWhole (s.insertAt n tokens).emitted := by
  intro t hmem
  simp only [insertAt, List.mem_append, List.mem_reverse] at hmem
  rcases hmem with (hmem | hmem) | hmem
  · exact h t (List.mem_of_mem_take hmem)
  · exact ht t hmem
  · exact h t (List.mem_of_mem_drop hmem)

theorem goesOn_dropStale (h : AllWhole s.emitted) : GoesOn s.dropStale := by
  simp only [dropStale, Ends.ite_iff]
  exact ⟨fun _ => .malformed, fun _ => h⟩

theorem goesOn_dropPossible (h : AllWhole s.emitted) : GoesOn s.dropPossible := by
  unfold dropPossible
  cases s.possible.lookup s.flow with
  | none => exact h
  | some k =>
    simp only [Ends.ite_iff]
    exact ⟨fun _ => .malformed, fun _ => h⟩

theorem goesOn_savePossible (h : AllWhole s.emitted) : GoesOn s.savePossible := by
  simp only [savePossible, Ends.ite_iff, Ends.bind_iff]
  exact ⟨fun _ => h, fun _ => (goesOn_dropPossible h).mono fun _ whole => whole⟩

theorem emitted_toToken (fuel : Nat) (s : Scanner) : (s.toToken fuel).emitted = s.emitted := by
  induction fuel generalizing s with
  | zero => rfl
  | succ fuel ih =>
    rw [toToken_succ]
    cases s.cursor.skipSpaces.skipComment.lineBreak? with
    | none => rfl
    | some next => exact ih _

theorem goesOn_settle (h : AllWhole s.emitted) : GoesOn s.settle := by
  rw [← emitted_toToken (s.cursor.rest.length + 1) s] at h
  unfold settle
  generalize s.toToken (s.cursor.rest.length + 1) = there at h ⊢
  rw [GoesOn, Ends.bind_iff]
  exact (goesOn_dropStale h).mono fun _ whole => allWhole_unwind whole

theorem goesOn_openBlock (ht : t.IsWhole) (h : AllWhole s.emitted) : GoesOn (s.openBlock t) := by
  simp only [openBlock, addIndent, Ends.ite_iff]
  refine ⟨fun _ => h, fun _ => ⟨fun _ => .malformed, fun _ => ?_⟩⟩
  split
  · exact AllWhole.cons ht h
  · exact h

/-! ## Tokens that are fetched -/

theorem goesOn_fetchMarker (ht : t.IsWhole) (h : AllWhole s.emitted) :
    GoesOn (s.fetchMarker t) := by
  simp only [fetchMarker, Ends.bind_iff]
  exact (goesOn_dropPossible (allWhole_unwind h)).mono fun _ whole => AllWhole.cons ht whole

theorem goesOn_fetchDirective (h : AllWhole s.emitted) : GoesOn s.fetchDirective := by
  simp only [fetchDirective, Ends.bind_iff]
  exact (goesOn_dropPossible (allWhole_unwind h)).mono fun _ whole =>
    (splitsOff_scanDirective _).mono fun _ ht => AllWhole.cons ht whole

theorem goesOn_fetchFlowStart (ht : t.IsWhole) (h : AllWhole s.emitted) :
    GoesOn (s.fetchFlowStart t) := by
  simp only [fetchFlowStart, Ends.bind_iff]
  exact (goesOn_savePossible h).mono fun _ whole => AllWhole.cons ht whole

theorem goesOn_fetchFlowEnd (ht : t.IsWhole) (h : AllWhole s.emitted) :
    GoesOn (s.fetchFlowEnd t) := by
  simp only [fetchFlowEnd, Ends.bind_iff, Ends.ite_iff]
  exact (goesOn_dropPossible h).mono fun _ whole =>
    ⟨fun _ => .malformed, fun _ => AllWhole.cons ht whole⟩

theorem goesOn_fetchFlowEntry (h : AllWhole s.emitted) : GoesOn s.fetchFlowEntry := by
  simp only [fetchFlowEntry, Ends.bind_iff]
  exact (goesOn_dropPossible h).mono fun _ whole => AllWhole.cons trivial whole

theorem goesOn_fetchBlockEntry (h : AllWhole s.emitted) : GoesOn s.fetchBlockEntry := by
  simp only [fetchBlockEntry, Ends.bind_iff]
  refine (goesOn_openBlock (t := .blockSequenceStart) trivial h).mono fun opened whole => ?_
  exact (goesOn_dropPossible (s := { opened with keyAllowed := true }) whole).mono
    fun _ whole => AllWhole.cons trivial whole

theorem goesOn_fetchKey (h : AllWhole s.emitted) : GoesOn s.fetchKey := by
  simp only [fetchKey, Ends.bind_iff]
  refine (goesOn_openBlock (t := .blockMappingStart) trivial h).mono fun opened whole => ?_
  exact (goesOn_dropPossible (s := { opened with keyAllowed := !opened.inFlow }) whole).mono
    fun _ whole => AllWhole.cons trivial whole

theorem goesOn_fetchValue (h : AllWhole s.emitted) : GoesOn s.fetchValue := by
  unfold fetchValue
  cases s.possible.lookup s.flow with
  | none =>
    simp only [Ends.bind_iff]
    refine (goesOn_openBlock (t := .blockMappingStart) trivial h).mono fun opened whole => ?_
    exact (goesOn_dropPossible (s := { opened with keyAllowed := !opened.inFlow }) whole).mono
      fun _ whole => AllWhole.cons trivial whole
  | some k =>
    let kept := { s with possible := s.possible.filter fun k => k.1 != s.flow }
    have hopened : AllWhole
        (if kept.inFlow then (false, kept) else kept.addIndent k.column).2.emitted := by
      unfold addIndent
      split
      · exact h
      · split
        · exact h
        · exact h
    refine AllWhole.cons trivial (allWhole_insertAt hopened ?_)
    split
    · simp [AllWhole, Token.IsWhole]
    · simp [AllWhole, Token.IsWhole]

theorem goesOn_fetchKeyable {scan : Cursor → Except Fault (Token × Cursor)}
    (hscan : ∀ c, SplitsOff (scan c)) (h : AllWhole s.emitted) : GoesOn (s.fetchKeyable scan) := by
  simp only [fetchKeyable, Ends.bind_iff]
  exact (goesOn_savePossible h).mono fun _ whole =>
    (hscan _).mono fun _ ht => AllWhole.cons ht whole

theorem goesOn_fetchPlain (h : AllWhole s.emitted) : GoesOn s.fetchPlain := by
  simp only [fetchPlain, Ends.bind_iff]
  exact (goesOn_savePossible h).mono fun _ whole => AllWhole.cons trivial whole

theorem goesOn_fetchBlock (h : AllWhole s.emitted) : GoesOn s.fetchBlock := by
  simp only [fetchBlock, Ends.bind_iff]
  exact (goesOn_dropPossible (s := { s with keyAllowed := true }) h).mono fun _ whole =>
    (splitsOff_scanBlock _ _).mono fun _ ht => AllWhole.cons ht whole

/-! ## Whole splits -/

/-- A step behind which the split goes on. -/
theorem ends_goOn {x : Except Fault Scanner} (h : GoesOn x) :
    Ends SplitFault (fun r => AllWhole r.2.emitted) (x.map (false, ·)) := Ends.map_iff.mpr h

theorem splitsOff_named {named : List Char → Token} (whole : ∀ name, (named name).IsWhole)
    (c : Cursor) : SplitsOff ((scanName c).map fun (name, c) => (named name, c)) :=
  Ends.map_iff.mpr ((splits_scanName c).mono fun r _ => whole r.1)

/-- Whatever stands at the cursor, the tokens stay whole. -/
theorem ends_dispatch (h : AllWhole s.emitted) :
    Ends SplitFault (fun r => AllWhole r.2.emitted) s.dispatch := by
  have hmarker : (if s.cursor.peek = '-' then Token.documentStart else .documentEnd).IsWhole := by
    split <;> trivial
  unfold dispatch
  refine .ite ?ending <| .ite (ends_goOn (goesOn_fetchDirective h)) <|
    .ite (ends_goOn (goesOn_fetchMarker hmarker h)) <|
    .ite (ends_goOn (goesOn_fetchFlowStart trivial h)) <|
    .ite (ends_goOn (goesOn_fetchFlowStart trivial h)) <|
    .ite (ends_goOn (goesOn_fetchFlowEnd trivial h)) <|
    .ite (ends_goOn (goesOn_fetchFlowEnd trivial h)) <|
    .ite (ends_goOn (goesOn_fetchFlowEntry h)) <|
    .ite (ends_goOn (goesOn_fetchBlockEntry h)) <|
    .ite (ends_goOn (goesOn_fetchKey h)) <|
    .ite (ends_goOn (goesOn_fetchValue h)) <|
    .ite (ends_goOn (goesOn_fetchKeyable (splitsOff_named fun _ => trivial) h)) <|
    .ite (ends_goOn (goesOn_fetchKeyable (splitsOff_named fun _ => trivial) h)) <|
    .ite (ends_goOn (goesOn_fetchKeyable splitsOff_scanTag h)) <|
    .ite (ends_goOn (goesOn_fetchBlock h)) <|
    .ite (ends_goOn (goesOn_fetchKeyable splitsOff_scanQuoted h)) <|
    .ite (ends_goOn (goesOn_fetchPlain h)) .malformed
  case ending =>
    simp only [Ends.bind_iff]
    exact (goesOn_dropPossible (allWhole_unwind h)).mono fun _ whole => AllWhole.cons trivial whole

/-- A split that stops does so with a fault of its last step. -/
theorem broken_of_mem_run {fuel : Nat} (h : AllWhole s.emitted) {fault : Fault}
    (hmem : .broken fault ∈ s.run fuel) : SplitFault fault := by
  have hstop {s : Scanner} {last : Fault} (h : AllWhole s.emitted)
      (hmem : .broken fault ∈ s.given ++ [.broken last]) : fault = last := by
    rcases List.mem_append.mp hmem with hmem | hmem
    · exact (h _ (List.mem_reverse.mp (List.mem_of_mem_take hmem))).elim
    · exact Token.broken.inj (List.mem_singleton.mp hmem)
  induction fuel generalizing s with
  | zero => exact hstop h hmem ▸ .malformed
  | succ fuel ih =>
    have hfetch : Ends SplitFault (fun r => AllWhole r.2.emitted) s.fetch :=
      Ends.bind_iff.mpr ((goesOn_settle h).mono fun _ whole => ends_dispatch whole)
    rw [run_succ] at hmem
    cases hs : s.fetch with
    | error last =>
      rw [hs] at hmem
      exact hstop h hmem ▸ hfetch.fault hs
    | ok r =>
      rw [hs] at hmem hfetch
      obtain ⟨isLast, s'⟩ := r
      cases isLast with
      | true => exact (hfetch _ (List.mem_reverse.mp hmem)).elim
      | false => exact ih hfetch hmem

end Scanner

/-- A text is said to be broken only for a fault of splitting. -/
theorem SplitFault.of_broken {text : List Char} {fault : Fault}
    (h : .broken fault ∈ Token.ofText text) : SplitFault fault := by
  unfold Token.ofText at h
  split at h
  · obtain rfl : fault = .malformed := by simpa using h
    exact .malformed
  · refine Scanner.broken_of_mem_run ?_ h
    split
    · exact List.forall_mem_nil _
    · exact List.forall_mem_nil _

end RoleGrants.Yaml
