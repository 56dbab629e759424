import RoleGrants.Yaml.Stream

/-!
# Streams and single documents

A stream is read one document after the other, `valuesFrom` from a document on.  A text of one
document is read in the same way, up to its end: `load_eq_ok_iff` says when reading it gives a
value.
-/

namespace RoleGrants.Yaml

variable {v : Value}

/-! ## One document after the other -/

/-- A sequence gives a result if both of its steps do. -/
theorem bind_eq_ok_iff {α β : Type} {x : Except Fault α} {f : α → Except Fault β} {b : β} :
    x >>= f = .ok b ↔ ∃ a, x = .ok a ∧ f a = .ok b := by
  cases x with
  | error fault => exact iff_of_false nofun fun ⟨_, h, _⟩ => nomatch h
  | ok a => simp [bind, Except.bind]

/-- The values from a document on that was read, or the fault of its reading. -/
def valuesFrom (n : Nat) (read : Except Fault (Node × Reading)) : Except Fault (List Value) := do
  let (node, r) ← read
  let value ← documentValue node r
  let values ← laterValues n r.tokens
  return value :: values

theorem valuesFrom_eq_ok_iff {n : Nat} {read : Except Fault (Node × Reading)} {vs : List Value} :
    valuesFrom n read = .ok vs ↔ ∃ node r value values, read = .ok (node, r) ∧
      documentValue node r = .ok value ∧ laterValues n r.tokens = .ok values ∧
      vs = value :: values := by
  constructor
  · intro h
    obtain ⟨⟨node, r⟩, hread, hrest⟩ := bind_eq_ok_iff.mp h
    obtain ⟨value, hvalue, hrest⟩ := bind_eq_ok_iff.mp hrest
    obtain ⟨values, hvalues, hreturn⟩ := bind_eq_ok_iff.mp hrest
    cases hreturn
    exact ⟨node, r, value, values, hread, hvalue, hvalues, rfl⟩
  · rintro ⟨node, r, value, values, hread, hvalue, hvalues, rfl⟩
    exact bind_eq_ok_iff.mpr ⟨(node, r), hread, bind_eq_ok_iff.mpr ⟨value, hvalue,
      bind_eq_ok_iff.mpr ⟨values, hvalues, rfl⟩⟩⟩

/-- Behind a document there is only the end of the text, or another document. -/
theorem laterValues_cases (n : Nat) (tokens : List Token) :
    (laterValues (n + 1) tokens = .ok [] ∧ atStreamEnd tokens = .ok true) ∨
      (∃ read, laterValues (n + 1) tokens = valuesFrom n read) ∧ atStreamEnd tokens ≠ .ok true := by
  induction tokens with
  | nil => exact .inr ⟨⟨_, rfl⟩, nofun⟩
  | cons t rest ih =>
      cases t with
      | documentEnd => exact ih
      | streamEnd => exact .inl ⟨rfl, rfl⟩
      | _ => exact .inr ⟨⟨_, rfl⟩, nofun⟩

/-- No document is left exactly when nothing but document ends stands before the end of the text. -/
theorem laterValues_eq_nil_iff (n : Nat) (tokens : List Token) :
    laterValues (n + 1) tokens = .ok [] ↔ atStreamEnd tokens = .ok true := by
  rcases laterValues_cases n tokens with ⟨hvalues, hend⟩ | ⟨⟨read, hvalues⟩, hend⟩
  · exact iff_of_true hvalues hend
  · refine iff_of_false (fun h => ?_) hend
    obtain ⟨node, r, value, values, -, -, -, hnil⟩ := valuesFrom_eq_ok_iff.mp (hvalues ▸ h)
    cases hnil

theorem valuesOfTokens_eq {t : Token} {rest : List Token} (ht : t ≠ .streamEnd) :
    valuesOfTokens (t :: rest) =
      valuesFrom ((t :: rest).length + 1) (firstDocument (t :: rest)) := by
  cases t with
  | streamEnd => exact absurd rfl ht
  | _ => rfl

theorem documentValue_of_atStreamEnd {node : Node} {r : Reading}
    (h : atStreamEnd r.tokens = .ok true) : documentValue node r = node.outcome.result := by
  obtain ⟨tokens, anchors, handles⟩ := r
  cases tokens with
  | nil => cases h
  | cons t rest =>
      cases t with
      | documentEnd | streamEnd => rfl
      | _ => cases h

/-! ## The only document -/

/-- The tree of a document, if nothing is behind it. -/
def onlyTree (read : Except Fault (Node × Reading)) : Except Fault (Option Node) := do
  let (node, r) ← read
  if ← atStreamEnd r.tokens then return some node else throw .malformed

theorem onlyTree_eq_ok_iff {read : Except Fault (Node × Reading)} {found : Option Node} :
    onlyTree read = .ok found ↔ ∃ node r, read = .ok (node, r) ∧
      atStreamEnd r.tokens = .ok true ∧ found = some node := by
  constructor
  · intro h
    obtain ⟨⟨node, r⟩, hread, hrest⟩ := bind_eq_ok_iff.mp h
    obtain ⟨isEnd, hend, hreturn⟩ := bind_eq_ok_iff.mp hrest
    cases isEnd with
    | false => cases hreturn
    | true =>
        cases hreturn
        exact ⟨node, r, hread, hend, rfl⟩
  · rintro ⟨node, r, hread, hend, rfl⟩
    exact bind_eq_ok_iff.mpr ⟨(node, r), hread, bind_eq_ok_iff.mpr ⟨true, hend, rfl⟩⟩

/-- The tree of the only document is that of the first one, if nothing is behind it. -/
theorem ofTokens_eq {t : Token} {rest : List Token} (ht : t ≠ .streamEnd) :
    Node.ofTokens (t :: rest) = onlyTree (firstDocument (t :: rest)) := by
  cases t with
  | streamEnd => exact absurd rfl ht
  | version | tagHandle | ignoredDirective | documentStart =>
      simp only [Node.ofTokens, firstDocument, explicitDocument, List.head?_cons, onlyTree]
      -- What the directives leave decides whether there is a document at all.
      rcases readDirectives false [] _ with fault | ⟨handles, behind⟩
      · rfl
      · rcases behind with _ | ⟨t, behind⟩
        · rfl
        · cases t <;> rfl
  | _ => rfl

/-- The only document of a text that has one: nothing but document ends stands behind it. -/
theorem load_eq_ok_iff_first {text : List Char} {t : Token} {rest : List Token}
    (htext : Token.ofText text = t :: rest) (ht : t ≠ .streamEnd) :
    load text = .ok v ↔ ∃ node r, firstDocument (t :: rest) = .ok (node, r) ∧
      atStreamEnd r.tokens = .ok true ∧ node.outcome.result = .ok v := by
  rw [load, htext, ofTokens_eq ht]
  constructor
  · intro h
    obtain ⟨found, hfound, hvalue⟩ := bind_eq_ok_iff.mp h
    obtain ⟨node, r, hfirst, hend, rfl⟩ := onlyTree_eq_ok_iff.mp hfound
    exact ⟨node, r, hfirst, hend, hvalue⟩
  · rintro ⟨node, r, hfirst, hend, hvalue⟩
    exact bind_eq_ok_iff.mpr
      ⟨some node, onlyTree_eq_ok_iff.mpr ⟨node, r, hfirst, hend, rfl⟩, hvalue⟩

/-- Reading a text of one document is reading a stream: the text holds one document, which is the
value, or none, and then the value is null. -/
theorem load_eq_ok_iff {text : List Char} :
    load text = .ok v ↔ loadAll text = .ok [v] ∨ (v = .null ∧ loadAll text = .ok []) := by
  rcases htext : Token.ofText text with _ | ⟨t, rest⟩
  · rw [load, loadAll, htext]
    exact iff_of_false nofun (by rintro (h | ⟨-, h⟩) <;> cases h)
  · by_cases ht : t = .streamEnd
    · subst ht
      have hload : load text = .ok .null := by rw [load, htext]; rfl
      have hloadAll : loadAll text = .ok [] := by rw [loadAll, htext]; rfl
      simp [hload, hloadAll, eq_comm]
    · rw [load_eq_ok_iff_first htext ht, loadAll, htext, valuesOfTokens_eq ht]
      simp only [valuesFrom_eq_ok_iff]
      constructor
      · rintro ⟨node, r, hfirst, hend, hvalue⟩
        exact .inl ⟨node, r, v, [], hfirst, (documentValue_of_atStreamEnd hend).trans hvalue,
          (laterValues_eq_nil_iff _ _).mpr hend, rfl⟩
      · rintro (⟨node, r, value, values, hfirst, hvalue, hlater, hvalues⟩ | ⟨-, h⟩)
        · cases hvalues
          have hend := (laterValues_eq_nil_iff _ _).mp hlater
          exact ⟨node, r, hfirst, hend, (documentValue_of_atStreamEnd hend).symm.trans hvalue⟩
        · obtain ⟨node, r, value, values, -, -, -, hnil⟩ := h
          cases hnil

end RoleGrants.Yaml
