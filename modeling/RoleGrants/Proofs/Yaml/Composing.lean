import Mathlib.Data.List.Forall2
import RoleGrants.Proofs.Yaml.Descent
import RoleGrants.Yaml.Document

/-!
# Values of trees

The tree of a document has the document as its value, each text replaced by what it reads as.
-/

namespace RoleGrants.Yaml

/-! ## Documents as they are read -/

mutual

/-- A document as it is read after it was written: each of its texts is what it reads as. -/
def reread : Json → Json
  | .text s => .text (String.ofList (textReading s.toList))
  | .array items => .array (rereadItems items)
  | .object entries => .object (rereadEntries entries)
  | v => v

/-- Items as they are read. -/
def rereadItems : List Json → List Json
  | [] => []
  | item :: rest => reread item :: rereadItems rest

/-- Entries as they are read. Keys read as themselves. -/
def rereadEntries : List (String × Json) → List (String × Json)
  | [] => []
  | (key, value) :: rest => (key, reread value) :: rereadEntries rest

end

theorem keys_rereadEntries (entries : List (String × Json)) :
    (rereadEntries entries).map Prod.fst = entries.map Prod.fst := by
  induction entries with
  | nil => rfl
  | cons e rest ih => rw [rereadEntries, List.map_cons, List.map_cons, ih]

/-! ## Outcomes without faults -/

/-- A value that was made without a fault at any depth. -/
structure Outcome.Makes (o : Outcome) (v : Value) : Prop where
  value : o.value = v
  clean : ∀ fault ∈ o.faults, fault = none

theorem clean_besides {fs gs : List (Option Fault)} (hf : ∀ fault ∈ fs, fault = none)
    (hg : ∀ fault ∈ gs, fault = none) : ∀ fault ∈ besides fs gs, fault = none := by
  induction fs generalizing gs with
  | nil => rwa [besides]
  | cons f fs ih =>
      cases gs with
      | nil => exact hf
      | cons g gs =>
          rw [List.forall_mem_cons] at hf hg
          rw [besides, hf.1, hg.1]
          exact List.forall_mem_cons.mpr ⟨rfl, ih hf.2 hg.2⟩

namespace Outcome

theorem Makes.own {o : Outcome} {v : Value} (h : o.Makes v) : o.own = none := by
  rw [Outcome.own]
  cases hfaults : o.faults with
  | nil => rfl
  | cons f fs => exact h.clean f (hfaults ▸ List.mem_cons_self)

theorem Makes.result {o : Outcome} {v : Value} (h : o.Makes v) : o.result = .ok v := by
  have hnone : o.faults.findSome? id = none :=
    List.findSome?_eq_none_iff.mpr fun f hf => h.clean f hf
  rw [Outcome.result, hnone, h.value]

theorem makes_ofScalar (v : Value) : (ofScalar (.ok v)).Makes v :=
  ⟨rfl, List.forall_mem_singleton.mpr rfl⟩

/-- A collection whose parts have no faults has none itself. -/
theorem makes_ofParts (v : Value) {parts : List Outcome} {values : List Value}
    (h : List.Forall₂ Makes parts values) : (ofParts v none parts).Makes v := by
  have hfold : ∀ fs : List (Option Fault), (∀ fault ∈ fs, fault = none) →
      ∀ fault ∈ parts.foldl (fun fs o => besides fs o.faults.tail) fs, fault = none := by
    induction h with
    | nil => exact fun fs hfs => hfs
    | cons ho _ ih =>
        intro fs hfs
        exact ih _ (clean_besides hfs fun fault hfault =>
          ho.clean fault (List.mem_of_mem_tail hfault))
  exact ⟨rfl, List.forall_mem_cons.mpr ⟨rfl, List.forall_mem_cons.mpr
    ⟨rfl, hfold [] fun _ h => nomatch h⟩⟩⟩

/-- A list of items without faults. -/
theorem makes_list {parts : List Outcome} {values : List Value}
    (h : List.Forall₂ Makes parts values) :
    (ofParts (.list (parts.map (·.value))) (parts.findSome? Outcome.own) parts).Makes
      (.list values) := by
  have hitems : parts.map (·.value) = values ∧ parts.findSome? Outcome.own = none := by
    induction h with
    | nil => exact ⟨rfl, rfl⟩
    | cons ho _ ih => exact ⟨by rw [List.map_cons, ho.value, ih.1],
        by rw [List.findSome?_cons, ho.own, ih.2]⟩
  rw [hitems.1, hitems.2]
  exact makes_ofParts _ h

end Outcome

/-! ## Maps with distinct keys -/

theorem putEntry_new {key v : Value} {m : List (Value × Value)}
    (h : ∀ e ∈ m, e.1.sameKey key = false) : Value.putEntry key v m = m ++ [(key, v)] := by
  induction m with
  | nil => rfl
  | cons e m ih =>
      rw [List.forall_mem_cons] at h
      rw [Value.putEntry, h.1, if_neg Bool.false_ne_true, ih h.2, List.cons_append]

/-- Entries with distinct text keys are put behind one another. -/
theorem foldl_putEntry {entries : List (String × Json)} (m : List (Value × Value))
    (hnodup : (entries.map Prod.fst).Nodup)
    (hnew : ∀ e ∈ m, ∀ k ∈ entries.map Prod.fst, e.1.sameKey (.text k) = false) :
    (Json.toEntries entries).foldl (fun m e => Value.putEntry e.1 e.2 m) m =
      m ++ Json.toEntries entries := by
  induction entries generalizing m with
  | nil => rw [Json.toEntries, List.foldl_nil, List.append_nil]
  | cons e rest ih =>
      obtain ⟨key, v⟩ := e
      obtain ⟨hkey, hrest⟩ := List.nodup_cons.mp hnodup
      rw [Json.toEntries, List.foldl_cons,
        putEntry_new fun e he => hnew e he key List.mem_cons_self, ih _ hrest, List.append_assoc,
        List.singleton_append]
      intro e he k hk
      rcases List.mem_append.mp he with he | he
      · exact hnew e he k (List.mem_cons_of_mem _ hk)
      · obtain rfl := List.mem_singleton.mp he
        exact beq_false_of_ne fun heq => hkey (heq ▸ hk)

/-! ## Values of pieces -/

/-- An entry of a map that was made without a fault. -/
structure EntryOutcome.Makes (o : EntryOutcome) (e : Value × Value) : Prop where
  key : o.key.Makes e.1
  value : o.value.Makes e.2
  keyFault : o.keyFault = none

/-- The tree of a piece has the piece as it is read as its value. -/
def Piece.Composes : Piece → Prop
  | .value v => (valueNode v).outcome.Makes (reread v).toValue
  | .entries es => ∃ own, mergedEntries (entryNodes es) = some ([], own) ∧
      List.Forall₂ EntryOutcome.Makes own (Json.toEntries (rereadEntries es))
  | .items vs =>
      List.Forall₂ Outcome.Makes (itemOutcomes (itemNodes vs)) (Json.toValues (rereadItems vs))

theorem makes_text (s : List Char) :
    (Node.scalar .str s).outcome.Makes (.text (String.ofList s)) := by
  rw [Node.outcome]
  exact Outcome.makes_ofScalar _

theorem makes_bool (b : Bool) : (Node.scalar .bool (truthWord b)).outcome.Makes (.bool b) := by
  rw [Node.outcome]
  cases b <;> exact Outcome.makes_ofScalar _

theorem entriesFault_eq_none {own : List EntryOutcome} {entries : List (Value × Value)}
    (h : List.Forall₂ EntryOutcome.Makes own entries) : entriesFault own = none := by
  induction h with
  | nil => rfl
  | cons ho _ ih =>
      rw [entriesFault, ho.key.own, ho.keyFault, ho.value.own, ih]
      rfl

theorem foldl_putEntry_eq {own : List EntryOutcome} {entries : List (Value × Value)}
    (h : List.Forall₂ EntryOutcome.Makes own entries) (m : List (Value × Value)) :
    own.foldl (fun m e => Value.putEntry e.key.value e.value.value m) m =
      entries.foldl (fun m e => Value.putEntry e.1 e.2 m) m := by
  induction h generalizing m with
  | nil => rfl
  | cons ho _ ih => rw [List.foldl_cons, List.foldl_cons, ho.key.value, ho.value.value, ih]

/-- Entries without faults make a map with them, if their keys are distinct texts. -/
theorem makes_mapOf {own : List EntryOutcome} {entries : List (String × Json)}
    (hnodup : (entries.map Prod.fst).Nodup)
    (h : List.Forall₂ EntryOutcome.Makes own (Json.toEntries entries)) :
    (mapOf own).Makes (.map (Json.toEntries entries)) := by
  have hparts : List.Forall₂ Outcome.Makes (own.map EntryOutcome.value)
      ((Json.toEntries entries).map Prod.snd) :=
    List.forall₂_map_left_iff.2 (List.forall₂_map_right_iff.2 (h.imp fun _ _ h => h.value))
  rw [mapOf, entriesFault_eq_none h, foldl_putEntry_eq h,
    foldl_putEntry [] hnodup (List.forall_mem_nil _), List.nil_append]
  exact Outcome.makes_ofParts _ hparts

theorem makes_object {entries : List (String × Json)} (hnodup : (entries.map Prod.fst).Nodup)
    (h : (Piece.entries entries).Composes) :
    (valueNode (.object entries)).outcome.Makes (reread (.object entries)).toValue := by
  obtain ⟨own, hown, hmakes⟩ := h
  rw [valueNode, Node.outcome, hown, reread, Json.toValue]
  exact makes_mapOf (keys_rereadEntries entries ▸ hnodup) hmakes

theorem mergedEntries_nil : mergedEntries [] = some ([], []) := by with_unfolding_all rfl

/-- An entry under a text is one of the mapping's own. -/
theorem mergedEntries_text (key : List Char) (value : Node) (rest : List (Node × Node)) :
    mergedEntries ((.scalar .str key, value) :: rest) =
      match mergedEntries rest with
      | none => none
      | some (merged, own) =>
        some (merged, ⟨(Node.scalar .str key).outcome, value.outcome, none⟩ :: own) := by
  with_unfolding_all rfl

/-- The tree of a block has the block as it is read as its value. -/
theorem Block.composes {n : Nat} {piece : Piece} (h : Block n piece) : piece.Composes := by
  induction h with
  | text s _ => exact makes_text _
  | bool b _ => exact makes_bool b
  | object _ hnodup _ ih => exact makes_object hnodup ih
  | @array n vs _ _ ih =>
      rw [Piece.Composes, valueNode, Node.outcome, reread, Json.toValue]
      exact Outcome.makes_list ih
  | noEntries => exact ⟨[], mergedEntries_nil, .nil⟩
  | @entry n key v es hkey _ _ ih ih' =>
      obtain ⟨own, hown, hmakes⟩ := ih'
      refine ⟨⟨(Node.scalar .str key.toList).outcome, (valueNode v).outcome, none⟩ :: own, ?_, ?_⟩
      · rw [entryNodes, mergedEntries_text, hown]
      · rw [rereadEntries, Json.toEntries]
        refine .cons ⟨?_, ih, rfl⟩ hmakes
        simpa using makes_text key.toList
  | noItems => exact .nil
  | item _ hnodup _ _ ih ih' =>
      rw [Piece.Composes, itemNodes, itemOutcomes, rereadItems, Json.toValues]
      exact .cons (makes_object hnodup ih) ih'

end RoleGrants.Yaml
