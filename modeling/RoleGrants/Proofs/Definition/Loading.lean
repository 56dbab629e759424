import RoleGrants.Definition.Load
import RoleGrants.Proofs.Yaml.Faults

/-!
# Errors of loading

What is wrong with a document is reported together with the path of its file.  Other errors are not:
bytes that are no text, all with which a loader fails other than by calling a text malformed and, in
a table of labels, an integer that is too long to be written.  `Definition.escapes_iff` and
`LabelTable.escapes_iff` say that these are all, of files that can be opened, whatever the loader
does.  Where those errors come from with the loader of this library is said by
`Escapes.arises_of_load`.
-/

namespace RoleGrants

open RoleGrants.Text RoleGrants.Yaml

/-- An error about a document, with the path of its file as where it comes from. -/
def LoadError.OfDocument (p : Path) (e : LoadError) : Prop :=
  ∃ problem, e = .document p.text problem

/-- The errors of files that are not about their documents. -/
inductive Escapes (loader : Loader) (t : FileTree) (p : Path) : LoadError → Prop
  /-- The bytes are no text. -/
  | undecodable {bytes : List UInt8} {fault : Utf8Fault} (held : t.read p = .ok (.inr bytes))
      (fails : decodeUtf8 bytes = .error fault) : Escapes loader t p (.undecodable fault)
  /-- The text is read up to a scalar, or an escape in one, that makes no sense. -/
  | scalar {text : List Char} {fault : ScalarFault} (held : t.readText p = .ok text)
      (fails : loader text = .error (.scalar fault)) : Escapes loader t p (.scalar fault)
  /-- The loader gives up on the text. -/
  | abandoned {text : List Char} {message : String} (held : t.readText p = .ok text)
      (fails : loader text = .error (.abandoned message)) :
      Escapes loader t p (.abandoned message)

variable {loader : Loader} {t : FileTree} {p : Path} {content : String ⊕ List UInt8}
  {e : LoadError}

/-! ## Documents -/

/-- The text of a file is not there only because its bytes are none. -/
theorem readText_eq_error (loader : Loader) (readable : t.read p = .ok content)
    (h : t.readText p = .error e) : Escapes loader t p e := by
  unfold FileTree.readText at h
  rw [readable] at h
  cases content with
  | inl text => cases h
  | inr bytes =>
    dsimp only at h
    cases hdecode : decodeUtf8 bytes with
    | ok text =>
      rw [hdecode] at h
      cases h
    | error fault =>
      rw [hdecode] at h
      cases h
      exact .undecodable readable hdecode

theorem readDocument_eq_error (readable : t.read p = .ok content)
    (h : t.readDocument loader p = .error e) : e.OfDocument p ∨ Escapes loader t p e := by
  unfold FileTree.readDocument at h
  cases htext : t.readText p with
  | error e' =>
    rw [htext] at h
    cases h
    exact .inr (readText_eq_error loader readable htext)
  | ok text =>
    rw [htext] at h
    dsimp only at h
    cases hload : loader text with
    | ok v =>
      rw [hload] at h
      cases h
    | error fault =>
      rw [hload] at h
      cases fault with
      | malformed =>
        cases h
        exact .inl ⟨_, rfl⟩
      | scalar fault =>
        cases h
        exact .inr (.scalar htext hload)
      | abandoned message =>
        cases h
        exact .inr (.abandoned htext hload)

namespace Escapes

/-- No error about a document escapes. -/
theorem not_ofDocument (h : Escapes loader t p e) : ¬ e.OfDocument p := by
  rintro ⟨problem, rfl⟩
  cases h

theorem readDocument (h : Escapes loader t p e) : t.readDocument loader p = .error e := by
  unfold FileTree.readDocument
  cases h with
  | @undecodable bytes fault held fails =>
    have htext : t.readText p = .error (.undecodable fault) := by
      unfold FileTree.readText
      rw [held]
      dsimp only
      rw [fails]
    rw [htext]
  | scalar held fails | abandoned held fails =>
    rw [held]
    dsimp only
    rw [fails]

/-- With the loader of this library, the errors besides those of bytes come from single places of
the text. -/
theorem arises_of_load (h : Escapes Yaml.load t p e) :
    (∃ fault, e = .undecodable fault) ∨
      ∃ text fault, t.readText p = .ok text ∧ e = .scalar fault ∧ fault.Arises text := by
  cases h with
  | undecodable => exact .inl ⟨_, rfl⟩
  | scalar held fails =>
    rcases Fault.arises_of_load fails with hmalformed | ⟨fault, hfault, arises⟩
    · cases hmalformed
    · cases hfault
      exact .inr ⟨_, _, held, rfl, arises⟩
  | abandoned held fails =>
    rcases Fault.arises_of_load fails with hmalformed | ⟨fault, hfault, -⟩
    · cases hmalformed
    · cases hfault

end Escapes

/-! ## Definitions -/

theorem Definition.ofValue_eq_error {v : Value} (h : Definition.ofValue p.text v = .error e) :
    e.OfDocument p := by
  unfold ofValue at h
  split at h
  · cases h
    exact ⟨_, rfl⟩
  · split at h
    · cases h
    · cases h
      exact ⟨_, rfl⟩

/-- The errors of definitions that are not about their documents. -/
theorem Definition.escapes_iff (readable : t.read p = .ok content) :
    Definition.load loader t p = .error e ∧ ¬ e.OfDocument p ↔ Escapes loader t p e := by
  constructor
  · rintro ⟨h, elsewhere⟩
    unfold load at h
    cases hdocument : t.readDocument loader p with
    | error e' =>
      rw [hdocument] at h
      cases h
      exact (readDocument_eq_error readable hdocument).resolve_left elsewhere
    | ok v =>
      rw [hdocument] at h
      exact absurd (ofValue_eq_error h) elsewhere
  · intro h
    refine ⟨?_, h.not_ofDocument⟩
    rw [load, h.readDocument]
    rfl

/-! ## Tables of labels -/

namespace LabelTable

/-- The row of an entry in a table. -/
def row (source : String) (x : Value × Value) :
    Except LoadError (String × List (String × String)) :=
  if !x.1.isWritable then .error (.scalar .unwritableInteger)
  else (labelsOfValue source x.1.plain x.2).map (x.1.plain, ·)

theorem ofEntries_cons (source : String) (table : LabelTable) (x : Value × Value)
    (rest : List (Value × Value)) :
    ofEntries source table (x :: rest) =
      (row source x).bind fun made => ofEntries source (table.put made.1 made.2) rest := by
  rw [ofEntries, row]
  cases x.1.isWritable with
  | false => rfl
  | true => cases labelsOfValue source x.1.plain x.2 <;> rfl

/-- Entries that make rows are in the table when those behind them are read. -/
theorem ofEntries_append {source : String} {before : List (Value × Value)}
    (h : ∀ b ∈ before, ∃ made, row source b = .ok made) (table : LabelTable) :
    ∃ filled, ∀ rest, ofEntries source table (before ++ rest) = ofEntries source filled rest := by
  induction before generalizing table with
  | nil => exact ⟨table, fun _ => rfl⟩
  | cons b more ih =>
    obtain ⟨⟨made, hb⟩, hmore⟩ := List.forall_mem_cons.mp h
    obtain ⟨filled, hfilled⟩ := ih hmore (table.put made.1 made.2)
    refine ⟨filled, fun rest => ?_⟩
    rw [List.cons_append, ofEntries_cons, hb]
    exact hfilled rest

theorem exists_row_eq_error {source : String} {table : LabelTable} {entries : List (Value × Value)}
    (h : ofEntries source table entries = .error e) :
    ∃ before x after, entries = before ++ x :: after ∧
      (∀ b ∈ before, ∃ made, row source b = .ok made) ∧ row source x = .error e := by
  induction entries generalizing table with
  | nil => cases h
  | cons y rest ih =>
    rw [ofEntries_cons] at h
    cases hy : row source y with
    | error e' =>
      rw [hy] at h
      cases h
      exact ⟨[], y, rest, rfl, List.forall_mem_nil _, hy⟩
    | ok made =>
      rw [hy] at h
      obtain ⟨before, x, after, rfl, hbefore, hx⟩ := ih h
      exact ⟨y :: before, x, after, rfl, List.forall_mem_cons.mpr ⟨⟨made, hy⟩, hbefore⟩, hx⟩

/-- A table is read entry by entry, up to the first that makes no row. -/
theorem ofEntries_eq_error_iff {source : String} {table : LabelTable}
    {entries : List (Value × Value)} :
    ofEntries source table entries = .error e ↔
      ∃ before x after, entries = before ++ x :: after ∧
        (∀ b ∈ before, ∃ made, row source b = .ok made) ∧ row source x = .error e := by
  refine ⟨exists_row_eq_error, ?_⟩
  rintro ⟨before, x, after, rfl, hbefore, hx⟩
  obtain ⟨filled, hfilled⟩ := ofEntries_append hbefore table
  rw [hfilled, ofEntries_cons, hx]
  rfl

/-- An entry with an integer that would have to be written and is too long for that: in the name of
the namespace, or in its labels. -/
def Overlong (x : Value × Value) : Prop :=
  x.1.isWritable = false ∨ x.2.isBlank = false ∧
    ∃ labels, x.2.entries? = some labels ∧ Value.entriesWritable labels = false

theorem row_eq_error {x : Value × Value} (h : row p.text x = .error e) :
    e.OfDocument p ∨ e = .scalar .unwritableInteger ∧ Overlong x := by
  unfold row labelsOfValue at h
  cases hname : x.1.isWritable with
  | false =>
    rw [hname] at h
    cases h
    exact .inr ⟨rfl, .inl hname⟩
  | true =>
    cases hblank : x.2.isBlank with
    | true =>
      rw [hname, hblank] at h
      cases h
    | false =>
      cases hlabels : x.2.entries? with
      | none =>
        rw [hname, hblank, hlabels] at h
        cases h
        exact .inl ⟨_, rfl⟩
      | some labels =>
        cases hlong : Value.entriesWritable labels with
        | true =>
          simp only [hname, hblank, hlabels, hlong] at h
          cases h
        | false =>
          simp only [hname, hblank, hlabels, hlong] at h
          cases h
          exact .inr ⟨rfl, .inr ⟨hblank, labels, hlabels, hlong⟩⟩

theorem Overlong.row_eq {x : Value × Value} (h : Overlong x) (source : String) :
    row source x = .error (.scalar .unwritableInteger) := by
  unfold row
  cases hname : x.1.isWritable with
  | false => rfl
  | true =>
    obtain ⟨hblank, labels, hlabels, hlong⟩ := h.resolve_left (by simp [hname])
    simp [labelsOfValue, hblank, hlabels, hlong, Except.map]

/-- The errors of tables that are not about their documents. -/
inductive Escapes (loader : Loader) (t : FileTree) (p : Path) : LoadError → Prop
  /-- An error that a definition in the file would have, too. -/
  | file {e : LoadError} (h : RoleGrants.Escapes loader t p e) : Escapes loader t p e
  /-- An integer cannot be written, in front of all that would be wrong with the table. -/
  | overlong {v : Value} {before after : List (Value × Value)} {x : Value × Value}
      (document : t.readDocument loader p = .ok v)
      (entries : v.entries? = some (before ++ x :: after))
      (first : ∀ b ∈ before, ∃ made, row p.text b = .ok made) (long : Overlong x) :
      Escapes loader t p (.scalar .unwritableInteger)

theorem ofValue_of_entries {v : Value} {entries : List (Value × Value)}
    (h : v.entries? = some entries) (source : String) :
    ofValue source v = ofEntries source [] entries := by
  cases v with
  | map es => simp only [ofValue, h]
  | _ => cases h

theorem ofValue_eq_error {v : Value} (h : ofValue p.text v = .error e) :
    e.OfDocument p ∨ ∃ entries, v.entries? = some entries ∧
      ofEntries p.text [] entries = .error e := by
  cases hentries : v.entries? with
  | some entries => exact .inr ⟨entries, rfl, ofValue_of_entries hentries p.text ▸ h⟩
  | none =>
    unfold ofValue at h
    split at h
    · cases h
    · rw [hentries] at h
      cases h
      exact .inl ⟨_, rfl⟩

theorem escapes_iff (readable : t.read p = .ok content) :
    LabelTable.load loader t p = .error e ∧ ¬ e.OfDocument p ↔ Escapes loader t p e := by
  constructor
  · rintro ⟨h, elsewhere⟩
    unfold load at h
    cases hdocument : t.readDocument loader p with
    | error e' =>
      rw [hdocument] at h
      cases h
      exact .file ((readDocument_eq_error readable hdocument).resolve_left elsewhere)
    | ok v =>
      rw [hdocument] at h
      obtain ⟨entries, hentries, herror⟩ := (ofValue_eq_error h).resolve_left elsewhere
      obtain ⟨before, x, after, rfl, hbefore, hx⟩ := ofEntries_eq_error_iff.mp herror
      obtain ⟨rfl, hlong⟩ := (row_eq_error hx).resolve_left elsewhere
      exact .overlong hdocument hentries hbefore hlong
  · intro h
    cases h with
    | file h =>
      refine ⟨?_, h.not_ofDocument⟩
      rw [load, h.readDocument]
      rfl
    | overlong document entries first long =>
      refine ⟨?_, nofun⟩
      rw [load, document]
      refine (ofValue_of_entries entries p.text).trans ?_
      exact ofEntries_eq_error_iff.mpr ⟨_, _, _, rfl, first, long.row_eq p.text⟩

end LabelTable

end RoleGrants
