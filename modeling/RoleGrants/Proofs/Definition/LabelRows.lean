import Mathlib.Data.List.Dedup
import Mathlib.Data.List.Induction
import RoleGrants.Proofs.Definition.Loading

/-!
# Tables of labels and their files

A file of namespace labels is a mapping, each entry of which is a row: a name and labels, all of
them written as text.  Two rows whose names have one text are one row of the table then, and two
labels of a row whose keys have one text are one label.  `merged` says what becomes of them: the
place is that of the first, the rest is that of the last.

`table_loaded` says which documents are tables, what is in these and when nothing was merged.
-/

namespace RoleGrants

open RoleGrants.Schema

/-! ## Rows under one name -/

section

variable {α : Type}

/-- Puts something under a name.  A name that is there keeps its place. -/
def putUnder (name : String) (x : α) : List (String × α) → List (String × α)
  | [] => [(name, x)]
  | r :: rest => if r.1 = name then (name, x) :: rest else r :: putUnder name x rest

theorem putText_eq_putUnder (key value : String) (m : List (String × String)) :
    putText key value m = putUnder key value m := by
  induction m with
  | nil => rfl
  | cons e rest ih =>
    rw [putText, putUnder, ih]
    split
    case isTrue h => rw [h]
    case isFalse => rfl

theorem LabelTable.put_eq_putUnder (name : String) (labels : List (String × String))
    (table : LabelTable) : table.put name labels = putUnder name labels table := by
  induction table with
  | nil => rfl
  | cons r rest ih =>
    rw [LabelTable.put, putUnder, ih]
    split
    case isTrue h => rw [h]
    case isFalse => rfl

theorem putUnder_new {name : String} {rows : List (String × α)} (h : name ∉ rows.map Prod.fst)
    (x : α) : putUnder name x rows = rows ++ [(name, x)] := by
  induction rows with
  | nil => rfl
  | cons r rest ih =>
    rw [List.map_cons, List.mem_cons, not_or] at h
    rw [putUnder, if_neg (Ne.symm h.1), ih h.2, List.cons_append]

/-- The last of the rows with a name. -/
def lastRow? (rows : List (String × α)) (name : String) : Option (String × α) :=
  rows.reverse.find? (·.1 == name)

/-- Each name of some rows once, in the order in which they come first. -/
def distinctNames (rows : List (String × α)) : List String :=
  (rows.map Prod.fst).reverse.dedup.reverse

/-- Rows with each name once: in the place of its first row, and with what its last row has. -/
def merged (rows : List (String × α)) : List (String × α) :=
  (distinctNames rows).filterMap (lastRow? rows)

theorem lastRow?_concat (rows : List (String × α)) (r : String × α) (name : String) :
    lastRow? (rows ++ [r]) name = if name = r.1 then some r else lastRow? rows name := by
  rw [lastRow?, List.reverse_concat, List.find?_cons]
  by_cases h : name = r.1
  · rw [if_pos h, h, beq_self_eq_true]
  · rw [if_neg h, beq_false_of_ne (Ne.symm h)]
    rfl

theorem mem_distinctNames {rows : List (String × α)} {name : String} :
    name ∈ distinctNames rows ↔ name ∈ rows.map Prod.fst := by
  simp only [distinctNames, List.mem_reverse, List.mem_dedup]

theorem nodup_distinctNames (rows : List (String × α)) : (distinctNames rows).Nodup :=
  List.nodup_reverse.mpr (List.nodup_dedup _)

theorem distinctNames_concat (rows : List (String × α)) (r : String × α) :
    distinctNames (rows ++ [r]) =
      if r.1 ∈ distinctNames rows then distinctNames rows else distinctNames rows ++ [r.1] := by
  have hnames : distinctNames (rows ++ [r]) =
      (r.1 :: (rows.map Prod.fst).reverse).dedup.reverse := by
    rw [distinctNames, List.map_append, List.map_singleton, List.reverse_concat]
  rw [hnames]
  by_cases h : r.1 ∈ (rows.map Prod.fst).reverse
  · rw [List.dedup_cons_of_mem h, if_pos (mem_distinctNames.mpr (List.mem_reverse.mp h))]
    rfl
  · rw [List.dedup_cons_of_notMem h,
      if_neg fun hmem => h (List.mem_reverse.mpr (mem_distinctNames.mp hmem)), List.reverse_cons]
    rfl

/-- Each name has a last row. -/
theorem exists_lastRow? {rows : List (String × α)} {name : String}
    (h : name ∈ distinctNames rows) : ∃ r ∈ rows, r.1 = name ∧ lastRow? rows name = some r := by
  obtain ⟨r, hr, hname⟩ := List.mem_map.mp (mem_distinctNames.mp h)
  cases hfind : lastRow? rows name with
  | none =>
    have := List.find?_eq_none.mp hfind r (List.mem_reverse.mpr hr)
    simp [hname] at this
  | some last =>
    have hlast := List.mem_of_find?_eq_some hfind
    exact ⟨last, List.mem_reverse.mp hlast, by simpa using List.find?_some hfind, rfl⟩

/-- Putting a row among others, with one that is found for each name. -/
theorem putUnder_filterMap {names : List String} (nodup : names.Nodup)
    {find find' : String → Option (String × α)}
    (named : ∀ n ∈ names, ∃ r, r.1 = n ∧ find n = some r) {name : String} {x : α}
    (hfind' : ∀ n, find' n = if n = name then some (name, x) else find n) :
    putUnder name x (names.filterMap find) =
      (if name ∈ names then names else names ++ [name]).filterMap find' := by
  induction names with
  | nil => simp [putUnder, hfind']
  | cons n rest ih =>
    obtain ⟨⟨r, rfl, hfind⟩, hrest⟩ := List.forall_mem_cons.mp named
    obtain ⟨hfresh, hnodup⟩ := List.nodup_cons.mp nodup
    rw [List.filterMap_cons_some hfind, putUnder]
    by_cases h : r.1 = name
    · have hhead : find' r.1 = some (name, x) := by rw [hfind', if_pos h]
      have hkept : rest.filterMap find = rest.filterMap find' := by
        refine List.filterMap_congr fun n hn => ?_
        rw [hfind', if_neg (h ▸ ne_of_mem_of_not_mem hn hfresh)]
      rw [if_pos h, if_pos (h ▸ List.mem_cons_self), hkept, List.filterMap_cons_some hhead]
    · have hhead : find' r.1 = some r := by rw [hfind', if_neg h, hfind]
      have hmem : name ∈ r.1 :: rest ↔ name ∈ rest := by simp [Ne.symm h]
      rw [if_neg h, ih hnodup hrest, ← List.filterMap_cons_some hhead]
      simp only [hmem]
      split <;> rfl

theorem merged_concat (rows : List (String × α)) (r : String × α) :
    merged (rows ++ [r]) = putUnder r.1 r.2 (merged rows) := by
  have named : ∀ n ∈ distinctNames rows, ∃ last, last.1 = n ∧ lastRow? rows n = some last := by
    intro n hn
    obtain ⟨last, -, hlast⟩ := exists_lastRow? hn
    exact ⟨last, hlast⟩
  rw [merged, merged, putUnder_filterMap (nodup_distinctNames rows) named (lastRow?_concat rows r),
    distinctNames_concat]

/-- Putting rows one after the other merges them. -/
theorem foldl_putUnder (rows : List (String × α)) :
    rows.foldl (fun table r => putUnder r.1 r.2 table) [] = merged rows := by
  -- The row that decides what is under its name is the last one, so the induction is from the end.
  induction rows using List.reverseRecOn with
  | nil => rfl
  | append_singleton rows r ih =>
    rw [List.foldl_append, ih, merged_concat]
    rfl

theorem names_merged (rows : List (String × α)) :
    (merged rows).map Prod.fst = distinctNames rows := by
  rw [merged, List.map_filterMap]
  refine (List.filterMap_congr fun n hn => ?_).trans List.filterMap_some
  obtain ⟨last, -, hname, hlast⟩ := exists_lastRow? hn
  rw [hlast, Option.map_some, hname]

/-- Merging drops rows if there are two with one name, and then only. -/
theorem merged_eq_self_iff {rows : List (String × α)} :
    merged rows = rows ↔ (rows.map Prod.fst).Nodup := by
  constructor
  · intro h
    rw [← h, names_merged]
    exact nodup_distinctNames rows
  · intro h
    induction rows using List.reverseRecOn with
    | nil => rfl
    | append_singleton rows r ih =>
      obtain ⟨hrows, hfresh⟩ : (rows.map Prod.fst).Nodup ∧ r.1 ∉ rows.map Prod.fst := by
        rw [List.map_append, List.map_singleton, ← List.concat_eq_append, List.nodup_concat] at h
        exact ⟨h.2, h.1⟩
      rw [merged_concat, ih hrows, putUnder_new hfresh]

end

/-! ## Rows of a document -/

namespace Value

/-- A value is taken for labels: a mapping is, and so is all that counts as absent, such as false,
zero and an empty list. -/
def GivesLabels (v : Value) : Prop :=
  v.isBlank = true ∨ ∃ labels, v.entries? = some labels

/-- The entries of a mapping as text.  Any other value has none. -/
def textRows (v : Value) : List (String × String) :=
  (v.entries?.getD []).map fun l => (l.1.plain, l.2.plain)

/-- The namespaces of a document with their labels, all of it as text. -/
def tableRows (v : Value) : List (String × List (String × String)) :=
  (v.entries?.getD []).map fun x => (x.1.plain, x.2.textRows)

theorem textRows_of_isBlank {v : Value} (h : v.isBlank = true) : v.textRows = [] := by
  cases v with
  | map entries =>
    obtain rfl : entries = [] := List.isEmpty_iff.mp h
    rfl
  | _ => rfl

theorem textRows_of_entries {v : Value} {labels : List (Value × Value)}
    (h : v.entries? = some labels) : v.textRows = labels.map fun l => (l.1.plain, l.2.plain) := by
  rw [textRows, h, Option.getD_some]

end Value

namespace LabelTable

theorem labelsOf_eq_merged (entries : List (Value × Value)) :
    labelsOf entries = merged (entries.map fun l => (l.1.plain, l.2.plain)) := by
  rw [← foldl_putUnder, List.foldl_map, labelsOf]
  simp only [putText_eq_putUnder]

/-- An entry is taken for a row. -/
def MakesRow (x : Value × Value) : Prop :=
  x.2.GivesLabels ∧ ¬ Overlong x

/-- The row that an entry makes. -/
def rowOf (x : Value × Value) : String × List (String × String) :=
  (x.1.plain, merged x.2.textRows)

theorem MakesRow.row_eq {x : Value × Value} (h : MakesRow x) (source : String) :
    row source x = .ok (rowOf x) := by
  obtain ⟨hlabels, hwritable⟩ := h
  obtain ⟨hname, hmapping⟩ := not_or.mp hwritable
  rw [Bool.not_eq_false] at hname
  unfold row labelsOfValue rowOf
  rw [hname]
  cases hblank : x.2.isBlank with
  | true =>
    rw [Value.textRows_of_isBlank hblank]
    rfl
  | false =>
    obtain ⟨labels, hentries⟩ := hlabels.resolve_left (by simp [hblank])
    have hall : Value.entriesWritable labels = true := by
      rw [← Bool.not_eq_false]
      exact fun hlong => hmapping ⟨hblank, labels, hentries, hlong⟩
    simp [hentries, hall, Value.textRows_of_entries hentries, labelsOf_eq_merged, Except.map]

/-- An entry that makes no row, and why. -/
inductive NoRow (source : String) (x : Value × Value) : LoadError → Prop
  /-- The labels are no mapping. -/
  | notLabels (writable : x.1.isWritable = true) (labels : ¬ x.2.GivesLabels) :
      NoRow source x (.document source (.notLabels x.1.plain))
  | overlong (long : Overlong x) : NoRow source x (.scalar .unwritableInteger)

theorem NoRow.row_eq {source : String} {x : Value × Value} {e : LoadError} (h : NoRow source x e) :
    row source x = .error e := by
  cases h with
  | overlong long => exact long.row_eq source
  | notLabels writable labels =>
    obtain ⟨hblank, hentries⟩ := not_or.mp labels
    rw [Bool.not_eq_true] at hblank
    rw [not_exists, ← Option.eq_none_iff_forall_ne_some] at hentries
    simp [row, labelsOfValue, writable, hblank, hentries, Except.map]

theorem makesRow_or_noRow (source : String) (x : Value × Value) :
    MakesRow x ∨ ∃ e, NoRow source x e := by
  by_cases hlong : Overlong x
  · exact .inr ⟨_, .overlong hlong⟩
  · by_cases hlabels : x.2.GivesLabels
    · exact .inl ⟨hlabels, hlong⟩
    · have writable : x.1.isWritable = true := by
        rw [← Bool.not_eq_false]
        exact fun h => hlong (.inl h)
      exact .inr ⟨_, .notLabels writable hlabels⟩

theorem NoRow.not_makesRow {source : String} {x : Value × Value} {e : LoadError}
    (h : NoRow source x e) : ¬ MakesRow x :=
  fun makes => nomatch (makes.row_eq source).symm.trans h.row_eq

theorem row_eq_ok_iff {source : String} {x : Value × Value}
    {made : String × List (String × String)} :
    row source x = .ok made ↔ MakesRow x ∧ made = rowOf x := by
  constructor
  · intro h
    obtain makes | ⟨e, hno⟩ := makesRow_or_noRow source x
    · rw [makes.row_eq] at h
      exact ⟨makes, (Except.ok.inj h).symm⟩
    · rw [hno.row_eq] at h
      cases h
  · rintro ⟨makes, rfl⟩
    exact makes.row_eq source

theorem row_eq_error_iff {source : String} {x : Value × Value} {e : LoadError} :
    row source x = .error e ↔ NoRow source x e := by
  refine ⟨fun h => ?_, NoRow.row_eq⟩
  obtain makes | ⟨e', hno⟩ := makesRow_or_noRow source x
  · rw [makes.row_eq] at h
    cases h
  · rw [hno.row_eq] at h
    exact Except.error.inj h ▸ hno

/-- Rows are put into a table as they come. -/
theorem ofEntries_eq_ok_iff {source : String} {entries : List (Value × Value)}
    {table filled : LabelTable} :
    ofEntries source table entries = .ok filled ↔
      (∀ x ∈ entries, MakesRow x) ∧
        filled = (entries.map rowOf).foldl (fun table r => putUnder r.1 r.2 table) table := by
  induction entries generalizing table with
  | nil => simp [ofEntries, eq_comm]
  | cons x rest ih =>
    rw [ofEntries_cons, List.forall_mem_cons, List.map_cons, List.foldl_cons]
    obtain makes | ⟨e, hno⟩ := makesRow_or_noRow source x
    · rw [makes.row_eq, ← put_eq_putUnder]
      exact ih.trans (and_congr_left' (and_iff_right makes).symm)
    · rw [hno.row_eq]
      exact iff_of_false (by simp [Except.bind]) fun h => hno.not_makesRow h.1.1

end LabelTable

/-- A document is a table: nothing, or a mapping all of whose entries make rows. -/
def Value.IsTable (v : Value) : Prop :=
  v = .null ∨ ∃ entries, v.entries? = some entries ∧ ∀ x ∈ entries, LabelTable.MakesRow x

/-- The table that a document is, if it is one. -/
def Value.table (v : Value) : LabelTable :=
  merged (v.tableRows.map fun r => (r.1, merged r.2))

namespace LabelTable

/-- A document that is no table, and the error for it. -/
inductive NoTable (source : String) (v : Value) : LoadError → Prop
  | notTable (something : v ≠ .null) (shape : v.entries? = none) :
      NoTable source v (.document source .notLabelTable)
  /-- An entry makes no row, and those in front of it do. -/
  | entry {before after : List (Value × Value)} {x : Value × Value} {e : LoadError}
      (entries : v.entries? = some (before ++ x :: after)) (first : ∀ b ∈ before, MakesRow b)
      (refused : NoRow source x e) : NoTable source v e

theorem table_of_entries {v : Value} {entries : List (Value × Value)}
    (h : v.entries? = some entries) : v.table = merged (entries.map rowOf) := by
  rw [Value.table, Value.tableRows, h, Option.getD_some, List.map_map]
  rfl

theorem ofValue_of_noEntries {v : Value} (something : v ≠ .null) (shape : v.entries? = none)
    (source : String) : ofValue source v = .error (.document source .notLabelTable) := by
  cases v with
  | null => exact absurd rfl something
  | map entries => cases shape
  | _ => rfl

theorem ofValue_eq_ok_iff {source : String} {v : Value} {table : LabelTable} :
    ofValue source v = .ok table ↔ v.IsTable ∧ table = v.table := by
  cases hentries : v.entries? with
  | some entries =>
    have hnull : v ≠ .null := by
      rintro rfl
      cases hentries
    have hshape : v.IsTable ↔ ∀ x ∈ entries, MakesRow x := by
      simp [Value.IsTable, hnull, hentries]
    rw [ofValue_of_entries hentries, ofEntries_eq_ok_iff, foldl_putUnder, hshape,
      table_of_entries hentries]
  | none =>
    by_cases hnull : v = .null
    · subst hnull
      exact ⟨fun h => ⟨.inl rfl, (Except.ok.inj h).symm⟩, fun h => congrArg Except.ok h.2.symm⟩
    · rw [ofValue_of_noEntries hnull hentries]
      simp [Value.IsTable, hnull, hentries]

theorem ofValue_eq_error_iff {source : String} {v : Value} {e : LoadError} :
    ofValue source v = .error e ↔ NoTable source v e := by
  constructor
  · intro h
    cases hentries : v.entries? with
    | some entries =>
      rw [ofValue_of_entries hentries] at h
      obtain ⟨before, x, after, rfl, hbefore, hx⟩ := ofEntries_eq_error_iff.mp h
      refine .entry hentries (fun b hb => ?_) (row_eq_error_iff.mp hx)
      obtain ⟨made, hmade⟩ := hbefore b hb
      exact (row_eq_ok_iff.mp hmade).1
    | none =>
      by_cases hnull : v = .null
      · subst hnull
        cases h
      · rw [ofValue_of_noEntries hnull hentries] at h
        cases h
        exact .notTable hnull hentries
  · intro h
    cases h with
    | notTable something shape => exact ofValue_of_noEntries something shape source
    | @entry before after x _ entries first refused =>
      have made : ∀ b ∈ before, ∃ made, row source b = .ok made :=
        fun b hb => ⟨_, (first b hb).row_eq source⟩
      rw [ofValue_of_entries entries]
      exact ofEntries_eq_error_iff.mpr ⟨before, x, after, rfl, made, refused.row_eq⟩

end LabelTable

/-- Merging changes nothing in a table if no two namespaces of the document have one text, and no
two labels of one of them. -/
theorem Value.table_eq_tableRows_iff {v : Value} :
    v.table = v.tableRows ↔
      (v.tableRows.map Prod.fst).Nodup ∧ ∀ r ∈ v.tableRows, (r.2.map Prod.fst).Nodup := by
  have hnames : (v.tableRows.map fun r => (r.1, merged r.2)).map Prod.fst =
      v.tableRows.map Prod.fst := by
    rw [List.map_map]
    rfl
  have hrows : (v.tableRows.map fun r => (r.1, merged r.2)) = v.tableRows ↔
      ∀ r ∈ v.tableRows, (r.2.map Prod.fst).Nodup := by
    have hsame : (v.tableRows.map fun r => (r.1, merged r.2)) = v.tableRows ↔
        ∀ r ∈ v.tableRows, (r.1, merged r.2) = r := by
      simpa only [List.map_id, id_eq] using
        List.map_inj_left (f := fun r => (r.1, merged r.2)) (g := id) (l := v.tableRows)
    rw [hsame]
    refine forall₂_congr fun r _ => ?_
    rw [← merged_eq_self_iff]
    exact ⟨congrArg Prod.snd, fun h => Prod.ext rfl h⟩
  rw [table]
  constructor
  · intro h
    have hnodup : (v.tableRows.map Prod.fst).Nodup := by
      rw [← h, names_merged]
      exact nodup_distinctNames _
    rw [merged_eq_self_iff.mpr (hnames ▸ hnodup)] at h
    exact ⟨hnodup, hrows.mp h⟩
  · rintro ⟨hnodup, hlabels⟩
    rw [merged_eq_self_iff.mpr (hnames ▸ hnodup), hrows.mpr hlabels]

/-- A document in a file is loaded as a table if it is nothing or a mapping whose entries make rows,
and then the rows are merged where their texts are the same; otherwise it is said what is wrong with
it.  The table has each namespace and each label of the document just if no texts are the same. -/
theorem table_loaded {loader : Yaml.Loader} {t : FileTree} {p : Path} {v : Value}
    (document : t.readDocument loader p = .ok v) :
    (∀ table, LabelTable.load loader t p = .ok table ↔ v.IsTable ∧ table = v.table) ∧
    (∀ e, LabelTable.load loader t p = .error e ↔ LabelTable.NoTable p.text v e) ∧
    (v.table = v.tableRows ↔
      (v.tableRows.map Prod.fst).Nodup ∧ ∀ r ∈ v.tableRows, (r.2.map Prod.fst).Nodup) := by
  have hload : LabelTable.load loader t p = LabelTable.ofValue p.text v := by
    rw [LabelTable.load, document]
    rfl
  rw [hload]
  exact ⟨fun _ => LabelTable.ofValue_eq_ok_iff, fun _ => LabelTable.ofValue_eq_error_iff,
    Value.table_eq_tableRows_iff⟩

/-- A folder with a file of labels. -/
def labelsFile (content : String) : FileTree :=
  (FileTree.empty ["work"]).add ⟨0, ["namespaces.yaml"]⟩ (.text content)

/-- Where that file is. -/
def labelsPath : Path := ⟨0, ["namespaces.yaml"]⟩

/-- Labels of the number one, and others of its text. -/
def numberedFile : FileTree :=
  labelsFile "1: \x7btier: web\x7d\nlab:\n'1': \x7benv: qa\x7d\n"

/-- The number one and its text are one namespace, and the labels of the number are lost. -/
theorem numbered_table_loaded :
    ∃ v, numberedFile.readDocument Yaml.load labelsPath = .ok v ∧
      v.tableRows = [("1", [("tier", "web")]), ("lab", []), ("1", [("env", "qa")])] ∧
      v.IsTable ∧ v.table = [("1", [("env", "qa")]), ("lab", [])] ∧ v.table ≠ v.tableRows := by
  have rows : (numberedFile.readDocument Yaml.load labelsPath).map Value.tableRows =
      .ok [("1", [("tier", "web")]), ("lab", []), ("1", [("env", "qa")])] := by
    decide +kernel
  cases document : numberedFile.readDocument Yaml.load labelsPath with
  | error e =>
    rw [document] at rows
    cases rows
  | ok v =>
    rw [document] at rows
    obtain ⟨loads, -, faithful⟩ := table_loaded document
    obtain ⟨shape, htable⟩ := (loads [("1", [("env", "qa")]), ("lab", [])]).mp (by decide +kernel)
    refine ⟨v, rfl, Except.ok.inj rows, shape, htable.symm, fun h => ?_⟩
    have distinct := (faithful.mp h).1
    rw [Except.ok.inj rows] at distinct
    revert distinct
    decide

/-- An empty list is taken for labels, although it is neither nothing nor a mapping. -/
theorem listed_labels_loaded :
    (labelsFile "team-a: []\n").readDocument Yaml.load labelsPath =
        .ok (.map [(.text "team-a", .list [])]) ∧
      LabelTable.load Yaml.load (labelsFile "team-a: []\n") labelsPath = .ok [("team-a", [])] ∧
      Value.list [] ≠ .null ∧ (Value.list []).entries? = none :=
  ⟨rfl, rfl, nofun, rfl⟩

end RoleGrants
