import Mathlib.Data.List.Nodup
import RoleGrants.Directory.Static

/-!
# Selecting from a table

Labels satisfy a selector if they satisfy each of its labels and requirements. The order of these
does not matter then, and a selector that has those of two others lists what both of them list
(`LabelTable.list_of_joins`).

A requirement and its opposite, which asks for a label to be absent or to have another value, share
the namespaces of a table out between them (`LabelTable.shares_of_opposite`).
-/

namespace RoleGrants

open RoleGrants.Schema

variable {s t c : Selector} {labels : Labels}

/-! ## Selectors with the parts of two others -/

/-- No label is given two values. -/
def GivesOneValue (labels : List (String × String)) : Prop :=
  ∀ l ∈ labels, ∀ m ∈ labels, l.1 = m.1 → l.2 = m.2

instance (labels : List (String × String)) : Decidable (GivesOneValue labels) :=
  inferInstanceAs (Decidable (∀ l ∈ labels, ∀ m ∈ labels, l.1 = m.1 → l.2 = m.2))

namespace Selector

/-- A selector asks for just what two others ask for. Nothing is said of the order. -/
structure Joins (c s t : Selector) : Prop where
  labels : ∀ l, l ∈ c.labels ↔ l ∈ s.labels ∨ l ∈ t.labels
  requirements : ∀ r, r ∈ c.requirements ↔ r ∈ s.requirements ∨ r ∈ t.requirements

/-- The labels and requirements of one selector, and then those of another. -/
def joined (s t : Selector) : Selector where
  matchLabels := some (t.labels.foldl (fun m l => putText l.1 l.2 m) s.labels)
  matchExpressions := some (s.requirements ++ t.requirements)

/-- The selector with a single requirement. -/
def single (r : Requirement) : Selector := ⟨none, some [r]⟩

end Selector

/-- A label is put among others that do not give it another value. -/
theorem mem_putText {key value : String} {m : List (String × String)}
    (h : ∀ l ∈ m, l.1 = key → l.2 = value) (l : String × String) :
    l ∈ putText key value m ↔ l ∈ m ∨ l = (key, value) := by
  induction m with
  | nil => simp [putText]
  | cons e rest ih =>
    obtain ⟨hfirst, hrest⟩ := List.forall_mem_cons.mp h
    rw [putText]
    by_cases hkey : e.1 = key
    · have he : e = (key, value) := Prod.ext hkey (hfirst hkey)
      rw [if_pos hkey, he, List.mem_cons]
      tauto
    · rw [if_neg hkey, List.mem_cons, List.mem_cons, ih hrest, or_assoc]

theorem mem_foldl_putText {pairs m : List (String × String)} (h : GivesOneValue (m ++ pairs))
    (l : String × String) :
    l ∈ pairs.foldl (fun m p => putText p.1 p.2 m) m ↔ l ∈ m ∨ l ∈ pairs := by
  induction pairs generalizing m with
  | nil => simp
  | cons p rest ih =>
    have hagree : ∀ l ∈ m, l.1 = p.1 → l.2 = p.2 := fun l hl => h l (by simp [hl]) p (by simp)
    have hput := mem_putText hagree
    have hmore : GivesOneValue (putText p.1 p.2 m ++ rest) := by
      have hsub : ∀ l ∈ putText p.1 p.2 m ++ rest, l ∈ m ++ p :: rest := by
        intro l hl
        rw [List.mem_append, hput] at hl
        simp only [List.mem_append, List.mem_cons]
        tauto
      exact fun a ha b hb => h a (hsub a ha) b (hsub b hb)
    rw [List.foldl_cons, ih hmore, hput, List.mem_cons, or_assoc]

namespace Selector

theorem joins_joined (h : GivesOneValue (s.labels ++ t.labels)) : (s.joined t).Joins s t :=
  ⟨mem_foldl_putText h, fun _ => List.mem_append⟩

theorem holds_iff (s : Selector) (labels : Labels) :
    s.holds labels = true ↔
      (∀ l ∈ s.labels, labels.get? l.1 = some l.2) ∧ ∀ r ∈ s.requirements, r.holds labels := by
  simp [holds]

/-- Labels satisfy what two selectors ask for if they satisfy both. -/
theorem Joins.holds_eq (h : c.Joins s t) (labels : Labels) :
    c.holds labels = (s.holds labels && t.holds labels) := by
  have hlabels : (∀ l ∈ c.labels, labels.get? l.1 = some l.2) ↔
      (∀ l ∈ s.labels, labels.get? l.1 = some l.2) ∧
        ∀ l ∈ t.labels, labels.get? l.1 = some l.2 := by
    simp only [h.labels, or_imp, forall_and]
  have hrequirements : (∀ r ∈ c.requirements, r.holds labels) ↔
      (∀ r ∈ s.requirements, r.holds labels) ∧ ∀ r ∈ t.requirements, r.holds labels := by
    simp only [h.requirements, or_imp, forall_and]
  rw [Bool.eq_iff_iff, Bool.and_eq_true, holds_iff, holds_iff, holds_iff, hlabels, hrequirements]
  exact and_and_and_comm

@[simp] theorem single_holds (r : Requirement) (labels : Labels) :
    (single r).holds labels = r.holds labels := by
  simp [holds, single, Selector.labels, requirements]

end Selector

/-! ## Requirements on one label -/

namespace Requirement

variable {key : String} {values others : List String}

theorem isNotIn_holds (labels : Labels) :
    holds ⟨key, .isNotIn, values⟩ labels = !holds ⟨key, .isIn, values⟩ labels := by
  unfold holds
  cases labels.get? key <;> rfl

theorem isAbsent_holds (labels : Labels) :
    holds ⟨key, .isAbsent, others⟩ labels = !holds ⟨key, .isPresent, others⟩ labels := by
  unfold holds
  cases labels.get? key <;> rfl

/-- A label that has one of some values is there. -/
theorem isPresent_of_isIn (h : holds ⟨key, .isIn, values⟩ labels = true) :
    holds ⟨key, .isPresent, others⟩ labels = true := by
  unfold holds at h ⊢
  cases hvalue : labels.get? key with
  | none => simp [hvalue] at h
  | some value => rfl

end Requirement

/-! ## What a table lists -/

/-- Two lists have all of a third one between them, and nothing in common. -/
structure Shares (whole xs ys : List String) : Prop where
  perm : (xs ++ ys).Perm whole
  disjoint : xs.Disjoint ys

namespace LabelTable

variable {table : LabelTable}

/-- A table lists some of its namespaces, in its order. -/
theorem list_sublist (table : LabelTable) (s : Selector) : (table.list s).Sublist table.names :=
  List.filter_sublist.map _

/-- If a selector asks for no more than another, it lists no less. -/
theorem list_sublist_of_imp (h : ∀ labels, s.holds labels = true → t.holds labels = true) :
    (table.list s).Sublist (table.list t) :=
  (List.monotone_filter_right table fun row => h row.2).map _

/-- A namespace is listed if its labels satisfy the selector. -/
theorem mem_list_iff (distinct : table.names.Nodup) {row : String × Labels} (hrow : row ∈ table) :
    row.1 ∈ table.list s ↔ s.holds row.2 = true := by
  constructor
  · intro h
    obtain ⟨other, hother, hname⟩ := List.mem_map.mp h
    obtain ⟨hother, hholds⟩ := List.mem_filter.mp hother
    obtain rfl : other = row := List.inj_on_of_nodup_map distinct hother hrow hname
    exact hholds
  · intro h
    exact List.mem_map_of_mem (List.mem_filter.mpr ⟨hrow, h⟩)

/-- What two selectors ask for is listed by both. -/
theorem list_of_joins (distinct : table.names.Nodup) (h : c.Joins s t) :
    table.list c = table.names.filter fun n => n ∈ table.list s ∧ n ∈ table.list t := by
  have hrows : ∀ row ∈ table, c.holds row.2 =
      decide (row.1 ∈ table.list s ∧ row.1 ∈ table.list t) := by
    intro row hrow
    rw [h.holds_eq, Bool.eq_iff_iff, decide_eq_true_iff, mem_list_iff distinct hrow,
      mem_list_iff distinct hrow, Bool.and_eq_true]
  rw [list, List.filter_congr hrows, names, List.filter_map]
  rfl

theorem shares_of_opposite (distinct : table.names.Nodup)
    (h : ∀ labels, t.holds labels = !s.holds labels) :
    Shares table.names (table.list s) (table.list t) := by
  have hperm : (table.list s ++ table.list t).Perm table.names := by
    unfold list
    rw [← List.map_append, List.filter_congr fun row (_ : row ∈ table) => h row.2]
    exact (List.filter_append_perm _ table).map _
  exact ⟨hperm, List.disjoint_of_nodup_append (hperm.nodup_iff.mpr distinct)⟩

end LabelTable

/-- A table whose namespaces differ answers two selectors jointly: a selector with the labels and
requirements of both, in whatever order, lists the namespaces that both list, in the order of the
table and none of them twice, and there is such a selector if the two give no label two values. One
of two opposite requirements is satisfied by each namespace, and a label that has one of some values
is there. -/
theorem listed_jointly {table : LabelTable} (distinct : table.names.Nodup) :
    (∀ s t : Selector, GivesOneValue (s.labels ++ t.labels) →
      (s.joined t).Joins s t ∧
      ∀ c : Selector, c.Joins s t → ∃ names,
        LabelTable.directory c table = (.names (LabelTable.namesJson names), [], table) ∧
        names = (table.names.filter fun n => n ∈ table.list s ∧ n ∈ table.list t) ∧
        names.Nodup) ∧
    ∀ (key : String) (values others : List String),
      let listed (operator : Operator) (values : List String) : List String :=
        table.list (.single ⟨key, operator, values⟩)
      Shares table.names (listed .isIn values) (listed .isNotIn values) ∧
      Shares table.names (listed .isPresent others) (listed .isAbsent others) ∧
      (listed .isIn values).Sublist (listed .isPresent others) := by
  constructor
  · intro s t agree
    refine ⟨Selector.joins_joined agree, fun c joins => ⟨table.list c, rfl, ?_, ?_⟩⟩
    · exact LabelTable.list_of_joins distinct joins
    · exact distinct.sublist (table.list_sublist c)
  · intro key values others listed
    refine ⟨?_, ?_, ?_⟩
    · exact LabelTable.shares_of_opposite distinct fun labels => by
        simp [Requirement.isNotIn_holds]
    · exact LabelTable.shares_of_opposite distinct fun labels => by
        simp [Requirement.isAbsent_holds]
    · refine LabelTable.list_sublist_of_imp fun labels holds => ?_
      rw [Selector.single_holds] at holds ⊢
      exact Requirement.isPresent_of_isIn holds

/-- Production without what is old. -/
def currentSelector : Selector where
  matchLabels := some [("env", "prod")]
  matchExpressions := some [⟨"legacy", .isAbsent, []⟩]

/-- Production without its databases. -/
def serviceSelector : Selector where
  matchLabels := some [("env", "prod")]
  matchExpressions := some [⟨"tier", .isNotIn, ["db"]⟩]

/-- Both at once, in another order. -/
def currentServiceSelector : Selector where
  matchLabels := some [("env", "prod")]
  matchExpressions := some [⟨"tier", .isNotIn, ["db"]⟩, ⟨"legacy", .isAbsent, []⟩]

/-- Four namespaces. The last one has no tier. -/
def stageTable : LabelTable :=
  [("till", [("env", "prod"), ("legacy", "yes")]), ("store", [("env", "prod"), ("tier", "db")]),
    ("lab", [("env", "test")]), ("shop", [("env", "prod")])]

/-- What has no tier is none of the databases, and has no tier to be of. -/
theorem stageTable_listed_jointly :
    stageTable.names.Nodup ∧
      GivesOneValue (currentSelector.labels ++ serviceSelector.labels) ∧
      currentServiceSelector.Joins currentSelector serviceSelector ∧
      (∃ names, LabelTable.directory currentServiceSelector stageTable =
          (.names (LabelTable.namesJson names), [], stageTable) ∧ names = ["shop"]) ∧
      Shares stageTable.names ["store"] ["till", "lab", "shop"] := by
  have distinct : stageTable.names.Nodup := by decide
  have agree : GivesOneValue (currentSelector.labels ++ serviceSelector.labels) := by decide
  have joins : currentServiceSelector.Joins currentSelector serviceSelector := by
    refine ⟨fun l => ?_, fun r => ?_⟩
    · exact (or_self_iff ..).symm
    · simp [Selector.requirements, currentServiceSelector, currentSelector, serviceSelector,
        or_comm]
  obtain ⟨jointly, shared⟩ := listed_jointly distinct
  obtain ⟨names, hreply, hnames, -⟩ := (jointly _ _ agree).2 _ joins
  exact ⟨distinct, agree, joins, ⟨names, hreply, hnames.trans (by decide)⟩,
    (shared "tier" ["db"] []).1⟩

end RoleGrants
