import RoleGrants.Definition.Dump
import RoleGrants.Definition.Load
import RoleGrants.Proofs.Definition.Normal
import RoleGrants.Proofs.Schema.NormalRecord

/-!
# Definitions and their documents

The dump of a definition says what was read, all of it and nothing else: it is read as the same
definition again, and for a definition that was read from plain data it is their normal form.

Both are shown for each record, from the inside out, from what the records are put together of.
-/

namespace RoleGrants

open RoleGrants.Schema

/-! ## Requirements -/

theorem operatorWord_of_mem : ∀ c ∈ Operator.words, c.2.word = c.1 := by
  decide

theorem Requirement.rereads : Rereads Requirement.read Requirement.dump := by
  intro v q h
  have hrule := Check.obey_eq_ok h
  obtain ⟨entries, hread⟩ := Fields.of_closed (Check.of_obey h)
  obtain ⟨key, operator, values, hkey, hoperator, hvalues, rfl⟩ :=
    Fields.three_eq_ok_iff.1 hread
  refine Check.obey_of_eq_ok (Fields.closed_eq_ok rfl (Fields.three_eq_ok_iff.2
    ⟨_, _, _, ?_, ?_, ?_, rfl⟩)) hrule
  · exact Fields.required_rereads nonEmptyText_rereads hkey rfl
  · exact Fields.required_rereads (oneOf_rereads operatorWord_of_mem) hoperator rfl
  · exact Fields.withDefault_rereads (listOf_rereads text_rereads) rfl hvalues rfl

theorem Requirement.normalizes : Normalizes Requirement.read Requirement.dump normal := by
  intro j q hkeys h
  obtain ⟨entries, htidy, hread, hnormal⟩ :=
    normalRecord_of_closed normalFields rfl (by decide) hkeys (Check.of_obey h)
  obtain ⟨key, operator, values, hkey, hoperator, hvalues, rfl⟩ :=
    Fields.three_eq_ok_iff.1 hread
  have htaken := htidy.required nonEmptyText_normalizes hkey fun htidy =>
    htidy.required (oneOf_normalizes operatorWord_of_mem) hoperator fun htidy =>
    htidy.withDefault (listOf_normalizes_id text_normalizes) rfl hvalues fun _ => rfl
  rw [normal, hnormal, normalFields, htaken]
  rfl

/-! ## Selectors -/

theorem Selector.rereads : Rereads Selector.read Selector.dump := by
  intro v s h
  obtain ⟨entries, hread⟩ := Fields.of_closed h
  obtain ⟨labels, expressions, hlabels, hexpressions, rfl⟩ := Fields.two_eq_ok_iff.1 hread
  refine Fields.closed_eq_ok rfl (Fields.two_eq_ok_iff.2 ⟨_, _, ?_, ?_, rfl⟩)
  · exact Fields.withDefault_rereads
      (optional_rereads textMap_rereads fun _ h => by cases h) rfl hlabels rfl
  · exact Fields.withDefault_rereads
      (optional_rereads (listOf_rereads Requirement.rereads) fun _ h => by cases h) rfl
      hexpressions rfl

theorem Selector.normalizes : Normalizes Selector.read Selector.dump normal := by
  intro j s hkeys h
  obtain ⟨entries, htidy, hread, hnormal⟩ :=
    normalRecord_of_closed normalFields rfl (by decide) hkeys h
  obtain ⟨labels, expressions, hlabels, hexpressions, rfl⟩ := Fields.two_eq_ok_iff.1 hread
  have htaken := htidy.withDefault (optional_normalizes textMap_normalizes rfl) rfl hlabels
    fun htidy => htidy.withDefault
      (optional_normalizes (listOf_normalizes Requirement.normalizes) rfl) rfl hexpressions
      fun _ => rfl
  rw [normal, hnormal, normalFields, htaken]
  rfl

/-! ## Subjects -/

theorem subjectWord_of_mem : ∀ c ∈ SubjectKind.words, c.2.word = c.1 := by
  decide

theorem Subject.rereads : Rereads Subject.read Subject.dump := by
  intro v s h
  have hrule := Check.obey_eq_ok h
  obtain ⟨entries, hread⟩ := Fields.of_closed (Check.of_obey h)
  obtain ⟨kind, name, namespaceName, group, hkind, hname, hnamespace, hgroup, rfl⟩ :=
    Fields.four_eq_ok_iff.1 hread
  refine Check.obey_of_eq_ok (Fields.closed_eq_ok rfl (Fields.four_eq_ok_iff.2
    ⟨_, _, _, _, ?_, ?_, ?_, ?_, rfl⟩)) hrule
  · exact Fields.required_rereads (oneOf_rereads subjectWord_of_mem) hkind rfl
  · exact Fields.required_rereads nonEmptyText_rereads hname rfl
  · exact Fields.withDefault_rereads optionalText_rereads rfl hnamespace rfl
  · exact Fields.withDefault_rereads optionalText_rereads rfl hgroup rfl

theorem Subject.normalizes : Normalizes Subject.read Subject.dump normal := by
  intro j s hkeys h
  obtain ⟨entries, htidy, hread, hnormal⟩ :=
    normalRecord_of_closed normalFields rfl (by decide) hkeys (Check.of_obey h)
  obtain ⟨kind, name, namespaceName, group, hkind, hname, hnamespace, hgroup, rfl⟩ :=
    Fields.four_eq_ok_iff.1 hread
  have htaken := htidy.required (oneOf_normalizes subjectWord_of_mem) hkind fun htidy =>
    htidy.required nonEmptyText_normalizes hname fun htidy =>
    htidy.withDefault optionalText_normalizes rfl hnamespace fun htidy =>
    htidy.withDefault optionalText_normalizes rfl hgroup fun _ => rfl
  rw [normal, hnormal, normalFields, htaken]
  rfl

/-! ## Grants -/

theorem ClusterGrant.rereads : Rereads ClusterGrant.read ClusterGrant.dump := by
  intro v g h
  obtain ⟨entries, hread⟩ := Fields.of_closed h
  obtain ⟨clusterRole, hrole, rfl⟩ := Fields.of_map hread
  refine Fields.closed_eq_ok rfl (Fields.map_eq_ok ?_)
  exact Fields.required_rereads nonEmptyText_rereads hrole rfl

theorem ClusterGrant.normalizes : Normalizes ClusterGrant.read ClusterGrant.dump normal := by
  intro j g hkeys h
  obtain ⟨entries, htidy, hread, hnormal⟩ :=
    normalRecord_of_closed normalFields rfl (by decide) hkeys h
  obtain ⟨clusterRole, hrole, rfl⟩ := Fields.of_map hread
  have htaken := htidy.required nonEmptyText_normalizes hrole fun _ => rfl
  rw [normal, hnormal, normalFields, htaken]
  rfl

theorem givenText_rereads : Rereads givenText .text? := by
  intro v o h
  obtain ⟨o', -, rfl⟩ := Check.map_eq_ok h
  cases o' with
  | none => rfl
  | some s =>
      by_cases hs : s.isEmpty
      · rw [Option.filter_some_neg (by simp [hs])]
        rfl
      · rw [Option.filter_some_pos (by simp [hs])]
        show Check.ok ((some s).filter fun s => !s.isEmpty) = .ok (some s)
        rw [Option.filter_some_pos (by simp [hs])]

theorem givenText_normalizes : Normalizes givenText .text? Json.emptyAsNull := by
  intro j o hkeys h
  obtain ⟨o', ho', rfl⟩ := Check.map_eq_ok h
  obtain rfl : Json.text? o' = j := optionalText_normalizes j o' hkeys ho'
  cases o' with
  | none => rfl
  | some s =>
      by_cases hs : s.isEmpty <;> simp [Json.text?, Json.emptyAsNull, Option.filter, hs]

theorem NamespaceGrant.rereads : Rereads NamespaceGrant.read NamespaceGrant.dump := by
  intro v g h
  obtain ⟨entries, hread⟩ := Fields.of_closed h
  obtain ⟨role, clusterRole, namespaceName, selector, hrole, hclusterRole, hnamespace, hselector,
    rfl⟩ := Fields.four_eq_ok_iff.1 hread
  refine Fields.closed_eq_ok rfl (Fields.four_eq_ok_iff.2 ⟨_, _, _, _, ?_, ?_, ?_, ?_, rfl⟩)
  · exact Fields.withDefault_rereads givenText_rereads rfl hrole rfl
  · exact Fields.withDefault_rereads givenText_rereads rfl hclusterRole rfl
  · exact Fields.withDefault_rereads givenText_rereads rfl hnamespace rfl
  · exact Fields.withDefault_rereads
      (optional_rereads Selector.rereads fun _ h => by cases h) rfl hselector rfl

theorem NamespaceGrant.normalizes : Normalizes NamespaceGrant.read NamespaceGrant.dump normal := by
  intro j g hkeys h
  obtain ⟨entries, htidy, hread, hnormal⟩ :=
    normalRecord_of_closed normalFields rfl (by decide) hkeys h
  obtain ⟨role, clusterRole, namespaceName, selector, hrole, hclusterRole, hnamespace, hselector,
    rfl⟩ := Fields.four_eq_ok_iff.1 hread
  have htaken := htidy.withDefault givenText_normalizes rfl hrole fun htidy =>
    htidy.withDefault givenText_normalizes rfl hclusterRole fun htidy =>
    htidy.withDefault givenText_normalizes rfl hnamespace fun htidy =>
    htidy.withDefault (optional_normalizes Selector.normalizes rfl) rfl hselector fun _ => rfl
  rw [normal, hnormal, normalFields, htaken]
  rfl

/-! ## Bindings -/

theorem Binding.rereads : Rereads Binding.read Binding.dump := by
  intro v b h
  obtain ⟨entries, hread⟩ := Fields.of_closed h
  obtain ⟨name, subjects, clusterGrants, grants, hname, hsubjects, hclusterGrants, hgrants, rfl⟩ :=
    Fields.four_eq_ok_iff.1 hread
  refine Fields.closed_eq_ok rfl (Fields.four_eq_ok_iff.2 ⟨_, _, _, _, ?_, ?_, ?_, ?_, rfl⟩)
  · exact Fields.required_rereads nonEmptyText_rereads hname rfl
  · exact Fields.withDefault_rereads (listOf_rereads Subject.rereads) rfl hsubjects rfl
  · exact Fields.withDefault_rereads (listOf_rereads ClusterGrant.rereads) rfl hclusterGrants rfl
  · exact Fields.withDefault_rereads (listOf_rereads NamespaceGrant.rereads) rfl hgrants rfl

theorem Binding.normalizes : Normalizes Binding.read Binding.dump normal := by
  intro j b hkeys h
  obtain ⟨entries, htidy, hread, hnormal⟩ :=
    normalRecord_of_closed normalFields rfl (by decide) hkeys h
  obtain ⟨name, subjects, clusterGrants, grants, hname, hsubjects, hclusterGrants, hgrants, rfl⟩ :=
    Fields.four_eq_ok_iff.1 hread
  have htaken := htidy.required nonEmptyText_normalizes hname fun htidy =>
    htidy.withDefault (listOf_normalizes Subject.normalizes) rfl hsubjects fun htidy =>
    htidy.withDefault (listOf_normalizes ClusterGrant.normalizes) rfl hclusterGrants fun htidy =>
    htidy.withDefault (listOf_normalizes NamespaceGrant.normalizes) rfl hgrants fun _ => rfl
  rw [normal, hnormal, normalFields, htaken]
  rfl

/-! ## Definitions -/

theorem Metadata.rereads : Rereads Metadata.read Metadata.dump := by
  intro v m h
  obtain ⟨entries, -, hread⟩ := Fields.opened_eq_ok_iff.1 h
  obtain ⟨name, uid, hname, huid, rfl⟩ := Fields.two_eq_ok_iff.1 hread
  refine Fields.opened_eq_ok (Fields.two_eq_ok_iff.2 ⟨_, _, ?_, ?_, rfl⟩)
  · exact Fields.required_rereads nonEmptyText_rereads hname rfl
  · exact Fields.withDefault_rereads optionalText_rereads rfl huid rfl

theorem Metadata.normalizes : Normalizes Metadata.read Metadata.dump normal := by
  intro j m hkeys h
  obtain ⟨entries, htidy, hread, hnormal⟩ :=
    normalOpenRecord_of_opened normalFields (by decide) hkeys h
  obtain ⟨name, uid, hname, huid, rfl⟩ := Fields.two_eq_ok_iff.1 hread
  have htaken := htidy.required nonEmptyText_normalizes hname fun htidy =>
    htidy.withDefault optionalText_normalizes rfl huid fun _ => rfl
  rw [normal, hnormal, normalFields, htaken]
  rfl

/-- The kind of a definition says nothing, but it is there. -/
theorem Definition.kind_rereads :
    Rereads (oneOf [(Definition.kind, ())]) fun _ => .text Definition.kind :=
  oneOf_rereads (by simp)

theorem Definition.kind_normalizes :
    Normalizes (oneOf [(Definition.kind, ())]) (fun _ => .text Definition.kind) id :=
  oneOf_normalizes (by simp)

theorem Definition.rereads : Rereads Definition.read Definition.dump := by
  intro v d h
  have hrule := Check.obey_eq_ok h
  obtain ⟨entries, hread⟩ := Fields.of_closed (Check.of_obey h)
  obtain ⟨apiVersion, kind, metadata, bindings, hversion, hkind, hmetadata, hbindings, rfl⟩ :=
    Fields.four_eq_ok_iff.1 hread
  refine Check.obey_of_eq_ok (Fields.closed_eq_ok rfl (Fields.four_eq_ok_iff.2
    ⟨_, kind, _, _, ?_, ?_, ?_, ?_, rfl⟩)) hrule
  · exact Fields.withDefault_rereads text_rereads rfl hversion rfl
  · exact Fields.withDefault_rereads kind_rereads rfl hkind rfl
  · exact Fields.required_rereads Metadata.rereads hmetadata rfl
  · exact Fields.withDefault_rereads (listOf_rereads Binding.rereads) rfl hbindings rfl

theorem Definition.normalizes : Normalizes Definition.read Definition.dump normal := by
  intro j d hkeys h
  obtain ⟨entries, htidy, hread, hnormal⟩ :=
    normalRecord_of_closed normalFields rfl (by decide) hkeys (Check.of_obey h)
  obtain ⟨apiVersion, kind, metadata, bindings, hversion, hkind, hmetadata, hbindings, rfl⟩ :=
    Fields.four_eq_ok_iff.1 hread
  have htaken := htidy.withDefault text_normalizes rfl hversion fun htidy =>
    htidy.withDefault kind_normalizes rfl hkind fun htidy =>
    htidy.required Metadata.normalizes hmetadata fun htidy =>
    htidy.withDefault (listOf_normalizes Binding.normalizes) rfl hbindings fun _ => rfl
  rw [normal, hnormal, normalFields, htaken]
  rfl

theorem Definition.ofValue_eq_ok {source : String} {v : Value} {d : Definition} :
    Definition.ofValue source v = .ok d ↔ Definition.read v = .ok d := by
  unfold Definition.ofValue
  cases hentries : v.entries? with
  | none =>
      have hread : Definition.read v = Check.problem (.notRecord "RBACDefinition") := by
        unfold Definition.read Fields.closed
        rw [hentries]
        rfl
      simp [hread, Check.problem]
  | some entries => cases Definition.read v <;> simp

/-! ## Reading and dumping -/

/-- Reading and dumping are inverse up to the normal form.  Whatever a definition was read from, its
dump is read as this definition again; and if it was read from plain data, its dump is the normal
form of all of these. -/
theorem dump_inverts_reading :
    (∀ (source source' : String) (v : Value) (d : Definition),
      Definition.ofValue source v = .ok d → Definition.ofValue source' d.dump.toValue = .ok d) ∧
    ∀ (source : String) (j : Json) (d : Definition), j.hasDistinctKeys →
      Definition.ofValue source j.toValue = .ok d → d.dump = Definition.normal j := by
  constructor
  · intro source source' v d h
    exact Definition.ofValue_eq_ok.2 (Definition.rereads v d (Definition.ofValue_eq_ok.1 h))
  · intro source j d hkeys h
    exact Definition.normalizes j d hkeys (Definition.ofValue_eq_ok.1 h)

/-- A document that leaves out what it can, spells fields in both ways, keeps an entry in its
metadata that is not a definition's, and says nothing in a role. -/
def teamDocument : Json :=
  .object [("metadata", .object [("labels", .object []), ("name", .text "access")]),
    ("rbacBindings", .array [.object [("name", .text "team"),
      ("role_bindings", .array [.object [("role", .text ""), ("clusterRole", .text "edit"),
        ("namespaceSelector", .object [("matchLabels", .object [("team", .text "blue")])])]])]])]

/-- The definition that `teamDocument` is. -/
def teamDefinition : Definition :=
  ⟨Definition.defaultApiVersion, ⟨"access", none⟩,
    [⟨"team", [], [], [⟨none, some "edit", none, some ⟨some [("team", "blue")], none⟩⟩]⟩]⟩

theorem teamDocument_dumped :
    Definition.ofValue "access.yaml" teamDocument.toValue = .ok teamDefinition ∧
    Definition.ofValue "dump.yaml" teamDefinition.dump.toValue = .ok teamDefinition ∧
    teamDefinition.dump = Definition.normal teamDocument ∧
    Definition.normal teamDocument =
      .object [("api_version", .text "rbacmanager.reactiveops.io/v1beta1"),
        ("kind", .text "RBACDefinition"),
        ("metadata", .object [("name", .text "access"), ("uid", .null)]),
        ("rbac_bindings", .array [.object [("name", .text "team"), ("subjects", .array []),
          ("cluster_role_bindings", .array []),
          ("role_bindings", .array [.object [("role", .null), ("cluster_role", .text "edit"),
            ("namespace", .null),
            ("namespace_selector", .object [("match_labels", .object [("team", .text "blue")]),
              ("match_expressions", .null)])]])]])] := by
  have hread : Definition.ofValue "access.yaml" teamDocument.toValue = .ok teamDefinition := rfl
  exact ⟨hread, dump_inverts_reading.1 _ _ _ _ hread,
    dump_inverts_reading.2 _ _ _ (by decide) hread, rfl⟩

end RoleGrants
