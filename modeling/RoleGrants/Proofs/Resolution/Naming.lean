import Mathlib.Data.List.Nodup
import RoleGrants.Proofs.Resolution.Objects

/-!
# Names of the objects of a definition

The name of an object joins the names of the definition, the binding and the role with hyphens, and
a hyphen may also stand inside of each of them. Two names can therefore be one text that is split at
different hyphens (`Overlap`), and the name of a cluster-wide role can be that of a namespace's own
role with the namespace (`RoleRef.Mimics`). `same_name_iff` says that objects share a name in these
two ways only, and that they then grant different roles; it rests on `joined_eq_iff`, which splits
one text at two of its hyphens, and on the rule that binding names are not repeated.
-/

namespace RoleGrants

/-! ## Texts that are joined with a hyphen -/

/-- The name with the parts `b` and `p` is split at a later hyphen in `c` and `q`: the text between
the two hyphens ends `c` and begins `p`. -/
def Shifts (b p c q : String) : Prop := ∃ t, c = b ++ "-" ++ t ∧ p = t ++ "-" ++ q

/-- Two pairs of texts are one text that is split at different hyphens. -/
def Overlap (b p c q : String) : Prop := Shifts b p c q ∨ Shifts c q b p

variable {b p c q : String}

theorem Shifts.joined_eq (h : Shifts b p c q) : b ++ "-" ++ p = c ++ "-" ++ q := by
  obtain ⟨t, rfl, rfl⟩ := h
  simp only [String.append_assoc]

theorem Overlap.joined_eq (h : Overlap b p c q) : b ++ "-" ++ p = c ++ "-" ++ q := by
  rcases h with h | h
  · exact h.joined_eq
  · exact h.joined_eq.symm

theorem Shifts.length_lt (h : Shifts b p c q) : q.length < p.length := by
  obtain ⟨t, -, rfl⟩ := h
  have hhyphen : "-".length = 1 := rfl
  simp only [String.length_append]
  omega

theorem Overlap.ne (h : Overlap b p c q) : p ≠ q := by
  rintro rfl
  rcases h with h | h <;> exact absurd h.length_lt (Nat.lt_irrefl _)

/-- Of two splits of a text, the one with the longer first part has the other's hyphen inside. -/
theorem shifts_of_prefix {b p c q t : List Char} (hc : c = b ++ t)
    (hp : '-' :: p = t ++ '-' :: q) :
    (b = c ∧ p = q) ∨ ∃ u, c = b ++ '-' :: u ∧ p = u ++ '-' :: q := by
  cases t with
  | nil =>
      obtain ⟨-, rfl⟩ := List.cons.inj hp
      exact .inl ⟨by simpa using hc.symm, rfl⟩
  | cons hyphen u =>
      obtain ⟨rfl, rfl⟩ := List.cons.inj hp
      exact .inr ⟨u, hc, rfl⟩

theorem shifts_ofList {b p c q : String} {u : List Char}
    (hc : c.toList = b.toList ++ '-' :: u) (hp : p.toList = u ++ '-' :: q.toList) :
    Shifts b p c q := by
  have hhyphen : "-".toList = ['-'] := rfl
  refine ⟨String.ofList u, ?_, ?_⟩
  · rw [← String.toList_inj]
    simp [String.toList_append, hhyphen, hc]
  · rw [← String.toList_inj]
    simp [String.toList_append, hhyphen, hp]

/-- Joined texts are equal if their parts are, or if they are split at different hyphens. -/
theorem joined_eq_iff : b ++ "-" ++ p = c ++ "-" ++ q ↔ (b = c ∧ p = q) ∨ Overlap b p c q := by
  constructor
  · intro h
    have hhyphen : "-".toList = ['-'] := rfl
    have hlists : b.toList ++ '-' :: p.toList = c.toList ++ '-' :: q.toList := by
      simpa [String.toList_append, hhyphen] using congrArg String.toList h
    rcases List.append_eq_append_iff.mp hlists with ⟨t, hc, hp⟩ | ⟨t, hb, hq⟩
    · rcases shifts_of_prefix hc hp with ⟨hb, hp⟩ | ⟨u, hc, hp⟩
      · exact .inl ⟨String.toList_inj.1 hb, String.toList_inj.1 hp⟩
      · exact .inr (.inl (shifts_ofList hc hp))
    · rcases shifts_of_prefix hb hq with ⟨hc, hq⟩ | ⟨u, hb, hq⟩
      · exact .inl ⟨String.toList_inj.1 hc.symm, String.toList_inj.1 hq.symm⟩
      · exact .inr (.inr (shifts_ofList hb hq))
  · rintro (⟨rfl, rfl⟩ | h)
    · rfl
    · exact h.joined_eq

/-! ## Binding names -/

theorem firstRepeated_eq_none_iff (seen names : List String) :
    firstRepeated seen names = none ↔ names.Nodup ∧ ∀ name ∈ names, name ∉ seen := by
  induction names generalizing seen with
  | nil => simp [firstRepeated]
  | cons name rest ih =>
      rw [firstRepeated]
      by_cases h : name ∈ seen
      · rw [if_pos (by simpa using h)]
        simp [h]
      · rw [if_neg (by simpa using h), ih, List.nodup_cons, List.forall_mem_cons]
        simp only [List.mem_cons, not_or]
        constructor
        · rintro ⟨hrest, hfresh⟩
          exact ⟨⟨fun hin => (hfresh name hin).1 rfl, hrest⟩, h, fun x hx => (hfresh x hx).2⟩
        · rintro ⟨⟨hname, hrest⟩, -, hseen⟩
          exact ⟨hrest, fun x hx => ⟨fun hx' => hname (hx' ▸ hx), hseen x hx⟩⟩

/-- In a definition that is read from a document, no two bindings have the same name. -/
theorem Definition.binding_eq_of_name_eq {v : Value} {d : Definition}
    (accepted : Definition.read v = .ok d) {b c : Binding} (hb : b ∈ d.bindings)
    (hc : c ∈ d.bindings) (h : b.name = c.name) : b = c := by
  have hrule : d.rule = none := Schema.Check.obey_eq_ok accepted
  have hnodup : (d.bindings.map Binding.name).Nodup :=
    ((firstRepeated_eq_none_iff [] _).1 (by simpa [Definition.rule] using hrule)).1
  exact List.inj_on_of_nodup_map hnodup hb hc h

/-! ## Names of role bindings -/

/-- What the name of a binding of a role in a namespace says about the role. -/
def RoleRef.suffix (r : RoleRef) (n : String) : String :=
  match r.kind with
  | .clusterRole => r.name
  | .role => r.name ++ "-" ++ n

/-- A cluster-wide role has the name of a namespace's own role with the namespace. -/
def RoleRef.Mimics (r r' : RoleRef) (n : String) : Prop :=
  r.kind = .clusterRole ∧ r'.kind = .role ∧ r.name = r'.name ++ "-" ++ n

theorem RoleRef.Mimics.ne {r r' : RoleRef} {n : String} (h : r.Mimics r' n) : r ≠ r' := by
  rintro rfl
  obtain ⟨hcluster, hrole, -⟩ := h
  rw [hcluster] at hrole
  cases hrole

theorem RoleRef.suffix_eq_iff {r r' : RoleRef} {n : String} (hgroup : r.apiGroup = r'.apiGroup) :
    r.suffix n = r'.suffix n ↔ r = r' ∨ r.Mimics r' n ∨ r'.Mimics r n := by
  obtain ⟨kind, name, group⟩ := r
  obtain ⟨kind', name', group'⟩ := r'
  obtain rfl : group = group' := hgroup
  cases kind <;> cases kind' <;> simp [RoleRef.suffix, RoleRef.Mimics, eq_comm]

section

variable {d : Definition} {b c : Binding}

theorem nameStem_append_eq_iff {p q : String} :
    d.metadata.name ++ "-" ++ b.name ++ "-" ++ p = d.metadata.name ++ "-" ++ c.name ++ "-" ++ q ↔
      (b.name = c.name ∧ p = q) ∨ Overlap b.name p c.name q := by
  rw [← joined_eq_iff]
  simp only [String.append_assoc, String.append_right_inj]

theorem roleBindingOf_eq (g : NamespaceGrant) (n : String) :
    d.roleBindingOf b g n =
      ⟨d.metadataOf (d.metadata.name ++ "-" ++ b.name ++ "-" ++ g.grantedRole.suffix n) (some n),
        g.grantedRole, b.subjects⟩ := by
  unfold Definition.roleBindingOf NamespaceGrant.grantedRole
  cases g.clusterRole <;> rfl

theorem grantedRole_apiGroup (g : NamespaceGrant) : g.grantedRole.apiGroup = rbacApiGroup := by
  unfold NamespaceGrant.grantedRole
  cases g.clusterRole <;> rfl

theorem grantedRole_suffix_eq_iff {g h : NamespaceGrant} {n : String} :
    g.grantedRole.suffix n = h.grantedRole.suffix n ↔ g.grantedRole = h.grantedRole ∨
      g.grantedRole.Mimics h.grantedRole n ∨ h.grantedRole.Mimics g.grantedRole n := by
  refine RoleRef.suffix_eq_iff ?_
  rw [grantedRole_apiGroup, grantedRole_apiGroup]

end

/-! ## Objects that share a name -/

namespace Definition

variable (d : Definition)

/-- Two cluster-wide bindings of a definition have one name that is split at different hyphens. -/
def ClusterClash (x y : ClusterRoleBinding) : Prop :=
  ∃ b ∈ d.bindings, ∃ g ∈ b.clusterGrants, ∃ c ∈ d.bindings, ∃ h ∈ c.clusterGrants,
    x = d.clusterBindingOf b g ∧ y = d.clusterBindingOf c h ∧
      Overlap b.name g.clusterRole c.name h.clusterRole

/-- Two role bindings of a definition in one namespace have one name that is split at different
hyphens, or are of one binding that grants a role and a cluster-wide role with that name. -/
def RoleClash (x y : RoleBinding) : Prop :=
  ∃ b ∈ d.bindings, ∃ g ∈ b.namespaceGrants, ∃ c ∈ d.bindings, ∃ h ∈ c.namespaceGrants, ∃ n,
    x = d.roleBindingOf b g n ∧ y = d.roleBindingOf c h n ∧
      (Overlap b.name (x.roleRef.suffix n) c.name (y.roleRef.suffix n) ∨
        b = c ∧ (x.roleRef.Mimics y.roleRef n ∨ y.roleRef.Mimics x.roleRef n))

end Definition

section

variable {d : Definition}

theorem exists_of_mem_clusterRoleBindings {answers : List (List String)} {x : ClusterRoleBinding}
    (h : x ∈ (d.objects answers).clusterRoleBindings) :
    ∃ b ∈ d.bindings, ∃ g ∈ b.clusterGrants, x = d.clusterBindingOf b g := by
  obtain ⟨b, hb, hx⟩ := List.mem_flatMap.1 h
  obtain ⟨g, hg, rfl⟩ := List.mem_map.1 hx
  exact ⟨b, hb, g, hg, (clusterBindingOf_eq d b g).symm⟩

/-- The grants that answers are dealt out to are those of the definition. -/
theorem of_mem_dealt_grants {answers : List (List String)} {b : Binding} {g : NamespaceGrant}
    {answer : List String}
    (h : ((b, g), answer) ∈ dealt (fun bg => bg.2.usesSelector) d.grants answers) :
    b ∈ d.bindings ∧ g ∈ b.namespaceGrants := by
  have hgrant : (b, g) ∈ d.grants := by
    rw [← dealt_map_fst (fun bg => bg.2.usesSelector) d.grants answers]
    exact List.mem_map_of_mem h
  obtain ⟨b', hb, hmem⟩ := List.mem_flatMap.1 hgrant
  obtain ⟨g', hg, hpair⟩ := List.mem_map.1 hmem
  cases hpair
  exact ⟨hb, hg⟩

theorem exists_of_mem_roleBindings {answers : List (List String)} {x : RoleBinding}
    (h : x ∈ (d.objects answers).roleBindings) :
    ∃ b ∈ d.bindings, ∃ g ∈ b.namespaceGrants, ∃ n, x = d.roleBindingOf b g n := by
  obtain ⟨⟨⟨b, g⟩, answer⟩, hdealt, hx⟩ := List.mem_flatMap.1 h
  obtain ⟨n, -, rfl⟩ := List.mem_map.1 hx
  obtain ⟨hb, hg⟩ := of_mem_dealt_grants hdealt
  exact ⟨b, hb, g, hg, n, rfl⟩

theorem Definition.ClusterClash.name_eq {x y : ClusterRoleBinding} (h : d.ClusterClash x y) :
    x.metadata.name = y.metadata.name := by
  obtain ⟨b, -, g, -, c, -, h, -, rfl, rfl, overlap⟩ := h
  rw [clusterBindingOf_eq, clusterBindingOf_eq]
  exact nameStem_append_eq_iff.2 (.inr overlap)

theorem Definition.ClusterClash.roleRef_ne {x y : ClusterRoleBinding} (h : d.ClusterClash x y) :
    x.roleRef ≠ y.roleRef := by
  obtain ⟨b, -, g, -, c, -, h, -, rfl, rfl, overlap⟩ := h
  intro hrole
  exact overlap.ne (congrArg RoleRef.name hrole)

theorem Definition.RoleClash.metadata_eq {x y : RoleBinding} (h : d.RoleClash x y) :
    x.metadata = y.metadata := by
  obtain ⟨b, -, g, -, c, -, h, -, n, rfl, rfl, clash⟩ := h
  rw [roleBindingOf_eq, roleBindingOf_eq] at clash ⊢
  refine congrArg (d.metadataOf · (some n)) (nameStem_append_eq_iff.2 ?_)
  rcases clash with overlap | ⟨rfl, mimics⟩
  · exact .inr overlap
  · exact .inl ⟨rfl, grantedRole_suffix_eq_iff.2 (.inr mimics)⟩

theorem Definition.RoleClash.roleRef_ne {x y : RoleBinding} (h : d.RoleClash x y) :
    x.roleRef ≠ y.roleRef := by
  obtain ⟨b, -, g, -, c, -, h, -, n, -, -, overlap | ⟨-, mimics | mimics⟩⟩ := h
  · intro hrole
    exact overlap.ne (congrArg (RoleRef.suffix · n) hrole)
  · exact mimics.ne
  · exact mimics.ne.symm

end

section

variable {v : Value} {d : Definition} (accepted : Definition.read v = .ok d)
include accepted

/-- Cluster-wide bindings of two grants with the same name are the same or clash. -/
theorem clusterBinding_eq_or_clash {b c : Binding} {g h : ClusterGrant} (hb : b ∈ d.bindings)
    (hg : g ∈ b.clusterGrants) (hc : c ∈ d.bindings) (hh : h ∈ c.clusterGrants)
    (hname : (d.clusterBindingOf b g).metadata.name = (d.clusterBindingOf c h).metadata.name) :
    d.clusterBindingOf b g = d.clusterBindingOf c h ∨
      d.ClusterClash (d.clusterBindingOf b g) (d.clusterBindingOf c h) := by
  have hjoined := hname
  rw [clusterBindingOf_eq, clusterBindingOf_eq] at hjoined
  rcases nameStem_append_eq_iff.1 hjoined with ⟨hbinding, hrole⟩ | overlap
  · obtain rfl := Definition.binding_eq_of_name_eq accepted hb hc hbinding
    obtain ⟨role⟩ := g
    obtain rfl : role = h.clusterRole := hrole
    exact .inl rfl
  · exact .inr ⟨b, hb, g, hg, c, hc, h, hh, rfl, rfl, overlap⟩

/-- Role bindings of two grants in the same namespace and with the same name are the same or
clash. -/
theorem roleBinding_eq_or_clash {b c : Binding} {g h : NamespaceGrant} {n : String}
    (hb : b ∈ d.bindings) (hg : g ∈ b.namespaceGrants) (hc : c ∈ d.bindings)
    (hh : h ∈ c.namespaceGrants)
    (hname : (d.roleBindingOf b g n).metadata.name = (d.roleBindingOf c h n).metadata.name) :
    d.roleBindingOf b g n = d.roleBindingOf c h n ∨
      d.RoleClash (d.roleBindingOf b g n) (d.roleBindingOf c h n) := by
  have hx := roleBindingOf_eq (d := d) (b := b) g n
  have hy := roleBindingOf_eq (d := d) (b := c) h n
  rw [hx, hy] at hname
  rcases nameStem_append_eq_iff.1 hname with ⟨hbinding, hsuffix⟩ | overlap
  · obtain rfl := Definition.binding_eq_of_name_eq accepted hb hc hbinding
    rcases grantedRole_suffix_eq_iff.1 hsuffix with hrole | mimics
    · left
      rw [hx, hy, hrole]
    · right
      refine ⟨b, hb, g, hg, b, hc, h, hh, n, rfl, rfl, .inr ⟨rfl, ?_⟩⟩
      rw [hx, hy]
      exact mimics
  · right
    refine ⟨b, hb, g, hg, c, hc, h, hh, n, rfl, rfl, .inl ?_⟩
    rw [hx, hy]
    exact overlap

end

/-- In what a definition is resolved to, service accounts with the same name in the same namespace
are the same. Other objects with the same name in the same place are the same or clash, and those
that clash grant different roles. -/
theorem same_name_iff {v : Value} {d : Definition} (accepted : Definition.read v = .ok d) {σ : Type}
    {directory : Option (Directory σ)} {s : σ} (contract : Directory.ListsNames directory s)
    {p : Produced} (resolved : (d.resolve directory s).result = .ok p) :
    (∀ x ∈ p.serviceAccounts, ∀ y ∈ p.serviceAccounts, x.metadata.name = y.metadata.name →
      x.metadata.namespaceName = y.metadata.namespaceName → x = y) ∧
    (∀ x ∈ p.clusterRoleBindings, ∀ y ∈ p.clusterRoleBindings,
      (x.metadata.name = y.metadata.name ↔ x = y ∨ d.ClusterClash x y) ∧
        (d.ClusterClash x y → x.roleRef ≠ y.roleRef)) ∧
    (∀ x ∈ p.roleBindings, ∀ y ∈ p.roleBindings,
      (x.metadata.name = y.metadata.name ∧ x.metadata.namespaceName = y.metadata.namespaceName ↔
        x = y ∨ d.RoleClash x y) ∧
        (d.RoleClash x y → x.roleRef ≠ y.roleRef)) := by
  obtain ⟨answers, rfl⟩ := eq_objects_of_resolve_eq_ok contract resolved
  refine ⟨fun x hx y hy => ?accounts, fun x hx y hy => ⟨?cluster, fun clash => clash.roleRef_ne⟩,
    fun x hx y hy => ⟨?role, fun clash => clash.roleRef_ne⟩⟩
  case accounts =>
    intro hname hnamespace
    obtain ⟨b, -, hx⟩ := List.mem_flatMap.1 hx
    obtain ⟨c, -, hy⟩ := List.mem_flatMap.1 hy
    obtain ⟨subject, -, rfl⟩ := List.mem_map.1 hx
    obtain ⟨subject', -, rfl⟩ := List.mem_map.1 hy
    exact congrArg ServiceAccount.mk (congrArg₂ d.metadataOf hname hnamespace)
  case cluster =>
    obtain ⟨b, hb, g, hg, rfl⟩ := exists_of_mem_clusterRoleBindings hx
    obtain ⟨c, hc, h, hh, rfl⟩ := exists_of_mem_clusterRoleBindings hy
    constructor
    · exact clusterBinding_eq_or_clash accepted hb hg hc hh
    · rintro (heq | clash)
      · rw [heq]
      · exact clash.name_eq
  case role =>
    obtain ⟨b, hb, g, hg, n, rfl⟩ := exists_of_mem_roleBindings hx
    obtain ⟨c, hc, h, hh, m, rfl⟩ := exists_of_mem_roleBindings hy
    constructor
    · rintro ⟨hname, hnamespace⟩
      rw [roleBindingOf_eq g n, roleBindingOf_eq h m] at hnamespace
      obtain rfl : n = m := Option.some.inj hnamespace
      exact roleBinding_eq_or_clash accepted hb hg hc hh hname
    · rintro (heq | clash)
      · rw [heq]
        exact ⟨rfl, rfl⟩
      · rw [clash.metadata_eq]
        exact ⟨rfl, rfl⟩

/-- A document with hyphens in the names of its bindings and roles. -/
def hyphenDocument : Value :=
  .map [(.text "metadata", .map [(.text "name", .text "team")]),
    (.text "rbacBindings", .list [
      .map [(.text "name", .text "a"),
        (.text "subjects", .list [.map [(.text "kind", .text "User"), (.text "name", .text "jo")]]),
        (.text "clusterRoleBindings", .list [.map [(.text "clusterRole", .text "b-view")]]),
        (.text "roleBindings", .list [
          .map [(.text "role", .text "edit"), (.text "namespace", .text "qa")],
          .map [(.text "clusterRole", .text "edit-qa"), (.text "namespace", .text "qa")]])],
      .map [(.text "name", .text "a-b"),
        (.text "subjects", .list [.map [(.text "kind", .text "User"), (.text "name", .text "al")]]),
        (.text "clusterRoleBindings", .list [.map [(.text "clusterRole", .text "view")]])]])]

/-- The definition in that document. -/
def hyphenAccess : Definition where
  apiVersion := Definition.defaultApiVersion
  metadata := ⟨"team", none⟩
  bindings := [
    { name := "a"
      subjects := [⟨.user, "jo", none, none⟩]
      clusterGrants := [⟨"b-view"⟩]
      namespaceGrants := [⟨some "edit", none, some "qa", none⟩,
        ⟨none, some "edit-qa", some "qa", none⟩] },
    { name := "a-b"
      subjects := [⟨.user, "al", none, none⟩]
      clusterGrants := [⟨"view"⟩]
      namespaceGrants := [] }]

/-- Different bindings of the document give one cluster-wide name to different subjects, and one
binding gives one name in a namespace to a role and to a cluster-wide role. -/
theorem hyphenAccess_repeats_names :
    Definition.read hyphenDocument = .ok hyphenAccess ∧
      Directory.ListsNames (some recited) [] ∧
      ∃ p, (hyphenAccess.resolve (some recited) []).result = .ok p ∧
        (∃ x ∈ p.clusterRoleBindings, ∃ y ∈ p.clusterRoleBindings,
          x.metadata = y.metadata ∧ x.roleRef ≠ y.roleRef ∧ x.subjects ≠ y.subjects) ∧
        ∃ x ∈ p.roleBindings, ∃ y ∈ p.roleBindings,
          x.metadata = y.metadata ∧ x.roleRef ≠ y.roleRef := by
  refine ⟨rfl, recited_listsNames [], hyphenAccess.objects [], rfl, ?_, ?_⟩
  · exact ⟨_, .head _, _, .tail _ (.head _), rfl, by decide, by decide⟩
  · exact ⟨_, .head _, _, .tail _ (.head _), rfl, by decide⟩

/-- The cluster-wide bindings of the document with one name clash. -/
theorem hyphenAccess_clashes :
    Definition.read hyphenDocument = .ok hyphenAccess ∧
      Directory.ListsNames (some recited) [] ∧
      (hyphenAccess.resolve (some recited) []).result = .ok (hyphenAccess.objects []) ∧
      ∃ x ∈ (hyphenAccess.objects []).clusterRoleBindings,
        ∃ y ∈ (hyphenAccess.objects []).clusterRoleBindings, hyphenAccess.ClusterClash x y := by
  have named := (same_name_iff (v := hyphenDocument) (d := hyphenAccess) rfl
    (recited_listsNames []) (p := hyphenAccess.objects []) rfl).2.1
  refine ⟨rfl, recited_listsNames [], rfl, _, .head _, _, .tail _ (.head _), ?_⟩
  exact ((named _ (.head _) _ (.tail _ (.head _))).1.1 rfl).resolve_left (by decide)

end RoleGrants
