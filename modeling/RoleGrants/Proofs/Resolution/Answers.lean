import RoleGrants.Directory.Static
import RoleGrants.Proofs.Resolution.Outcomes

/-!
# Answers to the selectors of a definition

A directory that keeps its contract answers every query with a list of names, or not at all.  It may
do so as it likes: what it answers may depend on everything it was asked before and need not depend
on the selector.  `Answered` records one sequence of such answers.

With the answers given, nothing about a resolution is left open.  The `k`-th item that asks gets the
`k`-th answer (`dealt`), and what an item makes of its answer is written down without the directory:
`Item.made` are the objects and `Item.told` the events.  `AllPass.answered` and
`allPass_of_answered` say that items pass exactly when each of them is sound and all selectors are
answered, and with what.
-/

namespace RoleGrants

variable {σ : Type}

/-! ## Directories that keep their contract -/

/-- A reply that is a list of names, or that a lookup failed. -/
def Reply.IsContractual : Reply → Prop
  | .names answer => ∃ names : List String, answer = LabelTable.namesJson names
  | .lookupFailed _ _ _ | .failed _ => True

/-- The state of a directory after some queries. -/
def Directory.after (ask : Directory σ) (s : σ) (qs : List Selector) : σ :=
  qs.foldl (fun s q => (ask q s).2.2) s

/-- A directory, if there is one, that from the state `s` on answers with lists of names whenever it
answers. -/
def Directory.ListsNames (directory : Option (Directory σ)) (s : σ) : Prop :=
  ∀ ask ∈ directory, ∀ (qs : List Selector) (q : Selector),
    (ask q (Directory.after ask s qs)).1.IsContractual

/-- A directory that keeps its contract goes on keeping it. -/
theorem Directory.ListsNames.asked {directory : Option (Directory σ)} {s : σ}
    (h : Directory.ListsNames directory s) (q : Option Selector) :
    Directory.ListsNames directory (Directory.asked directory q s).2 := by
  cases directory with
  | none => intro ask present; cases present
  | some ask =>
      cases q with
      | none => exact h
      | some q =>
          rintro _ ⟨⟩ qs
          exact h ask rfl (q :: qs)

/-- A table of namespaces always answers with a list of names. -/
theorem LabelTable.listsNames (t : LabelTable) :
    Directory.ListsNames (some LabelTable.directory) t := by
  rintro _ ⟨⟩ qs q
  exact ⟨_, rfl⟩

/-- A directory that gives the answers of a list one after the other, whatever it is asked, and
fails when none is left. -/
def recited : Directory (List (List String)) := fun _ answers =>
  match answers with
  | names :: rest => (.names (LabelTable.namesJson names), [], rest)
  | [] => (.failed (.ofKind "TimeoutError"), [], [])

theorem recited_listsNames (answers : List (List String)) :
    Directory.ListsNames (some recited) answers := by
  rintro _ ⟨⟩ qs q
  cases Directory.after recited answers qs with
  | nil => trivial
  | cons names rest => exact ⟨names, rfl⟩

/-- Queries made one after the other are all answered with lists of names. -/
inductive Answered (directory : Option (Directory σ)) :
    σ → List Selector → List (List String) → σ → Prop
  | nil (s : σ) : Answered directory s [] [] s
  | cons {ask : Directory σ} {s s' : σ} {q : Selector} {qs : List Selector} {names : List String}
      {answers : List (List String)} (present : directory = some ask)
      (reply : (ask q s).1 = .names (LabelTable.namesJson names))
      (others : Answered directory (ask q s).2.2 qs answers s') :
      Answered directory s (q :: qs) (names :: answers) s'

theorem Answered.append {directory : Option (Directory σ)} {s s₁ s₂ : σ} {qs qs' : List Selector}
    {as as' : List (List String)} (h : Answered directory s qs as s₁)
    (h' : Answered directory s₁ qs' as' s₂) : Answered directory s (qs ++ qs') (as ++ as') s₂ := by
  induction h with
  | nil _ => exact h'
  | cons present reply _ ih => exact .cons present reply (ih h')

/-- Answers to a sequence of queries are answers to its first part and then to the rest. -/
theorem Answered.of_append {directory : Option (Directory σ)} {s s₂ : σ} {qs qs' : List Selector}
    {as : List (List String)} (h : Answered directory s (qs ++ qs') as s₂) :
    ∃ bs bs' s₁, as = bs ++ bs' ∧ Answered directory s qs bs s₁ ∧
      Answered directory s₁ qs' bs' s₂ := by
  induction qs generalizing s as with
  | nil => exact ⟨[], as, s, rfl, .nil s, h⟩
  | cons q qs ih =>
      cases h with
      | cons present reply others =>
          obtain ⟨bs, bs', s₁, rfl, hbs, hbs'⟩ := ih others
          exact ⟨_ :: bs, bs', s₁, rfl, .cons present reply hbs, hbs'⟩

theorem Answered.length_eq {directory : Option (Directory σ)} {s s' : σ} {qs : List Selector}
    {as : List (List String)} (h : Answered directory s qs as s') : as.length = qs.length := by
  induction h with
  | nil => rfl
  | cons _ _ _ ih => exact congrArg (· + 1) ih

theorem namesJson_inj {names names' : List String}
    (h : LabelTable.namesJson names = LabelTable.namesJson names') : names = names' :=
  (List.map_inj_right fun _ _ => Json.text.inj).1 (Json.array.inj h)

/-- A directory answers a sequence of queries in one way. -/
theorem Answered.unique {directory : Option (Directory σ)} {s s₁ s₂ : σ} {qs : List Selector}
    {as bs : List (List String)} (h₁ : Answered directory s qs as s₁)
    (h₂ : Answered directory s qs bs s₂) : as = bs ∧ s₁ = s₂ := by
  induction h₁ generalizing bs with
  | nil => cases h₂; exact ⟨rfl, rfl⟩
  | cons present reply _ ih =>
      cases h₂ with
      | cons present' reply' others =>
          obtain rfl := Option.some.inj (present.symm.trans present')
          obtain rfl := namesJson_inj (Reply.names.inj (reply.symm.trans reply'))
          obtain ⟨rfl, hs⟩ := ih others
          exact ⟨rfl, hs⟩

/-! ## Dealing out the answers -/

/-- Things with the answers they get: the `k`-th of those that ask gets the `k`-th answer. -/
def dealt {α : Type} (asks : α → Bool) (things : List α) (answers : List (List String)) :
    List (α × List String) :=
  things.mapIdx fun i a =>
    (a, if asks a then answers.getD ((things.take i).countP asks) [] else [])

section

variable {α β : Type} (asks : α → Bool)

theorem dealt_cons (a : α) (rest : List α) (answers : List (List String)) :
    dealt asks (a :: rest) answers =
      if asks a then (a, answers.headD []) :: dealt asks rest answers.tail
      else (a, []) :: dealt asks rest answers := by
  unfold dealt
  rw [List.mapIdx_cons]
  by_cases h : asks a
  · cases answers <;> simp [h]
  · simp [h]

end

/-! ## Items and their answers -/

/-- A grant has a selector that is set or names a namespace. -/
def NamespaceGrant.HasTarget (g : NamespaceGrant) : Prop :=
  g.usesSelector ∨ g.namespaceName.isSome

/-- The namespaces of a grant: those of its answer if it asks, else the one it names. -/
def NamespaceGrant.targets (g : NamespaceGrant) (answer : List String) : List String :=
  if g.usesSelector then answer else g.namespaceName.toList

theorem NamespaceGrant.usesSelector_of_set {g : NamespaceGrant} {q : Selector}
    (set : g.activeSelector = some q) : g.usesSelector = true := by
  rw [NamespaceGrant.usesSelector, set]
  rfl

theorem NamespaceGrant.usesSelector_of_unset {g : NamespaceGrant}
    (unset : g.activeSelector = none) : g.usesSelector = false := by
  rw [NamespaceGrant.usesSelector, unset]
  rfl

namespace Item

/-- Whether an item asks. -/
def asks (i : Item) : Bool := i.selector?.isSome

/-- An item in which the definition itself leaves nothing wrong. -/
def Sound : Item → Prop
  | .subjects b => b.subjects ≠ []
  | .grant _ g => g.NamesOneRole ∧ g.HasTarget
  | .vacant | .finished _ => True

/-- The objects that an item with an answer gives. -/
def made (d : Definition) : Item × List String → Produced
  | (.subjects b, _) =>
    ⟨b.subjects.filterMap d.accountOf, [], b.clusterGrants.map (d.clusterBindingOf b)⟩
  | (.grant b g, answer) =>
    ⟨[], (g.targets answer).map fun n => d.roleBindingIn b g.grantedRole n (some n), []⟩
  | (.vacant, _) | (.finished _, _) => .none

/-- What is told of an item with an answer. -/
def told : Item × List String → List Event
  | (.vacant, _) => [.noBindings]
  | (.subjects _, _) => []
  | (.grant b g, answer) =>
    match g.activeSelector with
    | some q => (Item.grant b g).warnings
        ++ [.selectorResolved b.name g.grantedRole q.query (answer.map .text)]
    | none => g.namespaceName.toList.map (.grantResolved b.name g.grantedRole)
  | (.finished b, _) =>
    [.bindingResolved b.name b.subjects.length b.clusterGrants.length b.namespaceGrants.length]

end Item

/-- What several parts of a resolution produce together. -/
def Produced.join (ps : List Produced) : Produced := ps.foldr Produced.append .none

@[simp] theorem Produced.join_cons (p : Produced) (ps : List Produced) :
    Produced.join (p :: ps) = p.append (.join ps) := rfl

/-- The selectors of items, in order. -/
def selectorsOf (items : List Item) : List Selector := items.filterMap Item.selector?

/-- The objects that items give with answers. -/
def madeOf (d : Definition) (items : List Item) (answers : List (List String)) : Produced :=
  .join ((dealt Item.asks items answers).map (Item.made d))

/-- What is told of items with answers. -/
def toldOf (items : List Item) (answers : List (List String)) : List Event :=
  (dealt Item.asks items answers).flatMap Item.told

/-! ## Observing steps -/

/-- The queries among some steps. -/
def queriesOf (steps : List Step) : List Selector :=
  steps.filterMap fun
    | .query q => some q
    | _ => none

@[simp] theorem events_run (r : Except ResolutionError Produced) (steps : List Step) (s : σ) :
    (⟨r, steps, s⟩ : Definition.Run σ).events = eventsOf steps := rfl

@[simp] theorem queries_run (r : Except ResolutionError Produced) (steps : List Step) (s : σ) :
    (⟨r, steps, s⟩ : Definition.Run σ).queries = queriesOf steps := rfl

@[simp] theorem queriesOf_nil : queriesOf [] = [] := rfl

@[simp] theorem queriesOf_event (e : Event) (rest : List Step) :
    queriesOf (.event e :: rest) = queriesOf rest := rfl

@[simp] theorem queriesOf_append (xs ys : List Step) :
    queriesOf (xs ++ ys) = queriesOf xs ++ queriesOf ys := List.filterMap_append

@[simp] theorem eventsOf_map_event (es : List Event) : eventsOf (es.map .event) = es := by
  induction es with
  | nil => rfl
  | cons e rest ih => exact congrArg (e :: ·) ih

@[simp] theorem queriesOf_map_event (es : List Event) : queriesOf (es.map .event) = [] := by
  induction es with
  | nil => rfl
  | cons e rest ih => exact ih

theorem queriesOf_asked (directory : Option (Directory σ)) (q : Option Selector) (s : σ) :
    queriesOf (Directory.asked directory q s).1 = if directory.isSome then q.toList else [] := by
  cases directory <;> cases q <;> simp [Directory.asked, queriesOf]

/-! ## Passing is being sound and answered -/

@[simp] theorem plain_text (n : String) : (Json.text n).plain = n := rfl

@[simp] theorem namespace?_text (n : String) : (Json.text n).namespace? = some n := rfl

theorem reading_namesJson (q : Selector) (names : List String) :
    (Reply.names (LabelTable.namesJson names)).reading q = .ok (names.map .text) := rfl

/-- What is read from a directory that keeps its contract is a list of names. -/
theorem Reply.IsContractual.of_reading {reply : Reply} (h : reply.IsContractual) {q : Selector}
    {members : List Json} (hread : reply.reading q = .ok members) :
    ∃ names : List String, reply = .names (LabelTable.namesJson names) ∧
      members = names.map .text := by
  cases reply with
  | lookupFailed => cases hread
  | failed => cases hread
  | names answer =>
      obtain ⟨names, rfl⟩ := h
      rw [reading_namesJson] at hread
      exact ⟨names, rfl, (Except.ok.inj hread).symm⟩

/-- A grant without a selector gives one role binding, in its namespace. -/
theorem Item.made_literal (d : Definition) {b : Binding} {g : NamespaceGrant} {n : String}
    (unset : g.activeSelector = none) (target : g.namespaceName = some n) (answer : List String) :
    Item.made d (.grant b g, answer) =
      ⟨[], [d.roleBindingIn b g.grantedRole n (some n)], []⟩ := by
  rw [Item.made, NamespaceGrant.targets, g.usesSelector_of_unset unset, target]
  rfl

/-- A grant with a selector gives a role binding in each namespace of its answer. -/
theorem Item.made_selected (d : Definition) {b : Binding} {g : NamespaceGrant} {q : Selector}
    (set : g.activeSelector = some q) (names : List String) :
    Item.made d (.grant b g, names) = ⟨[], (names.map Json.text).map fun j =>
      d.roleBindingIn b g.grantedRole j.plain j.namespace?, []⟩ := by
  rw [Item.made, NamespaceGrant.targets, g.usesSelector_of_set set]
  simp

section

variable {d : Definition} {directory : Option (Directory σ)}

theorem Item.Passes.state_eq {i : Item} {s s' : σ} {p : Produced} {new : List Step}
    (h : i.Passes d directory s p new s') : s' = (Directory.asked directory i.selector? s).2 := by
  cases h with
  | vacant | subjects | finished => cases directory <;> rfl
  | literal role unset => rw [Item.selector?, unset]; cases directory <;> rfl
  | selected role set => rw [Item.selector?, set]

theorem Item.Passes.answered {i : Item} {s s' : σ} (contract : Directory.ListsNames directory s)
    {p : Produced} {new : List Step} (h : i.Passes d directory s p new s') :
    i.Sound ∧ ∃ answers, Answered directory s i.selector?.toList answers s' ∧
      p = Item.made d (i, answers.headD []) ∧ eventsOf new = Item.told (i, answers.headD []) ∧
      queriesOf new = i.selector?.toList := by
  cases h with
  | vacant => exact ⟨trivial, [], .nil s, rfl, rfl, rfl⟩
  | subjects hb => exact ⟨hb, [], .nil s, rfl, rfl, rfl⟩
  | finished => exact ⟨trivial, [], .nil s, rfl, rfl, rfl⟩
  | @literal b g n role unset target =>
      refine ⟨⟨role, .inr (by simp [target])⟩, [], ?_, ?_, ?_, ?_⟩
      · simpa [Item.selector?, unset] using Answered.nil s
      · rw [Item.made_literal d unset target]
      · simp [Item.told, unset, target]
      · simp [Item.selector?, unset]
  | @selected b g q ask members role set present reply namespaces =>
      obtain ⟨names, hreply, rfl⟩ := (contract ask present [] q).of_reading reply
      subst present
      refine ⟨⟨role, .inl (g.usesSelector_of_set set)⟩, [names], ?_, ?_, ?_, ?_⟩
      · rw [Item.selector?, set]
        exact .cons rfl hreply (.nil _)
      · exact (Item.made_selected d set names).symm
      · simp [Item.told, set]
      · simp [Item.selector?, set, queriesOf_asked]

theorem Item.passes_of_answered (d : Definition) {i : Item} (sound : i.Sound) {s s' : σ}
    {answers : List (List String)} (h : Answered directory s i.selector?.toList answers s') :
    ∃ new, i.Passes d directory s (Item.made d (i, answers.headD [])) new s' := by
  cases i with
  | vacant => cases h; exact ⟨_, .vacant⟩
  | subjects b => cases h; exact ⟨_, .subjects sound⟩
  | finished b => cases h; exact ⟨_, .finished⟩
  | grant b g =>
      obtain ⟨role, target⟩ := sound
      cases set : g.activeSelector with
      | none =>
          rw [NamespaceGrant.HasTarget, g.usesSelector_of_unset set,
            Option.isSome_iff_exists] at target
          obtain ⟨n, hn⟩ := target.resolve_left Bool.false_ne_true
          simp only [Item.selector?, set, Option.toList_none] at h
          cases h
          rw [Item.made_literal d set hn]
          exact ⟨_, .literal role set hn⟩
      | some q =>
          simp only [Item.selector?, set, Option.toList_some] at h
          cases h with
          | @cons ask _ _ _ _ names _ present reply others =>
              cases others
              subst present
              have hread : (ask q s).1.reading q = .ok (names.map .text) := by
                rw [reply, reading_namesJson]
              rw [Item.made_selected d set]
              exact ⟨_, .selected role set rfl hread (by simp [Json.isNamespace])⟩

theorem selectorsOf_cons (i : Item) (rest : List Item) :
    selectorsOf (i :: rest) = i.selector?.toList ++ selectorsOf rest := by
  cases h : i.selector? <;> simp [selectorsOf, h]

/-- The first item gets an answer if it asks, and the others get the rest. -/
theorem dealt_item_cons (i : Item) (rest : List Item) {as : List (List String)}
    (h : as.length = i.selector?.toList.length) (bs : List (List String)) :
    dealt Item.asks (i :: rest) (as ++ bs) = (i, as.headD []) :: dealt Item.asks rest bs := by
  rw [dealt_cons]
  cases hi : i.selector? with
  | none =>
      rw [hi, Option.toList_none, List.length_nil, List.length_eq_zero_iff] at h
      simp [Item.asks, hi, h]
  | some q =>
      rw [hi, Option.toList_some, List.length_singleton, List.length_eq_one_iff] at h
      obtain ⟨names, rfl⟩ := h
      simp [Item.asks, hi]

/-- Items that pass are sound, their selectors are answered, and the answers say what they give and
what is told of them. -/
theorem AllPass.answered {items : List Item} {s s' : σ} {p : Produced} {new : List Step}
    (h : AllPass d directory s items p new s') (contract : Directory.ListsNames directory s) :
    (∀ i ∈ items, i.Sound) ∧ ∃ answers, Answered directory s (selectorsOf items) answers s' ∧
      p = madeOf d items answers ∧ eventsOf new = toldOf items answers ∧
      queriesOf new = selectorsOf items := by
  induction h with
  | nil s => exact ⟨by simp, [], .nil s, rfl, rfl, rfl⟩
  | @cons s s₁ s₂ i rest p q new more first _ ih =>
      obtain ⟨hi, as, has, rfl, htold, hasked⟩ := first.answered contract
      obtain ⟨hrest, bs, hbs, rfl, htold', hasked'⟩ := ih (first.state_eq ▸ contract.asked _)
      have hdealt := dealt_item_cons i rest has.length_eq bs
      refine ⟨by simpa using ⟨hi, hrest⟩, as ++ bs, ?_, ?_, ?_, ?_⟩
      · rw [selectorsOf_cons]
        exact has.append hbs
      · simp [madeOf, hdealt]
      · simp [toldOf, hdealt, htold, htold']
      · rw [queriesOf_append, hasked, hasked', selectorsOf_cons]

/-- Sound items whose selectors are answered pass. -/
theorem allPass_of_answered (d : Definition) {items : List Item} (sound : ∀ i ∈ items, i.Sound)
    {s s' : σ} {answers : List (List String)}
    (h : Answered directory s (selectorsOf items) answers s') :
    ∃ new, AllPass d directory s items (madeOf d items answers) new s' := by
  induction items generalizing s answers with
  | nil => cases h; exact ⟨[], .nil _⟩
  | cons i rest ih =>
      rw [selectorsOf_cons] at h
      obtain ⟨as, bs, s₁, rfl, has, hbs⟩ := h.of_append
      obtain ⟨new, first⟩ := Item.passes_of_answered d (sound i List.mem_cons_self) has
      obtain ⟨more, others⟩ := ih (fun j hj => sound j (List.mem_cons_of_mem i hj)) hbs
      refine ⟨new ++ more, ?_⟩
      simpa [madeOf, dealt_item_cons i rest has.length_eq bs] using AllPass.cons first others

/-- A definition is resolved exactly when all of its items are sound and all of its selectors are
answered, and then to what the items make of the answers. -/
theorem resolve_eq_ok_iff_items {s : σ} (contract : Directory.ListsNames directory s)
    (p : Produced) :
    (d.resolve directory s).result = .ok p ↔ (∀ i ∈ d.items, i.Sound) ∧
      ∃ answers s', Answered directory s (selectorsOf d.items) answers s' ∧
        p = madeOf d d.items answers := by
  constructor
  · intro h
    obtain ⟨new, s', pass⟩ := allPass_of_resolve_eq_ok h
    obtain ⟨sound, answers, hanswers, hmade, -⟩ := pass.answered contract
    exact ⟨sound, answers, s', hanswers, hmade⟩
  · rintro ⟨sound, answers, s', hanswers, rfl⟩
    obtain ⟨new, pass⟩ := allPass_of_answered d sound hanswers
    rw [resolve_of_allPass pass]

end

end RoleGrants
