import Mathlib.Logic.Basic
import RoleGrants.Trace.TracerCache

/-!
# What a cache of tracers remembers

A cache of tracers is shared by everything that asks for one, and what a request gets depends on all
that was done before it: which tracers were made or given, which were forgotten, and whether making
one has failed. Here the answer is told from the history of calls alone, without the cache.

`Since P Q history` says that something happened that `P` holds of, and nothing that `Q` holds of
after it. What a cache holds is three facts of this form, and what the provider was asked for is
what the calls asked it for, in order (`Reflects`). A call does to the cache what it adds to these
facts (`Does`), so they are kept by every call (`Reflects.concat`) and hold of the cache that any
calls leave behind (`reflects_run`).
-/

namespace RoleGrants

/-! ## What happened last -/

/-- In a history, something that `P` holds of, and nothing that `Q` holds of after it. -/
def Since {α : Type} (P Q : α → Prop) (history : List α) : Prop :=
  ∃ earlier a later, history = earlier ++ a :: later ∧ P a ∧ ∀ b ∈ later, ¬ Q b

theorem not_since_nil {α : Type} (P Q : α → Prop) : ¬ Since P Q [] := by
  rintro ⟨earlier, a, later, h, -⟩
  simp at h

theorem since_concat {α : Type} {P Q : α → Prop} {history : List α} {a : α} :
    Since P Q (history ++ [a]) ↔ P a ∨ (Since P Q history ∧ ¬ Q a) := by
  constructor
  · rintro ⟨earlier, b, later, h, hb, hlater⟩
    rcases List.eq_nil_or_concat later with rfl | ⟨later, c, rfl⟩
    · obtain ⟨-, hab⟩ := List.append_inj' h rfl
      obtain rfl : a = b := by simpa using hab
      exact .inl hb
    · rw [List.concat_eq_append, ← List.cons_append, ← List.append_assoc] at h
      obtain ⟨rfl, hac⟩ := List.append_inj' h rfl
      obtain rfl : a = c := by simpa using hac
      refine .inr ⟨⟨earlier, b, later, rfl, hb, ?_⟩, hlater a (by simp)⟩
      intro d hd
      exact hlater d (by simp [hd])
  · rintro (ha | ⟨⟨earlier, b, later, rfl, hb, hlater⟩, ha⟩)
    · exact ⟨history, a, [], rfl, ha, by simp⟩
    · refine ⟨earlier, b, later ++ [a], by simp, hb, ?_⟩
      intro c hc
      rcases List.mem_append.mp hc with hc | hc
      · exact hlater c hc
      · obtain rfl : c = a := by simpa using hc
        exact ha

namespace TracerCache

variable {τ : Type}

/-! ## Calls -/

/-- What may be done with a cache. A request says what the provider would do if it were asked. -/
inductive Op (τ : Type) where
  | get (name : String) (make : Option τ)
  | set (name : String) (tracer : Option τ)
  | reset

/-- What was done with a cache: of a request, what the provider was asked for, and the answer. -/
inductive Call (τ : Type) where
  | get (name : String) (make : Option τ) (asked : List String) (answer : Option τ)
  | set (name : String) (tracer : Option τ)
  | reset

/-- What the provider was asked for by what made one cache of another. -/
def callsSince (earlier later : TracerCache τ) : List String :=
  (later.calls.take (later.calls.length - earlier.calls.length)).reverse

/-- Does something with a cache. -/
def perform (c : TracerCache τ) : Op τ → Call τ × TracerCache τ
  | .get name make =>
    let got := c.get name make
    (.get name make (callsSince c got.2) got.1, got.2)
  | .set name tracer => (.set name tracer, c.set name tracer)
  | .reset => (.reset, c.reset)

/-- What comes of doing one thing after the other, and the cache that is left. -/
def runFrom (c : TracerCache τ) : List (Op τ) → List (Call τ) × TracerCache τ
  | [] => ([], c)
  | op :: ops =>
    let first := c.perform op
    let rest := first.2.runFrom ops
    (first.1 :: rest.1, rest.2)

/-- The calls made of a cache that nothing has been done with. -/
def history (ops : List (Op τ)) : List (Call τ) := ((empty : TracerCache τ).runFrom ops).1

theorem runFrom_append (c : TracerCache τ) (ops more : List (Op τ)) :
    c.runFrom (ops ++ more) =
      ((c.runFrom ops).1 ++ ((c.runFrom ops).2.runFrom more).1,
        ((c.runFrom ops).2.runFrom more).2) := by
  induction ops generalizing c with
  | nil => rfl
  | cons op ops ih => simp [runFrom, ih]

namespace Call

variable {name : String} {call : Call τ}

/-- The names that the provider is asked for. -/
def asked : Call τ → List String
  | .get _ _ asked _ => asked
  | _ => []

/-- The call keeps a tracer under a name: one that was given, or one that the provider made. -/
def Stores (name : String) (t : τ) : Call τ → Prop
  | .get _ make asked _ => asked = [name] ∧ make = some t
  | .set n tracer => n = name ∧ tracer = some t
  | .reset => False

/-- The call forgets the tracer of a name. -/
def Forgets (name : String) : Call τ → Prop
  | .get .. => False
  | .set n tracer => n = name ∧ tracer = none
  | .reset => True

/-- The call asks the provider for the tracer of a name. -/
def Asks (name : String) : Call τ → Prop
  | .get _ _ asked _ => asked = [name]
  | _ => False

/-- The call asks the provider, which fails. -/
def Fails : Call τ → Prop
  | .get _ make asked _ => asked ≠ [] ∧ make = none
  | _ => False

/-- The call resets the cache. -/
def Resets : Call τ → Prop
  | .reset => True
  | _ => False

/-- The call changes what is kept under a name. -/
def Changes (name : String) (call : Call τ) : Prop := call.Forgets name ∨ ∃ t, call.Stores name t

/-- The provider makes a tracer or fails. -/
theorem Asks.stores_or_fails (h : call.Asks name) : (∃ t, call.Stores name t) ∨ call.Fails := by
  cases call with
  | get n make asked answer =>
    obtain rfl : asked = [name] := h
    cases make with
    | some t => exact .inl ⟨t, rfl, rfl⟩
    | none => exact .inr ⟨List.cons_ne_nil _ _, rfl⟩
  | set n tracer => exact h.elim
  | reset => exact h.elim

theorem Resets.forgets (h : call.Resets) (name : String) : call.Forgets name := by
  cases call with
  | get n make asked answer => exact h.elim
  | set n tracer => exact h.elim
  | reset => trivial

end Call

/-- A tracer is the last one kept under a name, and it was not forgotten since. -/
def Kept (name : String) (t : τ) : List (Call τ) → Prop :=
  Since (Call.Stores name t) (Call.Changes name)

/-- Making a tracer has failed, and the cache was not reset since. -/
def HasFailed : List (Call τ) → Prop := Since Call.Fails Call.Resets

/-- The provider was asked for the tracer of a name, which was not forgotten since. -/
def WasAsked (name : String) : List (Call τ) → Prop := Since (Call.Asks name) (Call.Forgets name)

/-! ## What a call does -/

/-- The answer to a request for the tracer of a name is settled without the provider. -/
def Settles (c : TracerCache τ) (name : String) : Prop :=
  (∃ t, c.find? name = some t) ∨ c.failed = true

/-- How a request ends: what it asks the provider for, the answer, and the cache that it leaves. -/
inductive Gets (c : TracerCache τ) (name : String) (make : Option τ) :
    List String → Option τ → TracerCache τ → Prop
  | kept {t : τ} (h : c.find? name = some t) : Gets c name make [] (some t) c
  | refused (h : c.find? name = none) (hfailed : c.failed = true) : Gets c name make [] none c
  | made {t : τ} (h : ¬ c.Settles name) (hmake : make = some t) :
    Gets c name make [name] (some t) ((c.ask name make).2.store name t)
  | failed (h : ¬ c.Settles name) (hmake : make = none) :
    Gets c name make [name] none { (c.ask name make).2 with failed := true }

@[simp] theorem callsSince_self (c : TracerCache τ) : callsSince c c = [] := by
  simp [callsSince]

theorem callsSince_of_cons {c c' : TracerCache τ} {name : String}
    (h : c'.calls = name :: c.calls) : callsSince c c' = [name] := by
  simp [callsSince, h]

theorem gets (c : TracerCache τ) (name : String) (make : Option τ) :
    Gets c name make (callsSince c (c.get name make).2) (c.get name make).1
      (c.get name make).2 := by
  unfold get getLocked
  cases hfind : c.find? name with
  | some t =>
    rw [callsSince_self]
    exact .kept hfind
  | none =>
    cases hfailed : c.failed with
    | true =>
      rw [if_pos rfl, callsSince_self]
      exact .refused hfind hfailed
    | false =>
      have hopen : ¬ c.Settles name := by simp [Settles, hfind, hfailed]
      cases make with
      | some t =>
        have hcalls : ((c.ask name (some t)).2.store name t).calls = name :: c.calls := rfl
        simp only [Bool.false_eq_true, if_false, ask]
        exact callsSince_of_cons hcalls ▸ .made hopen rfl
      | none =>
        have hcalls : ({ (c.ask name none).2 with failed := true } : TracerCache τ).calls =
            name :: c.calls := rfl
        simp only [Bool.false_eq_true, if_false, ask]
        exact callsSince_of_cons hcalls ▸ .failed hopen rfl

/-- All that a call does to a cache. -/
structure Does (c : TracerCache τ) (call : Call τ) (c' : TracerCache τ) : Prop where
  kept : ∀ name t, c'.find? name = some t ↔
    call.Stores name t ∨ (c.find? name = some t ∧ ¬ call.Changes name)
  failed : c'.failed = true ↔ call.Fails ∨ (c.failed = true ∧ ¬ call.Resets)
  calls : c'.calls = call.asked.reverse ++ c.calls

theorem Gets.does {c c' : TracerCache τ} {name : String} {make answer : Option τ}
    {asked : List String} (h : Gets c name make asked answer c') :
    Does c (.get name make asked answer) c' := by
  cases h with
  | kept | refused =>
    refine ⟨fun other t => ?_, ?_, rfl⟩
    · simp [Call.Stores, Call.Changes, Call.Forgets]
    · simp [Call.Fails, Call.Resets]
  | @made t _ hmake =>
    subst hmake
    refine ⟨fun other s => ?_, ?_, rfl⟩
    · rcases eq_or_ne name other with rfl | hne
      · simp [Call.Stores, Call.Changes, find?_store]
      · simp [Call.Stores, Call.Changes, Call.Forgets, find?_store, hne, hne.symm]
    · simp [Call.Fails, Call.Resets, store, ask]
  | failed _ hmake =>
    subst hmake
    refine ⟨fun other s => ?_, ?_, rfl⟩
    · simp [Call.Stores, Call.Changes, Call.Forgets, find?, ask]
    · simp [Call.Fails]

theorem does_set (c : TracerCache τ) (name : String) (tracer : Option τ) :
    Does c (.set name tracer) (c.set name tracer) := by
  cases tracer with
  | none =>
    refine ⟨fun other t => ?_, ?_, rfl⟩
    · rcases eq_or_ne name other with rfl | hne
      · simp [Call.Stores, Call.Changes, Call.Forgets, set, find?_clear]
      · simp [Call.Stores, Call.Changes, Call.Forgets, set, find?_clear, hne, hne.symm]
    · simp [Call.Fails, Call.Resets, set, clear]
  | some s =>
    refine ⟨fun other t => ?_, ?_, rfl⟩
    · rcases eq_or_ne name other with rfl | hne
      · simp [Call.Stores, Call.Changes, set, find?_store]
      · simp [Call.Stores, Call.Changes, Call.Forgets, set, find?_store, hne, hne.symm]
    · simp [Call.Fails, Call.Resets, set, store]

theorem does_reset (c : TracerCache τ) : Does c .reset c.reset where
  kept name t := by simp [Call.Stores, Call.Changes, Call.Forgets, reset, find?]
  failed := by simp [Call.Fails, Call.Resets, reset]
  calls := rfl

theorem does_perform (c : TracerCache τ) (op : Op τ) :
    Does c (c.perform op).1 (c.perform op).2 := by
  cases op with
  | get name make => exact (gets c name make).does
  | set name tracer => exact does_set c name tracer
  | reset => exact does_reset c

/-! ## The cache and its history -/

/-- What is in a cache is what its history says. -/
structure Reflects (c : TracerCache τ) (calls : List (Call τ)) : Prop where
  kept : ∀ name t, c.find? name = some t ↔ Kept name t calls
  failed : c.failed = true ↔ HasFailed calls
  /-- The provider is not asked again for what it was asked for. -/
  asked : ∀ name, WasAsked name calls → c.Settles name
  calls : c.calls.reverse = calls.flatMap Call.asked

theorem reflects_empty : Reflects (empty : TracerCache τ) [] where
  kept name t := by simp [Kept, not_since_nil]
  failed := by simp [empty, HasFailed, not_since_nil]
  asked name h := absurd h (not_since_nil _ _)
  calls := rfl

variable {c c' : TracerCache τ} {calls : List (Call τ)} {call : Call τ}

theorem Reflects.concat (h : Reflects c calls) (hdoes : Does c call c') :
    Reflects c' (calls ++ [call]) := by
  have kept name t : c'.find? name = some t ↔ Kept name t (calls ++ [call]) := by
    rw [hdoes.kept, h.kept]
    exact since_concat.symm
  have failed : c'.failed = true ↔ HasFailed (calls ++ [call]) := by
    rw [hdoes.failed, h.failed]
    exact since_concat.symm
  refine ⟨kept, failed, ?_, by simp [hdoes.calls, h.calls]⟩
  intro name hasked
  rcases since_concat.mp hasked with hasks | ⟨hbefore, hforgets⟩
  · rcases hasks.stores_or_fails with ⟨t, hstores⟩ | hfails
    · exact .inl ⟨t, (hdoes.kept name t).mpr (.inl hstores)⟩
    · exact .inr (hdoes.failed.mpr (.inl hfails))
  · rcases h.asked name hbefore with ⟨t, hfind⟩ | hfailed
    · by_cases hstores : ∃ s, call.Stores name s
      · obtain ⟨s, hs⟩ := hstores
        exact .inl ⟨s, (hdoes.kept name s).mpr (.inl hs)⟩
      · exact .inl ⟨t, (hdoes.kept name t).mpr (.inr ⟨hfind, not_or.mpr ⟨hforgets, hstores⟩⟩)⟩
    · have hresets : ¬ call.Resets := fun hr => hforgets (hr.forgets name)
      exact .inr (hdoes.failed.mpr (.inr ⟨hfailed, hresets⟩))

theorem Reflects.runFrom (h : Reflects c calls) (ops : List (Op τ)) :
    Reflects (c.runFrom ops).2 (calls ++ (c.runFrom ops).1) := by
  induction ops generalizing c calls with
  | nil => simpa [TracerCache.runFrom] using h
  | cons op ops ih =>
    have hstep := ih (h.concat (does_perform c op))
    rw [List.append_assoc] at hstep
    exact hstep

/-- The cache that calls leave behind is what their history says. -/
theorem reflects_run (ops : List (Op τ)) :
    Reflects ((empty : TracerCache τ).runFrom ops).2 (history ops) := by
  have h := reflects_empty.runFrom ops
  rw [List.nil_append] at h
  exact h

/-! ## What a request gets -/

/-- What the history before a request says of it: what the provider is asked for, and the answer. -/
inductive Due (calls : List (Call τ)) (name : String) (make : Option τ) :
    List String → Option τ → Prop
  /-- The tracer that was last kept under the name is there. -/
  | kept {t : τ} (h : Kept name t calls) : Due calls name make [] (some t)
  /-- There is none, and making one has failed. -/
  | refused (h : ∀ t, ¬ Kept name t calls) (hfailed : HasFailed calls) :
    Due calls name make [] none
  /-- There is none and nothing has failed. The provider was not asked for this one before. -/
  | asked (h : ∀ t, ¬ Kept name t calls) (hfailed : ¬ HasFailed calls)
      (hasked : ¬ WasAsked name calls) : Due calls name make [name] make

theorem Reflects.due (h : Reflects c calls) {name : String} {make answer : Option τ}
    {asked : List String} (hgets : Gets c name make asked answer c') :
    Due calls name make asked answer := by
  have hasked (hopen : ¬ c.Settles name) : Due calls name make [name] make := by
    have hnone (t : τ) : ¬ Kept name t calls := fun hkept =>
      hopen (.inl ⟨t, (h.kept name t).mpr hkept⟩)
    have hfailed : ¬ HasFailed calls := fun hf => hopen (.inr (h.failed.mpr hf))
    exact .asked hnone hfailed fun hwas => hopen (h.asked name hwas)
  cases hgets with
  | kept hfind => exact .kept ((h.kept name _).mp hfind)
  | refused hfind hfailed =>
    refine .refused (fun t hkept => ?_) (h.failed.mp hfailed)
    rw [← h.kept, hfind] at hkept
    cases hkept
  | made hopen hmake => exact hmake ▸ hasked hopen
  | failed hopen hmake => exact hmake ▸ hasked hopen

/-- A request is answered from the history of calls before it: with the tracer that was last kept
under the name, if it was not forgotten; else with none, if making a tracer has failed since the
last reset; else with what the provider makes. Only then is the provider asked, and for a name it is
asked once until that name is forgotten. All that the provider was ever asked for is in the
history. -/
theorem answered_from_history (before after : List (Op τ)) (name : String) (make : Option τ) :
    (∃ asked answer rest,
      history (before ++ .get name make :: after) =
        history before ++ .get name make asked answer :: rest ∧
      Due (history before) name make asked answer) ∧
    ((empty : TracerCache τ).runFrom before).2.calls.reverse =
      (history before).flatMap Call.asked := by
  let c : TracerCache τ := (empty.runFrom before).2
  have hrun : history (before ++ .get name make :: after) =
      history before ++
        .get name make (callsSince c (c.get name make).2) (c.get name make).1 ::
          ((c.get name make).2.runFrom after).1 := by
    rw [history, runFrom_append]
    rfl
  have hreflects : Reflects c (history before) := reflects_run before
  exact ⟨⟨_, _, _, hrun, hreflects.due (gets c name make)⟩, hreflects.calls⟩

/-- A failure outlives a tracer that is given for another name. -/
example : history [.get "a" none, .set "b" (some 1), .get "a" (some 2), .reset, .get "a" (some 3)] =
    [.get "a" none ["a"] none, .set "b" (some 1), .get "a" (some 2) [] none, .reset,
      .get "a" (some 3) ["a"] (some 3)] := rfl

end TracerCache

end RoleGrants
