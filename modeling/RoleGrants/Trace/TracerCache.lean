/-!
# A cache of tracers

Tracers are made by a provider when they are first asked for, and kept by name. Once the provider
has failed to make one it is not asked again until the cache is reset, and whoever asks for a tracer
that is not there gets none. What the provider is asked for is remembered, too, and a reset does not
undo it.
-/

namespace RoleGrants

/-- Tracers by name, and whether making one has failed. -/
structure TracerCache (τ : Type) where
  tracers : List (String × τ)
  failed : Bool
  /-- The names that the provider was asked for, the last one first. -/
  calls : List String
  deriving Repr

namespace TracerCache

variable {τ : Type}

/-- The name a tracer is asked for by when none is given. -/
def defaultName : String := "rbac_manager"

/-- The cache with nothing in it. -/
def empty : TracerCache τ := ⟨[], false, []⟩

/-- The tracer of a name. -/
def find? (name : String) (c : TracerCache τ) : Option τ :=
  (c.tracers.find? fun t => t.1 == name).map (·.2)

/-- The cache without the tracer of a name. -/
def clear (name : String) (c : TracerCache τ) : TracerCache τ :=
  { c with tracers := c.tracers.filter fun t => t.1 != name }

/-- Keeps a tracer under a name. -/
def store (name : String) (t : τ) (c : TracerCache τ) : TracerCache τ :=
  { c with tracers := (name, t) :: (c.clear name).tracers }

@[simp] theorem find?_empty (name : String) : (empty : TracerCache τ).find? name = none := rfl

theorem find?_clear (name other : String) (c : TracerCache τ) :
    (c.clear name).find? other = if other = name then none else c.find? other := by
  rw [find?, clear, List.find?_filter]
  split
  · rename_i h
    subst h
    simp
  · rename_i h
    have hsame : (fun t : String × τ => t.1 != name && t.1 == other) = fun t => t.1 == other := by
      funext t
      by_cases ht : t.1 = other
      · simp [ht, h]
      · simp [ht]
    simp only [Bool.decide_and, hsame, Bool.decide_eq_true]
    rfl

theorem find?_store (name other : String) (t : τ) (c : TracerCache τ) :
    (c.store name t).find? other = if other = name then some t else c.find? other := by
  have hclear := find?_clear name other c
  rw [find?] at hclear
  by_cases h : other = name
  · subst h
    simp [find?, store]
  · simp only [if_neg h] at hclear ⊢
    simp [find?, store, Ne.symm h, hclear]

/-- Asks the provider for the tracer of a name. `make` is what it does: make a tracer, or fail. -/
def ask (name : String) (make : Option τ) (c : TracerCache τ) : Option τ × TracerCache τ :=
  (make, { c with calls := name :: c.calls })

@[simp] theorem find?_ask (name other : String) (make : Option τ) (c : TracerCache τ) :
    (c.ask name make).2.find? other = c.find? other := rfl

/-- What becomes of a request for the tracer of a name once it has the cache for itself. -/
def getLocked (name : String) (make : Option τ) (c : TracerCache τ) : Option τ × TracerCache τ :=
  match c.find? name with
  | some t => (some t, c)
  | none =>
    if c.failed then (none, c)
    else
      match c.ask name make with
      | (some t, c) => (some t, c.store name t)
      | (none, c) => (none, { c with failed := true })

/-- What becomes of a request for the tracer of a name: it looks at the cache, and where that does
not settle the answer it looks again with the cache for itself. `make` is what the provider would do
if it were asked. -/
def get (name : String) (make : Option τ) (c : TracerCache τ) : Option τ × TracerCache τ :=
  match c.find? name with
  | some t => (some t, c)
  | none => if c.failed then (none, c) else c.getLocked name make

/-- Keeps a given tracer under a name, or forgets the one that is kept. -/
def set (name : String) : Option τ → TracerCache τ → TracerCache τ
  | some t, c => c.store name t
  | none, c => c.clear name

/-- Forgets all tracers, and that making one has failed. -/
def reset (c : TracerCache τ) : TracerCache τ := { c with tracers := [], failed := false }

end TracerCache

end RoleGrants
