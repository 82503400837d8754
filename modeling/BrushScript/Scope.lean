/-!
# Scopes

A scope binds names to things: variables to types while a program is checked, variables to values
while it runs. Binding a name again replaces what it was bound to. `get?_set` is the whole law.

Names are compared letter for letter, case included. The bindings are a list, in the order in which
the names were bound first, and each name is in it once as long as it is built by `set`. The entries
of a folder are kept in the same way, which is what `remove` is for.
-/

namespace BrushScript

/-- Names and what they are bound to, each name once. -/
structure Scope (α : Type) where
  bindings : List (String × α)

namespace Scope

variable {α : Type}

/-- The scope without names. -/
def empty : Scope α := ⟨[]⟩

/-- The first binding of a name. -/
def find? (name : String) : List (String × α) → Option α
  | [] => none
  | binding :: rest => if name = binding.1 then some binding.2 else find? name rest

/-- What a name is bound to. -/
def get? (s : Scope α) (name : String) : Option α := find? name s.bindings

/-- The bindings with one name bound anew, in its place or at the end. -/
def replace (name : String) (value : α) : List (String × α) → List (String × α)
  | [] => [(name, value)]
  | binding :: rest =>
    if name = binding.1 then (name, value) :: rest else binding :: replace name value rest

/-- The bindings without those of a name. -/
def remove (name : String) (bindings : List (String × α)) : List (String × α) :=
  bindings.filter fun binding => name ≠ binding.1

/-- The scope with a name bound. -/
def set (s : Scope α) (name : String) (value : α) : Scope α := ⟨replace name value s.bindings⟩

theorem find?_replace (name other : String) (value : α) (bindings : List (String × α)) :
    find? other (replace name value bindings) =
      if other = name then some value else find? other bindings := by
  induction bindings with
  | nil => simp [replace, find?]
  | cons binding rest ih =>
    unfold replace
    by_cases h : name = binding.1
    · by_cases k : other = name
      · simp [h, k, find?]
      · simp [find?, ← h, k]
    · by_cases k : other = name
      · subst k
        simp [h, find?, ih]
      · simp [h, find?, ih, k]

/-- A name that was set is found; every other name is found as before. -/
theorem get?_set (s : Scope α) (name other : String) (value : α) :
    (s.set name value).get? other = if other = name then some value else s.get? other :=
  find?_replace ..

end Scope
end BrushScript
