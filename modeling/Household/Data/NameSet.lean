/-! # Sets of names

A set of names is kept as the list of its members, each once, in increasing order.
-/

set_option autoImplicit false

namespace Household

abbrev NameSet := List String

namespace NameSet

def insert : NameSet → String → NameSet
  | [], name => [name]
  | n :: rest, name =>
    if n = name then n :: rest
    else if name < n then name :: n :: rest
    else n :: insert rest name

def ofList (names : List String) : NameSet := names.foldl insert []

@[simp] theorem mem_insert {s : NameSet} {name x : String} : x ∈ insert s name ↔ x = name ∨ x ∈ s := by
  induction s with
  | nil => simp [insert]
  | cons n rest ih =>
    simp only [insert]
    split
    · rename_i h
      subst h
      simp
    · split
      · simp
      · simp only [List.mem_cons, ih]
        exact or_left_comm

end NameSet

end Household
