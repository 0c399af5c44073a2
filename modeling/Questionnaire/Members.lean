/-!
# Ordered members

An object with named members is a list of pairs in the order in which the names first came.
`put` replaces the value of a name in its place or adds the name at the end; `overlay` puts the
members of one object over another.
-/

namespace Questionnaire

/-- Named members, in the order in which the names first came. -/
abbrev Members (α : Type) := List (String × α)

namespace Members

variable {α : Type}

/-- The value of a name. -/
def get? (ms : Members α) (name : String) : Option α := (ms.find? (·.1 = name)).map (·.2)

/-- Whether there is a member of that name. -/
def has (ms : Members α) (name : String) : Bool := ms.any (·.1 = name)

/-- The names in order. -/
def names (ms : Members α) : List String := ms.map (·.1)

/-- Gives a name a value: in the place of its old one, or at the end. -/
def put (name : String) (a : α) : Members α → Members α
  | [] => [(name, a)]
  | (n, b) :: rest => if n = name then (n, a) :: rest else (n, b) :: put name a rest

/-- Puts the members of `top` over those of `base` one after the other. -/
def overlay (base top : Members α) : Members α :=
  top.foldl (fun ms m => ms.put m.1 m.2) base

/-- Members from pairs, of which a later one of the same name wins. -/
def ofPairs (pairs : List (String × α)) : Members α := overlay [] pairs

theorem get?_put (ms : Members α) (name other : String) (a : α) :
    (ms.put name a).get? other = if name = other then some a else ms.get? other := by
  induction ms with
  | nil => by_cases h : name = other <;> simp [put, get?, h]
  | cons m rest ih =>
    obtain ⟨n, b⟩ := m
    simp only [get?] at ih
    by_cases hn : n = name
    · subst hn
      by_cases h : n = other <;> simp [put, get?, h]
    · by_cases h : n = other
      · subst h
        simp [put, get?, hn, Ne.symm hn]
      · simp [put, get?, hn, h, ih]

theorem names_put (ms : Members α) (name : String) (a : α) :
    (ms.put name a).names = if name ∈ ms.names then ms.names else ms.names ++ [name] := by
  induction ms with
  | nil => simp [put, names]
  | cons m rest ih =>
    obtain ⟨n, b⟩ := m
    simp only [names] at ih
    by_cases hn : n = name
    · simp [put, names, hn]
    · by_cases h : name ∈ rest.map (·.1) <;> simp [put, names, hn, Ne.symm hn, ih, h]

end Members

end Questionnaire
