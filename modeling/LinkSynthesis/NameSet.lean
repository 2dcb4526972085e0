/-!
# Sets of names

Finite sets of names, held in ascending order by code point without repetition, so that two sets
with the same names are equal.
-/

namespace LinkSynthesis

/-- A set of names, ascending. -/
structure NameSet where
  names : List String
  ascending : names.Pairwise (· < ·)
deriving DecidableEq

namespace NameSet

/-- Puts a name at its place in an ascending list, unless it is there. -/
def insertName (name : String) : List String → List String
  | [] => [name]
  | x :: rest =>
    if name < x then name :: x :: rest
    else if name = x then x :: rest
    else x :: insertName name rest

theorem mem_insertName {name x : String} {l : List String} :
    x ∈ insertName name l ↔ x = name ∨ x ∈ l := by
  induction l with
  | nil => simp [insertName]
  | cons y l ih =>
    unfold insertName
    split
    · simp
    · split
      · next h => subst h; simp
      · rw [List.mem_cons, ih, List.mem_cons, or_left_comm]

theorem ascending_insertName {name : String} {l : List String} (h : l.Pairwise (· < ·)) :
    (insertName name l).Pairwise (· < ·) := by
  induction l with
  | nil => simp [insertName]
  | cons x l ih =>
    obtain ⟨hx, hl⟩ := List.pairwise_cons.1 h
    unfold insertName
    split
    · next hlt =>
      refine List.pairwise_cons.2 ⟨fun y hy => ?_, h⟩
      rcases List.mem_cons.1 hy with rfl | hy
      · exact hlt
      · exact String.lt_trans hlt (hx y hy)
    · split
      · exact h
      · next hlt hne =>
        have hgt : x < name := by
          rcases String.le_total name x with hle | hle
          · exact absurd (String.le_antisymm hle (String.not_lt.1 hlt)) hne
          · exact Decidable.byContradiction fun hn =>
              hne (String.le_antisymm (String.not_lt.1 hn) hle)
        refine List.pairwise_cons.2 ⟨fun y hy => ?_, ih hl⟩
        rcases mem_insertName.1 hy with rfl | hy
        · exact hgt
        · exact hx y hy

/-- The set without names. -/
def empty : NameSet := ⟨[], .nil⟩

/-- Adds a name. -/
def insert (s : NameSet) (name : String) : NameSet :=
  ⟨insertName name s.names, ascending_insertName s.ascending⟩

/-- The set of the names in a list. -/
def ofList (names : List String) : NameSet := names.foldr (fun name s => s.insert name) empty

/-- The name is in the set. -/
def contains (s : NameSet) (name : String) : Bool := s.names.contains name

/-- The first name in code point order. -/
def first? (s : NameSet) : Option String := s.names.head?

@[simp] theorem mem_insert {s : NameSet} {name x : String} :
    x ∈ (s.insert name).names ↔ x = name ∨ x ∈ s.names := mem_insertName

@[simp] theorem mem_ofList {names : List String} {x : String} :
    x ∈ (ofList names).names ↔ x ∈ names := by
  induction names with
  | nil => simp [ofList, empty]
  | cons name names ih =>
    rw [List.mem_cons, ← ih]
    exact mem_insert

@[simp] theorem contains_iff {s : NameSet} {name : String} :
    s.contains name = true ↔ name ∈ s.names := by
  simp [contains]

end NameSet
end LinkSynthesis
