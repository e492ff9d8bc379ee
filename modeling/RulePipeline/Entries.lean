/-! Tables from names to values, kept as lists of pairs in ascending order of the names.
`Entries` works on bare lists, so that a recursive type can hold one; `SortedMap` carries the
order with it, and two of them are equal as soon as they answer every look-up alike. -/
namespace RulePipeline

namespace Entries

variable {α β : Type}

/-- A value stored under a name that is already present takes the old one's place. -/
def insert (name : String) (value : α) : List (String × α) → List (String × α)
  | [] => [(name, value)]
  | (n, v) :: rest =>
    if name < n then (name, value) :: (n, v) :: rest
    else if name = n then (name, value) :: rest
    else (n, v) :: insert name value rest

def find? (name : String) : List (String × α) → Option α
  | [] => none
  | (n, v) :: rest => if n = name then some v else find? name rest

/-- Later pairs win over earlier ones of the same name. -/
def ofList (pairs : List (String × α)) : List (String × α) :=
  pairs.foldl (fun entries p => insert p.1 p.2 entries) []

def Sorted (entries : List (String × α)) : Prop :=
  entries.Pairwise fun a b => a.1 < b.1

instance (entries : List (String × α)) : Decidable (Sorted entries) :=
  inferInstanceAs (Decidable (entries.Pairwise _))

@[simp] theorem find?_nil (name : String) : find? name ([] : List (String × α)) = none := rfl

@[simp] theorem find?_cons (name : String) (p : String × α) (rest : List (String × α)) :
    find? name (p :: rest) = if p.1 = name then some p.2 else find? name rest := rfl

theorem lt_of_not_lt_of_ne {a b : String} (h : ¬ a < b) (ne : a ≠ b) : b < a :=
  Decidable.byContradiction fun h' => ne (String.le_antisymm h' h)

theorem find?_insert (name other : String) (value : α) (entries : List (String × α)) :
    find? other (insert name value entries) =
      if name = other then some value else find? other entries := by
  induction entries with
  | nil => simp [insert]
  | cons p rest ih =>
    obtain ⟨n, v⟩ := p
    by_cases lt : name < n
    · simp [insert, lt]
    · by_cases eq : name = n
      · subst eq
        simp only [insert, lt, if_false, if_true, find?_cons]
        split <;> rfl
      · simp only [insert, lt, eq, if_false, find?_cons, ih]
        by_cases h : n = other
        · subst h; simp [eq]
        · simp [h]

theorem mem_insert {p : String × α} {name : String} {value : α} {entries : List (String × α)}
    (h : p ∈ insert name value entries) : p = (name, value) ∨ p ∈ entries := by
  induction entries with
  | nil => simpa [insert] using h
  | cons q rest ih =>
    obtain ⟨n, v⟩ := q
    simp only [insert] at h
    split at h
    · simpa using h
    · split at h
      · rcases List.mem_cons.1 h with h | h
        · exact .inl h
        · exact .inr (List.mem_cons_of_mem _ h)
      · rcases List.mem_cons.1 h with h | h
        · exact .inr (h ▸ List.mem_cons_self)
        · exact (ih h).imp_right (List.mem_cons_of_mem _)

theorem sorted_nil : Sorted ([] : List (String × α)) := List.Pairwise.nil

theorem Sorted.insert {entries : List (String × α)} (h : Sorted entries) (name : String)
    (value : α) : Sorted (Entries.insert name value entries) := by
  induction entries with
  | nil => exact List.pairwise_singleton _ _
  | cons p rest ih =>
    obtain ⟨n, v⟩ := p
    have ⟨head, tail⟩ := List.pairwise_cons.1 h
    by_cases lt : name < n
    · simp only [Entries.insert, lt, if_true]
      refine List.pairwise_cons.2 ⟨fun q hq => ?_, h⟩
      rcases List.mem_cons.1 hq with rfl | hq
      · exact lt
      · exact String.lt_trans lt (head q hq)
    · by_cases eq : name = n
      · subst eq
        simp only [Entries.insert, lt, if_false, if_true]
        exact List.pairwise_cons.2 ⟨head, tail⟩
      · simp only [Entries.insert, lt, eq, if_false]
        refine List.pairwise_cons.2 ⟨fun q hq => ?_, ih tail⟩
        rcases mem_insert hq with rfl | hq
        · exact lt_of_not_lt_of_ne lt eq
        · exact head q hq

theorem sorted_foldl_insert (pairs : List (String × α)) {entries : List (String × α)}
    (h : Sorted entries) :
    Sorted (pairs.foldl (fun entries p => insert p.1 p.2 entries) entries) := by
  induction pairs generalizing entries with
  | nil => exact h
  | cons p rest ih => exact ih (h.insert p.1 p.2)

theorem sorted_ofList (pairs : List (String × α)) : Sorted (ofList pairs) :=
  sorted_foldl_insert pairs sorted_nil

end Entries

/-- A finite table from names to values. -/
structure SortedMap (α : Type) where
  entries : List (String × α)
  sorted : Entries.Sorted entries

namespace SortedMap

variable {α : Type}

def empty : SortedMap α := ⟨[], Entries.sorted_nil⟩

def ofList (pairs : List (String × α)) : SortedMap α :=
  ⟨Entries.ofList pairs, Entries.sorted_ofList pairs⟩

def find? (map : SortedMap α) (name : String) : Option α := Entries.find? name map.entries

def insert (map : SortedMap α) (name : String) (value : α) : SortedMap α :=
  ⟨Entries.insert name value map.entries, map.sorted.insert name value⟩

def size (map : SortedMap α) : Nat := map.entries.length

def isEmpty (map : SortedMap α) : Bool := map.entries.isEmpty

def names (map : SortedMap α) : List String := map.entries.map Prod.fst

instance : Inhabited (SortedMap α) := ⟨empty⟩

@[simp] theorem find?_empty (name : String) : (empty : SortedMap α).find? name = none := rfl

@[simp] theorem find?_insert (map : SortedMap α) (name other : String) (value : α) :
    (map.insert name value).find? other = if name = other then some value else map.find? other :=
  Entries.find?_insert name other value map.entries

end SortedMap

end RulePipeline
