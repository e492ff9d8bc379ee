import RulePipeline.Entries

/-! Tables under several insertions, one after another, and under a change of all their values. A
name that is inserted reads the same whatever the table was, and any other name reads as before.
Entries that are in order already make a table as they are, and some of them make a part of it. -/
namespace RulePipeline

variable {α β : Type}

namespace Entries

variable {name : String} {value : α} {entries : List (String × α)}

theorem mem_of_find? (found : find? name entries = some value) : (name, value) ∈ entries := by
  induction entries with
  | nil => cases found
  | cons p rest ih =>
    rw [find?_cons] at found
    split at found
    · rename_i same
      cases found
      exact same ▸ List.mem_cons_self
    · exact List.mem_cons_of_mem _ (ih found)

theorem insert_of_last (last : ∀ p ∈ entries, p.1 < name) :
    insert name value entries = entries ++ [(name, value)] := by
  induction entries with
  | nil => rfl
  | cons p rest ih =>
    have less : p.1 < name := last p List.mem_cons_self
    have not_less : ¬ name < p.1 := String.lt_asymm less
    have ne : name ≠ p.1 := (String.ne_of_lt less).symm
    have later := ih fun q member => last q (List.mem_cons_of_mem _ member)
    rw [insert, if_neg not_less, if_neg ne, later, List.cons_append]

theorem foldl_insert_of_sorted {front back : List (String × α)} (sorted : Sorted (front ++ back)) :
    back.foldl (fun entries p => insert p.1 p.2 entries) front = front ++ back := by
  induction back generalizing front with
  | nil => simp
  | cons p rest ih =>
    have last : ∀ q ∈ front, q.1 < p.1 := fun q member =>
      (List.pairwise_append.mp sorted).2.2 q member p List.mem_cons_self
    have grown : Sorted ((front ++ [p]) ++ rest) := by simpa using sorted
    rw [List.foldl_cons, insert_of_last last, ih grown]
    simp

theorem ofList_of_sorted (sorted : Sorted entries) : ofList entries = entries := by
  have behind : Sorted ([] ++ entries) := sorted
  exact foldl_insert_of_sorted behind

theorem mem_foldl_insert {p : String × α} {pairs : List (String × α)}
    (member : p ∈ pairs.foldl (fun entries p => insert p.1 p.2 entries) entries) :
    p ∈ pairs ∨ p ∈ entries := by
  induction pairs generalizing entries with
  | nil => exact .inr member
  | cons q rest ih =>
    rcases ih member with later | earlier
    · exact .inl (List.mem_cons_of_mem _ later)
    · rcases mem_insert earlier with rfl | earlier
      · exact .inl List.mem_cons_self
      · exact .inr earlier

theorem mem_of_mem_ofList {p : String × α} (member : p ∈ ofList entries) : p ∈ entries :=
  (mem_foldl_insert member).resolve_right List.not_mem_nil

/-- The entries under their names, with all values changed alike. -/
def map (f : α → β) (entries : List (String × α)) : List (String × β) :=
  entries.map fun p => (p.1, f p.2)

@[simp] theorem map_cons (f : α → β) (p : String × α) (rest : List (String × α)) :
    map f (p :: rest) = (p.1, f p.2) :: map f rest := rfl

@[simp] theorem find?_map (f : α → β) (name : String) (entries : List (String × α)) :
    find? name (map f entries) = (find? name entries).map f := by
  induction entries with
  | nil => rfl
  | cons p rest ih =>
    rw [map_cons, find?_cons, find?_cons, ih]
    split <;> rfl

theorem Sorted.map {f : α → β} (sorted : Sorted entries) : Sorted (Entries.map f entries) := by
  rw [Sorted, Entries.map, List.pairwise_map]
  exact sorted

theorem sorted_singleton (p : String × α) : Sorted [p] := List.pairwise_singleton _ _

theorem sorted_cons_cons {p q : String × α} {rest : List (String × α)} :
    Sorted (p :: q :: rest) ↔ p.1 < q.1 ∧ Sorted (q :: rest) := by
  refine ⟨fun sorted => ?_, fun ⟨less, sorted⟩ => ?_⟩
  · have ⟨first, later⟩ := List.pairwise_cons.mp sorted
    exact ⟨first q List.mem_cons_self, later⟩
  · refine List.pairwise_cons.mpr ⟨List.forall_mem_cons.mpr ⟨less, fun r member => ?_⟩, sorted⟩
    exact String.lt_trans less ((List.pairwise_cons.mp sorted).1 r member)

theorem find?_append (name : String) (front back : List (String × α)) :
    find? name (front ++ back) = (find? name front).or (find? name back) := by
  induction front with
  | nil => rfl
  | cons p rest ih =>
    rw [List.cons_append, find?_cons, find?_cons, ih]
    split <;> rfl

theorem find?_filter {p : String → Bool} (kept : p name) :
    find? name (entries.filter fun e => p e.1) = find? name entries := by
  induction entries with
  | nil => rfl
  | cons e rest ih =>
    by_cases here : p e.1
    · rw [List.filter_cons_of_pos (by simpa using here), find?_cons, find?_cons, ih]
    · have other : e.1 ≠ name := fun same => here (same ▸ kept)
      rw [List.filter_cons_of_neg (by simpa using here), ih, find?_cons, if_neg other]

theorem filter_of_find? (sorted : Sorted entries) (found : find? name entries = some value) :
    entries.filter (·.1 = name) = [(name, value)] := by
  induction entries with
  | nil => cases found
  | cons e rest ih =>
    have ⟨first, later⟩ := List.pairwise_cons.mp sorted
    rw [find?_cons] at found
    split at found
    · rename_i same
      cases found
      have nothing : rest.filter (·.1 = name) = [] :=
        List.filter_eq_nil_iff.mpr fun q member => by
          simpa [same] using (String.ne_of_lt (first q member)).symm
      rw [List.filter_cons_of_pos (by simpa using same), nothing, ← same]
    · rename_i other
      rw [List.filter_cons_of_neg (by simpa using other), ih later found]

theorem find?_eq_none : find? name entries = none ↔ ∀ p ∈ entries, p.1 ≠ name := by
  induction entries with
  | nil => simp
  | cons p rest ih =>
    rw [find?_cons, List.forall_mem_cons, ← ih]
    split <;> simp_all

theorem find?_of_below (below : ∀ p ∈ entries, name < p.1) : find? name entries = none :=
  find?_eq_none.mpr fun p member => (String.ne_of_lt (below p member)).symm

theorem find?_foldl_insert {pairs : List (String × α)} (distinct : (pairs.map Prod.fst).Nodup)
    (name : String) : find? name (pairs.foldl (fun entries p => insert p.1 p.2 entries) entries) =
      (find? name pairs).or (find? name entries) := by
  induction pairs generalizing entries with
  | nil => rfl
  | cons p rest ih =>
    obtain ⟨first, later⟩ := List.nodup_cons.mp distinct
    rw [List.foldl_cons, ih later, find?_insert, find?_cons]
    by_cases here : p.1 = name
    · have absent : find? name rest = none := find?_eq_none.mpr fun q member same =>
        first (List.mem_map.mpr ⟨q, member, same.trans here.symm⟩)
      simp [here, absent]
    · simp [here]

/-- Where no name comes twice, the order of the pairs does not matter. -/
theorem find?_ofList {pairs : List (String × α)} (distinct : (pairs.map Prod.fst).Nodup)
    (name : String) : find? name (ofList pairs) = find? name pairs := by
  rw [ofList, find?_foldl_insert distinct, find?_nil, Option.or_none]

theorem Sorted.filter (sorted : Sorted entries) (p : String × α → Bool) :
    Sorted (entries.filter p) := List.Pairwise.filter p sorted

theorem find?_filter_value (sorted : Sorted entries) (p : α → Bool) (name : String) :
    find? name (entries.filter fun e => p e.2) = (find? name entries).filter p := by
  induction entries with
  | nil => rfl
  | cons e rest ih =>
    have ⟨first, later⟩ := List.pairwise_cons.mp sorted
    by_cases here : e.1 = name
    · have absent : find? name rest = none := find?_of_below (here ▸ first)
      cases passes : p e.2 with
      | true => simp [passes, here, Option.filter]
      | false => simp [passes, here, Option.filter, ih later, absent]
    · cases passes : p e.2 with
      | true => simp [passes, here, ih later]
      | false => simp [passes, here, ih later]

theorem find?_of_mem (sorted : Sorted entries) {p : String × α} (member : p ∈ entries) :
    find? p.1 entries = some p.2 := by
  induction entries with
  | nil => cases member
  | cons q rest ih =>
    have ⟨first, later⟩ := List.pairwise_cons.mp sorted
    rw [find?_cons]
    rcases List.mem_cons.mp member with rfl | behind
    · rw [if_pos rfl]
    · rw [if_neg (String.ne_of_lt (first p behind)), ih later behind]

theorem eq_of_find? {others : List (String × α)} (sorted : Sorted entries)
    (others_sorted : Sorted others) (same : ∀ name, find? name entries = find? name others) :
    entries = others := by
  induction entries generalizing others with
  | nil =>
    cases others with
    | nil => rfl
    | cons q _ => simpa using same q.1
  | cons p rest ih =>
    cases others with
    | nil => simpa using same p.1
    | cons q behind =>
      have ⟨first, later⟩ := List.pairwise_cons.mp sorted
      have ⟨others_first, others_later⟩ := List.pairwise_cons.mp others_sorted
      have names : p.1 = q.1 := by
        have left : (p.1, p.2) ∈ q :: behind := mem_of_find? (by simp [← same])
        have right : (q.1, q.2) ∈ p :: rest := mem_of_find? (by simp [same])
        rcases List.mem_cons.mp left with here | left
        · exact congrArg Prod.fst here
        · rcases List.mem_cons.mp right with here | right
          · exact (congrArg Prod.fst here).symm
          · -- Each of the two first names would be below the other.
            have less : q.1 < p.1 := others_first _ left
            have greater : p.1 < q.1 := first _ right
            exact absurd greater (String.lt_asymm less)
      have values : p.2 = q.2 := by simpa [names] using same p.1
      have rests : rest = behind := by
        apply ih later others_later
        intro name
        by_cases here : p.1 = name
        · have absent : find? name rest = none := find?_of_below (here ▸ first)
          have others_absent : find? name behind = none :=
            find?_of_below (here ▸ names ▸ others_first)
          rw [absent, others_absent]
        · have there : q.1 ≠ name := names ▸ here
          simpa [here, there] using same name
      rw [rests, Prod.ext names values]

end Entries

namespace SortedMap

theorem ext_find? {map other : SortedMap α} (same : ∀ name, map.find? name = other.find? name) :
    map = other := by
  obtain ⟨entries, sorted⟩ := map
  obtain ⟨others, others_sorted⟩ := other
  cases Entries.eq_of_find? sorted others_sorted same
  rfl

theorem insert_insert (map : SortedMap α) (name : String) (a b : α) :
    (map.insert name a).insert name b = map.insert name b := by
  apply ext_find?
  intro other
  simp only [find?_insert]
  split <;> rfl

def insertAll (map : SortedMap α) (pairs : List (String × α)) : SortedMap α :=
  pairs.foldl (fun m p => m.insert p.1 p.2) map

@[simp] theorem insertAll_nil (map : SortedMap α) : map.insertAll [] = map := rfl

@[simp] theorem insertAll_cons (map : SortedMap α) (p : String × α) (pairs : List (String × α)) :
    map.insertAll (p :: pairs) = (map.insert p.1 p.2).insertAll pairs := rfl

theorem insertAll_append (map : SortedMap α) (front back : List (String × α)) :
    map.insertAll (front ++ back) = (map.insertAll front).insertAll back :=
  List.foldl_append

theorem find?_insertAll_of_notMem {map : SortedMap α} {pairs : List (String × α)} {name : String}
    (absent : name ∉ pairs.map Prod.fst) : (map.insertAll pairs).find? name = map.find? name := by
  induction pairs generalizing map with
  | nil => rw [insertAll_nil]
  | cons p rest ih =>
    obtain ⟨other, later⟩ := not_or.mp (mt List.mem_cons.mpr absent)
    rw [insertAll_cons, ih later, find?_insert, if_neg (Ne.symm other)]

theorem find?_insertAll_of_mem {pairs : List (String × α)} {name : String}
    (present : name ∈ pairs.map Prod.fst) :
    ∃ v, ∀ map : SortedMap α, (map.insertAll pairs).find? name = some v := by
  induction pairs with
  | nil => cases present
  | cons p rest ih =>
    by_cases later : name ∈ rest.map Prod.fst
    · obtain ⟨v, found⟩ := ih later
      exact ⟨v, fun map => found _⟩
    · have here : name = p.1 := (List.mem_cons.mp present).resolve_right later
      refine ⟨p.2, fun map => ?_⟩
      rw [insertAll_cons, find?_insertAll_of_notMem later, find?_insert, if_pos here.symm]

def map (f : α → β) (table : SortedMap α) : SortedMap β :=
  ⟨table.entries.map fun p => (p.1, f p.2), by
    rw [Entries.Sorted, List.pairwise_map]
    exact table.sorted⟩

@[simp] theorem find?_map (f : α → β) (table : SortedMap α) (name : String) :
    (table.map f).find? name = (table.find? name).map f :=
  Entries.find?_map f name table.entries

end SortedMap

end RulePipeline
