import RulePipeline.Definition.Members
import RulePipeline.Proofs.Except
import RulePipeline.Proofs.SortedMap

/-! Documents as content. A document that is taken as content is read back as it was, and what is
read from content is a document in order. Maps with their fields by name are read field by field. -/
namespace RulePipeline

namespace Json

theorem orderedMembers_iff {members : List (String × Json)} :
    OrderedMembers members ↔ ∀ m ∈ members, m.2.Ordered := by
  induction members with
  | nil => simp [OrderedMembers]
  | cons m rest ih => simp [OrderedMembers, ih]

end Json

namespace Content

mutual

/-- There is no infinity and no NaN in the content. -/
def Finite : Content → Prop
  | .float x => x.isFinite
  | .seq items => FiniteItems items
  | .map entries => FiniteEntries entries
  | _ => True

def FiniteItems : List Content → Prop
  | [] => True
  | c :: rest => c.Finite ∧ FiniteItems rest

def FiniteEntries : List (Content × Content) → Prop
  | [] => True
  | (_, c) :: rest => c.Finite ∧ FiniteEntries rest

end

mutual

def decideFinite : (c : Content) → Decidable c.Finite
  | .float x => inferInstanceAs (Decidable (x.isFinite = true))
  | .seq items => decideFiniteItems items
  | .map entries => decideFiniteEntries entries
  | .null | .bool _ | .int _ _ | .str _ => .isTrue trivial

def decideFiniteItems : (items : List Content) → Decidable (FiniteItems items)
  | [] => .isTrue trivial
  | c :: rest => @instDecidableAnd _ _ (decideFinite c) (decideFiniteItems rest)

def decideFiniteEntries : (entries : List (Content × Content)) → Decidable (FiniteEntries entries)
  | [] => .isTrue trivial
  | (_, c) :: rest => @instDecidableAnd _ _ (decideFinite c) (decideFiniteEntries rest)

end

instance : DecidablePred Finite := decideFinite

theorem finiteItems_iff {items : List Content} : FiniteItems items ↔ ∀ c ∈ items, c.Finite := by
  induction items with
  | nil => simp [FiniteItems]
  | cons c rest ih => simp [FiniteItems, ih]

theorem finiteEntries_iff {entries : List (Content × Content)} :
    FiniteEntries entries ↔ ∀ e ∈ entries, e.2.Finite := by
  induction entries with
  | nil => simp [FiniteEntries]
  | cons e rest ih => simp [FiniteEntries, ih]

mutual

theorem ofJson_finite : (j : Json) → (ofJson j).Finite
  | .null | .bool _ | .str _ => trivial
  | .num (.int _ _) => trivial
  | .num (.float _ finite) => finite
  | .arr items => ofJsonItems_finite items
  | .obj members => ofJsonMembers_finite members

theorem ofJsonItems_finite : (items : List Json) → FiniteItems (ofJsonItems items)
  | [] => trivial
  | j :: rest => ⟨ofJson_finite j, ofJsonItems_finite rest⟩

theorem ofJsonMembers_finite : (members : List (String × Json)) →
    FiniteEntries (ofJsonMembers members)
  | [] => trivial
  | (_, j) :: rest => ⟨ofJson_finite j, ofJsonMembers_finite rest⟩

end

theorem intValue_natAbs (n : Int) : intValue (decide (n < 0)) n.natAbs = n := by
  unfold intValue
  split
  · rename_i negative
    simp only [decide_eq_true_eq] at negative
    omega
  · rename_i negative
    simp only [decide_eq_true_eq] at negative
    omega

mutual

theorem toJson?_ofJson : (j : Json) → j.Ordered → (ofJson j).toJson? = some j
  | .null, _ | .bool _, _ | .str _, _ => rfl
  | .num (.int n inRange), _ => by
    rw [ofJson, toJson?, intValue_natAbs, Json.int?, Json.Number.ofInt?, dif_pos inRange]
    rfl
  | .num (.float x finite), _ => by
    rw [ofJson, toJson?, Json.ofFloat, Json.Number.ofFloat?, dif_pos finite]
    rfl
  | .arr items, ordered => by
    rw [ofJson, toJson?, toJsonItems?_ofJson items ordered]
    rfl
  | .obj members, ⟨sorted, ordered⟩ => by
    rw [ofJson, toJson?, toJsonMembers?_ofJson members ordered]
    simp only [Option.bind_eq_bind, Option.bind_some, Entries.ofList_of_sorted sorted]
    rfl

theorem toJsonItems?_ofJson : (items : List Json) → Json.OrderedItems items →
    toJsonItems? (ofJsonItems items) = some items
  | [], _ => rfl
  | j :: rest, ⟨first, later⟩ => by
    rw [ofJsonItems, toJsonItems?, toJson?_ofJson j first, toJsonItems?_ofJson rest later]
    rfl

theorem toJsonMembers?_ofJson : (members : List (String × Json)) →
    Json.OrderedMembers members → toJsonMembers? (ofJsonMembers members) = some members
  | [], _ => rfl
  | (name, j) :: rest, ⟨first, later⟩ => by
    rw [ofJsonMembers, toJsonMembers?, toJson?_ofJson j first, toJsonMembers?_ofJson rest later]
    rfl

end

mutual

theorem toJson?_ordered : (c : Content) → ∀ {j}, c.toJson? = some j → j.Ordered
  | .null, _, read | .bool _, _, read | .str _, _, read => by
    cases read
    trivial
  | .int _ _, _, read => by
    obtain ⟨n, -, rfl⟩ := Option.map_eq_some_iff.mp read
    trivial
  | .float x, _, read => by
    cases read
    unfold Json.ofFloat
    cases Json.Number.ofFloat? x <;> trivial
  | .seq items, _, read => by
    obtain ⟨_, each, built⟩ := Option.bind_eq_some_iff.mp read
    cases built
    exact toJsonItems?_ordered items each
  | .map entries, _, read => by
    obtain ⟨members, each, built⟩ := Option.bind_eq_some_iff.mp read
    cases built
    refine ⟨Entries.sorted_ofList members, Json.orderedMembers_iff.mpr fun m member => ?_⟩
    have ordered := Json.orderedMembers_iff.mp (toJsonMembers?_ordered entries each)
    exact ordered m (Entries.mem_of_mem_ofList member)

theorem toJsonItems?_ordered : (items : List Content) → ∀ {found},
    toJsonItems? items = some found → Json.OrderedItems found
  | [], _, read => by
    cases read
    trivial
  | c :: rest, _, read => by
    obtain ⟨j, first, read⟩ := Option.bind_eq_some_iff.mp read
    obtain ⟨later, tail, built⟩ := Option.bind_eq_some_iff.mp read
    cases built
    exact ⟨toJson?_ordered c first, toJsonItems?_ordered rest tail⟩

theorem toJsonMembers?_ordered : (entries : List (Content × Content)) → ∀ {found},
    toJsonMembers? entries = some found → Json.OrderedMembers found
  | [], _, read => by
    cases read
    trivial
  | (.str _, c) :: rest, _, read => by
    obtain ⟨j, first, read⟩ := Option.bind_eq_some_iff.mp read
    obtain ⟨later, tail, built⟩ := Option.bind_eq_some_iff.mp read
    cases built
    exact ⟨toJson?_ordered c first, toJsonMembers?_ordered rest tail⟩

end

/-- Only a number that JSON lacks is read as null without being null. -/
theorem toJson?_ne_null {c : Content} (finite : c.Finite) (some_thing : c ≠ .null) :
    c.toJson? ≠ some .null := by
  intro read
  cases c with
  | null => exact some_thing rfl
  | bool b => cases read
  | int neg mag =>
    obtain ⟨n, -, impossible⟩ := Option.map_eq_some_iff.mp read
    cases impossible
  | float x =>
    have isFinite : x.isFinite := finite
    rw [toJson?, Json.ofFloat, Json.Number.ofFloat?, dif_pos isFinite] at read
    cases read
  | str s => cases read
  | seq items =>
    obtain ⟨_, -, impossible⟩ := Option.bind_eq_some_iff.mp read
    cases impossible
  | map entries =>
    obtain ⟨_, -, impossible⟩ := Option.bind_eq_some_iff.mp read
    cases impossible

theorem ofJson_eq_null {j : Json} : ofJson j = .null ↔ j = .null := by
  cases j with
  | num n => cases n <;> simp [ofJson]
  | _ => simp [ofJson]

section Named

variable {α : Type} {names : List String} {fields : List (String × α)}

/-- A map in which every field goes by its name. -/
def named (fields : List (String × α)) : List (Content × α) := fields.map fun f => (.str f.1, f.2)

theorem ofJsonMembers_eq (members : List (String × Json)) :
    ofJsonMembers members = named (Entries.map ofJson members) := by
  induction members with
  | nil => rfl
  | cons m rest ih =>
    rw [ofJsonMembers, ih]
    rfl

theorem find?_known {name : String} (known : name ∈ names) :
    Entries.find? name (fields.filter (·.1 ∈ names)) = Entries.find? name fields :=
  Entries.find?_filter (p := fun name => name ∈ names) (decide_eq_true known)

theorem fieldName_known {name : String} (known : name ∈ names) :
    fieldName names (.str name) = .ok (some name) := by
  have found : names.find? (· = name) = some name := by
    induction names with
    | nil => cases known
    | cons other rest ih =>
      by_cases same : other = name
      · simp [same]
      · have later : name ∈ rest := (List.mem_cons.mp known).resolve_left (Ne.symm same)
        simp [same, ih later]
  rw [fieldName, found]

theorem fieldName_unknown {name : String} (unknown : name ∉ names) :
    fieldName names (.str name) = .ok none := by
  have absent : names.find? (· = name) = none :=
    List.find?_eq_none.mpr fun other member => by
      simpa using ne_of_mem_of_not_mem member unknown
  rw [fieldName, absent]

theorem members_named (sorted : Entries.Sorted fields) :
    members names (named fields) = .ok (fields.filter (·.1 ∈ names)) := by
  induction fields with
  | nil => rfl
  | cons f rest ih =>
    have ⟨first, later⟩ := List.pairwise_cons.mp sorted
    have others : members names (named rest) = .ok (rest.filter (·.1 ∈ names)) := ih later
    have step : named (f :: rest) = (.str f.1, f.2) :: named rest := rfl
    rw [step, members, others]
    by_cases known : f.1 ∈ names
    · have once : Entries.find? f.1 (rest.filter (·.1 ∈ names)) = none := by
        rw [find?_known known]
        exact Entries.find?_eq_none.mpr fun p member => (String.ne_of_lt (first p member)).symm
      simp [fieldName_known known, once, known, bind, Except.bind, pure, Except.pure]
    · simp [fieldName_unknown known, known, bind, Except.bind, pure, Except.pure]

/-- No value comes from anywhere but the map. -/
theorem mem_of_members {entries : List (Content × α)} (read : members names entries = .ok fields) :
    ∀ f ∈ fields, ∃ e ∈ entries, e.2 = f.2 := by
  induction entries generalizing fields with
  | nil =>
    cases read
    exact nofun
  | cons e rest ih =>
    obtain ⟨key, a⟩ := e
    obtain ⟨others, later, read⟩ := bind_eq_ok.mp read
    obtain ⟨name?, -, read⟩ := bind_eq_ok.mp read
    have behind : ∀ f ∈ others, ∃ e ∈ (key, a) :: rest, e.2 = f.2 := fun f member =>
      have ⟨e, there, same⟩ := ih later f member
      ⟨e, List.mem_cons_of_mem _ there, same⟩
    cases name? with
    | none =>
      cases read
      exact behind
    | some name =>
      dsimp only at read
      split at read
      · cases read
      · cases read
        exact List.forall_mem_cons.mpr ⟨⟨(key, a), List.mem_cons_self, rfl⟩, behind⟩

end Named

end Content

end RulePipeline
