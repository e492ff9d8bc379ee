import Mathlib.Data.List.Basic
import Mathlib.Data.List.Induction
import RulePipeline.Getter
import RulePipeline.Proofs.SortedMap
import RulePipeline.Value.Json
import RulePipeline.Value.Record

/-! Records that are built step by step. Each name has one field, at the place of its first step,
and this field is what the last step for the name has made it. So a name that was exported once and
is hidden now can neither be read nor be found in the document of the record. -/
namespace RulePipeline

theorem eraseDups_concat (names : List String) (name : String) : (names ++ [name]).eraseDups =
    if name ∈ names then names.eraseDups else names.eraseDups ++ [name] := by
  rw [List.eraseDups_append, List.removeAll]
  by_cases used : name ∈ names
  · rw [if_pos used, List.filter_cons_of_neg (by simpa using used), List.filter_nil,
      List.eraseDups_nil, List.append_nil]
  · rw [if_neg used, List.filter_cons_of_pos (by simpa using used), List.filter_nil]
    rfl

namespace Record

/-- A step adds a field to a record, or replaces the one of its name. -/
inductive Step where
  | exported (name : String) (value : Value)
  | hidden (name : String) (value : Value)

namespace Step

def field : Step → Field Value
  | .exported name value => ⟨name, value, true⟩
  | .hidden name value => ⟨name, value, false⟩

def name (s : Step) : String := s.field.name

end Step

def apply (r : Record) : Step → Record
  | .exported name value => r.withField name value
  | .hidden name value => r.withHiddenField name value

def build (typeName : String) (steps : List Step) : Record := steps.foldl apply (empty typeName)

/-- The last step for a name. -/
def lastStep? (steps : List Step) (name : String) : Option Step :=
  (steps.filter (·.name = name)).getLast?

def names (r : Record) : List String := r.fields.map (·.name)

variable {steps : List Step} {name : String} {f : Field Value} {fields : List (Field Value)}

theorem apply_eq_insert (r : Record) (s : Step) : r.apply s = r.insert s.field := by
  cases s <;> rfl

/-- A name keeps the place that it has, and a new one comes last. -/
theorem names_insertField (f : Field Value) (fields : List (Field Value)) :
    (insertField f fields).map (·.name) =
      if f.name ∈ fields.map (·.name) then fields.map (·.name)
      else fields.map (·.name) ++ [f.name] := by
  induction fields with
  | nil => rfl
  | cons g rest ih =>
    rw [insertField]
    by_cases here : g.name = f.name
    · simp [here]
    · have elsewhere : f.name ≠ g.name := Ne.symm here
      rw [if_neg here, List.map_cons, ih, List.map_cons]
      by_cases later : f.name ∈ rest.map (·.name)
      · rw [if_pos later, if_pos (List.mem_cons_of_mem _ later)]
      · rw [if_neg later, if_neg (by simp [elsewhere, later]), List.cons_append]

theorem find?_insertField (f : Field Value) (fields : List (Field Value)) (name : String) :
    (insertField f fields).find? (·.name = name) =
      if f.name = name then some f else fields.find? (·.name = name) := by
  induction fields with
  | nil =>
    by_cases this : f.name = name <;> simp [insertField, this]
  | cons g rest ih =>
    rw [insertField]
    by_cases here : g.name = f.name
    · by_cases this : f.name = name <;> simp [here, this]
    · by_cases this : f.name = name
      · have elsewhere : g.name ≠ name := this ▸ here
        simp [this, elsewhere, ih]
      · simp [here, this, ih, List.find?_cons]

theorem build_concat (typeName : String) (steps : List Step) (s : Step) :
    build typeName (steps ++ [s]) = (build typeName steps).insert s.field := by
  rw [build, List.foldl_append, List.foldl_cons, List.foldl_nil, apply_eq_insert, build]

theorem typeName_build (typeName : String) (steps : List Step) :
    (build typeName steps).typeName = typeName := by
  induction steps using List.reverseRecOn with
  | nil => rfl
  | append_singleton steps s ih =>
    rw [build_concat]
    exact ih

theorem lastStep?_concat (steps : List Step) (s : Step) (name : String) :
    lastStep? (steps ++ [s]) name = if s.name = name then some s else lastStep? steps name := by
  rw [lastStep?, List.filter_append]
  by_cases this : s.name = name
  · simp [this]
  · simp [this, lastStep?]

theorem names_concat (typeName : String) (steps : List Step) (s : Step) :
    (build typeName (steps ++ [s])).names =
      if s.name ∈ (build typeName steps).names then (build typeName steps).names
      else (build typeName steps).names ++ [s.name] := by
  rw [build_concat]
  exact names_insertField s.field _

/-- The names that were used are there in the order of their first uses. -/
theorem names_build (typeName : String) (steps : List Step) :
    (build typeName steps).names = (steps.map Step.name).eraseDups := by
  induction steps using List.reverseRecOn with
  | nil => rfl
  | append_singleton steps s ih =>
    rw [names_concat, ih, List.map_append, List.map_singleton, eraseDups_concat]
    simp only [List.mem_eraseDups]

theorem nodup_names_build (typeName : String) (steps : List Step) :
    (build typeName steps).names.Nodup := by
  induction steps using List.reverseRecOn with
  | nil => exact List.nodup_nil
  | append_singleton steps s ih =>
    rw [names_concat]
    split
    · exact ih
    · rename_i unused
      rw [List.nodup_append]
      refine ⟨ih, List.pairwise_singleton _ _, fun name present other last same => ?_⟩
      rw [List.mem_singleton.mp last] at same
      exact unused (same ▸ present)

/-- Looked up by a name, there is the field of the last step for it. -/
theorem field?_build (typeName : String) (steps : List Step) (name : String) :
    (build typeName steps).field? name = (lastStep? steps name).map Step.field := by
  induction steps using List.reverseRecOn with
  | nil => rfl
  | append_singleton steps s ih =>
    have inserted : (build typeName (steps ++ [s])).field? name =
        if s.name = name then some s.field else (build typeName steps).field? name := by
      rw [build_concat]
      exact find?_insertField s.field _ name
    rw [inserted, ih, lastStep?_concat]
    split <;> rfl

theorem find?_of_mem (distinct : (fields.map (·.name)).Nodup) (member : f ∈ fields) :
    fields.find? (·.name = f.name) = some f := by
  induction fields with
  | nil => cases member
  | cons g rest ih =>
    obtain ⟨first, later⟩ := List.nodup_cons.mp distinct
    rcases List.mem_cons.mp member with rfl | behind
    · simp
    · have other : g.name ≠ f.name := fun same => first (List.mem_map.mpr ⟨f, behind, same.symm⟩)
      rw [List.find?_cons_of_neg (by simpa using other), ih later behind]

/-- The fields are those that are found under their names. -/
theorem filterMap_find? (distinct : (fields.map (·.name)).Nodup) :
    (fields.map (·.name)).filterMap (fun name => fields.find? (·.name = name)) = fields := by
  rw [List.filterMap_map]
  calc fields.filterMap ((fun name => fields.find? (·.name = name)) ∘ (·.name))
      = fields.filterMap some := List.filterMap_congr fun f member => find?_of_mem distinct member
    _ = fields := List.filterMap_some

theorem fields_build (typeName : String) (steps : List Step) : (build typeName steps).fields =
    (build typeName steps).names.filterMap fun name => (lastStep? steps name).map Step.field := by
  simp only [← field?_build typeName]
  exact (filterMap_find? (nodup_names_build typeName steps)).symm

end Record

namespace Value

open Entries (find? ofList)

theorem toJsonFields_sublist (fields : List (Field Value)) :
    ((toJsonFields fields).map Prod.fst).Sublist (fields.map (·.name)) := by
  induction fields with
  | nil => exact .slnil
  | cons f rest ih =>
    rw [toJsonFields]
    split
    · exact ih.cons_cons _
    · exact ih.cons _

/-- Among the members there are just the fields that are exported. -/
theorem find?_toJsonFields {fields : List (Field Value)} (distinct : (fields.map (·.name)).Nodup)
    (name : String) : find? name (toJsonFields fields) =
      ((fields.find? (·.name = name)).filter (·.exported)).map (·.value.toJson) := by
  induction fields with
  | nil => rfl
  | cons f rest ih =>
    obtain ⟨m, v, exported⟩ := f
    obtain ⟨first, later⟩ := List.nodup_cons.mp distinct
    by_cases here : m = name
    · have absent : rest.find? (·.name = name) = none := by
        refine List.find?_eq_none.mpr fun g member => ?_
        have other : g.name ≠ name := fun same =>
          first (List.mem_map.mpr ⟨g, member, same.trans here.symm⟩)
        simpa using other
      cases exported <;> simp [toJsonFields, here, ih later, absent, Option.filter]
    · cases exported <;> simp [toJsonFields, here, ih later]

end Value

namespace Record

variable {steps : List Step} {name : String}

theorem project_build (typeName : String) (steps : List Step) (name : String) :
    Getter.step.get (build typeName steps).toValue (some (.string name)) =
      match lastStep? steps name with
      | some (.exported _ v) => .ok v
      | some (.hidden _ _) => .error .fieldIsHidden
      | none => .error .valueNotFound := by
  have found := field?_build typeName steps name
  rw [field?] at found
  simp only [Getter.get, toValue, Value.isNil, Getter.requireKey, Value.resolved, Getter.project,
    Getter.nameKey, Value.string?, found, bind, Except.bind, if_false, Bool.false_eq_true]
  rcases lastStep? steps name with _ | ⟨_, _⟩ | ⟨_, _⟩ <;> rfl

theorem find?_member_build (typeName : String) (steps : List Step) (name : String) :
    Entries.find? name (Entries.ofList (Value.toJsonFields (build typeName steps).fields)) =
      match lastStep? steps name with
      | some (.exported _ v) => some v.toJson
      | _ => none := by
  have distinct : ((build typeName steps).fields.map (·.name)).Nodup :=
    nodup_names_build typeName steps
  have found := field?_build typeName steps name
  rw [field?] at found
  rw [Entries.find?_ofList ((Value.toJsonFields_sublist _).nodup distinct),
    Value.find?_toJsonFields distinct, found]
  rcases lastStep? steps name with _ | ⟨_, _⟩ | ⟨_, _⟩ <;> rfl

/-- In a record that is built step by step, no name has two fields, the names are in the order of
their first steps, and each field is what the last step for its name has made it. So a getter finds
the last value of a name that was last exported, a name that was last hidden cannot be read, and
there is nothing under a name without a step. The document of the record has just the names that
were last exported, with their last values. -/
theorem built_as_last_set (typeName : String) (steps : List Step) :
    let r := build typeName steps
    (r.typeName = typeName ∧ r.names.Nodup ∧ r.names = (steps.map Step.name).eraseDups ∧
      r.fields = r.names.filterMap fun name => (lastStep? steps name).map Step.field) ∧
    (∀ name, Getter.step.get r.toValue (some (.string name)) = match lastStep? steps name with
      | some (.exported _ v) => .ok v
      | some (.hidden _ _) => .error .fieldIsHidden
      | none => .error .valueNotFound) ∧
    ∃ members, r.toValue.toJson = .obj members ∧ Entries.Sorted members ∧
      ∀ name, Entries.find? name members = match lastStep? steps name with
        | some (.exported _ v) => some v.toJson
        | _ => none := by
  intro r
  refine ⟨⟨typeName_build typeName steps, nodup_names_build typeName steps,
    names_build typeName steps, fields_build typeName steps⟩, project_build typeName steps, ?_⟩
  exact ⟨_, rfl, Entries.sorted_ofList _, find?_member_build typeName steps⟩

/-- A name that was exported first is hidden in the end, and another one the other way round. -/
example : let v : Value := .bool true
    let r := build "User" [.exported "name" v, .hidden "pin" v, .hidden "name" .nil,
      .exported "pin" .nil]
    r.names = ["name", "pin"] ∧ r.toValue.toJson = .obj [("pin", .null)] ∧
      Getter.step.get r.toValue (some (.string "name")) = .error .fieldIsHidden :=
  ⟨rfl, rfl, rfl⟩

end Record

end RulePipeline
