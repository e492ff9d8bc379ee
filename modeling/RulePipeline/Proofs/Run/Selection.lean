import RulePipeline.Proofs.Except
import RulePipeline.Proofs.SortedMap
import RulePipeline.Run

/-! What a filter keeps. Each element is judged by itself, in the context of the node with only the
element added, so that the kept ones are those of a plain selection. Judging all of them in one
scope, where each takes the place of the one before, comes to the same. -/
namespace RulePipeline

namespace Value

/-- The items of a list, or the values of a map in the order of their names. -/
def elements? (v : Value) : Option (List Value) :=
  match v.resolved with
  | .list items => some items
  | .map entries => some (entries.map Prod.snd)
  | _ => none

/-- The list or the map with only those elements that pass. -/
def sift (p : Value → Bool) (v : Value) : Value :=
  match v.resolved with
  | .list items => .list (items.filter p)
  | .map entries => .map (entries.filter fun e => p e.2)
  | other => other

variable {v : Value} {elements : List Value} {entries : List (String × Value)}

theorem elements?_eq_some : v.elements? = some elements ↔
    v.resolved = .list elements ∨ ∃ entries, v.resolved = .map entries ∧
      entries.map Prod.snd = elements := by
  unfold elements?
  cases v.resolved <;> simp

theorem sift_list (resolved : v.resolved = .list elements) (p : Value → Bool) :
    v.sift p = .list (elements.filter p) := by
  rw [sift, resolved]

theorem sift_map (resolved : v.resolved = .map entries) (p : Value → Bool) :
    v.sift p = .map (entries.filter fun e => p e.2) := by
  rw [sift, resolved]

theorem sift_congr {p q : Value → Bool} (iterable : v.elements? = some elements)
    (same : ∀ x ∈ elements, p x = q x) : v.sift p = v.sift q := by
  rcases elements?_eq_some.mp iterable with resolved | ⟨entries, resolved, rfl⟩
  · rw [sift_list resolved, sift_list resolved, List.filter_congr same]
  · have same_entries : ∀ e ∈ entries, p e.2 = q e.2 := fun e member =>
      same e.2 (List.mem_map_of_mem member)
    rw [sift_map resolved, sift_map resolved, List.filter_congr same_entries]

end Value

namespace Filter

variable {α : Type} {f : Filter} {context : Context}

/-- The condition on an element, which it finds under its name. -/
def holds (f : Filter) (context : Context) (v : Value) : Except ConditionError Bool :=
  f.condition.eval (context.insert f.elementName v)

/-- The condition has the outcome for which an element is kept. -/
def passes (f : Filter) (context : Context) (v : Value) : Bool :=
  match f.holds context v with
  | .ok outcome => outcome != f.exclude
  | .error _ => false

/-- The condition can be told for each of the elements. -/
def Told (f : Filter) (context : Context) (elements : List Value) : Prop :=
  ∀ v ∈ elements, ∃ outcome, f.holds context v = .ok outcome

/-- This is the error of the first element for which the condition fails. -/
def FirstFailure (f : Filter) (context : Context) (elements : List Value) (e : ConditionError) :
    Prop :=
  ∃ front v back, elements = front ++ v :: back ∧ f.Told context front ∧
    f.holds context v = .error e

theorem told_or_firstFailure (f : Filter) (context : Context) (elements : List Value) :
    f.Told context elements ∨ ∃ e, f.FirstFailure context elements e := by
  induction elements with
  | nil => exact .inl nofun
  | cons v rest ih =>
    cases here : f.holds context v with
    | error e => exact .inr ⟨e, [], v, rest, rfl, nofun, here⟩
    | ok outcome =>
      rcases ih with told | ⟨e, front, w, back, rfl, told, failed⟩
      · exact .inl (List.forall_mem_cons.mpr ⟨⟨outcome, here⟩, told⟩)
      · have longer : f.Told context (v :: front) :=
          List.forall_mem_cons.mpr ⟨⟨outcome, here⟩, told⟩
        exact .inr ⟨e, v :: front, w, back, rfl, longer, failed⟩

theorem FirstFailure.not_told {elements : List Value} {e : ConditionError}
    (failure : f.FirstFailure context elements e) : ¬ f.Told context elements := by
  obtain ⟨front, v, back, rfl, -, failed⟩ := failure
  intro told
  obtain ⟨outcome, holds⟩ := told v (List.mem_append_right _ List.mem_cons_self)
  rw [failed] at holds
  cases holds

theorem keeps_of_holds {v : Value} {outcome : Bool} (told : f.holds context v = .ok outcome) :
    f.keeps context v = .ok (f.passes context v) := by
  have evaluated : f.condition.eval (context.insert f.elementName v) = .ok outcome := told
  rw [keeps, evaluated, passes, told]
  rfl

theorem select_of_told {valueOf : α → Value} {members : List α}
    (told : f.Told context (members.map valueOf)) :
    f.select context valueOf members =
      .ok (members.filter fun a => f.passes context (valueOf a)) := by
  induction members with
  | nil => rfl
  | cons a rest ih =>
    obtain ⟨⟨outcome, here⟩, later⟩ := List.forall_mem_cons.mp told
    rw [select, keeps_of_holds here, ih later]
    cases passes : f.passes context (valueOf a) with
    | true => simp [bind, Except.bind, pure, Except.pure, passes]
    | false => simp [bind, Except.bind, pure, Except.pure, passes]

theorem select_of_firstFailure {valueOf : α → Value} {members : List α} {e : ConditionError}
    (failure : f.FirstFailure context (members.map valueOf) e) :
    f.select context valueOf members = .error (.condition e) := by
  obtain ⟨front, v, back, split, told, failed⟩ := failure
  induction front generalizing members with
  | nil =>
    obtain ⟨a, rest, rfl, rfl, -⟩ := List.map_eq_cons_iff.mp split
    have evaluated : f.condition.eval (context.insert f.elementName (valueOf a)) = .error e :=
      failed
    rw [select, keeps, evaluated]
    rfl
  | cons w front ih =>
    obtain ⟨a, rest, rfl, rfl, later⟩ := List.map_eq_cons_iff.mp split
    obtain ⟨⟨outcome, here⟩, told⟩ := List.forall_mem_cons.mp told
    rw [select, keeps_of_holds here, ih later told]
    rfl

/-- A pass over the members: one scope for all of them, and the members kept so far. -/
structure Scan (α : Type) where
  scope : Context
  kept : List α

/-- The next element takes the place of the one before it. -/
def Scan.step (f : Filter) (valueOf : α → Value) (s : Scan α) (a : α) :
    Except RunError (Scan α) := do
  let scope := s.scope.insert f.elementName (valueOf a)
  let outcome ← (f.condition.eval scope).mapError .condition
  return ⟨scope, if outcome != f.exclude then s.kept ++ [a] else s.kept⟩

def scan (f : Filter) (context : Context) (valueOf : α → Value) (members : List α) :
    Except RunError (List α) :=
  Scan.kept <$> members.foldlM (Scan.step f valueOf) ⟨context, []⟩

/-- A scope that differs from the context under the name of the element at most. -/
def Covers (f : Filter) (context scope : Context) : Prop :=
  ∀ v, scope.insert f.elementName v = context.insert f.elementName v

theorem Scan.step_of_covers {s : Scan α} (covers : f.Covers context s.scope) (valueOf : α → Value)
    (a : α) : Scan.step f valueOf s a = do
      let kept ← f.keeps context (valueOf a)
      return ⟨context.insert f.elementName (valueOf a),
        if kept then s.kept ++ [a] else s.kept⟩ := by
  rw [step, covers, keeps]
  cases (f.condition.eval (context.insert f.elementName (valueOf a))) <;> rfl

theorem foldlM_scan {s : Scan α} (covers : f.Covers context s.scope) (valueOf : α → Value)
    (members : List α) :
    Scan.kept <$> members.foldlM (Scan.step f valueOf) s =
      (s.kept ++ ·) <$> f.select context valueOf members := by
  induction members generalizing s with
  | nil => exact congrArg Except.ok (List.append_nil s.kept).symm
  | cons a rest ih =>
    rw [List.foldlM_cons, Scan.step_of_covers covers, select]
    cases f.keeps context (valueOf a) with
    | error e => rfl
    | ok kept =>
      have still : f.Covers context (context.insert f.elementName (valueOf a)) := fun v =>
        SortedMap.insert_insert context f.elementName (valueOf a) v
      refine (ih still).trans ?_
      cases f.select context valueOf rest with
      | error e => rfl
      | ok others =>
        cases kept <;> simp [Functor.map, Except.map, bind, Except.bind, pure, Except.pure]

theorem scan_eq_select (f : Filter) (context : Context) (valueOf : α → Value) (members : List α) :
    f.scan context valueOf members = f.select context valueOf members := by
  have covers : f.Covers context context := fun _ => rfl
  rw [scan, foldlM_scan covers]
  cases f.select context valueOf members <;> rfl

theorem result_of_list {v : Value} {items : List Value} (source : f.source.eval context = .ok v)
    (resolved : v.resolved = .list items) :
    f.result context = Value.list <$> f.select context id items := by
  rw [result, evalTerm, source, mapError_ok]
  simp only [bind, Except.bind, resolved]
  cases f.select context id items <;> rfl

theorem result_of_map {v : Value} {entries : List (String × Value)}
    (source : f.source.eval context = .ok v) (resolved : v.resolved = .map entries) :
    f.result context = Value.map <$> f.select context Prod.snd entries := by
  rw [result, evalTerm, source, mapError_ok]
  simp only [bind, Except.bind, resolved]
  cases f.select context Prod.snd entries <;> rfl

theorem result_of_other {v : Value} (source : f.source.eval context = .ok v)
    (other : v.elements? = none) : f.result context = .error (.notIterable v.resolved.kind) := by
  rw [result, evalTerm, source, mapError_ok]
  unfold Value.elements? at other
  simp only [bind, Except.bind]
  cases resolved : v.resolved with
  | list items => simp [resolved] at other
  | map entries => simp [resolved] at other
  | _ => rfl

section

variable {v : Value} {elements : List Value} (source : f.source.eval context = .ok v)
  (iterable : v.elements? = some elements)

include source iterable

theorem result_of_told (told : f.Told context elements) :
    f.result context = .ok (v.sift (f.passes context)) := by
  rcases Value.elements?_eq_some.mp iterable with resolved | ⟨entries, resolved, rfl⟩
  · have told_items : f.Told context (elements.map id) := (List.map_id elements).symm ▸ told
    rw [result_of_list source resolved, select_of_told told_items, Value.sift_list resolved]
    rfl
  · rw [result_of_map source resolved, select_of_told told, Value.sift_map resolved]
    rfl

theorem result_of_firstFailure {e : ConditionError} (failure : f.FirstFailure context elements e) :
    f.result context = .error (.condition e) := by
  rcases Value.elements?_eq_some.mp iterable with resolved | ⟨entries, resolved, rfl⟩
  · have failure_items : f.FirstFailure context (elements.map id) e :=
      (List.map_id elements).symm ▸ failure
    rw [result_of_list source resolved, select_of_firstFailure failure_items]
    rfl
  · rw [result_of_map source resolved, select_of_firstFailure failure]
    rfl

end

/-- An element passes if the filter keeps it when there is no other. -/
theorem passes_iff_alone (f : Filter) (context : Context) (v : Value) :
    f.passes context v ↔
      { f with source := .literal (.list [v]) }.result context = .ok (.list [v]) := by
  cases here : f.holds context v with
  | error e =>
    have failure : { f with source := .literal (.list [v]) }.FirstFailure context [v] e :=
      ⟨[], v, [], rfl, nofun, here⟩
    rw [result_of_firstFailure rfl rfl failure, passes, here]
    simp
  | ok outcome =>
    have told : { f with source := .literal (.list [v]) }.Told context [v] :=
      List.forall_mem_singleton.mpr ⟨outcome, here⟩
    have same : { f with source := .literal (.list [v]) }.passes context v = f.passes context v :=
      rfl
    rw [result_of_told rfl rfl told, Value.sift_list rfl]
    cases passes : f.passes context v <;> simp [same, passes]

/-- The filter of the elements that this one leaves out. -/
def opposite (f : Filter) : Filter := { f with exclude := !f.exclude }

theorem passes_opposite {v : Value} {outcome : Bool} (told : f.holds context v = .ok outcome) :
    f.opposite.passes context v = !f.passes context v := by
  have same : f.opposite.holds context v = .ok outcome := told
  rw [passes, passes, same, told, opposite]
  cases outcome <;> cases f.exclude <;> rfl

theorem result_opposite (f : Filter) (context : Context) :
    (∃ e, f.result context = .error e ∧ f.opposite.result context = .error e) ∨
    ∃ v elements, f.source.eval context = .ok v ∧ v.elements? = some elements ∧
      f.result context = .ok (v.sift (f.passes context)) ∧
      f.opposite.result context = .ok (v.sift fun x => !f.passes context x) := by
  cases source : f.source.eval context with
  | error e =>
    refine .inl ⟨.term e, ?_, ?_⟩
    · rw [result, evalTerm, source]
      rfl
    · rw [result, evalTerm, opposite, source]
      rfl
  | ok v =>
    have source_opposite : f.opposite.source.eval context = .ok v := source
    cases iterable : v.elements? with
    | none =>
      exact .inl ⟨_, result_of_other source iterable, result_of_other source_opposite iterable⟩
    | some elements =>
      rcases f.told_or_firstFailure context elements with told | ⟨e, failure⟩
      · refine .inr ⟨v, elements, rfl, iterable, result_of_told source iterable told, ?_⟩
        have told_opposite : f.opposite.Told context elements := told
        have complement : ∀ x ∈ elements, f.opposite.passes context x = !f.passes context x := by
          intro x member
          obtain ⟨outcome, holds⟩ := told x member
          exact passes_opposite holds
        rw [result_of_told source_opposite iterable told_opposite,
          Value.sift_congr iterable complement]
      · have failure_opposite : f.opposite.FirstFailure context elements e := failure
        exact .inl ⟨_, result_of_firstFailure source iterable failure,
          result_of_firstFailure source_opposite iterable failure_opposite⟩

end Filter

theorem State.saveResult_find? (s : State) {name other : String} (ne : other ≠ name)
    (result : Except RunError Value) :
    (s.saveResult name result).2.context.find? other = s.context.find? other := by
  cases result with
  | error e => rfl
  | ok v => exact (SortedMap.find?_insert s.context name other v).trans (if_neg ne.symm)

/-- A filter saves the elements that pass, as they are and in their order, and of a map under
their names; or it fails with the first error that its condition has on an element, and writes
nothing. Whether an element passes depends on no other element, though the condition may be told
for all of them in one scope. The name of the element is free again behind the node. A filter that
excludes what this one keeps fails with the same error or saves just the other elements. -/
theorem Node.run_filter_selects (reg : Registry) (s : State) (f : Filter) :
    (∀ v elements, f.source.eval s.context = .ok v → v.elements? = some elements →
      f.Told s.context elements ∧
          (Node.filter f).run reg s =
            (.ok .next, s.save f.saveTo (v.sift (f.passes s.context))) ∨
        ∃ e, f.FirstFailure s.context elements e ∧
          (Node.filter f).run reg s = (.error (.condition e), s)) ∧
    (∀ entries, Entries.Sorted entries →
      let kept := entries.filter fun e => f.passes s.context e.2
      Entries.Sorted kept ∧
        ∀ name,
          Entries.find? name kept = (Entries.find? name entries).filter (f.passes s.context)) ∧
    (∀ v, f.passes s.context v ↔
      { f with source := .literal (.list [v]) }.result s.context = .ok (.list [v])) ∧
    (∀ v, f.source.eval s.context = .ok v →
      (∀ items, v.resolved = .list items →
        f.result s.context = Value.list <$> f.scan s.context id items) ∧
      ∀ entries, v.resolved = .map entries →
        f.result s.context = Value.map <$> f.scan s.context Prod.snd entries) ∧
    (∀ name, name ≠ f.saveTo →
      ((Node.filter f).run reg s).2.context.find? name = s.context.find? name) ∧
    ((∃ e, (Node.filter f).run reg s = (.error e, s) ∧
        (Node.filter f.opposite).run reg s = (.error e, s)) ∨
      ∃ v elements, f.source.eval s.context = .ok v ∧ v.elements? = some elements ∧
        (Node.filter f).run reg s = (.ok .next, s.save f.saveTo (v.sift (f.passes s.context))) ∧
        (Node.filter f.opposite).run reg s =
          (.ok .next, s.save f.saveTo (v.sift fun x => !f.passes s.context x))) := by
  have run_eq (g : Filter) :
      (Node.filter g).run reg s = s.saveResult g.saveTo (g.result s.context) := rfl
  refine ⟨fun v elements source iterable => ?_, fun entries sorted => ?_,
    f.passes_iff_alone s.context, fun v source => ⟨fun items resolved => ?_,
    fun entries resolved => ?_⟩, fun name ne => ?_, ?_⟩
  · rcases f.told_or_firstFailure s.context elements with told | ⟨e, failure⟩
    · rw [run_eq, Filter.result_of_told source iterable told]
      exact .inl ⟨told, rfl⟩
    · rw [run_eq, Filter.result_of_firstFailure source iterable failure]
      exact .inr ⟨e, failure, rfl⟩
  · exact ⟨sorted.filter _, Entries.find?_filter_value sorted _⟩
  · rw [Filter.result_of_list source resolved, Filter.scan_eq_select]
  · rw [Filter.result_of_map source resolved, Filter.scan_eq_select]
  · exact s.saveResult_find? ne _
  · rw [run_eq, run_eq]
    rcases f.result_opposite s.context with ⟨e, failed, failed_opposite⟩ |
      ⟨v, elements, source, iterable, kept, left⟩
    · rw [failed, failed_opposite]
      exact .inl ⟨e, rfl, rfl⟩
    · rw [kept, left]
      exact .inr ⟨v, elements, source, iterable, rfl, rfl⟩

/-- The condition sees each reading under a name that the context has already. It tells nil before
it asks for an order; where it does not, it fails on the second reading. -/
theorem Node.run_filter_selects_shadowing :
    let three : Value := .int ⟨.i64, 3, by decide⟩
    let five : Value := .int ⟨.u8, 5, by decide⟩
    let nine : Value := .int ⟨.i64, 9, by decide⟩
    let entries : List (String × Value) := [("a", three), ("b", .nil), ("c", nine)]
    let readings : Value := .ref (.map entries)
    let element : Option Term := some (.read "element")
    let s : State :=
      ⟨(SortedMap.empty.insert "element" (.bool true)).insert "readings" readings, .fresh⟩
    let f : Filter := ⟨.read "readings", .any [.compare element .equal (some (.literal .nil)),
      .compare element .less (some (.literal five))], false, "element", "kept"⟩
    let g : Filter := ⟨.read "readings", .compare element .less (some (.literal five)), false,
      "element", "kept"⟩
    let reg : Registry := ⟨.empty, .empty⟩
    (f.source.eval s.context = .ok readings ∧ readings.elements? = some [three, .nil, nine] ∧
      Entries.Sorted entries ∧ "element" ≠ f.saveTo ∧ readings.resolved = .map entries) ∧
    (Node.filter f).run reg s = (.ok .next, s.save "kept" (.map [("a", three), ("b", .nil)])) ∧
    (Node.filter f.opposite).run reg s = (.ok .next, s.save "kept" (.map [("c", nine)])) ∧
    Entries.find? "c" (entries.filter fun e => f.passes s.context e.2) = none ∧
    ((Node.filter f).run reg s).2.context.find? "element" = some (.bool true) ∧
    f.scan s.context Prod.snd entries = .ok [("a", three), ("b", .nil)] ∧
    (Node.filter g).run reg s =
      (.error (.condition (.comparison (.unsupported .less .nil))), s) := by
  intro three five nine entries readings element s f g reg
  have source : f.source.eval s.context = .ok readings := rfl
  have iterable : readings.elements? = some [three, .nil, nine] := rfl
  have sorted : Entries.Sorted entries := by decide
  have ne : "element" ≠ f.saveTo := by decide
  have resolved : readings.resolved = .map entries := rfl
  have first : f.holds s.context three = .ok true := by
    dsimp only [f, Filter.holds]
    rfl
  have second : f.holds s.context .nil = .ok true := by
    dsimp only [f, Filter.holds]
    rfl
  have third : f.holds s.context nine = .ok false := by
    dsimp only [f, Filter.holds]
    rfl
  have told : f.Told s.context [three, .nil, nine] :=
    List.forall_mem_cons.mpr ⟨⟨true, first⟩, List.forall_mem_cons.mpr ⟨⟨true, second⟩,
      List.forall_mem_singleton.mpr ⟨false, third⟩⟩⟩
  have failure : g.FirstFailure s.context [three, .nil, nine]
      (.comparison (.unsupported .less .nil)) := by
    refine ⟨[three], .nil, [nine], rfl, List.forall_mem_singleton.mpr ⟨true, ?_⟩, ?_⟩
    all_goals
      dsimp only [g, Filter.holds]
      rfl
  have passes {v : Value} {outcome : Bool} (holds : f.holds s.context v = .ok outcome) :
      f.passes s.context v = outcome := by
    rw [Filter.passes, holds]
    exact Bool.bne_false outcome
  have kept : readings.sift (f.passes s.context) = .map [("a", three), ("b", .nil)] := by
    rw [Value.sift_map resolved]
    simp [entries, passes first, passes second, passes third]
  have left : (readings.sift fun v => !f.passes s.context v) = .map [("c", nine)] := by
    rw [Value.sift_map resolved]
    simp [entries, passes first, passes second, passes third]
  obtain ⟨runs, maps, -, loop, frame, twins⟩ := Node.run_filter_selects reg s f
  have ran : (Node.filter f).run reg s =
      (.ok .next, s.save "kept" (.map [("a", three), ("b", .nil)])) := by
    rcases runs readings _ source iterable with ⟨-, ran⟩ | ⟨_, failure, -⟩
    · rw [ran, kept]
    · exact absurd told failure.not_told
  refine ⟨⟨source, iterable, sorted, ne, resolved⟩, ran, ?_, ?_, frame "element" ne, ?_, ?_⟩
  · rcases twins with ⟨_, failed, -⟩ | ⟨_, _, same, -, -, ran_opposite⟩
    · rw [ran] at failed
      cases failed
    · cases source.symm.trans same
      rw [ran_opposite, left]
  · have absent := (maps entries sorted).2 "c"
    have found : Entries.find? "c" entries = some nine := rfl
    rw [absent, found, Option.filter, passes third]
    rfl
  · have result : f.result s.context = .ok (.map [("a", three), ("b", .nil)]) := by
      rw [Filter.result_of_told source iterable told, kept]
    have scanned := (loop readings source).2 entries resolved
    rw [result] at scanned
    obtain ⟨members, scanned, same⟩ := map_eq_ok.mp scanned.symm
    cases same
    exact scanned
  · have source_failing : g.source.eval s.context = .ok readings := source
    have failed := Filter.result_of_firstFailure source_failing iterable failure
    exact congrArg (s.saveResult g.saveTo) failed

end RulePipeline
