import RulePipeline.Proofs.Run.Footprint
import RulePipeline.Proofs.Run.Selection

/-! Two filters in one. A filter that goes through what another one has kept asks its condition of
fewer elements, later, and in a context that has one more entry. If it does not read that entry, the
same elements are left when both conditions are asked of each element, one after the other. -/
namespace RulePipeline

namespace Value

variable {v : Value} {elements : List Value}

theorem elements?_sift (iterable : v.elements? = some elements) (p : Value → Bool) :
    (v.sift p).elements? = some (elements.filter p) := by
  rcases elements?_eq_some.mp iterable with resolved | ⟨entries, resolved, rfl⟩
  · rw [sift_list resolved]
    rfl
  · rw [sift_map resolved, List.filter_map]
    rfl

theorem sift_sift (iterable : v.elements? = some elements) (p q : Value → Bool) :
    (v.sift p).sift q = v.sift fun x => q x && p x := by
  rcases elements?_eq_some.mp iterable with resolved | ⟨entries, resolved, rfl⟩
  · rw [sift_list resolved, sift_list resolved, sift_list rfl, List.filter_filter]
  · rw [sift_map resolved, sift_map resolved, sift_map rfl, List.filter_filter]

end Value

namespace Filter

variable {f g : Filter} {context : Context}

theorem result_eq_ok {w : Value} : f.result context = .ok w ↔
    ∃ v elements, f.source.eval context = .ok v ∧ v.elements? = some elements ∧
      f.Told context elements ∧ v.sift (f.passes context) = w := by
  constructor
  · intro ran
    cases source : f.source.eval context with
    | error e =>
      rw [result, evalTerm, source] at ran
      cases ran
    | ok v =>
      cases iterable : v.elements? with
      | none =>
        rw [result_of_other source iterable] at ran
        cases ran
      | some elements =>
        rcases f.told_or_firstFailure context elements with told | ⟨e, failure⟩
        · rw [result_of_told source iterable told] at ran
          exact ⟨v, elements, rfl, iterable, told, Except.ok.inj ran⟩
        · rw [result_of_firstFailure source iterable failure] at ran
          cases ran
  · rintro ⟨v, elements, source, iterable, told, rfl⟩
    exact result_of_told source iterable told

/-- Both conditions in one filter, which saves where the second one does. -/
def fuse (f g : Filter) : Filter :=
  { f with condition := .all [f.condition, g.condition], saveTo := g.saveTo }

/-- The filter keeps some of what `f` has kept, and looks at what `f` has saved for nothing else. -/
structure Follows (g f : Filter) : Prop where
  source : g.source = .read f.saveTo
  named : f.saveTo ≠ ""
  element : g.elementName = f.elementName
  keeping : f.exclude = false ∧ g.exclude = false
  unread : f.saveTo ∉ g.condition.reads

theorem passes_iff (keeping : f.exclude = false) {x : Value} :
    f.passes context x ↔ f.holds context x = .ok true := by
  unfold passes
  cases f.holds context x <;> simp [keeping]

namespace Follows

variable (follows : g.Follows f)

include follows

theorem source_saved (v : Value) : g.source.eval (context.insert f.saveTo v) = .ok v := by
  rw [follows.source, Term.eval, Term.lookup, if_neg follows.named]
  simp

theorem holds_saved (v x : Value) :
    g.holds (context.insert f.saveTo v) x = g.holds context x := by
  have agree : Context.Agree g.condition.reads (context.insert f.saveTo v) context := by
    intro name member
    have other : f.saveTo ≠ name := fun same => follows.unread (same ▸ member)
    rw [SortedMap.find?_insert, if_neg other]
  exact g.condition.eval_congr (agree.insert g.elementName x)

theorem passes_saved (v : Value) :
    g.passes (context.insert f.saveTo v) = g.passes context := by
  funext x
  rw [passes, passes, follows.holds_saved]

theorem told_saved (v : Value) (elements : List Value) :
    g.Told (context.insert f.saveTo v) elements ↔ g.Told context elements := by
  simp only [Told, follows.holds_saved]

/-- The second condition is asked only where the first one is true. -/
theorem holds_fuse (x : Value) : (f.fuse g).holds context x =
    f.holds context x >>= fun outcome => if outcome then g.holds context x else .ok false := by
  have second : g.holds context x = g.condition.eval (context.insert f.elementName x) := by
    rw [holds, follows.element]
  rw [second, holds, fuse, Condition.eval, Condition.evalAll, Condition.evalAll, Condition.evalAll,
    holds]
  refine bind_congr fun outcome => ?_
  cases outcome with
  | false => rfl
  | true =>
    cases g.condition.eval (context.insert f.elementName x) with
    | error e => rfl
    | ok outcome => cases outcome <;> rfl

theorem passes_fuse (x : Value) :
    (f.fuse g).passes context x = (g.passes context x && f.passes context x) := by
  have keeping : (f.fuse g).exclude = false := follows.keeping.1
  apply Bool.eq_iff_iff.mpr
  rw [passes_iff keeping, Bool.and_eq_true, passes_iff follows.keeping.1,
    passes_iff follows.keeping.2, follows.holds_fuse, bind_eq_ok]
  constructor
  · rintro ⟨outcome, first, second⟩
    cases outcome with
    | false => cases second
    | true => exact ⟨second, first⟩
  · rintro ⟨second, first⟩
    exact ⟨true, first, second⟩

theorem told_fuse (elements : List Value) : (f.fuse g).Told context elements ↔
    f.Told context elements ∧ g.Told context (elements.filter (f.passes context)) := by
  constructor
  · intro told
    refine ⟨fun x member => ?_, fun x member => ?_⟩
    · obtain ⟨outcome, both⟩ := told x member
      rw [follows.holds_fuse] at both
      obtain ⟨first, holds, -⟩ := bind_eq_ok.mp both
      exact ⟨first, holds⟩
    · obtain ⟨member, passes⟩ := List.mem_filter.mp member
      obtain ⟨outcome, both⟩ := told x member
      rw [follows.holds_fuse, (passes_iff follows.keeping.1).mp passes] at both
      exact ⟨outcome, both⟩
  · rintro ⟨first, second⟩ x member
    obtain ⟨outcome, holds⟩ := first x member
    rw [follows.holds_fuse, holds]
    cases outcome with
    | false => exact ⟨false, rfl⟩
    | true =>
      have passes : f.passes context x := (passes_iff follows.keeping.1).mpr holds
      exact second x (List.mem_filter.mpr ⟨member, passes⟩)

theorem result_fuse {w : Value} : (f.fuse g).result context = .ok w ↔
    ∃ v, f.result context = .ok v ∧ g.result (context.insert f.saveTo v) = .ok w := by
  have both : (f.fuse g).passes context = fun x => g.passes context x && f.passes context x :=
    funext follows.passes_fuse
  constructor
  · intro ran
    obtain ⟨v, elements, source, iterable, told, rfl⟩ := result_eq_ok.mp ran
    obtain ⟨first, second⟩ := (follows.told_fuse elements).mp told
    refine ⟨_, result_of_told source iterable first, result_eq_ok.mpr ⟨_, _,
      follows.source_saved _, Value.elements?_sift iterable _, ?_, ?_⟩⟩
    · exact (follows.told_saved _ _).mpr second
    · rw [follows.passes_saved, Value.sift_sift iterable, both]
  · rintro ⟨_, ran, later⟩
    obtain ⟨v, elements, source, iterable, first, rfl⟩ := result_eq_ok.mp ran
    obtain ⟨_, _, saved, left, second, rfl⟩ := result_eq_ok.mp later
    cases (follows.source_saved _).symm.trans saved
    cases (Value.elements?_sift iterable _).symm.trans left
    rw [follows.told_saved] at second
    rw [follows.passes_saved, Value.sift_sift iterable, ← both]
    exact result_of_told source iterable ((follows.told_fuse elements).mpr ⟨first, second⟩)

end Follows

end Filter

section

variable {reg : Registry} {s t : State} {f g : Filter}

theorem runFrom_filter_next {index : Nat} {rest : List Node} :
    runFrom reg index s (.filter f :: rest) = (.ok .next, t) ↔
      s.handle.cancelled = false ∧ ∃ v, f.result s.context = .ok v ∧
        runFrom reg (index + 1) (s.save f.saveTo v) rest = (.ok .next, t) := by
  cases live : s.handle.cancelled with
  | true => simp [runFrom_cancelled _ _ _ _ live]
  | false =>
    rw [runFrom_live _ _ _ _ live, Node.run, Filter.run]
    cases f.result s.context <;> simp [State.saveResult]

theorem runFrom_last_filter_next {index : Nat} :
    runFrom reg index s [.filter f] = (.ok .next, t) ↔
      s.handle.cancelled = false ∧ ∃ v, f.result s.context = .ok v ∧ s.save f.saveTo v = t := by
  rw [runFrom_filter_next]
  simp only [runFrom_nil, Prod.mk.injEq, true_and]

theorem Pipeline.run_filter_next : Pipeline.run reg [.filter f] s = (.ok .next, t) ↔
    s.handle.cancelled = false ∧ ∃ v, f.result s.context = .ok v ∧ s.save f.saveTo v = t :=
  runFrom_last_filter_next

theorem Pipeline.run_filters_next : Pipeline.run reg [.filter f, .filter g] s = (.ok .next, t) ↔
    s.handle.cancelled = false ∧ ∃ v, f.result s.context = .ok v ∧
      ∃ w, g.result (s.context.insert f.saveTo v) = .ok w ∧
        (s.save f.saveTo v).save g.saveTo w = t := by
  rw [Pipeline.run, runFrom_filter_next]
  refine and_congr_right fun live => exists_congr fun v => and_congr_right fun _ => ?_
  have still_live : (s.save f.saveTo v).handle.cancelled = false := live
  rw [runFrom_last_filter_next, and_iff_right still_live]
  rfl

end

/-- Two filters on the same elements, the second of which asks what the first has kept, go through
just where one filter with both conditions does. What they save in the end is the same, and but for
what the first saves in between so is all the rest. -/
theorem Pipeline.run_fused_filters (reg : Registry) (s : State) {f g : Filter}
    (follows : g.Follows f) :
    let two := Pipeline.run reg [.filter f, .filter g] s
    let one := Pipeline.run reg [.filter (f.fuse g)] s
    (two.1 = .ok .next ↔ one.1 = .ok .next) ∧
    (one.1 = .ok .next →
      (∃ v, two.2.context.find? g.saveTo = some v ∧ one.2.context.find? g.saveTo = some v) ∧
      ∀ name, name ≠ f.saveTo → two.2.context.find? name = one.2.context.find? name) := by
  intro two one
  have ahead : one.1 = .ok .next → ∃ v w, two = (.ok .next, (s.save f.saveTo v).save g.saveTo w) ∧
      one = (.ok .next, s.save g.saveTo w) := by
    intro next
    have ran : one = (.ok .next, one.2) := Prod.ext next rfl
    obtain ⟨live, w, both, -⟩ := Pipeline.run_filter_next.mp ran
    obtain ⟨v, first, second⟩ := follows.result_fuse.mp both
    exact ⟨v, w, Pipeline.run_filters_next.mpr ⟨live, v, first, w, second, rfl⟩,
      Pipeline.run_filter_next.mpr ⟨live, w, both, rfl⟩⟩
  refine ⟨⟨fun next => ?_, fun next => ?_⟩, fun next => ?_⟩
  · have ran : two = (.ok .next, two.2) := Prod.ext next rfl
    obtain ⟨live, v, first, w, second, -⟩ := Pipeline.run_filters_next.mp ran
    have both := follows.result_fuse.mpr ⟨v, first, second⟩
    exact congrArg Prod.fst (Pipeline.run_filter_next.mpr ⟨live, w, both, rfl⟩)
  · obtain ⟨v, w, ran, -⟩ := ahead next
    rw [ran]
  · obtain ⟨v, w, ran, ran_fused⟩ := ahead next
    rw [ran, ran_fused]
    refine ⟨⟨w, by simp [State.save], by simp [State.save]⟩, fun name other => ?_⟩
    simp [State.save, other.symm]

/-- The second condition has no answer for nil. It is not asked for one, as the first condition
leaves the nil reading out, in a filter of its own or in the same one. -/
theorem Pipeline.run_fused_filters_past_nil :
    let three : Value := .int ⟨.i64, 3, by decide⟩
    let five : Value := .int ⟨.u8, 5, by decide⟩
    let nine : Value := .int ⟨.i64, 9, by decide⟩
    let readings : Value := .ref (.map [("a", three), ("b", .nil), ("c", nine)])
    let kept : Value := .map [("a", three)]
    let element : Option Term := some (.read "element")
    let known : Condition := .compare element .notEqual (some (.literal .nil))
    let low : Condition := .compare element .less (some (.literal five))
    let f : Filter := ⟨.read "readings", known, false, "element", "known"⟩
    let g : Filter := ⟨.read "known", low, false, "element", "low"⟩
    let reg : Registry := ⟨.empty, .empty⟩
    let s : State := ⟨SortedMap.empty.insert "readings" readings, .fresh⟩
    let two := Pipeline.run reg [.filter f, .filter g] s
    let one := Pipeline.run reg [.filter (f.fuse g)] s
    (g.Follows f ∧ one = (.ok .next, s.save "low" kept) ∧ "readings" ≠ f.saveTo) ∧
    two.1 = .ok .next ∧ two.2.context.find? "low" = some kept ∧
    two.2.context.find? "readings" = some readings := by
  intro three five nine readings kept element known low f g reg s two one
  have follows : g.Follows f := ⟨rfl, by decide, rfl, ⟨rfl, rfl⟩, by decide⟩
  have fused : one = (.ok .next, s.save "low" kept) := by
    dsimp only [one, f, g, Filter.fuse, known, low, element, five]
    rfl
  have next : one.1 = .ok .next := congrArg Prod.fst fused
  have other : "readings" ≠ f.saveTo := by decide
  obtain ⟨both, alike⟩ := Pipeline.run_fused_filters reg s follows
  obtain ⟨⟨v, saved, saved_fused⟩, rest⟩ := alike next
  have value : one.2.context.find? "low" = some kept := by
    rw [fused]
    rfl
  have unchanged : one.2.context.find? "readings" = some readings := by
    rw [fused]
    rfl
  exact ⟨⟨follows, fused, other⟩, both.mpr next, saved.trans (saved_fused.symm.trans value),
    (rest "readings" other).trans unchanged⟩

end RulePipeline
