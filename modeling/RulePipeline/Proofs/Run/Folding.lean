import RulePipeline.Proofs.Except
import RulePipeline.Run

/-! What a fold works on. It finds its aggregator, a list and a value to start from, and its outcome
is that of the aggregator on the elements in their order: the result is saved, and a failure of the
aggregator is the failure of the node, which then has written nothing. -/
namespace RulePipeline

namespace Aggregator

variable {combine : Aggregator} {acc x w : Value} {e : AggregateError}

theorem fold_append (combine : Aggregator) (acc : Value) (front back : List Value) :
    fold combine acc (front ++ back) = fold combine acc front >>= fun v => fold combine v back := by
  induction front generalizing acc with
  | nil => rfl
  | cons x rest ih =>
    rw [List.cons_append, fold, fold]
    cases combine acc x with
    | error e => rfl
    | ok v => exact ih v

theorem fold_cons_ok (step : combine acc x = .ok w) (rest : List Value) :
    fold combine acc (x :: rest) = fold combine w rest := by
  rw [fold, step]
  rfl

theorem fold_cons_error (step : combine acc x = .error e) (rest : List Value) :
    fold combine acc (x :: rest) = .error e := by
  rw [fold, step]
  rfl

end Aggregator

namespace Fold

variable {reg : Registry} {context : Context} {f : Fold} {combine : Aggregator} {start : Value}
  {items : List Value}

/-- The elements in the order in which the fold comes to them. -/
def ordered (f : Fold) (items : List Value) : List Value :=
  if f.rightToLeft then items.reverse else items

theorem ordered_perm (f : Fold) (items : List Value) : (f.ordered items).Perm items := by
  unfold ordered
  split
  · exact items.reverse_perm
  · rfl

theorem mem_ordered {x : Value} : x ∈ f.ordered items ↔ x ∈ items :=
  (f.ordered_perm items).mem_iff

theorem ordered_eq_nil : f.ordered items = [] ↔ items = [] := by
  rw [← List.length_eq_zero_iff, ← List.length_eq_zero_iff, (f.ordered_perm items).length_eq]

theorem exists_ordered_cons (f : Fold) (nonempty : items ≠ []) :
    ∃ x rest, f.ordered items = x :: rest :=
  List.exists_cons_of_ne_nil (mt ordered_eq_nil.mp nonempty)

/-- What the fold finds as it comes to run. -/
structure Finds (f : Fold) (reg : Registry) (context : Context) (combine : Aggregator)
    (start : Value) (items : List Value) : Prop where
  aggregator : reg.aggregators.find? f.aggregator = some combine
  source : ∃ v, f.source.eval context = .ok v ∧ v.resolved = .list items
  begins : f.start.eval context = .ok start

namespace Finds

theorem result_eq (finds : f.Finds reg context combine start items) :
    f.result reg context =
      (Aggregator.fold combine start (f.ordered items)).mapError (.aggregation f.aggregator) := by
  obtain ⟨v, source, resolved⟩ := finds.source
  rw [result, finds.aggregator]
  simp only [evalTerm, source, finds.begins, mapError_ok, bind, Except.bind, resolved]
  rfl

variable {s : State} {w : Value} {e : AggregateError}

theorem run_ok (finds : f.Finds reg s.context combine start items)
    (folded : Aggregator.fold combine start (f.ordered items) = .ok w) :
    (Node.fold f).run reg s = (.ok .next, s.save f.saveTo w) := by
  rw [Node.run, run, finds.result_eq, folded]
  rfl

theorem run_error (finds : f.Finds reg s.context combine start items)
    (folded : Aggregator.fold combine start (f.ordered items) = .error e) :
    (Node.fold f).run reg s = (.error (.aggregation f.aggregator e), s) := by
  rw [Node.run, run, finds.result_eq, folded]
  rfl

theorem ok_iff (finds : f.Finds reg s.context combine start items) :
    (∃ w, (Node.fold f).run reg s = (.ok .next, s.save f.saveTo w)) ↔
      ∃ w, Aggregator.fold combine start (f.ordered items) = .ok w := by
  constructor
  · rintro ⟨w, ran⟩
    cases folded : Aggregator.fold combine start (f.ordered items) with
    | ok v => exact ⟨v, rfl⟩
    | error e =>
      rw [finds.run_error folded] at ran
      cases ran
  · rintro ⟨w, folded⟩
    exact ⟨w, finds.run_ok folded⟩

theorem error_of_not_ok (finds : f.Finds reg s.context combine start items)
    (failed : ¬ ∃ w, (Node.fold f).run reg s = (.ok .next, s.save f.saveTo w)) :
    ∃ e, (Node.fold f).run reg s = (.error (.aggregation f.aggregator e), s) := by
  cases folded : Aggregator.fold combine start (f.ordered items) with
  | ok w => exact absurd ⟨w, finds.run_ok folded⟩ failed
  | error e => exact ⟨e, finds.run_error folded⟩

end Finds

end Fold

end RulePipeline
