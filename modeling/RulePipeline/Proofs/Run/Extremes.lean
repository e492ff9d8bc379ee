import RulePipeline.Proofs.Relation.Order
import RulePipeline.Proofs.Run.Folding

/-! The least and the greatest element of a list, found by a fold. The accumulator is one of the
elements seen so far, and none of them precedes it. This takes no more than that preceding carries
over: with doubles and great integers in one list, several elements may be equal to the result
without being equal to each other, and which of them is the result depends on their order. -/
namespace RulePipeline

/-- An end of the order. -/
inductive Extreme where
  | least
  | greatest

namespace Extreme

open Value

def aggregator : Extreme → Aggregator
  | .least => Aggregator.min
  | .greatest => Aggregator.max

/-- Where an element stands that takes the place of the accumulator. -/
def side : Extreme → Ordering
  | .least => .lt
  | .greatest => .gt

/-- The relation of an extreme element to all others. -/
def relation : Extreme → Relation
  | .least => .lessEqual
  | .greatest => .greaterEqual

/-- The value is closer to this end than the other one. -/
def Precedes (e : Extreme) (x y : Value) : Prop := x.InOrder y e.side

variable {e : Extreme} {x y z acc w : Value} {o : Ordering} {seen rest : List Value}

theorem aggregator_eq (e : Extreme) : e.aggregator = Aggregator.pick e.side := by
  cases e <;> rfl

theorem relation_ne_unset (e : Extreme) : e.relation ≠ .unset := by
  cases e <;> exact nofun

theorem precedes_iff (ordered : x.InOrder y o) : e.Precedes x y ↔ o = e.side := by
  constructor
  · exact ordered.unique
  · rintro rfl
    exact ordered

theorem Precedes.asymm (precedes : e.Precedes x y) : ¬ e.Precedes y x := by
  rw [precedes_iff (InOrder.swap precedes)]
  cases e <;> exact nofun

theorem not_precedes_self (e : Extreme) (x : Value) : ¬ e.Precedes x x := fun precedes =>
  precedes.asymm precedes

theorem Precedes.trans (first : e.Precedes x y) (second : e.Precedes y z) : e.Precedes x z := by
  cases e with
  | least => exact InOrder.lt_trans first second
  | greatest => exact (InOrder.lt_trans (InOrder.swap second) (InOrder.swap first)).swap

theorem Precedes.or_precedes (exact_values : Exact seen) (first : x ∈ seen) (second : y ∈ seen)
    (third : z ∈ seen) (precedes : e.Precedes x z) : e.Precedes x y ∨ e.Precedes y z := by
  cases e with
  | least => exact exact_values.lt_or_lt first second third precedes
  | greatest =>
    rcases exact_values.lt_or_lt third second first (InOrder.swap precedes) with less | less
    · exact .inr less.swap
    · exact .inl less.swap

theorem compare_eq_true (ordered : x.InOrder y o) :
    x.compare y e.relation = .ok true ↔ ¬ e.Precedes y x := by
  rw [ordered _ e.relation_ne_unset, precedes_iff ordered.swap]
  cases e <;> cases o <;> simp [relation, side, Relation.holds]

end Extreme

namespace Aggregator

variable {wanted o : Ordering} {acc x : Value} {e : CompareError}

theorem pick_of_nil (empty : acc.resolved.isNil) : pick wanted acc x = .ok x := by
  rw [pick, empty]
  rfl

theorem pick_of_order (full : acc.resolved.isNil = false) (told : x.order acc = .ok o) :
    pick wanted acc x = .ok (if o = wanted then x else acc) := by
  rw [pick, full, told]
  rfl

theorem pick_of_error (full : acc.resolved.isNil = false) (failed : x.order acc = .error e) :
    pick wanted acc x = .error (.compare e) := by
  rw [pick, full, failed]
  rfl

end Aggregator

namespace Extreme

open Value

variable {e : Extreme} {x acc : Value} {seen rest : List Value}

/-- The accumulator is an element of those seen that none of them precedes. Where equality tells
them apart it is the first of its kind. -/
structure Leads (e : Extreme) (seen : List Value) (acc : Value) : Prop where
  member : acc ∈ seen
  unpreceded : ∀ x ∈ seen, ¬ e.Precedes x acc
  first : Exact seen → ∃ front back, seen = front ++ acc :: back ∧ ∀ x ∈ front, e.Precedes acc x

theorem leads_singleton (e : Extreme) (x : Value) : e.Leads [x] x where
  member := List.mem_singleton_self x
  unpreceded := List.forall_mem_singleton.mpr (e.not_precedes_self x)
  first _ := ⟨[], [], rfl, nofun⟩

namespace Leads

theorem replaced (leads : e.Leads seen acc) (precedes : e.Precedes x acc) :
    e.Leads (seen ++ [x]) x where
  member := List.mem_append_right seen (List.mem_singleton_self x)
  unpreceded y member := by
    rcases List.mem_append.mp member with before | here
    · exact fun closer => leads.unpreceded y before (closer.trans precedes)
    · rw [List.mem_singleton.mp here]
      exact e.not_precedes_self x
  first exact_values := by
    refine ⟨seen, [], rfl, fun y before => ?_⟩
    have apart : e.Precedes x y ∨ e.Precedes y acc := precedes.or_precedes exact_values
      (List.mem_append_right seen (List.mem_singleton_self x)) (List.mem_append_left [x] before)
      (List.mem_append_left [x] leads.member)
    exact apart.resolve_right (leads.unpreceded y before)

theorem kept (leads : e.Leads seen acc) (behind : ¬ e.Precedes x acc) :
    e.Leads (seen ++ [x]) acc where
  member := List.mem_append_left [x] leads.member
  unpreceded y member := by
    rcases List.mem_append.mp member with before | here
    · exact leads.unpreceded y before
    · rwa [List.mem_singleton.mp here]
  first exact_values := by
    obtain ⟨front, back, rfl, before⟩ :=
      leads.first (exact_values.of_subset (List.subset_append_left seen [x]))
    exact ⟨front, back ++ [x], List.append_assoc _ _ _, before⟩

theorem step (leads : e.Leads seen acc) (comparable : Comparable (seen ++ [x])) :
    ∃ w, e.aggregator acc x = .ok w ∧ e.Leads (seen ++ [x]) w := by
  obtain ⟨o, ordered⟩ := comparable.inOrder
    (List.mem_append_right seen (List.mem_singleton_self x))
    (List.mem_append_left [x] leads.member)
  have full : acc.resolved.isNil = false :=
    (exists_order_iff.mp ⟨o, ordered.order⟩).isNil_eq_false
  refine ⟨_, e.aggregator_eq ▸ Aggregator.pick_of_order full ordered.order, ?_⟩
  split
  · exact leads.replaced ((precedes_iff ordered).mpr ‹_›)
  · exact leads.kept (mt (precedes_iff ordered).mp ‹_›)

theorem fold_ok (leads : e.Leads seen acc) (comparable : Comparable (seen ++ rest)) :
    ∃ r, Aggregator.fold e.aggregator acc rest = .ok r ∧ e.Leads (seen ++ rest) r := by
  induction rest generalizing seen acc with
  | nil => exact ⟨acc, rfl, (List.append_nil seen).symm ▸ leads⟩
  | cons x rest ih =>
    -- The element goes over to those that have been seen.
    rw [List.append_cons] at comparable ⊢
    obtain ⟨w, step, leads⟩ := leads.step
      (comparable.of_subset (List.subset_append_left (seen ++ [x]) rest))
    rw [Aggregator.fold_cons_ok step]
    exact ih leads comparable

end Leads

theorem fold_leads {start : Value} {items : List Value} (empty : start.resolved.isNil)
    (nonempty : items ≠ []) (comparable : Comparable items) :
    ∃ r, Aggregator.fold e.aggregator start items = .ok r ∧ e.Leads items r := by
  cases items with
  | nil => exact absurd rfl nonempty
  | cons x rest =>
    have first : e.aggregator start x = .ok x := e.aggregator_eq ▸ Aggregator.pick_of_nil empty
    rw [Aggregator.fold_cons_ok first]
    exact (e.leads_singleton x).fold_ok comparable

/-- The value has the relation of an extreme element to all of them. -/
def Bounds (e : Extreme) (items : List Value) (v : Value) : Prop :=
  ∀ x ∈ items, v.compare x e.relation = .ok true

variable {items : List Value} {r q : Value}

theorem Leads.bounds (leads : e.Leads items r) (comparable : Comparable items) :
    e.Bounds items r := by
  intro x member
  obtain ⟨o, ordered⟩ := comparable.inOrder leads.member member
  exact (compare_eq_true ordered).mpr (leads.unpreceded x member)

theorem Precedes.not_bounds (precedes : e.Precedes r x) (member : r ∈ items) :
    ¬ e.Bounds items x := fun bounds =>
  (compare_eq_true (InOrder.swap precedes)).mp (bounds r member) precedes

theorem equal_of_bounds (comparable : Comparable items) (left : r ∈ items) (right : q ∈ items)
    (bounds : e.Bounds items r) (bounds' : e.Bounds items q) : r.compare q .equal = .ok true := by
  obtain ⟨o, ordered⟩ := comparable.inOrder left right
  have behind := (compare_eq_true ordered).mp (bounds q right)
  have ahead := (compare_eq_true ordered.swap).mp (bounds' r left)
  rw [precedes_iff ordered.swap] at behind
  rw [precedes_iff ordered] at ahead
  have same : o = .eq := by cases e <;> cases o <;> simp [side] at ahead behind ⊢
  rw [ordered .equal Relation.equal_ne_unset, same]
  rfl

end Extreme

/-- The fold for the least or the greatest element of a list that has one, of numbers of any kinds
or of strings, succeeds and saves an element that has its relation to all of them. Any other fold
over the same elements, in another order or from the other end, saves one that is equal to it. Of
integers, and of strings, it is the first such element in the order of the fold. -/
theorem Node.run_extreme {e : Extreme} {reg : Registry} {s : State} {f : Fold} {start : Value}
    {items : List Value} (finds : f.Finds reg s.context e.aggregator start items)
    (empty : start.resolved.isNil) (nonempty : items ≠ []) (comparable : Value.Comparable items) :
    ∃ r, (Node.fold f).run reg s = (.ok .next, s.save f.saveTo r) ∧ r ∈ items ∧
      e.Bounds items r ∧
      (Value.Exact items → ∃ front back, f.ordered items = front ++ r :: back ∧
        ∀ x ∈ front, ¬ e.Bounds items x) ∧
      ∀ (reg' : Registry) (t : State) (g : Fold) (first : Value) (others : List Value),
        g.Finds reg' t.context e.aggregator first others → first.resolved.isNil →
        others.Perm items →
        ∃ q, (Node.fold g).run reg' t = (.ok .next, t.save g.saveTo q) ∧
          r.compare q .equal = .ok true := by
  have outcome {reg' : Registry} {t : State} {g : Fold} {first : Value} {others : List Value}
      (finds : g.Finds reg' t.context e.aggregator first others) (empty : first.resolved.isNil)
      (perm : others.Perm items) :
      ∃ r, (Node.fold g).run reg' t = (.ok .next, t.save g.saveTo r) ∧ r ∈ items ∧
        e.Bounds items r ∧ e.Leads (g.ordered others) r := by
    have perm_ordered : (g.ordered others).Perm items := (g.ordered_perm others).trans perm
    have some_ordered : g.ordered others ≠ [] := fun none =>
      nonempty (none ▸ perm_ordered.symm).eq_nil
    obtain ⟨r, folded, leads⟩ := Extreme.fold_leads empty some_ordered
      (comparable.of_subset perm_ordered.subset)
    refine ⟨r, finds.run_ok folded, perm_ordered.subset leads.member, fun x member => ?_, leads⟩
    exact leads.bounds (comparable.of_subset perm_ordered.subset) x
      (perm_ordered.symm.subset member)
  obtain ⟨r, ran, member, bounds, leads⟩ := outcome finds empty (List.Perm.refl items)
  refine ⟨r, ran, member, bounds, fun exact_values => ?_, ?_⟩
  · obtain ⟨front, back, split, before⟩ :=
      leads.first (exact_values.of_subset (f.ordered_perm items).subset)
    exact ⟨front, back, split, fun x early => (before x early).not_bounds member⟩
  · intro reg' t g first others finds_others empty_first perm
    obtain ⟨q, ran_other, member_other, bounds_other, -⟩ := outcome finds_others empty_first perm
    exact ⟨q, ran_other, Extreme.equal_of_bounds comparable member member_other bounds bounds_other⟩

/-- Next to a double that both of two integers are rounded to, the result is the element that the
fold comes to first. Of integers, it is the first of those that are least. -/
theorem Node.run_extreme_rounded :
    let odd : Value := .ref (.int ⟨.i64, 9007199254740993, by decide⟩)
    let double : Value := .f64 (.ofInt 9007199254740992)
    let three : Value := .int ⟨.u8, 3, by decide⟩
    let narrow : Value := .ref (.int ⟨.i8, -1, by decide⟩)
    let wide : Value := .int ⟨.i64, -1, by decide⟩
    let mixed : Fold := ⟨.literal (.list [odd, double]), .literal .nil, "min", false, "least"⟩
    let reversed : Fold := { mixed with rightToLeft := true }
    let whole : Fold := ⟨.literal (.list [three, narrow, wide]), .literal .nil, "min", false, "least"⟩
    let reg : Registry := ⟨.empty, Aggregator.builtins⟩
    let s : State := ⟨.empty, .fresh⟩
    (mixed.Finds reg s.context Extreme.least.aggregator .nil [odd, double] ∧
      reversed.Finds reg s.context Extreme.least.aggregator .nil [odd, double] ∧
      whole.Finds reg s.context Extreme.least.aggregator .nil [three, narrow, wide] ∧
      Value.Comparable [odd, double] ∧ Value.Comparable [three, narrow, wide] ∧
      Value.Exact [three, narrow, wide]) ∧
    (Node.fold mixed).run reg s = (.ok .next, s.save "least" odd) ∧
    (Node.fold reversed).run reg s = (.ok .next, s.save "least" double) ∧
    odd.compare double .equal = .ok true ∧
    (Node.fold whole).run reg s = (.ok .next, s.save "least" narrow) ∧
    ∃ front back, [three, narrow, wide] = front ++ narrow :: back ∧
      ∀ x ∈ front, ¬ Extreme.least.Bounds [three, narrow, wide] x := by
  intro odd double three narrow wide mixed reversed whole reg s
  have comparable : Value.Comparable [odd, double] :=
    .inl (List.forall_mem_cons.mpr ⟨⟨rfl, nofun⟩, List.forall_mem_singleton.mpr ⟨rfl, nofun⟩⟩)
  have comparable_whole : Value.Comparable [three, narrow, wide] :=
    .inl (List.forall_mem_cons.mpr ⟨⟨rfl, nofun⟩, List.forall_mem_cons.mpr ⟨⟨rfl, nofun⟩,
      List.forall_mem_singleton.mpr ⟨rfl, nofun⟩⟩⟩)
  have exact_whole : Value.Exact [three, narrow, wide] :=
    .inl (List.forall_mem_cons.mpr ⟨⟨_, rfl⟩, List.forall_mem_cons.mpr ⟨⟨_, rfl⟩,
      List.forall_mem_singleton.mpr ⟨_, rfl⟩⟩⟩)
  have finds : mixed.Finds reg s.context Extreme.least.aggregator .nil [odd, double] :=
    ⟨rfl, ⟨_, rfl, rfl⟩, rfl⟩
  have finds_reversed : reversed.Finds reg s.context Extreme.least.aggregator .nil [odd, double] :=
    ⟨rfl, ⟨_, rfl, rfl⟩, rfl⟩
  have finds_whole :
      whole.Finds reg s.context Extreme.least.aggregator .nil [three, narrow, wide] :=
    ⟨rfl, ⟨_, rfl, rfl⟩, rfl⟩
  have same : Numeric.order (.signed 9007199254740993) (.float (.ofInt 9007199254740992)) =
      some .eq := by decide +kernel
  have ordered : odd.InOrder double .eq := Value.inOrder_of_numbers rfl rfl same
  have first (x : Value) : Aggregator.pick .lt .nil x = .ok x := Aggregator.pick_of_nil rfl
  have folded : Aggregator.fold (Aggregator.pick .lt) .nil [odd, double] = .ok odd := by
    rw [Aggregator.fold_cons_ok (first odd),
      Aggregator.fold_cons_ok (Aggregator.pick_of_order rfl ordered.swap.order)]
    rfl
  have folded_reversed : Aggregator.fold (Aggregator.pick .lt) .nil [double, odd] = .ok double := by
    rw [Aggregator.fold_cons_ok (first double),
      Aggregator.fold_cons_ok (Aggregator.pick_of_order rfl ordered.order)]
    rfl
  have folded_whole : Aggregator.fold Aggregator.min .nil [three, narrow, wide] = .ok narrow := rfl
  have saved {v w : Value} (same : ((.ok .next, s.save "least" v) : Outcome) =
      (.ok .next, s.save "least" w)) : v = w := by
    have found := congrArg (fun outcome => outcome.2.context.find? "least") same
    simpa [State.save] using found
  obtain ⟨r, ran, -, -, -, others⟩ := Node.run_extreme finds rfl nofun comparable
  obtain ⟨q, ran_reversed, equal⟩ := others reg s reversed .nil _ finds_reversed rfl
    (List.Perm.refl _)
  obtain rfl := saved (ran.symm.trans (finds.run_ok folded))
  obtain rfl := saved (ran_reversed.symm.trans (finds_reversed.run_ok folded_reversed))
  obtain ⟨least, ran_whole, -, -, leads, -⟩ :=
    Node.run_extreme finds_whole rfl nofun comparable_whole
  obtain rfl := saved (ran_whole.symm.trans (finds_whole.run_ok folded_whole))
  exact ⟨⟨finds, finds_reversed, finds_whole, comparable, comparable_whole, exact_whole⟩, ran,
    ran_reversed, equal, ran_whole, leads exact_whole⟩

namespace Value

variable {v w : Value} {values : List Value}

theorem Alike.symm (alike : v.Alike w) : w.Alike v := alike.imp And.symm And.symm

theorem Alike.number_iff (alike : v.Alike w) : v.isNumber ↔ w.isNumber := by
  rcases alike with ⟨left, right⟩ | ⟨left, right⟩
  · exact iff_of_true left right
  · exact iff_of_false (fun number => not_isString_of_isNumber number left)
      fun number => not_isString_of_isNumber number right

theorem Alike.string_iff (alike : v.Alike w) : v.isString ↔ w.isString := by
  rcases alike with ⟨left, right⟩ | ⟨left, right⟩
  · exact iff_of_false (not_isString_of_isNumber left) (not_isString_of_isNumber right)
  · exact iff_of_true left right

theorem uniform_pair : Uniform [v, w] ↔ v.Alike w := by
  simp [Uniform, AllOrStrings, Alike]

/-- A value counts for others that are like it. -/
theorem Alike.uniform_cons (alike : v.Alike w) :
    Uniform (v :: values) ↔ Uniform (w :: v :: values) := by
  simp [Uniform, AllOrStrings, alike.number_iff, alike.string_iff]

theorem Alike.uniform_congr (alike : v.Alike w) :
    Uniform (v :: values) ↔ Uniform (w :: values) := by
  simp [Uniform, AllOrStrings, alike.number_iff, alike.string_iff]

/-- The values behind those nils that are in front. -/
def behindNils (values : List Value) : List Value := values.dropWhile fun v => v.resolved.isNil

theorem behindNils_of_full (full : ∀ v ∈ values, v.resolved.isNil = false) :
    behindNils values = values := by
  cases values with
  | nil => rfl
  | cons v rest =>
    exact List.dropWhile_cons_of_neg (Bool.eq_false_iff.mp (full v List.mem_cons_self))

theorem Uniform.isNil_eq_false (uniform : Uniform values) (member : v ∈ values) :
    v.resolved.isNil = false := by
  have alike : v.Alike v := uniform_pair.mp (uniform.of_subset (by simp [member]))
  exact alike.isNil_eq_false

end Value

namespace Aggregator

open Value

variable {wanted : Ordering} {start acc : Value} {items : List Value}

/-- With a value in the accumulator, a fold succeeds if there is nothing to compare it with, or
else just if all of them are numbers or all of them are strings. -/
theorem fold_pick_ok_iff (full : acc.resolved.isNil = false) :
    (∃ r, fold (pick wanted) acc items = .ok r) ↔ items = [] ∨ Uniform (acc :: items) := by
  induction items generalizing acc with
  | nil => exact iff_of_true ⟨acc, rfl⟩ (.inl rfl)
  | cons x rest ih =>
    by_cases alike : x.Alike acc
    · obtain ⟨o, told⟩ := exists_order_iff.mpr alike
      rw [fold_cons_ok (pick_of_order full told)]
      have alone : rest = [] → Uniform (acc :: x :: rest) := by
        rintro rfl
        exact uniform_pair.mpr alike.symm
      -- Either way, the new accumulator is like the old one.
      split
      · rw [ih alike.symm.isNil_eq_false, alike.uniform_cons]
        simpa using alone
      · rw [ih full, ← alike.uniform_congr, alike.uniform_cons]
        simpa using alone
    · cases told : x.order acc with
      | ok o => exact absurd (exists_order_iff.mp ⟨o, told⟩) alike
      | error e =>
        rw [fold_cons_error (pick_of_error full told)]
        refine iff_of_false nofun ?_
        rintro (none | uniform)
        · cases none
        · exact alike (uniform_pair.mp (uniform.of_subset (by simp))).symm

/-- Before there is a value in the accumulator, nils are passed over and the first other element
is taken as it is. -/
theorem fold_pick_ok_iff_of_nil (empty : start.resolved.isNil) :
    (∃ r, fold (pick wanted) start items = .ok r) ↔
      (behindNils items).length ≤ 1 ∨ Uniform (behindNils items) := by
  induction items generalizing start with
  | nil => exact iff_of_true ⟨start, rfl⟩ (.inl (Nat.zero_le 1))
  | cons x rest ih =>
    rw [fold_cons_ok (pick_of_nil empty)]
    cases here : x.resolved.isNil with
    | true =>
      have passed : behindNils (x :: rest) = behindNils rest := List.dropWhile_cons_of_pos here
      rw [passed, ih here]
    | false =>
      have all : behindNils (x :: rest) = x :: rest :=
        List.dropWhile_cons_of_neg (Bool.eq_false_iff.mp here)
      rw [all, fold_pick_ok_iff here]
      simp

end Aggregator

/-- The fold for the least or the greatest element, from nothing, fails just where there are two
elements to compare that are not both numbers or both strings, behind all nils in front; and then it
has written nothing. So it succeeds on numbers and on strings. Of all lists it succeeds on just
these, unless the odd elements are never compared: nils in front, and an element that is
the only one behind them. Without nils, it does not matter in which order the elements are. -/
theorem Node.run_extreme_ok_iff {e : Extreme} {reg : Registry} {s : State} {f : Fold} {start : Value}
    {items : List Value} (finds : f.Finds reg s.context e.aggregator start items)
    (empty : start.resolved.isNil) :
    let compared := Value.behindNils (f.ordered items)
    let succeeds := ∃ r, (Node.fold f).run reg s = (.ok .next, s.save f.saveTo r)
    (succeeds ↔ compared.length ≤ 1 ∨ Value.Uniform compared) ∧
    (¬ succeeds → ∃ cause,
      (Node.fold f).run reg s = (.error (.aggregation f.aggregator cause), s)) ∧
    (Value.Uniform items → succeeds) ∧
    ((succeeds ↔ Value.Uniform items) ↔
      Value.Uniform items ∨ 2 ≤ compared.length ∧ ¬ Value.Uniform compared) ∧
    ((∀ x ∈ items, x.resolved.isNil = false) →
      ∀ (reg' : Registry) (t : State) (g : Fold) (first : Value) (others : List Value),
        g.Finds reg' t.context e.aggregator first others → first.resolved.isNil →
        others.Perm items →
        ((∃ r, (Node.fold g).run reg' t = (.ok .next, t.save g.saveTo r)) ↔ succeeds)) := by
  intro compared succeeds
  have ok_iff {reg' : Registry} {t : State} {g : Fold} {first : Value} {others : List Value}
      (finds : g.Finds reg' t.context e.aggregator first others) (empty : first.resolved.isNil) :
      (∃ r, (Node.fold g).run reg' t = (.ok .next, t.save g.saveTo r)) ↔
        (Value.behindNils (g.ordered others)).length ≤ 1 ∨
          Value.Uniform (Value.behindNils (g.ordered others)) := by
    rw [finds.ok_iff, e.aggregator_eq]
    exact Aggregator.fold_pick_ok_iff_of_nil empty
  have succeeds_iff : succeeds ↔ compared.length ≤ 1 ∨ Value.Uniform compared :=
    ok_iff finds empty
  have of_uniform (uniform : Value.Uniform items) : succeeds := by
    have ordered_uniform : Value.Uniform (f.ordered items) :=
      uniform.of_subset (f.ordered_perm items).subset
    have all : compared = f.ordered items :=
      Value.behindNils_of_full fun x member => ordered_uniform.isNil_eq_false member
    exact succeeds_iff.mpr (.inr (all ▸ ordered_uniform))
  refine ⟨succeeds_iff, finds.error_of_not_ok, of_uniform, ?_, ?_⟩
  · by_cases uniform : Value.Uniform items
    · simp [uniform, of_uniform uniform]
    · simp only [uniform, iff_false, false_or, succeeds_iff, not_or, Nat.not_le]
      exact Iff.rfl
  · intro full reg' t g first others finds_others empty_first perm
    have perm_ordered : (g.ordered others).Perm (f.ordered items) :=
      (g.ordered_perm others).trans (perm.trans (f.ordered_perm items).symm)
    have full_ordered : ∀ x ∈ f.ordered items, x.resolved.isNil = false := fun x member =>
      full x (Fold.mem_ordered.mp member)
    have all : compared = f.ordered items := Value.behindNils_of_full full_ordered
    have all_others : Value.behindNils (g.ordered others) = g.ordered others :=
      Value.behindNils_of_full fun x member => full_ordered x (perm_ordered.subset member)
    have same_uniform : Value.Uniform (g.ordered others) ↔ Value.Uniform (f.ordered items) :=
      ⟨fun uniform => uniform.of_subset perm_ordered.symm.subset,
        fun uniform => uniform.of_subset perm_ordered.subset⟩
    rw [ok_iff finds_others empty_first, succeeds_iff, all, all_others, perm_ordered.length_eq,
      same_uniform]

/-- A nil in front of two numbers is passed over, and behind them it is compared. -/
theorem Node.run_extreme_ok_iff_nil :
    let one : Value := .int ⟨.i64, 1, by decide⟩
    let three : Value := .ref (.int ⟨.u8, 3, by decide⟩)
    let f : Fold := ⟨.literal (.list [.nil, one, three]), .literal .nil, "max", false, "greatest"⟩
    let reversed : Fold := { f with rightToLeft := true }
    let reg : Registry := ⟨.empty, Aggregator.builtins⟩
    let s : State := ⟨.empty, .fresh⟩
    (f.Finds reg s.context Extreme.greatest.aggregator .nil [.nil, one, three] ∧
      reversed.Finds reg s.context Extreme.greatest.aggregator .nil [.nil, one, three]) ∧
    (∃ r, (Node.fold f).run reg s = (.ok .next, s.save "greatest" r)) ∧
    ∃ cause, (Node.fold reversed).run reg s = (.error (.aggregation "max" cause), s) := by
  intro one three f reversed reg s
  have finds : f.Finds reg s.context Extreme.greatest.aggregator .nil [.nil, one, three] :=
    ⟨rfl, ⟨_, rfl, rfl⟩, rfl⟩
  have finds_reversed :
      reversed.Finds reg s.context Extreme.greatest.aggregator .nil [.nil, one, three] :=
    ⟨rfl, ⟨_, rfl, rfl⟩, rfl⟩
  obtain ⟨succeeds_iff, -⟩ := Node.run_extreme_ok_iff finds rfl
  obtain ⟨reversed_iff, failure, -⟩ := Node.run_extreme_ok_iff finds_reversed rfl
  refine ⟨⟨finds, finds_reversed⟩, succeeds_iff.mpr (.inr (.inl ?_)), failure fun succeeds => ?_⟩
  · exact List.forall_mem_cons.mpr ⟨rfl, List.forall_mem_singleton.mpr rfl⟩
  · rcases reversed_iff.mp succeeds with short | numbers | strings
    · exact absurd short (by decide)
    · cases numbers .nil (.tail _ (.tail _ (.head _)))
    · cases strings .nil (.tail _ (.tail _ (.head _)))

/-- An element that can be put in no order at all is the least one of a list of its own. -/
theorem Node.run_extreme_unordered :
    let yes : Value := .bool true
    let f : Fold := ⟨.literal (.list [yes]), .literal .nil, "min", false, "least"⟩
    let reg : Registry := ⟨.empty, Aggregator.builtins⟩
    let s : State := ⟨.empty, .fresh⟩
    f.Finds reg s.context Extreme.least.aggregator .nil [yes] ∧ ¬ Value.Uniform [yes] ∧
    (Node.fold f).run reg s = (.ok .next, s.save "least" yes) ∧
    ¬ ((∃ r, (Node.fold f).run reg s = (.ok .next, s.save f.saveTo r)) ↔
      Value.Uniform [yes]) := by
  intro yes f reg s
  have finds : f.Finds reg s.context Extreme.least.aggregator .nil [yes] :=
    ⟨rfl, ⟨_, rfl, rfl⟩, rfl⟩
  have ran : (Node.fold f).run reg s = (.ok .next, s.save "least" yes) := finds.run_ok rfl
  have unordered : ¬ Value.Uniform [yes] := by
    rintro (numbers | strings)
    · cases numbers yes List.mem_cons_self
    · cases strings yes List.mem_cons_self
  exact ⟨finds, unordered, ran, fun equivalent => unordered (equivalent.mp ⟨yes, ran⟩)⟩

end RulePipeline
