import Mathlib.Data.List.Infix
import RulePipeline.Proofs.Relation.Integers
import RulePipeline.Proofs.Run.Folding
import RulePipeline.Proofs.Value.RoundTrip

/-! Integers added up by a fold. Each total is the exact one, or the fold ends there. What kind a
total has is told by its summands alone, though the totals before it may have had another one. -/
namespace RulePipeline

namespace Value

/-- The integer that the value resolves to. -/
def fixedInt? (v : Value) : Option FixedInt :=
  match v.resolved with
  | .int n => some n
  | _ => none

theorem fixedInt?_of_resolved {v : Value} {n : FixedInt} (resolved : v.resolved = .int n) :
    v.fixedInt? = some n := by
  rw [fixedInt?, resolved]

end Value

namespace FixedInt

variable {ns ms : List FixedInt} {m n : FixedInt}

/-- The exact total. -/
def sumOf : List FixedInt → Int
  | [] => 0
  | n :: rest => n.val + sumOf rest

@[simp]
theorem sumOf_singleton (n : FixedInt) : sumOf [n] = n.val := Int.add_zero n.val

theorem sumOf_concat (ns : List FixedInt) (m : FixedInt) :
    sumOf (ns ++ [m]) = sumOf ns + m.val := by
  induction ns with
  | nil => simp [sumOf]
  | cons n rest ih => simp only [List.cons_append, sumOf, ih, Int.add_assoc]

theorem sumOf_perm (perm : ns.Perm ms) : sumOf ns = sumOf ms := by
  induction perm with
  | nil => rfl
  | cons n _ ih => rw [sumOf, sumOf, ih]
  | swap m n rest =>
    simp only [sumOf]
    omega
  | trans _ _ first second => rw [first, second]

/-- All the integers are of unsigned kinds. -/
def AllUnsigned (ns : List FixedInt) : Prop := ∀ n ∈ ns, n.kind.signed = false

instance (ns : List FixedInt) : Decidable (AllUnsigned ns) :=
  inferInstanceAs (Decidable (∀ n ∈ ns, n.kind.signed = false))

theorem allUnsigned_concat : AllUnsigned (ns ++ [m]) ↔ AllUnsigned ns ∧ m.kind.signed = false := by
  simp [AllUnsigned, or_imp, forall_and]

/-- A total is unsigned if all its summands are, or if it is too great for a signed kind. -/
def totalKind (ns : List FixedInt) : IntKind :=
  if AllUnsigned ns ∨ IntKind.greatest .i64 < sumOf ns then .u64 else .i64

theorem totalKind_unsigned :
    (totalKind ns).signed = false ↔ AllUnsigned ns ∨ IntKind.greatest .i64 < sumOf ns := by
  unfold totalKind
  split <;> simp_all [IntKind.signed]

theorem totalKind_singleton_signed (n : FixedInt) :
    (totalKind [n]).signed = n.kind.signed := by
  cases sign : n.kind.signed with
  | true =>
    have small : n.val ≤ IntKind.greatest .i64 := le_of_signed sign
    rw [← Bool.not_eq_false, totalKind_unsigned]
    simp [AllUnsigned, sign, small]
  | false =>
    rw [totalKind_unsigned]
    simp [AllUnsigned, sign]

/-- An unsigned total to which an unsigned integer is added has unsigned summands only, or it is
too great already. -/
theorem totalKind_concat (sign : n.kind.signed = (totalKind ns).signed) (m : FixedInt) :
    totalKind (ns ++ [m]) =
      if (!n.kind.signed && !m.kind.signed) ∨ IntKind.greatest .i64 < sumOf (ns ++ [m])
      then .u64 else .i64 := by
  have same : AllUnsigned (ns ++ [m]) ∨ IntKind.greatest .i64 < sumOf (ns ++ [m]) ↔
      (!n.kind.signed && !m.kind.signed) ∨ IntKind.greatest .i64 < sumOf (ns ++ [m]) := by
    rw [allUnsigned_concat, sumOf_concat, sign]
    cases unsigned : m.kind.signed with
    | true => simp
    | false =>
      have nonneg : 0 ≤ m.val := nonneg_of_unsigned unsigned
      simp only [and_true, Bool.not_false, Bool.and_true, Bool.not_eq_true', totalKind_unsigned]
      constructor
      · rintro (all | great)
        · exact .inl (.inl all)
        · exact .inr great
      · rintro ((all | great) | great)
        · exact .inl all
        · -- A total that no signed kind holds stays so great.
          exact .inr (by omega)
        · exact .inr great
  simp only [totalKind, same]

theorem totalKind_perm (perm : ns.Perm ms) : totalKind ns = totalKind ms := by
  have same : AllUnsigned ns ↔ AllUnsigned ms := by simp only [AllUnsigned, perm.mem_iff]
  simp only [totalKind, same, sumOf_perm perm]

/-- There is a kind of 64 bits for the integer. -/
def Fits (n : Int) : Prop := IntKind.least .i64 ≤ n ∧ n ≤ IntKind.greatest .u64

instance (n : Int) : Decidable (Fits n) :=
  inferInstanceAs (Decidable (IntKind.least .i64 ≤ n ∧ n ≤ IntKind.greatest .u64))

theorem two_le_length_concat (nonempty : ns ≠ []) (m : FixedInt) : 2 ≤ (ns ++ [m]).length := by
  have := List.length_pos_iff.mpr nonempty
  simp
  omega

/-- There is room for the integer in 128 bits. -/
def FitsDouble (n : Int) : Prop :=
  -170141183460469231731687303715884105728 ≤ n ∧ n ≤ 170141183460469231731687303715884105727

theorem fitsDouble_add (m n : FixedInt) : FitsDouble (m.val + n.val) := by
  obtain ⟨m_low, m_high⟩ := m.range_of_64_bits
  obtain ⟨n_low, n_high⟩ := n.range_of_64_bits
  rw [IntKind.least_i64] at m_low n_low
  rw [IntKind.greatest_u64] at m_high n_high
  unfold FitsDouble
  omega

/-- Every partial total that has taken an addition fits. -/
def PartsFit (ns : List FixedInt) : Prop :=
  ∀ part, part <+: ns → 2 ≤ part.length → Fits (sumOf part)

instance (ns : List FixedInt) : Decidable (PartsFit ns) :=
  decidable_of_iff (∀ part ∈ ns.inits, 2 ≤ part.length → Fits (sumOf part)) (by
    simp only [List.mem_inits, PartsFit])

theorem PartsFit.of_leads (fit : PartsFit ns) (leads : ms <+: ns) : PartsFit ms :=
  fun part first => fit part (first.trans leads)

theorem partsFit_of_short (short : ns.length ≤ 1) : PartsFit ns := by
  intro part leads long
  have := leads.length_le
  omega

theorem partsFit_concat :
    PartsFit (ns ++ [m]) ↔ PartsFit ns ∧ (ns ≠ [] → Fits (sumOf (ns ++ [m]))) := by
  constructor
  · intro fit
    exact ⟨fit.of_leads (List.prefix_append ns [m]), fun nonempty =>
      fit _ (List.prefix_refl _) (two_le_length_concat nonempty m)⟩
  · rintro ⟨fit, last⟩ part leads long
    rcases List.prefix_concat_iff.mp leads with rfl | leads
    · apply last
      rintro rfl
      simp at long
    · exact fit part leads long

/-- The widest form of an integer. -/
def numeric (n : FixedInt) : Numeric :=
  if n.kind.signed then .signed n.val else .unsigned n.val.toNat

theorem toNat_of_unsigned (unsigned : n.kind.signed = false) : (n.val.toNat : Int) = n.val :=
  Int.toNat_of_nonneg (nonneg_of_unsigned unsigned)

end FixedInt

namespace Aggregator

open FixedInt

/-- The value stands for the total of the integers. Before the first of them it is nil, and one
integer that nothing has been added to is the value as it came. -/
inductive Carries : List FixedInt → Value → Prop
  | nothing {acc : Value} (empty : acc.resolved.isNil) : Carries [] acc
  | single {acc : Value} {n : FixedInt} (resolved : acc.resolved = .int n) : Carries [n] acc
  | added {ns : List FixedInt} {n : FixedInt} (long : 2 ≤ ns.length) (val : n.val = sumOf ns)
      (kind : n.kind = totalKind ns) : Carries ns (.int n)

variable {start acc x : Value} {elements : List Value} {ns : List FixedInt} {m n : FixedInt}

theorem add_numeric (m n : FixedInt) :
    add m.numeric n.numeric = total (!m.kind.signed && !n.kind.signed) (m.val + n.val) := by
  unfold FixedInt.numeric
  cases left : m.kind.signed with
  | true =>
    cases right : n.kind.signed with
    | true => rfl
    | false => exact congrArg (total false) (congrArg (m.val + ·) (toNat_of_unsigned right))
  | false =>
    have left_val : (m.val.toNat : Int) = m.val := toNat_of_unsigned left
    cases right : n.kind.signed with
    | true => exact congrArg (total false) (congrArg (· + n.val) left_val)
    | false =>
      have right_val : (n.val.toNat : Int) = n.val := toNat_of_unsigned right
      exact congrArg (total true) (congrArg₂ (· + ·) left_val right_val)

theorem numeric_of_resolved (resolved : x.resolved = .int n) : numeric x = .ok n.numeric := by
  rw [numeric, resolved]
  rfl

theorem sum_of_nil (empty : acc.resolved.isNil) (resolved : x.resolved = .int n) :
    sum acc x = .ok x := by
  rw [sum, numeric_of_resolved resolved]
  simp [bind, Except.bind, empty, pure, Except.pure]

theorem sum_of_int (left : acc.resolved = .int m) (right : x.resolved = .int n) :
    sum acc x = total (!m.kind.signed && !n.kind.signed) (m.val + n.val) := by
  have full : acc.resolved.isNil = false := by rw [left]; rfl
  rw [← add_numeric, sum, numeric_of_resolved left, numeric_of_resolved right]
  simp [bind, Except.bind, full]

theorem total_of_fits {unsigned : Bool} {n : Int} (fits : Fits n) (nonneg : unsigned → 0 ≤ n) :
    ∃ i : FixedInt, total unsigned n = .ok (.int i) ∧ i.val = n ∧
      i.kind = if unsigned ∨ IntKind.greatest .i64 < n then .u64 else .i64 := by
  obtain ⟨low, high⟩ := fits
  by_cases wide : unsigned ∨ IntKind.greatest .i64 < n
  · have bound : IntKind.least .u64 ≤ n := by
      rw [IntKind.least_u64]
      rcases wide with set | great
      · exact nonneg set
      · rw [IntKind.greatest_i64] at great
        omega
    have no_signed : (if unsigned then none else Value.ofInt? .i64 n) = none := by
      rcases wide with set | great
      · rw [if_pos set]
      · rw [Value.ofInt?_of_outside (by omega)]
        exact ite_self none
    refine ⟨⟨.u64, n, bound, high⟩, ?_, rfl, (if_pos wide).symm⟩
    rw [total, no_signed, Value.ofInt?_of_range ⟨bound, high⟩]
    rfl
  · have ⟨signed, small⟩ := not_or.mp wide
    have bound : n ≤ IntKind.greatest .i64 := Int.not_lt.mp small
    refine ⟨⟨.i64, n, low, bound⟩, ?_, rfl, (if_neg wide).symm⟩
    rw [total, if_neg signed, Value.ofInt?_of_range ⟨low, bound⟩]
    rfl

theorem total_of_not_fits (unsigned : Bool) {n : Int} (outside : ¬ Fits n) :
    total unsigned n = .error .sumOverflow := by
  have no_signed : Value.ofInt? .i64 n = none := by
    apply Value.ofInt?_of_outside
    rintro ⟨low, small⟩
    rw [IntKind.greatest_i64] at small
    exact outside ⟨low, by rw [IntKind.greatest_u64]; omega⟩
  have no_unsigned : Value.ofInt? .u64 n = none := by
    apply Value.ofInt?_of_outside
    rintro ⟨nonneg, high⟩
    rw [IntKind.least_u64] at nonneg
    exact outside ⟨by rw [IntKind.least_i64]; omega, high⟩
  rw [total, no_signed, no_unsigned, ite_self]
  rfl

namespace Carries

theorem int (carries : Carries ns acc) (nonempty : ns ≠ []) :
    ∃ n, acc.resolved = .int n ∧ n.val = sumOf ns ∧ n.kind.signed = (totalKind ns).signed := by
  cases carries with
  | nothing => exact absurd rfl nonempty
  | @single acc n resolved =>
    exact ⟨n, resolved, (sumOf_singleton n).symm, (totalKind_singleton_signed n).symm⟩
  | @added ns n long val kind => exact ⟨n, rfl, val, by rw [kind]⟩

theorem nil_or_int (carries : Carries ns acc) :
    acc.resolved.isNil ∨ ∃ n, acc.resolved = .int n := by
  cases carries with
  | nothing empty => exact .inl empty
  | single resolved => exact .inr ⟨_, resolved⟩
  | added => exact .inr ⟨_, rfl⟩

/-- One more integer, as long as the total fits. -/
theorem sum_ok (carries : Carries ns acc) (resolved : x.resolved = .int m)
    (fits : ns ≠ [] → Fits (sumOf (ns ++ [m]))) :
    ∃ w, sum acc x = .ok w ∧ Carries (ns ++ [m]) w := by
  by_cases first : ns = []
  · subst first
    cases carries with
    | nothing empty => exact ⟨x, sum_of_nil empty resolved, .single resolved⟩
    | added long => exact absurd long (by decide)
  · obtain ⟨n, left, val, sign⟩ := carries.int first
    have step : sum acc x = total (!n.kind.signed && !m.kind.signed) (sumOf (ns ++ [m])) := by
      rw [sum_of_int left resolved, val, sumOf_concat]
    have nonneg : (!n.kind.signed && !m.kind.signed) → 0 ≤ sumOf (ns ++ [m]) := by
      intro unsigned
      simp only [Bool.and_eq_true, Bool.not_eq_true'] at unsigned
      have left_nonneg : 0 ≤ n.val := nonneg_of_unsigned unsigned.1
      have right_nonneg : 0 ≤ m.val := nonneg_of_unsigned unsigned.2
      rw [sumOf_concat, ← val]
      omega
    obtain ⟨i, totalled, exact_total, kind⟩ := total_of_fits (fits first) nonneg
    exact ⟨.int i, step.trans totalled, .added (two_le_length_concat first m) exact_total
      (kind.trans (totalKind_concat sign m).symm)⟩

theorem sum_overflow (carries : Carries ns acc) (resolved : x.resolved = .int m)
    (nonempty : ns ≠ []) (outside : ¬ Fits (sumOf (ns ++ [m]))) :
    sum acc x = .error .sumOverflow := by
  obtain ⟨n, left, val, -⟩ := carries.int nonempty
  rw [sum_of_int left resolved, val, ← sumOf_concat, total_of_not_fits _ outside]

end Carries

/-- The integers that the values resolve to. -/
def integers (values : List Value) : List FixedInt := values.filterMap Value.fixedInt?

theorem integers_cons (resolved : x.resolved = .int m) (rest : List Value) :
    integers (x :: rest) = m :: integers rest :=
  List.filterMap_cons_some (Value.fixedInt?_of_resolved resolved)

theorem append_integers_cons (resolved : x.resolved = .int m) (ns : List FixedInt)
    (rest : List Value) : ns ++ integers (x :: rest) = (ns ++ [m]) ++ integers rest := by
  rw [integers_cons resolved, List.append_assoc, List.singleton_append]

theorem length_integers (ints : ∀ x ∈ elements, x.IsInteger) :
    (integers elements).length = elements.length := by
  induction elements with
  | nil => rfl
  | cons x rest ih =>
    obtain ⟨⟨m, resolved⟩, later⟩ := List.forall_mem_cons.mp ints
    rw [integers_cons resolved, List.length_cons, List.length_cons, ih later]

/-- Each of the elements takes the total a step further. -/
theorem fold_sum_of_fits (carries : Carries ns acc) (ints : ∀ x ∈ elements, x.IsInteger)
    (fit : PartsFit (ns ++ integers elements)) :
    ∃ w, fold sum acc elements = .ok w ∧ Carries (ns ++ integers elements) w := by
  induction elements generalizing ns acc with
  | nil => exact ⟨acc, rfl, by simpa [integers] using carries⟩
  | cons x rest ih =>
    obtain ⟨⟨m, resolved⟩, later⟩ := List.forall_mem_cons.mp ints
    -- The element goes over to those that the total stands for.
    rw [append_integers_cons resolved] at fit ⊢
    have next := partsFit_concat.mp (fit.of_leads (List.prefix_append (ns ++ [m]) _))
    obtain ⟨v, added, carries⟩ := carries.sum_ok resolved next.2
    obtain ⟨w, folded, carries⟩ := ih carries later fit
    refine ⟨w, ?_, carries⟩
    rw [fold, added]
    exact folded

/-- Where not all partial totals fit, there is a first one that does not. -/
theorem exists_first_misfit (fit : PartsFit ns) (ints : ∀ x ∈ elements, x.IsInteger)
    (misfit : ¬ PartsFit (ns ++ integers elements)) :
    ∃ front x back m, elements = front ++ x :: back ∧ x.resolved = .int m ∧
      PartsFit (ns ++ integers front) ∧ ¬ PartsFit (ns ++ integers front ++ [m]) := by
  induction elements generalizing ns with
  | nil => exact absurd fit (by simpa [integers] using misfit)
  | cons x rest ih =>
    obtain ⟨⟨m, resolved⟩, later⟩ := List.forall_mem_cons.mp ints
    by_cases next : PartsFit (ns ++ [m])
    · rw [append_integers_cons resolved] at misfit
      obtain ⟨front, y, back, k, rfl, found⟩ := ih next later misfit
      rw [← append_integers_cons resolved] at found
      exact ⟨x :: front, y, back, k, rfl, found⟩
    · have nothing_before : ns ++ integers [] = ns := List.append_nil ns
      exact ⟨[], x, rest, m, rfl, resolved, by rwa [nothing_before], by rwa [nothing_before]⟩

/-- The value that the summands add up to: one that nothing has been added to as it came, and
otherwise the exact total. -/
structure Summed (start : Value) (elements : List Value) (w : Value) : Prop where
  unchanged : (integers (start :: elements)).length ≤ 1 → w = elements.headD start
  exact_total : 2 ≤ (integers (start :: elements)).length →
    ∃ i, w = .int i ∧ i.val = sumOf (integers (start :: elements)) ∧
      i.kind = totalKind (integers (start :: elements))

/-- The fold adds up what is in front of one of its elements, and fails at this one, as it is the
first with a total that does not fit. -/
def FirstOverflow (start : Value) (elements : List Value) : Prop :=
  ∃ front x back acc, elements = front ++ x :: back ∧ PartsFit (integers (start :: front)) ∧
    ¬ Fits (sumOf (integers (start :: (front ++ [x])))) ∧ fold sum start front = .ok acc ∧
    sum acc x = .error .sumOverflow

/-- There is nothing to start from, or an integer. -/
def Starts (start : Value) : Prop := start.resolved = .nil ∨ start.IsInteger

theorem integers_append (front back : List Value) :
    integers (front ++ back) = integers front ++ integers back := List.filterMap_append

theorem integers_cons_append (start : Value) (elements : List Value) :
    integers (start :: elements) = integers [start] ++ integers elements :=
  integers_append [start] elements

theorem integers_cons_of_nil (empty : start.resolved = .nil) (elements : List Value) :
    integers (start :: elements) = integers elements := by
  apply List.filterMap_cons_none
  rw [Value.fixedInt?, empty]

theorem Starts.carries (starts : Starts start) : Carries (integers [start]) start := by
  rcases starts with empty | ⟨n, resolved⟩
  · rw [integers_cons_of_nil empty]
    exact .nothing (by rw [empty]; rfl)
  · rw [integers_cons resolved]
    exact .single resolved

theorem partsFit_start (start : Value) : PartsFit (integers [start]) :=
  partsFit_of_short (List.length_filterMap_le Value.fixedInt? [start])

theorem carries_of_fits (starts : Starts start) (ints : ∀ x ∈ elements, x.IsInteger)
    (fit : PartsFit (integers (start :: elements))) :
    ∃ w, fold sum start elements = .ok w ∧ Carries (integers (start :: elements)) w := by
  rw [integers_cons_append] at fit ⊢
  exact fold_sum_of_fits starts.carries ints fit

/-- An element is the only summand if it is the only element and there is nothing in front of
it. -/
theorem Starts.nil_of_short (starts : Starts start) (ints : ∀ y ∈ x :: elements, y.IsInteger)
    (short : (integers (start :: x :: elements)).length ≤ 1) :
    start.resolved = .nil ∧ elements = [] := by
  rcases starts with empty | ⟨n, number⟩
  · rw [integers_cons_of_nil empty, length_integers ints, List.length_cons] at short
    exact ⟨empty, List.length_eq_zero_iff.mp (by omega)⟩
  · rw [integers_cons number, List.length_cons, length_integers ints, List.length_cons] at short
    omega

theorem fold_sum_short (starts : Starts start) (ints : ∀ x ∈ elements, x.IsInteger)
    (short : (integers (start :: elements)).length ≤ 1) :
    fold sum start elements = .ok (elements.headD start) := by
  cases elements with
  | nil => rfl
  | cons x rest =>
    obtain ⟨empty, rfl⟩ := starts.nil_of_short ints short
    obtain ⟨m, resolved⟩ := ints x List.mem_cons_self
    have first : sum start x = .ok x := sum_of_nil (by rw [empty]; rfl) resolved
    rw [fold, first]
    rfl

theorem fold_sum (starts : Starts start) (ints : ∀ x ∈ elements, x.IsInteger)
    (fit : PartsFit (integers (start :: elements))) :
    ∃ w, fold sum start elements = .ok w ∧ Summed start elements w := by
  obtain ⟨w, folded, carries⟩ := carries_of_fits starts ints fit
  refine ⟨w, folded, fun short => ?_, fun long => ?_⟩
  · have unchanged := fold_sum_short starts ints short
    exact Except.ok.inj (folded.symm.trans unchanged)
  · generalize integers (start :: elements) = ns at carries long
    cases carries with
    | nothing => exact absurd long (by decide)
    | single => simp at long
    | @added ns n _ val kind => exact ⟨n, rfl, val, kind⟩

theorem firstOverflow (starts : Starts start) (ints : ∀ x ∈ elements, x.IsInteger)
    (misfit : ¬ PartsFit (integers (start :: elements))) : FirstOverflow start elements := by
  rw [integers_cons_append] at misfit
  obtain ⟨front, x, back, m, rfl, resolved, fit, next⟩ :=
    exists_first_misfit (partsFit_start start) ints misfit
  rw [← integers_cons_append] at fit next
  have ints_front : ∀ y ∈ front, y.IsInteger := fun y member =>
    ints y (List.mem_append_left _ member)
  obtain ⟨acc, folded, carries⟩ := carries_of_fits starts ints_front fit
  have ⟨nonempty, outside⟩ : integers (start :: front) ≠ [] ∧
      ¬ Fits (sumOf (integers (start :: front) ++ [m])) := by
    rw [partsFit_concat, not_and, Classical.not_imp] at next
    exact next fit
  have last : integers (start :: (front ++ [x])) = integers (start :: front) ++ [m] := by
    rw [← List.cons_append, integers_append, integers_cons resolved]
    rfl
  exact ⟨front, x, back, acc, rfl, fit, last ▸ outside, folded,
    carries.sum_overflow resolved nonempty outside⟩

theorem FirstOverflow.fold_sum (overflow : FirstOverflow start elements) :
    fold sum start elements = .error .sumOverflow := by
  obtain ⟨front, x, back, acc, rfl, -, -, folded, failed⟩ := overflow
  rw [fold_append, folded]
  change fold sum acc (x :: back) = _
  rw [fold, failed]
  rfl

/-- The same summands in another order come to the same value. -/
theorem Summed.eq_of_perm {first w u : Value} {others : List Value} (starts : Starts start)
    (ints : ∀ x ∈ elements, x.IsInteger) (ints_others : ∀ x ∈ others, x.IsInteger)
    (perm : (first :: others).Perm (start :: elements)) (summed : Summed start elements w)
    (summed_others : Summed first others u) : w = u := by
  have perm_integers : (integers (first :: others)).Perm (integers (start :: elements)) :=
    perm.filterMap Value.fixedInt?
  have same_length := perm_integers.length_eq
  by_cases short : (integers (start :: elements)).length ≤ 1
  · rw [summed.unchanged short, summed_others.unchanged (same_length.trans_le short)]
    cases elements with
    | nil =>
      cases List.perm_singleton.mp perm
      rfl
    | cons x rest =>
      -- Nil can only be in front again, as all others are integers.
      obtain ⟨empty, rfl⟩ := starts.nil_of_short ints short
      have nonint : start ∉ others := by
        intro member
        obtain ⟨n, number⟩ := ints_others start member
        rw [empty] at number
        cases number
      obtain rfl : start = first :=
        (List.mem_cons.mp (perm.symm.subset List.mem_cons_self)).resolve_right nonint
      rw [List.perm_singleton.mp ((List.perm_cons start).mp perm)]
  · obtain ⟨i, rfl, val, kind⟩ := summed.exact_total (by omega)
    obtain ⟨j, rfl, val_others, kind_others⟩ := summed_others.exact_total (by omega)
    have same_val : i.val = j.val := by rw [val, val_others, sumOf_perm perm_integers]
    have same_kind : i.kind = j.kind := by rw [kind, kind_others, totalKind_perm perm_integers]
    cases i
    cases j
    subst same_val same_kind
    rfl

theorem partsFit_of_fold_ok (starts : Starts start) (ints : ∀ x ∈ elements, x.IsInteger)
    (folded : fold sum start elements = .ok acc) : PartsFit (integers (start :: elements)) := by
  by_contra misfit
  have failed := (firstOverflow starts ints misfit).fold_sum
  rw [folded] at failed
  cases failed

end Aggregator

namespace Fold

open Aggregator

variable {reg : Registry} {context : Context} {f : Fold} {start : Value} {items : List Value}

/-- What the fold is about to add up: the integers of a list, from one more integer or from
nothing. -/
structure AddsUp (f : Fold) (reg : Registry) (context : Context) (start : Value)
    (items : List Value) : Prop where
  builtin : reg.aggregators.find? f.aggregator = some Aggregator.sum
  source : ∃ v, f.source.eval context = .ok v ∧ v.resolved = .list items
  begins : f.start.eval context = .ok start
  starts : Starts start
  integers : ∀ x ∈ items, x.IsInteger

namespace AddsUp

theorem ordered_integers (adds : f.AddsUp reg context start items) :
    ∀ x ∈ f.ordered items, x.IsInteger := fun x member =>
  adds.integers x ((f.ordered_perm items).mem_iff.mp member)

theorem finds (adds : f.AddsUp reg context start items) :
    f.Finds reg context Aggregator.sum start items :=
  ⟨adds.builtin, adds.source, adds.begins⟩

theorem result_eq (adds : f.AddsUp reg context start items) :
    f.result reg context =
      (fold sum start (f.ordered items)).mapError (.aggregation f.aggregator) :=
  adds.finds.result_eq

theorem summed {w : Value} (adds : f.AddsUp reg context start items)
    (ok : f.result reg context = .ok w) : Summed start (f.ordered items) w := by
  rw [adds.result_eq, mapError_eq_ok] at ok
  have fit := partsFit_of_fold_ok adds.starts adds.ordered_integers ok
  obtain ⟨u, folded, summed⟩ := fold_sum adds.starts adds.ordered_integers fit
  cases ok.symm.trans folded
  exact summed

end AddsUp

end Fold

/-- The fold of a list of integers, whatever their kinds, succeeds just where each total on the way
fits 64 bits, signed or unsigned; where one does not, the fold fails at the first such one and
writes nothing. What it saves is the exact total, and a single summand as it came. No addition on
the way leaves the range of 128 bits. A fold that comes to the same summands in another order, so
one from the other end, saves the same value if it succeeds. -/
theorem Node.run_sum_exact {reg : Registry} {s : State} {f : Fold} {start : Value}
    {items : List Value} (adds : f.AddsUp reg s.context start items) :
    let elements := f.ordered items
    let summands := Aggregator.integers (start :: elements)
    (FixedInt.PartsFit summands ∧
        (∃ w, (Node.fold f).run reg s = (.ok .next, s.save f.saveTo w) ∧
          Aggregator.Summed start elements w) ∨
      ¬ FixedInt.PartsFit summands ∧
        (Node.fold f).run reg s = (.error (.aggregation f.aggregator .sumOverflow), s) ∧
        Aggregator.FirstOverflow start elements) ∧
    (∀ front x back acc, elements = front ++ x :: back →
      Aggregator.fold Aggregator.sum start front = .ok acc →
      acc.resolved.isNil ∨ ∃ m n, acc.resolved = .int m ∧ x.resolved = .int n ∧
        FixedInt.FitsDouble (m.val + n.val)) ∧
    ∀ (g : Fold) (t : State) first others, g.AddsUp reg t.context first others →
      (first :: others).Perm (start :: items) →
      ∀ w u, f.result reg s.context = .ok w → g.result reg t.context = .ok u → w = u := by
  intro elements summands
  have ints : ∀ x ∈ elements, x.IsInteger := adds.ordered_integers
  have run_eq : (Node.fold f).run reg s =
      s.saveResult f.saveTo ((Aggregator.fold Aggregator.sum start elements).mapError
        (.aggregation f.aggregator)) :=
    congrArg (s.saveResult f.saveTo) adds.result_eq
  refine ⟨?_, fun front x back acc split folded => ?_, fun g t first others adds_others perm w u
    saved saved_others => ?_⟩
  · rw [run_eq]
    by_cases fit : FixedInt.PartsFit summands
    · obtain ⟨w, folded, summed⟩ := Aggregator.fold_sum adds.starts ints fit
      rw [folded]
      exact .inl ⟨fit, w, rfl, summed⟩
    · have overflow := Aggregator.firstOverflow adds.starts ints fit
      rw [overflow.fold_sum]
      exact .inr ⟨fit, rfl, overflow⟩
  · have ints_front : ∀ y ∈ front, y.IsInteger := fun y member =>
      ints y (split ▸ List.mem_append_left _ member)
    obtain ⟨n, right⟩ := ints x (split ▸ List.mem_append_right _ List.mem_cons_self)
    have fit := Aggregator.partsFit_of_fold_ok adds.starts ints_front folded
    obtain ⟨w, same, carries⟩ := Aggregator.carries_of_fits adds.starts ints_front fit
    cases folded.symm.trans same
    rcases carries.nil_or_int with empty | ⟨m, left⟩
    · exact .inl empty
    · exact .inr ⟨m, n, left, right, FixedInt.fitsDouble_add m n⟩
  · have perm_ordered : (first :: g.ordered others).Perm (start :: elements) :=
      ((g.ordered_perm others).cons first).trans
        (perm.trans ((f.ordered_perm items).symm.cons start))
    exact (adds.summed saved).eq_of_perm adds.starts ints adds_others.ordered_integers
      perm_ordered (adds_others.summed saved_others)

/-- From the right, the one comes down to zero before the greatest word is added to it. From the
left, the first addition is too much, unless the fold starts below zero. -/
theorem Node.run_sum_exact_other_end :
    let minusOne : Value := .int ⟨.i8, -1, by decide⟩
    let one : Value := .int ⟨.u8, 1, by decide⟩
    let greatest : Value := .int ⟨.u64, 18446744073709551615, by decide⟩
    let items : List Value := [.ref greatest, minusOne]
    let others : List Value := [.ref greatest, one]
    let f : Fold := ⟨.literal (.list items), .literal one, "sum", true, "total"⟩
    let g : Fold := ⟨.literal (.ref (.list others)), .literal minusOne, "sum", false, "total"⟩
    let reg : Registry := ⟨.empty, Aggregator.builtins⟩
    let s : State := ⟨.empty, .fresh⟩
    (f.AddsUp reg s.context one items ∧ g.AddsUp reg s.context minusOne others ∧
      (minusOne :: others).Perm (one :: items) ∧ ∃ w, g.result reg s.context = .ok w) ∧
    (Node.fold f).run reg s = (.ok .next, s.save "total" greatest) ∧
    g.result reg s.context = .ok greatest ∧
    (Node.fold { f with rightToLeft := false }).run reg s =
      (.error (.aggregation "sum" .sumOverflow), s) := by
  intro minusOne one greatest items others f g reg s
  have one_integer : one.IsInteger := ⟨_, rfl⟩
  have minusOne_integer : minusOne.IsInteger := ⟨_, rfl⟩
  have greatest_integer : (Value.ref greatest).IsInteger := ⟨_, rfl⟩
  have builtin : reg.aggregators.find? "sum" = some Aggregator.sum := rfl
  have integers : ∀ x ∈ items, x.IsInteger :=
    List.forall_mem_cons.mpr ⟨greatest_integer, List.forall_mem_singleton.mpr minusOne_integer⟩
  have integers_others : ∀ x ∈ others, x.IsInteger :=
    List.forall_mem_cons.mpr ⟨greatest_integer, List.forall_mem_singleton.mpr one_integer⟩
  have adds : f.AddsUp reg s.context one items :=
    ⟨builtin, ⟨_, rfl, rfl⟩, rfl, .inr one_integer, integers⟩
  have adds_others : g.AddsUp reg s.context minusOne others :=
    ⟨builtin, ⟨_, rfl, rfl⟩, rfl, .inr minusOne_integer, integers_others⟩
  have perm : (minusOne :: others).Perm (one :: items) := List.reverse_perm (one :: items)
  have adds_left : Fold.AddsUp { f with rightToLeft := false } reg s.context one items :=
    ⟨builtin, ⟨_, rfl, rfl⟩, rfl, .inr one_integer, integers⟩
  obtain ⟨run, -, same⟩ := Node.run_sum_exact adds
  have ran : (Node.fold f).run reg s = (.ok .next, s.save "total" greatest) := by
    rcases run with ⟨-, w, ran, summed⟩ | ⟨misfit, -⟩
    · obtain ⟨⟨kind, val, inRange⟩, rfl, total, total_kind⟩ := summed.exact_total (by decide)
      obtain rfl : val = 18446744073709551615 := total
      obtain rfl : kind = .u64 := total_kind
      exact ran
    · exact absurd (by decide) misfit
  have result : f.result reg s.context = .ok greatest := by
    rw [adds.result_eq]
    rfl
  obtain ⟨u, result_other⟩ : ∃ u, g.result reg s.context = .ok u := by
    rw [adds_others.result_eq]
    exact ⟨_, rfl⟩
  obtain rfl := same g s minusOne others adds_others perm greatest u result result_other
  refine ⟨⟨adds, adds_others, perm, _, result_other⟩, ran, result_other, ?_⟩
  rcases (Node.run_sum_exact adds_left).1 with ⟨fit, -⟩ | ⟨-, failed, -⟩
  · exact absurd fit (by decide)
  · exact failed

end RulePipeline
