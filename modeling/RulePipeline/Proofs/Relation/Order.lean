import RulePipeline.Proofs.Binary.Rounding
import RulePipeline.Proofs.Relation.Equality
import RulePipeline.Proofs.Relation.Integers

/-! Values in order. Integers above the exact range of the doubles may be equal to one double and
yet different from each other, so that equality does not carry over from one number to the next.
Being less does, through numbers of all kinds, as rounding an integer never takes it past another
one. -/
namespace RulePipeline

namespace Relation

theorem less_ne_unset : Relation.less ≠ .unset := nofun

theorem greater_ne_unset : Relation.greater ≠ .unset := nofun

end Relation

namespace Numeric

variable {p q r : Numeric} {m n : Int}

/-- The place in the order of the doubles. -/
def place (p : Numeric) : Int := p.toFloat.place

theorem not_isNaN_of_order {o : Ordering} (ordered : p.order q = some o) :
    ¬ p.isNaN ∧ ¬ q.isNaN := by
  rw [← not_or, ← order_eq_none, ordered]
  exact nofun

theorem order_of_places (float : p.int? = none ∨ q.int? = none) (left : ¬ p.isNaN)
    (right : ¬ q.isNaN) : p.order q = some (compare p.place q.place) := by
  rw [← isNaN_toFloat] at left right
  rw [order_of_float float]
  exact Binary.order_of_numbers left right

theorem place_lt_of_float (float : p.int? = none ∨ q.int? = none) (less : p.order q = some .lt) :
    p.place < q.place := by
  obtain ⟨left, right⟩ := not_isNaN_of_order less
  rw [order_of_places float left right, Option.some.injEq] at less
  exact Int.compare_eq_lt.mp less

theorem place_of_int (integer : p.int? = some n) : p.place = (Binary.ofInt n : Binary64).place := by
  cases p with
  | float x => cases integer
  | _ =>
    cases integer
    rfl

theorem lt_of_order (left : p.int? = some m) (right : q.int? = some n)
    (less : p.order q = some .lt) : m < n := by
  rw [order_of_int left right, Option.some.injEq] at less
  exact Int.compare_eq_lt.mp less

theorem place_le_of_order (less : p.order q = some .lt) : p.place ≤ q.place := by
  cases left : p.int? with
  | none => exact Int.le_of_lt (place_lt_of_float (.inl left) less)
  | some m =>
    cases right : q.int? with
    | none => exact Int.le_of_lt (place_lt_of_float (.inr right) less)
    | some n =>
      rw [place_of_int left, place_of_int right]
      exact Binary.place_ofInt_mono (Int.le_of_lt (lt_of_order left right less))

theorem order_of_place_lt (left : p.int? = some m) (right : q.int? = some n)
    (places : p.place < q.place) : p.order q = some .lt := by
  have less : m < n := by
    rw [place_of_int left, place_of_int right] at places
    exact Int.not_le.mp fun ge => absurd (Binary.place_ofInt_mono ge) (Int.not_le.mpr places)
  rw [order_of_int left right, Int.compare_eq_lt.mpr less]

theorem order_lt_trans (first : p.order q = some .lt) (second : q.order r = some .lt) :
    p.order r = some .lt := by
  have first_places := place_le_of_order first
  have second_places := place_le_of_order second
  cases left : p.int? with
  | none =>
    have strict := place_lt_of_float (.inl left) first
    rw [order_of_places (.inl left) (not_isNaN_of_order first).1 (not_isNaN_of_order second).2,
      Int.compare_eq_lt.mpr (Int.lt_of_lt_of_le strict second_places)]
  | some m =>
    cases right : r.int? with
    | none =>
      have strict := place_lt_of_float (.inr right) second
      rw [order_of_places (.inr right) (not_isNaN_of_order first).1 (not_isNaN_of_order second).2,
        Int.compare_eq_lt.mpr (Int.lt_of_le_of_lt first_places strict)]
    | some k =>
      cases middle : q.int? with
      | none =>
        -- Between two integers, a double keeps them apart after they have been rounded.
        have first_strict := place_lt_of_float (.inr middle) first
        have second_strict := place_lt_of_float (.inl middle) second
        exact order_of_place_lt left right (Int.lt_trans first_strict second_strict)
      | some n =>
        have less := Int.lt_trans (lt_of_order left middle first) (lt_of_order middle right second)
        rw [order_of_int left right, Int.compare_eq_lt.mpr less]

end Numeric

namespace Value

variable {lhs rhs u v w : Value} {o : Ordering}

def isString (v : Value) : Bool := v.string?.isSome

theorem isString_iff : v.isString ↔ ∃ s, v.resolved = .string s := by
  unfold isString string?
  cases v.resolved <;> simp

theorem isNumber_iff : v.isNumber ↔ ∃ p, v.resolved.numeric? = some p :=
  Option.isSome_iff_exists

/-- All relations between the values go by this order. -/
def InOrder (lhs rhs : Value) (o : Ordering) : Prop :=
  ∀ r, r ≠ .unset → lhs.compare rhs r = .ok (r.holds (some o))

theorem InOrder.order (ordered : lhs.InOrder rhs o) : lhs.order rhs = .ok o := by
  rw [Value.order, ordered .less Relation.less_ne_unset,
    ordered .greater Relation.greater_ne_unset]
  cases o <;> rfl

theorem InOrder.unique {o' : Ordering} (ordered : lhs.InOrder rhs o)
    (ordered' : lhs.InOrder rhs o') : o = o' :=
  Except.ok.inj (ordered.order.symm.trans ordered'.order)

theorem InOrder.swap (ordered : lhs.InOrder rhs o) : rhs.InOrder lhs o.swap := by
  intro r set
  have exchanged := compare_converse lhs rhs r.converse
  have involutive : r.converse.converse = r := by cases r <;> rfl
  rw [ordered _ (mt Relation.converse_eq_unset.mp set), mapError_ok, involutive] at exchanged
  rw [exchanged, ← Relation.holds_converse, involutive, Option.map_some]

theorem inOrder_of_numbers {p q : Numeric} (left : lhs.resolved.numeric? = some p)
    (right : rhs.resolved.numeric? = some q) (order : p.order q = some o) : lhs.InOrder rhs o :=
  fun _ set => order ▸ compare_numbers left right set

theorem inOrder_of_strings {s t : String} (left : lhs.resolved = .string s)
    (right : rhs.resolved = .string t) : lhs.InOrder rhs (Ord.compare s t) :=
  fun _ set => compare_strings left right set

/-- What has an order is a pair of numbers or of strings. -/
theorem inOrder_iff : lhs.InOrder rhs o ↔
    (∃ p q, lhs.resolved.numeric? = some p ∧ rhs.resolved.numeric? = some q ∧
      p.order q = some o) ∨
    ∃ s t, lhs.resolved = .string s ∧ rhs.resolved = .string t ∧ Ord.compare s t = o := by
  constructor
  · intro ordered
    rcases numbers_or_strings_of_compare rfl (ordered .less Relation.less_ne_unset) with
      ⟨p, q, left, right⟩ | ⟨s, t, left, right⟩
    · refine .inl ⟨p, q, left, right, ?_⟩
      cases order : p.order q with
      | some o' => rw [ordered.unique (inOrder_of_numbers left right order)]
      | none =>
        -- The relation that holds in just this order needs one.
        have holds := ordered _ (Relation.ofOrdering_ne_unset o)
        rw [compare_numbers left right (Relation.ofOrdering_ne_unset o), order] at holds
        cases o <;> cases holds
    · exact .inr ⟨s, t, left, right, (inOrder_of_strings left right).unique ordered⟩
  · rintro (⟨p, q, left, right, order⟩ | ⟨s, t, left, right, rfl⟩)
    · exact inOrder_of_numbers left right order
    · exact inOrder_of_strings left right

/-- Being less carries over, whatever kinds of numbers are mixed. -/
theorem InOrder.lt_trans (first : u.InOrder v .lt) (second : v.InOrder w .lt) :
    u.InOrder w .lt := by
  rw [inOrder_iff] at first second ⊢
  rcases first with ⟨p, q, left, middle, first⟩ | ⟨s, t, left, middle, first⟩
  · rcases second with ⟨q', r, middle', right, second⟩ | ⟨t, _, middle', -⟩
    · cases middle.symm.trans middle'
      exact .inl ⟨p, r, left, right, Numeric.order_lt_trans first second⟩
    · rw [middle'] at middle
      cases middle
  · rcases second with ⟨q, _, middle', -⟩ | ⟨t', z, middle', right, second⟩
    · rw [middle] at middle'
      cases middle'
    · cases middle.symm.trans middle'
      exact .inr ⟨s, z, left, right, Std.TransCmp.lt_trans first second⟩

/-- Both are numbers, of which any may be a NaN, or both are strings. -/
def Alike (v w : Value) : Prop := v.isNumber ∧ w.isNumber ∨ v.isString ∧ w.isString

theorem exists_order_iff : (∃ o, lhs.order rhs = .ok o) ↔ lhs.Alike rhs := by
  constructor
  · rintro ⟨o, told⟩
    obtain ⟨b, less, -⟩ := bind_eq_ok.mp told
    rcases numbers_or_strings_of_compare rfl less with ⟨p, q, left, right⟩ | ⟨s, t, left, right⟩
    · exact .inl ⟨isNumber_iff.mpr ⟨p, left⟩, isNumber_iff.mpr ⟨q, right⟩⟩
    · exact .inr ⟨isString_iff.mpr ⟨s, left⟩, isString_iff.mpr ⟨t, right⟩⟩
  · rintro (⟨left, right⟩ | ⟨left, right⟩)
    · obtain ⟨p, left⟩ := isNumber_iff.mp left
      obtain ⟨q, right⟩ := isNumber_iff.mp right
      cases order : p.order q with
      | some o => exact ⟨o, (inOrder_of_numbers left right order).order⟩
      | none =>
        refine ⟨.eq, ?_⟩
        rw [Value.order, compare_numbers left right Relation.less_ne_unset,
          compare_numbers left right Relation.greater_ne_unset, order]
        rfl
    · obtain ⟨s, left⟩ := isString_iff.mp left
      obtain ⟨t, right⟩ := isString_iff.mp right
      exact ⟨_, (inOrder_of_strings left right).order⟩

theorem not_isString_of_isNumber (number : v.isNumber) : ¬ v.isString := by
  obtain ⟨p, number⟩ := isNumber_iff.mp number
  intro string
  obtain ⟨s, string⟩ := isString_iff.mp string
  rw [string] at number
  cases number

theorem Alike.isNil_eq_false (alike : v.Alike w) : w.resolved.isNil = false := by
  rcases alike with ⟨-, number⟩ | ⟨-, string⟩
  · obtain ⟨p, number⟩ := isNumber_iff.mp number
    exact isNil_of_numeric number
  · obtain ⟨s, string⟩ := isString_iff.mp string
    rw [string]
    rfl

/-- All of them are of this sort, or all of them are strings. -/
def AllOrStrings (sort : Value → Prop) (values : List Value) : Prop :=
  (∀ v ∈ values, sort v) ∨ ∀ v ∈ values, v.isString

/-- Numbers of whatever kinds, or strings. -/
def Uniform (values : List Value) : Prop := AllOrStrings (fun v => v.isNumber) values

/-- Numbers of whatever kinds, but without a NaN, or strings. -/
def Comparable (values : List Value) : Prop :=
  AllOrStrings (fun v => v.isNumber ∧ ¬ v.isNaN) values

/-- Integers of whatever kinds, or strings: what is equal is the same number or text. -/
def Exact (values : List Value) : Prop := AllOrStrings IsInteger values

variable {values others : List Value}

theorem AllOrStrings.of_subset {sort : Value → Prop} (all_or : AllOrStrings sort values)
    (subset : others ⊆ values) : AllOrStrings sort others :=
  all_or.imp (fun all v member => all v (subset member)) fun all v member => all v (subset member)

theorem Comparable.inOrder (comparable : Comparable values) (left : v ∈ values)
    (right : w ∈ values) : ∃ o, v.InOrder w o := by
  rcases comparable with all | all
  · obtain ⟨number, numeric⟩ := all v left
    obtain ⟨number', numeric'⟩ := all w right
    obtain ⟨p, left⟩ := isNumber_iff.mp number
    obtain ⟨q, right⟩ := isNumber_iff.mp number'
    cases order : p.order q with
    | some o => exact ⟨o, inOrder_of_numbers left right order⟩
    | none =>
      rcases ((unordered_iff left right).mpr order).2.2 with nan | nan
      · exact absurd nan numeric
      · exact absurd nan numeric'
  · obtain ⟨s, left⟩ := isString_iff.mp (all v left)
    obtain ⟨t, right⟩ := isString_iff.mp (all w right)
    exact ⟨_, inOrder_of_strings left right⟩

theorem inOrder_of_integers {m n : FixedInt} (left : lhs.resolved = .int m)
    (right : rhs.resolved = .int n) : lhs.InOrder rhs (Ord.compare m.val n.val) := by
  obtain ⟨p, numeric, integer⟩ := exists_numeric_int m
  obtain ⟨q, numeric', integer'⟩ := exists_numeric_int n
  rw [← left] at numeric
  rw [← right] at numeric'
  exact inOrder_of_numbers numeric numeric' (Numeric.order_of_int integer integer')

/-- Where one value is less than another one, any third one is beyond the first or short of the
second. This is what doubles next to integers lack. -/
theorem Exact.lt_or_lt (exact_values : Exact values) (left : u ∈ values) (middle : v ∈ values)
    (right : w ∈ values) (less : u.InOrder w .lt) : u.InOrder v .lt ∨ v.InOrder w .lt := by
  rcases exact_values with all | all
  · obtain ⟨m, left⟩ := all u left
    obtain ⟨k, middle⟩ := all v middle
    obtain ⟨n, right⟩ := all w right
    have apart : m.val < n.val :=
      Int.compare_eq_lt.mp ((inOrder_of_integers left right).unique less)
    have first := inOrder_of_integers left middle
    have second := inOrder_of_integers middle right
    by_cases beyond : m.val < k.val
    · exact .inl (Int.compare_eq_lt.mpr beyond ▸ first)
    · exact .inr (Int.compare_eq_lt.mpr (by omega : k.val < n.val) ▸ second)
  · obtain ⟨r, left⟩ := isString_iff.mp (all u left)
    obtain ⟨s, middle⟩ := isString_iff.mp (all v middle)
    obtain ⟨t, right⟩ := isString_iff.mp (all w right)
    have apart : Ord.compare r t = .lt := (inOrder_of_strings left right).unique less
    have first := inOrder_of_strings left middle
    have second := inOrder_of_strings middle right
    cases beyond : Ord.compare r s with
    | lt => exact .inl (beyond ▸ first)
    | _ =>
      have short : (Ord.compare s r).isLE := by
        rw [Std.OrientedOrd.eq_swap, beyond]
        rfl
      exact .inr (Std.TransCmp.lt_of_isLE_of_lt short apart ▸ second)

end Value

end RulePipeline
