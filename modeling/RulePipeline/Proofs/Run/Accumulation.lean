import RulePipeline.Proofs.Relation.Order
import RulePipeline.Proofs.Run.Folding
import RulePipeline.Proofs.Run.Selection
import RulePipeline.Proofs.Value.RoundTrip

/-! Folds that gather a list, put texts together or count. What is in the accumulator grows with each
element, from the start or from nothing, and the start itself is given back only where there are no
elements. Appending never fails, and joining fails at the first element that is no string. A
count fails as soon as it is beyond the signed integers of 64 bits, so just if the last one is. -/
namespace RulePipeline

namespace Aggregator

variable {acc x : Value} {rest front back : List Value} {items : List Value} {text tail : String}
  {n : Int}

/-- The list in an accumulator, which is empty where there is none yet. -/
def listOf? (acc : Value) : Option (List Value) :=
  match acc.resolved with
  | .nil => some []
  | .list items => some items
  | _ => none

/-- The text in an accumulator, which is empty where there is none yet. -/
def textOf? (acc : Value) : Option String :=
  match acc.resolved with
  | .nil => some ""
  | .string s => some s
  | _ => none

/-- The count in an accumulator, which is zero where there is none yet. -/
def countOf? (acc : Value) : Option Int :=
  match acc.resolved with
  | .nil => some 0
  | .int n => some n.val
  | _ => none

theorem append_ok (gathered : listOf? acc = some items) :
    append acc x = .ok (.list (items ++ [x])) := by
  unfold listOf? at gathered
  unfold append
  cases resolved : acc.resolved with
  | nil | list others => simp_all
  | _ => simp [resolved] at gathered

theorem fold_append_ok (gathered : listOf? acc = some items) :
    fold append acc (x :: rest) = .ok (.list (items ++ x :: rest)) := by
  induction rest generalizing acc x items with
  | nil => rw [fold_cons_ok (append_ok gathered), fold]
  | cons y rest ih =>
    have grown : listOf? (.list (items ++ [x])) = some (items ++ [x]) := rfl
    rw [fold_cons_ok (append_ok gathered), ih grown, ← List.append_cons]

theorem concat_ok (joined : textOf? acc = some text) (string : x.string? = some tail) :
    concat acc x = .ok (.string (text ++ tail)) := by
  unfold textOf? at joined
  rw [concat, string]
  cases resolved : acc.resolved with
  | nil | string s => simp_all [pure, Except.pure]
  | _ => simp [resolved] at joined

theorem concat_error (other : x.string? = none) :
    concat acc x = .error (.unexpected .stringElement x.resolved.kind) := by
  rw [concat, other]
  rfl

/-- The texts of the strings among the values. -/
def texts (values : List Value) : List String := values.filterMap Value.string?

theorem fold_concat_ok (joined : textOf? acc = some text) (strings : ∀ y ∈ x :: rest, y.isString) :
    fold concat acc (x :: rest) = .ok (.string (text ++ String.join (texts (x :: rest)))) := by
  induction rest generalizing acc x text with
  | nil =>
    obtain ⟨tail, string⟩ := Option.isSome_iff_exists.mp (strings x List.mem_cons_self)
    have only : texts [x] = [tail] := List.filterMap_cons_some string
    rw [fold_cons_ok (concat_ok joined string), fold, only]
    simp [String.join_cons]
  | cons y rest ih =>
    obtain ⟨here, later⟩ := List.forall_mem_cons.mp strings
    obtain ⟨tail, string⟩ := Option.isSome_iff_exists.mp here
    have first : texts (x :: y :: rest) = tail :: texts (y :: rest) :=
      List.filterMap_cons_some string
    have grown : textOf? (.string (text ++ tail)) = some (text ++ tail) := rfl
    rw [fold_cons_ok (concat_ok joined string), ih grown later, first, String.join_cons,
      String.append_assoc]

theorem fold_concat_error (joined : textOf? acc = some text) (strings : ∀ y ∈ front, y.isString)
    (other : x.string? = none) : fold concat acc (front ++ x :: back) =
      .error (.unexpected .stringElement x.resolved.kind) := by
  cases front with
  | nil => exact fold_cons_error (concat_error other) back
  | cons y front =>
    rw [fold_append, fold_concat_ok joined strings]
    exact fold_cons_error (concat_error other) back

/-- Why there is no count beyond this one. -/
def countFault (n : Int) : AggregateError :=
  if n ≤ IntKind.greatest .i64 then .countOverflow else .countTooLarge

theorem countOf?_eq_some : countOf? acc = some n ↔
    acc.resolved = .nil ∧ n = 0 ∨ ∃ i : FixedInt, acc.resolved = .int i ∧ i.val = n := by
  unfold countOf?
  cases acc.resolved <;> simp [eq_comm]

theorem least_le_count (counted : countOf? acc = some n) : IntKind.least .i64 ≤ n := by
  rcases countOf?_eq_some.mp counted with ⟨-, rfl⟩ | ⟨i, -, rfl⟩
  · decide
  · exact i.range_of_64_bits.1

/-- An unsigned count too great for a signed one has no successor either. -/
theorem count_eq (counted : countOf? acc = some n) : count acc x =
    match Value.ofInt? .i64 (n + 1) with
    | some v => .ok v
    | none => .error (countFault n) := by
  unfold count countFault
  rcases countOf?_eq_some.mp counted with ⟨resolved, rfl⟩ | ⟨i, resolved, rfl⟩
  · rw [resolved]
    rfl
  · rw [resolved]
    cases sign : i.kind.signed with
    | true =>
      have small := FixedInt.le_of_signed sign
      simp only [Value.numeric?, sign, small, if_true]
      rfl
    | false =>
      have same : (i.val.toNat : Int) = i.val := Int.toNat_of_nonneg (i.nonneg_of_unsigned sign)
      have fits_iff : i.val.toNat < 2 ^ (63 : Nat) ↔ i.val ≤ IntKind.greatest .i64 := by
        rw [IntKind.greatest_i64]
        omega
      by_cases small : i.val ≤ IntKind.greatest .i64
      · have fits := fits_iff.mpr small
        simp only [Value.numeric?, sign, small, fits, same, if_true, Bool.false_eq_true, if_false]
        rfl
      · have beyond := mt fits_iff.mp small
        have none : Value.ofInt? .i64 (i.val + 1) = none :=
          Value.ofInt?_of_outside fun fits => small (by omega)
        simp only [Value.numeric?, sign, small, beyond, none, Bool.false_eq_true, if_false]
        rfl

theorem count_ok (counted : countOf? acc = some n) (room : n + 1 ≤ IntKind.greatest .i64) :
    ∃ i : FixedInt, count acc x = .ok (.int i) ∧ i.kind = .i64 ∧ i.val = n + 1 := by
  have low := least_le_count counted
  refine ⟨⟨.i64, n + 1, by omega, room⟩, ?_, rfl, rfl⟩
  rw [count_eq counted, Value.ofInt?_of_range ⟨by omega, room⟩]

theorem count_error (counted : countOf? acc = some n) (full : IntKind.greatest .i64 < n + 1) :
    count acc x = .error (countFault n) := by
  rw [count_eq counted, Value.ofInt?_of_outside fun fits => by omega]

theorem countOf?_int {i : FixedInt} (val : i.val = n) : countOf? (.int i) = some n :=
  congrArg some val

theorem fold_count_ok (counted : countOf? acc = some n)
    (room : n + (x :: rest).length ≤ IntKind.greatest .i64) :
    ∃ i : FixedInt, fold count acc (x :: rest) = .ok (.int i) ∧ i.kind = .i64 ∧
      i.val = n + (x :: rest).length := by
  induction rest generalizing acc x n with
  | nil =>
    obtain ⟨i, first, kind, val⟩ := count_ok (x := x) counted room
    exact ⟨i, fold_cons_ok first [], kind, val⟩
  | cons y rest ih =>
    simp only [List.length_cons] at room ih ⊢
    obtain ⟨i, first, -, val⟩ := count_ok (x := x) counted (by omega)
    obtain ⟨k, folded, kind, total⟩ := ih (countOf?_int val) (by omega)
    exact ⟨k, (fold_cons_ok first _).trans folded, kind, by omega⟩

/-- The one count that is too great is the last, and on the way there is nothing but an overflow. -/
theorem fold_count_error (counted : countOf? acc = some n)
    (full : IntKind.greatest .i64 < n + (x :: rest).length) :
    fold count acc (x :: rest) = .error (countFault n) := by
  induction rest generalizing acc x n with
  | nil => exact fold_cons_error (count_error counted (by simpa using full)) []
  | cons y rest ih =>
    by_cases room : n + 1 ≤ IntKind.greatest .i64
    · obtain ⟨i, first, -, val⟩ := count_ok (x := x) counted room
      rw [fold_cons_ok first, ih (countOf?_int val) (by simp at full ⊢; omega), countFault,
        countFault, if_pos room, if_pos (by omega)]
    · exact fold_cons_error (count_error counted (by omega)) _

/-- The first value that is no string, if there is one. -/
theorem strings_or_first (values : List Value) : (∀ y ∈ values, y.isString) ∨
    ∃ front x back, values = front ++ x :: back ∧ (∀ y ∈ front, y.isString) ∧
      ¬ x.isString := by
  cases first : values.find? fun y => !y.isString with
  | none => exact .inl fun y member => by simpa using List.find?_eq_none.mp first y member
  | some x =>
    obtain ⟨other, front, back, split, strings⟩ := List.find?_eq_some_iff_append.mp first
    refine .inr ⟨front, x, back, split, fun y member => ?_, by simpa using other⟩
    simpa using strings y member

end Aggregator

namespace Fold.Finds

open Aggregator

variable {reg : Registry} {s : State} {f : Fold} {combine : Aggregator} {start : Value}
  {items old : List Value} {text : String} {n : Int}

/-- With no elements the start is saved, whatever it is. -/
theorem run_nil (finds : f.Finds reg s.context combine start []) :
    (Node.fold f).run reg s = (.ok .next, s.save f.saveTo start) := by
  apply finds.run_ok
  rw [ordered_eq_nil.mpr rfl]
  rfl

theorem run_append_ok (finds : f.Finds reg s.context append start items)
    (gathered : listOf? start = some old) (some_items : items ≠ []) :
    (Node.fold f).run reg s = (.ok .next, s.save f.saveTo (.list (old ++ f.ordered items))) := by
  obtain ⟨x, rest, split⟩ := f.exists_ordered_cons some_items
  exact finds.run_ok (split ▸ fold_append_ok gathered)

theorem run_concat_strings (finds : f.Finds reg s.context concat start items)
    (joined : textOf? start = some text) (some_items : items ≠ [])
    (strings : ∀ y ∈ items, y.isString) : (Node.fold f).run reg s =
      (.ok .next, s.save f.saveTo (.string (text ++ String.join (texts (f.ordered items))))) := by
  obtain ⟨x, rest, split⟩ := f.exists_ordered_cons some_items
  have strings : ∀ y ∈ f.ordered items, y.isString := fun y member =>
    strings y (mem_ordered.mp member)
  rw [split] at strings
  exact finds.run_ok (split ▸ fold_concat_ok joined strings)

theorem run_concat_other (finds : f.Finds reg s.context concat start items)
    (joined : textOf? start = some text) {front back : List Value} {x : Value}
    (split : f.ordered items = front ++ x :: back) (strings : ∀ y ∈ front, y.isString)
    (other : ¬ x.isString) : (Node.fold f).run reg s =
      (.error (.aggregation f.aggregator (.unexpected .stringElement x.resolved.kind)), s) := by
  have no_text : x.string? = none := Option.not_isSome_iff_eq_none.mp other
  exact finds.run_error (split ▸ fold_concat_error joined strings no_text)

theorem run_count_ok (finds : f.Finds reg s.context count start items)
    (counted : countOf? start = some n) (some_items : items ≠ [])
    (room : n + items.length ≤ IntKind.greatest .i64) :
    ∃ i : FixedInt, (Node.fold f).run reg s = (.ok .next, s.save f.saveTo (.int i)) ∧
      i.kind = .i64 ∧ i.val = n + items.length := by
  obtain ⟨x, rest, split⟩ := f.exists_ordered_cons some_items
  rw [← (f.ordered_perm items).length_eq] at room ⊢
  rw [split] at room ⊢
  obtain ⟨i, folded, kind, val⟩ := fold_count_ok counted room
  exact ⟨i, finds.run_ok (split ▸ folded), kind, val⟩

theorem run_count_error (finds : f.Finds reg s.context count start items)
    (counted : countOf? start = some n) (some_items : items ≠ [])
    (full : IntKind.greatest .i64 < n + items.length) :
    (Node.fold f).run reg s = (.error (.aggregation f.aggregator (countFault n)), s) := by
  obtain ⟨x, rest, split⟩ := f.exists_ordered_cons some_items
  rw [← (f.ordered_perm items).length_eq, split] at full
  exact finds.run_error (split ▸ fold_count_error counted full)

end Fold.Finds

/-- With elements, a fold that appends saves the list it starts from with all of them behind it. One
that joins texts saves the text it starts from with theirs behind it, or fails at the first element
that is no string. One that counts saves the sum, as a signed integer of 64 bits, unless the sum is
too great for it. The elements are taken in the order of the fold, and the start can be nil. With
no elements it is saved as it is. A fold that fails writes nothing, and one that succeeds writes
under one name. -/
theorem Node.run_accumulation (reg : Registry) (s : State) (f : Fold) (start : Value) :
    (∀ items old, f.Finds reg s.context Aggregator.append start items → items ≠ [] →
      Aggregator.listOf? start = some old →
      (Node.fold f).run reg s =
        (.ok .next, s.save f.saveTo (.list (old ++ f.ordered items)))) ∧
    (∀ items text, f.Finds reg s.context Aggregator.concat start items → items ≠ [] →
      Aggregator.textOf? start = some text →
      (∀ x ∈ items, x.isString) ∧
          (Node.fold f).run reg s = (.ok .next, s.save f.saveTo
            (.string (text ++ String.join (Aggregator.texts (f.ordered items))))) ∨
        ∃ front x back, f.ordered items = front ++ x :: back ∧ (∀ y ∈ front, y.isString) ∧
          ¬ x.isString ∧ (Node.fold f).run reg s = (.error (.aggregation f.aggregator
            (.unexpected .stringElement x.resolved.kind)), s)) ∧
    (∀ items n, f.Finds reg s.context Aggregator.count start items → items ≠ [] →
      Aggregator.countOf? start = some n →
      n + items.length ≤ IntKind.greatest .i64 ∧
          (∃ i : FixedInt, (Node.fold f).run reg s = (.ok .next, s.save f.saveTo (.int i)) ∧
            i.kind = .i64 ∧ i.val = n + items.length) ∨
        IntKind.greatest .i64 < n + items.length ∧ (Node.fold f).run reg s =
          (.error (.aggregation f.aggregator (Aggregator.countFault n)), s)) ∧
    (∀ combine, f.Finds reg s.context combine start [] →
      (Node.fold f).run reg s = (.ok .next, s.save f.saveTo start)) ∧
    ∀ name, name ≠ f.saveTo →
      ((Node.fold f).run reg s).2.context.find? name = s.context.find? name := by
  refine ⟨fun items old finds some_items gathered => finds.run_append_ok gathered some_items,
    fun items text finds some_items joined => ?_, fun items n finds some_items counted => ?_,
    fun combine finds => finds.run_nil, fun name ne => s.saveResult_find? ne _⟩
  · rcases Aggregator.strings_or_first (f.ordered items) with all |
      ⟨front, x, back, split, strings, other⟩
    · have strings : ∀ x ∈ items, x.isString := fun x member =>
        all x (Fold.mem_ordered.mpr member)
      exact .inl ⟨strings, finds.run_concat_strings joined some_items strings⟩
    · exact .inr ⟨front, x, back, split, strings, other,
        finds.run_concat_other joined split strings other⟩
  · rcases Int.lt_or_le (IntKind.greatest .i64) (n + items.length) with full | room
    · exact .inr ⟨full, finds.run_count_error counted some_items full⟩
    · exact .inl ⟨room, finds.run_count_ok counted some_items room⟩

/-- Joined from the right, so that the last word is next to the start. A count that starts as a
great unsigned integer goes on as a signed one, as long as it is not too great for that. -/
theorem Node.run_accumulation_from_right :
    let hello : Value := .string "Hello"
    let there : Value := .ref (.string "there")
    let items : List Value := [there, .string " "]
    let joining : Fold := ⟨.literal (.list items), .literal (.ref hello), "concat", true, "text"⟩
    let odd : Fold := { joining with source := .literal (.list [there, .bool true]) }
    let gathering : Fold :=
      ⟨.literal (.list items), .literal (.ref (.list [hello])), "append", true, "parts"⟩
    let great : Value := .int ⟨.u64, 9223372036854775805, by decide⟩
    let greater : Value := .ref (.int ⟨.u64, 9223372036854775806, by decide⟩)
    let counting : Fold := ⟨.literal (.list items), .literal great, "count", false, "number"⟩
    let crossing : Fold := { counting with start := .literal greater }
    let waiting : Fold := ⟨.literal (.list []), .literal .nil, "count", false, "number"⟩
    let reg : Registry := ⟨.empty, Aggregator.builtins⟩
    let s : State := ⟨SortedMap.empty.insert "text" hello, .fresh⟩
    (joining.Finds reg s.context Aggregator.concat (.ref hello) items ∧
      odd.Finds reg s.context Aggregator.concat (.ref hello) [there, .bool true] ∧
      gathering.Finds reg s.context Aggregator.append (.ref (.list [hello])) items ∧
      counting.Finds reg s.context Aggregator.count great items ∧
      crossing.Finds reg s.context Aggregator.count greater items ∧
      waiting.Finds reg s.context Aggregator.count .nil [] ∧ "text" ≠ gathering.saveTo) ∧
    (Node.fold joining).run reg s = (.ok .next, s.save "text" (.string "Hello there")) ∧
    (Node.fold odd).run reg s =
      (.error (.aggregation "concat" (.unexpected .stringElement .bool)), s) ∧
    (Node.fold gathering).run reg s =
      (.ok .next, s.save "parts" (.list [hello, .string " ", there])) ∧
    ((Node.fold gathering).run reg s).2.context.find? "text" = some hello ∧
    (Node.fold counting).run reg s =
      (.ok .next, s.save "number" (.int ⟨.i64, 9223372036854775807, by decide⟩)) ∧
    (Node.fold crossing).run reg s = (.error (.aggregation "count" .countOverflow), s) ∧
    (Node.fold waiting).run reg s = (.ok .next, s.save "number" .nil) := by
  intro hello there items joining odd gathering great greater counting crossing waiting reg s
  have finds_joining : joining.Finds reg s.context Aggregator.concat (.ref hello) items :=
    ⟨rfl, ⟨_, rfl, rfl⟩, rfl⟩
  have finds_odd : odd.Finds reg s.context Aggregator.concat (.ref hello) [there, .bool true] :=
    ⟨rfl, ⟨_, rfl, rfl⟩, rfl⟩
  have finds_gathering :
      gathering.Finds reg s.context Aggregator.append (.ref (.list [hello])) items :=
    ⟨rfl, ⟨_, rfl, rfl⟩, rfl⟩
  have finds_counting : counting.Finds reg s.context Aggregator.count great items :=
    ⟨rfl, ⟨_, rfl, rfl⟩, rfl⟩
  have finds_crossing : crossing.Finds reg s.context Aggregator.count greater items :=
    ⟨rfl, ⟨_, rfl, rfl⟩, rfl⟩
  have finds_waiting : waiting.Finds reg s.context Aggregator.count .nil [] :=
    ⟨rfl, ⟨_, rfl, rfl⟩, rfl⟩
  have some_items : items ≠ [] := nofun
  have ne : "text" ≠ gathering.saveTo := by decide
  obtain ⟨gathers, -, -, -, frame⟩ := Node.run_accumulation reg s gathering (.ref (.list [hello]))
  refine ⟨⟨finds_joining, finds_odd, finds_gathering, finds_counting, finds_crossing,
    finds_waiting, ne⟩, ?_, ?_, gathers items _ finds_gathering some_items rfl, frame "text" ne,
    ?_, ?_, ?_⟩
  · have strings : ∀ x ∈ items, x.isString :=
      List.forall_mem_cons.mpr ⟨rfl, List.forall_mem_singleton.mpr rfl⟩
    rcases (Node.run_accumulation reg s joining _).2.1 items "Hello" finds_joining some_items rfl
      with ⟨-, ran⟩ | ⟨front, x, back, split, -, other, -⟩
    · exact ran
    · have member : x ∈ joining.ordered items := split ▸ List.mem_append_right _ (.head _)
      exact absurd (strings x (Fold.mem_ordered.mp member)) other
  · rcases (Node.run_accumulation reg s odd _).2.1 _ "Hello" finds_odd nofun rfl with
      ⟨strings, -⟩ | ⟨front, x, back, split, strings, other, ran⟩
    · cases strings (.bool true) (.tail _ (.head _))
    · cases front with
      | nil =>
        cases split
        exact ran
      | cons y front =>
        obtain ⟨rfl, -⟩ := List.cons.inj split
        cases strings (.bool true) (.head _)
  · rcases (Node.run_accumulation reg s counting _).2.2.1 items _ finds_counting some_items rfl
      with ⟨-, ⟨kind, val, inRange⟩, ran, same_kind, total⟩ | ⟨full, -⟩
    · obtain rfl : val = 9223372036854775807 := total
      obtain rfl : kind = .i64 := same_kind
      exact ran
    · exact absurd full (by decide)
  · rcases (Node.run_accumulation reg s crossing _).2.2.1 items _ finds_crossing some_items rfl
      with ⟨room, -⟩ | ⟨-, ran⟩
    · exact absurd room (by decide)
    · exact ran
  · exact (Node.run_accumulation reg s waiting _).2.2.2.1 _ finds_waiting

end RulePipeline
