import RulePipeline.Condition

/-! A condition whose negations are all on leaves, and whose combinators have no children of their
own kind. Both combinators look at their children up to the first with one outcome, true for `any`
and false for `all`, so that each step is shown once for the two of them. Children that fail are
kept apart from those that are not looked at: the new condition has the leaves of the old one in
their order, and comes to the same of them. -/
namespace RulePipeline

namespace Condition

/-- The combinator that looks at its children up to the first with this outcome. -/
def upTo (stop : Bool) (children : List Condition) : Condition :=
  if stop then .any children else .all children

/-- The leaf or its negation. -/
def signed (negated : Bool) (leaf : Condition) : Condition :=
  if negated then .not leaf else leaf

mutual

/-- The condition, or its negation, with the negations moved to the leaves. Under a negation each
combinator is the other one, and two negations are none. -/
def push (negated : Bool) : Condition → Condition
  | .compare lhs r rhs => signed negated (.compare lhs r rhs)
  | .all children => upTo negated (pushEach negated children)
  | .any children => upTo (!negated) (pushEach negated children)
  | .not child => child.push !negated
  | .custom c lhs rhs => signed negated (.custom c lhs rhs)

def pushEach (negated : Bool) : List Condition → List Condition
  | [] => []
  | c :: rest => c.push negated :: pushEach negated rest

end

/-- The children of a combinator of this kind, and of anything else itself alone. -/
def parts (stop : Bool) : Condition → List Condition
  | .all children => if stop then [.all children] else children
  | .any children => if stop then children else [.any children]
  | c => [c]

mutual

/-- The condition in which a combinator under one of its own kind has given way to its children. -/
def splice : Condition → Condition
  | .compare lhs r rhs => .compare lhs r rhs
  | .all children => .all (spliceEach false children)
  | .any children => .any (spliceEach true children)
  | .not child => .not child.splice
  | .custom c lhs rhs => .custom c lhs rhs

def spliceEach (stop : Bool) : List Condition → List Condition
  | [] => []
  | c :: rest => c.splice.parts stop ++ spliceEach stop rest

end

def normalized (c : Condition) : Condition := (c.push false).splice

def isLeaf : Condition → Bool
  | .compare .. | .custom .. => true
  | _ => false

def isUpTo (stop : Bool) : Condition → Bool
  | .all _ => !stop
  | .any _ => stop
  | _ => false

inductive Normal : Condition → Prop where
  | leaf {c : Condition} : c.isLeaf → Normal c
  | not {c : Condition} : c.isLeaf → Normal (.not c)
  | upTo {stop : Bool} {children : List Condition} : (∀ c ∈ children, Normal c) →
      (∀ c ∈ children, ¬ c.isUpTo stop) → Normal (upTo stop children)

/-- Whether the next child is looked at after this outcome. -/
def goesOn (stop : Bool) : Except ConditionError Bool → Bool
  | .ok outcome => outcome != stop
  | .error _ => false

mutual

/-- The leaves from left to right, each with whether an evaluation comes to it. To a condition that
is not looked at, it comes nowhere. -/
def visits (context : Context) (live : Bool) : Condition → List (Condition × Bool)
  | .compare lhs r rhs => [(.compare lhs r rhs, live)]
  | .all children => visitsUpTo context false live children
  | .any children => visitsUpTo context true live children
  | .not child => child.visits context live
  | .custom c lhs rhs => [(.custom c lhs rhs, live)]

def visitsUpTo (context : Context) (stop live : Bool) : List Condition → List (Condition × Bool)
  | [] => []
  | c :: rest =>
    c.visits context live ++ visitsUpTo context stop (live && goesOn stop (c.eval context)) rest

end

/-- The outcome that the children have together. -/
def evalUpTo (context : Context) (stop : Bool) : List Condition → Except ConditionError Bool
  | [] => .ok !stop
  | c :: rest => do if (← c.eval context) = stop then return stop else evalUpTo context stop rest

variable {context : Context} {stop live : Bool} {c : Condition} {children : List Condition}

theorem evalAll_eq (children : List Condition) :
    evalAll context children = evalUpTo context false children := by
  induction children with
  | nil => rfl
  | cons c rest ih =>
    rw [evalAll, evalUpTo, ih]
    cases c.eval context with
    | error e => rfl
    | ok outcome => cases outcome <;> rfl

theorem evalAny_eq (children : List Condition) :
    evalAny context children = evalUpTo context true children := by
  induction children with
  | nil => rfl
  | cons c rest ih =>
    rw [evalAny, evalUpTo, ih]

theorem eval_upTo (stop : Bool) (children : List Condition) :
    (upTo stop children).eval context = evalUpTo context stop children := by
  cases stop with
  | true => exact evalAny_eq children
  | false => exact evalAll_eq children

theorem visits_upTo (stop : Bool) (children : List Condition) :
    (upTo stop children).visits context live = visitsUpTo context stop live children := by
  cases stop <;> rfl

theorem splice_upTo (stop : Bool) (children : List Condition) :
    (upTo stop children).splice = upTo stop (spliceEach stop children) := by
  cases stop <;> rfl

theorem goesOn_cons (stop : Bool) (c : Condition) (rest : List Condition) :
    goesOn stop (evalUpTo context stop (c :: rest)) =
      (goesOn stop (c.eval context) && goesOn stop (evalUpTo context stop rest)) := by
  rw [evalUpTo]
  cases c.eval context with
  | error e => rfl
  | ok outcome => cases outcome <;> cases stop <;> rfl

theorem false_xor_map (x : Except ConditionError Bool) : xor false <$> x = x := by
  cases x with
  | error e => rfl
  | ok outcome => exact congrArg Except.ok (Bool.false_xor outcome)

theorem eval_not (c : Condition) :
    (Condition.not c).eval context = xor true <$> c.eval context := by
  rw [eval]
  cases c.eval context with
  | error e => rfl
  | ok outcome => exact congrArg Except.ok (Bool.true_xor outcome).symm

theorem eval_signed (negated : Bool) (c : Condition) :
    (signed negated c).eval context = xor negated <$> c.eval context := by
  cases negated with
  | true => exact eval_not c
  | false => exact (false_xor_map _).symm

theorem goesOn_xor (negated stop : Bool) (x : Except ConditionError Bool) :
    goesOn (xor negated stop) (xor negated <$> x) = goesOn stop x := by
  cases x with
  | error e => rfl
  | ok outcome => cases negated <;> cases stop <;> cases outcome <;> rfl

mutual

theorem eval_push (negated : Bool) :
    (c : Condition) → (c.push negated).eval context = xor negated <$> c.eval context
  | .compare .. => eval_signed negated _
  | .custom .. => eval_signed negated _
  | .all children => by
    rw [push, eval_upTo, eval, evalAll_eq, ← evalUpTo_pushEach, Bool.xor_false]
  | .any children => by
    rw [push, eval_upTo, eval, evalAny_eq, ← evalUpTo_pushEach, Bool.xor_true]
  | .not child => by
    rw [push, eval_push (!negated) child, eval_not]
    cases child.eval context with
    | error e => rfl
    | ok outcome => cases negated <;> cases outcome <;> rfl

/-- The negated children have the opposite outcome together if they are looked at up to the
opposite outcome. -/
theorem evalUpTo_pushEach (negated stop : Bool) : (children : List Condition) →
    evalUpTo context (xor negated stop) (pushEach negated children) =
      xor negated <$> evalUpTo context stop children
  | [] => by cases negated <;> cases stop <;> rfl
  | c :: rest => by
    rw [pushEach, evalUpTo, evalUpTo, eval_push negated c, evalUpTo_pushEach negated stop rest]
    cases c.eval context with
    | error e => rfl
    | ok outcome => cases negated <;> cases stop <;> cases outcome <;> rfl

end

theorem visits_signed (negated : Bool) (c : Condition) :
    (signed negated c).visits context live = c.visits context live := by
  cases negated <;> rfl

mutual

theorem visits_push (negated live : Bool) :
    (c : Condition) → (c.push negated).visits context live = c.visits context live
  | .compare .. => visits_signed negated _
  | .custom .. => visits_signed negated _
  | .all children => by
    have each := visitsUpTo_pushEach negated false live children
    rwa [Bool.xor_false, ← visits_upTo] at each
  | .any children => by
    have each := visitsUpTo_pushEach negated true live children
    rwa [Bool.xor_true, ← visits_upTo] at each
  | .not child => visits_push (!negated) live child

theorem visitsUpTo_pushEach (negated stop live : Bool) : (children : List Condition) →
    visitsUpTo context (xor negated stop) live (pushEach negated children) =
      visitsUpTo context stop live children
  | [] => rfl
  | c :: rest => by
    rw [pushEach, visitsUpTo, visitsUpTo, eval_push, goesOn_xor, visits_push negated live c,
      visitsUpTo_pushEach negated stop _ rest]

end

theorem evalUpTo_append (stop : Bool) (front back : List Condition) :
    evalUpTo context stop (front ++ back) = (do
      if (← evalUpTo context stop front) = stop then return stop
      else evalUpTo context stop back) := by
  induction front with
  | nil => cases stop <;> rfl
  | cons c rest ih =>
    rw [List.cons_append, evalUpTo, evalUpTo, ih]
    cases c.eval context with
    | error e => rfl
    | ok outcome => cases outcome <;> cases stop <;> rfl

theorem visitsUpTo_append (stop live : Bool) (front back : List Condition) :
    visitsUpTo context stop live (front ++ back) = visitsUpTo context stop live front ++
      visitsUpTo context stop (live && goesOn stop (evalUpTo context stop front)) back := by
  induction front generalizing live with
  | nil => cases stop <;> simp [visitsUpTo, evalUpTo, goesOn]
  | cons c rest ih =>
    rw [List.cons_append, visitsUpTo, visitsUpTo, ih, goesOn_cons, List.append_assoc,
      Bool.and_assoc]

theorem evalUpTo_singleton (stop : Bool) (c : Condition) :
    evalUpTo context stop [c] = c.eval context := by
  rw [evalUpTo]
  cases c.eval context with
  | error e => rfl
  | ok outcome => cases outcome <;> cases stop <;> rfl

theorem visitsUpTo_singleton (stop : Bool) (c : Condition) :
    visitsUpTo context stop live [c] = c.visits context live := by
  rw [visitsUpTo, visitsUpTo, List.append_nil]

/-- Either it is the combinator of its parts, or it is its only part. -/
theorem parts_cases (stop : Bool) (c : Condition) :
    c = upTo stop (c.parts stop) ∨ ¬ c.isUpTo stop ∧ c.parts stop = [c] := by
  cases c with
  | all children | any children => cases stop <;> simp [upTo, parts, isUpTo]
  | _ => exact .inr ⟨Bool.false_ne_true, rfl⟩

theorem evalUpTo_parts (stop : Bool) (c : Condition) :
    evalUpTo context stop (c.parts stop) = c.eval context := by
  rcases parts_cases stop c with same | ⟨-, alone⟩
  · rw [← eval_upTo, ← same]
  · rw [alone, evalUpTo_singleton]

theorem visitsUpTo_parts (stop : Bool) (c : Condition) :
    visitsUpTo context stop live (c.parts stop) = c.visits context live := by
  rcases parts_cases stop c with same | ⟨-, alone⟩
  · rw [← visits_upTo, ← same]
  · rw [alone, visitsUpTo_singleton]

mutual

theorem eval_splice : (c : Condition) → c.splice.eval context = c.eval context
  | .compare .. => rfl
  | .custom .. => rfl
  | .all children => by
    rw [splice, eval, eval, evalAll_eq, evalAll_eq, evalUpTo_spliceEach false children]
  | .any children => by
    rw [splice, eval, eval, evalAny_eq, evalAny_eq, evalUpTo_spliceEach true children]
  | .not child => by rw [splice, eval_not, eval_not, eval_splice child]

theorem evalUpTo_spliceEach (stop : Bool) : (children : List Condition) →
    evalUpTo context stop (spliceEach stop children) = evalUpTo context stop children
  | [] => rfl
  | c :: rest => by
    rw [spliceEach, evalUpTo_append, evalUpTo_parts, eval_splice c,
      evalUpTo_spliceEach stop rest, evalUpTo]

end

mutual

theorem visits_splice (live : Bool) :
    (c : Condition) → c.splice.visits context live = c.visits context live
  | .compare .. => rfl
  | .custom .. => rfl
  | .all children => visitsUpTo_spliceEach false live children
  | .any children => visitsUpTo_spliceEach true live children
  | .not child => visits_splice live child

theorem visitsUpTo_spliceEach (stop live : Bool) : (children : List Condition) →
    visitsUpTo context stop live (spliceEach stop children) =
      visitsUpTo context stop live children
  | [] => rfl
  | c :: rest => by
    rw [spliceEach, visitsUpTo_append, visitsUpTo_parts, evalUpTo_parts, eval_splice c,
      visits_splice live c, visitsUpTo_spliceEach stop _ rest, visitsUpTo]

end

theorem upTo_inj {stop' : Bool} {others : List Condition}
    (same : upTo stop children = upTo stop' others) : stop = stop' ∧ children = others := by
  cases stop <;> cases stop' <;> cases same <;> exact ⟨rfl, rfl⟩

theorem normal_upTo_iff :
    (upTo stop children).Normal ↔ ∀ c ∈ children, c.Normal ∧ ¬ c.isUpTo stop := by
  constructor
  · generalize same : upTo stop children = c
    intro normal
    cases normal with
    | leaf leaf =>
      subst same
      cases stop <;> cases leaf
    | not leaf => cases stop <;> cases same
    | upTo each others =>
      obtain ⟨rfl, rfl⟩ := upTo_inj same
      exact fun c member => ⟨each c member, others c member⟩
  · exact fun each => .upTo (fun c member => (each c member).1) fun c member => (each c member).2

theorem Normal.parts (normal : c.Normal) : ∀ d ∈ c.parts stop, d.Normal ∧ ¬ d.isUpTo stop := by
  rcases parts_cases stop c with same | ⟨other, alone⟩
  · exact normal_upTo_iff.mp (same ▸ normal)
  · rw [alone]
    exact List.forall_mem_singleton.mpr ⟨normal, other⟩

theorem normal_splice_signed (negated : Bool) (leaf : c.isLeaf) :
    (signed negated c).splice.Normal := by
  have unchanged : c.splice = c := by
    cases c with
    | compare | custom => rfl
    | _ => cases leaf
  cases negated with
  | true =>
    rw [signed, if_pos rfl, splice, unchanged]
    exact .not leaf
  | false =>
    rw [signed, if_neg Bool.false_ne_true, unchanged]
    exact .leaf leaf

mutual

theorem normal_splice_push (negated : Bool) : (c : Condition) → (c.push negated).splice.Normal
  | .compare .. => normal_splice_signed negated rfl
  | .custom .. => normal_splice_signed negated rfl
  | .all children => by
    rw [push, splice_upTo, normal_upTo_iff]
    exact normal_spliceEach_pushEach negated negated children
  | .any children => by
    rw [push, splice_upTo, normal_upTo_iff]
    exact normal_spliceEach_pushEach negated (!negated) children
  | .not child => normal_splice_push (!negated) child

theorem normal_spliceEach_pushEach (negated stop : Bool) : (children : List Condition) →
    ∀ c ∈ spliceEach stop (pushEach negated children), c.Normal ∧ ¬ c.isUpTo stop
  | [] => nofun
  | c :: rest => List.forall_mem_append.mpr
    ⟨(normal_splice_push negated c).parts, normal_spliceEach_pushEach negated stop rest⟩

end

/-- What the leaves that an evaluation comes to say of its result. It is an error if it is that of
the last of them, and then all others have an outcome. -/
inductive Explains (context : Context) :
    Except ConditionError Bool → List (Condition × Bool) → Prop where
  | told {outcome : Bool} {visited : List (Condition × Bool)} :
      (∀ v ∈ visited, v.2 → ∃ b, v.1.eval context = .ok b) →
      Explains context (.ok outcome) visited
  | failed {e : ConditionError} {leaf : Condition} {front back : List (Condition × Bool)} :
      (∀ v ∈ front, v.2 → ∃ b, v.1.eval context = .ok b) → leaf.eval context = .error e →
      (∀ v ∈ back, v.2 = false) → Explains context (.error e) (front ++ (leaf, true) :: back)

namespace Explains

variable {x y : Except ConditionError Bool} {outcome : Bool}
  {visited unvisited : List (Condition × Bool)}

theorem of_leaf (context : Context) (leaf : Condition) :
    Explains context (leaf.eval context) [(leaf, true)] := by
  cases evaluated : leaf.eval context with
  | error e =>
    have failed : Explains context (.error e) ([] ++ [(leaf, true)]) := .failed nofun evaluated nofun
    exact failed
  | ok outcome => exact .told (List.forall_mem_singleton.mpr fun _ => ⟨outcome, evaluated⟩)

theorem map (explains : Explains context x visited) (f : Bool → Bool) :
    Explains context (f <$> x) visited := by
  cases explains with
  | told told => exact .told told
  | failed told failed unvisited => exact .failed told failed unvisited

theorem append_unvisited (explains : Explains context x visited)
    (none : ∀ v ∈ unvisited, v.2 = false) : Explains context x (visited ++ unvisited) := by
  cases explains with
  | told told =>
    refine .told (List.forall_mem_append.mpr ⟨told, fun v member live => ?_⟩)
    cases (none v member).symm.trans live
  | failed told failed others =>
    rw [List.append_assoc, List.cons_append]
    exact .failed told failed (List.forall_mem_append.mpr ⟨others, none⟩)

theorem append (first : Explains context (.ok outcome) visited)
    {later : List (Condition × Bool)} (second : Explains context y later) :
    Explains context y (visited ++ later) := by
  cases first with
  | told told =>
    cases second with
    | told told_later => exact .told (List.forall_mem_append.mpr ⟨told, told_later⟩)
    | failed told_later failed others =>
      rw [← List.append_assoc]
      exact .failed (List.forall_mem_append.mpr ⟨told, told_later⟩) failed others

end Explains

mutual

theorem visits_false : (c : Condition) → ∀ v ∈ c.visits context false, v.2 = false
  | .compare .. => List.forall_mem_singleton.mpr rfl
  | .custom .. => List.forall_mem_singleton.mpr rfl
  | .all children => visitsUpTo_false false children
  | .any children => visitsUpTo_false true children
  | .not child => visits_false child

theorem visitsUpTo_false (stop : Bool) :
    (children : List Condition) → ∀ v ∈ visitsUpTo context stop false children, v.2 = false
  | [] => nofun
  | c :: rest => List.forall_mem_append.mpr ⟨visits_false c, visitsUpTo_false stop rest⟩

end

mutual

theorem explains_visits (context : Context) :
    (c : Condition) → Explains context (c.eval context) (c.visits context true)
  | .compare .. => .of_leaf context _
  | .custom .. => .of_leaf context _
  | .all children => by
    rw [eval, evalAll_eq]
    exact explains_visitsUpTo context false children
  | .any children => by
    rw [eval, evalAny_eq]
    exact explains_visitsUpTo context true children
  | .not child => by
    rw [eval_not]
    exact (explains_visits context child).map _

theorem explains_visitsUpTo (context : Context) (stop : Bool) : (children : List Condition) →
    Explains context (evalUpTo context stop children) (visitsUpTo context stop true children)
  | [] => .told nofun
  | c :: rest => by
    have first := explains_visits context c
    rw [evalUpTo, visitsUpTo, Bool.true_and]
    cases evaluated : c.eval context with
    | error e =>
      rw [evaluated] at first
      exact first.append_unvisited (visitsUpTo_false stop rest)
    | ok outcome =>
      rw [evaluated] at first
      by_cases same : outcome = stop
      -- The first child settles it, and none of the others is looked at.
      · have none : goesOn stop (.ok outcome) = false := by rw [same, goesOn, bne_self_eq_false]
        rw [none]
        have unvisited : ∀ v ∈ visitsUpTo context stop false rest, v.2 = false :=
          visitsUpTo_false stop rest
        simpa [bind, Except.bind, same, pure, Except.pure] using first.append_unvisited unvisited
      · have next : goesOn stop (.ok outcome) = true := bne_iff_ne.mpr same
        rw [next]
        have later := first.append (explains_visitsUpTo context stop rest)
        simpa [bind, Except.bind, same] using later

end

/-- A condition in normal form has the result of the one from which it is made, and reaches it in
the same way: leaf by leaf, an evaluation comes to the same ones. If it fails, it is at the last of
these, so that both fail at the same leaf. -/
theorem eval_normalized (c : Condition) (context : Context) :
    c.normalized.Normal ∧ c.normalized.eval context = c.eval context ∧
      c.normalized.visits context true = c.visits context true ∧
      Explains context (c.eval context) (c.visits context true) := by
  refine ⟨normal_splice_push false c, ?_, ?_, explains_visits context c⟩
  · rw [normalized, eval_splice, eval_push, false_xor_map]
  · rw [normalized, visits_splice, visits_push]

example (lhs rhs : Option Term) :
    let a := Condition.compare lhs .less rhs
    let b := Condition.compare lhs .equal rhs
    normalized (.not (.all [.not (.any [a, .any []]), .all [b, .all []], .any [a, b]])) =
      .any [a, .not b, .all [.not a, .not b]] := rfl

end Condition

end RulePipeline
