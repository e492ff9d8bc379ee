import RulePipeline.Host
import RulePipeline.Proofs.Definition.Compiled
import RulePipeline.Proofs.Definition.Meaning

/-! A compiled pipeline runs as its definition says. Every part of a definition that compiles has
a meaning, wherever it is used, and what it has become evaluates to just this. -/
namespace RulePipeline

namespace Meaning

variable {ε δ α β : Type}

theorem of_bind {r : Except ε α} {f : α → Meaning ε β} {g : α → Except ε β}
    (next : ∀ a, f a = .of (g a)) : (of r >>= f) = of (r >>= g) := by
  cases r with
  | error e => rfl
  | ok a => exact next a

theorem of_bind_pure {r : Except ε α} (f : α → β) :
    (of r >>= fun a => pure (f a)) = of (r >>= fun a => pure (f a)) :=
  of_bind fun _ => rfl

theorem adapt_of (r : Except ε α) (f : ε → δ) : (of r).adapt f = of (r.mapError f) := rfl

end Meaning

variable {context : Context} {comparisons : Comparisons} {reg : Registry}

namespace TermDef

theorem literal_means {json : Json} {kind : Option Kind} {v : Value}
    (compiled : literalValue json kind = .ok v) : literalMeaning? json kind = some v := by
  cases kind with
  | none =>
    cases compiled
    rfl
  | some k =>
    rw [literalValue_eq] at compiled
    split at compiled
    · rename_i w means
      cases compiled
      exact means
    · cases compiled

theorem meaning_of_compiled {d : TermDef} {t : Term} (compiled : d.compile = .ok t) :
    d.meaning context = .of (t.eval context) := by
  cases d with
  | literal json kind =>
    obtain ⟨v, value, rfl⟩ := bind_pure_eq_ok.mp compiled
    simp only [meaning, literal_means value, Term.eval]
  | context name getter key value =>
    have keyed : keyMeaning key = (key.map Value.ofJson).getD .nil := by cases key <;> rfl
    cases getter with
    | none =>
      cases compiled
      rw [meaning, Term.eval]
      cases Term.lookup context name <;> rfl
    | some g =>
      cases g with
      | step =>
        cases compiled
        rw [meaning, Term.eval]
        exact Meaning.of_bind fun _ => by simp only [keyed]
      | path =>
        cases compiled
        rw [meaning, Term.eval]
        exact Meaning.of_bind fun _ => by simp only [keyed]
      | constant =>
        cases value with
        | none => cases compiled
        | some json =>
          cases compiled
          rw [meaning, Term.eval]
          exact Meaning.of_bind fun _ => rfl

theorem optionalMeaning_of_compiled {d : Option TermDef} {t : Term}
    (compiled : NodeDef.compileTerm d = .ok t) :
    optionalMeaning context d = .of (t.eval context) := by
  cases d with
  | none =>
    cases compiled
    rfl
  | some d => exact meaning_of_compiled compiled

end TermDef

namespace ConditionDef

theorem sideMeaning_of_compiled {d : TermDef} {t : Term} (side : Side)
    (compiled : d.compile = .ok t) :
    sideMeaning context side d = .of (Condition.evalSide context side (some t)) := by
  rw [sideMeaning, TermDef.meaning_of_compiled compiled]
  rfl

theorem allMeaning_of_compiled {children : List ConditionDef} {conditions : List Condition}
    (related : List.Forall₂ (fun d c => ∀ context, d.meaning comparisons context =
      .of (c.eval context)) children conditions) :
    allMeaning comparisons context (children.map some) =
      .of (Condition.evalAll context conditions) := by
  induction related with
  | nil => rfl
  | cons first _ later =>
    rw [List.map_cons, allMeaning, Condition.evalAll, first]
    apply Meaning.of_bind
    intro holds
    cases holds with
    | true => exact later
    | false => rfl

theorem anyMeaning_of_compiled {children : List ConditionDef} {conditions : List Condition}
    (related : List.Forall₂ (fun d c => ∀ context, d.meaning comparisons context =
      .of (c.eval context)) children conditions) :
    anyMeaning comparisons context (children.map some) =
      .of (Condition.evalAny context conditions) := by
  induction related with
  | nil => rfl
  | cons first _ later =>
    rw [List.map_cons, anyMeaning, Condition.evalAny, first]
    apply Meaning.of_bind
    intro holds
    cases holds with
    | true => rfl
    | false => exact later

theorem meaning_of_compiled {d : ConditionDef} {c : Condition}
    (compiled : d.compile comparisons = .ok c) (context : Context) :
    d.meaning comparisons context = .of (c.eval context) := by
  revert context
  refine compiled_induction
    (motive := fun d c => ∀ context, d.meaning comparisons context = .of (c.eval context))
    ?compare ?all ?any ?not ?custom compiled
  case compare =>
    intro lhs r rhs left right set left_compiled right_compiled context
    rw [meaning, if_neg set, sideMeaning_of_compiled .left left_compiled,
      sideMeaning_of_compiled .right right_compiled, Condition.eval, Condition.evalCompare,
      if_neg set]
    exact Meaning.of_bind fun _ => Meaning.of_bind fun _ => rfl
  case all =>
    intro children conditions related context
    rw [meaning, Condition.eval, allMeaning_of_compiled related]
  case any =>
    intro children conditions related context
    rw [meaning, Condition.eval, anyMeaning_of_compiled related]
  case not =>
    intro child condition ih context
    rw [meaning, Condition.eval, ih]
    exact Meaning.of_bind_pure _
  case custom =>
    intro name lhs rhs comparison left right found left_compiled right_compiled context
    simp only [meaning, found]
    rw [sideMeaning_of_compiled .left left_compiled, sideMeaning_of_compiled .right right_compiled]
    exact Meaning.of_bind fun _ => Meaning.of_bind fun _ => rfl

end ConditionDef

namespace NodeDef

theorem termMeaning_of_compiled {d : TermDef} {t : Term} (compiled : d.compile = .ok t) :
    (d.meaning context).adapt RunError.term = Meaning.of (evalTerm context t) := by
  rw [TermDef.meaning_of_compiled compiled]
  rfl

theorem elementMeaning_of_compiled {condition : ConditionDef} {f : Filter}
    (compiled : condition.compile comparisons = .ok f.condition) (elementName : Option String)
    (named : f.elementName = elementName.getD Filter.defaultElementName) (v : Value) :
    elementMeaning comparisons context condition f.exclude elementName v =
      .of (f.keeps context v) := by
  rw [elementMeaning, ConditionDef.meaning_of_compiled compiled, Meaning.adapt_of, Filter.keeps,
    named]
  refine Meaning.of_bind fun holds => ?_
  cases f.exclude <;> cases holds <;> rfl

theorem keptMeaning_eq_select {α : Type} {test : Value → Meaning RunError Bool} {f : Filter}
    (tested : ∀ v, test v = .of (f.keeps context v)) (valueOf : α → Value) (items : List α) :
    keptMeaning test valueOf items = .of (f.select context valueOf items) := by
  induction items with
  | nil => rfl
  | cons a rest ih =>
    rw [keptMeaning, Filter.select, tested, ih]
    exact Meaning.of_bind fun _ => Meaning.of_bind_pure _

theorem filterMeaning_of_compiled {source : TermDef} {condition : ConditionDef} {f : Filter}
    (source_compiled : source.compile = .ok f.source)
    (condition_compiled : condition.compile comparisons = .ok f.condition)
    (elementName : Option String)
    (named : f.elementName = elementName.getD Filter.defaultElementName) :
    filterMeaning comparisons context source condition f.exclude elementName =
      .of (f.result context) := by
  have tested : ∀ v, elementMeaning comparisons context condition f.exclude elementName v =
      .of (f.keeps context v) :=
    elementMeaning_of_compiled condition_compiled elementName named
  rw [filterMeaning, Filter.result, termMeaning_of_compiled source_compiled]
  refine Meaning.of_bind fun v => ?_
  cases v.resolved with
  | list items =>
    simp only [keptMeaning_eq_select tested]
    exact Meaning.of_bind_pure _
  | map entries =>
    simp only [keptMeaning_eq_select tested]
    exact Meaning.of_bind_pure _
  | _ => rfl

theorem foldMeaning_of_compiled {source : TermDef} {start : Option TermDef} {f : Fold}
    (start_compiled : compileTerm start = .ok f.start)
    (source_compiled : source.compile = .ok f.source) :
    foldMeaning reg context source start f.aggregator f.rightToLeft =
      .of (f.result reg context) := by
  have first : (TermDef.optionalMeaning context start).adapt RunError.term =
      Meaning.of (evalTerm context f.start) := by
    rw [TermDef.optionalMeaning_of_compiled start_compiled]
    rfl
  rw [foldMeaning, Fold.result]
  cases reg.aggregators.find? f.aggregator with
  | none => rfl
  | some combine =>
    rw [termMeaning_of_compiled source_compiled]
    refine Meaning.of_bind fun v => ?_
    cases v.resolved with
    | list items =>
      simp only [first]
      exact Meaning.of_bind fun _ => rfl
    | _ => rfl

theorem query?_of_compiled {q : Query} {params : Option TermDef} {s : State}
    (compiled : compileTerm params = .ok q.params) :
    query? reg s q.source params q.saveTo = some (q.run reg s) := by
  rw [query?, TermDef.optionalMeaning_of_compiled compiled, Query.run, evalTerm]
  cases q.params.eval s.context with
  | error e => rfl
  | ok v =>
    cases reg.sources.find? q.source <;> rfl

/-- The node has the kind of its definition, and runs from every state as it is defined. -/
def RunsAsDefined (comparisons : Comparisons) (reg : Registry) (d : NodeDef) (node : Node) : Prop :=
  d.kind = node.kind ∧ ∀ s, d.meaning? comparisons reg s = some (node.run reg s)

/-- A level of nodes that run as they are defined does so itself. -/
theorem levelMeaning?_of_related {nodes : List NodeDef} {pipeline : Pipeline}
    (related : List.Forall₂ (RunsAsDefined comparisons reg) nodes pipeline) (index : Nat)
    (s : State) :
    levelMeaning? comparisons reg index s nodes = some (runFrom reg index s pipeline) := by
  induction related generalizing index s with
  | nil => rfl
  | @cons d node _ rest first _ later =>
    obtain ⟨same_kind, same_run⟩ := first
    rw [levelMeaning?, runFrom]
    split
    · rfl
    · rw [same_run, same_kind]
      cases node.run reg s with
      | mk result t =>
        cases result with
        | error e => rfl
        | ok flow =>
          cases flow with
          | next => exact later (index + 1) t
          | _ => rfl

theorem sideMeaning?_of_related {side : Option (List NodeDef)} {compiled : Option Pipeline}
    (related : Option.Rel (List.Forall₂ (RunsAsDefined comparisons reg)) side compiled)
    (s : State) (outcome : Bool) :
    sideMeaning? comparisons reg s outcome side = some (runSide reg s outcome compiled) := by
  cases related with
  | none => rfl
  | some level => exact levelMeaning?_of_related level 0 s

theorem runsAsDefined_of_compiled {nodes : List NodeDef} {pipeline : Pipeline}
    (compiled : compileNodes comparisons nodes = .ok pipeline) :
    List.Forall₂ (RunsAsDefined comparisons reg) nodes pipeline := by
  refine compiled_induction (motive := RunsAsDefined comparisons reg)
    ?query ?branch ?ret ?filter ?fold ?stop compiled
  case query =>
    intro source params saveTo t params_compiled
    exact ⟨rfl, fun s => query?_of_compiled (q := ⟨source, t, saveTo⟩) params_compiled⟩
  case branch =>
    intro condition onTrue onFalse isolated c whenTrue whenFalse condition_compiled true_related
      false_related
    refine ⟨rfl, fun s => ?_⟩
    rw [meaning?, ConditionDef.meaning_of_compiled condition_compiled, Node.run]
    cases c.eval s.context with
    | error e => rfl
    | ok outcome =>
      cases outcome with
      | true =>
        simp only [Meaning.of, sideMeaning?_of_related true_related]
        rfl
      | false =>
        simp only [Meaning.of, sideMeaning?_of_related false_related]
        rfl
  case ret =>
    intro value t value_compiled
    refine ⟨rfl, fun s => ?_⟩
    rw [meaning?, TermDef.meaning_of_compiled value_compiled, Node.run, evalTerm]
    cases t.eval s.context <;> rfl
  case filter =>
    intro source condition exclude elementName saveTo t c source_compiled condition_compiled
    refine ⟨rfl, fun s => ?_⟩
    rw [meaning?, filterMeaning_of_compiled (f := ⟨t, c, exclude, _, saveTo⟩)
      source_compiled condition_compiled elementName rfl]
    rfl
  case fold =>
    intro source start aggregator rightToLeft saveTo first t start_compiled source_compiled
    refine ⟨rfl, fun s => ?_⟩
    rw [meaning?, foldMeaning_of_compiled (f := ⟨t, first, aggregator, rightToLeft, saveTo⟩)
      start_compiled source_compiled]
    rfl
  case stop => exact ⟨rfl, fun s => rfl⟩

end NodeDef

/-- A pipeline that has been compiled, executed in any state, has the outcome and leaves the state
that its definition says. -/
theorem PipelineDef.execute_compiled {d : PipelineDef} {pipeline : Pipeline}
    (compiled : d.compile comparisons = .ok pipeline) (reg : Registry) (s : State) :
    d.interpret? comparisons reg s = some (pipeline.execute reg s) := by
  have related : List.Forall₂ (NodeDef.RunsAsDefined comparisons reg) d.nodes pipeline :=
    NodeDef.runsAsDefined_of_compiled compiled
  rw [interpret?, NodeDef.levelMeaning?_of_related related]
  rfl

/-- Parameters, an element name, a start value and a side that are left out, a side without nodes,
and a condition over a comparison by name. -/
theorem execute_compiled_left_out :
    let same : Comparison := ⟨.string, fun a b => .ok (a.string? = b.string?)⟩
    let comparisons : Comparisons := .ofList [("same", same)]
    let reg : Registry := ⟨.ofList [("echo", .echo)], Aggregator.builtins⟩
    let number (n : Fin 8) : Json := .num (.int n (by omega))
    let value (n : Fin 8) : Value := .ofJson (number n)
    let element : TermDef := .context "element" none none none
    let one : TermDef := .literal (number 1) (some (.int .u8))
    let text (s : String) : TermDef := .literal (.str s) none
    let d : PipelineDef := ⟨"left out", "", [.query "echo" none "asked",
      .filter (.literal (.arr [number 1, number 2, number 3]) none)
        (.compare element .greater one) false none "large",
      .fold (.context "large" none none none) none "sum" true "total",
      .branch (.all [some (.not (.custom "same" (text "a") (text "b")))]) (some []) none true,
      .branch (.any []) (some [.stop]) none false]⟩
    let s : State := ⟨.empty, .fresh⟩
    let left : Context := .ofList
      [("asked", .nil), ("large", .list [value 2, value 3]), ("total", value 5)]
    ∃ pipeline, d.compile comparisons = .ok pipeline ∧
      d.interpret? comparisons reg s = some (pipeline.execute reg s) ∧
      pipeline.execute reg s = (.error (.node 4 .branch (.noPipeline false)),
        ⟨left, ⟨[⟨"echo", .nil⟩], false⟩⟩) :=
  ⟨_, rfl, PipelineDef.execute_compiled rfl _ _, rfl⟩

end RulePipeline
