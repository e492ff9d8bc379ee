import Mathlib.Data.List.Forall2
import RulePipeline.Definition.Compile
import RulePipeline.Proofs.Except

/-! Definitions that compile. What a definition has become when it compiles is told apart here,
once for each sort of condition and of node; a relation between definitions and what they have
become then follows by induction on the definition. -/
namespace RulePipeline

variable {comparisons : Comparisons}

namespace ConditionDef

theorem compiled_compare {lhs rhs : TermDef} {r : Relation} {c : Condition}
    (compiled : (compare lhs r rhs).compile comparisons = .ok c) :
    r ≠ .unset ∧ ∃ left right, lhs.compile = .ok left ∧ rhs.compile = .ok right ∧
      c = .compare (some left) r (some right) := by
  rw [compile] at compiled
  split at compiled
  · cases compiled
  · rename_i set
    obtain ⟨left, left_compiled, rest⟩ := bind_eq_ok.mp compiled
    obtain ⟨right, right_compiled, rfl⟩ := bind_pure_eq_ok.mp rest
    exact ⟨set, left, right, left_compiled, right_compiled, rfl⟩

theorem compiled_custom {name : String} {lhs rhs : TermDef} {c : Condition}
    (compiled : (custom name lhs rhs).compile comparisons = .ok c) :
    ∃ comparison left right, comparisons.find? name = some comparison ∧
      lhs.compile = .ok left ∧ rhs.compile = .ok right ∧
      c = .custom (some comparison) (some left) (some right) := by
  rw [compile] at compiled
  split at compiled
  · cases compiled
  · rename_i comparison found
    obtain ⟨left, left_compiled, rest⟩ := bind_eq_ok.mp compiled
    obtain ⟨right, right_compiled, rfl⟩ := bind_pure_eq_ok.mp rest
    exact ⟨comparison, left, right, found, left_compiled, right_compiled, rfl⟩

/-- Induction on a condition that compiles. Of a combinator that compiles, no child is missing. -/
theorem compiled_induction {motive : ConditionDef → Condition → Prop}
    (compare : ∀ lhs r rhs left right, r ≠ .unset → lhs.compile = .ok left →
      rhs.compile = .ok right → motive (.compare lhs r rhs) (.compare (some left) r (some right)))
    (all : ∀ children conditions, List.Forall₂ motive children conditions →
      motive (.all (children.map some)) (.all conditions))
    (any : ∀ children conditions, List.Forall₂ motive children conditions →
      motive (.any (children.map some)) (.any conditions))
    (not : ∀ child condition, motive child condition → motive (.not child) (.not condition))
    (custom : ∀ name lhs rhs comparison left right, comparisons.find? name = some comparison →
      lhs.compile = .ok left → rhs.compile = .ok right →
      motive (.custom name lhs rhs) (.custom (some comparison) (some left) (some right)))
    {d : ConditionDef} {c : Condition} (compiled : d.compile comparisons = .ok c) :
    motive d c := by
  refine @ConditionDef.rec (fun d => ∀ c, d.compile comparisons = .ok c → motive d c)
    (fun slots => ∀ index conditions, compileChildren comparisons index slots = .ok conditions →
      ∃ children, slots = children.map some ∧ List.Forall₂ motive children conditions)
    (fun slot => ∀ child ∈ slot, ∀ c, child.compile comparisons = .ok c → motive child c)
    ?compare ?all ?any ?not ?custom ?nil ?cons ?none ?some d c compiled
  case compare =>
    intro lhs r rhs c compiled
    obtain ⟨set, left, right, left_compiled, right_compiled, rfl⟩ := compiled_compare compiled
    exact compare lhs r rhs left right set left_compiled right_compiled
  case all =>
    intro slots ih c compiled
    rw [compile] at compiled
    obtain ⟨conditions, slots_compiled, rfl⟩ := bind_pure_eq_ok.mp compiled
    obtain ⟨children, rfl, related⟩ := ih 0 conditions slots_compiled
    exact all children conditions related
  case any =>
    intro slots ih c compiled
    rw [compile] at compiled
    obtain ⟨conditions, slots_compiled, rfl⟩ := bind_pure_eq_ok.mp compiled
    obtain ⟨children, rfl, related⟩ := ih 0 conditions slots_compiled
    exact any children conditions related
  case not =>
    intro child ih c compiled
    rw [compile] at compiled
    obtain ⟨condition, child_compiled, rfl⟩ := bind_pure_eq_ok.mp compiled
    exact not child condition (ih condition child_compiled)
  case custom =>
    intro name lhs rhs c compiled
    obtain ⟨comparison, left, right, found, left_compiled, right_compiled, rfl⟩ :=
      compiled_custom compiled
    exact custom name lhs rhs comparison left right found left_compiled right_compiled
  case nil =>
    intro index conditions compiled
    cases compiled
    exact ⟨[], rfl, .nil⟩
  case cons =>
    intro slot rest first later index conditions compiled
    cases slot with
    | none => cases compiled
    | some child =>
      rw [compileChildren] at compiled
      obtain ⟨condition, child_compiled, tail⟩ := bind_eq_ok.mp compiled
      obtain ⟨others, rest_compiled, rfl⟩ := bind_pure_eq_ok.mp tail
      obtain ⟨children, rfl, related⟩ := later _ others rest_compiled
      exact ⟨child :: children, rfl, .cons (first child rfl condition child_compiled) related⟩
  case none =>
    intro child member
    cases member
  case some =>
    intro child ih other same
    cases same
    exact ih

end ConditionDef

namespace NodeDef

theorem compiled_query {source saveTo : String} {params : Option TermDef} {node : Node}
    (compiled : (query source params saveTo).compile comparisons = .ok node) :
    ∃ t, compileTerm params = .ok t ∧ node = .query ⟨source, t, saveTo⟩ := by
  rw [compile] at compiled
  obtain ⟨t, params_compiled, rfl⟩ := bind_pure_eq_ok.mp compiled
  exact ⟨t, params_compiled, rfl⟩

theorem compiled_branch {condition : ConditionDef} {onTrue onFalse : Option (List NodeDef)}
    {isolated : Bool} {node : Node}
    (compiled : (branch condition onTrue onFalse isolated).compile comparisons = .ok node) :
    ∃ c whenTrue whenFalse, condition.compile comparisons = .ok c ∧
      compileSide comparisons onTrue = .ok whenTrue ∧
      compileSide comparisons onFalse = .ok whenFalse ∧
      node = .branch c whenTrue whenFalse isolated := by
  rw [compile] at compiled
  obtain ⟨c, condition_compiled, sides⟩ := bind_eq_ok.mp compiled
  obtain ⟨whenTrue, true_compiled, side⟩ := bind_eq_ok.mp sides
  obtain ⟨whenFalse, false_compiled, rfl⟩ := bind_pure_eq_ok.mp side
  exact ⟨c, whenTrue, whenFalse, condition_compiled, true_compiled, false_compiled, rfl⟩

theorem compiled_filter {source : TermDef} {condition : ConditionDef} {exclude : Bool}
    {elementName : Option String} {saveTo : String} {node : Node}
    (compiled : (filter source condition exclude elementName saveTo).compile comparisons =
      .ok node) :
    ∃ t c, source.compile = .ok t ∧ condition.compile comparisons = .ok c ∧
      node = .filter ⟨t, c, exclude, elementName.getD Filter.defaultElementName, saveTo⟩ := by
  rw [compile] at compiled
  obtain ⟨t, source_compiled, rest⟩ := bind_eq_ok.mp compiled
  obtain ⟨c, condition_compiled, rfl⟩ := bind_pure_eq_ok.mp rest
  exact ⟨t, c, source_compiled, condition_compiled, rfl⟩

theorem compiled_fold {source : TermDef} {start : Option TermDef} {aggregator saveTo : String}
    {rightToLeft : Bool} {node : Node}
    (compiled : (fold source start aggregator rightToLeft saveTo).compile comparisons =
      .ok node) :
    ∃ first t, compileTerm start = .ok first ∧ source.compile = .ok t ∧
      node = .fold ⟨t, first, aggregator, rightToLeft, saveTo⟩ := by
  rw [compile] at compiled
  obtain ⟨first, start_compiled, rest⟩ := bind_eq_ok.mp compiled
  obtain ⟨t, source_compiled, rfl⟩ := bind_pure_eq_ok.mp rest
  exact ⟨first, t, start_compiled, source_compiled, rfl⟩

/-- Induction on the nodes of a level that compile. A side that is not defined stays absent. -/
theorem compiled_induction {motive : NodeDef → Node → Prop}
    (query : ∀ source params saveTo t, compileTerm params = .ok t →
      motive (.query source params saveTo) (.query ⟨source, t, saveTo⟩))
    (branch : ∀ condition onTrue onFalse isolated c whenTrue whenFalse,
      condition.compile comparisons = .ok c →
      Option.Rel (List.Forall₂ motive) onTrue whenTrue →
      Option.Rel (List.Forall₂ motive) onFalse whenFalse →
      motive (.branch condition onTrue onFalse isolated) (.branch c whenTrue whenFalse isolated))
    (ret : ∀ value t, value.compile = .ok t → motive (.ret value) (.ret t))
    (filter : ∀ source condition exclude elementName saveTo t c, source.compile = .ok t →
      condition.compile comparisons = .ok c →
      motive (.filter source condition exclude elementName saveTo)
        (.filter ⟨t, c, exclude, elementName.getD Filter.defaultElementName, saveTo⟩))
    (fold : ∀ source start aggregator rightToLeft saveTo first t, compileTerm start = .ok first →
      source.compile = .ok t → motive (.fold source start aggregator rightToLeft saveTo)
        (.fold ⟨t, first, aggregator, rightToLeft, saveTo⟩))
    (stop : motive .stop .stop)
    {nodes : List NodeDef} {pipeline : Pipeline}
    (compiled : compileNodes comparisons nodes = .ok pipeline) :
    List.Forall₂ motive nodes pipeline := by
  -- The recursor goes from nodes to their sides, and from these to levels.
  have level_nil (pipeline : Pipeline) (compiled : compileNodes comparisons [] = .ok pipeline) :
      List.Forall₂ motive [] pipeline := by
    cases compiled
    exact .nil
  have level_cons (d : NodeDef) (rest : List NodeDef)
      (first : ∀ node, d.compile comparisons = .ok node → motive d node)
      (later : ∀ pipeline, compileNodes comparisons rest = .ok pipeline →
        List.Forall₂ motive rest pipeline) (pipeline : Pipeline)
      (compiled : compileNodes comparisons (d :: rest) = .ok pipeline) :
      List.Forall₂ motive (d :: rest) pipeline := by
    rw [compileNodes] at compiled
    obtain ⟨node, node_compiled, tail⟩ := bind_eq_ok.mp compiled
    obtain ⟨others, rest_compiled, rfl⟩ := bind_pure_eq_ok.mp tail
    exact .cons (first node node_compiled) (later others rest_compiled)
  have node_induction : ∀ d node, d.compile comparisons = .ok node → motive d node := by
    refine @NodeDef.rec (fun d => ∀ node, d.compile comparisons = .ok node → motive d node)
      (fun side => ∀ p, compileSide comparisons side = .ok p →
        Option.Rel (List.Forall₂ motive) side p)
      (fun level => ∀ p, compileNodes comparisons level = .ok p → List.Forall₂ motive level p)
      ?query ?branch ?ret ?filter ?fold ?stop ?none ?some level_nil level_cons
    case query =>
      intro source params saveTo node compiled
      obtain ⟨t, params_compiled, rfl⟩ := compiled_query compiled
      exact query source params saveTo t params_compiled
    case branch =>
      intro condition onTrue onFalse isolated true_ih false_ih node compiled
      obtain ⟨c, whenTrue, whenFalse, condition_compiled, true_compiled, false_compiled, rfl⟩ :=
        compiled_branch compiled
      exact branch condition onTrue onFalse isolated c whenTrue whenFalse condition_compiled
        (true_ih whenTrue true_compiled) (false_ih whenFalse false_compiled)
    case ret =>
      intro value node compiled
      rw [compile] at compiled
      obtain ⟨t, value_compiled, rfl⟩ := bind_pure_eq_ok.mp compiled
      exact ret value t value_compiled
    case filter =>
      intro source condition exclude elementName saveTo node compiled
      obtain ⟨t, c, source_compiled, condition_compiled, rfl⟩ := compiled_filter compiled
      exact filter source condition exclude elementName saveTo t c source_compiled
        condition_compiled
    case fold =>
      intro source start aggregator rightToLeft saveTo node compiled
      obtain ⟨first, t, start_compiled, source_compiled, rfl⟩ := compiled_fold compiled
      exact fold source start aggregator rightToLeft saveTo first t start_compiled source_compiled
    case stop =>
      intro node compiled
      cases compiled
      exact stop
    case none =>
      intro p compiled
      cases compiled
      exact .none
    case some =>
      intro level ih p compiled
      rw [compileSide] at compiled
      obtain ⟨inner, level_compiled, rfl⟩ := bind_pure_eq_ok.mp compiled
      exact .some (ih inner level_compiled)
  induction nodes generalizing pipeline with
  | nil => exact level_nil pipeline compiled
  | cons d rest ih => exact level_cons d rest (node_induction d) (fun _ => ih) pipeline compiled

end NodeDef

end RulePipeline
