import RulePipeline.Proofs.Definition.Compiled
import RulePipeline.Proofs.Run.Failing

/-! What a compiled pipeline cannot fail for. The conditions of a compiled pipeline lack nothing:
each leaf has its relation or its comparison, and both of its terms. So none of the errors that
report a lack comes up when the pipeline runs, whatever it runs on. -/
namespace RulePipeline

/-- The errors that report what a condition lacks, and not what its values are. -/
inductive ConditionError.Lack : ConditionError → Prop where
  | invalid {missing : Missing} : Lack (.invalid missing)
  | nilCondition {index : Nat} : Lack (.nilCondition index)
  | nilComparison : Lack .nilComparison
  | unsetRelation : Lack (.comparison .unsetRelation)

section

variable {lhs rhs : Value} {r : Relation}

theorem Relation.onEquality_ne_unset (r : Relation) (kind : Kind) (same : Bool) :
    r.onEquality kind same ≠ .error .unsetRelation := by
  cases r <;> simp [onEquality]

theorem Value.compareAlike_ne_unset : lhs.compareAlike rhs r ≠ .error .unsetRelation := by
  unfold compareAlike
  intro failed
  split at failed
  all_goals try split at failed
  all_goals first
    | exact r.onEquality_ne_unset _ _ failed
    | cases failed

/-- Only an unset relation is reported as unset. -/
theorem Value.compare_ne_unset (set : r ≠ .unset) :
    lhs.compare rhs r ≠ .error .unsetRelation := by
  rw [compare, if_neg set, compareResolved]
  split
  · exact r.onEquality_ne_unset _ _
  · split
    · exact nofun
    · exact compareAlike_ne_unset

end

namespace Condition

variable {context : Context} {e : ConditionError}

/-- Every leaf of the condition has all of its parts. -/
inductive Complete : Condition → Prop where
  | compare {lhs rhs : Term} {r : Relation} : r ≠ .unset →
      Complete (.compare (some lhs) r (some rhs))
  | all {children : List Condition} : (∀ c ∈ children, Complete c) → Complete (.all children)
  | any {children : List Condition} : (∀ c ∈ children, Complete c) → Complete (.any children)
  | not {child : Condition} : Complete child → Complete (.not child)
  | custom {comparison : Comparison} {lhs rhs : Term} :
      Complete (.custom (some comparison) (some lhs) (some rhs))

theorem evalSide_error {side : Side} {t : Term}
    (failed : evalSide context side (some t) = .error e) : ∃ cause, e = .term side cause := by
  obtain ⟨cause, _, rfl⟩ := mapError_eq_error.mp failed
  exact ⟨cause, rfl⟩

theorem evalCompare_error {lhs rhs : Term} {r : Relation} (set : r ≠ .unset)
    (failed : evalCompare context (some lhs) r (some rhs) = .error e) : ¬ e.Lack := by
  rw [evalCompare, if_neg set] at failed
  rcases bind_eq_error.mp failed with left | ⟨l, _, failed⟩
  · obtain ⟨cause, rfl⟩ := evalSide_error left
    exact nofun
  · rcases bind_eq_error.mp failed with right | ⟨r, _, compared⟩
    · obtain ⟨cause, rfl⟩ := evalSide_error right
      exact nofun
    · obtain ⟨cause, unset, rfl⟩ := mapError_eq_error.mp compared
      intro lack
      cases lack
      exact Value.compare_ne_unset set unset

theorem narrow_error {c : Comparison} {side : Side} {v : Value}
    (failed : c.narrow side v = .error e) : ¬ e.Lack := by
  unfold Comparison.narrow at failed
  split at failed
  · cases failed
  · cases failed
    exact nofun

theorem evalCustom_error {c : Comparison} {lhs rhs : Term}
    (failed : evalCustom context (some c) (some lhs) (some rhs) = .error e) : ¬ e.Lack := by
  rcases bind_eq_error.mp failed with left | ⟨l, _, failed⟩
  · obtain ⟨cause, rfl⟩ := evalSide_error left
    exact nofun
  · rcases bind_eq_error.mp failed with right | ⟨r, _, failed⟩
    · obtain ⟨cause, rfl⟩ := evalSide_error right
      exact nofun
    · rcases bind_eq_error.mp failed with left | ⟨_, _, failed⟩
      · exact narrow_error left
      · rcases bind_eq_error.mp failed with right | ⟨_, _, tested⟩
        · exact narrow_error right
        · obtain ⟨text, _, rfl⟩ := mapError_eq_error.mp tested
          exact nofun

theorem evalAll_error {children : List Condition}
    (failed : evalAll context children = .error e) : ∃ c ∈ children, c.eval context = .error e := by
  induction children with
  | nil => cases failed
  | cons c rest ih =>
    rcases bind_eq_error.mp failed with first | ⟨holds, _, later⟩
    · exact ⟨c, List.mem_cons_self, first⟩
    · cases holds with
      | true =>
        obtain ⟨other, member, failed⟩ := ih later
        exact ⟨other, List.mem_cons_of_mem _ member, failed⟩
      | false => cases later

theorem evalAny_error {children : List Condition}
    (failed : evalAny context children = .error e) : ∃ c ∈ children, c.eval context = .error e := by
  induction children with
  | nil => cases failed
  | cons c rest ih =>
    rcases bind_eq_error.mp failed with first | ⟨holds, _, later⟩
    · exact ⟨c, List.mem_cons_self, first⟩
    · cases holds with
      | true => cases later
      | false =>
        obtain ⟨other, member, failed⟩ := ih later
        exact ⟨other, List.mem_cons_of_mem _ member, failed⟩

theorem Complete.eval_error {c : Condition} (complete : c.Complete)
    (failed : c.eval context = .error e) : ¬ e.Lack := by
  induction complete with
  | compare set =>
    rw [eval] at failed
    exact evalCompare_error set failed
  | all _ ih =>
    rw [eval] at failed
    obtain ⟨c, member, failed⟩ := evalAll_error failed
    exact ih c member failed
  | any _ ih =>
    rw [eval] at failed
    obtain ⟨c, member, failed⟩ := evalAny_error failed
    exact ih c member failed
  | not _ ih =>
    rw [eval] at failed
    exact ih (bind_pure_eq_error.mp failed)
  | custom =>
    rw [eval] at failed
    exact evalCustom_error failed

end Condition

namespace Node

/-- Every condition in the node is complete, at any depth. -/
inductive Complete : Node → Prop where
  | query {q : Query} : Complete (.query q)
  | branch {condition : Condition} {onTrue onFalse : Option Pipeline} {isolated : Bool} :
      condition.Complete → (∀ inner ∈ onTrue, ∀ node ∈ inner, Complete node) →
      (∀ inner ∈ onFalse, ∀ node ∈ inner, Complete node) →
      Complete (.branch condition onTrue onFalse isolated)
  | ret {value : Term} : Complete (.ret value)
  | filter {f : Filter} : f.condition.Complete → Complete (.filter f)
  | fold {f : Fold} : Complete (.fold f)
  | stop : Complete .stop

theorem Complete.taken {context : Context} {node : Node} {inner : Pipeline}
    (complete : node.Complete) (taken : node.taken? context = some inner) :
    ∀ other ∈ inner, other.Complete := by
  obtain ⟨condition, onTrue, onFalse, isolated, outcome, rfl, _, side⟩ :=
    node.branch_of_taken taken
  cases complete with
  | branch _ whenTrue whenFalse =>
    cases outcome with
    | true => exact whenTrue inner side
    | false => exact whenFalse inner side

theorem Complete.run_error {reg : Registry} {s t : State} {node : Node} {e : RunError}
    {cause : ConditionError} (complete : node.Complete) (outside : node.taken? s.context = none)
    (failed : node.run reg s = (.error e, t)) (root : e.root = .condition cause) :
    ¬ cause.Lack := by
  have raises : node.Raises s.context e := (node.run_error_itself outside failed).1
  cases raises with
  | filterCondition =>
    cases root
    cases complete with
    | filter whole =>
      obtain ⟨failed, _⟩ := State.saveResult_error failed
      obtain ⟨scope, failing⟩ := Filter.result_condition_error failed
      exact whole.eval_error failing
  | branchCondition failing =>
    cases root
    cases complete with
    | branch whole _ _ => exact whole.eval_error failing
  | _ => cases root

end Node

theorem Fails.not_lack {reg : Registry} {nodes : Pipeline} {s u : State} {e : RunError}
    {cause : ConditionError} (fails : Fails reg s nodes e u)
    (complete : ∀ node ∈ nodes, node.Complete) (root : e.root = .condition cause) :
    ¬ cause.Lack := by
  induction fails with
  | cancelled => cases root
  | itself arrives _ outside failed =>
    have member := List.mem_of_getElem? arrives.present
    exact (complete _ member).run_error outside failed root
  | inside arrives _ taken _ ih =>
    have member := List.mem_of_getElem? arrives.present
    exact ih ((complete _ member).taken taken) root

theorem forall_of_forall₂ {α β : Type} {p : β → Prop} {as : List α} {bs : List β}
    (related : List.Forall₂ (fun _ b => p b) as bs) : ∀ b ∈ bs, p b := by
  induction related with
  | nil => exact fun b member => absurd member List.not_mem_nil
  | cons first _ later => exact List.forall_mem_cons.mpr ⟨first, later⟩

variable {comparisons : Comparisons}

theorem ConditionDef.compiled_complete {d : ConditionDef} {c : Condition}
    (compiled : d.compile comparisons = .ok c) : c.Complete :=
  compiled_induction (motive := fun _ c => c.Complete)
    (fun _ _ _ _ _ set _ _ => .compare set)
    (fun _ _ related => .all (forall_of_forall₂ related))
    (fun _ _ related => .any (forall_of_forall₂ related))
    (fun _ _ complete => .not complete)
    (fun _ _ _ _ _ _ _ _ _ => .custom) compiled

theorem NodeDef.compiled_complete {nodes : List NodeDef} {pipeline : Pipeline}
    (compiled : compileNodes comparisons nodes = .ok pipeline) :
    ∀ node ∈ pipeline, node.Complete := by
  have side {d : Option (List NodeDef)} {p : Option Pipeline}
      (related : Option.Rel (List.Forall₂ fun _ node => node.Complete) d p) :
      ∀ inner ∈ p, ∀ node ∈ inner, node.Complete := by
    intro inner member
    cases related with
    | none => cases member
    | some level =>
      cases member
      exact forall_of_forall₂ level
  refine forall_of_forall₂ (compiled_induction (motive := fun _ node => node.Complete)
    ?query ?branch ?ret ?filter ?fold ?stop compiled)
  case query => exact fun _ _ _ _ _ => .query
  case branch =>
    intro _ _ _ _ _ _ _ condition_compiled onTrue onFalse
    exact .branch (ConditionDef.compiled_complete condition_compiled) (side onTrue) (side onFalse)
  case ret => exact fun _ _ _ => .ret
  case filter =>
    intro _ _ _ _ _ _ _ _ condition_compiled
    exact .filter (ConditionDef.compiled_complete condition_compiled)
  case fold => exact fun _ _ _ _ _ _ _ _ _ => .fold
  case stop => exact .stop

/-- A run of a compiled pipeline does not fail for anything that its conditions lack. -/
theorem PipelineDef.compiled_never_lacks {d : PipelineDef} {pipeline : Pipeline}
    (compiled : d.compile comparisons = .ok pipeline) (reg : Registry) (s t : State) (e : RunError)
    (failed : pipeline.execute reg s = (.error e, t)) :
    (∀ missing, e.root ≠ .condition (.invalid missing)) ∧
      (∀ index, e.root ≠ .condition (.nilCondition index)) ∧
      e.root ≠ .condition .nilComparison ∧
      e.root ≠ .condition (.comparison .unsetRelation) := by
  have complete := NodeDef.compiled_complete compiled
  have fails := Pipeline.execute_eq_error_iff.mp failed
  have never {cause : ConditionError} (root : e.root = .condition cause) : ¬ cause.Lack :=
    fails.not_lack complete root
  exact ⟨fun _ root => never root .invalid, fun _ root => never root .nilCondition,
    fun root => never root .nilComparison, fun root => never root .unsetRelation⟩

/-- A truth value and a number do not compare. This shows when the filter runs. -/
theorem compiled_never_lacks_incompatible :
    let one : Json := .num (.int 1 (by omega))
    let d : PipelineDef := ⟨"incompatible", "", [.filter (.literal (.arr [.bool true]) none)
      (.all [some (.compare (.context "element" none none none) .greater (.literal one none))])
      false none "kept"]⟩
    let pipeline : Pipeline := [.filter ⟨.literal (.list [.bool true]),
      .all [.compare (some (.read "element")) .greater (some (.literal (.ofJson one)))],
      false, "element", "kept"⟩]
    let reg : Registry := ⟨.empty, .empty⟩
    let s : State := ⟨.empty, .fresh⟩
    let cause : ConditionError := .comparison (.incompatible .bool (.int .i64))
    let e : RunError := .node 0 .filter (.condition cause)
    (d.compile .empty = .ok pipeline ∧ pipeline.execute reg s = (.error e, s)) ∧
      (∀ missing, e.root ≠ .condition (.invalid missing)) ∧
      (∀ index, e.root ≠ .condition (.nilCondition index)) ∧
      e.root ≠ .condition .nilComparison ∧
      e.root ≠ .condition (.comparison .unsetRelation) := by
  intro one d pipeline reg s cause e
  have compiled : d.compile .empty = .ok pipeline := rfl
  have failed : pipeline.execute reg s = (.error e, s) := rfl
  exact ⟨⟨compiled, failed⟩, PipelineDef.compiled_never_lacks compiled reg s s e failed⟩

end RulePipeline
