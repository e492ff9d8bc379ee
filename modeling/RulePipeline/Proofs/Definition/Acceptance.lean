import RulePipeline.Proofs.Definition.Literal
import RulePipeline.Proofs.Definition.Sites
import RulePipeline.Proofs.Except

/-! Which definitions compile. A definition compiles if each of its sites is sound by itself, and
otherwise it is refused with the fault of the first site, in the order of compilation, that is
not. -/
namespace RulePipeline

/-- A literal of a declared kind has a value of this kind, and a constant is given. -/
def TermDef.Sound : TermDef → Prop
  | .literal json (some kind) => ∃ v, literalMeaning? json (some kind) = some v ∧ v.kind = kind
  | .context _ (some .constant) _ value => ∃ json, value = some json
  | _ => True

namespace Site

def Sound (comparisons : Comparisons) : Site → Prop
  | .relation r => r ≠ .unset
  | .comparison name => ∃ c, comparisons.find? name = some c
  | .term t => t.Sound
  | .gap _ => False

/-- What a site is reported for. -/
inductive Faulty (comparisons : Comparisons) : Site → DefinitionError → Prop where
  | unsetRelation : Faulty comparisons (.relation .unset) .unsetRelation
  | unknownComparison : comparisons.find? name = none →
      Faulty comparisons (.comparison name) (.unknownComparison name)
  | invalidLiteral : TermDef.literalMeaning? json (some kind) = none →
      Faulty comparisons (.term (.literal json (some kind))) (.invalidLiteral json kind)
  | missingConstant : Faulty comparisons (.term (.context name (some .constant) key none))
      (.missingConstant name)
  | gap : Faulty comparisons (.gap index) (.condition (.nilCondition index))

variable {comparisons : Comparisons} {site : Site} {e : DefinitionError}

theorem Faulty.not_sound (faulty : site.Faulty comparisons e) : ¬ site.Sound comparisons := by
  cases faulty with
  | unsetRelation => exact fun sound => sound rfl
  | unknownComparison missing =>
    rintro ⟨c, found⟩
    rw [missing] at found
    cases found
  | invalidLiteral meaningless =>
    rintro ⟨v, means, _⟩
    rw [meaningless] at means
    cases means
  | missingConstant =>
    rintro ⟨json, given⟩
    cases given
  | gap => exact id

theorem Faulty.unique {other : DefinitionError} (faulty : site.Faulty comparisons e)
    (also : site.Faulty comparisons other) : e = other := by
  cases faulty <;> cases also <;> rfl

end Site

/-- The fault of the first of the sites that is not sound. -/
inductive FirstFault (comparisons : Comparisons) : List Site → DefinitionError → Prop where
  | here : site.Faulty comparisons e → FirstFault comparisons (site :: rest) e
  | later : site.Sound comparisons → FirstFault comparisons rest e →
      FirstFault comparisons (site :: rest) e

namespace FirstFault

variable {comparisons : Comparisons} {sites rest : List Site} {e other : DefinitionError}

theorem not_sound (fault : FirstFault comparisons sites e) :
    ¬ ∀ site ∈ sites, site.Sound comparisons := by
  intro sound
  induction fault with
  | here faulty => exact faulty.not_sound (sound _ List.mem_cons_self)
  | later _ _ ih => exact ih fun site member => sound site (List.mem_cons_of_mem _ member)

theorem unique (fault : FirstFault comparisons sites e)
    (also : FirstFault comparisons sites other) : e = other := by
  induction fault with
  | here faulty =>
    cases also with
    | here again => exact faulty.unique again
    | later sound _ => exact absurd sound faulty.not_sound
  | later sound _ ih =>
    cases also with
    | here faulty => exact absurd sound faulty.not_sound
    | later _ deeper => exact ih deeper

theorem append (fault : FirstFault comparisons sites e) :
    FirstFault comparisons (sites ++ rest) e := by
  induction fault with
  | here faulty => exact .here faulty
  | later sound _ ih => exact .later sound ih

theorem append_left (sound : ∀ site ∈ sites, site.Sound comparisons)
    (fault : FirstFault comparisons rest e) : FirstFault comparisons (sites ++ rest) e := by
  induction sites with
  | nil => exact fault
  | cons site others ih =>
    exact .later (sound site List.mem_cons_self)
      (ih fun site member => sound site (List.mem_cons_of_mem _ member))

end FirstFault

/-- A compilation that succeeds where all of the sites are sound, and otherwise fails with the
first fault. -/
def Checks {α : Type} (comparisons : Comparisons) (sites : List Site) :
    Except DefinitionError α → Prop
  | .ok _ => ∀ site ∈ sites, site.Sound comparisons
  | .error e => FirstFault comparisons sites e

namespace Checks

variable {α β : Type} {comparisons : Comparisons} {site : Site} {sites rest : List Site}
  {x : Except DefinitionError α}

theorem nil (a : α) : Checks comparisons [] (.ok a) :=
  fun _ member => absurd member List.not_mem_nil

theorem bind {f : α → Except DefinitionError β} (first : Checks comparisons sites x)
    (next : ∀ a, Checks comparisons rest (f a)) : Checks comparisons (sites ++ rest) (x >>= f) := by
  cases x with
  | error e => exact first.append
  | ok a =>
    have later : Checks comparisons rest (f a) := next a
    change Checks comparisons (sites ++ rest) (f a)
    cases compiled : f a with
    | error e =>
      rw [compiled] at later
      exact .append_left first later
    | ok b =>
      rw [compiled] at later
      exact fun site member => (List.mem_append.mp member).elim (first site) (later site)

theorem map (f : α → β) (checks : Checks comparisons sites x) :
    Checks comparisons sites (x >>= fun a => pure (f a)) := by
  cases x <;> exact checks

theorem fault {e : DefinitionError} (faulty : site.Faulty comparisons e) :
    Checks comparisons (site :: rest) (.error e : Except DefinitionError α) := .here faulty

theorem sound (sound : site.Sound comparisons) (checks : Checks comparisons sites x) :
    Checks comparisons (site :: sites) x := by
  cases x with
  | error e => exact .later sound checks
  | ok a => exact List.forall_mem_cons.mpr ⟨sound, checks⟩

end Checks

variable {comparisons : Comparisons}

theorem TermDef.checks (t : TermDef) : Checks comparisons [.term t] t.compile := by
  cases t with
  | literal json kind =>
    cases kind with
    | none => exact .sound trivial (.nil _)
    | some k =>
      refine .map _ ?_
      rw [literalValue_eq]
      cases means : literalMeaning? json (some k) with
      | none => exact .fault (.invalidLiteral means)
      | some v => exact .sound ⟨v, means, literalMeaning?_kind means⟩ (.nil _)
  | context name getter key value =>
    cases getter with
    | none => exact .sound trivial (.nil _)
    | some g =>
      cases g with
      | constant =>
        cases value with
        | none => exact .fault .missingConstant
        | some json => exact .sound ⟨json, rfl⟩ (.nil _)
      | _ => exact .sound trivial (.nil _)

/-- The two terms of a leaf, the left one first. -/
theorem Checks.leaf (lhs rhs : TermDef) (f : Term → Term → Condition) :
    Checks comparisons [.term lhs, .term rhs] (do
      let left ← lhs.compile
      let right ← rhs.compile
      return f left right) :=
  lhs.checks.bind fun _ => rhs.checks.map _

namespace ConditionDef

mutual

theorem checks : (c : ConditionDef) → Checks comparisons c.sites (c.compile comparisons)
  | .compare lhs r rhs => by
    rw [sites, compile]
    split
    · rename_i unset
      subst unset
      exact .fault .unsetRelation
    · rename_i set
      exact .sound set (.leaf lhs rhs fun left right => .compare (some left) r (some right))
  | .all children => by
    rw [sites, compile]
    exact (checksChildren children 0).map _
  | .any children => by
    rw [sites, compile]
    exact (checksChildren children 0).map _
  | .not child => by
    rw [sites, compile]
    exact child.checks.map _
  | .custom name lhs rhs => by
    rw [sites, compile]
    cases found : comparisons.find? name with
    | none => exact .fault (.unknownComparison found)
    | some c =>
      exact .sound ⟨c, found⟩ (.leaf lhs rhs fun left right =>
        .custom (some c) (some left) (some right))

theorem checksChildren : (children : List (Option ConditionDef)) → (index : Nat) →
    Checks comparisons (childSites index children) (compileChildren comparisons index children)
  | [], _ => .nil _
  | none :: _, _ => .fault .gap
  | some c :: rest, index => c.checks.bind fun _ => (checksChildren rest (index + 1)).map _

end

end ConditionDef

namespace NodeDef

theorem checksTerm : (t : Option TermDef) → Checks comparisons (termSites t) (compileTerm t)
  | none => .nil _
  | some t => t.checks

mutual

theorem checks : (n : NodeDef) → Checks comparisons n.sites (n.compile comparisons)
  | .query _ params _ => by
    rw [sites, compile]
    exact (checksTerm params).map _
  | .branch condition onTrue onFalse _ => by
    rw [sites, compile]
    exact condition.checks.bind fun _ => (checksSide onTrue).bind fun _ =>
      (checksSide onFalse).map _
  | .ret value => by
    rw [sites, compile]
    exact value.checks.map _
  | .filter source condition _ _ _ => by
    rw [sites, compile]
    exact source.checks.bind fun _ => condition.checks.map _
  | .fold source start _ _ _ => by
    rw [sites, compile]
    exact (checksTerm start).bind fun _ => source.checks.map _
  | .stop => .nil _

theorem checksSide : (side : Option (List NodeDef)) →
    Checks comparisons (sideSites side) (compileSide comparisons side)
  | none => .nil _
  | some nodes => (checksLevel nodes).map _

theorem checksLevel : (nodes : List NodeDef) →
    Checks comparisons (levelSites nodes) (compileNodes comparisons nodes)
  | [] => .nil _
  | n :: rest => n.checks.bind fun _ => (checksLevel rest).map _

end

end NodeDef

/-- A definition compiles just if each of its sites is sound. Otherwise it is refused with the fault
of the first site that is not. -/
theorem PipelineDef.compile_iff_sound (comparisons : Comparisons) (d : PipelineDef) :
    ((∃ pipeline, d.compile comparisons = .ok pipeline) ↔
      ∀ site ∈ d.sites, site.Sound comparisons) ∧
    ∀ e, d.compile comparisons = .error e ↔ FirstFault comparisons d.sites e := by
  have checks : Checks comparisons d.sites (d.compile comparisons) := NodeDef.checksLevel d.nodes
  cases compiled : d.compile comparisons with
  | ok pipeline =>
    rw [compiled] at checks
    refine ⟨⟨fun _ => checks, fun _ => ⟨pipeline, rfl⟩⟩, fun e => ⟨?_, ?_⟩⟩
    · intro impossible
      cases impossible
    · intro fault
      exact absurd checks fault.not_sound
  | error cause =>
    rw [compiled] at checks
    refine ⟨⟨?_, ?_⟩, fun e => ⟨?_, ?_⟩⟩
    · rintro ⟨pipeline, impossible⟩
      cases impossible
    · intro sound
      exact absurd sound checks.not_sound
    · intro same
      cases same
      exact checks
    · intro fault
      rw [checks.unique fault]

end RulePipeline
