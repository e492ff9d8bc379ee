import RulePipeline.Proofs.Definition.RoundTrip
import RulePipeline.Proofs.Yaml.Finite

/-! Writing definitions and reading them back. The only thing that gets lost is a key or a constant
that is null, and only a number that JSON lacks is read as one. -/
namespace RulePipeline

/-- What a sort of definition is written as and read from, and where its terms are. -/
structure Format (α : Type) where
  write : α → Json
  read : Content → Except SchemaFault α
  sites : α → List Site

def TermDef.format : Format TermDef := ⟨toJson, ofContent, fun t => [.term t]⟩

def ConditionDef.format : Format ConditionDef := ⟨toJson, ofContent, sites⟩

/-- A node on its own is read like one at the top level of a pipeline. -/
def NodeDef.format : Format NodeDef := ⟨toJson, fun c => PipelineDef.topNode c.reading, sites⟩

def PipelineDef.format : Format PipelineDef := ⟨toJson, ofContent, sites⟩

namespace Format

variable {α : Type} {f : Format α}

/-- Exactly what is plain is read back as it was, and nothing else is read from finite content. -/
structure Faithful (f : Format α) : Prop where
  ordered : ∀ a, Plain (f.sites a) → (f.write a).Ordered
  back : ∀ a, f.read (.ofJson (f.write a)) = .ok a ↔ Plain (f.sites a)
  plain : ∀ c a, c.Finite → f.read c = .ok a → Plain (f.sites a)

/-- A document is finite, so that nothing but what is plain could be read back. -/
theorem Faithful.of_back (ordered : ∀ a, Plain (f.sites a) → (f.write a).Ordered)
    (back : ∀ a, Plain (f.sites a) → f.read (.ofJson (f.write a)) = .ok a)
    (plain : ∀ c a, c.Finite → f.read c = .ok a → Plain (f.sites a)) : f.Faithful where
  ordered := ordered
  back := fun a => ⟨plain _ a (Content.ofJson_finite _), back a⟩
  plain := plain

end Format

theorem TermDef.format_faithful : format.Faithful := by
  refine Format.Faithful.of_back (fun t plain => ?_) (fun t plain => ?_) fun c t finite read => ?_
  · exact toJson_ordered (plain_term.mp plain).1
  · exact ofContent_toJson (plain_term.mp plain).1
  · exact plain_term.mpr ⟨ofContent_plain finite read, plain_nil⟩

theorem ConditionDef.format_faithful : format.Faithful :=
  .of_back toJson_ordered (fun _ plain => ofContent_toJson plain)
    fun _ _ finite read => ofContent_plain finite read

theorem NodeDef.format_faithful : format.Faithful :=
  .of_back toJson_ordered (fun _ plain => PipelineDef.topNode_toJson plain) fun c n finite read =>
    (c.reading_plain finite).node n (PipelineDef.node_of_topNode read)

theorem PipelineDef.format_faithful : format.Faithful :=
  .of_back (fun _ plain => toJson_ordered plain) (fun _ plain => ofJson_toJson plain)
    fun _ _ finite read => ofContent_plain finite read

/-- Definitions of all four sorts survive being written and read, unless a key or a constant in
them is null. None is in what is read from a JSON document, or from a YAML document in which no
number is infinite or NaN. -/
theorem definitions_read_back :
    (TermDef.format.Faithful ∧ ConditionDef.format.Faithful ∧ NodeDef.format.Faithful ∧
      PipelineDef.format.Faithful) ∧
    (∀ j, (Content.ofJson j).Finite) ∧
    ∀ text, (∀ d, Yaml.Document.ofText text = .ok d → d.Finite) →
      (∀ c, Content.ofYaml text = .ok c → c.Finite) ∧
      ∀ p, PipelineDef.ofYaml text = .ok p → Plain p.sites :=
  ⟨⟨TermDef.format_faithful, ConditionDef.format_faithful, NodeDef.format_faithful,
    PipelineDef.format_faithful⟩, Content.ofJson_finite, fun _ finite =>
    ⟨fun _ read => Content.ofYaml_finite read finite,
      fun _ read => PipelineDef.ofYaml_plain read finite⟩⟩

/-- A branch with an empty side and an absent one, on a condition with a missing child and an unset
relation; and a pipeline that is read from YAML. -/
theorem definitions_read_back_gap :
    let c : ConditionDef := .all [none, some (.not (.compare (.literal .null none) .unset
      (.context "list" (some .constant) none (some (.bool true)))))]
    let d : PipelineDef := ⟨"rules", "", [.branch c (some []) none true]⟩
    let text := "\x7b name: rules, nodes: [\x7b kind: return, value: \x7b literal: .5 \x7d\x7d] \x7d"
    PipelineDef.ofContent (.ofJson d.toJson) = .ok d ∧
      ∃ p, PipelineDef.ofYaml text = .ok p ∧ PipelineDef.ofContent (.ofJson p.toJson) = .ok p := by
  intro c d text
  have plain : Plain d.sites := by
    simp [d, c, PipelineDef.sites, NodeDef.levelSites, NodeDef.sites, NodeDef.sideSites,
      ConditionDef.sites, ConditionDef.childSites, TermDef.Plain, Json.Ordered]
  have back (p : PipelineDef) := definitions_read_back.1.2.2.2.back p
  have finite : ∀ d, Yaml.Document.ofText text = .ok d → d.Finite := by
    have checked : ∀ d ∈ (Yaml.Document.ofText text).toOption, d.Finite := by
      decide +kernel
    exact fun d parsed => checked d (toOption_eq_some.mpr parsed)
  have loaded : (PipelineDef.ofYaml text).toOption.isSome := by
    decide +kernel
  obtain ⟨p, read⟩ := Option.isSome_iff_exists.mp loaded
  have read : PipelineDef.ofYaml text = .ok p := toOption_eq_some.mp read
  have loaded_plain : Plain p.sites := (definitions_read_back.2.2 text finite).2 p read
  exact ⟨(back d).mpr plain, p, read, (back p).mpr loaded_plain⟩

def TermDef.nullKey : TermDef → Bool
  | .context _ _ (some .null) _ => true
  | _ => false

theorem TermDef.Plain.nullKey {t : TermDef} (plain : t.Plain) : ¬ t.nullKey := by
  unfold TermDef.nullKey
  split
  · exact absurd rfl (plain.1 .null rfl).2
  · simp

theorem nan_key_not_read_back : ∃ c t, Content.ofYaml "\x7b context: l, key: .nan \x7d" = .ok c ∧
    TermDef.ofContent c = .ok t ∧ t.nullKey ∧ TermDef.ofContent (.ofJson t.toJson) ≠ .ok t := by
  have found : ((Content.ofYaml "\x7b context: l, key: .nan \x7d").toOption.bind fun c =>
      (TermDef.ofContent? c).filter TermDef.nullKey).isSome := by
    decide +kernel
  obtain ⟨t, read⟩ := Option.isSome_iff_exists.mp found
  obtain ⟨c, parsed, read⟩ := Option.bind_eq_some_iff.mp read
  obtain ⟨read, null⟩ := Option.filter_eq_some_iff.mp read
  have read : TermDef.ofContent c = .ok t := by rw [TermDef.ofContent, read]
  refine ⟨c, t, toOption_eq_some.mp parsed, read, null, fun back => ?_⟩
  have plain : t.Plain := TermDef.ofContent_plain (Content.ofJson_finite _) back
  exact plain.nullKey null

end RulePipeline
