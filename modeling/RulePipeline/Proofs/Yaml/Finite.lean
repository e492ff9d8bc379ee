import RulePipeline.Proofs.Definition.Plain
import RulePipeline.Yaml.Definition

/-! Documents without an infinity and without NaN. Their content is finite, and the terms that are
read from it are plain. -/
namespace RulePipeline

namespace Yaml

/-- Whatever comes out, with any number of aliases followed before, is as described. -/
def Yields {α : Type} (d : Document) (read : Unfolding α) (post : α → Prop) : Prop :=
  ∀ count a later, (read.run d).run count = some (a, later) → post a

namespace Yields

variable {α β : Type} {d : Document} {post : α → Prop}

theorem pure {a : α} (holds : post a) : Yields d (Pure.pure a) post := by
  intro count b later result
  cases result
  exact holds

theorem failure : Yields d (Alternative.failure : Unfolding α) post := by
  intro count b later result
  cases result

theorem failure_bind {next : β → Unfolding α} :
    Yields d ((Alternative.failure : Unfolding β) >>= next) post := by
  intro count b later result
  cases result

theorem bind {read : Unfolding β} {next : β → Unfolding α} {mid : β → Prop}
    (first : Yields d read mid) (second : ∀ b, mid b → Yields d (next b) post) :
    Yields d (read >>= next) post := by
  intro count a later result
  obtain ⟨⟨b, between⟩, here, there⟩ := Option.bind_eq_some_iff.mp result
  exact second b (first count b between here) between a later there

theorem trivial {read : Unfolding α} : Yields d read fun _ => True := fun _ _ _ _ => True.intro

theorem document : Yields d (MonadReader.read : Unfolding Document) (· = d) := by
  intro count e later result
  cases result
  rfl

theorem ite {c : Prop} [Decidable c] {one other : Unfolding α} (first : Yields d one post)
    (second : Yields d other post) : Yields d (if c then one else other) post := by
  split
  · exact first
  · exact second

theorem step {read : Unfolding β} {next : β → Unfolding α}
    (second : ∀ b, Yields d (next b) post) : Yields d (read >>= next) post :=
  trivial.bind fun b _ => second b

theorem getDM {found : Option α} (holds : ∀ a, found = some a → post a) :
    Yields d (found.getDM Alternative.failure) post := by
  cases found with
  | none => exact failure
  | some a => exact pure (holds a rfl)

theorem mapM {f : β → Unfolding α} {items : List β} (each : ∀ b ∈ items, Yields d (f b) post) :
    Yields d (items.mapM f) fun found => ∀ a ∈ found, post a := by
  induction items with
  | nil => exact pure nofun
  | cons b rest ih =>
    have ⟨here, later⟩ := List.forall_mem_cons.mp each
    rw [List.mapM_cons]
    exact here.bind fun a first => (ih later).bind fun found others =>
      pure (List.forall_mem_cons.mpr ⟨first, others⟩)

end Yields

namespace Node

mutual

/-- No scalar in the node is an infinity or a NaN. -/
def Finite : Node → Prop
  | .alias _ => True
  | .scalar tag text plain => ∀ c ∈ Scalar.content? tag text plain, c.Finite
  | .seq _ items => FiniteItems items
  | .map _ entries => FiniteEntries entries

def FiniteItems : List Node → Prop
  | [] => True
  | n :: rest => n.Finite ∧ FiniteItems rest

def FiniteEntries : List (Node × Node) → Prop
  | [] => True
  | (_, n) :: rest => n.Finite ∧ FiniteEntries rest

end

mutual

def decideFinite : (n : Node) → Decidable n.Finite
  | .alias _ => .isTrue trivial
  | .scalar tag text plain =>
    inferInstanceAs (Decidable (∀ c ∈ Scalar.content? tag text plain, c.Finite))
  | .seq _ items => decideFiniteItems items
  | .map _ entries => decideFiniteEntries entries

def decideFiniteItems : (items : List Node) → Decidable (FiniteItems items)
  | [] => .isTrue trivial
  | n :: rest => @instDecidableAnd _ _ (decideFinite n) (decideFiniteItems rest)

def decideFiniteEntries : (entries : List (Node × Node)) → Decidable (FiniteEntries entries)
  | [] => .isTrue trivial
  | (_, n) :: rest => @instDecidableAnd _ _ (decideFinite n) (decideFiniteEntries rest)

end

instance : DecidablePred Finite := decideFinite

theorem finiteItems_iff {items : List Node} : FiniteItems items ↔ ∀ n ∈ items, n.Finite := by
  induction items with
  | nil => simp [FiniteItems]
  | cons n rest ih => simp [FiniteItems, ih]

theorem finiteEntries_iff {entries : List (Node × Node)} :
    FiniteEntries entries ↔ ∀ e ∈ entries, e.2.Finite := by
  induction entries with
  | nil => simp [FiniteEntries]
  | cons e rest ih => simp [FiniteEntries, ih]

end Node

def Document.Finite (d : Document) : Prop := d.root.Finite ∧ ∀ s ∈ d.slots, s.2.Finite

instance : DecidablePred Document.Finite := fun _ => inferInstanceAs (Decidable (_ ∧ _))

namespace Node

variable {d : Document}

theorem follow_finite (finite : d.Finite) {n : Node} (here : n.Finite) :
    Yields d n.follow Finite := by
  cases n with
  | scalar _ _ _ | seq _ _ | map _ _ => exact Yields.pure here
  | _ =>
    rename_i slot
    refine Yields.document.bind fun e same => Yields.step fun followed => ?_
    subst same
    refine Yields.ite Yields.failure_bind (Yields.step fun _ => ?_)
    split
    · rename_i n found
      obtain ⟨front, back, slots, -⟩ := List.lookup_eq_some_iff.mp found
      exact Yields.pure (finite.2 (slot, n) (slots ▸ List.mem_append_right _ List.mem_cons_self))
    · exact Yields.failure

theorem content_finite (finite : d.Finite) (depth : Nat) {n : Node} (here : n.Finite) :
    Yields d (n.content depth) Content.Finite := by
  induction depth generalizing n with
  | zero =>
    refine (follow_finite finite here).bind fun m there => ?_
    cases m with
    | scalar tag text plain => exact Yields.getDM there
    | _ => exact Yields.failure
  | succ depth ih =>
    refine (follow_finite finite here).bind fun m there => ?_
    cases m with
    | scalar tag text plain => exact Yields.getDM there
    | seq tag items =>
      have each : ∀ n ∈ items, Yields d (n.content depth) Content.Finite := fun n member =>
        ih (finiteItems_iff.mp there n member)
      refine Yields.ite Yields.failure_bind ((Yields.mapM each).bind fun found all => ?_)
      exact Yields.pure (Content.finiteItems_iff.mpr all)
    | map tag entries =>
      have each : ∀ e ∈ entries, Yields d (do
          return (← e.1.content depth, ← e.2.content depth)) fun e => e.2.Finite := fun e member =>
        have value := ih (finiteEntries_iff.mp there e member)
        Yields.step fun key => value.bind fun _ => (Yields.pure ·)
      refine Yields.ite Yields.failure_bind ((Yields.mapM each).bind fun found all => ?_)
      exact Yields.pure (Content.finiteEntries_iff.mpr all)
    | _ => exact Yields.failure

end Node

theorem Yields.of_unfold {α : Type} {d : Document} {read : Unfolding α} {post : α → Prop}
    (yields : Yields d read post) {a : α} (result : unfold d read = some a) : post a := by
  obtain ⟨⟨b, later⟩, run, rfl⟩ := Option.map_eq_some_iff.mp result
  exact yields 0 b later run

/-- What is read from a text is read from its document. -/
theorem readWith_eq_ok {α : Type} {read : Node → Unfolding α} {text : String} {a : α}
    (result : readWith read text = .ok a) :
    ∃ d, Document.ofText text = .ok d ∧ unfold d (read d.root) = some a := by
  obtain ⟨d, parsed, result⟩ := bind_eq_ok.mp result
  refine ⟨d, mapError_eq_ok.mp parsed, ?_⟩
  split at result
  · rename_i b found
    cases result
    exact found
  · cases result

end Yaml

open Yaml (Yields)

theorem Content.ofYaml_finite {text : String} {c : Content} (read : ofYaml text = .ok c)
    (finite : ∀ d, Yaml.Document.ofText text = .ok d → d.Finite) : c.Finite := by
  obtain ⟨d, parsed, result⟩ := Yaml.readWith_eq_ok read
  have all := finite d parsed
  exact (Yaml.Node.content_finite all _ all.1).of_unfold result

namespace PipelineDef

variable {d : Yaml.Document}

theorem yamlEntry_finite (finite : d.Finite) (depth : Nat) {entry : Yaml.Node × Yaml.Node}
    (here : entry.2.Finite) : Yields d (yamlEntry depth entry) fun e => e.2.Finite := by
  refine Yields.step fun key => Yields.ite ?_ ?_
  · exact Yields.step fun _ => Yields.pure trivial
  · exact (Yaml.Node.content_finite finite depth here).bind fun _ => (Yields.pure ·)

theorem topNode_plain {c : Content} (finite : c.Finite) :
    Yields d ((topNode c.reading).toOption.getDM failure) fun n => Plain n.sites :=
  Yields.getDM fun n read =>
    (Content.reading_plain c finite).node n (node_of_topNode (toOption_eq_some.mp read))

theorem yamlNode_plain (finite : d.Finite) (depth : Nat) {n : Yaml.Node} (here : n.Finite) :
    Yields d (yamlNode depth n) fun n => Plain n.sites := by
  refine (Yaml.Node.follow_finite finite here).bind fun m there => ?_
  dsimp only
  split
  · rename_i tag entries
    have each : ∀ e ∈ entries, Yields d (yamlEntry depth e) fun e => e.2.Finite :=
      fun e member => yamlEntry_finite finite depth (Yaml.Node.finiteEntries_iff.mp there e member)
    refine Yields.ite Yields.failure_bind ((Yields.mapM each).bind fun found all => ?_)
    exact topNode_plain (Content.finiteEntries_iff.mpr all)
  · rename_i tag kind items
    have each : ∀ n ∈ items, Yields d (n.content depth) Content.Finite :=
      fun n member => Yaml.Node.content_finite finite depth
        (Yaml.Node.finiteItems_iff.mp there n (List.mem_cons_of_mem _ member))
    refine Yields.ite Yields.failure_bind (Yields.step fun name => ?_)
    refine (Yields.mapM each).bind fun found all => ?_
    exact topNode_plain (Content.finiteItems_iff.mpr (List.forall_mem_cons.mpr ⟨trivial, all⟩))
  · exact Yields.failure_bind

theorem items_finite (finite : d.Finite) {n : Yaml.Node} (here : n.Finite) :
    Yields d n.items fun items => ∀ n ∈ items, n.Finite := by
  refine (Yaml.Node.follow_finite finite here).bind fun m there => ?_
  split
  · exact Yields.pure (Yaml.Node.finiteItems_iff.mp there)
  · exact Yields.pure nofun
  · exact Yields.failure

theorem yamlFields_finite {entries : List (Yaml.Node × Yaml.Node)}
    (each : ∀ e ∈ entries, e.2.Finite) :
    Yields d (yamlFields entries) fun fields => ∀ f ∈ fields, f.2.Finite := by
  induction entries with
  | nil => exact Yields.pure nofun
  | cons e rest ih =>
    have ⟨first, later⟩ := List.forall_mem_cons.mp each
    refine Yields.step fun name => (ih later).bind fun others behind => ?_
    refine Yields.ite (Yields.pure behind) (Yields.ite Yields.failure_bind ?_)
    exact Yields.pure (List.forall_mem_cons.mpr ⟨first, behind⟩)

/-- The nodes are read alike with a description and without one. -/
theorem yamlNodes_plain (finite : d.Finite) {fields : List (String × Yaml.Node)}
    (each : ∀ f ∈ fields, f.2.Finite) {name description : String} : Yields d (do
      let nodes ← match Entries.find? "nodes" fields with
        | some n => do (← n.items).mapM (yamlNode (Yaml.Node.maxDepth - 3))
        | none => pure []
      return { name, description, nodes }) fun p : PipelineDef => Plain p.sites := by
  dsimp only
  split
  · rename_i n found
    have here := each _ (Entries.mem_of_find? found)
    refine (items_finite finite here).bind fun items all => ?_
    have nodes := Yields.mapM fun n member =>
      yamlNode_plain finite (Yaml.Node.maxDepth - 3) (all n member)
    exact nodes.bind fun found plain => Yields.pure (NodeDef.plain_levelSites.mpr plain)
  · exact Yields.pure plain_nil

theorem ofYamlNode_plain (finite : d.Finite) {n : Yaml.Node} (here : n.Finite) :
    Yields d (ofYamlNode n) fun p => Plain p.sites := by
  cases n with
  | map tag entries =>
    refine (yamlFields_finite (Yaml.Node.finiteEntries_iff.mp here)).bind fun fields each => ?_
    dsimp only
    split
    · refine Yields.step fun name => ?_
      split
      · exact Yields.step fun description => yamlNodes_plain finite each
      · exact yamlNodes_plain finite each
    · exact Yields.failure_bind
  | _ => exact Yields.failure

theorem ofYaml_plain {text : String} {p : PipelineDef} (read : ofYaml text = .ok p)
    (finite : ∀ d, Yaml.Document.ofText text = .ok d → d.Finite) : Plain p.sites := by
  obtain ⟨d, parsed, result⟩ := Yaml.readWith_eq_ok read
  have all := finite d parsed
  exact (ofYamlNode_plain all all.1).of_unfold result

end PipelineDef

end RulePipeline
