import RulePipeline.Proofs.Definition.Fields
import RulePipeline.Proofs.Definition.Sites

/-! Terms that lose nothing when they are written as JSON. A key or a constant that is null is
written like any other, but read back as if it were left out; it comes from nothing but a number
that JSON lacks. -/
namespace RulePipeline

/-- Documents have their members in order, and neither the key nor the constant is null. -/
def TermDef.Plain : TermDef → Prop
  | .literal json _ => json.Ordered
  | .context _ _ key value =>
    (∀ j, key = some j → j.Ordered ∧ j ≠ .null) ∧ ∀ j, value = some j → j.Ordered ∧ j ≠ .null

/-- All terms at the sites are plain. -/
def Plain (sites : List Site) : Prop := ∀ t, .term t ∈ sites → t.Plain

section Sites

variable {sites more : List Site}

@[simp] theorem plain_nil : Plain [] := nofun

@[simp] theorem plain_append : Plain (sites ++ more) ↔ Plain sites ∧ Plain more := by
  simp only [Plain, List.mem_append, or_imp, forall_and]

@[simp] theorem plain_term {t : TermDef} : Plain (.term t :: sites) ↔ t.Plain ∧ Plain sites := by
  simp [Plain, or_imp, forall_and]

@[simp] theorem plain_relation {r : Relation} : Plain (.relation r :: sites) ↔ Plain sites := by
  simp [Plain]

@[simp] theorem plain_comparison {name : String} :
    Plain (.comparison name :: sites) ↔ Plain sites := by
  simp [Plain]

@[simp] theorem plain_gap {index : Nat} : Plain (.gap index :: sites) ↔ Plain sites := by
  simp [Plain]

end Sites

/-! ### What is read from finite content -/

theorem finite_of_find? {names : List String} {entries : List (Content × Content)}
    (finite : (Content.map entries).Finite) {fields : List (String × Content)}
    (read : (Content.members names entries).toOption = some fields) {name : String} {c : Content}
    (found : Entries.find? name fields = some c) : c.Finite := by
  obtain ⟨e, member, rfl⟩ :=
    Content.mem_of_members (toOption_eq_some.mp read) _ (Entries.mem_of_find? found)
  exact Content.finiteEntries_iff.mp finite e member

namespace TermDef

/-- A field that is read at all is read as nothing, or from content that is something. -/
theorem optionalField_eq_some {α : Type} {read : Content → Option α} {name : String}
    {fields : List (String × Content)} {a : α}
    (field : optionalField read name fields = some (some a)) :
    ∃ c, Entries.find? name fields = some c ∧ c ≠ .null ∧ read c = some a := by
  unfold optionalField at field
  split at field
  · cases field
  · cases field
  · rename_i c something found
    obtain ⟨b, here, same⟩ := Option.map_eq_some_iff.mp field
    cases same
    exact ⟨c, found, something, here⟩

theorem literal?_plain {entries : List (Content × Content)} {t : TermDef}
    (read : literal? entries = some t) : t.Plain := by
  obtain ⟨fields, -, read⟩ := Option.bind_eq_some_iff.mp read
  obtain ⟨c, -, read⟩ := Option.bind_eq_some_iff.mp read
  obtain ⟨json, document, read⟩ := Option.bind_eq_some_iff.mp read
  obtain ⟨kind, -, read⟩ := Option.bind_eq_some_iff.mp read
  cases read
  exact Content.toJson?_ordered c document

theorem context?_plain {entries : List (Content × Content)} (finite : (Content.map entries).Finite)
    {t : TermDef} (read : context? entries = some t) : t.Plain := by
  obtain ⟨fields, named, read⟩ := Option.bind_eq_some_iff.mp read
  obtain ⟨c, -, read⟩ := Option.bind_eq_some_iff.mp read
  have document {name : String} {j : Json}
      (field : optionalField Content.toJson? name fields = some (some j)) :
      j.Ordered ∧ j ≠ .null := by
    obtain ⟨c, found, something, here⟩ := optionalField_eq_some field
    refine ⟨Content.toJson?_ordered c here, fun null => ?_⟩
    exact Content.toJson?_ne_null (finite_of_find? finite named found) something (null ▸ here)
  cases c with
  | str name =>
    obtain ⟨getter, -, read⟩ := Option.bind_eq_some_iff.mp read
    obtain ⟨key, atKey, read⟩ := Option.bind_eq_some_iff.mp read
    obtain ⟨value, atValue, read⟩ := Option.bind_eq_some_iff.mp read
    cases read
    exact ⟨fun j here => document (here ▸ atKey), fun j here => document (here ▸ atValue)⟩
  | _ => cases read

theorem ofContent?_plain {c : Content} (finite : c.Finite) {t : TermDef}
    (read : ofContent? c = some t) : t.Plain := by
  cases c with
  | map entries =>
    rcases Option.or_eq_some_iff.mp read with literal | ⟨-, context⟩
    · exact literal?_plain literal
    · exact context?_plain finite context
  | _ => cases read

theorem ofContent_plain {c : Content} (finite : c.Finite) {t : TermDef}
    (read : ofContent c = .ok t) : t.Plain := by
  unfold ofContent at read
  split at read
  · rename_i found
    cases read
    exact ofContent?_plain finite found
  · cases read

end TermDef

namespace ConditionDef

theorem leafFields?_finite {names : List String} {c : Content} (finite : c.Finite)
    {fields : List (String × Content)} (read : leafFields? names c = some fields) {name : String}
    {v : Content} (found : Entries.find? name fields = some v) : v.Finite := by
  cases c with
  | map entries => exact finite_of_find? finite read found
  | seq items =>
    rw [leafFields?] at read
    split at read
    · cases read
      have member := (List.of_mem_zip (Entries.mem_of_find? found)).2
      exact Content.finiteItems_iff.mp finite v member
    · cases read
  | _ => cases read

theorem compare?_plain {c : Content} (finite : c.Finite) {d : ConditionDef}
    (read : compare? c = some d) : Plain d.sites := by
  obtain ⟨fields, named, read⟩ := Option.bind_eq_some_iff.mp read
  obtain ⟨left, atLeft, read⟩ := Option.bind_eq_some_iff.mp read
  obtain ⟨lhs, readLeft, read⟩ := Option.bind_eq_some_iff.mp read
  have ⟨r, read⟩ : ∃ r, (do
      let rhs ← TermDef.ofContent? (← Entries.find? "rhs" fields)
      return .compare lhs r rhs) = some d := by
    dsimp only at read
    split at read
    · obtain ⟨r, -, read⟩ := Option.bind_eq_some_iff.mp read
      exact ⟨r, read⟩
    · exact ⟨.unset, read⟩
  obtain ⟨right, atRight, read⟩ := Option.bind_eq_some_iff.mp read
  obtain ⟨rhs, readRight, read⟩ := Option.bind_eq_some_iff.mp read
  cases read
  have left := TermDef.ofContent?_plain (leafFields?_finite finite named atLeft) readLeft
  have right := TermDef.ofContent?_plain (leafFields?_finite finite named atRight) readRight
  simp [sites, left, right]

theorem custom?_plain {c : Content} (finite : c.Finite) {d : ConditionDef}
    (read : custom? c = some d) : Plain d.sites := by
  obtain ⟨fields, named, read⟩ := Option.bind_eq_some_iff.mp read
  obtain ⟨name, -, read⟩ := Option.bind_eq_some_iff.mp read
  cases name with
  | str name =>
    obtain ⟨left, atLeft, read⟩ := Option.bind_eq_some_iff.mp read
    obtain ⟨lhs, readLeft, read⟩ := Option.bind_eq_some_iff.mp read
    obtain ⟨right, atRight, read⟩ := Option.bind_eq_some_iff.mp read
    obtain ⟨rhs, readRight, read⟩ := Option.bind_eq_some_iff.mp read
    cases read
    have left := TermDef.ofContent?_plain (leafFields?_finite finite named atLeft) readLeft
    have right := TermDef.ofContent?_plain (leafFields?_finite finite named atRight) readRight
    simp [sites, left, right]
  | _ => cases read

theorem childSites_plain {index : Nat} {children : List (Option ConditionDef)}
    (each : ∀ c, some c ∈ children → Plain c.sites) : Plain (childSites index children) := by
  induction children generalizing index with
  | nil => exact plain_nil
  | cons child rest ih =>
    have later : Plain (childSites (index + 1) rest) :=
      ih fun c member => each c (List.mem_cons_of_mem _ member)
    cases child with
    | none => simpa [childSites] using later
    | some c => simpa [childSites, later] using each c List.mem_cons_self

end ConditionDef

/-- All definitions that the content is read as are plain. -/
structure Reading.Plain (r : Reading) : Prop where
  content : r.content.Finite
  condition : ∀ c, r.condition? = some c → RulePipeline.Plain c.sites
  children : ∀ cs, r.children? = some cs → ∀ c, some c ∈ cs → RulePipeline.Plain c.sites
  node : ∀ n, r.node = .ok n → RulePipeline.Plain n.sites
  nodes : ∀ ns, r.nodes = .ok ns → RulePipeline.Plain (NodeDef.levelSites ns)

namespace ConditionDef

theorem sole?_plain {name : String} {entries : List (Content × Reading)}
    (each : ∀ e ∈ entries, e.2.Plain) {r : Reading} (found : sole? name entries = some r) :
    r.Plain := by
  obtain ⟨fields, read, found⟩ := Option.bind_eq_some_iff.mp found
  obtain ⟨e, member, rfl⟩ :=
    Content.mem_of_members (toOption_eq_some.mp read) _ (Entries.mem_of_find? found)
  exact each e member

theorem ofEntries?_plain {entries : List (Content × Reading)} (each : ∀ e ∈ entries, e.2.Plain)
    {c : ConditionDef} (read : ofEntries? entries = some c) : Plain c.sites := by
  unfold ofEntries? at read
  simp only [Option.or_eq_some_iff] at read
  rcases read with (((compare | ⟨-, all⟩) | ⟨-, any⟩) | ⟨-, not⟩) | ⟨-, custom⟩
  · obtain ⟨r, found, here⟩ := Option.bind_eq_some_iff.mp compare
    exact compare?_plain (sole?_plain each found).content here
  · obtain ⟨r, found, here⟩ := Option.bind_eq_some_iff.mp all
    obtain ⟨children, among, rfl⟩ := Option.map_eq_some_iff.mp here
    exact childSites_plain ((sole?_plain each found).children children among)
  · obtain ⟨r, found, here⟩ := Option.bind_eq_some_iff.mp any
    obtain ⟨children, among, rfl⟩ := Option.map_eq_some_iff.mp here
    exact childSites_plain ((sole?_plain each found).children children among)
  · obtain ⟨r, found, here⟩ := Option.bind_eq_some_iff.mp not
    obtain ⟨child, inside, rfl⟩ := Option.map_eq_some_iff.mp here
    exact (sole?_plain each found).condition child inside
  · obtain ⟨r, found, here⟩ := Option.bind_eq_some_iff.mp custom
    exact custom?_plain (sole?_plain each found).content here

end ConditionDef

namespace NodeDef

variable {fields : Fields} {name : String}

theorem term_plain (each : ∀ f ∈ fields, f.2.Plain) {t : TermDef}
    (found : required Reading.term fields name = .ok t) : t.Plain := by
  obtain ⟨r, here, read⟩ := required_eq_ok.mp found
  exact TermDef.ofContent_plain (each _ (Entries.mem_of_find? here)).content read

theorem termSites_plain (each : ∀ f ∈ fields, f.2.Plain) {t : Option TermDef}
    (found : optional Reading.term fields name = .ok t) : Plain (termSites t) := by
  cases t with
  | none => exact plain_nil
  | some t =>
    obtain ⟨r, here, read⟩ := optional_eq_ok found
    have plain := TermDef.ofContent_plain (each _ (Entries.mem_of_find? here)).content read
    simpa [termSites] using plain

theorem condition_plain (each : ∀ f ∈ fields, f.2.Plain) {c : ConditionDef}
    (found : required Reading.condition fields name = .ok c) : Plain c.sites := by
  obtain ⟨r, here, read⟩ := required_eq_ok.mp found
  unfold Reading.condition at read
  split at read
  · rename_i condition
    cases read
    exact (each _ (Entries.mem_of_find? here)).condition _ condition
  · cases read

theorem sideSites_plain (each : ∀ f ∈ fields, f.2.Plain) {side : Option (List NodeDef)}
    (found : optional Reading.nodes fields name = .ok side) : Plain (sideSites side) := by
  cases side with
  | none => exact plain_nil
  | some nodes =>
    obtain ⟨r, here, read⟩ := optional_eq_ok found
    exact (each _ (Entries.mem_of_find? here)).nodes nodes read

theorem build_plain (each : ∀ f ∈ fields, f.2.Plain) {kind : NodeKind} {n : NodeDef}
    (built : build fields kind = .ok n) : Plain n.sites := by
  cases kind with
  | query =>
    obtain ⟨_, -, params, params_read, _, -, rfl⟩ := build_query.mp built
    exact termSites_plain each params_read
  | branch =>
    obtain ⟨_, condition, _, one, _, other, _, -, rfl⟩ := build_branch.mp built
    have sides := plain_append.mpr ⟨sideSites_plain each one, sideSites_plain each other⟩
    exact plain_append.mpr ⟨condition_plain each condition, sides⟩
  | ret =>
    obtain ⟨_, value, rfl⟩ := build_ret.mp built
    exact plain_term.mpr ⟨term_plain each value, plain_nil⟩
  | filter =>
    obtain ⟨_, source, _, condition, _, -, _, -, _, -, rfl⟩ := build_filter.mp built
    exact plain_term.mpr ⟨term_plain each source, condition_plain each condition⟩
  | fold =>
    obtain ⟨_, source, _, start, _, -, _, -, _, -, rfl⟩ := build_fold.mp built
    have source := plain_term.mpr ⟨term_plain each source, plain_nil⟩
    exact plain_append.mpr ⟨termSites_plain each start, source⟩
  | stop =>
    cases built
    exact plain_nil

theorem ofEntries_plain {entries : List (Content × Reading)} (each : ∀ e ∈ entries, e.2.Plain)
    {kind : NodeKind} {n : NodeDef} (read : ofEntries kind entries = .ok n) : Plain n.sites := by
  unfold ofEntries at read
  split at read
  · cases read
    exact plain_nil
  · obtain ⟨fields, named, read⟩ := bind_eq_ok.mp read
    obtain ⟨-, -, built⟩ := bind_eq_ok.mp read
    refine build_plain (fun f member => ?_) built
    obtain ⟨e, there, same⟩ := Content.mem_of_members named f member
    exact same ▸ each e there

theorem ofTagged_plain {entries : List (Content × Reading)} (each : ∀ e ∈ entries, e.2.Plain)
    {n : NodeDef} (read : ofTagged entries = .ok n) : Plain n.sites := by
  unfold ofTagged at read
  split at read
  · cases read
  · obtain ⟨kind, -, read⟩ := bind_eq_ok.mp read
    exact ofEntries_plain (fun e member => each e (List.mem_filter.mp member).1) read
  · cases read

theorem ofList_plain {items : List Reading} (each : ∀ r ∈ items, r.Plain) {kind : NodeKind}
    {n : NodeDef} (read : ofList kind items = .ok n) : Plain n.sites := by
  unfold ofList at read
  obtain ⟨-, -, read⟩ := bind_eq_ok.mp read
  have built : build ((fieldSpecs kind).map (·.name) |>.zip items) kind = .ok n := by
    dsimp only at read
    split at read
    · cases read
    · split at read
      · cases read
      · exact read
  exact build_plain (fun f member => each f.2 (List.of_mem_zip member).2) built

theorem ofItems_plain {items : List Reading} (each : ∀ r ∈ items, r.Plain) {n : NodeDef}
    (read : ofItems items = .ok n) : Plain n.sites := by
  cases items with
  | nil => cases read
  | cons tag rest =>
    obtain ⟨kind, -, read⟩ := bind_eq_ok.mp read
    exact ofList_plain (fun r member => each r (List.mem_cons_of_mem _ member)) read

theorem plain_levelSites {nodes : List NodeDef} :
    Plain (levelSites nodes) ↔ ∀ n ∈ nodes, Plain n.sites := by
  induction nodes with
  | nil => simp [levelSites]
  | cons n rest ih => simp [levelSites, ih]

end NodeDef

namespace Reading

theorem ofScalar_plain {c : Content} (finite : c.Finite) : (ofScalar c).Plain where
  content := finite
  condition := nofun
  children := nofun
  node := nofun
  nodes := nofun

theorem child_plain {r : Reading} (plain : r.Plain) {c : ConditionDef}
    (read : r.child = some (some c)) : RulePipeline.Plain c.sites := by
  unfold child at read
  split at read
  · cases read
  · obtain ⟨d, here, same⟩ := Option.map_eq_some_iff.mp read
    cases same
    exact plain.condition c here

theorem ofSeq_plain {c : Content} (finite : c.Finite) {items : List Reading}
    (each : ∀ r ∈ items, r.Plain) : (ofSeq c items).Plain where
  content := finite
  condition := nofun
  children := fun _ read _ member =>
    have ⟨r, there, child⟩ := mem_of_mapM_some read _ member
    child_plain (each r there) child
  node := fun _ read => NodeDef.ofItems_plain each read
  nodes := fun _ read => NodeDef.plain_levelSites.mpr fun n member =>
    have ⟨r, there, node⟩ := mem_of_mapM_ok read n member
    (each r there).node n node

theorem ofMap_plain {c : Content} (finite : c.Finite) {entries : List (Content × Reading)}
    (each : ∀ e ∈ entries, e.2.Plain) : (ofMap c entries).Plain where
  content := finite
  condition := fun _ read => ConditionDef.ofEntries?_plain each read
  children := nofun
  node := fun _ read => NodeDef.ofTagged_plain each read
  nodes := nofun

end Reading

namespace Content

mutual

theorem reading_plain : (c : Content) → c.Finite → c.reading.Plain
  | .null, finite | .bool _, finite | .int _ _, finite | .float _, finite | .str _, finite =>
    Reading.ofScalar_plain finite
  | .seq items, finite => Reading.ofSeq_plain finite (readings_plain items finite)
  | .map entries, finite => Reading.ofMap_plain finite (entryReadings_plain entries finite)

theorem readings_plain : (items : List Content) → FiniteItems items →
    ∀ r ∈ readings items, r.Plain
  | [], _ => fun _ member => absurd member List.not_mem_nil
  | c :: rest, ⟨first, later⟩ =>
    List.forall_mem_cons.mpr ⟨reading_plain c first, readings_plain rest later⟩

theorem entryReadings_plain : (entries : List (Content × Content)) → FiniteEntries entries →
    ∀ e ∈ entryReadings entries, e.2.Plain
  | [], _ => fun _ member => absurd member List.not_mem_nil
  | (_, c) :: rest, ⟨first, later⟩ =>
    List.forall_mem_cons.mpr ⟨reading_plain c first, entryReadings_plain rest later⟩

end

end Content

theorem ConditionDef.ofContent_plain {c : Content} (finite : c.Finite) {d : ConditionDef}
    (read : ofContent c = .ok d) : Plain d.sites := by
  have plain := Content.reading_plain c finite
  unfold ofContent Reading.condition at read
  split at read
  · rename_i here
    cases read
    exact plain.condition _ here
  · cases read

namespace PipelineDef

theorem node_of_topNode {r : Reading} {n : NodeDef} (read : topNode r = .ok n) :
    r.node = .ok n := by
  unfold topNode at read
  dsimp only at read
  split at read
  · cases read
  · exact read

theorem topNodes_plain {r : Reading} (finite : r.content.Finite) {nodes : List NodeDef}
    (read : topNodes r = .ok nodes) : Plain (NodeDef.levelSites nodes) := by
  unfold topNodes at read
  split at read
  · rename_i items is_seq
    rw [is_seq] at finite
    refine NodeDef.plain_levelSites.mpr fun n member => ?_
    obtain ⟨item, there, top⟩ := mem_of_mapM_ok read n member
    exact (Content.readings_plain items finite item there).node n (node_of_topNode top)
  · cases read

/-- The nodes are read alike with a description and without one. -/
theorem built_nodes_plain {fields : NodeDef.Fields} (each : ∀ f ∈ fields, f.2.Plain)
    {name description : String} {d : PipelineDef} (built : (do
      let nodes ← match Entries.find? "nodes" fields with
        | some r => topNodes r
        | none => pure []
      return { name, description, nodes }) = Except.ok d) : Plain d.sites := by
  dsimp only at built
  split at built
  · rename_i r found
    obtain ⟨nodes, read, rfl⟩ := bind_pure_eq_ok.mp built
    exact topNodes_plain (each _ (Entries.mem_of_find? found)).content read
  · cases built
    exact plain_nil

theorem build_plain {fields : NodeDef.Fields} (each : ∀ f ∈ fields, f.2.Plain) {d : PipelineDef}
    (built : build fields = .ok d) : Plain d.sites := by
  obtain ⟨name, -, built⟩ := bind_eq_ok.mp built
  dsimp only at built
  split at built
  · obtain ⟨description, -, built⟩ := bind_eq_ok.mp built
    exact built_nodes_plain each built
  · exact built_nodes_plain each built

theorem ofContent_plain {c : Content} (finite : c.Finite) {d : PipelineDef}
    (read : ofContent c = .ok d) : Plain d.sites := by
  cases c with
  | map entries =>
    obtain ⟨fields, named, read⟩ := bind_eq_ok.mp read
    obtain ⟨-, -, built⟩ := bind_eq_ok.mp read
    refine build_plain (fun f member => ?_) built
    obtain ⟨e, there, same⟩ := Content.mem_of_members named f member
    exact same ▸ Content.entryReadings_plain entries finite e there
  | seq items =>
    obtain ⟨-, -, read⟩ := bind_eq_ok.mp read
    dsimp only at read
    split at read
    · cases read
    · split at read
      · cases read
      · have each := Content.readings_plain items finite
        exact build_plain (fun f member => each f.2 (List.of_mem_zip member).2) read
  | _ => cases read

end PipelineDef

end RulePipeline
