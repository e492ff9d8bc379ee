import RulePipeline.Proofs.Definition.Written

/-! Definitions read back from what they are written as. Each field is found under its name and
read as it was, so that a plain definition comes back whole. -/
namespace RulePipeline

namespace Content

theorem reading_content (c : Content) : c.reading.content = c := by
  cases c with
  | seq items => rw [reading, Reading.ofSeq]
  | map entries => rw [reading, Reading.ofMap]
  | _ => rfl

theorem entryReadings_named (fields : List (String × Content)) :
    entryReadings (named fields) = named (Entries.map reading fields) := by
  induction fields with
  | nil => rfl
  | cons f rest ih => exact congrArg ((.str f.1, f.2.reading) :: ·) ih

/-- What is known of a written record is found under its name. -/
theorem known_ofJson {members : List (String × Json)} (sorted : Entries.Sorted members)
    (names : List String) : ∃ fields, Content.members names (ofJsonMembers members) = .ok fields ∧
      ∀ name ∈ names, Entries.find? name fields = (Entries.find? name members).map ofJson := by
  refine ⟨_, ofJsonMembers_eq members ▸ members_named sorted.map, fun name known => ?_⟩
  rw [find?_known known, Entries.find?_map]

end Content

theorem find?_optionalMember (name other : String) (j : Option Json) :
    Entries.find? other (optionalMember name j) = if name = other then j else none := by
  cases j <;> simp [optionalMember]

theorem Kind.ofContent_text (k : Kind) : Kind.ofContent (.str k.text) = .ok k := by
  cases k with
  | int kind => cases kind <;> rfl
  | _ => rfl

theorem GetterDef.ofContent?_text (g : GetterDef) :
    GetterDef.ofContent? (.str g.text) = some g := by
  cases g <;> rfl

theorem Relation.ofContent_name (r : Relation) : Relation.ofContent (.str r.name) = .ok r := by
  cases r <;> rfl

namespace TermDef

theorem optionalField_written {α : Type} {read : Content → Option α} {write : α → Json}
    {name : String} {fields : List (String × Content)} {a : Option α}
    (found : Entries.find? name fields = (a.map write).map .ofJson)
    (back : ∀ b, a = some b → write b ≠ .null ∧ read (.ofJson (write b)) = some b) :
    optionalField read name fields = some a := by
  cases a with
  | none => simp [optionalField, found]
  | some b =>
    obtain ⟨something, back⟩ := back b rfl
    have not_null : Content.ofJson (write b) ≠ .null := mt Content.ofJson_eq_null.mp something
    unfold optionalField
    split
    · simp_all
    · simp_all
    · rename_i c _ here
      cases here.symm.trans found
      rw [back, Option.map_some]

theorem literal?_toJson {json : Json} {kind : Option Kind} (plain : (literal json kind).Plain)
    {members : List (String × Json)} (written : (literal json kind).toJson = .obj members) :
    literal? (Content.ofJsonMembers members) = some (.literal json kind) := by
  have ordered : (Json.obj members).Ordered := written ▸ toJson_ordered plain
  obtain ⟨fields, read, found⟩ := Content.known_ofJson ordered.1 ["literal", "type"]
  cases written
  have here : Entries.find? "literal" fields = some (.ofJson json) := by
    simp [found]
  have there : Entries.find? "type" fields = (kind.map fun k => .str k.text).map .ofJson := by
    simp [found, find?_optionalMember]
  have type : optionalField (fun c => (Kind.ofContent c).toOption) "type" fields = some kind := by
    refine optionalField_written there fun k _ => ⟨nofun, ?_⟩
    rw [Content.ofJson, Kind.ofContent_text, toOption_ok]
  have document : (Content.ofJson json).toJson? = some json := Content.toJson?_ofJson json plain
  rw [literal?, read]
  simp [here, type, document]

theorem context?_toJson {name : String} {getter : Option GetterDef} {key value : Option Json}
    (plain : (context name getter key value).Plain) {members : List (String × Json)}
    (written : (context name getter key value).toJson = .obj members) :
    context? (Content.ofJsonMembers members) = some (.context name getter key value) := by
  have ordered : (Json.obj members).Ordered := written ▸ toJson_ordered plain
  obtain ⟨fields, read, found⟩ :=
    Content.known_ofJson ordered.1 ["context", "getter", "key", "value"]
  cases written
  have here : Entries.find? "context" fields = some (.str name) := by
    simp [found, Content.ofJson]
  have at_getter : Entries.find? "getter" fields =
      (getter.map fun g => .str g.text).map .ofJson := by
    simp [found, Entries.find?_append, find?_optionalMember]
  have at_key : Entries.find? "key" fields = (key.map id).map .ofJson := by
    simp [found, Entries.find?_append, find?_optionalMember]
  have at_value : Entries.find? "value" fields = (value.map id).map .ofJson := by
    simp [found, Entries.find?_append, find?_optionalMember]
  have getter_read : optionalField GetterDef.ofContent? "getter" fields = some getter :=
    optionalField_written at_getter fun g _ => ⟨nofun, GetterDef.ofContent?_text g⟩
  have key_read : optionalField Content.toJson? "key" fields = some key :=
    optionalField_written at_key fun j same =>
      have ⟨ordered, something⟩ := plain.1 j same
      ⟨something, Content.toJson?_ofJson j ordered⟩
  have value_read : optionalField Content.toJson? "value" fields = some value :=
    optionalField_written at_value fun j same =>
      have ⟨ordered, something⟩ := plain.2 j same
      ⟨something, Content.toJson?_ofJson j ordered⟩
  rw [context?, read]
  simp [here, getter_read, key_read, value_read]

/-- A context read is no literal. -/
theorem literal?_context {name : String} {getter : Option GetterDef} {key value : Option Json}
    (plain : (context name getter key value).Plain) {members : List (String × Json)}
    (written : (context name getter key value).toJson = .obj members) :
    literal? (Content.ofJsonMembers members) = none := by
  have ordered : (Json.obj members).Ordered := written ▸ toJson_ordered plain
  obtain ⟨fields, read, found⟩ := Content.known_ofJson ordered.1 ["literal", "type"]
  cases written
  have absent : Entries.find? "literal" fields = none := by
    simp [found, Entries.find?_append, find?_optionalMember]
  rw [literal?, read]
  simp [absent]

theorem ofContent?_toJson {t : TermDef} (plain : t.Plain) :
    ofContent? (.ofJson t.toJson) = some t := by
  cases t with
  | literal json kind => exact congrArg (Option.or · _) (literal?_toJson plain rfl)
  | context name getter key value =>
    have no_literal := literal?_context plain rfl
    have context := context?_toJson plain rfl
    exact (congrArg (Option.or · _) no_literal).trans context

theorem ofContent_toJson {t : TermDef} (plain : t.Plain) :
    ofContent (.ofJson t.toJson) = .ok t := by
  rw [ofContent, ofContent?_toJson plain]

end TermDef

namespace ConditionDef

/-- What is known of a written leaf is found under its name. -/
theorem leafFields?_ofJson {members : List (String × Json)} (ordered : (Json.obj members).Ordered)
    (names : List String) : ∃ fields, leafFields? names (.ofJson (.obj members)) = some fields ∧
      ∀ name ∈ names, Entries.find? name fields = (Entries.find? name members).map .ofJson := by
  obtain ⟨fields, read, found⟩ := Content.known_ofJson ordered.1 names
  exact ⟨fields, congrArg Except.toOption read, found⟩

theorem compare?_ofJson {lhs rhs : TermDef} {r : Relation}
    (plain : Plain (compare lhs r rhs).sites) :
    compare? (.ofJson (.obj [("lhs", lhs.toJson), ("op", .str r.name), ("rhs", rhs.toJson)])) =
      some (.compare lhs r rhs) := by
  have ordered := (toJson_ordered _ plain).2.1
  obtain ⟨fields, read, found⟩ := leafFields?_ofJson ordered ["lhs", "op", "rhs"]
  simp only [sites, plain_relation, plain_term] at plain
  rw [compare?, read]
  simp [found, TermDef.ofContent?_toJson, plain, Content.ofJson, Relation.ofContent_name]

theorem custom?_ofJson {name : String} {lhs rhs : TermDef}
    (plain : Plain (custom name lhs rhs).sites) :
    custom? (.ofJson (.obj [("lhs", lhs.toJson), ("name", .str name), ("rhs", rhs.toJson)])) =
      some (.custom name lhs rhs) := by
  have ordered := (toJson_ordered _ plain).2.1
  obtain ⟨fields, read, found⟩ := leafFields?_ofJson ordered ["name", "lhs", "rhs"]
  simp only [sites, plain_comparison, plain_term] at plain
  rw [custom?, read]
  simp [found, TermDef.ofContent?_toJson, plain, Content.ofJson]

theorem sole?_single (name other : String) (r : Reading) :
    sole? name [(.str other, r)] = if other = name then some r else none := by
  have sorted : Entries.Sorted [(other, r)] := List.pairwise_singleton _ _
  have read : Content.members [name] [(.str other, r)] = .ok ([(other, r)].filter (·.1 ∈ [name])) :=
    Content.members_named sorted
  rw [sole?, read]
  by_cases same : other = name <;> simp [same]

theorem child_of_condition? {r : Reading} {c : ConditionDef} (read : r.condition? = some c)
    (something : r.content ≠ .null) : r.child = some (some c) := by
  unfold Reading.child
  split
  · exact absurd ‹_› something
  · rw [read, Option.map_some]

theorem toJson_ne_null (c : ConditionDef) : c.toJson ≠ .null := by
  cases c <;> simp [toJson]

theorem condition?_single (name : String) (j : Json) :
    (Content.ofJson (.obj [(name, j)])).reading.condition? =
      ofEntries? [(.str name, (Content.ofJson j).reading)] := rfl

theorem children?_arr (items : List Json) :
    (Content.ofJson (.arr items)).reading.children? =
      (Content.readings (Content.ofJsonItems items)).mapM Reading.child := rfl

mutual

theorem condition?_toJson : (c : ConditionDef) → Plain c.sites →
    (Content.ofJson c.toJson).reading.condition? = some c
  | .compare lhs r rhs, plain => by
    rw [toJson, condition?_single]
    simp [ofEntries?, sole?_single, Content.reading_content, compare?_ofJson plain]
  | .all children, plain => by
    rw [toJson, condition?_single]
    simp [ofEntries?, sole?_single, children?_arr, children?_toJson children plain]
  | .any children, plain => by
    rw [toJson, condition?_single]
    simp [ofEntries?, sole?_single, children?_arr, children?_toJson children plain]
  | .not child, plain => by
    rw [toJson, condition?_single]
    simp [ofEntries?, sole?_single, condition?_toJson child plain]
  | .custom name lhs rhs, plain => by
    rw [toJson, condition?_single]
    simp [ofEntries?, sole?_single, Content.reading_content, custom?_ofJson plain]

theorem children?_toJson : (children : List (Option ConditionDef)) → {index : Nat} →
    Plain (childSites index children) →
    (Content.readings (Content.ofJsonItems (toJsonChildren children))).mapM Reading.child =
      some children
  | [], _, _ => rfl
  | none :: rest, _, plain => by
    have later := children?_toJson rest (plain_gap.mp plain)
    rw [toJsonChildren, Content.ofJsonItems, Content.readings, List.mapM_cons, later]
    rfl
  | some c :: rest, _, plain => by
    have ⟨first, after⟩ := plain_append.mp plain
    have later := children?_toJson rest after
    have something : (Content.ofJson c.toJson).reading.content ≠ .null := by
      rw [Content.reading_content]
      exact mt Content.ofJson_eq_null.mp c.toJson_ne_null
    have here := child_of_condition? (condition?_toJson c first) something
    rw [toJsonChildren, Content.ofJsonItems, Content.readings, List.mapM_cons, here, later]
    rfl

end

theorem ofContent_toJson {c : ConditionDef} (plain : Plain c.sites) :
    ofContent (.ofJson c.toJson) = .ok c := by
  rw [ofContent, Reading.condition, c.condition?_toJson plain]

end ConditionDef

namespace NodeDef

/-- The readings of a written node's fields. -/
def written (members : List (String × Json)) : Fields :=
  Entries.map (fun j => (Content.ofJson j).reading) members

theorem entryReadings_ofJson (members : List (String × Json)) :
    Content.entryReadings (Content.ofJsonMembers members) = Content.named (written members) := by
  rw [Content.ofJsonMembers_eq, Content.entryReadings_named]
  simp [written, Entries.map, Function.comp_def]

theorem node_of_build (kind : NodeKind) {members : List (String × Json)}
    (ordered : (Json.obj members).Ordered)
    (tag : Entries.find? "kind" members = some (.str kind.text)) {n : NodeDef}
    (built : build (written members) kind = .ok n) :
    (Content.ofJson (.obj members)).reading.node = .ok n := by
  have tagged : Entries.find? "kind" (written members) = some (Content.str kind.text).reading := by
    rw [written, Entries.find?_map, tag]
    rfl
  have read := ofTagged_named (Entries.Sorted.map ordered.1) tagged rfl built
  rw [Content.ofJson, Content.reading, Reading.ofMap, entryReadings_ofJson]
  exact read

@[simp] theorem find?_written (name : String) (members : List (String × Json)) :
    Entries.find? name (written members) =
      (Entries.find? name members).map fun j => (Content.ofJson j).reading :=
  Entries.find?_map _ name members

@[simp] theorem text_written (s : String) : (Content.ofJson (.str s)).reading.text = .ok s := rfl

theorem term_written {t : TermDef} (plain : t.Plain) :
    (Content.ofJson t.toJson).reading.term = .ok t := by
  rw [Reading.term, Content.reading_content, TermDef.ofContent_toJson plain]

theorem optional_something {α : Type} {read : Reading → Except SchemaFault α} {j : Json} {a : α}
    (something : j ≠ .null) (back : read (Content.ofJson j).reading = .ok a) :
    (Content.ofJson j).reading.optional read = .ok (some a) := by
  have not_null := mt Content.ofJson_eq_null.mp something
  unfold Reading.optional
  split
  · rename_i null
    rw [Content.reading_content] at null
    exact absurd null not_null
  · rw [back]
    rfl

theorem optionalTerm_written {t : Option TermDef} (plain : Plain (termSites t)) :
    (Content.ofJson (optionalTerm t)).reading.optional Reading.term = .ok t := by
  cases t with
  | none => rfl
  | some t =>
    have something : t.toJson ≠ .null := by cases t <;> simp [TermDef.toJson]
    exact optional_something something (term_written (plain_term.mp plain).1)

theorem optionalText_written (s : Option String) :
    (Content.ofJson ((s.map Json.str).getD .null)).reading.optional Reading.text = .ok s := by
  cases s <;> rfl

theorem readings_toJsonNodes (nodes : List NodeDef) :
    Content.readings (Content.ofJsonItems (toJsonNodes nodes)) =
      nodes.map fun n => (Content.ofJson n.toJson).reading := by
  induction nodes with
  | nil => rfl
  | cons n rest ih => exact congrArg ((Content.ofJson n.toJson).reading :: ·) ih

theorem nodes_written {nodes : List NodeDef}
    (each : ∀ n ∈ nodes, (Content.ofJson n.toJson).reading.node = .ok n) :
    (Content.ofJson (.arr (toJsonNodes nodes))).reading.nodes = .ok nodes :=
  (congrArg (·.mapM (·.node)) (readings_toJsonNodes nodes)).trans (mapM_map_pure each)

theorem condition_read {c : ConditionDef} (plain : Plain c.sites) :
    (Content.ofJson c.toJson).reading.condition = .ok c :=
  ConditionDef.ofContent_toJson plain

mutual

theorem node_toJson : (n : NodeDef) → Plain n.sites →
    (Content.ofJson n.toJson).reading.node = .ok n
  | .query source params saveTo, plain =>
    node_of_build .query (toJson_ordered _ plain) rfl (build_query.mpr
      ⟨source, rfl, params, optionalTerm_written plain, saveTo, rfl, rfl⟩)
  | .branch condition onTrue onFalse isolated, plain =>
    have ⟨first, sides⟩ := plain_append.mp plain
    have ⟨one, other⟩ := plain_append.mp sides
    node_of_build .branch (toJson_ordered _ plain) rfl (build_branch.mpr
      ⟨condition, condition_read first, onTrue, nodes_toJsonSide onTrue one,
        onFalse, nodes_toJsonSide onFalse other, isolated, rfl, rfl⟩)
  | .ret value, plain =>
    have ⟨here, _⟩ := plain_term.mp plain
    node_of_build .ret (toJson_ordered _ plain) rfl (build_ret.mpr
      ⟨value, term_written here, rfl⟩)
  | .filter source condition exclude elementName saveTo, plain =>
    have ⟨first, later⟩ := plain_term.mp plain
    node_of_build .filter (toJson_ordered _ plain) rfl (build_filter.mpr
      ⟨source, term_written first, condition, condition_read later, exclude, rfl,
        elementName, optionalText_written elementName, saveTo, rfl, rfl⟩)
  | .fold source start aggregator rightToLeft saveTo, plain =>
    have ⟨first, later⟩ := plain_append.mp plain
    have ⟨later, _⟩ := plain_term.mp later
    node_of_build .fold (toJson_ordered _ plain) rfl (build_fold.mpr
      ⟨source, term_written later, start, optionalTerm_written first, aggregator, rfl,
        rightToLeft, rfl, saveTo, rfl, rfl⟩)
  | .stop, plain => node_of_build .stop (toJson_ordered _ plain) rfl rfl

theorem nodes_toJsonSide : (side : Option (List NodeDef)) → Plain (sideSites side) →
    (Content.ofJson (toJsonSide side)).reading.optional Reading.nodes = .ok side
  | none, _ => rfl
  | some nodes, plain => optional_something nofun (nodes_written (each_node_toJson nodes plain))

theorem each_node_toJson : (nodes : List NodeDef) → Plain (levelSites nodes) →
    ∀ n ∈ nodes, (Content.ofJson n.toJson).reading.node = .ok n
  | [], _ => nofun
  | n :: rest, plain =>
    have ⟨first, later⟩ := plain_append.mp plain
    List.forall_mem_cons.mpr ⟨node_toJson n first, each_node_toJson rest later⟩

end

end NodeDef

namespace PipelineDef

theorem topNode_toJson {n : NodeDef} (plain : Plain n.sites) :
    topNode (Content.ofJson n.toJson).reading = .ok n := by
  have by_name : topNode (Content.ofJson n.toJson).reading =
      (Content.ofJson n.toJson).reading.node := by
    cases n <;> rfl
  rw [by_name, NodeDef.node_toJson n plain]

theorem topNodes_toJson {nodes : List NodeDef} (plain : Plain (NodeDef.levelSites nodes)) :
    topNodes (Content.ofJson (.arr (NodeDef.toJsonNodes nodes))).reading = .ok nodes := by
  have each : ∀ n ∈ nodes, topNode (Content.ofJson n.toJson).reading = pure n := fun n member =>
    topNode_toJson (NodeDef.plain_levelSites.mp plain n member)
  exact (congrArg (·.mapM topNode) (NodeDef.readings_toJsonNodes nodes)).trans (mapM_map_pure each)

theorem ofJson_toJson {d : PipelineDef} (plain : Plain d.sites) : ofJson d.toJson = .ok d := by
  let members : List (String × Json) := [("description", .str d.description),
    ("name", .str d.name), ("nodes", .arr (NodeDef.toJsonNodes d.nodes))]
  have ordered : (Json.obj members).Ordered := toJson_ordered plain
  have top := topNodes_toJson plain
  have named : Content.members fieldNames (Content.entryReadings (Content.ofJsonMembers members)) =
      .ok (NodeDef.written members) := by
    have sorted : Entries.Sorted (NodeDef.written members) := ordered.1.map
    rw [NodeDef.entryReadings_ofJson, Content.members_named sorted]
    rfl
  have nodes_checked : checkField "nodes" (Content.ofJson
      (.arr (NodeDef.toJsonNodes d.nodes))).reading = .ok () := NodeDef.discard_of_ok top
  have checked : checkFields (NodeDef.written members) = .ok () :=
    bind_eq_ok.mpr ⟨(), rfl, bind_eq_ok.mpr ⟨(), rfl, bind_eq_ok.mpr ⟨(), nodes_checked, rfl⟩⟩⟩
  have built : build (NodeDef.written members) = .ok d := by
    simp only [build, members, NodeDef.required, NodeDef.find?_written, Entries.find?_cons,
      String.reduceEq, reduceIte, Option.map_some, NodeDef.text_written, top]
    rfl
  exact bind_eq_ok.mpr ⟨_, named, bind_eq_ok.mpr ⟨(), checked, built⟩⟩

end PipelineDef

end RulePipeline
