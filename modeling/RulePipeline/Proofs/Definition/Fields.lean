import RulePipeline.Definition.Read
import RulePipeline.Proofs.Content

/-! Reading the fields of a node. What a kind is built from is said once for each kind; the checks
that come before it refuse nothing that could be built, and fields of no concern change nothing. -/
namespace RulePipeline.NodeDef

section Field

variable {α : Type} {read : Reading → Except SchemaFault α} {fields : Fields} {name : String}
  {r : Reading}

theorem required_eq_ok {a : α} :
    required read fields name = .ok a ↔
      ∃ r, Entries.find? name fields = some r ∧ read r = .ok a := by
  unfold required
  cases Entries.find? name fields <;> simp

theorem optional_eq_ok {a : α} (result : optional read fields name = .ok (some a)) :
    ∃ r, Entries.find? name fields = some r ∧ read r = .ok a := by
  unfold optional at result
  split at result
  · rename_i r found
    refine ⟨r, found, ?_⟩
    unfold Reading.optional at result
    split at result
    · cases result
    · obtain ⟨b, here, same⟩ := map_eq_ok.mp result
      cases same
      exact here
  · cases result

theorem discard_of_ok {x : Except SchemaFault α} {a : α} (result : x = .ok a) :
    discard x = .ok () := by
  rw [result]
  rfl

theorem required_checked {a : α} (result : required read fields name = .ok a) :
    ∀ r, Entries.find? name fields = some r → discard (read r) = .ok () := by
  intro r found
  rw [required, found] at result
  exact discard_of_ok result

theorem optional_checked {a : Option α} (result : optional read fields name = .ok a) :
    ∀ r, Entries.find? name fields = some r → discard (r.optional read) = .ok () := by
  intro r found
  rw [optional, found] at result
  exact discard_of_ok result

theorem flag_checked {b : Bool} (result : flag fields name = .ok b) :
    ∀ r, Entries.find? name fields = some r → discard r.flag = .ok () := by
  intro r found
  rw [flag, found] at result
  exact discard_of_ok result

end Field

section Build

variable {fields other : Fields} {kind : NodeKind} {n : NodeDef}

theorem build_query : build fields .query = .ok n ↔
    ∃ source, required Reading.text fields "data_source" = .ok source ∧
    ∃ params, optional Reading.term fields "params" = .ok params ∧
    ∃ saveTo, required Reading.text fields "save_to" = .ok saveTo ∧
      .query source params saveTo = n := by
  simp only [build, bind_eq_ok, pure_eq_ok]

theorem build_branch : build fields .branch = .ok n ↔
    ∃ condition, required Reading.condition fields "condition" = .ok condition ∧
    ∃ onTrue, optional Reading.nodes fields "on_true" = .ok onTrue ∧
    ∃ onFalse, optional Reading.nodes fields "on_false" = .ok onFalse ∧
    ∃ isolated, flag fields "clone_context" = .ok isolated ∧
      .branch condition onTrue onFalse isolated = n := by
  simp only [build, bind_eq_ok, pure_eq_ok]

theorem build_ret : build fields .ret = .ok n ↔
    ∃ value, required Reading.term fields "value" = .ok value ∧ .ret value = n := by
  simp only [build, bind_eq_ok, pure_eq_ok]

theorem build_filter : build fields .filter = .ok n ↔
    ∃ source, required Reading.term fields "source" = .ok source ∧
    ∃ condition, required Reading.condition fields "condition" = .ok condition ∧
    ∃ exclude, flag fields "exclude" = .ok exclude ∧
    ∃ elementName, optional Reading.text fields "element_name" = .ok elementName ∧
    ∃ saveTo, required Reading.text fields "save_to" = .ok saveTo ∧
      .filter source condition exclude elementName saveTo = n := by
  simp only [build, bind_eq_ok, pure_eq_ok]

theorem build_fold : build fields .fold = .ok n ↔
    ∃ source, required Reading.term fields "source" = .ok source ∧
    ∃ start, optional Reading.term fields "start" = .ok start ∧
    ∃ aggregator, required Reading.text fields "aggregator" = .ok aggregator ∧
    ∃ rightToLeft, flag fields "right_to_left" = .ok rightToLeft ∧
    ∃ saveTo, required Reading.text fields "save_to" = .ok saveTo ∧
      .fold source start aggregator rightToLeft saveTo = n := by
  simp only [build, bind_eq_ok, pure_eq_ok]

theorem check_of_build (built : build fields kind = .ok n) :
    ∀ spec ∈ fieldSpecs kind, ∀ r, Entries.find? spec.name fields = some r →
      spec.type.check r = .ok () := by
  cases kind with
  | query =>
    obtain ⟨_, source, _, params, _, saveTo, -⟩ := build_query.mp built
    simp only [fieldSpecs, List.forall_mem_cons]
    exact ⟨required_checked source, optional_checked params, required_checked saveTo, nofun⟩
  | branch =>
    obtain ⟨_, condition, _, onTrue, _, onFalse, _, isolated, -⟩ := build_branch.mp built
    simp only [fieldSpecs, List.forall_mem_cons]
    exact ⟨required_checked condition, optional_checked onTrue, optional_checked onFalse,
      flag_checked isolated, nofun⟩
  | ret =>
    obtain ⟨_, value, -⟩ := build_ret.mp built
    simp only [fieldSpecs, List.forall_mem_cons]
    exact ⟨required_checked value, nofun⟩
  | filter =>
    obtain ⟨_, source, _, condition, _, exclude, _, elementName, _, saveTo, -⟩ :=
      build_filter.mp built
    simp only [fieldSpecs, List.forall_mem_cons]
    exact ⟨required_checked source, required_checked condition, flag_checked exclude,
      optional_checked elementName, required_checked saveTo, nofun⟩
  | fold =>
    obtain ⟨_, source, _, start, _, aggregator, _, rightToLeft, _, saveTo, -⟩ :=
      build_fold.mp built
    simp only [fieldSpecs, List.forall_mem_cons]
    exact ⟨required_checked source, optional_checked start, required_checked aggregator,
      flag_checked rightToLeft, required_checked saveTo, nofun⟩
  | stop => exact nofun

theorem checkFields_ok {specs : List FieldSpec}
    (each : ∀ f ∈ fields, ∀ spec ∈ specs, spec.name = f.1 → spec.type.check f.2 = .ok ()) :
    checkFields specs fields = .ok () := by
  induction fields with
  | nil => rfl
  | cons f rest ih =>
    have ⟨here, later⟩ := List.forall_mem_cons.mp each
    rw [checkFields, ih later]
    split
    · rename_i spec found
      have named : spec.name = f.1 := by simpa using List.find?_some found
      rw [here spec (List.mem_of_find?_eq_some found) named]
      rfl
    · rfl

theorem build_congr
    (same : ∀ spec ∈ fieldSpecs kind,
      Entries.find? spec.name fields = Entries.find? spec.name other) :
    build fields kind = build other kind := by
  cases kind <;>
    simp only [fieldSpecs, List.forall_mem_cons] at same <;>
    simp only [build, required, optional, flag, same]

theorem ofEntries_named (sorted : Entries.Sorted fields) (built : build fields kind = .ok n) :
    ofEntries kind (Content.named fields) = .ok n := by
  unfold ofEntries
  split
  · rename_i is_stop
    subst is_stop
    exact built
  · let known : Fields := fields.filter (·.1 ∈ (fieldSpecs kind).map (·.name))
    have kept : ∀ spec ∈ fieldSpecs kind,
        Entries.find? spec.name known = Entries.find? spec.name fields := fun spec member =>
      Content.find?_known (List.mem_map_of_mem member)
    have checked : checkFields (fieldSpecs kind) known = .ok () := by
      refine checkFields_ok fun f member spec among same => ?_
      have found := Entries.find?_of_mem sorted (List.mem_filter.mp member).1
      exact check_of_build built spec among f.2 (same ▸ found)
    have built : build known kind = .ok n := build_congr kept ▸ built
    dsimp only
    rw [Content.members_named sorted]
    exact bind_eq_ok.mpr ⟨known, rfl, bind_eq_ok.mpr ⟨(), checked, built⟩⟩

theorem kindOf_text (k : NodeKind) : kindOf (.str k.text) = .ok k := by
  cases k <;> rfl

theorem field_ne_tag : ∀ spec ∈ fieldSpecs kind, spec.name ≠ "kind" := by
  cases kind <;> simp [fieldSpecs]

theorem ofTagged_named (sorted : Entries.Sorted fields) {tag : Reading}
    (tagged : Entries.find? "kind" fields = some tag) (named : tag.content = .str kind.text)
    (built : build fields kind = .ok n) : ofTagged (Content.named fields) = .ok n := by
  have tags : (Content.named fields).filter (isTag ·.1) = [(.str "kind", tag)] := by
    rw [Content.named, List.filter_map]
    exact congrArg (Content.named ·) (Entries.filter_of_find? sorted tagged)
  let others : Fields := fields.filter (fun f => !decide (f.1 = "kind"))
  have rest : (Content.named fields).filter (!isTag ·.1) = Content.named others := by
    rw [Content.named, List.filter_map]
    rfl
  have kept : ∀ spec ∈ fieldSpecs kind,
      Entries.find? spec.name others = Entries.find? spec.name fields := fun spec member =>
    Entries.find?_filter (p := fun name => !decide (name = "kind"))
      (by simpa using field_ne_tag spec member)
  have built : build others kind = .ok n := build_congr kept ▸ built
  unfold ofTagged
  rw [tags, rest]
  dsimp only
  rw [named, kindOf_text]
  exact ofEntries_named (sorted.filter _) built

end Build

end RulePipeline.NodeDef
