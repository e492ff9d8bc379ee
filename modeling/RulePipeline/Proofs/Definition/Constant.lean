import RulePipeline.Definition.Compile
import RulePipeline.Proofs.Definition.RoundTrip

/-! The two ways to write a constant: as a literal, or as what a getter gives that does not look at
its input. They mean the same for every document but null, which is a literal like any other, but
stands for no constant at all. -/
namespace RulePipeline.TermDef

/-- The document is read and compiled, and in this context the term has this value. -/
def Gives (document : Json) (context : Context) (v : Value) : Prop :=
  ∃ d t, ofContent (.ofJson document) = .ok d ∧ d.compile = .ok t ∧ t.eval context = .ok v

def literalDocument (json : Json) : Json := .obj [("literal", json)]

def constantDocument (name : String) (json : Json) : Json :=
  .obj [("context", .str name), ("getter", .str GetterDef.constant.text), ("value", json)]

variable {json : Json} {name : String} {context : Context}

theorem literal_read (ordered : json.Ordered) :
    ofContent (.ofJson (literalDocument json)) = .ok (.literal json none) := by
  have plain : (literal json none).Plain := ordered
  exact ofContent_toJson plain

theorem constant_read (ordered : json.Ordered) (something : json ≠ .null) :
    ofContent (.ofJson (constantDocument name json)) =
      .ok (.context name (some .constant) none (some json)) := by
  have plain : (TermDef.context name (some .constant) none (some json)).Plain := by
    refine ⟨nofun, fun j same => ?_⟩
    cases same
    exact ⟨ordered, something⟩
  exact ofContent_toJson plain

theorem constant_read_null : ofContent (.ofJson (constantDocument name .null)) =
    .ok (.context name (some .constant) none none) := rfl

theorem literal_gives (ordered : json.Ordered) (context : Context) :
    Gives (literalDocument json) context (.ofJson json) :=
  ⟨_, .literal (.ofJson json), literal_read ordered, rfl, rfl⟩

theorem constant_gives (ordered : json.Ordered) (something : json ≠ .null) (named : name ≠ "")
    (present : (context.find? name).isSome) :
    Gives (constantDocument name json) context (.ofJson json) := by
  refine ⟨_, .project name (.constant (.ofJson json)) (some .nil),
    constant_read ordered something, rfl, ?_⟩
  obtain ⟨entry, found⟩ := Option.isSome_iff_exists.mp present
  rw [Term.eval, Term.lookup, if_neg named, found]
  rfl

theorem constant_null_gives_nothing (v : Value) :
    ¬ Gives (constantDocument name .null) context v := by
  rintro ⟨d, t, read, compiled, -⟩
  cases constant_read_null.symm.trans read
  cases compiled

/-- Whatever document is written as a constant of an entry that the context has, it gives the value
of that document, which the literal gives too. Only a null is taken for a constant that is missing,
and the definition is refused. -/
theorem constant_agrees_with_literal (ordered : json.Ordered) (named : name ≠ "")
    (present : (context.find? name).isSome) :
    Gives (literalDocument json) context (.ofJson json) ∧
    (Gives (constantDocument name json) context (.ofJson json) ↔ json ≠ .null) ∧
    (json = .null → ∃ d, ofContent (.ofJson (constantDocument name json)) = .ok d ∧
      d.compile = .error (.missingConstant name)) := by
  refine ⟨literal_gives ordered context, ⟨?_, fun something => ?_⟩, ?_⟩
  · rintro gives rfl
    exact constant_null_gives_nothing _ gives
  · exact constant_gives ordered something named present
  · rintro rfl
    exact ⟨_, constant_read_null, rfl⟩

/-- Nulls inside of the document do no harm, and the entry itself may be nil. -/
theorem constant_agrees_with_literal_nulls_inside :
    let json : Json := .obj [("limits", .arr [.null, .num (.int 18446744073709551615 (by decide))]),
      ("note", .null)]
    let v : Value :=
      .map [("limits", .list [.nil, .int ⟨.u64, 18446744073709551615, by decide⟩]), ("note", .nil)]
    let context : Context := SortedMap.empty.insert "order" .nil
    (json.Ordered ∧ "order" ≠ "" ∧ (context.find? "order").isSome ∧ json ≠ .null) ∧
    Gives (literalDocument json) context v ∧ Gives (constantDocument "order" json) context v ∧
    Gives (literalDocument .null) context .nil ∧
    ¬ Gives (constantDocument "order" .null) context .nil ∧
    ∃ d, ofContent (.ofJson (constantDocument "order" .null)) = .ok d ∧
      d.compile = .error (.missingConstant "order") := by
  intro json v context
  have ordered : json.Ordered := by
    simp only [json, Json.Ordered, Json.OrderedMembers, Json.OrderedItems,
      Entries.sorted_cons_cons, Entries.sorted_singleton, String.reduceLT, and_self]
  have ordered_null : Json.null.Ordered := trivial
  have named : "order" ≠ "" := by decide
  have present : (context.find? "order").isSome := rfl
  have something : json ≠ .null := by simp [json]
  have value : Value.ofJson json = v := rfl
  obtain ⟨literal, constant, -⟩ := constant_agrees_with_literal ordered named present
  obtain ⟨literal_null, constant_null, refused⟩ :=
    constant_agrees_with_literal ordered_null named present
  exact ⟨⟨ordered, named, present, something⟩, value ▸ literal, value ▸ constant.mpr something,
    literal_null, fun gives => constant_null.mp gives rfl, refused rfl⟩

/-- Null is a literal, and no constant. -/
theorem null_is_no_constant :
    let context : Context := SortedMap.empty.insert "k" (.bool true)
    let d : TermDef := .context "k" (some .constant) none none
    Gives (literalDocument .null) context .nil ∧
    ofContent (.ofJson (constantDocument "k" .null)) = .ok d ∧
    d.compile = .error (.missingConstant "k") := by
  have ordered : Json.null.Ordered := trivial
  exact ⟨literal_gives ordered _, constant_read_null, rfl⟩

end RulePipeline.TermDef
