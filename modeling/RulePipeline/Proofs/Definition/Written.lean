import RulePipeline.Definition.Json
import RulePipeline.Proofs.Definition.Plain

/-! Definitions as they are written. A plain one gives a document with all members in order. -/
namespace RulePipeline

open Json (Ordered OrderedItems OrderedMembers)
open Entries (sorted_singleton sorted_cons_cons)

theorem TermDef.toJson_ordered {t : TermDef} (plain : t.Plain) : t.toJson.Ordered := by
  cases t with
  | literal json kind =>
    have document : json.Ordered := plain
    cases kind <;>
      simp only [toJson, optionalMember, Option.map, Ordered, OrderedMembers, sorted_cons_cons,
        sorted_singleton, String.reduceLT, document, and_self]
  | context name getter key value =>
    obtain ⟨key_plain, value_plain⟩ := plain
    have key_ordered {j : Json} (here : key = some j) : j.Ordered := (key_plain j here).1
    have value_ordered {j : Json} (here : value = some j) : j.Ordered := (value_plain j here).1
    cases getter <;> cases key <;> cases value <;>
      simp only [toJson, optionalMember, Option.map, List.cons_append, List.nil_append,
        Ordered, OrderedMembers, sorted_cons_cons, sorted_singleton, String.reduceLT,
        key_ordered, value_ordered, and_self]

namespace ConditionDef

mutual

theorem toJson_ordered : (c : ConditionDef) → Plain c.sites → c.toJson.Ordered
  | .compare lhs r rhs, plain => by
    simp only [sites, plain_relation, plain_term] at plain
    simp only [toJson, Ordered, OrderedMembers, sorted_cons_cons, sorted_singleton,
      String.reduceLT, TermDef.toJson_ordered, plain, and_self]
  | .all children, plain => by
    simp only [toJson, Ordered, OrderedMembers, sorted_singleton,
      toJsonChildren_ordered children plain, and_self]
  | .any children, plain => by
    simp only [toJson, Ordered, OrderedMembers, sorted_singleton,
      toJsonChildren_ordered children plain, and_self]
  | .not child, plain => by
    simp only [toJson, Ordered, OrderedMembers, sorted_singleton, toJson_ordered child plain,
      and_self]
  | .custom name lhs rhs, plain => by
    simp only [sites, plain_comparison, plain_term] at plain
    simp only [toJson, Ordered, OrderedMembers, sorted_cons_cons, sorted_singleton,
      String.reduceLT, TermDef.toJson_ordered, plain, and_self]

theorem toJsonChildren_ordered : (children : List (Option ConditionDef)) → {index : Nat} →
    Plain (childSites index children) → OrderedItems (toJsonChildren children)
  | [], _, _ => trivial
  | none :: rest, _, plain => ⟨trivial, toJsonChildren_ordered rest (plain_gap.mp plain)⟩
  | some c :: rest, _, plain =>
    have ⟨first, later⟩ := plain_append.mp plain
    ⟨toJson_ordered c first, toJsonChildren_ordered rest later⟩

end

end ConditionDef

namespace NodeDef

theorem optionalTerm_ordered {t : Option TermDef} (plain : Plain (termSites t)) :
    (optionalTerm t).Ordered := by
  cases t with
  | none => trivial
  | some t => exact TermDef.toJson_ordered (plain_term.mp plain).1

theorem optionalText_ordered (s : Option String) : ((s.map Json.str).getD .null).Ordered := by
  cases s <;> trivial

mutual

theorem toJson_ordered : (n : NodeDef) → Plain n.sites → n.toJson.Ordered
  | .query source params saveTo, plain => by
    simp only [toJson, Ordered, OrderedMembers, sorted_cons_cons, sorted_singleton,
      String.reduceLT, optionalTerm_ordered plain, and_self]
  | .branch condition onTrue onFalse isolated, plain => by
    obtain ⟨first, sides⟩ := plain_append.mp plain
    obtain ⟨one, other⟩ := plain_append.mp sides
    simp only [toJson, Ordered, OrderedMembers, sorted_cons_cons, sorted_singleton,
      String.reduceLT, condition.toJson_ordered first, toJsonSide_ordered onTrue one,
      toJsonSide_ordered onFalse other, and_self]
  | .ret value, plain => by
    have ⟨plain, _⟩ := plain_term.mp plain
    simp only [toJson, Ordered, OrderedMembers, sorted_cons_cons, sorted_singleton,
      String.reduceLT, TermDef.toJson_ordered plain, and_self]
  | .filter source condition exclude elementName saveTo, plain => by
    have ⟨first, later⟩ := plain_term.mp plain
    simp only [toJson, Ordered, OrderedMembers, sorted_cons_cons, sorted_singleton,
      String.reduceLT, TermDef.toJson_ordered first, condition.toJson_ordered later,
      optionalText_ordered elementName, and_self]
  | .fold source start aggregator rightToLeft saveTo, plain => by
    have ⟨first, later⟩ := plain_append.mp plain
    have ⟨later, _⟩ := plain_term.mp later
    simp only [toJson, Ordered, OrderedMembers, sorted_cons_cons, sorted_singleton,
      String.reduceLT, TermDef.toJson_ordered later, optionalTerm_ordered first, and_self]
  | .stop, _ => by simp only [toJson, Ordered, OrderedMembers, sorted_singleton, and_self]

theorem toJsonSide_ordered : (side : Option (List NodeDef)) → Plain (sideSites side) →
    (toJsonSide side).Ordered
  | none, _ => trivial
  | some nodes, plain => toJsonNodes_ordered nodes plain

theorem toJsonNodes_ordered : (nodes : List NodeDef) → Plain (levelSites nodes) →
    OrderedItems (toJsonNodes nodes)
  | [], _ => trivial
  | n :: rest, plain =>
    have ⟨first, later⟩ := plain_append.mp plain
    ⟨toJson_ordered n first, toJsonNodes_ordered rest later⟩

end

end NodeDef

theorem PipelineDef.toJson_ordered {d : PipelineDef} (plain : Plain d.sites) :
    d.toJson.Ordered := by
  have nodes := NodeDef.toJsonNodes_ordered d.nodes plain
  simp only [toJson, Ordered, OrderedMembers, sorted_cons_cons, sorted_singleton,
    String.reduceLT, nodes, and_self]

end RulePipeline
