/-! Tags say of what type a node is. A tag is a string of bytes, which need not be a text. -/
namespace RulePipeline.Yaml

abbrev Tag := List UInt8

namespace Tag

def ofText (s : String) : Tag := s.toUTF8.data.toList

/-- A zero byte ends a tag. -/
def ended (bytes : List UInt8) : Tag := bytes.takeWhile (· ≠ 0)

def standard (name : String) : Tag := ofText ("tag:yaml.org,2002:" ++ name)

/-- Local tags start with an exclamation mark. -/
def isLocal (t : Tag) : Bool := t.head? == some 33

def isText (t : Tag) : Bool := (String.fromUTF8? ⟨t.toArray⟩).isSome

/-- A local tag names a type of the application if its name can be read. -/
def namesType (t : Tag) : Bool := t.isLocal && t.isText

/-- How many bytes follow the first byte of a character; none if it cannot be the first one. -/
def following? (octet : Nat) : Option Nat :=
  if octet < 0x80 then some 0
  else if octet < 0xC0 then none
  else if octet < 0xE0 then some 1
  else if octet < 0xF0 then some 2
  else if octet < 0xF8 then some 3
  else none

end Tag

end RulePipeline.Yaml
