import ProfileBrowser.Yaml.Tag
/-!
# Tokens

The pieces that a YAML document is made of. Some of them are not written: where blocks start and end
is told by indentation, and that a scalar is a key by the colon behind it.
-/

namespace ProfileBrowser.Yaml

/-- A piece of a document. -/
inductive Token where
  /-- A directive that says which version of YAML a document is in. -/
  | version
  /-- A directive that says what a handle stands for. -/
  | meaning (handle text : String)
  | documentStart
  | documentEnd
  | blockListStart
  | blockMappingStart
  | blockEnd
  | flowListStart
  | flowListEnd
  | flowMappingStart
  | flowMappingEnd
  /-- A dash in front of an item. -/
  | item
  /-- A comma. -/
  | comma
  | key
  | value
  | alias (name : String)
  | anchor (name : String)
  | tag (tag : Tag)
  | scalar (plain : Bool) (text : String)
deriving DecidableEq, Repr, Inhabited

end ProfileBrowser.Yaml
