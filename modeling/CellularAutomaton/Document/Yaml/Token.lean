/-!
# Tokens of YAML texts
-/
namespace CellularAutomaton.Document.Yaml

inductive Style
  | plain
  | singleQuoted
  | doubleQuoted
  | literal
  | folded
  deriving DecidableEq

/-- The bytes of a tag, of which escapes in it may give any. -/
abbrev Tag := List UInt8

def Tag.ofString (s : String) : Tag := s.toUTF8.toList

inductive Token
  | version (major minor : Nat)
  /-- Says what a handle at the start of a tag stands for. -/
  | handle (name : List Char) (meaning : Tag)
  | documentStart
  | documentEnd
  | blockSequenceStart
  | blockMappingStart
  | blockEnd
  | flowSequenceStart
  | flowSequenceEnd
  | flowMappingStart
  | flowMappingEnd
  /-- A dash before an item. -/
  | blockEntry
  /-- A comma between two items. -/
  | flowEntry
  | key
  | value
  | alias (name : List Char)
  | anchor (name : List Char)
  /-- A tag without a handle has the empty one. -/
  | tag (handle : List Char) (suffix : Tag)
  | scalar (style : Style) (text : List Char)
  deriving DecidableEq

end CellularAutomaton.Document.Yaml
