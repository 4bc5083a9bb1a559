/-!
# Values of configuration documents

The documents in JSON and TOML have the same values: scalars, lists, and tables whose entries keep
the order of the document, repeated keys included.
-/
namespace CellularAutomaton.Document

inductive Value
  | null
  | bool (b : Bool)
  | integer (n : Int)
  | float (x : Float)
  | string (s : String)
  | list (items : List Value)
  | table (entries : List (String × Value))
  /-- A well-formed value that nothing can be read from, such as a number beyond the range of
  floats. It does no harm where values are ignored. -/
  | unreadable

end CellularAutomaton.Document
