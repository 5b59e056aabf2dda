import ViewAtlas.Number.Binary64
import ViewAtlas.Table
/-!
# Values of documents

A document holds a value: nothing, a truth value, a whole number, a binary fraction, a text, a list of values, or a
record of values by name.
-/
namespace ViewAtlas
namespace Json

inductive Value where
  | null
  | bool (b : Bool)
  | int (n : Int)
  | real (x : Binary64)
  | text (t : Text)
  | list (items : List Value)
  | record (fields : List (Text × Value))
  deriving Repr

namespace Value

/-- The value of a field; null when there is no such field, or no record. -/
def field (name : String) : Value → Value
  | record fields => (Table.get? name.toList fields).getD null
  | _ => null

/-- Whether a value counts as given: the empty ones, zero, false and null do not. -/
def isGiven : Value → Bool
  | null => false
  | bool b => b
  | int n => n ≠ 0
  | real (.finite _ m _) => m ≠ 0
  | real _ => true
  | text t => !t.isEmpty
  | list items => !items.isEmpty
  | record fields => !fields.isEmpty

/-- What a value gives when it is gone through: the items of a list, the characters of a text, the names of a record;
nothing can be gone through in other values. -/
def items? : Value → Option (List Value)
  | list items => some items
  | text t => some (t.map fun c => text [c])
  | record fields => some (fields.map fun f => text f.1)
  | _ => none

end Value
end Json
end ViewAtlas
