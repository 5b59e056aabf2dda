import ViewAtlas.Json.Token
/-!
# Reading documents

`read` takes the tokens of a document one at a time.  Its state is the lists and records that are open, innermost
first, and what may come next; a token that may not come is a fault at its offset.
-/
namespace ViewAtlas
namespace Json

/-- **A fault**: what is wrong, and where. -/
structure Fault where
  reason : Reason
  offset : Nat
  deriving DecidableEq, Repr

/-- **Why a document is not read.** -/
inductive Failure where
  | malformed (fault : Fault)
  /-- A whole number has too many digits. -/
  | long (digits : Nat)
  deriving DecidableEq, Repr

def Reason.message : Reason → Text
  | .valueExpected => "Expecting value".toList
  | .nameExpected => "Expecting property name enclosed in double quotes".toList
  | .colonExpected => "Expecting ':' delimiter".toList
  | .commaExpected => "Expecting ',' delimiter".toList
  | .moreAfterValue => "Extra data".toList
  | .unterminated => "Unterminated string starting at".toList
  | .controlCharacter => "Invalid control character at".toList
  | .badEscape => "Invalid \\escape".toList
  | .badCodePoint => "Invalid \\uXXXX escape".toList
  | .byteOrderMark => "Unexpected UTF-8 BOM (decode using utf-8-sig)".toList

/-- The line of an offset, counted from one. -/
def lineOf (document : Text) (offset : Nat) : Nat := (document.take offset).count '\n' + 1

/-- The column of an offset, counted from one. -/
def columnOf (document : Text) (offset : Nat) : Nat :=
  ((document.take offset).reverse.takeWhile (· ≠ '\n')).length + 1

def Fault.message (document : Text) (f : Fault) : Text :=
  f.reason.message ++ ": line ".toList ++ Text.ofNat (lineOf document f.offset) ++ " column ".toList ++
    Text.ofNat (columnOf document f.offset) ++ " (char ".toList ++ Text.ofNat f.offset ++ [')']

/-- **A list or record that is open**, with what is read of it. -/
inductive Frame where
  /-- The items so far, the last one first. -/
  | list (items : List Value)
  /-- The fields so far, and the name of the field whose value is next. -/
  | record (fields : Table Value) (name : Text)

/-- **What may come next.** -/
inductive State where
  | value (outer : List Frame)
  /-- The first value of a list, or its end. -/
  | firstItem (outer : List Frame)
  /-- A comma or the end of the list. -/
  | afterItem (outer : List Frame) (items : List Value)
  /-- A name; the end of the record too, when it is empty. -/
  | fieldName (outer : List Frame) (fields : Table Value) (mayEnd : Bool)
  | colon (outer : List Frame) (fields : Table Value) (name : Text)
  /-- A comma or the end of the record. -/
  | afterField (outer : List Frame) (fields : Table Value)
  | done (v : Value)

def State.after (v : Value) : List Frame → State
  | [] => .done v
  | .list items :: outer => .afterItem outer (v :: items)
  | .record fields name :: outer => .afterField outer (fields.set name v)

/-- What is wrong when something else comes. -/
def State.expected : State → Reason
  | .value _ | .firstItem _ => .valueExpected
  | .afterItem .. | .afterField .. => .commaExpected
  | .fieldName .. => .nameExpected
  | .colon .. => .colonExpected
  | .done _ => .moreAfterValue

def State.beginValue (outer : List Frame) (offset : Nat) : Token → Except Failure State
  | .openList => .ok (.firstItem outer)
  | .openRecord => .ok (.fieldName outer [] true)
  | .plain v => .ok (.after v outer)
  | .text t => .ok (.after (.text t) outer)
  | .wrong reason place => .error (.malformed ⟨reason, place⟩)
  | .long digits => .error (.long digits)
  | _ => .error (.malformed ⟨.valueExpected, offset⟩)

/-- **The state after a token.** -/
def State.step (s : State) (token : Token × Nat) : Except Failure State :=
  match s, token.1 with
  | .value outer, t => beginValue outer token.2 t
  | .firstItem outer, .closeList => .ok (.after (.list []) outer)
  | .firstItem outer, t => beginValue (.list [] :: outer) token.2 t
  | .afterItem outer items, .comma => .ok (.value (.list items :: outer))
  | .afterItem outer items, .closeList => .ok (.after (.list items.reverse) outer)
  | .fieldName outer fields _, .text t => .ok (.colon outer fields t)
  | .fieldName _ _ _, .wrong reason place => .error (.malformed ⟨reason, place⟩)
  | .fieldName outer fields true, .closeRecord => .ok (.after (.record fields) outer)
  | .colon outer fields name, .colon => .ok (.value (.record fields name :: outer))
  | .afterField outer fields, .comma => .ok (.fieldName outer fields false)
  | .afterField outer fields, .closeRecord => .ok (.after (.record fields) outer)
  | s, _ => .error (.malformed ⟨s.expected, token.2⟩)

def State.finish (length : Nat) : State → Except Failure Value
  | .done v => .ok v
  | s => .error (.malformed ⟨s.expected, length⟩)

/-- The mark at the start of a document that says how it is encoded. -/
def byteOrderMark : Char := '\uFEFF'

def read (document : Text) : Except Failure Value := do
  if document.head? = some byteOrderMark then throw (.malformed ⟨.byteOrderMark, 0⟩)
  let s ← (tokensFrom 0 document).foldlM State.step (.value [])
  s.finish document.length

end Json
end ViewAtlas
