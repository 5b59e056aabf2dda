import ViewAtlas.Json.Value
import ViewAtlas.Number.Decimal
/-!
# Printing documents

A value is printed on one line, or with each item and field on a line of its own, two spaces further in than what
holds it.  In a text only quotes, backslashes and control characters are escaped.
-/
namespace ViewAtlas
namespace Json

def printChar (c : Char) : Text :=
  if c = '"' ∨ c = '\\' then ['\\', c]
  else if c = '\n' then ['\\', 'n']
  else if c = '\r' then ['\\', 'r']
  else if c = '\t' then ['\\', 't']
  else if c = '\x08' then ['\\', 'b']
  else if c = '\x0c' then ['\\', 'f']
  else if c.toNat < 0x20 then '\\' :: 'u' :: Text.hex 4 c.toNat
  else [c]

def printText (t : Text) : Text := '"' :: t.flatMap printChar ++ ['"']

/-- A binary fraction; infinities and what is no number have names. -/
def printReal : Binary64 → Text
  | .undefined => "NaN".toList
  | .infinite negative => if negative then "-Infinity".toList else "Infinity".toList
  | x => x.text

/-- **How values are laid out.** -/
inductive Layout where
  | compact
  | pretty
  deriving DecidableEq, Repr

namespace Layout

/-- The start of a line that is `depth` levels in; nothing in the compact layout. -/
def lineStart (depth : Nat) : Layout → Text
  | compact => []
  | pretty => '\n' :: List.replicate (2 * depth) ' '

def between (depth : Nat) : Layout → Text
  | compact => [',', ' ']
  | l => ',' :: l.lineStart depth

/-- Items between brackets; nothing but the brackets when there are none. -/
def enclose (l : Layout) (depth : Nat) (first last : Char) (items : List Text) : Text :=
  if items = [] then [first, last]
  else
    first :: l.lineStart (depth + 1) ++ Text.joinWith (l.between (depth + 1)) items ++ l.lineStart depth ++ [last]

end Layout

mutual

def printAt (l : Layout) (depth : Nat) : Value → Text
  | .null => "null".toList
  | .bool b => if b then "true".toList else "false".toList
  | .int n => Text.ofInt n
  | .real x => printReal x
  | .text t => printText t
  | .list items => l.enclose depth '[' ']' (printItems l (depth + 1) items)
  | .record fields => l.enclose depth '\x7b' '\x7d' (printFields l (depth + 1) fields)

def printItems (l : Layout) (depth : Nat) : List Value → List Text
  | [] => []
  | v :: rest => printAt l depth v :: printItems l depth rest

def printFields (l : Layout) (depth : Nat) : List (Text × Value) → List Text
  | [] => []
  | (name, v) :: rest => (printText name ++ ':' :: ' ' :: printAt l depth v) :: printFields l depth rest

end

def print (l : Layout) (v : Value) : Text := printAt l 0 v

end Json
end ViewAtlas
