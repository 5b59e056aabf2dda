import ViewAtlas.Text.Basic
/-!
# Wildcards

A wildcard pattern is a list of items: a star for any text, a question mark for any character, a set of characters
between brackets, and characters that stand for themselves.  A set may hold ranges; one that runs backwards holds
nothing, and a bracket that is not closed stands for itself.
-/
namespace ViewAtlas
namespace File

/-- **An item of a wildcard pattern.** -/
inductive Wildcard where
  | anyText
  | anyChar
  | char (c : Char)
  /-- The characters in the ranges; with `others` those in none of them. -/
  | set (others : Bool) (ranges : List (Char × Char))
  deriving DecidableEq, Repr

namespace Wildcard

/-! ## Sets -/

/-- How many characters stand between a bracket and the one that closes it.  A closing bracket that comes first, or
first after `!`, is one of them. -/
def setLength? (s : Text) : Option Nat :=
  let first := if s.head? = some '!' then 1 else 0
  let first := if (s.drop first).head? = some ']' then first + 1 else first
  let n := ((s.drop first).takeWhile (· ≠ ']')).length
  if first + n < s.length then some (first + n) else none

/-- The pieces between the hyphens that make ranges.  Such a hyphen has at least `skip` characters before it, and two
after the one before. -/
def pieces (skip : Nat) (s : Text) : List Text :=
  let n := skip + ((s.drop skip).takeWhile (· ≠ '-')).length
  if n < s.length then s.take n :: pieces 2 (s.drop (n + 1)) else [s]
termination_by s.length
decreasing_by simp only [List.length_drop]; omega

/-- The pieces with a hyphen at the very end put back, which makes no range. -/
def withLastHyphen : List Text → List Text
  | [] => []
  | [p] => [p]
  | [p, []] => [p ++ ['-']]
  | p :: q :: rest => p :: withLastHyphen (q :: rest)

/-- A piece before others: a range between them that runs backwards is taken out with both its ends. -/
def joinPiece (p : Text) : List Text → List Text
  | [] => [p]
  | q :: rest =>
    match p.getLast?, q.head? with
    | some a, some b => if b < a then (p.dropLast ++ q.drop 1) :: rest else p :: q :: rest
    | _, _ => p :: q :: rest

/-- The range between two pieces; a hyphen next to nothing stands for itself. -/
def rangeBetween (p q : Text) : Char × Char :=
  match p.getLast?, q.head? with
  | some a, some b => (a, b)
  | _, _ => ('-', '-')

def rangesOf : List Text → List (Char × Char)
  | [] => []
  | [p] => p.map fun c => (c, c)
  | p :: q :: rest => (p.map fun c => (c, c)) ++ rangeBetween p q :: rangesOf (q :: rest)

def ofSet (s : Text) : Wildcard :=
  let skip := if s.head? = some '!' then 2 else 1
  match (withLastHyphen (pieces skip s)).foldr joinPiece [] with
  | ('!' :: p) :: rest => .set true (rangesOf (p :: rest))
  | ps => .set false (rangesOf ps)

/-! ## Patterns -/

def parse : Text → List Wildcard
  | [] => []
  | c :: s =>
    if c = '*' then .anyText :: parse s
    else if c = '?' then .anyChar :: parse s
    else if c = '[' then
      match setLength? s with
      | some n => ofSet (s.take n) :: parse (s.drop (n + 1))
      | none => .char c :: parse s
    else .char c :: parse s
termination_by s => s.length
decreasing_by all_goals simp only [List.length_cons, List.length_drop]; omega

def takes (c : Char) : Wildcard → Bool
  | anyText => false
  | anyChar => true
  | char d => c = d
  | set others ranges => (ranges.any fun r => r.1 ≤ c && c ≤ r.2) != others

/-- A text and what is left of it as characters are taken from its start. -/
def suffixes : Text → List Text
  | [] => [[]]
  | c :: s => (c :: s) :: suffixes s

/-- **Whether the items stand for the whole text.** -/
def accepts : List Wildcard → Text → Bool
  | [], s => s.isEmpty
  | .anyText :: ps, s => (suffixes s).any (accepts ps)
  | _ :: _, [] => false
  | p :: ps, c :: s => p.takes c && accepts ps s

end Wildcard

/-- **Whether a text is of the form of a pattern.** -/
def isLike (pattern s : Text) : Bool := Wildcard.accepts (Wildcard.parse pattern) s

end File
end ViewAtlas
