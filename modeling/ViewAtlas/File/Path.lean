import ViewAtlas.Text.Basic
/-!
# Paths

A path is a list of names after no slash, one slash or two.  Empty names and `.` are dropped when a text is read as a
path; `..` stays, until `normal` takes it and the name before it away.
-/
namespace ViewAtlas
namespace File

/-- **A path**: how many slashes it starts with, and its names. -/
structure Path where
  slashes : Nat
  names : List Text
  deriving DecidableEq, Repr

namespace Path

def up : Text := ['.', '.']

/-- How many slashes a text counts as starting with: more than two are one. -/
def leadingSlashes (s : Text) : Nat :=
  let n := (s.takeWhile (· = '/')).length
  if 2 < n then 1 else n

def ofText (s : Text) : Path :=
  ⟨leadingSlashes s, (Text.splitAt '/' s).filter fun n => n ≠ [] && n ≠ ['.']⟩

def text (p : Path) : Text :=
  if p.slashes = 0 ∧ p.names = [] then ['.'] else List.replicate p.slashes '/' ++ Text.joinWith ['/'] p.names

def isAbsolute (p : Path) : Bool := p.slashes ≠ 0

/-- The path `q` seen from `p`: `q` itself when it is absolute. -/
def join (p q : Path) : Path := if q.isAbsolute then q else ⟨p.slashes, p.names ++ q.names⟩

/-- The names with each `..` taking away the name before it.  `kept` holds the names so far, the last one first; with
nothing left to take away, `..` stays in a relative path and goes in an absolute one. -/
def collapse (isAbsolute : Bool) (kept : List Text) : List Text → List Text
  | [] => kept.reverse
  | n :: rest =>
    if n = up then
      match kept with
      | [] => if isAbsolute then collapse isAbsolute [] rest else collapse isAbsolute [up] rest
      | k :: ks =>
        if k = up then collapse isAbsolute (up :: k :: ks) rest else collapse isAbsolute ks rest
    else collapse isAbsolute (n :: kept) rest

/-- **The path without `..`**, but for those at the start of a relative path. -/
def normal (p : Path) : Path := ⟨p.slashes, collapse p.isAbsolute [] p.names⟩

def folder (p : Path) : Path := ⟨p.slashes, p.names.dropLast⟩

/-- The last name; empty when there is none. -/
def name (p : Path) : Text := p.names.getLast?.getD []

/-- This path and those of the folders above it, innermost first. -/
def upward (p : Path) : List Path :=
  (List.range (p.names.length + 1)).map fun n => ⟨p.slashes, p.names.take (p.names.length - n)⟩

def below? (root p : Path) : Option (List Text) :=
  if root.slashes = p.slashes ∧ root.names.isPrefixOf p.names then some (p.names.drop root.names.length) else none

/-- The names that two lists have in common at the start, taken away from both. -/
def apart : List Text → List Text → List Text × List Text
  | a :: as, b :: bs => if a = b then apart as bs else (a :: as, b :: bs)
  | as, bs => (as, bs)

/-- **The way from one normal absolute path to another**: up, then down. -/
def relative (base p : Path) : Path :=
  let (b, q) := apart base.names p.names
  ⟨0, List.replicate b.length up ++ q⟩

end Path

/-- The folder of a path that is given as a text: what stands before its last slash. -/
def folderOf (s : Text) : Path := .ofText (s.reverse.dropWhile (· ≠ '/')).reverse

def joinTexts (a b : Text) : Text :=
  if b.head? = some '/' ∨ a = [] then b
  else if a.getLast? = some '/' then a ++ b
  else a ++ '/' :: b

end File
end ViewAtlas
