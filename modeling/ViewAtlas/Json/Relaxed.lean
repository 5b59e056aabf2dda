import ViewAtlas.Json.Reader
import ViewAtlas.Text.Blank
/-!
# Relaxed documents

A relaxed document may hold comments, and a comma before the end of a list or record.  `withoutComments` and
`withoutLastCommas` take these out and leave texts between quotes alone; what is left is read as a document, and a
blank one is an empty record.
-/
namespace ViewAtlas
namespace Json

/-- How many characters a text between quotes has after its first quote, the last one included; none when it is not
closed.  A backslash takes the next character with it, but not the end of a line. -/
def quotedLength? : Text → Option Nat
  | [] => none
  | c :: s =>
    if c = '"' then some 1
    else if c = '\\' then
      match s with
      | [] => none
      | d :: s => if d = '\n' then none else (quotedLength? s).map (· + 2)
    else (quotedLength? s).map (· + 1)

/-- How many characters a comment between `/*` and `*/` has after its first two; none when it is not closed. -/
def blockLength? (s : Text) : Option Nat := (Text.offset? ['*', '/'] s).map (· + 2)

/-- How many characters to keep or drop as one piece after a first character: a text between quotes, or a comment. -/
inductive Piece where
  | keep (length : Nat)
  | drop (length : Nat)

def commentPiece (c : Char) (s : Text) : Piece :=
  if c = '"' then
    match quotedLength? s with
    | some n => .keep n
    | none => .keep 0
  else if c = '/' then
    match s with
    | d :: r =>
      if d = '/' then .drop (1 + (r.takeWhile (· ≠ '\n')).length)
      else if d = '*' then
        match blockLength? r with
        | some n => .drop (1 + n)
        | none => .keep 0
      else .keep 0
    | [] => .keep 0
  else .keep 0

def withoutComments : Text → Text
  | [] => []
  | c :: s =>
    match commentPiece c s with
    | .keep n => c :: s.take n ++ withoutComments (s.drop n)
    | .drop n => withoutComments (s.drop n)
termination_by s => s.length
decreasing_by all_goals simp only [List.length_cons, List.length_drop]; omega

def endComesNext (s : Text) : Bool :=
  match s.dropWhile Text.isBlank with
  | c :: _ => c = '\x7d' || c = ']'
  | [] => false

/-- **A document without commas that stand last** in a list or record.  Of two commas in a row only the second can
stand last. -/
def withoutLastCommas : Text → Text
  | [] => []
  | c :: s =>
    if c = '"' then
      match quotedLength? s with
      | some n => c :: s.take n ++ withoutLastCommas (s.drop n)
      | none => c :: withoutLastCommas s
    else if c = ',' ∧ endComesNext s then
      let n := (s.takeWhile Text.isBlank).length + 1
      s.take n ++ withoutLastCommas (s.drop n)
    else c :: withoutLastCommas s
termination_by s => s.length
decreasing_by all_goals simp only [List.length_cons, List.length_drop]; omega

def strict (document : Text) : Text := withoutLastCommas (withoutComments document)

/-- **The value of a relaxed document.**  Faults are placed in its strict form. -/
def readRelaxed (document : Text) : Except Failure Value :=
  let document := strict document
  if Text.isBlankText document then .ok (.record []) else read document

end Json
end ViewAtlas
