import ViewAtlas.Script.Lexeme
import ViewAtlas.Script.Tree
/-!
# Readers

A reader takes a piece of a script from a cursor on.  It succeeds, or it refuses what it finds, in which case another
reader may be tried at the same place.  Readers of nested phrases call each other through a bounded number of levels;
one that would go deeper starves, and nothing else is tried then.
-/
namespace ViewAtlas
namespace Script

/-- **A place in a script**: what is left of it, and how many characters came before. -/
structure Cursor where
  rest : Text
  pos : Nat

/-- **Why a reader stops.** -/
inductive Stop where
  /-- The script has something else at this place. -/
  | refused
  /-- The phrases are nested deeper than the levels allow. -/
  | starved
  deriving DecidableEq, Repr

/-- **A reader** of an `α`. -/
abbrev Reader (α : Type) := StateT Cursor (Except Stop) α

/-- **The phrases that nest.** -/
inductive Phrase where
  /-- An expression without commas; `annotated` says that an arrow function may state the type of its result. -/
  | expression (annotated : Bool)
  | operand
  | type
  | statement
  | pattern
  deriving DecidableEq, Repr

abbrev Nested := Phrase → Reader Tree

variable {α : Type}

def refuse : Reader α := throw .refused

/-- The first reader, or the second where the first refuses. -/
def either (p q : Reader α) : Reader α := fun c =>
  match p c with
  | .error .refused => q c
  | r => r

def oneOf : List (Reader α) → Reader α
  | [] => refuse
  | [p] => p
  | p :: ps => either p (oneOf ps)

/-- What the reader reads, or nothing where it refuses. -/
def attempt (p : Reader α) : Reader (Option α) := either (some <$> p) (pure none)

/-- Whether the reader would succeed; nothing is taken. -/
def ahead (p : Reader α) : Reader Bool := fun c =>
  match p c with
  | .ok _ => .ok (true, c)
  | .error .refused => .ok (false, c)
  | .error .starved => .error .starved

def repeated (p : Reader α) : (n : Nat) → Reader (List α)
  | 0 => throw .starved
  | n + 1 => do
    match ← attempt p with
    | none => return []
    | some a => return a :: (← repeated p n)

/-- **The reader as often as it succeeds.**  It is one that takes at least a character each time. -/
def many (p : Reader α) : Reader (List α) := fun c => repeated p (c.rest.length + 1) c

def take (n : Nat) : Reader Text := fun c => .ok (c.rest.take n, ⟨c.rest.drop n, c.pos + n⟩)

def gap : Reader Unit := fun c => let n := gapLength c.rest; .ok ((), ⟨c.rest.drop n, c.pos + n⟩)

/-- Whether a line ends in the gap before the next token. -/
def lineEnds : Reader Bool := fun c => .ok ((c.rest.take (gapLength c.rest)).any isLineEnd, c)

/-- The rest of the script after the gap; nothing is taken. -/
def upcoming : Reader Text := fun c => .ok (c.rest.drop (gapLength c.rest), c)

/-- The characters `s`, whatever follows them. -/
def exactly (s : String) : Reader Unit := do
  gap
  match Text.after? s.toList (← get).rest with
  | some _ => discard <| take s.toList.length
  | none => refuse

def mark (s : String) : Reader Unit := do
  gap
  if mark? (← get).rest = some s.toList then discard <| take s.toList.length else refuse

def markAhead (s : String) : Reader Bool := return mark? (← upcoming) = some s.toList

def markOf (ms : List String) : Reader Text := do
  gap
  match mark? (← get).rest with
  | some m => if (ms.map String.toList).contains m then take m.length else refuse
  | none => refuse

def word : Reader Text := do
  gap
  let n := wordLength (← get).rest
  if n = 0 then refuse else take n

def wordAhead : Reader (Option Text) := do
  let s ← upcoming
  let n := wordLength s
  return if n = 0 then none else some (s.take n)

def keywordAhead (s : String) : Reader Bool := return (← wordAhead) = some s.toList

def keyword (s : String) : Reader Unit := do if (← word) = s.toList then pure () else refuse

def keywordOf (ws : List String) : Reader Text := do
  let w ← word
  if (ws.map String.toList).contains w then return w else refuse

/-- The words that no variable, function or class can be named. -/
def reservedWords : List Text :=
  ["break", "case", "catch", "class", "const", "continue", "debugger", "default", "delete", "do", "else", "enum", "export",
    "extends", "false", "finally", "for", "function", "if", "import", "in", "instanceof", "new", "null", "return", "super",
    "switch", "this", "throw", "true", "try", "typeof", "var", "void", "while", "with"].map String.toList

/-- **The node over what a reader takes**, with the children that it gives. -/
def node (kind : Kind) (p : Reader (List Tree)) : Reader Tree := do
  gap
  let s ← get
  let children ← p
  let e ← get
  return .node .part kind (s.rest.take (e.pos - s.pos)) children

def since (s : Cursor) (kind : Kind) (children : List Tree) : Reader Tree := do
  let e ← get
  return .node .part kind (s.rest.take (e.pos - s.pos)) children

def identifier : Reader Tree := node .identifier do
  let w ← word
  if reservedWords.contains w then refuse else return []

def number : Reader Tree := node .other do
  let n := numberLength (← get).rest
  if n = 0 then refuse else do discard <| take n; return []

def stringLiteral : Reader Tree := node .string do
  match stringLength? (← get).rest with
  | none => refuse
  | some n => do discard <| take n; return []

/-- Items with commas between them; where an item may be missing, so may the last. -/
def listed (item : Reader α) : Reader (List α) := do
  let first ← attempt item
  let more ← many do
    mark ","
    attempt item
  return first.toList ++ more.filterMap id

def listed1 (item : Reader α) : Reader (List α) := do
  let first ← item
  let more ← many do
    mark ","
    item
  discard <| attempt (mark ",")
  return first :: more

def separated (item : Reader α) : Reader (List α) := do
  let first ← item
  let more ← many do
    mark ","
    item
  return first :: more

/-- What continues a statement on the next line. -/
def continues (s : Text) : Bool :=
  match s with
  | '.' :: d :: _ => !d.isDigit
  | '+' :: '+' :: _ | '-' :: '-' :: _ => false
  | '!' :: '=' :: _ => true
  | c :: _ => [',', '.', ';', '*', '%', '>', '<', '=', '?', '^', '|', '&', '/', ':', '+', '-'].contains c
  | [] => false

/-- **The end of a statement**: a `;`, or nothing before a closing brace, at the end of the script, or at the end of a
line unless the next line continues the statement. -/
def terminator : Reader Unit := do
  if ← markAhead ";" then mark ";"
  else
    match ← upcoming with
    | [] => pure ()
    | c :: s =>
      if c = '\x7d' then pure ()
      else if (← lineEnds) && !continues (c :: s) then pure ()
      else refuse

end Script
end ViewAtlas
