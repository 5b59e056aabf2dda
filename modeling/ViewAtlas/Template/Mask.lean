import ViewAtlas.Text.Blank
import ViewAtlas.Text.Case
import ViewAtlas.Text.Span
/-!
# Masking expressions

A template mixes markup with expressions, and an expression may hold `<` and `>`.  Before markup is read, the places
where expressions stand are blanked out:

* the body of an interpolation, between two braces and the next two closing braces;
* the value of a declaration `@let name = value;`;
* the parameter of a block such as `@if (...)`, up to the parenthesis that closes it.

After that, a `<` or `>` that belongs to no tag, comment, script or style is blanked out too.  Masking replaces
characters one for one, so offsets into the masked text are offsets into the template.
-/
namespace ViewAtlas
namespace Template

/-- **A match** at the start of a text: where the body that is blanked out begins, how long it is, and how many
characters the match takes in all. -/
structure BodyMatch where
  lead : Nat
  length : Nat
  taken : Nat
  deriving DecidableEq, Repr

/-- The bodies of the successive matches of `find?`, from left to right; a match takes at least one character. -/
def bodies (find? : Text → Option BodyMatch) (pos : Nat) (s : Text) : List Span :=
  match s with
  | [] => []
  | c :: r =>
    match find? (c :: r) with
    | none => bodies find? (pos + 1) r
    | some m =>
      ⟨pos + m.lead, pos + m.lead + m.length⟩ :: bodies find? (pos + 1 + (m.taken - 1)) (r.drop (m.taken - 1))
termination_by s.length
decreasing_by all_goals simp only [List.length_cons, List.length_drop]; omega

/-- An interpolation: two braces, a body, and the first two closing braces. -/
def interpolation? : Text → Option BodyMatch
  | '{' :: '{' :: s => (Text.offset? ['}', '}'] s).map fun n => ⟨2, n, n + 4⟩
  | _ => none

def isDeclaredNameChar (c : Char) : Bool := c = '$' || Text.isWordChar c

def skipBlanks (s : Text) : Text := s.dropWhile Text.isBlank

/-- A declaration: `@let`, blanks, a name, `=`, a value, and the first `;`. -/
def declaration? (s : Text) : Option BodyMatch := do
  let r ← Text.after? "@let".toList s
  guard (r.head?.any Text.isBlank)
  let r := skipBlanks r
  guard (r.head?.any isDeclaredNameChar)
  let r ← Text.after? ['='] (skipBlanks (r.dropWhile isDeclaredNameChar))
  let n ← Text.offset? [';'] r
  let lead := s.length - r.length
  return ⟨lead, n, lead + n + 1⟩

/-- The words that may open a block with a parameter, `else if` apart. -/
def blockWords : List Text :=
  ["if", "for", "switch", "case", "defer", "placeholder", "loading"].map String.toList

def afterBlockOpening? (word s : Text) : Option Text := do
  let r ← Text.after? word s
  Text.after? ['('] (skipBlanks r)

def afterElseIf? (s : Text) : Option Text := do
  let r ← Text.after? "else".toList s
  guard (r.head?.any Text.isBlank)
  afterBlockOpening? "if".toList (skipBlanks r)

/-- How many characters stand before the parenthesis that closes a parameter, all of them when none does: parentheses
nest, and one between quotes does not count.  `depth` parentheses are open and `quote` is the open quote. -/
def parameterLength (depth : Nat) (quote : Option Char) : Text → Nat
  | [] => 0
  | c :: s =>
    match quote with
    | some q => 1 + parameterLength depth (if c = q then none else some q) s
    | none =>
      if c = '\'' ∨ c = '"' ∨ c = '\x60' then 1 + parameterLength depth (some c) s
      else if c = '(' then 1 + parameterLength (depth + 1) none s
      else if c = ')' then if depth ≤ 1 then 0 else 1 + parameterLength (depth - 1) none s
      else 1 + parameterLength depth none s

/-- A block with a parameter.  The match ends where the parameter begins, so blocks inside a parameter match too. -/
def block? (s : Text) : Option BodyMatch := do
  let r ← Text.after? ['@'] s
  let body ← (afterElseIf? r) <|> blockWords.findSome? (afterBlockOpening? · r)
  let lead := s.length - body.length
  return ⟨lead, parameterLength 1 none body, lead⟩

/-- **The places of a template where expressions stand.** -/
def expressionSpans (s : Text) : List Span :=
  bodies interpolation? 0 s ++ bodies declaration? 0 s ++ bodies block? 0 s

/-- The text with every character in one of the spans made a space, line ends apart. -/
def blankOut (spans : List Span) (s : Text) : Text :=
  s.zipIdx.map fun (c, i) => if c ≠ '\n' && spans.any (·.holds i) then ' ' else c

/-- How many characters a comment takes; `s` is what follows its opening. -/
def commentLength (s : Text) : Nat := match Text.offset? "-->".toList s with | some n => n + 3 | none => s.length

/-- How many characters a tag takes after its `<`: up to the first `>` that is not between quotes. -/
def tagLength (quote : Option Char) : Text → Nat
  | [] => 0
  | c :: s =>
    match quote with
    | some q => 1 + tagLength (if c = q then none else some q) s
    | none =>
      if c = '\'' ∨ c = '"' then 1 + tagLength (some c) s
      else if c = '>' then 1
      else 1 + tagLength none s

def rawTextNames : List Text := ["script".toList, "style".toList]

/-- The name of a raw text element, in lower case, when the tag that follows `<` is its start. -/
def rawTextName? (s : Text) : Option Text :=
  match s with
  | [] => none
  | c :: _ =>
    let name := Text.lower (s.takeWhile fun c => c = ':' || c = '-' || Text.isWordChar c)
    if c.isAlpha && rawTextNames.contains name then some name else none

/-- How many characters of content stand before the end tag of a raw text element; `low` is in lower case. -/
def rawTextLength (name low : Text) : Nat := (Text.offset? ('<' :: '/' :: name) low).getD low.length

/-- How many characters of markup follow this `<`: none when it opens no tag or comment.  `low` is what follows it in
the lower case of the whole text. -/
def markupLength (low s : Text) : Nat :=
  match Text.after? "!--".toList s with
  | some r => 3 + commentLength r
  | none =>
    match s with
    | [] => 0
    | c :: _ =>
      if Text.isLetter c || c = '/' || c = '!' then
        let n := tagLength none s
        match rawTextName? s with
        | some name => n + rawTextLength name (low.drop n)
        | none => n
      else 0

/-- The text with each `<` and `>` outside markup made a space.  `low` is the lower case of the whole text from the
same offset on. -/
def maskBrackets (low s : Text) : Text :=
  match s with
  | [] => []
  | c :: r =>
    if c = '<' then
      let n := markupLength (low.drop 1) r
      (if n = 0 then ' ' else c) :: r.take n ++ maskBrackets (low.drop (1 + n)) (r.drop n)
    else (if c = '>' then ' ' else c) :: maskBrackets (low.drop 1) r
termination_by s.length
decreasing_by all_goals simp only [List.length_cons, List.length_drop]; omega

/-- **The template with its expressions and stray brackets blanked out.** -/
def mask (template : Text) : Text :=
  let s := blankOut (expressionSpans template) template
  maskBrackets (Text.lower s) s

end Template
end ViewAtlas
