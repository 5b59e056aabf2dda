import ViewAtlas.Template.Growth
import ViewAtlas.Template.Mask
/-!
# Reading markup

`readMarkup?` reads the markup of a masked template into a forest whose values are as they are written; it gives none
when the markup is malformed.  Elements whose end tag may be left out are closed by what follows them, and a start or
end tag with no partner is an error only where nothing could have closed it.
-/
namespace ViewAtlas
namespace Template

/-- **What a template holds**: its nodes, and the spans of the end tags that close nothing. -/
structure Forest where
  nodes : List Node
  strays : List Span
  deriving DecidableEq, Repr

/-- A character reference at an `&`: how many characters it takes. -/
def referenceLength? (s : Text) : Option Nat :=
  let ending (n : Nat) := if (s.drop n).head? = some ';' then n + 1 else n
  match s with
  | '#' :: x :: r =>
    let digits := ((x :: r).takeWhile Char.isDigit).take 5
    let hexDigits := (r.takeWhile fun c => (Text.hexValue? c).isSome).take 6
    if digits ≠ [] then some (ending (1 + digits.length))
    else if (x = 'x' ∨ x = 'X') ∧ hexDigits ≠ [] then some (ending (2 + hexDigits.length))
    else none
  | _ =>
    let name := (s.takeWhile Char.isAlpha).take 30
    if name = [] then none else some (ending name.length)

def isTextChar (c : Char) : Bool := !(['<', '>', '&'].contains c)

/-- **A step of the reading**: the growth, the offset after what was read, and the rest, which is shorter. -/
structure Step (s : Text) where
  growth : Growth
  pos : Nat
  rest : Text
  shorter : rest.length < s.length

/-- The step that takes `n` more characters after the first. -/
def Step.skip {c : Char} {s : Text} (g : Growth) (pos n : Nat) : Step (c :: s) :=
  ⟨g, pos + 1 + n, s.drop n, by simp only [List.length_drop, List.length_cons]; omega⟩

/-- The comment or document type whose `<!` stands just before `s`: how many characters it takes. -/
def declarationLength? (s : Text) : Option Nat :=
  match s with
  | '-' :: '-' :: r => (Text.offset? "-->".toList r).map (· + 5)
  | _ =>
    let filler := fillerLength s
    match Text.after? "doctype".toList (Text.lower ((s.drop filler).take 7)) with
    | none => none
    | some _ =>
      let word := filler + 7
      let before := word + commentsLength (s.drop word)
      let n := ((s.drop before).takeWhile (· ≠ '>')).length
      if n = 0 ∨ (s.drop before).length ≤ n then none else some (before + n + 1)

def endTag (template : Text) (g : Growth) (direct : Bool) (key : Text) (pos stop : Nat) : Option Growth :=
  let (k, own) := closedByEnd key (g.opened.map (·.key))
  let (k, own) := if direct then (k, own) else (0, own && k == 0)
  let g := g.closeMany template pos k
  if own then some (g.close template stop)
  else if g.opened.isEmpty then none
  else some (g.stray template ⟨pos, stop⟩)

/-- The search for a word in any case: how many characters stand up to its end, when `left` of it is still to come.  A
character that breaks off a match is not looked at again. -/
def wordStop? (word : Text) : (left s : Text) → Option Nat
  | [], _ => some 0
  | _ :: _, [] => none
  | c :: left, d :: s => (wordStop? word (if d.toLower = c then left else word) s).map (· + 1)

/-- The content and the end tag of an element of raw text: how many characters they take. -/
def rawElementLength? (key s : Text) : Option Nat :=
  let word := '<' :: '/' :: key
  match wordStop? word word s with
  | none => none
  | some stop =>
    let n := stop - key.length
    match readEndTag? 0 (s.drop n) with
    | some (_, name, stop, _) => if Text.lower name = key then some (n + stop) else none
    | none => none

/-- A start tag whose `<` stands at `pos`, where `s` is what follows it. -/
def startTag? (template : Text) (g : Growth) (pos : Nat) (s : Text) : Option (Growth × Nat) :=
  match readStartTag? (pos + 1) s with
  | none => none
  | some (tag, stop, rest) =>
    let key := Text.lower tag.name
    let g := (g.closeMany template pos (closedByStart key (g.opened.map (·.key)))).push template tag pos
    if rawTextNames.contains key then
      if tag.closed then none
      else (rawElementLength? key rest).map fun n => (g.close template (stop + n), stop + n)
    else if tag.closed then some (g.close template stop, stop)
    else some (g, stop)

/-- What is read at the start of a text that is not empty and starts with no gap. -/
def step? (template : Text) (g : Growth) (pos : Nat) (c : Char) (s : Text) : Option (Step (c :: s)) :=
  if c = '<' then
    match s with
    | '!' :: r => (declarationLength? r).map fun n => .skip (g.settle template) pos (n + 1)
    | '/' :: r =>
      match readEndTag? (pos + 2) r with
      | none => none
      | some (direct, name, stop, _) =>
        (endTag template g direct (Text.lower name) pos stop).map fun g => .skip g pos (stop - pos - 1)
    | _ => (startTag? template g pos s).map fun (g, stop) => .skip g pos (stop - pos - 1)
  else if c = '&' then
    (referenceLength? s).map fun n => .skip (g.text ⟨pos, pos + 1 + n⟩) pos n
  else if isTextChar c then
    let n := (Text.trimEnd isGap (s.takeWhile isTextChar)).length
    some (.skip (g.text ⟨pos, pos + 1 + n⟩) pos n)
  else none

/-- The end of the template: the elements that it closes are closed there, and no other may be open. -/
def finish? (template : Text) (g : Growth) (pos : Nat) : Option Forest :=
  if g.opened.all fun e => endsWithTemplate e.key then
    let g := (g.closeMany template pos g.opened.length).settle template
    some ⟨g.roots.reverse, g.strays.reverse⟩
  else none

/-- The markup `s`, read from the offset `pos` of the template on. -/
def readFrom? (template : Text) (g : Growth) (pos : Nat) (s : Text) : Option Forest :=
  let gap := (s.takeWhile isGap).length
  match _h : s.drop gap with
  | [] => finish? template g (pos + gap)
  | c :: r =>
    match step? template g (pos + gap) c r with
    | none => none
    | some st => readFrom? template st.growth st.pos st.rest
termination_by s.length
decreasing_by
  have h1 := st.shorter
  have h2 := congrArg List.length _h
  simp only [List.length_drop, List.length_cons] at h1 h2
  omega

def byteOrderMark : Char := '\uFEFF'

/-- How many characters are passed over at the start of a text. -/
def markLength (s : Text) : Nat := if s.head? = some byteOrderMark then 1 else 0

/-- **The forest of a template**, its values as they are written; none when its markup is malformed.  No markup holds
the character NUL. -/
def readMarkup? (template : Text) : Option Forest :=
  let s := mask template
  if s.contains '\x00' then none else readFrom? template .empty (markLength s) (s.drop (markLength s))

end Template
end ViewAtlas
