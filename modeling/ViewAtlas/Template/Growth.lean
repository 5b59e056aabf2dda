import ViewAtlas.Template.Tag
/-!
# Growing a forest

Markup is read from left to right.  What has been read is kept as a growth: the elements that are still open, innermost
first, the finished nodes of the outermost level, and the run of text that has not ended yet.  Neighbouring texts and
character references are one run; anything else ends it.  Every value is kept as it is written.
-/
namespace ViewAtlas
namespace Template

/-- **An open element**: its start, and its finished children, last first. -/
structure OpenElement where
  tag : StartTag
  start : Nat
  children : List Node

def OpenElement.key (e : OpenElement) : Text := Text.lower e.tag.name

/-- **What has been read so far.**  `strays` are the spans of the end tags that closed nothing, last first. -/
structure Growth where
  opened : List OpenElement
  roots : List Node
  run : Option Span
  strays : List Span

def Growth.empty : Growth := ⟨[], [], none, []⟩

/-- The elements that stand for their children only. -/
def containerNames : List Text := ["ng-template".toList, "ng-container".toList]

/-- What stands between an opening and a closing text. -/
def between? (opening closing name : Text) : Option Text :=
  if opening.isPrefixOf name && closing.isSuffixOf name then
    some ((name.drop opening.length).take (name.length - opening.length - closing.length))
  else none

/-- **What an attribute binds**, by its name. -/
inductive Binding where
  | twoWay (name : Text)
  | input (name : Text)
  | output (name : Text)
  | directive (name : Text)
  | variable
  | static
  deriving DecidableEq, Repr

def Binding.ofName (name : Text) : Binding :=
  let rest? (p : String) := Text.after? p.toList name
  ((between? "[(".toList ")]".toList name).map Binding.twoWay <|>
    (rest? "bindon-").map Binding.twoWay <|>
    (between? ['['] [']'] name).map Binding.input <|>
    (rest? "bind-").map Binding.input <|>
    (between? ['('] [')'] name).map Binding.output <|>
    (rest? "on-").map Binding.output <|>
    (rest? "*").map Binding.directive <|>
    ((rest? "#") <|> (rest? "ref-") <|> (rest? "let-")).map fun _ => Binding.variable).getD .static

def Head.bind (template : Text) (h : Head) (a : WrittenAttribute) : Head :=
  let value := a.value.slice template
  match Binding.ofName a.name with
  | .twoWay name =>
    { h with
      inputs := h.inputs ++ [⟨name, value, a.value⟩]
      outputs := h.outputs ++ [⟨name ++ "Change".toList, value, a.value⟩] }
  | .input name => { h with inputs := h.inputs ++ [⟨name, value, a.value⟩] }
  | .output name => { h with outputs := h.outputs ++ [⟨name, value, a.value⟩] }
  | .directive name => { h with directives := h.directives ++ [⟨name, value, a.value⟩] }
  | .variable => h
  | .static => { h with attributes := h.attributes ++ [⟨a.name, value, a.span⟩] }

/-- The element that a start tag opens, over the given span. -/
def StartTag.head (template : Text) (t : StartTag) (r : Span) : Head :=
  t.attributes.foldl (Head.bind template)
    ⟨containerNames.contains (Text.lower t.name), t.name, r, [], [], [], []⟩

namespace Growth

def add (g : Growth) (n : Node) : Growth :=
  match g.opened with
  | [] => { g with roots := n :: g.roots }
  | e :: outer => { g with opened := { e with children := n :: e.children } :: outer }

def text (g : Growth) (r : Span) : Growth :=
  { g with run := some (match g.run with | some old => ⟨old.start, r.stop⟩ | none => r) }

/-- The run of text ended. -/
def settle (template : Text) (g : Growth) : Growth :=
  match g.run with
  | none => g
  | some r => ({ g with run := none } : Growth).add (.text (r.slice template) r)

def push (template : Text) (g : Growth) (tag : StartTag) (start : Nat) : Growth :=
  let g := g.settle template
  { g with opened := ⟨tag, start, []⟩ :: g.opened }

def close (template : Text) (g : Growth) (stop : Nat) : Growth :=
  let g := g.settle template
  match g.opened with
  | [] => g
  | e :: outer =>
    ({ g with opened := outer } : Growth).add (.element (e.tag.head template ⟨e.start, stop⟩) e.children.reverse)

def closeMany (template : Text) (stop : Nat) : (k : Nat) → Growth → Growth
  | 0, g => g
  | k + 1, g => closeMany template stop k (g.close template stop)

/-- An end tag that closes nothing. -/
def stray (template : Text) (g : Growth) (r : Span) : Growth :=
  let g := g.settle template
  { g with strays := r :: g.strays }

end Growth

/-- How many innermost elements a start tag of this name closes. -/
def closedByStart (child : Text) : List Text → Nat
  | [] => 0
  | e :: outer => if isVoid e || !canHold e child then closedByStart child outer + 1 else 0

/-- How many innermost elements an end tag of this name closes before its own, and whether its own is then the
innermost: an element of another name is closed while one of the same kind is open. -/
def closedByEnd (name : Text) : List Text → Nat × Bool
  | [] => (0, false)
  | e :: outer =>
    if e = name then (0, true)
    else if (e :: outer).any (kindOf · == kindOf name) then
      let (k, own) := closedByEnd name outer
      (k + 1, own)
    else (0, false)

end Template
end ViewAtlas
