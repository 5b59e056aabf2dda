import ViewAtlas.Widget.Identifier
import ViewAtlas.Notice
/-!
# Widgets

A widget is an interactive element of a template: its identifier, its events with their handlers, its attributes and
the validation rules that the attributes state.  `extract` lists the widgets of a forest in document order.
-/
namespace ViewAtlas

structure Widget where
  id : Text
  tag : Text
  events : Table Text
  attributes : Table Text
  rules : List Text
  submits : Bool
  deriving DecidableEq, Repr

namespace Widget

open Template (Head Node Attribute)

/-- The event that stands for navigation by a link. -/
def routerLink : Text := "routerLink".toList

/-- The attributes that state a validation rule, in the order of report. -/
def ruleAttributes : List Text := ["required", "pattern", "min", "max"].map String.toList

/-- What a rendered expression ends with when it was written inside a template. -/
def inlineMark : Text := " in inline@".toList

/-- The first text between single quotes that is not empty. -/
def quotedPiece? : Text → Option Text
  | [] => none
  | c :: s =>
    if c = '\'' then
      let body := s.takeWhile (· ≠ '\'')
      if body ≠ [] ∧ (s.drop body.length).head? = some '\'' then some body else quotedPiece? s
    else quotedPiece? s

/-- The target that a value names: its first quoted text, or all of it. -/
def linkTarget (value : Text) : Text :=
  let value := Text.strip value
  Text.strip (Text.before inlineMark ((quotedPiece? value).getD value))

def linkOf? (h : Head) : Option Text :=
  ((h.attribute? routerLink) <|> (h.input? routerLink)).map fun a => linkTarget a.value

/-- The handler that an output names: its text in the template, without an empty call at the end. -/
def handlerOf (template : Text) (a : Attribute) : Text :=
  let s := Text.strip (a.span.slice template)
  if ['(', ')'].isSuffixOf s then Text.strip (s.take (s.length - 2)) else s

/-- The events of an element: the navigation by a link first, then its outputs. -/
def eventsOf (template : Text) (h : Head) : Table Text :=
  Table.ofList (((linkOf? h).toList.map fun t => (routerLink, t)) ++
    h.outputs.map fun a => (a.name, handlerOf template a))

/-- The static attributes of an element; an input has a type even if it states none. -/
def attributesOf (h : Head) : Table Text :=
  let table := Table.ofList (h.attributes.map fun a => (a.name, a.value))
  let type := "type".toList
  if Text.lower h.name = "input".toList && !table.hasKey type then table ++ [(type, "text".toList)] else table

/-- The identifier that an element states itself: the value of its first `id`, unless that is empty. -/
def statedId? (h : Head) : Option Text :=
  match h.attribute? "id".toList with
  | some a => if a.value = [] then none else some a.value
  | none => none

def ofElement (template : Text) (id : Text) (h : Head) : Widget :=
  let attributes := attributesOf h
  { id
    tag := h.name
    events := eventsOf template h
    attributes
    rules := ruleAttributes.filter attributes.hasKey
    submits := Text.lower h.name = "button".toList && attributes.get? "type".toList == some "submit".toList }

/-- The identifier of an element, stated or made, and the counters after it. -/
def idOf (scope : Text) (c : Counters) (h : Head) (children : List Node) : Text × Counters :=
  match statedId? h with
  | some id => (id, c)
  | none => identify scope c h children

/-- The interactive elements of a forest: those whose name is one of the tags, in any case. -/
def interactive (tags : List Text) (forest : List Node) : List (Head × List Node) :=
  let tags := tags.map Text.lower
  (Node.properElements forest).filter fun e => tags.contains (Text.lower e.1.name)

/-- The widgets of successive elements, each with its element, and the counters after them. -/
def number (template scope : Text) : Counters → List (Head × List Node) → List (Head × Widget) × Counters
  | c, [] => ([], c)
  | c, (h, children) :: rest =>
    let (id, c) := idOf scope c h children
    let (more, c) := number template scope c rest
    ((h, ofElement template id h) :: more, c)

/-- What is noted of successive widgets: each that repeats an identifier, and each found.  `seen` holds the
identifiers so far. -/
def notices (seen : List Text) : List (Head × Widget) → List Notice
  | [] => []
  | (h, w) :: rest =>
    (if seen.contains w.id then [.duplicateId w.id h.name h.span] else []) ++
      .widgetFound w.id w.tag w.events.keys :: notices (w.id :: seen) rest

/-- **What an extraction gives.** -/
structure Extraction where
  widgets : List Widget
  counters : Counters
  notices : List Notice

/-- **The widgets of a forest.**  `tags` names the interactive elements; the default ones are meant when it is empty.
-/
def extract (template scope : Text) (tags : List Text) (c : Counters) (forest : List Node) : Extraction :=
  let tags := if tags.isEmpty then defaultTags else tags
  let (found, c) := number template scope c (interactive tags forest)
  ⟨found.map (·.2), c, notices [] found⟩

/-- **The components that a template uses**: the names of its elements that start with a given text. -/
def nestedComponents (start : Text) (forest : List Node) : List Text :=
  ((Node.properElements forest).map (·.1.name)).filter start.isPrefixOf

end Widget
end ViewAtlas
