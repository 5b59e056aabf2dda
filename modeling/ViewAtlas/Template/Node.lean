import ViewAtlas.Text.Span
/-!
# Template nodes

A template is a forest of texts and elements.  An element keeps its attributes in four lists, by what they bind.
-/
namespace ViewAtlas
namespace Template

/-- **An attribute**: its name, its value, and the span of the value (of the whole attribute for a static one). -/
structure Attribute where
  name : Text
  value : Text
  span : Span
  deriving DecidableEq, Repr, Inhabited

/-- **An element without its children.**  A container stands for its children only and is no element of the page. -/
structure Head where
  container : Bool
  name : Text
  span : Span
  attributes : List Attribute
  inputs : List Attribute
  outputs : List Attribute
  directives : List Attribute
  deriving DecidableEq, Repr, Inhabited

/-- **A node**: a text, or an element with its children. -/
inductive Node where
  | text (value : Text) (span : Span)
  | element (head : Head) (children : List Node)
  deriving Repr, Inhabited

namespace Head

def attribute? (h : Head) (name : Text) : Option Attribute := h.attributes.find? (·.name == name)

def input? (h : Head) (name : Text) : Option Attribute := h.inputs.find? (·.name == name)

end Head

def hasInterpolation (value : Text) : Bool := Text.hasPiece ['{', '{'] value

namespace Node

mutual

def decideEq : (a b : Node) → Decidable (a = b)
  | .text v r, .text w q => decidable_of_iff (v = w ∧ r = q) (by simp)
  | .element g as, .element h bs =>
    have := decideEqOf as bs
    decidable_of_iff (g = h ∧ as = bs) (by simp)
  | .text .., .element .. | .element .., .text .. => isFalse (by simp)

def decideEqOf : (as bs : List Node) → Decidable (as = bs)
  | [], [] => isTrue rfl
  | a :: as, b :: bs =>
    have := decideEq a b
    have := decideEqOf as bs
    decidable_of_iff (a = b ∧ as = bs) (by simp)
  | [], _ :: _ | _ :: _, [] => isFalse (by simp)

end

instance : DecidableEq Node := decideEq

def span : Node → Span
  | .text _ r => r
  | .element h _ => h.span

mutual

/-- **The elements of a node in document order**, an element before its descendants, each with its children. -/
def elements : Node → List (Head × List Node)
  | .text _ _ => []
  | .element h children => (h, children) :: elementsOf children

def elementsOf : List Node → List (Head × List Node)
  | [] => []
  | n :: rest => elements n ++ elementsOf rest

end

def properElements (forest : List Node) : List (Head × List Node) :=
  (elementsOf forest).filter fun e => !e.1.container

end Node

/-- **A step of a walk** over a forest. -/
inductive Visit where
  | element (name : Text)
  | input (name : Text)
  | output (name : Text)
  | text (value : Text)
  | leave (name : Text)
  deriving DecidableEq, Repr

namespace Node

mutual

/-- **The walk over a node**: an element, its inputs, its outputs, its children, and the way out of it.  A container
shows only its children. -/
def walk : Node → List Visit
  | .text value _ => [.text value]
  | .element h children =>
    if h.container then walkOf children
    else .element h.name :: h.inputs.map (.input ·.name) ++ h.outputs.map (.output ·.name) ++ walkOf children ++
      [.leave h.name]

def walkOf : List Node → List Visit
  | [] => []
  | n :: rest => walk n ++ walkOf rest

end

theorem elementsOf_append (a b : List Node) : elementsOf (a ++ b) = elementsOf a ++ elementsOf b := by
  induction a with
  | nil => simp [elementsOf]
  | cons n a ih => simp [elementsOf, ih]

end Node
end Template
end ViewAtlas
