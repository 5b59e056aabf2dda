import ViewAtlas.Template.Reading
import ViewAtlas.Text.Entity
import ViewAtlas.Text.OffsetMap
/-!
# Reading a template

`read` reads the markup of a template and converts it: spans are told in characters, and the character references in
texts and in static attributes are replaced.  It fails where the markup is malformed, or else at the first number of a
character reference that is too long.
-/
namespace ViewAtlas
namespace Template

/-- **Why a template has no forest.** -/
inductive Fault where
  | markup
  /-- A character reference has a number of so many decimal digits. -/
  | longNumber (digits : Nat)
  deriving DecidableEq, Repr

section Convert

variable (place : Span → Span) (literal : Text → Text)

def Attribute.convert (a : Attribute) : Attribute := { a with value := literal a.value, span := place a.span }

def Head.convert (h : Head) : Head :=
  { h with
    span := place h.span
    attributes := h.attributes.map (Attribute.convert place literal)
    inputs := h.inputs.map (Attribute.convert place id)
    outputs := h.outputs.map (Attribute.convert place id)
    directives := h.directives.map (Attribute.convert place id) }

mutual

/-- **A node with its spans and its literal values converted**: those of texts and of static attributes. -/
def Node.convert : Node → Node
  | .text value r => .text (literal value) (place r)
  | .element h children => .element (h.convert place literal) (convertAll children)

def convertAll : List Node → List Node
  | [] => []
  | n :: rest => n.convert :: convertAll rest

end

def Forest.convert (f : Forest) : Forest := ⟨convertAll place literal f.nodes, f.strays.map place⟩

end Convert

mutual

/-- **The literal values of a node**, in document order. -/
def Node.literals : Node → List Text
  | .text value _ => [value]
  | .element h children => h.attributes.map (·.value) ++ literalsOf children

def literalsOf : List Node → List Text
  | [] => []
  | n :: rest => n.literals ++ literalsOf rest

end

/-- The first number in the literal values of a forest that is too long to be read: how many digits it has. -/
def Forest.longNumber? (f : Forest) : Option Nat := (literalsOf f.nodes).findSome? Text.Entity.longNumber?

/-- The span of octets that a span of characters takes up. -/
def octetSpan (s : Text) (r : Span) : Span := ⟨Text.octets (s.take r.start), Text.octets (s.take r.stop)⟩

/-- **The forest of a template**, or why there is none. -/
def read (template : Text) : Except Fault Forest :=
  match readMarkup? template with
  | none => .error .markup
  | some f =>
    match f.longNumber? with
    | some digits => .error (.longNumber digits)
    | none =>
      let s := mask template
      .ok (f.convert (fun r => (OffsetMap.ofText s).span (octetSpan s r)) Text.Entity.decode)

def read? (template : Text) : Option Forest := (read template).toOption

theorem read?_of_ok {template : Text} {f : Forest} (h : read template = .ok f) : read? template = some f := by
  rw [read?, h]
  rfl

theorem read?_of_error {template : Text} {fault : Fault} (h : read template = .error fault) : read? template = none := by
  rw [read?, h]
  rfl

end Template
end ViewAtlas
