import ViewAtlas.Template.Node
import ViewAtlas.Text.Blank
import ViewAtlas.Text.Sha1
import ViewAtlas.Table
import ViewAtlas.Widget.Strategy
/-!
# Identifiers

An element is named after a signal, when it has one: an attribute, a text or a binding that says what it is for.  Its
identifier is then the tag, the signal and a digest of the scope, the tag, the signal and the offset of the
element.  An element without a signal is named after its tag and a number that counts such elements.
-/
namespace ViewAtlas
namespace Widget

open Template (Head Node)

/-- **How often each tag has been numbered.** -/
abbrev Counters := Table Nat

def Counters.count (c : Counters) (tag : Text) : Nat := (c.get? tag).getD 0

def Counters.next (c : Counters) (tag : Text) : Nat × Counters :=
  let n := c.count tag + 1
  (n, c.set tag n)

def separator : Text := "__".toList

/-- A run of blanks, and a hyphen, each made one `_`.  `inRun` says that the run has begun. -/
def underscored (inRun : Bool) : Text → Text
  | [] => []
  | c :: s =>
    if Text.isBlank c then
      if inRun then underscored true s else '_' :: underscored true s
    else (if c = '-' then '_' else c) :: underscored false s

/-- **A signal as part of an identifier**: trimmed, joined by `_`, in lower case. -/
def normalize (value : Text) : Text := Text.lower (underscored false (Text.strip value))

/-- The first attribute of the list that has a value other than blanks, normalized. -/
def attributeSignal? (names : List Text) (h : Head) : Option Text :=
  names.findSome? fun name =>
    match h.attribute? name with
    | some a => if Text.isBlankText a.value then none else some (normalize a.value)
    | none => none

/-- The first child that is a text, with no interpolation and not blank, normalized. -/
def textSignal? (children : List Node) : Option Text :=
  children.findSome? fun
    | .text value _ =>
      if Template.hasInterpolation value || Text.isBlankText value then none else some (normalize value)
    | .element _ _ => none

def bindingSignal? (h : Head) : Option Text :=
  match h.inputs with
  | [] => none
  | a :: _ => Text.firstWord? a.value

/-- **The signal of an element**, by the strategy for its tag. -/
def signal? (h : Head) (children : List Node) : Option Text :=
  let strategy := Strategy.ofTag h.name
  match attributeSignal? strategy.attributes h with
  | some s => some s
  | none =>
    match strategy.fallback with
    | .text => textSignal? children
    | .binding => bindingSignal? h
    | .none => none

def suffixLength : Nat := 8

def seed (scope tag signal : Text) (offset : Nat) : Text :=
  Text.joinWith ['|'] [scope, tag, signal, Text.ofNat offset]

def signalId (scope tag signal : Text) (offset : Nat) : Text :=
  Text.joinWith separator [tag, signal, (Text.sha1 (seed scope tag signal offset)).take suffixLength]

def numberedId (tag : Text) (n : Nat) : Text := tag ++ separator ++ Text.ofNat n

/-- **The identifier of an element**, and the counters after it. -/
def identify (scope : Text) (c : Counters) (h : Head) (children : List Node) : Text × Counters :=
  let tag := Text.upper h.name
  match signal? h children with
  | some s => (signalId scope tag s h.span.start, c)
  | none =>
    let (n, c) := c.next tag
    (numberedId tag n, c)

end Widget
end ViewAtlas
