import ViewAtlas.Malformed
import ViewAtlas.Noted
import ViewAtlas.Template.Conversion
import ViewAtlas.Widget.Extraction
/-!
# Components

A component is a class with a decorator that names its selector and its template: the text itself, or a file beside
the class.  Its analysis lists the widgets of the template and the components used there.
-/
namespace ViewAtlas

/-- **A component**: what it is selected by, its class and file, its widgets, and the components that it uses. -/
structure Component where
  selector : Text
  name : Text
  sourceFile : Text
  widgets : List Widget
  nested : List Text
  deriving DecidableEq, Repr

namespace Component

open Script (ClassOutline)

/-- What a class may lack to be a component. -/
inductive Part where
  | template
  | selector
  deriving DecidableEq, Repr

/-- **A class that lacks a part**, and its file. -/
structure Lack where
  part : Part
  component : Text
  sourceFile : Text
  deriving DecidableEq, Repr

def Part.message : Part → Text
  | .template => "no template found".toList
  | .selector => "no selector found".toList

def Lack.message (l : Lack) : Text := l.component ++ " (".toList ++ l.sourceFile ++ "): ".toList ++ l.part.message

/-- **Why a class is not analyzed.** -/
inductive Failure where
  | malformed (what : Malformed)
  | lacking (what : Lack)
  /-- The path of the template holds the character NUL. -/
  | nul
  /-- A character reference in the template has a number with too many digits. -/
  | longNumber (digits : Nat)
  deriving DecidableEq, Repr

/-- Why the class of a template is not analyzed, by the name of the template. -/
def Failure.ofFault (name : Text) : Template.Fault → Failure
  | .markup => .malformed (.template name)
  | .longNumber digits => .longNumber digits

def decorator : Text := "Component".toList

def isComponent (c : ClassOutline) : Bool := (c.decoratorCall? decorator).isSome

def properties (c : ClassOutline) : Table Script.Tree :=
  match c.decoratorCall? decorator with
  | some call =>
    match call.callArguments with
    | a :: _ => a.properties
    | [] => []
  | none => []

/-- **The selector**; empty when there is none. -/
def selectorOf (c : ClassOutline) : Text :=
  match (properties c).get? "selector".toList with
  | some v => Text.strip (Script.stripQuotes v.text)
  | none => []

def stringProperty? (c : ClassOutline) (name : String) : Option Text :=
  ((properties c).get? name.toList).bind Script.Tree.stringValue?

def templatePath (sourceFile url : Text) : Text := ((File.folderOf sourceFile).join (.ofText url)).normal.text

/-- **The template of a class and its name**: its own text, or that of the file which it names. -/
def templateOf (disk : File.Disk) (sourceFile : Text) (c : ClassOutline) : Noted Failure (Option (Text × Text)) :=
  match stringProperty? c "template" with
  | some text => return some (text, sourceFile ++ "#inline".toList)
  | none =>
    match stringProperty? c "templateUrl" with
    | none => return none
    | some url =>
      let path := templatePath sourceFile url
      match disk.read path with
      | .ok text => return some (text, path)
      | .error (.notUtf8 fault) => do
        .note (.templateFileNotUtf8 path)
        .fail (.malformed (.encoding path fault))
      | .error (.absent .nul) => .fail .nul
      | .error _ => do
        .note (.templateFileMissing path)
        return none

/-- **What an analysis goes by**: the tags that are interactive (the default ones when there are none), and what the
names of components start with. -/
structure Setting where
  tags : List Text
  start : Text

/-- **What widgets are numbered by**: a scope, and how often each tag has been numbered. -/
structure Numbering where
  scope : Text
  counters : Widget.Counters

/-- The component of a class with a template, when it has a selector. -/
def finish (sourceFile : Text) (c : ClassOutline) (widgets : List Widget) (nested : List Text) :
    Noted Failure Component :=
  let selector := selectorOf c
  if selector = [] then do
    .note (.selectorMissing c.name)
    .fail (.lacking ⟨.selector, c.name, sourceFile⟩)
  else do
    .note (.widgetsCounted widgets.length selector)
    return ⟨selector, c.name, sourceFile, widgets, nested⟩

/-- **The analysis of a class**, and the counters after it.  Without a numbering, the template has one of its own. -/
def analyze (disk : File.Disk) (s : Setting) (numbering : Option Numbering) (sourceFile : Text) (c : ClassOutline) :
    Noted Failure Component × Widget.Counters :=
  let before := (numbering.map (·.counters)).getD []
  let resolved := templateOf disk sourceFile c
  match resolved.result with
  | .error e => (⟨resolved.notices, .error e⟩, before)
  | .ok none =>
    (⟨resolved.notices ++ [.templateMissing c.name sourceFile], .error (.lacking ⟨.template, c.name, sourceFile⟩)⟩,
      before)
  | .ok (some (template, name)) =>
    match Template.read template with
    | .error fault => (⟨resolved.notices, .error (.ofFault name fault)⟩, before)
    | .ok forest =>
      let scope := (numbering.map (·.scope)).getD name
      let e := Widget.extract template scope s.tags before forest.nodes
      let component := finish sourceFile c e.widgets (Widget.nestedComponents s.start forest.nodes)
      (⟨resolved.notices ++ forest.strays.map .strayEndTag ++ e.notices ++ component.notices, component.result⟩,
        e.counters)

end Component
end ViewAtlas
