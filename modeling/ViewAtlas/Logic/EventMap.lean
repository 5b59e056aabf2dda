import ViewAtlas.Logic.Call
import ViewAtlas.Logic.Rules
import ViewAtlas.Widget.Extraction
/-!
# Event maps

An event map says of a widget which calls its events lead to.  The same look at the class gives the widget the rules of
its form control.
-/
namespace ViewAtlas
namespace Logic

open Script (Tree ClassOutline)

/-- **An event of a widget**, its handler, and the calls of that. -/
structure HandledEvent where
  event : Text
  handler : Text
  calls : List Call
  deriving DecidableEq, Repr

/-- **The handled events of a widget.** -/
structure EventMap where
  widgetId : Text
  events : List HandledEvent
  deriving DecidableEq, Repr

/-- One event: nothing for a link; a notice when the class has no such method; nothing when the method calls nothing.
-/
def handleEvent (s : Setting) (component : Text) (methods : Table Tree) (event handler : Text) :
    Option HandledEvent × List Notice :=
  if event = Widget.routerLink then (none, [])
  else match methods.get? handler with
    | none => (none, [.handlerMissing handler event component])
    | some body =>
      let (calls, notices) := handlerCalls s body
      (if calls.isEmpty then none else some ⟨event, handler, calls⟩, notices)

/-- The attribute that names the form control of a widget. -/
def controlAttribute : Text := "formControlName".toList

/-- A widget with the rules of its form control, if it names one that has rules. -/
def withRules (rules : Table (List Text)) (w : Widget) : Widget :=
  match w.attributes.get? controlAttribute with
  | none | some [] => w
  | some name =>
    match rules.get? name with
    | none => w
    | some r => { w with rules := r }

/-- **What the class says of one widget**: the widget with its rules, its event map if an event leads to a call, and
notices. -/
def linkWidget (s : Setting) (component : Text) (methods : Table Tree) (rules : Table (List Text)) (w : Widget) :
    Widget × Option EventMap × List Notice :=
  let handled := w.events.map fun e => handleEvent s component methods e.1 e.2
  let events := handled.filterMap (·.1)
  (withRules rules w, if events.isEmpty then none else some ⟨w.id, events⟩, handled.flatMap (·.2))

/-- **What a class says of its widgets.** -/
structure Linking where
  widgets : List Widget
  eventMaps : List EventMap
  notices : List Notice

/-- **The widgets of a class linked to its methods.** -/
def link (s : Setting) (m : RuleMarks) (c : ClassOutline) (widgets : List Widget) : Linking :=
  let linked := widgets.map (linkWidget s c.name c.methods (rulesOf m c))
  ⟨linked.map (·.1), linked.filterMap (·.2.1), linked.flatMap (·.2.2)⟩

end Logic
end ViewAtlas
