import ViewAtlas.Atlas.Analysis
import ViewAtlas.Json.Printer
/-!
# Reports

A report is the document of an atlas: what it is about, the routes, and the components in order.
-/
namespace ViewAtlas
namespace Report

open Json (Value Layout)

def version : Text := "1.0.0".toList

def record (fields : List (String × Value)) : Value := .record (fields.map fun f => (f.1.toList, f.2))

def texts (l : List Text) : Value := .list (l.map .text)

def table (t : Table Text) : Value := .record (t.map fun e => (e.1, .text e.2))

def ofRoutes (m : RouteMap) : Value :=
  record
    [("components", .list (m.components.map fun c => record [("component", .text c.1), ("route", .text c.2)])),
      ("redirections", .list (m.redirections.map fun r => record [("route", .text r.1), ("redirectTo", .text r.2)]))]

def ofWidget (w : Widget) : Value :=
  record
    [("id", .text w.id), ("type", .text w.tag), ("events", table w.events), ("attributes", table w.attributes),
      ("validationRules", texts w.rules), ("triggersFormSubmission", .bool w.submits)]

def ofCall (c : Logic.Call) : Value :=
  record [("caller", .text c.caller), ("called", .text c.called), ("data", texts c.data)]

def ofEvent (e : Logic.HandledEvent) : Value :=
  record [("event", .text e.event), ("handler", .text e.handler), ("calls", .list (e.calls.map ofCall))]

def ofEventMap (m : Logic.EventMap) : Value :=
  record [("widgetID", .text m.widgetId), ("events", .list (m.events.map ofEvent))]

def ofComponent (c : Component) : Value :=
  record
    [("selector", .text c.selector), ("name", .text c.name), ("sourceFile", .text c.sourceFile),
      ("widgets", .list (c.widgets.map ofWidget)), ("nestedComponents", texts c.nested)]

def ofEntry (e : Atlas.Entry) : Value :=
  record [("info", ofComponent e.component), ("widgetEventMaps", .list (e.eventMaps.map ofEventMap))]

/-- What a report is about: the time of the analysis, the project, and how much was found. -/
def about (time project : Text) (a : Atlas) : Value :=
  record
    [("analyzer_version", .text version), ("analyzed_at", .text time), ("project", .text project),
      ("total_components", .int a.entries.length), ("total_routes", .int a.routes.components.length)]

def document (time project : Text) (a : Atlas) : Value :=
  record
    [("_metadata", about time project a), ("routeMap", ofRoutes a.routes),
      ("componentMap", .list (a.entries.map ofEntry))]

def text (l : Layout) (time project : Text) (a : Atlas) : Text := Json.print l (document time project a)

end Report
end ViewAtlas
