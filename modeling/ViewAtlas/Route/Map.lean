import ViewAtlas.Script.Outline
import ViewAtlas.Text.Blank
import ViewAtlas.Notice
/-!
# Route maps

A routing declaration is an array of entries, each an object with a `path` and perhaps `children`.  `Route.listing`
walks the entries depth first and lists what each says with its full path; a route map is that list, sorted into
routes to components and redirections.
-/
namespace ViewAtlas
namespace Route

open Script (Tree Source)

/-- Two paths joined by `/`; an empty one adds nothing. -/
def join (parent path : Text) : Text :=
  if parent = [] then path
  else if path = [] then parent
  else parent ++ '/' :: path

/-- **What an entry says**: the component shown for a route, or where a route leads instead. -/
inductive Item where
  | component (component route : Text)
  | redirect (route target : Text)
  deriving DecidableEq, Repr

/-- The text of a property, quotes and outer blanks removed; empty when there is none. -/
def propertyText (properties : Table Tree) (name : String) : Text :=
  match properties.get? name.toList with
  | some v => Text.strip (Script.stripQuotes v.text)
  | none => []

/-- The own path of an entry: its `path`, and a parameter segment for `params` if there is one. -/
def ownPath (properties : Table Tree) : Text :=
  let path := propertyText properties "path"
  let param := propertyText properties "params"
  if param = [] then path else path ++ '/' :: ':' :: param

def ownItems (properties : Table Tree) (route : Text) : List Item :=
  let component := propertyText properties "component"
  let target := propertyText properties "redirectTo"
  (if route ≠ [] ∧ component ≠ [] then [.component component route] else []) ++
    (if target ≠ [] then [.redirect route target] else [])

/-- **What an entry and the entries inside it say**, in order.  An object without `path` is no entry. -/
def itemsOf (parent : Text) (t : Tree) : List Item :=
  let properties := t.properties
  match properties.get? "path".toList with
  | none => []
  | some _ =>
    let route := join parent (ownPath properties)
    ownItems properties route ++
      match _h : t.properties.get? "children".toList with
      | none => []
      | some c => c.elements.attach.flatMap fun e => itemsOf route e.val
termination_by sizeOf t
decreasing_by exact Nat.lt_trans (Tree.sizeOf_element e.property) (Tree.sizeOf_property _h)

/-- **What a routing script says**: the entries of its outermost variables that have one of the names and an array as
their value. -/
def listing (names : List Text) (s : Source) : List Item :=
  s.bindings.flatMap fun (name, value) =>
    match value with
    | some v => if names.contains name then v.elements.flatMap (itemsOf []) else []
    | none => []

def defaultNames : List Text := ["routes".toList, "appRoutes".toList]

def Item.notice : Item → Notice
  | .component c r => .routeFound c r
  | .redirect r t => .redirectFound r t

end Route

/-- **A route map**: the components shown for routes, and the redirections, in order. -/
structure RouteMap where
  components : List (Text × Text)
  redirections : List (Text × Text)
  deriving DecidableEq, Repr

def RouteMap.ofListing (items : List Route.Item) : RouteMap :=
  { components := items.filterMap fun | .component c r => some (c, r) | .redirect .. => none
    redirections := items.filterMap fun | .redirect r t => some (r, t) | .component .. => none }

end ViewAtlas
