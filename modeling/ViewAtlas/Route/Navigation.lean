import ViewAtlas.Route.Map
/-!
# Navigation targets

A script navigates to a base route with parameters.  The target is the first route of the map that starts with the base
and has as many parameter segments as there are parameters.
-/
namespace ViewAtlas
namespace Route

/-- **Where a call leads**: empty when that is not known, and the parameters passed. -/
structure Target where
  called : Text
  data : List Text
  deriving DecidableEq, Repr

def Target.unknown : Target := ⟨[], []⟩

def parameterSegments (route : Text) : List Text :=
  (Text.splitAt '/' route).filter fun s => s.head? = some ':'

def withoutSlash : Text → Text
  | '/' :: s => s
  | s => s

/-- What one route says to a navigation: a target, with the notice that it takes parameters, or nothing. -/
def match? (static : Bool) (base : Text) (params : List Text) (route : Text) : Option (Target × List Notice) :=
  let start := withoutSlash base
  if !start.isPrefixOf route then none
  else
    let segments := parameterSegments route
    if segments ≠ [] ∧ params.length = segments.length then
      some (⟨'/' :: route, params⟩, [.targetResolved base params route])
    else if static && segments.isEmpty && params.isEmpty && route == start then
      some (⟨'/' :: route, []⟩, [])
    else none

/-- **The target of a navigation** among the routes, in order.  With `static`, a route without parameters is a target
for its own path alone. -/
def resolve (static : Bool) (routes : List Text) (base : Text) (params : List Text) : Target × List Notice :=
  (routes.findSome? (match? static base params)).getD (.unknown, [])

end Route
end ViewAtlas
