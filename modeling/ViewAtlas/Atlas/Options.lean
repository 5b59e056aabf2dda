import ViewAtlas.Component.Analysis
import ViewAtlas.Logic.EventMap
/-!
# Options of an analysis

What an analysis goes by besides the files of the project.
-/
namespace ViewAtlas
namespace Atlas

/-- **What elements without a signal are numbered by.** -/
inductive CounterScope where
  | template
  | project
  deriving DecidableEq, Repr

def CounterScope.names : List (Text × CounterScope) := [("template".toList, .template), ("project".toList, .project)]

def CounterScope.ofName? (name : Text) : Option CounterScope := Table.get? name names

def CounterScope.unknownMessage (name : Text) : Text := "Unknown counter scope: ".toList ++ name

structure Options where
  /-- The file with the routes, seen from the folder of the project. -/
  routesFile : Text
  /-- The names of the variables that hold routes. -/
  routeVariables : List Text
  component : Component.Setting
  /-- Whether a component without a template or a selector is a failure. -/
  strict : Bool
  scope : CounterScope
  words : Logic.Words
  marks : Logic.RuleMarks
  /-- Whether routes without parameters are targets too. -/
  staticRoutes : Bool
  followImports : Bool

/-- **The options that are meant unless others are given.** -/
def Options.default : Options :=
  { routesFile := "src/app/app.module.ts".toList
    routeVariables := Route.defaultNames
    component := ⟨[], "app-".toList⟩
    strict := true
    scope := .template
    words := .default
    marks := .default
    staticRoutes := false
    followImports := true }

end Atlas
end ViewAtlas
