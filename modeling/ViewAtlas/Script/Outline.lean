import ViewAtlas.Script.Literal
import ViewAtlas.Script.Reading
/-!
# The outline of a script

What a script declares at its outermost level: classes with their decorators and methods, variables, and the modules
that it imports.
-/
namespace ViewAtlas
namespace Script

/-- **A class**: its name, the decorators that apply to it, and the members of its body. -/
structure ClassOutline where
  name : Text
  decorators : List Tree
  members : List Tree

namespace ClassOutline

/-- The class that a declaration makes; `outer` are the decorators before its `export`. -/
def ofTree (outer : List Tree) (t : Tree) : ClassOutline :=
  { name := match t.child? .name with | some n => n.text | none => []
    decorators := outer ++ t.children.filter (·.kind == .decorator)
    members := match t.child? .body with | some b => b.children | none => [] }

/-- The call that the first decorator of a name makes; a decorator that is no direct call has none. -/
def decoratorCall? (c : ClassOutline) (name : Text) : Option Tree :=
  (c.decorators.flatMap Tree.children).find? fun e => e.kind == .call && e.callee == name

/-- The function that a member of a class names: the body of a method, or of a function that is the value of a field.
-/
def memberBody? (m : Tree) : Option Tree :=
  match m.kind with
  | .method => m.child? .body
  | .field =>
    match m.child? .value with
    | some v => if v.kind = .function then v.child? .body else none
    | none => none
  | _ => none

/-- **The methods of a class**: the bodies by name, a later one of the same name in place of an earlier one. -/
def methods (c : ClassOutline) : Table Tree :=
  Table.ofList <| c.members.filterMap fun m =>
    match m.child? .name, memberBody? m with
    | some n, some b => some (n.text, b)
    | _, _ => none

def calls (c : ClassOutline) : List Tree := c.members.flatMap Tree.calls

end ClassOutline

/-- **A script**: the path of its file, and its tree. -/
structure Source where
  path : Text
  tree : Tree

namespace Source

def statements (s : Source) : List Tree := s.tree.children

/-- The declaration that a statement exports; the statement itself when it exports none. -/
def declared (t : Tree) : Tree :=
  if t.kind = .exporting then (t.child? .declaration).getD t else t

def classes (s : Source) : List ClassOutline :=
  s.statements.filterMap fun t =>
    let outer := if t.kind = .exporting then t.children.filter (·.kind == .decorator) else []
    let d := declared t
    if d.kind = .classDeclaration then some (.ofTree outer d) else none

/-- **The variables**, in order, each with its initial value. -/
def bindings (s : Source) : List (Text × Option Tree) :=
  s.statements.flatMap fun t =>
    let d := declared t
    if d.kind = .bindings then
      d.children.filterMap fun v => (v.child? .name).map fun n => (n.text, v.child? .value)
    else []

/-- The text of a string, unless it is missing or empty. -/
def specifier? (t : Option Tree) : Option Text :=
  match t.bind Tree.stringValue? with
  | some [] | none => none
  | some s => some s

/-- **The modules that a script names**: those of its import and export statements, then those that it calls for. -/
def imports (s : Source) : List Text :=
  s.statements.filterMap (fun t =>
    if t.kind = .importing ∨ t.kind = .exporting then specifier? (t.child? .source) else none) ++
  (s.tree.calls.filter (·.callee == "import".toList)).filterMap fun c => specifier? c.callArguments.head?

end Source

/-- **A script read from a text**; none when it has a syntax error. -/
def Source.read? (path s : Text) : Option Source := (parse? s).map fun t => ⟨path, t⟩

end Script
end ViewAtlas
