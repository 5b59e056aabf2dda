import ViewAtlas.Route.Navigation
import ViewAtlas.Text.Case
/-!
# What the calls of a handler do

A call navigates, asks the back end, or does something else, by the words in the text of what it calls.  A handler's
calls are listed once for each caller and target.
-/
namespace ViewAtlas
namespace Logic

open Script (Tree)

/-- **The words that tell calls apart**: for navigation as they are, for the back end in any case. -/
structure Words where
  navigation : Text
  backend : Text
  deriving DecidableEq, Repr

def Words.default : Words := ⟨"navigate".toList, "service".toList⟩

def Words.isNavigation (w : Words) (caller : Text) : Bool := Text.hasPiece w.navigation caller

def Words.isBackend (w : Words) (caller : Text) : Bool :=
  Text.hasPiece (Text.lower w.backend) (Text.lower caller)

/-- **A call of a handler**: what it calls, where that leads, and the parameters that it passes there. -/
structure Call where
  caller : Text
  called : Text
  data : List Text
  deriving DecidableEq, Repr

def Call.key (c : Call) : Text := c.caller ++ "->".toList ++ c.called

def backendRoute : Text := "/backend".toList

/-- **What calls are resolved against.** -/
structure Setting where
  routes : List Text
  words : Words
  static : Bool

/-- The target of a navigation by its arguments: a single array, whose first element is the base route. -/
def navigationTarget (s : Setting) (args : List Tree) : Route.Target × List Notice :=
  match args with
  | [a] =>
    match a.elements with
    | [] => (.unknown, [])
    | base :: params =>
      Route.resolve s.static s.routes (Script.stripQuotes base.text) (params.map Tree.text)
  | _ => (.unknown, [])

def resolveCall (s : Setting) (t : Tree) : Call × List Notice :=
  let caller := t.callee
  if s.words.isNavigation caller then
    let (target, notices) := navigationTarget s t.callArguments
    (⟨caller, target.called, target.data⟩, notices)
  else if s.words.isBackend caller then (⟨caller, backendRoute, []⟩, [])
  else (⟨caller, [], []⟩, [])

/-- The table of calls with one more: of two calls with one key the one with more data stays, the earlier one when
they have equally much. -/
def keep (calls : Table Call) (c : Call) : Table Call :=
  match calls.get? c.key with
  | none => calls.set c.key c
  | some d => if d.data.length < c.data.length then calls.set c.key c else calls

/-- **The calls of a handler**, by its body. -/
def handlerCalls (s : Setting) (body : Tree) : List Call × List Notice :=
  let resolved := body.calls.map (resolveCall s)
  (((resolved.map (·.1)).foldl keep []).map (·.2), resolved.flatMap (·.2))

end Logic
end ViewAtlas
