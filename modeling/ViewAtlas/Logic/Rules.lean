import ViewAtlas.Script.Outline
/-!
# Validation rules

A class states the rules of its form controls in calls that build a form group: the first argument is an object, and
each property of it whose value is an array is a control with the validators in that array.
-/
namespace ViewAtlas
namespace Logic

open Script (Tree ClassOutline)

/-- **How rules are recognised**: pieces of text in what builds a group, and in what is a validator. -/
structure RuleMarks where
  groups : List Text
  validator : Text
  deriving DecidableEq, Repr

def RuleMarks.default : RuleMarks :=
  ⟨["formBuilder.group".toList, "fb.group".toList], "Validators".toList⟩

/-- The validators that the value of a control names: those of its elements, and of the elements of arrays among them.
-/
def validatorsOf (m : RuleMarks) (value : Tree) : List Text :=
  ((value.elements.flatMap fun e => if e.kind = .array then e.elements else [e]).map Tree.text).filter
    (Text.hasPiece m.validator)

def controlsOf (m : RuleMarks) (call : Tree) : List (Text × List Text) :=
  if m.groups.any fun g => Text.hasPiece g call.callee then
    match call.callArguments with
    | [] => []
    | a :: _ =>
      (a.properties.filter fun p => p.2.kind == .array).map fun p => (p.1, validatorsOf m p.2)
  else []

/-- **The rules of the controls of a class**: a control that is stated again has its last rules. -/
def rulesOf (m : RuleMarks) (c : ClassOutline) : Table (List Text) :=
  Table.ofList (c.calls.flatMap (controlsOf m))

end Logic
end ViewAtlas
