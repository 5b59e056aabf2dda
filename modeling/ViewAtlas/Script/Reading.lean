import ViewAtlas.Script.Statements
/-!
# Reading a script

`parse?` reads a whole script into the tree of its statements; it gives none when the script has a syntax error.
-/
namespace ViewAtlas
namespace Script

/-- **The nested phrases**, to a number of levels. -/
def nested : (levels : Nat) → Nested
  | 0, _ => throw .starved
  | n + 1, phrase =>
    match phrase with
    | .expression annotated => readExpression (nested n) annotated
    | .operand => readOperand (nested n)
    | .type => readType (nested n)
    | .statement => readStatement (nested n)
    | .pattern => readPattern (nested n)

/-- Levels enough for every script of this length: each level but four takes a character. -/
def levelsFor (s : Text) : Nat := 4 * s.length + 8

def statements (self : Nested) : Reader Tree := node .other do
  let ss ← many (self .statement)
  gap
  match (← get).rest with
  | [] => return ss
  | _ => refuse

/-- How many characters the line that names an interpreter takes. -/
def interpreterLength (s : Text) : Nat :=
  match s with
  | '#' :: '!' :: r => 2 + lineLength r
  | _ => 0

/-- **The tree of a script**; none when it has a syntax error. -/
def parse? (s : Text) : Option Tree :=
  let n := interpreterLength s
  match statements (nested (levelsFor s)) ⟨s.drop n, n⟩ with
  | .ok (t, _) => some t
  | .error _ => none

end Script
end ViewAtlas
