import ViewAtlas.Script.Typing
/-!
# Classes

A class body is read into its members.  A method has a body; a field may have a value; whatever else a class may hold
(signatures, index signatures, initial blocks) is read and set aside.
-/
namespace ViewAtlas
namespace Script

variable (self : Nested)

def memberWords : List String :=
  ["public", "private", "protected", "static", "override", "readonly", "abstract", "declare", "async", "accessor", "get",
    "set"]

def memberModifiers : Reader Unit :=
  discard <| many do
    if ← markAhead "*" then mark "*"
    else
      discard <| keywordOf memberWords
      unless (← nameAhead) || (← markAhead "*") do refuse

/-- A block of statements run when the class is made. -/
def staticBlock : Reader Tree := node .other do
  keyword "static"
  return [← block self]

def methodRest : Reader (List Tree) := do
  let s ← signature self
  let b ← block self
  return s ++ [b.as .body]

def method : Reader Tree := node .method do
  memberModifiers
  let name ← propertyName self
  discard <| attempt (mark "?")
  return name.as .name :: (← methodRest self)

def methodSignature : Reader Tree := node .other do
  memberModifiers
  let name ← propertyName self
  discard <| attempt (mark "?")
  return name :: (← signature self)

def field : Reader Tree := node .field do
  memberModifiers
  let name ← propertyName self
  discard <| attempt (markOf ["?", "!"])
  let t ← statedType self
  let v ← initializer self
  return name.as .name :: t ++ (v.map (Tree.as .value)).toList

def indexSignature : Reader Tree := node .other do
  modifiers ["static", "readonly", "public", "private", "protected"]
  let k ← indexKey self
  let t ← statedType self
  return k :: t

def memberEnd : Reader Unit := either (mark ",") terminator

/-- The members that one entry of a class body gives: its decorators and the member. -/
def member : Reader (List Tree) := do
  if ← markAhead ";" then
    mark ";"
    return []
  let ds ← many (decorator self)
  let m ← oneOf
    [staticBlock self,
      method self,
      do
        let m ← methodSignature self
        memberEnd
        return m,
      do
        let m ← indexSignature self
        memberEnd
        return m,
      do
        let m ← field self
        memberEnd
        return m]
  return ds ++ [m]

def classBody : Reader Tree := node .classBody do
  mark "\x7b"
  let ms ← many (member self)
  mark "\x7d"
  return ms.flatten

/-- What a class is made from, after its name: the names of types, the class that it extends (read by `base`), the
interfaces, and the body. -/
def classRest (base : Reader Tree) : Reader (List Tree) := do
  let ts ← attempt (typeParameters self)
  let bases ← attempt do
    keyword "extends"
    separated do
      let e ← base
      let ts ← attempt (typeArguments self)
      return e :: ts.toList
  let interfaces ← attempt do
    keyword "implements"
    separated (self .type)
  let b ← classBody self
  return ts.toList ++ (bases.getD []).flatten ++ interfaces.getD [] ++ [b.as .body]

def className : Reader Tree := do
  if (← keywordAhead "extends") || (← keywordAhead "implements") then refuse
  identifier

end Script
end ViewAtlas
