import ViewAtlas.Script.Reader
/-!
# Types

Types are read so that scripts with types can be read; of what they say only calls such as `import('m')` matter.
-/
namespace ViewAtlas
namespace Script

variable (self : Nested)

/-- A name of a member of a class, an object or a type: a word, a string, a number, an expression between brackets, or
a private name. -/
def propertyName : Reader Tree :=
  oneOf
    [stringLiteral,
      number,
      node .other do
        mark "["
        let e ← self (.expression true)
        mark "]"
        return [e],
      node .other do
        exactly "#"
        discard word
        return [],
      node .identifier do
        discard word
        return []]

def nameAhead : Reader Bool := do
  match ← upcoming with
  | [] => return false
  | c :: s => return c = '"' || c = '\'' || c = '[' || c = '#' || c.isDigit || wordLength (c :: s) ≠ 0

def modifiers (words : List String) : Reader Unit :=
  discard <| many do
    discard <| keywordOf words
    unless ← nameAhead do refuse

def typeArguments : Reader Tree := node .other do
  exactly "<"
  let ts ← listed1 (self .type)
  exactly ">"
  return ts

def typeParameter : Reader (List Tree) := do
  discard <| many do
    discard <| keywordOf ["const", "in", "out"]
    if (← wordAhead).isNone then refuse
    if ← keywordAhead "extends" then refuse
  discard identifier
  let bound ← attempt do
    keyword "extends"
    self .type
  let default ← attempt do
    mark "="
    self .type
  return bound.toList ++ default.toList

def typeParameters : Reader Tree := node .other do
  exactly "<"
  let ps ← listed1 (typeParameter self)
  exactly ">"
  return ps.flatten

def statedType : Reader (List Tree) := do
  let t ← attempt do
    mark ":"
    self .type
  return t.toList

def arguments : Reader Tree := node .arguments do
  mark "("
  let items ← listed <| either
    (node .other do
      mark "..."
      let e ← self (.expression true)
      return [e])
    (self (.expression true))
  mark ")"
  return items

/-- A decorator: `@` and a name, a call of a name, or an expression in parentheses. -/
def decorator : Reader Tree := node .decorator do
  exactly "@"
  if ← markAhead "(" then
    let e ← node .parentheses do
      mark "("
      let e ← self (.expression true)
      mark ")"
      return [e]
    return [e]
  else
    gap
    let start ← get
    let first ← identifier
    let more ← many do
      mark "."
      word
    let name ← if more.isEmpty then pure first else since start .member [first]
    let call ← attempt do
      let ts ← attempt (typeArguments self)
      let args ← arguments self
      since start .call (name.as .callee :: ts.toList ++ [args.as .arguments])
    return [call.getD name]

def initializer : Reader (Option Tree) := attempt do
  mark "="
  self (.expression true)

def parameter : Reader (List Tree) := do
  let ds ← many (decorator self)
  discard <| many do
    discard <| keywordOf ["public", "private", "protected", "override", "readonly"]
    match ← upcoming with
    | [] => refuse
    | c :: s => if c ≠ '\x7b' && c ≠ '[' && wordLength (c :: s) = 0 then refuse
  discard <| attempt (mark "...")
  let p ← either (self .pattern) (node .other do keyword "this"; return [])
  discard <| attempt (mark "?")
  let t ← statedType self
  let e ← initializer self
  return ds ++ p :: t ++ e.toList

def parameters : Reader Tree := node .other do
  mark "("
  let ps ← attempt (listed1 (parameter self))
  mark ")"
  return (ps.getD []).flatten

/-- The type of a result, or what a result says about an argument. -/
def resultType : Reader (List Tree) :=
  oneOf
    [do
      keyword "asserts"
      if ← lineEnds then refuse
      discard word
      let t ← attempt do
        keyword "is"
        self .type
      return t.toList,
      do
        discard word
        if ← lineEnds then refuse
        keyword "is"
        let t ← self .type
        return [t],
      do return [← self .type]]

/-- What a function takes and gives: the names of types, the parameters, the type of the result. -/
def signature : Reader (List Tree) := do
  let ts ← attempt (typeParameters self)
  let ps ← parameters self
  let r ← attempt do
    mark ":"
    resultType self
  return ts.toList ++ ps :: r.getD []

def functionType : Reader Tree := node .other do
  discard <| attempt do
    discard <| attempt (keyword "abstract")
    keyword "new"
  let ts ← attempt (typeParameters self)
  let ps ← parameters self
  mark "=>"
  let r ← resultType self
  return ts.toList ++ ps :: r

def tupleElement : Reader Tree := node .other do
  discard <| attempt (mark "...")
  discard <| attempt do
    discard word
    discard <| attempt (mark "?")
    mark ":"
  let t ← self .type
  discard <| attempt (mark "?")
  return [t]

def indexKey : Reader Tree := node .other do
  mark "["
  discard word
  let ts ← either
    (do
      mark ":"
      return [← self .type])
    (do
      keyword "in"
      let t ← self .type
      let u ← attempt do
        keyword "as"
        self .type
      return t :: u.toList)
  mark "]"
  return ts

def typeMember : Reader Tree := node .other do
  discard <| attempt (markOf ["+", "-"])
  modifiers ["readonly", "get", "set", "static"]
  let children ← oneOf
    [do
      discard <| attempt do
        keyword "new"
        unless (← markAhead "(") || (← markAhead "<") do refuse
      signature self,
      do
        let name ← either (indexKey self) (propertyName self)
        discard <| attempt (markOf ["+", "-"])
        discard <| attempt (mark "?")
        let rest ← either (signature self) (statedType self)
        return name :: rest]
  either (mark ",") terminator
  return children

def objectType : Reader Tree := node .other do
  mark "\x7b"
  let ms ← many (typeMember self)
  mark "\x7d"
  return ms

/-- The pieces of a template literal type up to its closing quote. -/
def templateTypePiece : Reader (Option Tree) := do
  let s := (← get).rest
  let n := fragmentLength s
  if n ≠ 0 then do discard <| take n; return none
  else match s with
    | '\\' :: r =>
      match escapeLength? r with
      | some n => do discard <| take (n + 1); return none
      | none => refuse
    | '$' :: '{' :: _ => do
      discard <| take 2
      let t ← self .type
      mark "\x7d"
      return some t
    | _ => refuse

def templateType : Reader Tree := node .other do
  exactly "\x60"
  let ts ← many (templateTypePiece self)
  if (← get).rest.head? = some '\x60' then discard <| take 1 else refuse
  return ts.filterMap id

/-- A module named in a type, as the call that it looks like. -/
def importedModule : Reader Tree := node .call do
  let callee ← node .other do
    keyword "import"
    return []
  let args ← arguments self
  return [callee.as .callee, args.as .arguments]

/-- The words that name a type although no variable may have their name. -/
def typeWords : List Text := ["void", "null", "this", "true", "false"].map String.toList

def typeReference : Reader Tree := node .other do
  let query ← attempt (keyword "typeof")
  let head ← either
    (do return [← importedModule self])
    (do
      let w ← word
      if reservedWords.contains w && !typeWords.contains w then refuse else return [])
  discard <| many do
    mark "."
    discard <| attempt (exactly "#")
    word
  if query.isSome && (← lineEnds) then return head
  let ts ← attempt (typeArguments self)
  return head ++ ts.toList

def primaryType : Reader Tree :=
  oneOf
    [node .other do
      mark "("
      let t ← self .type
      mark ")"
      return [t],
      node .other do
        mark "["
        let ts ← listed (tupleElement self)
        mark "]"
        return ts,
      objectType self,
      templateType self,
      stringLiteral,
      node .other do
        discard <| attempt (mark "-")
        return [← number],
      typeReference self]

def typeAhead : Reader Bool := do
  match ← upcoming with
  | [] => return false
  | c :: s =>
    return "\x22'(\x7b[\x60-".toList.contains c || c.isDigit ||
      (wordLength (c :: s) ≠ 0 && (c :: s).take (wordLength (c :: s)) ≠ "extends".toList)

/-- A type with the words before it and the brackets after it. -/
def unaryType : Reader Tree := node .other do
  discard <| many do
    discard <| keywordOf ["keyof", "unique", "readonly", "infer"]
    unless ← typeAhead do refuse
  let t ← primaryType self
  let indices ← many do
    if ← lineEnds then refuse
    mark "["
    let i ← attempt (self .type)
    mark "]"
    return i
  return t :: indices.filterMap id

def intersectionType : Reader Tree := node .other do
  discard <| attempt (mark "&")
  let t ← unaryType self
  let more ← many do
    mark "&"
    either (functionType self) (unaryType self)
  return t :: more

def unionType : Reader Tree := node .other do
  discard <| attempt (mark "|")
  let t ← intersectionType self
  let more ← many do
    mark "|"
    either (functionType self) (intersectionType self)
  return t :: more

def readType : Reader Tree := either (functionType self) <| node .other do
  let t ← unionType self
  let choice ← attempt do
    if ← lineEnds then refuse
    keyword "extends"
    let bound ← unionType self
    mark "?"
    let yes ← self .type
    mark ":"
    let no ← self .type
    return [bound, yes, no]
  return t :: choice.getD []

/-- **What a declaration names**: a name, or a pattern that takes an object or an array apart. -/
def readPattern : Reader Tree :=
  let withDefault : Reader (List Tree) := do
    let p ← self .pattern
    let e ← initializer self
    return p :: e.toList
  let rest : Reader (List Tree) := do
    mark "..."
    return [← self .pattern]
  oneOf
    [identifier,
      node .other do
        mark "\x7b"
        let items ← listed <| oneOf
          [rest,
            do
              let k ← propertyName self
              mark ":"
              let v ← withDefault
              return k :: v,
            do
              let n ← identifier
              let e ← initializer self
              return n :: e.toList]
        mark "\x7d"
        return items.flatten,
      node .other do
        mark "["
        let items ← listed (either rest withDefault)
        mark "]"
        return items.flatten]

def block : Reader Tree := node .block do
  mark "\x7b"
  let ss ← many (self .statement)
  mark "\x7d"
  return ss

end Script
end ViewAtlas
