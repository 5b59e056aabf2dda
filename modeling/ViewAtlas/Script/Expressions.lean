import ViewAtlas.Script.Classes
/-!
# Expressions

Expressions are read without regard to the precedence of operators: what matters is which literals, functions and
calls they hold and in which order.  A `<` starts arguments of types where such arguments and a call can be read, and
is an operator elsewhere; a parenthesis starts an arrow function where its parameters and its arrow can be read.
-/
namespace ViewAtlas
namespace Script

variable (self : Nested)

def expressions : Reader Tree := do
  gap
  let start ← get
  match ← separated (self (.expression true)) with
  | [e] => return e
  | es => since start .other es

def parenthesized : Reader Tree := node .parentheses do
  mark "("
  let e ← expressions self
  mark ")"
  return [e]

def templatePiece : Reader Tree := do
  let start ← get
  let n := fragmentLength start.rest
  if n ≠ 0 then
    discard <| take n
    since start .fragment []
  else match start.rest with
    | '\\' :: r =>
      match escapeLength? r with
      | some n => do
        discard <| take (n + 1)
        since start .other []
      | none => refuse
    | '$' :: '{' :: _ => do
      discard <| take 2
      let e ← expressions self
      mark "\x7d"
      since start .substitution [e]
    | _ => refuse

/-- **A template literal**: its children are its pieces. -/
def templateLiteral : Reader Tree := node .template do
  exactly "\x60"
  let ps ← many (templatePiece self)
  if (← get).rest.head? = some '\x60' then discard <| take 1 else refuse
  return ps

def spread : Reader Tree := node .other do
  mark "..."
  return [← self (.expression true)]

def arrayLiteral : Reader Tree := node .array do
  mark "["
  let items ← listed (either (spread self) (self (.expression true)))
  mark "]"
  return items

/-- A member of an object literal: a spread, a pair, a method, or a name alone. -/
def objectMember : Reader Tree :=
  oneOf
    [spread self,
      node .pair do
        let k ← propertyName self
        mark ":"
        let v ← self (.expression true)
        return [k.as .key, v.as .value],
      method self,
      identifier]

def objectLiteral : Reader Tree := node .object do
  mark "\x7b"
  let ms ← listed (objectMember self)
  mark "\x7d"
  return ms

/-- The word `async` where the thing that it belongs to follows on the same line. -/
def asyncMark : Reader Unit := do
  keyword "async"
  if ← lineEnds then refuse

def functionExpression : Reader Tree := node .function do
  discard <| attempt asyncMark
  keyword "function"
  let name ← attempt identifier
  let s ← signature self
  let b ← block self
  return name.toList ++ s ++ [b.as .body]

def generatorExpression : Reader Tree := node .other do
  discard <| attempt asyncMark
  keyword "function"
  mark "*"
  let name ← attempt identifier
  let s ← signature self
  let b ← block self
  return name.toList ++ s ++ [b]

/-- An arrow function.  `annotated` says that the type of its result may be stated. -/
def arrowFunction (annotated : Bool) : Reader Tree := node .function do
  discard <| attempt do
    asyncMark
    unless (← markAhead "(") || (← markAhead "<") || (← wordAhead).isSome do refuse
  let head ← either
    (do
      let p ← identifier
      mark "=>"
      return [p])
    (do
      let ts ← attempt (typeParameters self)
      let ps ← parameters self
      let r ← if annotated then attempt (do mark ":"; resultType self) else pure none
      mark "=>"
      return ts.toList ++ ps :: r.getD [])
  let b ← if ← markAhead "\x7b" then block self else self (.expression annotated)
  return head ++ [b.as .body]

def regex : Reader Tree := node .other do
  match regexLength? (← get).rest with
  | none => refuse
  | some n => do discard <| take n; return []

def constant : Reader Tree := node .other do
  discard <| keywordOf ["this", "super", "null", "true", "false"]
  return []

def memberAccess (start : Cursor) (left : Tree) : Reader Tree := do
  discard <| markOf [".", "?."]
  discard <| attempt (exactly "#")
  discard word
  since start .member [left]

def indexAccess (start : Cursor) (left : Tree) : Reader Tree := do
  discard <| attempt (mark "?.")
  mark "["
  let i ← expressions self
  mark "]"
  since start .subscript [left, i]

/-- The statement that an expression is neither null nor undefined. -/
def nonNull (start : Cursor) (left : Tree) : Reader Tree := do
  if ← lineEnds then refuse
  mark "!"
  since start .nonNull [left]

/-- A step repeated on what it gives, as long as it succeeds. -/
def extended (step : Tree → Reader Tree) : (n : Nat) → Tree → Reader Tree
  | 0, _ => throw .starved
  | n + 1, left => do
    match ← attempt (step left) with
    | none => return left
    | some t => extended step n t

def extendedAll (step : Tree → Reader Tree) (left : Tree) : Reader Tree := fun c =>
  extended step (c.rest.length + 1) left c

/-- Whether what comes next may follow arguments of types that no call takes. -/
def instanceEnds : Reader Bool := do
  match ← upcoming with
  | [] => return true
  | c :: _ => return ")],;:\x7d.".toList.contains c

/-- A call, a tagged template, or arguments of types alone. -/
def callStep (start : Cursor) (left : Tree) : Reader Tree := do
  let dot ← attempt do
    mark "?."
    unless (← markAhead "(") || (← markAhead "<") do refuse
  let ts ← attempt (typeArguments self)
  if ← markAhead "(" then
    let args ← arguments self
    since start .call (left.as .callee :: ts.toList ++ [args.as .arguments])
  else if dot.isSome then refuse
  else if (← upcoming).head? = some '\x60' then
    let t ← templateLiteral self
    since start .call (left.as .callee :: ts.toList ++ [t.as .arguments])
  else if ts.isSome && ((← instanceEnds) || (← lineEnds)) then since start .other (left :: ts.toList)
  else refuse

/-- What a `new` makes an object of: anything but a call. -/
def newTarget (primary : Reader Tree) : Reader Tree := do
  gap
  let start ← get
  let t ← primary
  extendedAll (fun left => oneOf [memberAccess start left, indexAccess self start left, nonNull start left]) t

/-- A new object, or the question what `new` was asked for. -/
def newObject (primary : Reader Tree) : Reader Tree := node .other do
  keyword "new"
  if ← markAhead "." then
    mark "."
    keyword "target"
    return []
  let t ← newTarget self primary
  let ts ← attempt (typeArguments self)
  let args ← attempt (arguments self)
  return t :: ts.toList ++ args.toList

/-- The word `import` where a call of it, or a question about the module, follows. -/
def importWord : Reader Tree := node .other do
  keyword "import"
  unless (← markAhead "(") || (← markAhead ".") do refuse
  return []

/-- A function, a class, a constant or a name, by the word that it starts with; `base` reads what a class extends. -/
def wordPrimary (base : Reader Tree) (w : String) : Reader Tree :=
  match w with
  | "function" => either (functionExpression self) (generatorExpression self)
  | "class" => node .other do
    keyword "class"
    let name ← attempt className
    return name.toList ++ (← classRest self base)
  | "import" => importWord
  | "async" => oneOf [functionExpression self, generatorExpression self, identifier]
  | _ => either constant identifier

/-- An expression that neither operators nor accesses extend; `base` reads what a class extends. -/
def primaryOf (base : Reader Tree) : Reader Tree := do
  match ← upcoming with
  | [] => refuse
  | c :: s =>
    if c = '"' ∨ c = '\'' then stringLiteral
    else if c = '\x60' then templateLiteral self
    else if c.isDigit then number
    else if c = '.' then number
    else if c = '(' then parenthesized self
    else if c = '[' then arrayLiteral self
    else if c = '\x7b' then objectLiteral self
    else if c = '/' then regex
    else if c = '#' then node .other do
      exactly "#"
      discard word
      if ← keywordAhead "in" then return [] else refuse
    else if c = '@' then node .other do
      let ds ← many (decorator self)
      keyword "class"
      let name ← attempt className
      return ds ++ name.toList ++ (← classRest self base)
    else wordPrimary self base (String.ofList ((c :: s).take (wordLength (c :: s))))

/-- What a class extends: an expression without operators. -/
def classBase : Reader Tree := self .operand

def primary : Reader Tree := either (newObject self (primaryOf self (classBase self))) (primaryOf self (classBase self))

def postfixed : Reader Tree := do
  gap
  let start ← get
  let t ← primary self
  let t ← extendedAll (fun left =>
    oneOf [callStep self start left, memberAccess start left, indexAccess self start left, nonNull start left]) t
  let step ← attempt do
    if ← lineEnds then refuse
    markOf ["++", "--"]
  if step.isSome then since start .other [t] else return t

def typeAssertion : Reader Tree := node .other do
  exactly "<"
  let t ← self .type
  exactly ">"
  return [t, ← self .operand]

/-- **An operand**: an expression with the operators before and the accesses after it. -/
def readOperand : Reader Tree := do
  match ← upcoming with
  | [] => refuse
  | c :: s =>
    if "+-!~".toList.contains c then node .other do
      discard <| markOf ["++", "--", "+", "-", "!", "~"]
      return [← self .operand]
    else if c = '<' then typeAssertion self
    else match String.ofList ((c :: s).take (wordLength (c :: s))) with
      | "typeof" | "void" | "delete" | "await" => node .other do
        discard word
        return [← self .operand]
      | _ => postfixed self

def operators : List String :=
  ["||", "&&", "??", "|", "^", "&", "==", "!=", "===", "!==", "<", ">", "<=", ">=", "<<", ">>", ">>>", "+", "-", "*", "/",
    "%", "**"]

/-- An operator with its right operand, or a type that an operand is said to have. -/
def operatorStep : Reader Tree :=
  oneOf
    [do
      discard <| markOf operators
      self .operand,
      do
        discard <| keywordOf ["instanceof", "in"]
        self .operand,
      do
        if ← lineEnds then refuse
        discard <| keywordOf ["as", "satisfies"]
        either (node .other do keyword "const"; return []) (self .type)]

def operation : Reader Tree := do
  gap
  let start ← get
  let t ← self .operand
  let more ← many (operatorStep self)
  if more.isEmpty then return t else since start .other (t :: more)

def assignments : List String :=
  ["=", "+=", "-=", "*=", "/=", "%=", "**=", "<<=", ">>=", ">>>=", "&=", "|=", "^=", "&&=", "||=", "??="]

def isAssignable (t : Tree) : Bool :=
  [Kind.identifier, .member, .subscript, .nonNull, .parentheses, .array, .object].contains t.kind

def yielding (annotated : Bool) : Reader Tree := node .other do
  keyword "yield"
  discard <| attempt (mark "*")
  if ← lineEnds then return []
  let e ← attempt (self (.expression annotated))
  return e.toList

/-- The two alternatives of a conditional expression.  The first may hold an arrow function with the type of its
result, but not where that would take the colon away. -/
def alternatives (annotated : Bool) : Reader (List Tree) := do
  mark "?"
  let yes ← either
    (do
      let e ← self (.expression true)
      unless ← markAhead ":" do refuse
      return e)
    (self (.expression false))
  mark ":"
  let no ← self (.expression annotated)
  return [yes, no]

def destructuring (annotated : Bool) : Reader Tree := node .other do
  unless (← markAhead "\x7b") || (← markAhead "[") do refuse
  let p ← self .pattern
  mark "="
  return [p, ← self (.expression annotated)]

/-- Operands with operators between them, a choice between two values, or an assignment. -/
def operationOrAssignment (annotated : Bool) : Reader Tree := do
  gap
  let start ← get
  let t ← operation self
  if ← markAhead "?" then
    let more ← alternatives self annotated
    since start .other (t :: more)
  else if isAssignable t then
    match ← attempt (markOf assignments) with
    | none => return t
    | some _ =>
      let v ← self (.expression annotated)
      since start .other [t, v]
  else return t

def readExpression (annotated : Bool) : Reader Tree := do
  if ← keywordAhead "yield" then yielding self annotated
  else oneOf [arrowFunction self annotated, destructuring self annotated, operationOrAssignment self annotated]

end Script
end ViewAtlas
