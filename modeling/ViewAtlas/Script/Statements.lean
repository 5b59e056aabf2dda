import ViewAtlas.Script.Expressions
/-!
# Statements

A statement is read by the word or mark that it starts with.  Words such as `type` or `declare` start a statement of
their own only where what follows them fits, and are names elsewhere.
-/
namespace ViewAtlas
namespace Script

variable (self : Nested)

def condition : Reader Tree := parenthesized self

def declarator : Reader Tree := node .declarator do
  let n ← self .pattern
  discard <| attempt (mark "!")
  let t ← statedType self
  let v ← initializer self
  return n.as .name :: t ++ (v.map (Tree.as .value)).toList

def declarators : Reader (List Tree) := do
  let w ← keywordOf ["var", "let", "const"]
  if w = "let".toList then
    match ← upcoming with
    | [] => refuse
    | c :: s => unless c = '\x7b' || c = '[' || wordLength (c :: s) ≠ 0 do refuse
  separated (declarator self)

def variableStatement : Reader Tree := node .bindings do
  let ds ← declarators self
  terminator
  return ds

/-- A declaration of a function; without a body it states a signature only. -/
def functionStatement : Reader Tree := node .other do
  discard <| attempt asyncMark
  keyword "function"
  discard <| attempt (mark "*")
  let n ← identifier
  let s ← signature self
  let b ← either (do return [← block self]) (do terminator; return [])
  return n :: s ++ b

def classStatement : Reader Tree := node .classDeclaration do
  let ds ← many (decorator self)
  discard <| attempt (keyword "abstract")
  keyword "class"
  let n ← className
  let rest ← classRest self (classBase self)
  return ds ++ n.as .name :: rest

def enumStatement : Reader Tree := node .other do
  discard <| attempt (keyword "const")
  keyword "enum"
  discard identifier
  mark "\x7b"
  let ms ← listed do
    let n ← propertyName self
    let e ← initializer self
    return n :: e.toList
  mark "\x7d"
  return ms.flatten

def interfaceStatement : Reader Tree := node .other do
  keyword "interface"
  discard identifier
  let ts ← attempt (typeParameters self)
  let bases ← attempt do
    keyword "extends"
    separated (self .type)
  let b ← objectType self
  return ts.toList ++ bases.getD [] ++ [b]

def typeStatement : Reader Tree := node .other do
  keyword "type"
  discard identifier
  let ts ← attempt (typeParameters self)
  mark "="
  let t ← self .type
  terminator
  return ts.toList ++ [t]

def namespaceStatement : Reader Tree := node .other do
  discard <| keywordOf ["namespace", "module"]
  if ← lineEnds then refuse
  discard <| either stringLiteral <| node .other do
    discard identifier
    discard <| many do
      mark "."
      word
    return []
  if ← markAhead "\x7b" then return [← block self]
  else
    terminator
    return []

/-- Another name for a part of a namespace, or for a module. -/
def aliasStatement : Reader Tree := node .other do
  keyword "import"
  discard <| attempt do
    keyword "type"
    if (← wordAhead).isNone then refuse
  discard identifier
  mark "="
  discard <| either
    (do
      keyword "require"
      mark "("
      discard stringLiteral
      mark ")")
    (do
      discard identifier
      discard <| many do
        mark "."
        word)
  terminator
  return []

def declaration : Reader Tree := do
  match String.ofList ((← wordAhead).getD []) with
  | "var" | "let" => variableStatement self
  | "const" => either (enumStatement self) (variableStatement self)
  | "function" => functionStatement self
  | "async" => functionStatement self
  | "class" => classStatement self
  | "abstract" => classStatement self
  | "enum" => enumStatement self
  | "interface" => interfaceStatement self
  | "type" => typeStatement self
  | "namespace" | "module" => namespaceStatement self
  | "import" => aliasStatement
  | "declare" => node .other do
    keyword "declare"
    if ← keywordAhead "global" then
      keyword "global"
      return [← block self]
    else return [← self .statement]
  | _ => refuse

def isDeclared : Reader Bool := ahead do
  keyword "declare"
  if ← lineEnds then refuse
  discard <| keywordOf
    ["var", "let", "const", "function", "async", "class", "abstract", "enum", "interface", "type", "namespace", "module",
      "global", "import"]

def source : Reader Tree := return (← stringLiteral).as .source

def importAttributes : Reader Unit := discard <| attempt do
  discard <| keywordOf ["with", "assert"]
  objectLiteral self

def specifier : Reader Unit := do
  let one : Reader Unit := either (discard stringLiteral) (discard word)
  discard <| attempt do
    keyword "type"
    unless (← wordAhead).isSome || (← upcoming).head? = some '"' || (← upcoming).head? = some '\'' do refuse
    if ← keywordAhead "as" then refuse
  one
  discard <| attempt do
    keyword "as"
    one

def specifiers : Reader Unit := do
  mark "\x7b"
  discard <| listed specifier
  mark "\x7d"

def importClause : Reader Unit := do
  let whole : Reader Unit := do
    mark "*"
    keyword "as"
    discard identifier
  oneOf
    [whole,
      specifiers,
      do
        discard identifier
        discard <| attempt do
          mark ","
          either whole specifiers]

def importStatement : Reader Tree := node .importing do
  keyword "import"
  let s ← oneOf
    [source,
      do
        discard <| keywordOf ["type", "typeof"]
        importClause
        keyword "from"
        source,
      do
        importClause
        keyword "from"
        source]
  importAttributes self
  terminator
  return [s]

def exportClause : Reader (List Tree) := do
  discard <| attempt do
    keyword "type"
    unless (← markAhead "*") || (← markAhead "\x7b") do refuse
  let children ← either
    (do
      mark "*"
      discard <| attempt do
        keyword "as"
        either (discard stringLiteral) (discard word)
      keyword "from"
      return [← source])
    (do
      specifiers
      let s ← attempt do
        keyword "from"
        source
      return s.toList)
  importAttributes self
  terminator
  return children

/-- What is exported as the default: a declaration with a name, or the value of an expression. -/
def exportDefault : Reader (List Tree) := do
  keyword "default"
  oneOf
    [do return [(← classStatement self).as .declaration],
      do return [(← functionStatement self).as .declaration],
      do return [(← interfaceStatement self).as .declaration],
      do
        let e ← expressions self
        terminator
        return [e.as .value]]

def exportStatement : Reader Tree := node .exporting do
  let ds ← many (decorator self)
  keyword "export"
  let children ← oneOf
    [exportDefault self,
      exportClause self,
      do
        mark "="
        let e ← expressions self
        terminator
        return [e],
      do
        keyword "as"
        keyword "namespace"
        discard identifier
        terminator
        return [],
      do
        if ← markAhead "@" then return [(← classStatement self).as .declaration]
        else return [(← declaration self).as .declaration]]
  return ds ++ children

def expressionStatement : Reader Tree := node .other do
  let e ← expressions self
  terminator
  return [e]

def ifStatement : Reader Tree := node .other do
  keyword "if"
  let c ← condition self
  let t ← self .statement
  let e ← attempt do
    keyword "else"
    self .statement
  return c :: t :: e.toList

def loopItems : Reader (List Tree) := do
  let x ← either
    (do
      discard <| keywordOf ["var", "let", "const"]
      let p ← self .pattern
      unless (← keywordAhead "of") || (← keywordAhead "in") do refuse
      return p)
    (postfixed self)
  discard <| keywordOf ["of", "in"]
  let e ← expressions self
  return [x, e]

def loopSteps : Reader (List Tree) := do
  let first ← oneOf
    [do return (← declarators self),
      do return [← expressions self],
      do return []]
  mark ";"
  let test ← attempt (expressions self)
  mark ";"
  let step ← attempt (expressions self)
  return first ++ test.toList ++ step.toList

def forStatement : Reader Tree := node .other do
  keyword "for"
  discard <| attempt (keyword "await")
  mark "("
  let head ← either
    (do
      let items ← loopItems self
      mark ")"
      return items)
    (do
      let steps ← loopSteps self
      mark ")"
      return steps)
  return head ++ [← self .statement]

def whileStatement : Reader Tree := node .other do
  keyword "while"
  let c ← condition self
  return [c, ← self .statement]

def doStatement : Reader Tree := node .other do
  keyword "do"
  let s ← self .statement
  keyword "while"
  let c ← condition self
  discard <| attempt (mark ";")
  return [s, c]

def tryStatement : Reader Tree := node .other do
  keyword "try"
  let b ← block self
  let c ← attempt do
    keyword "catch"
    let p ← attempt do
      mark "("
      let p ← self .pattern
      let t ← statedType self
      mark ")"
      return p :: t
    return p.getD [] ++ [← block self]
  let f ← attempt do
    keyword "finally"
    block self
  return b :: c.getD [] ++ f.toList

def switchCase : Reader (List Tree) := do
  let c ← either
    (do
      keyword "case"
      return [← expressions self])
    (do
      keyword "default"
      return [])
  mark ":"
  let ss ← many (self .statement)
  return c ++ ss

def switchStatement : Reader Tree := node .other do
  keyword "switch"
  let c ← condition self
  mark "\x7b"
  let cases ← many (switchCase self)
  mark "\x7d"
  return c :: cases.flatten

/-- A statement that leaves a function or a loop, with a value or a label where one may follow. -/
def leaving : Reader Tree := node .other do
  let w ← keywordOf ["return", "throw", "break", "continue"]
  if w = "throw".toList then
    let e ← expressions self
    terminator
    return [e]
  else if ← ahead terminator then
    terminator
    return []
  else
    let e ← if w = "return".toList then expressions self else identifier
    terminator
    return [e]

def labelled : Reader Tree := node .other do
  discard identifier
  mark ":"
  return [← self .statement]

/-- A statement by the word that it starts with; most words are the start of an expression. -/
def wordStatement (w : String) : Reader Tree :=
  match w with
  | "var" | "const" => declaration self
  | "let" => either (variableStatement self) (expressionStatement self)
  | "function" => functionStatement self
  | "class" => classStatement self
  | "enum" => enumStatement self
  | "import" => oneOf [importStatement self, aliasStatement, expressionStatement self]
  | "export" => exportStatement self
  | "if" => ifStatement self
  | "for" => forStatement self
  | "while" => whileStatement self
  | "do" => doStatement self
  | "try" => tryStatement self
  | "switch" => switchStatement self
  | "return" | "throw" | "break" | "continue" => leaving self
  | "debugger" => node .other do keyword "debugger"; terminator; return []
  | "with" => node .other do
    keyword "with"
    let c ← condition self
    return [c, ← self .statement]
  | "async" => either (functionStatement self) (either (labelled self) (expressionStatement self))
  | "abstract" => either (classStatement self) (either (labelled self) (expressionStatement self))
  | "interface" | "type" | "namespace" | "module" =>
    either (declaration self) (either (labelled self) (expressionStatement self))
  | "declare" => do
    if ← isDeclared then declaration self else either (labelled self) (expressionStatement self)
  | _ => either (labelled self) (expressionStatement self)

def readStatement : Reader Tree := do
  match ← upcoming with
  | [] => refuse
  | c :: s =>
    if c = '\x7b' then block self
    else if c = ';' then node .other do mark ";"; return []
    else if c = '@' then oneOf [exportStatement self, classStatement self, expressionStatement self]
    else wordStatement self (String.ofList ((c :: s).take (wordLength (c :: s))))

end Script
end ViewAtlas
