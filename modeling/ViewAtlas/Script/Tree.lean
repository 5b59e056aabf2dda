import ViewAtlas.Text.Basic
/-!
# Syntax trees of scripts

A script is read into a tree whose nodes tell apart only what the analyses ask about: calls, literals, functions,
classes with their members, variables, imports and exports.  Every node keeps its exact text, and its children in the
order of the text.  A child that its parent refers to by name has a role.
-/
namespace ViewAtlas
namespace Script

inductive Kind where
  | identifier
  | member
  | subscript
  | nonNull
  | parentheses
  | string
  | template
  | fragment
  | substitution
  | array
  | object
  | pair
  | call
  | arguments
  | function
  | block
  | classDeclaration
  | classBody
  | method
  | field
  | decorator
  | bindings
  | declarator
  | importing
  | exporting
  | other
  deriving DecidableEq, Repr

/-- **What a node is to its parent.** -/
inductive Role where
  | part
  | name
  | body
  | value
  | key
  | callee
  | arguments
  | source
  | declaration
  deriving DecidableEq, Repr

inductive Tree where
  | node (role : Role) (kind : Kind) (text : Text) (children : List Tree)
  deriving Repr

namespace Tree

def role : Tree → Role
  | .node r _ _ _ => r

def kind : Tree → Kind
  | .node _ k _ _ => k

def text : Tree → Text
  | .node _ _ s _ => s

def children : Tree → List Tree
  | .node _ _ _ cs => cs

def as (r : Role) : Tree → Tree
  | .node _ k s cs => .node r k s cs

def child? (t : Tree) (r : Role) : Option Tree := t.children.find? (·.role == r)

mutual

/-- **The nodes of one kind**, in document order, the tree itself among them: a node comes before those inside it. -/
def ofKind (k : Kind) : Tree → List Tree
  | .node r k' s cs => (if k' = k then [.node r k' s cs] else []) ++ ofKindIn k cs

def ofKindIn (k : Kind) : List Tree → List Tree
  | [] => []
  | t :: ts => ofKind k t ++ ofKindIn k ts

end

/-- **The calls in a tree**, in document order. -/
def calls (t : Tree) : List Tree := ofKind .call t

/-- The text of what a call calls; empty for a node that calls nothing. -/
def callee (t : Tree) : Text := match t.child? .callee with | some c => c.text | none => []

/-- The arguments of a call; the pieces of the literal for a tagged one. -/
def callArguments (t : Tree) : List Tree := match t.child? .arguments with | some a => a.children | none => []

end Tree
end Script
end ViewAtlas
