import ViewAtlas.Script.Tree
import ViewAtlas.Table
/-!
# Literals

What a literal of a script stands for: the text of a string, the pairs of an object, the elements of an array.
-/
namespace ViewAtlas
namespace Script

def stripQuotes (s : Text) : Text := s.filter fun c => !(c = '\'' || c = '"' || c = '\x60')

/-- What a character after a backslash stands for: a control character for some letters, nothing for the end of a
line, itself otherwise. -/
def unescapeChar (c : Char) : Text :=
  if c = 'n' then ['\n']
  else if c = 't' then ['\t']
  else if c = 'r' then ['\r']
  else if c = 'b' then ['\x08']
  else if c = 'f' then ['\x0c']
  else if c = 'v' then ['\x0b']
  else if c = '0' then ['\x00']
  else if c = '\n' then []
  else [c]

def unescape : Text → Text
  | [] => []
  | [c] => [c]
  | c :: d :: s => if c = '\\' then unescapeChar d ++ unescape s else c :: unescape (d :: s)

namespace Tree

/-- **The text that a string stands for**; none for other nodes, and for a template literal that is computed. -/
def stringValue? (t : Tree) : Option Text :=
  let value := unescape ((t.text.drop 1).dropLast)
  match t.kind with
  | .string => some value
  | .template => if t.children.any (·.kind == .substitution) then none else some value
  | _ => none

/-- **The properties of an object**: the values of its pairs by their keys, quotes removed. -/
def properties (t : Tree) : Table Tree :=
  if t.kind = .object then
    Table.ofList <| (t.children.filter (·.kind == .pair)).filterMap fun p =>
      match p.child? .key, p.child? .value with
      | some k, some v => some (stripQuotes k.text, v)
      | _, _ => none
  else []

def elements (t : Tree) : List Tree := if t.kind = .array then t.children else []

theorem sizeOf_child {t c : Tree} (h : c ∈ t.children) : sizeOf c < sizeOf t := by
  cases t with
  | node r k s cs =>
    have := List.sizeOf_lt_of_mem h
    simp only [children, Tree.node.sizeOf_spec] at *
    omega

theorem sizeOf_child? {t c : Tree} {r : Role} (h : t.child? r = some c) : sizeOf c < sizeOf t :=
  sizeOf_child (List.mem_of_find?_eq_some h)

theorem sizeOf_property {t v : Tree} {key : Text} (h : t.properties.get? key = some v) : sizeOf v < sizeOf t := by
  unfold properties at h
  split at h
  · have hm := Table.mem_of_mem_ofList (Table.mem_of_get? h)
    obtain ⟨p, hp, hv⟩ := List.mem_filterMap.1 hm
    split at hv
    · rename_i hv'
      simp only [Option.some.injEq, Prod.mk.injEq] at hv
      rw [← hv.2]
      exact Nat.lt_trans (sizeOf_child? hv') (sizeOf_child (List.mem_filter.1 hp).1)
    · simp at hv
  · simp [Table.get?] at h

theorem sizeOf_element {t e : Tree} (h : e ∈ t.elements) : sizeOf e < sizeOf t := by
  unfold elements at h
  split at h
  · exact sizeOf_child h
  · simp at h

end Tree
end Script
end ViewAtlas
