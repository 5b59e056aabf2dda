import Mathlib.Data.List.Induction
import ViewAtlas.Script.Literal
/-!
# Properties of objects

A table made of entries has each key where it was first set, with the value that it was last set to (`Table.keys_ofList`,
`Table.get?_ofList`).  So the property of an object is the value of the last pair with its key (`Tree.get?_properties`).
-/
namespace ViewAtlas

section
variable {α : Type} [BEq α] [LawfulBEq α]

theorem nodup_eraseDups : ∀ l : List α, l.eraseDups.Nodup
  | [] => .nil
  | a :: l => by
    rw [List.eraseDups_cons]
    refine List.nodup_cons.2 ⟨fun hm => ?_, nodup_eraseDups _⟩
    have := (List.mem_filter.1 (List.mem_eraseDups.1 hm)).2
    simp at this
termination_by l => l.length
decreasing_by
  have := List.length_filter_le (fun b => !b == a) l
  simp only [List.length_cons]
  omega

theorem eraseDups_concat (l : List α) (a : α) :
    (l ++ [a]).eraseDups = if a ∈ l.eraseDups then l.eraseDups else l.eraseDups ++ [a] := by
  rw [List.eraseDups_append]
  by_cases hmem : a ∈ l
  · rw [if_pos (List.mem_eraseDups.2 hmem)]
    simp [List.removeAll, hmem]
  · rw [if_neg fun h => hmem (List.mem_eraseDups.1 h)]
    simp [List.removeAll, hmem, List.eraseDups_cons]

end

namespace Table

variable {α : Type}

theorem ofList_append (entries : List (Text × α)) (e : Text × α) :
    ofList (entries ++ [e]) = (ofList entries).set e.1 e.2 := by
  rw [ofList, merge, List.foldl_append]
  rfl

theorem keys_ofList (entries : List (Text × α)) : (ofList entries).keys = (entries.map (·.1)).eraseDups := by
  induction entries using List.reverseRecOn with
  | nil => rfl
  | append_singleton entries e ih =>
    rw [ofList_append, keys_set, ih, List.map_append, List.map_singleton, eraseDups_concat]

theorem get?_ofList (entries : List (Text × α)) (key : Text) :
    (ofList entries).get? key = (entries.reverse.find? (·.1 = key)).map (·.2) := by
  induction entries using List.reverseRecOn with
  | nil => rfl
  | append_singleton entries e ih =>
    rw [ofList_append, get?_set, ih, List.reverse_append, List.reverse_singleton, List.singleton_append, List.find?_cons]
    by_cases h : e.1 = key <;> simp [h]

end Table

namespace Script

def pairEntry (p : Tree) : Option (Text × Tree) :=
  match p.child? .key, p.child? .value with
  | some k, some v => some (stripQuotes k.text, v)
  | _, _ => none

namespace Tree

def pairs (t : Tree) : List (Text × Tree) :=
  if t.kind = .object then (t.children.filter (·.kind == .pair)).filterMap pairEntry else []

def lastValue? (t : Tree) (key : Text) : Option Tree := (t.pairs.reverse.find? (·.1 = key)).map (·.2)

theorem properties_eq (t : Tree) : t.properties = Table.ofList t.pairs := by
  unfold properties pairs
  split <;> rfl

/-- **A property has the value of the last pair with its key.** -/
theorem get?_properties (t : Tree) (key : Text) : t.properties.get? key = t.lastValue? key := by
  rw [properties_eq, Table.get?_ofList, lastValue?]

theorem sizeOf_lastValue {t v : Tree} {key : Text} (h : t.lastValue? key = some v) : sizeOf v < sizeOf t :=
  sizeOf_property ((t.get?_properties key).trans h)

end Tree

end Script
end ViewAtlas
