import Mathlib.Data.List.Infix
import ViewAtlas.Logic.Rules
import ViewAtlas.Proofs.Script.Order
import ViewAtlas.Proofs.Script.Properties
/-!
# The rules of controls

The calls of a class that build form groups state controls, one after another (`Occurs`).  In the table of rules each
control stands where it is stated first, with the rules that it is stated with last (`rulesOf_occurs`).
-/
namespace ViewAtlas

namespace Table

variable {α : Type}

theorem eq_filterMap_keys : ∀ {t : Table α}, t.keys.Nodup → t = t.keys.filterMap fun k => (t.get? k).map (k, ·)
  | [], _ => rfl
  | (k, v) :: t, h => by
    rw [keys, List.map_cons, List.nodup_cons] at h
    have hrest : (keys t).filterMap (fun k' => (get? k' ((k, v) :: t)).map (k', ·)) =
        (keys t).filterMap fun k' => (get? k' t).map (k', ·) :=
      List.filterMap_congr fun k' hk' => by
        have hne : k ≠ k' := fun heq => h.1 (heq ▸ hk')
        rw [get?, if_neg hne]
    have hhead : get? k ((k, v) :: t) = some v := if_pos rfl
    have hcons : keys ((k, v) :: t) = k :: keys t := rfl
    rw [hcons, List.filterMap_cons, hrest, hhead, ← eq_filterMap_keys h.2]
    rfl

theorem get?_ofList_eq_some {entries : List (Text × α)} {key : Text} {value : α} :
    (ofList entries).get? key = some value ↔
      ∃ before after, entries = before ++ (key, value) :: after ∧ key ∉ after.map (·.1) := by
  rw [get?_ofList, Option.map_eq_some_iff]
  constructor
  · rintro ⟨e, hfind, rfl⟩
    obtain ⟨hkey, after, before, heq, hafter⟩ := List.find?_eq_some_iff_append.1 hfind
    obtain rfl : e.1 = key := of_decide_eq_true hkey
    have heq : entries = before.reverse ++ e :: after.reverse := by
      rw [← List.reverse_reverse entries, heq]
      simp
    refine ⟨_, _, heq, fun hmem => ?_⟩
    obtain ⟨d, hd, hde⟩ := List.mem_map.1 hmem
    simpa [hde] using hafter d (List.mem_reverse.1 hd)
  · rintro ⟨before, after, rfl, hafter⟩
    refine ⟨(key, value), ?_, rfl⟩
    have hnone : after.reverse.find? (·.1 = key) = none := List.find?_eq_none.2 fun d hd h =>
      hafter (List.mem_map.2 ⟨d, List.mem_reverse.1 hd, of_decide_eq_true h⟩)
    simp [hnone]

end Table

namespace Script
namespace Tree

/-- The keys of an object, each once, in the order of the text. -/
def keys (o : Tree) : List Text := (o.pairs.map (·.1)).eraseDups

/-- The keys of an object whose value is an array, each with its array. -/
def arrays (o : Tree) : List (Text × Tree) :=
  (o.keys.filterMap fun k => (o.lastValue? k).map (k, ·)).filter (·.2.kind = .array)

theorem properties_eq_keys (o : Tree) : o.properties = o.keys.filterMap fun k => (o.lastValue? k).map (k, ·) := by
  have hkeys : o.properties.keys = o.keys := by rw [properties_eq, Table.keys_ofList, keys]
  have hnodup : o.properties.keys.Nodup := hkeys ▸ nodup_eraseDups _
  rw [Table.eq_filterMap_keys hnodup, hkeys]
  simp only [get?_properties]

end Tree
end Script

namespace Logic

open Script (Tree ClassOutline Role)

variable (m : RuleMarks)

/-- **A call builds a group** of an object: a marker stands in the text of what it calls, and its first argument is the
object. -/
def Groups (call o : Tree) : Prop :=
  (∃ g ∈ m.groups, g <:+: call.callee) ∧ call.callArguments.head? = some o ∧ o.kind = .object

/-- **The controls that calls state**, one after another, each with the array of its validators. -/
inductive Occurs : List Tree → List (Text × Tree) → Prop
  | none : Occurs [] []
  | group {call o : Tree} {calls : List Tree} {stated : List (Text × Tree)} (h : Groups m call o)
      (rest : Occurs calls stated) : Occurs (call :: calls) (o.arrays ++ stated)
  | other {call : Tree} {calls : List Tree} {stated : List (Text × Tree)} (h : ∀ o, ¬ Groups m call o)
      (rest : Occurs calls stated) : Occurs (call :: calls) stated

/-- The elements of an array, and in place of an array among them its elements. -/
def spread : List Tree → List Tree
  | [] => []
  | e :: es => if e.kind = .array then e.children ++ spread es else e :: spread es

/-- **The rules that an array states.** -/
def rulesIn (value : Tree) : List Text := ((spread value.children).map Tree.text).filter (m.validator <:+: ·)

theorem spread_eq : ∀ es : List Tree, spread es = es.flatMap fun e => if e.kind = .array then e.elements else [e]
  | [] => rfl
  | e :: es => by
    rw [spread, List.flatMap_cons, ← spread_eq es]
    by_cases h : e.kind = .array <;> simp [h, Tree.elements]

theorem validatorsOf_eq {value : Tree} (h : value.kind = .array) : validatorsOf m value = rulesIn m value := by
  have hpiece : Text.hasPiece m.validator = fun t => decide (m.validator <:+: t) := by
    funext t
    rw [Bool.eq_iff_iff, Text.hasPiece_iff, decide_eq_true_iff]
  rw [validatorsOf, rulesIn, spread_eq, hpiece, Tree.elements, if_pos h]

theorem controlsOf_group {call o : Tree} (h : Groups m call o) :
    controlsOf m call = o.arrays.map fun p => (p.1, rulesIn m p.2) := by
  obtain ⟨⟨g, hg, hpiece⟩, hfirst, -⟩ := h
  obtain ⟨rest, hargs⟩ := List.head?_eq_some_iff.1 hfirst
  have hmarked : (m.groups.any fun g => Text.hasPiece g call.callee) = true :=
    List.any_eq_true.2 ⟨g, hg, Text.hasPiece_iff.2 hpiece⟩
  have harrays : (o.properties.filter fun p => p.2.kind == .array) = o.arrays := by
    rw [Tree.properties_eq_keys, Tree.arrays]
    exact List.filter_congr fun p _ => by simp [beq_eq_decide]
  rw [controlsOf, if_pos hmarked, hargs]
  dsimp only
  rw [harrays]
  refine List.map_congr_left fun p hp => ?_
  rw [validatorsOf_eq m (of_decide_eq_true (List.mem_filter.1 hp).2)]

theorem controlsOf_other {call : Tree} (h : ∀ o, ¬ Groups m call o) : controlsOf m call = [] := by
  rw [controlsOf]
  split
  · rename_i hmarked
    obtain ⟨g, hg, hpiece⟩ := List.any_eq_true.1 hmarked
    cases hargs : call.callArguments with
    | nil => rfl
    | cons o rest =>
      have hobject : o.kind ≠ .object := fun hkind =>
        h o ⟨⟨g, hg, Text.hasPiece_iff.1 hpiece⟩, by rw [hargs, List.head?_cons], hkind⟩
      simp [Tree.properties, hobject]
  · rfl

theorem exists_occurs : ∀ calls : List Tree, ∃ stated, Occurs m calls stated ∧
    calls.flatMap (controlsOf m) = stated.map fun p => (p.1, rulesIn m p.2)
  | [] => ⟨[], .none, rfl⟩
  | call :: calls => by
    obtain ⟨stated, hrest, heq⟩ := exists_occurs calls
    by_cases h : ∃ o, Groups m call o
    · obtain ⟨o, ho⟩ := h
      exact ⟨_, .group ho hrest, by rw [List.flatMap_cons, controlsOf_group m ho, heq, List.map_append]⟩
    · have h : ∀ o, ¬ Groups m call o := not_exists.1 h
      exact ⟨_, .other h hrest, by rw [List.flatMap_cons, controlsOf_other m h, heq, List.nil_append]⟩

/-- **The rules of the controls of a class.**  All calls in its body, in document order, state the controls.  Each of
these stands in the table once, where it is stated first, and has the rules of the array that it is stated with last. -/
theorem rulesOf_occurs (c : ClassOutline) (role : Role) (text : Text) :
    (Script.Tree.node role .classBody text c.members).InDocumentOrder .call c.calls ∧
    ∃ stated, Occurs m c.calls stated ∧
      (rulesOf m c).keys = (stated.map (·.1)).eraseDups ∧
      ∀ name rules, (rulesOf m c).get? name = some rules ↔ ∃ before value after,
        stated = before ++ (name, value) :: after ∧ name ∉ after.map (·.1) ∧ rules = rulesIn m value := by
  have hcalls : c.calls = (Script.Tree.node role .classBody text c.members).calls := by
    rw [Tree.calls_node (by decide)]
    rfl
  refine ⟨hcalls ▸ Tree.ofKind_inDocumentOrder .call _, ?_⟩
  obtain ⟨stated, hstated, heq⟩ := exists_occurs m c.calls
  refine ⟨stated, hstated, ?_, fun name rules => ?_⟩
  · rw [rulesOf, heq, Table.keys_ofList, List.map_map]
    rfl
  · rw [rulesOf, heq, Table.get?_ofList_eq_some]
    constructor
    · rintro ⟨before, after, hdiv, hafter⟩
      obtain ⟨b, l, rfl, -, hl⟩ := List.map_eq_append_iff.1 hdiv
      obtain ⟨⟨k, value⟩, a, rfl, hp, rfl⟩ := List.map_eq_cons_iff.1 hl
      cases hp
      exact ⟨b, value, a, rfl, by simpa using hafter, rfl⟩
    · rintro ⟨b, value, a, rfl, ha, rfl⟩
      exact ⟨b.map fun p => (p.1, rulesIn m p.2), a.map fun p => (p.1, rulesIn m p.2), by simp, by simpa using ha⟩

end Logic
end ViewAtlas
