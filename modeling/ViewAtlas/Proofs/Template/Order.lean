import Mathlib.Data.List.Basic
import ViewAtlas.Template.Node
/-!
# The order of a document

A place in a forest is the way down to a node, as the numbers of the nodes to go to.  In the order of words a place
stands before those below it, and these before what is below later nodes.  The elements are listed at all their places
in this order, whatever they stand in, and so are those of a sort (`filter_inDocumentOrder`).
-/
namespace ViewAtlas
namespace Template
namespace Node

def children : Node → List Node
  | .text _ _ => []
  | .element _ children => children

def below? : Node → List Nat → Option Node
  | n, [] => some n
  | n, i :: p => n.children[i]?.bind fun m => m.below? p

def at? (forest : List Node) : List Nat → Option Node
  | [] => none
  | i :: p => forest[i]?.bind fun n => n.below? p

/-- **A list of all elements of a sort in document order**: each place where one stands gives one, an element comes
before those that it holds, and an earlier one before a later one. -/
def InDocumentOrder (forest : List Node) (q : Head → Prop) (listed : List (Head × List Node)) : Prop :=
  ∃ places : List (List Nat), places.Pairwise (· < ·) ∧
    (∀ p, p ∈ places ↔ ∃ h children, at? forest p = some (.element h children) ∧ q h) ∧
    places.map (at? forest) = listed.map fun e => some (.element e.1 e.2)

mutual

/-- The elements of a node, each behind its place below the node. -/
def placed : Node → List (List Nat × Head × List Node)
  | .text _ _ => []
  | .element h children => ([], h, children) :: placedIn 0 children

/-- The elements of nodes of which the first has this number, each behind its place. -/
def placedIn (i : Nat) : List Node → List (List Nat × Head × List Node)
  | [] => []
  | n :: rest => (placed n).map (fun e => (i :: e.1, e.2)) ++ placedIn (i + 1) rest

end

mutual

theorem map_placed : ∀ n : Node, (placed n).map (·.2) = elements n
  | .text _ _ => by rw [placed, elements]; rfl
  | .element h children => by rw [placed, elements, List.map_cons, map_placedIn children 0]

theorem map_placedIn : ∀ (l : List Node) (i : Nat), (placedIn i l).map (·.2) = elementsOf l
  | [], _ => by rw [placedIn, elementsOf]; rfl
  | n :: rest, i => by
    rw [placedIn, elementsOf, List.map_append, List.map_map, map_placedIn rest (i + 1), ← map_placed n]
    rfl

end

theorem mem_placedIn : ∀ {l : List Node} {i : Nat} {p : List Nat} {e : Head × List Node},
    (p, e) ∈ placedIn i l ↔ ∃ j n q, p = (i + j) :: q ∧ l[j]? = some n ∧ (q, e) ∈ placed n
  | [], i, p, e => by simp [placedIn]
  | n :: rest, i, p, e => by
    rw [placedIn, List.mem_append, mem_placedIn, List.mem_map]
    constructor
    · rintro (⟨⟨q, e⟩, hq, heq⟩ | ⟨j, m, q, rfl, hm, hq⟩)
      · cases heq
        exact ⟨0, n, q, rfl, rfl, hq⟩
      · exact ⟨j + 1, m, q, by rw [Nat.add_right_comm, Nat.add_assoc], hm, hq⟩
    · rintro ⟨j, m, q, rfl, hm, hq⟩
      cases j with
      | zero =>
        obtain rfl := Option.some.inj hm
        exact .inl ⟨(q, e), hq, rfl⟩
      | succ j => exact .inr ⟨j, m, q, by rw [Nat.add_right_comm, Nat.add_assoc], hm, hq⟩

theorem mem_placed : ∀ {p : List Nat} {n : Node} {e : Head × List Node},
    (p, e) ∈ placed n ↔ n.below? p = some (.element e.1 e.2)
  | [], .text v r, e => by simp [placed, below?]
  | i :: p, .text v r, e => by simp [placed, below?, children]
  | [], .element h children, (h', children') => by simp [placed, below?, mem_placedIn, eq_comm]
  | i :: p, .element h children, e => by
    have hself : (i :: p, e) ≠ ([], h, children) := by simp
    rw [placed, List.mem_cons, or_iff_right hself, mem_placedIn, below?, Option.bind_eq_some_iff]
    constructor
    · rintro ⟨j, n, q, hq, hn, hmem⟩
      obtain ⟨rfl, rfl⟩ := List.cons.inj hq
      exact ⟨n, by rwa [Nat.zero_add], mem_placed.1 hmem⟩
    · rintro ⟨n, hn, hat⟩
      exact ⟨i, n, p, by rw [Nat.zero_add], hn, mem_placed.2 hat⟩

/-- **An element is listed at the places where it stands**, and nowhere else. -/
theorem mem_placedIn_zero {forest : List Node} {p : List Nat} {e : Head × List Node} :
    (p, e) ∈ placedIn 0 forest ↔ at? forest p = some (.element e.1 e.2) := by
  cases p with
  | nil => simp [mem_placedIn, at?]
  | cons i p =>
    rw [mem_placedIn, at?, Option.bind_eq_some_iff]
    constructor
    · rintro ⟨j, n, q, hq, hn, hmem⟩
      obtain ⟨rfl, rfl⟩ := List.cons.inj hq
      exact ⟨n, by rwa [Nat.zero_add], mem_placed.1 hmem⟩
    · rintro ⟨n, hn, hat⟩
      exact ⟨i, n, p, by rw [Nat.zero_add], hn, mem_placed.2 hat⟩

mutual

theorem pairwise_placed : ∀ n : Node, (placed n).Pairwise fun a b => a.1 < b.1
  | .text _ _ => by simp [placed]
  | .element h children => by
    rw [placed, List.pairwise_cons]
    refine ⟨fun e he => ?_, pairwise_placedIn 0 children⟩
    -- the element itself stands before all that it holds
    obtain ⟨j, n, q, hp, -⟩ := mem_placedIn.1 he
    rw [hp]
    exact List.nil_lt_cons ..

theorem pairwise_placedIn : ∀ (i : Nat) (l : List Node), (placedIn i l).Pairwise fun a b => a.1 < b.1
  | _, [] => by simp [placedIn]
  | i, n :: rest => by
    rw [placedIn, List.pairwise_append, List.pairwise_map]
    refine ⟨(pairwise_placed n).imp fun h => List.cons_lt_cons_iff.2 (.inr ⟨rfl, h⟩),
      pairwise_placedIn (i + 1) rest, fun a ha b hb => ?_⟩
    obtain ⟨a, -, rfl⟩ := List.mem_map.1 ha
    obtain ⟨j, m, q, hp, -⟩ := mem_placedIn.1 hb
    rw [hp]
    exact List.cons_lt_cons_iff.2 (.inl (by omega))

end

/-- **The elements of a sort are listed in document order**, and all of them. -/
theorem filter_inDocumentOrder (forest : List Node) (q : Head → Bool) :
    InDocumentOrder forest (fun h => q h = true) ((elementsOf forest).filter fun e => q e.1) := by
  have hlisted : (elementsOf forest).filter (fun e => q e.1) =
      ((placedIn 0 forest).filter fun e => q e.2.1).map (·.2) := by
    rw [← map_placedIn forest 0, List.filter_map]
    rfl
  refine ⟨((placedIn 0 forest).filter fun e => q e.2.1).map (·.1), ?_, fun p => ?_, ?_⟩
  · rw [List.pairwise_map]
    exact (pairwise_placedIn 0 forest).filter _
  · simp only [List.mem_map, List.mem_filter, Prod.exists, exists_and_right, exists_eq_right, mem_placedIn_zero]
  · rw [hlisted, List.map_map, List.map_map]
    refine List.map_congr_left fun e he => ?_
    exact mem_placedIn_zero.1 (List.mem_filter.1 he).1

end Node
end Template
end ViewAtlas
