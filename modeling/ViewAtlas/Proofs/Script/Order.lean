import Mathlib.Data.List.Basic
import ViewAtlas.Script.Tree
/-!
# Document order

A place in a tree is the way down to it, as the numbers of the children to go to.  In the order of words a place stands
before those below it, and these before what is below later children: the order of the document.  The nodes of a kind
are listed at all their places in this order (`Tree.ofKind_inDocumentOrder`).
-/
namespace ViewAtlas
namespace Script
namespace Tree

def at? : Tree → List Nat → Option Tree
  | t, [] => some t
  | t, i :: p => t.children[i]?.bind fun u => u.at? p

/-- **A list of all nodes of a kind in document order**: each place where there is one gives one, an enclosing node
comes before those inside it, and an earlier child before a later one. -/
def InDocumentOrder (t : Tree) (k : Kind) (nodes : List Tree) : Prop :=
  ∃ places : List (List Nat), places.Pairwise (· < ·) ∧ (∀ p, p ∈ places ↔ ∃ u, t.at? p = some u ∧ u.kind = k) ∧
    places.map t.at? = nodes.map some

variable {k : Kind}

mutual

def places (k : Kind) : Tree → List (List Nat)
  | .node _ k' _ cs => (if k' = k then [[]] else []) ++ placesIn k 0 cs

/-- The places of the nodes of a kind in children of which the first has this number. -/
def placesIn (k : Kind) (i : Nat) : List Tree → List (List Nat)
  | [] => []
  | t :: ts => (places k t).map (i :: ·) ++ placesIn k (i + 1) ts

end

theorem mem_placesIn : ∀ {ts : List Tree} {i : Nat} {p : List Nat},
    p ∈ placesIn k i ts ↔ ∃ j t q, p = (i + j) :: q ∧ ts[j]? = some t ∧ q ∈ places k t
  | [], i, p => by simp [placesIn]
  | t :: ts, i, p => by
    rw [placesIn, List.mem_append, List.mem_map, mem_placesIn]
    constructor
    · rintro (⟨q, hq, rfl⟩ | ⟨j, u, q, rfl, hu, hq⟩)
      · exact ⟨0, t, q, rfl, rfl, hq⟩
      · exact ⟨j + 1, u, q, by rw [Nat.add_right_comm, Nat.add_assoc], hu, hq⟩
    · rintro ⟨j, u, q, rfl, hu, hq⟩
      cases j with
      | zero =>
        obtain rfl := Option.some.inj hu
        exact .inl ⟨q, hq, rfl⟩
      | succ j => exact .inr ⟨j, u, q, by rw [Nat.add_right_comm, Nat.add_assoc], hu, hq⟩

theorem mem_places : ∀ {p : List Nat} {t : Tree}, p ∈ places k t ↔ ∃ u, t.at? p = some u ∧ u.kind = k
  | [], .node r k' x cs => by
    have hbelow : [] ∉ placesIn k 0 cs := fun h => by
      obtain ⟨j, t, q, hq, -⟩ := mem_placesIn.1 h
      cases hq
    rw [places, List.mem_append, or_iff_left hbelow]
    by_cases hk : k' = k <;> simp [at?, kind, hk]
  | i :: p, .node r k' x cs => by
    have hself : i :: p ∉ if k' = k then [[]] else ([] : List (List Nat)) := by split <;> simp
    rw [places, List.mem_append, or_iff_right hself, mem_placesIn, at?]
    change _ ↔ ∃ u, cs[i]?.bind (fun t => t.at? p) = some u ∧ u.kind = k
    constructor
    · rintro ⟨j, t, q, hq, ht, hmem⟩
      obtain ⟨rfl, rfl⟩ := List.cons.inj hq
      rw [Nat.zero_add, ht]
      exact mem_places.1 hmem
    · rintro ⟨u, hu, hk⟩
      obtain ⟨t, ht, hat⟩ := Option.bind_eq_some_iff.1 hu
      exact ⟨i, t, p, by rw [Nat.zero_add], ht, mem_places.2 ⟨u, hat, hk⟩⟩

mutual

theorem pairwise_places : ∀ t : Tree, (places k t).Pairwise (· < ·)
  | .node r k' x cs => by
    rw [places, List.pairwise_append]
    refine ⟨?_, pairwise_placesIn 0 cs, fun p hp q hq => ?_⟩
    · split
      · exact List.pairwise_singleton ..
      · exact .nil
    · -- the node itself stands before what is below it
      obtain ⟨j, t, q', rfl, -⟩ := mem_placesIn.1 hq
      split at hp
      · obtain rfl := List.mem_singleton.1 hp
        exact List.nil_lt_cons ..
      · cases hp

theorem pairwise_placesIn : ∀ (i : Nat) (ts : List Tree), (placesIn k i ts).Pairwise (· < ·)
  | _, [] => by
    rw [placesIn]
    exact .nil
  | i, t :: ts => by
    rw [placesIn, List.pairwise_append, List.pairwise_map]
    refine ⟨(pairwise_places t).imp fun h => List.cons_lt_cons_iff.2 (.inr ⟨rfl, h⟩), pairwise_placesIn (i + 1) ts, ?_⟩
    intro p hp q hq
    obtain ⟨p', -, rfl⟩ := List.mem_map.1 hp
    obtain ⟨j, u, q', rfl, -⟩ := mem_placesIn.1 hq
    exact List.cons_lt_cons_iff.2 (.inl (by omega))

end

mutual

theorem map_places : ∀ t : Tree, (places k t).map t.at? = (ofKind k t).map some
  | .node r k' x cs => by
    have hbelow : (placesIn k 0 cs).map (Tree.node r k' x cs).at? = (ofKindIn k cs).map some :=
      map_placesIn cs _ 0 fun j => by rw [Nat.zero_add]; rfl
    rw [places, ofKind, List.map_append, List.map_append, hbelow]
    congr 1
    split <;> rfl

theorem map_placesIn : ∀ (ts : List Tree) (t : Tree) (i : Nat), (∀ j, t.children[i + j]? = ts[j]?) →
    (placesIn k i ts).map t.at? = (ofKindIn k ts).map some
  | [], _, _, _ => by rw [placesIn, ofKindIn]; rfl
  | u :: ts, t, i, h => by
    have hhead : (fun p => t.at? (i :: p)) = u.at? := by
      funext p
      rw [at?, show t.children[i]? = some u from h 0]
      rfl
    have htail : ∀ j, t.children[i + 1 + j]? = ts[j]? := fun j => by
      rw [Nat.add_assoc, Nat.add_comm 1 j]
      exact h (j + 1)
    rw [placesIn, ofKindIn, List.map_append, List.map_append, List.map_map, map_placesIn ts t (i + 1) htail,
      ← map_places u]
    exact congrArg (· ++ _) (congrArg (List.map · (places k u)) hhead)

end

/-- **The nodes of a kind are listed in document order**, and all of them. -/
theorem ofKind_inDocumentOrder (k : Kind) (t : Tree) : t.InDocumentOrder k (ofKind k t) :=
  ⟨places k t, pairwise_places t, fun _ => mem_places, map_places t⟩

theorem kind_of_mem_ofKind {t u : Tree} (h : u ∈ ofKind k t) : u.kind = k := by
  have hsome : some u ∈ (places k t).map t.at? := by
    rw [map_places]
    exact List.mem_map_of_mem h
  obtain ⟨p, hp, hat⟩ := List.mem_map.1 hsome
  obtain ⟨u', hat', hkind⟩ := mem_places.1 hp
  obtain rfl := Option.some.inj (hat.symm.trans hat')
  exact hkind

/-! ## Calls -/

variable {r : Role} {x : Text} {ts : List Tree}

theorem ofKindIn_eq_flatMap (k : Kind) : ∀ ts : List Tree, ofKindIn k ts = ts.flatMap (ofKind k)
  | [] => rfl
  | t :: ts => by rw [ofKindIn, ofKindIn_eq_flatMap k ts, List.flatMap_cons]

theorem calls_node (hk : k ≠ .call) : (node r k x ts).calls = ts.flatMap calls := by
  rw [calls, ofKind, if_neg hk, ofKindIn_eq_flatMap]
  rfl

theorem calls_call : (node r .call x ts).calls = .node r .call x ts :: ts.flatMap calls := by
  rw [calls, ofKind, if_pos rfl, ofKindIn_eq_flatMap]
  rfl

theorem calls_as {t : Tree} (hk : t.kind ≠ .call) : (t.as r).calls = t.calls := by
  cases t with
  | node r' k x ts =>
    have hk : k ≠ .call := hk
    change (node r k x ts).calls = _
    rw [calls_node hk, calls_node hk]

end Tree
end Script
end ViewAtlas
