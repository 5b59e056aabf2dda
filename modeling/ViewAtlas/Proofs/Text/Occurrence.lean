import Mathlib.Data.List.Infix
import ViewAtlas.Text.Basic
/-!
# First occurrences

Where a piece stands for the first time in a text is where the search for it ends (`offset?_append_of_first`), and a
piece that occurs occurs for a first time (`exists_first`).
-/
namespace ViewAtlas
namespace Text

/-- **A piece that stands behind `x` for the first time**: it does not begin in `x` when it stands behind it. -/
def FirstBehind (p x : Text) : Prop := ¬ p <:+: x ++ p.dropLast

instance (p x : Text) : Decidable (FirstBehind p x) := inferInstanceAs (Decidable (¬ _))

variable {p x : Text}

theorem firstBehind_nil (hp : p ≠ []) : FirstBehind p [] := fun h => by
  have := h.length_le
  rw [List.nil_append, List.length_dropLast] at this
  have := List.length_pos_iff.2 hp
  omega

theorem FirstBehind.not_prefix {c : Char} (h : FirstBehind p (c :: x)) (rest : Text) :
    ¬ p <+: c :: (x ++ (p ++ rest)) := by
  intro hp
  refine h (List.IsPrefix.isInfix ?_)
  have hrest : c :: x ++ p.dropLast <+: c :: (x ++ (p ++ rest)) :=
    (List.prefix_append_right_inj (c :: x)).2 ((List.dropLast_prefix p).trans (List.prefix_append p rest))
  refine List.prefix_of_prefix_length_le hp hrest ?_
  rw [List.length_append, List.length_cons, List.length_dropLast]
  omega

theorem FirstBehind.tail {c : Char} (h : FirstBehind p (c :: x)) : FirstBehind p x := fun hi =>
  h (hi.trans (List.suffix_cons c _).isInfix)

theorem offset?_append_of_first (hp : p ≠ []) (rest : Text) : ∀ {x : Text}, FirstBehind p x →
    offset? p (x ++ (p ++ rest)) = some x.length
  | [], _ => by
    have hfront : p.isPrefixOf (p ++ rest) = true := List.isPrefixOf_iff_prefix.2 (List.prefix_append p rest)
    obtain ⟨d, p, rfl⟩ := List.exists_cons_of_ne_nil hp
    rw [List.cons_append] at hfront
    rw [List.nil_append, List.cons_append, offset?, if_pos hfront]
    rfl
  | c :: x, h => by
    rw [List.cons_append, offset?, if_neg fun hi => h.not_prefix rest (List.isPrefixOf_iff_prefix.1 hi),
      offset?_append_of_first hp rest h.tail]
    rfl

theorem exists_first (hp : p ≠ []) : ∀ {s : Text}, p <:+: s → ∃ a b, s = a ++ (p ++ b) ∧ FirstBehind p a
  | [], h => absurd (List.infix_nil.1 h) hp
  | c :: s, h => by
    by_cases hfront : p <+: c :: s
    · obtain ⟨b, hb⟩ := hfront
      exact ⟨[], b, hb.symm, firstBehind_nil hp⟩
    · obtain ⟨a, b, rfl, ha⟩ := exists_first hp ((List.infix_cons_iff.1 h).resolve_left hfront)
      refine ⟨c :: a, b, rfl, fun hi => ?_⟩
      rcases List.infix_cons_iff.1 hi with hi | hi
      · refine hfront (hi.trans ?_)
        exact (List.prefix_append_right_inj (c :: a)).2 ((List.dropLast_prefix p).trans (List.prefix_append p b))
      · exact ha hi

theorem offset?_eq_none (h : ¬ p <:+: x) : offset? p x = none := by
  refine Option.eq_none_iff_forall_ne_some.2 fun n hn => ?_
  obtain ⟨a, b, rfl, -⟩ := eq_append_of_offset? hn
  exact h ⟨a, b, by rw [List.append_assoc]⟩

theorem offset?_of_append (hp : p ≠ []) {s : Text} {n : Nat} (h : offset? p (s ++ x) = some n)
    (hle : n + p.length ≤ s.length) : offset? p s = some n := by
  obtain ⟨a, b, heq, rfl⟩ := eq_append_of_offset? h
  have hfront : a ++ p <+: s := by
    refine List.prefix_of_prefix_length_le ⟨b, by rw [heq, List.append_assoc]⟩ (List.prefix_append s x) ?_
    rwa [List.length_append]
  obtain ⟨u, v, rfl, hu⟩ := exists_first hp ((List.suffix_append a p).isInfix.trans hfront.isInfix)
  have hfirst := offset?_append_of_first hp v hu
  rw [offset?_append hfirst x] at h
  rw [hfirst, h]

theorem offset?_drop : ∀ {s : Text} {n k : Nat}, offset? p s = some n → k ≤ n → offset? p (s.drop k) = some (n - k)
  | s, n, 0, h, _ => h
  | [], n, k + 1, h, hk => by
    have := offset?_le h
    simp at this
    omega
  | c :: s, n, k + 1, h, hk => by
    rw [offset?] at h
    split at h
    · cases h
      omega
    · obtain ⟨m, hm, rfl⟩ := Option.map_eq_some_iff.1 h
      rw [List.drop_succ_cons, offset?_drop hm (by omega), Nat.add_sub_add_right]

end Text
end ViewAtlas
