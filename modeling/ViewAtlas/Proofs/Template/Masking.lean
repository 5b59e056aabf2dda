import Mathlib.Data.List.Forall2
import ViewAtlas.Template.Mask
/-!
# Masking keeps places

A masked template has the length of the template, and each of its characters is that of the template or a space in its
place (`mask_blanks`).  So an offset into the one is an offset into the other, and every `<` that is left was written.
-/
namespace ViewAtlas
namespace Template

/-- **A text that is another one with some characters made spaces**, line ends apart. -/
def Blanks (m s : Text) : Prop := List.Forall₂ (fun d c => d = c ∨ d = ' ' ∧ c ≠ '\n') m s

namespace Blanks

theorem trans {l m s : Text} (h : Blanks l m) (k : Blanks m s) : Blanks l s := by
  induction h generalizing s with
  | nil => exact k
  | cons hd _ ih =>
    cases k with
    | cons hc k =>
      refine .cons ?_ (ih k)
      rcases hd with rfl | ⟨rfl, hn⟩
      · exact hc
      · rcases hc with rfl | ⟨_, hn'⟩
        · exact .inr ⟨rfl, hn⟩
        · exact .inr ⟨rfl, hn'⟩

theorem length_eq {m s : Text} (h : Blanks m s) : m.length = s.length := List.Forall₂.length_eq h

theorem getElem? {m s : Text} (h : Blanks m s) {i : Nat} {c : Char} (hi : m[i]? = some c) (hc : c ≠ ' ') :
    s[i]? = some c := by
  induction h generalizing i with
  | nil => simp at hi
  | cons hd _ ih =>
    cases i with
    | zero =>
      simp only [List.getElem?_cons_zero, Option.some.injEq] at hi ⊢
      subst hi
      rcases hd with rfl | ⟨rfl, _⟩
      · rfl
      · exact absurd rfl hc
    | succ i => exact ih hi

theorem mem {m s : Text} (h : Blanks m s) {c : Char} (hm : c ∈ m) (hc : c ≠ ' ') : c ∈ s := by
  obtain ⟨i, hi⟩ := List.mem_iff_getElem?.1 hm
  exact List.mem_of_getElem? (h.getElem? hi hc)

theorem slice {m s : Text} (h : Blanks m s) (start stop : Nat) :
    Blanks (Text.slice start stop m) (Text.slice start stop s) :=
  List.forall₂_take _ (List.forall₂_drop _ h)

theorem eq_of_notMem {m s : Text} (h : Blanks m s) (hm : ' ' ∉ m) : m = s := by
  induction h with
  | nil => rfl
  | cons hd _ ih =>
    rw [List.mem_cons, not_or] at hm
    rcases hd with rfl | ⟨rfl, -⟩
    · rw [ih hm.2]
    · exact absurd rfl hm.1

theorem of_infix {m s p : Text} (h : Blanks m s) (hp : ' ' ∉ p) (hi : p <:+: m) : p <:+: s := by
  obtain ⟨u, v, rfl⟩ := hi
  have hslice := h.slice u.length (u.length + p.length)
  rw [Text.slice, List.append_assoc, List.drop_left, Nat.add_sub_cancel_left, List.take_left] at hslice
  rw [hslice.eq_of_notMem hp]
  exact (List.take_prefix _ _).isInfix.trans (List.drop_suffix _ _).isInfix

end Blanks

theorem blanks_zipIdx (spans : List Span) : ∀ (s : Text) (k : Nat),
    Blanks ((s.zipIdx k).map fun (c, i) => if c ≠ '\n' && spans.any (·.holds i) then ' ' else c) s
  | [], _ => .nil
  | c :: s, k => by
    rw [List.zipIdx_cons, List.map_cons]
    refine .cons ?_ (blanks_zipIdx spans s (k + 1))
    by_cases hc : c = '\n'
    · exact .inl (by simp [hc])
    · by_cases hk : (spans.any (·.holds k)) = true
      · exact .inr ⟨by simp [hc, hk], hc⟩
      · exact .inl (by simp [hk])

theorem blankOut_blanks (spans : List Span) (s : Text) : Blanks (blankOut spans s) s := blanks_zipIdx spans s 0

theorem maskBrackets_brackets (low s : Text) :
    List.Forall₂ (fun d c => d = c ∨ d = ' ' ∧ (c = '<' ∨ c = '>')) (maskBrackets low s) s := by
  have hsame : ∀ s : Text, List.Forall₂ (fun d c => d = c ∨ d = ' ' ∧ (c = '<' ∨ c = '>')) s s := fun s =>
    List.forall₂_same.2 fun _ _ => .inl rfl
  fun_induction maskBrackets low s with
  | case1 => exact .nil
  | case2 low r n ih =>
    conv => rhs; rw [← List.take_append_drop n r]
    rw [← List.cons_append]
    refine List.rel_append (.cons ?_ (hsame _)) ih
    by_cases hn : n = 0
    · exact .inr ⟨by rw [if_pos hn], .inl rfl⟩
    · exact .inl (by rw [if_neg hn])
  | case3 low c r hc ih =>
    refine .cons ?_ ih
    by_cases h : c = '>'
    · exact .inr ⟨by rw [if_pos h], .inr h⟩
    · exact .inl (by rw [if_neg h])

theorem maskBrackets_blanks (low s : Text) : Blanks (maskBrackets low s) s := by
  refine (maskBrackets_brackets low s).imp fun d c h => ?_
  rcases h with h | ⟨h, rfl | rfl⟩
  · exact .inl h
  · exact .inr ⟨h, by decide⟩
  · exact .inr ⟨h, by decide⟩

/-- **Masking blanks single characters and does nothing else.** -/
theorem mask_blanks (template : Text) : Blanks (mask template) template :=
  (maskBrackets_blanks ..).trans (blankOut_blanks ..)

theorem length_mask (template : Text) : (mask template).length = template.length := (mask_blanks template).length_eq

theorem getElem?_of_mask {template : Text} {i : Nat} (h : (mask template)[i]? = some '<') :
    template[i]? = some '<' := (mask_blanks template).getElem? h (by decide)

end Template
end ViewAtlas
