import Mathlib.Data.List.Basic
import ViewAtlas.Template.Mask
/-!
# Balanced texts

The parameter of a block ends at the parenthesis that closes it.  The scan for it counts parentheses outside of string
literals, and takes a literal to end at the next quote of its kind.  So it stops behind a text just when the text
balances in that reading (`parameterLength_eq_iff`), which is narrower than that of scripts: there a backslash takes the
quote behind it along.
-/
namespace ViewAtlas
namespace Template

/-- **A quote of a string literal.** -/
def IsQuote (c : Char) : Prop := c = '\'' ∨ c = '"' ∨ c = '\x60'

instance (c : Char) : Decidable (IsQuote c) := inferInstanceAs (Decidable (_ ∨ _))

/-- **A text that closes** the parentheses that are open before it and its own, and each string literal that begins in
it; `inside` says what may stand between two quotes of a kind. -/
inductive Balances (inside : Char → Text → Prop) : Nat → Text → Prop where
  | done : Balances inside 0 []
  | plain {depth : Nat} {c : Char} {s : Text} (hq : ¬ IsQuote c) (ho : c ≠ '(') (hc : c ≠ ')')
      (h : Balances inside depth s) : Balances inside depth (c :: s)
  | literal {depth : Nat} {q : Char} {body s : Text} (hq : IsQuote q) (hbody : inside q body)
      (h : Balances inside depth s) : Balances inside depth (q :: (body ++ q :: s))
  | opening {depth : Nat} {s : Text} (h : Balances inside (depth + 1) s) : Balances inside depth ('(' :: s)
  | closing {depth : Nat} {s : Text} (h : Balances inside depth s) : Balances inside (depth + 1) (')' :: s)

/-- **The body of a string literal**: a backslash takes the next character along, and no other quote of its kind stands
in it. -/
inductive LiteralBody (q : Char) : Text → Prop where
  | done : LiteralBody q []
  | plain {c : Char} {s : Text} (hq : c ≠ q) (hc : c ≠ '\\') (h : LiteralBody q s) : LiteralBody q (c :: s)
  | escaped {c : Char} {s : Text} (h : LiteralBody q s) : LiteralBody q ('\\' :: c :: s)

def Quoteless (q : Char) (body : Text) : Prop := q ∉ body

instance (q : Char) (body : Text) : Decidable (Quoteless q body) := inferInstanceAs (Decidable (q ∉ body))

theorem Balances.mono {inside inside' : Char → Text → Prop} (himp : ∀ q body, inside q body → inside' q body)
    {depth : Nat} {s : Text} (h : Balances inside depth s) : Balances inside' depth s := by
  induction h with
  | done => exact .done
  | plain hq ho hc _ ih => exact .plain hq ho hc ih
  | literal hq hbody _ ih => exact .literal hq (himp _ _ hbody) ih
  | opening _ ih => exact .opening ih
  | closing _ ih => exact .closing ih

/-! ## The scan for the closing parenthesis -/

section Scan

variable {depth : Nat} {c q : Char} {s : Text}

theorem parameterLength_quote (hq : IsQuote q) (s : Text) :
    parameterLength depth none (q :: s) = 1 + parameterLength depth (some q) s := by
  rw [parameterLength]
  exact if_pos hq

theorem parameterLength_opening (s : Text) :
    parameterLength depth none ('(' :: s) = 1 + parameterLength (depth + 1) none s := by
  simp [parameterLength]

theorem parameterLength_closing (s : Text) :
    parameterLength depth none (')' :: s) = if depth ≤ 1 then 0 else 1 + parameterLength (depth - 1) none s := by
  simp [parameterLength]

theorem parameterLength_plain (hq : ¬ IsQuote c) (ho : c ≠ '(') (hc : c ≠ ')') (s : Text) :
    parameterLength depth none (c :: s) = 1 + parameterLength depth none s := by
  have hq : ¬ (c = '\'' ∨ c = '"' ∨ c = '\x60') := hq
  simp only [parameterLength, if_neg hq, if_neg ho, if_neg hc]

theorem parameterLength_quoteless (x : Text) : ∀ {s : Text}, q ∉ s →
    parameterLength depth (some q) (s ++ x) = s.length + parameterLength depth (some q) x
  | [], _ => (Nat.zero_add _).symm
  | c :: s, h => by
    rw [List.mem_cons, not_or] at h
    rw [List.cons_append, parameterLength, if_neg (Ne.symm h.1), parameterLength_quoteless x h.2, List.length_cons]
    omega

theorem parameterLength_unquote (s : Text) :
    parameterLength depth (some q) (q :: s) = 1 + parameterLength depth none s := by
  rw [parameterLength, if_pos rfl]

theorem parameterLength_literal {body : Text} (hq : IsQuote q) (hbody : q ∉ body) (s : Text) :
    parameterLength depth none (q :: (body ++ q :: s)) = body.length + 2 + parameterLength depth none s := by
  rw [parameterLength_quote hq, parameterLength_quoteless _ hbody, parameterLength_unquote]
  omega

theorem Balances.parameterLength (h : Balances Quoteless depth s) (rest : Text) :
    parameterLength (depth + 1) none (s ++ ')' :: rest) = s.length := by
  induction h with
  | done => rfl
  | plain hq ho hc _ ih =>
    rw [List.cons_append, parameterLength_plain hq ho hc, ih, List.length_cons, Nat.add_comm]
  | literal hq hbody _ ih =>
    rw [List.cons_append, List.append_assoc, List.cons_append, parameterLength_literal hq hbody, ih]
    simp only [List.length_cons, List.length_append]
    omega
  | opening _ ih => rw [List.cons_append, parameterLength_opening, ih, List.length_cons, Nat.add_comm]
  | closing _ ih =>
    rw [List.cons_append, parameterLength_closing, if_neg (by omega), Nat.add_sub_cancel, ih, List.length_cons,
      Nat.add_comm]

/-- **The scan ends at the parenthesis behind a text just when the text balances**, its literals ending at the first
quote of their kind. -/
theorem parameterLength_eq_iff (rest : Text) : ∀ {depth : Nat} {s : Text},
    parameterLength (depth + 1) none (s ++ ')' :: rest) = s.length ↔ Balances Quoteless depth s := by
  intro depth s
  refine ⟨fun h => ?_, fun h => h.parameterLength rest⟩
  match s with
  | [] =>
    rw [List.nil_append, parameterLength_closing] at h
    cases depth with
    | zero => exact .done
    | succ depth =>
      rw [if_neg (by omega), List.length_nil] at h
      omega
  | c :: s =>
    rw [List.cons_append, List.length_cons] at h
    by_cases hq : IsQuote c
    · rw [parameterLength_quote hq] at h
      by_cases hmem : c ∈ s
      · obtain ⟨body, t, rfl, hbody⟩ := List.eq_append_cons_of_mem hmem
        rw [List.append_assoc, List.cons_append, parameterLength_quoteless _ hbody, parameterLength_unquote,
          List.length_append, List.length_cons] at h
        exact .literal hq hbody ((parameterLength_eq_iff rest).1 (by omega))
      · -- the literal goes on behind the text, and takes its closing parenthesis along
        have hparen : c ≠ ')' := by rintro rfl; exact absurd hq (by decide)
        rw [parameterLength_quoteless _ hmem, parameterLength, if_neg (Ne.symm hparen)] at h
        omega
    · by_cases ho : c = '('
      · subst ho
        rw [parameterLength_opening] at h
        exact .opening ((parameterLength_eq_iff rest).1 (by omega))
      · by_cases hc : c = ')'
        · subst hc
          rw [parameterLength_closing] at h
          cases depth with
          | zero =>
            rw [if_pos (by omega)] at h
            omega
          | succ depth =>
            rw [if_neg (by omega), Nat.add_sub_cancel] at h
            exact .closing ((parameterLength_eq_iff rest).1 (by omega))
        · rw [parameterLength_plain hq ho hc] at h
          exact .plain hq ho hc ((parameterLength_eq_iff rest).1 (by omega))
termination_by _ s => s.length
decreasing_by
  all_goals
    subst_vars
    simp only [List.length_cons, List.length_append]
    omega

theorem getElem?_parameterLength {quote : Option Char} (h : parameterLength depth quote s < s.length) :
    s[parameterLength depth quote s]? = some ')' := by
  fun_induction parameterLength depth quote s with
  | case1 => exact absurd h (Nat.lt_irrefl _)
  | case5 => rfl
  | case2 | case3 | case4 | case6 | case7 =>
    rename_i ih
    rw [List.length_cons] at h
    rw [Nat.add_comm 1, List.getElem?_cons_succ]
    exact ih (by omega)

end Scan

end Template
end ViewAtlas
