import ViewAtlas.Proofs.Template.Hiding
import ViewAtlas.Proofs.Template.Nesting
/-!
# Numbers that are too long

A number of too many digits in a character reference stops the reading of a template.  It holds no brace, so an expression
holds it or what stands on one side does (`longNumber?_braces`).  What a view keeps of it tells whether a forest has one,
and a view that hides values does not see whether references are replaced (`Forest.hide_decoded`).
-/
namespace ViewAtlas

namespace Text.Entity

variable {c : Char} {s t : Text}

theorem decimals_cons (hc : c ≠ '#') (s : Text) : decimals (c :: s) = 0 := by
  unfold decimals
  split
  · rename_i heq
    exact absurd (List.cons.inj heq).1 hc
  · rfl

theorem decimals_append (hc : c.isDigit = false ∧ c ≠ '#') (s t : Text) : decimals (s ++ c :: t) = decimals s := by
  cases s with
  | nil => exact decimals_cons hc.2 t
  | cons d s =>
    rw [List.cons_append]
    by_cases hd : d = '#'
    · rw [hd, decimals, decimals, takeWhile_append_of_head (by simp [hc.1])]
    · rw [decimals_cons hd, decimals_cons hd]

/-- No long number goes over a character that is none of a number's. -/
theorem longNumber?_append (hc : c.isDigit = false ∧ c ≠ '#') (s t : Text) :
    longNumber? (s ++ c :: t) = (longNumber? s).or (longNumber? (c :: t)) := by
  induction s with
  | nil => rfl
  | cons d s ih =>
    rw [List.cons_append, longNumber?, longNumber?, decimals_append hc]
    split
    · rfl
    · exact ih

theorem longNumber?_cons (hc : c ≠ '&') (s : Text) : longNumber? (c :: s) = longNumber? s :=
  if_neg fun h => hc h.1

theorem longNumber?_eq_none_iff : longNumber? s = none ↔ ∀ r, '&' :: r <:+ s → decimals r ≤ mostDigits := by
  induction s with
  | nil => exact iff_of_true rfl fun r hr => absurd (List.suffix_nil.1 hr) (List.cons_ne_nil _ _)
  | cons c s ih =>
    rw [longNumber?]
    split
    · rename_i h
      refine iff_of_false (Option.some_ne_none _) fun hall => ?_
      exact absurd (hall s (h.1 ▸ List.suffix_refl _)) (Nat.not_le.2 h.2)
    · rename_i h
      rw [ih]
      refine ⟨fun hall r hr => ?_, fun hall r hr => hall r (hr.trans (List.suffix_cons c s))⟩
      rcases List.suffix_cons_iff.1 hr with heq | hr
      · obtain ⟨rfl, rfl⟩ := List.cons.inj heq
        exact Nat.not_lt.1 fun hlt => h ⟨rfl, hlt⟩
      · exact hall r hr

theorem longNumber?_eq_none (h : '&' ∉ s) : longNumber? s = none :=
  longNumber?_eq_none_iff.2 fun _ hr => absurd (hr.subset (List.mem_cons_self ..)) h

/-- **The long numbers of a text lie between** what can hold no part of one. -/
theorem longNumber?_between {a b : Text} (h : ∀ c ∈ a ++ b, c.isDigit = false ∧ c ≠ '#' ∧ c ≠ '&') (s : Text) :
    longNumber? (a ++ (s ++ b)) = longNumber? s := by
  induction a with
  | nil =>
    cases b with
    | nil => rw [List.nil_append, List.append_nil]
    | cons c b =>
      obtain ⟨hdigit, hhash, -⟩ := h c (List.mem_cons_self ..)
      have hnone : longNumber? (c :: b) = none := longNumber?_eq_none fun hamp => (h _ hamp).2.2 rfl
      rw [List.nil_append, longNumber?_append ⟨hdigit, hhash⟩, hnone, Option.or_none]
  | cons c a ih =>
    rw [List.cons_append, longNumber?_cons (h c (List.mem_cons_self ..)).2.2]
    exact ih fun d hd => h d (List.mem_cons_of_mem c hd)

/-- **A long number lies on one side of two braces.** -/
theorem longNumber?_braces {c : Char} (hc : c = '{' ∨ c = '}') (s t : Text) :
    longNumber? (s ++ c :: c :: t) = (longNumber? s).or (longNumber? t) := by
  have hne : (c.isDigit = false ∧ c ≠ '#') ∧ c ≠ '&' := by rcases hc with rfl | rfl <;> decide
  rw [longNumber?_append hne.1, longNumber?_cons hne.2, longNumber?_cons hne.2]

theorem lt_of_longNumber? {n : Nat} (h : longNumber? s = some n) : mostDigits < n := by
  fun_induction longNumber? s with
  | case1 => cases h
  | case2 c s hlong =>
    cases h
    exact hlong.2
  | case3 c s _ ih => exact ih h

/-- A text whose first long number has so many digits. -/
def ofDigits (n : Nat) : Text := '&' :: '#' :: List.replicate n '0'

theorem length_ofDigits (n : Nat) : (ofDigits n).length = n + 2 := by simp [ofDigits]

theorem mem_ofDigits {n : Nat} (h : c ∈ ofDigits n) : c ∈ ['&', '#', '0'] := by
  rcases List.mem_cons.1 h with rfl | h
  · decide
  · rcases List.mem_cons.1 h with rfl | h
    · decide
    · rw [List.eq_of_mem_replicate h]
      decide

theorem longNumber?_ofDigits {n : Nat} (hn : mostDigits < n) : longNumber? (ofDigits n) = some n := by
  have hdecimals : decimals ('#' :: List.replicate n '0') = n := by
    rw [decimals, List.takeWhile_eq_self_iff.2 fun c hc => (List.eq_of_mem_replicate hc) ▸ by decide, List.length_replicate]
  rw [ofDigits, longNumber?, hdecimals, if_pos ⟨rfl, hn⟩]

end Text.Entity

namespace Template

open Text (Entity.decode Entity.longNumber? Entity.ofDigits)

/-! ## What views keep of a forest -/

section Same

variable (f : Text → Text)

mutual

theorem Node.literals_seen : ∀ n : Node, (n.seen fun _ => f).literals = n.literals.map f
  | .text value r => by rw [Node.seen, Node.literals, Node.literals, List.map_singleton]
  | .element h children => by
    rw [Node.seen, Node.literals, Node.literals, literalsOf_seenAll children, List.map_append, Head.seen, List.map_map,
      List.map_map]
    rfl

theorem literalsOf_seenAll : ∀ l : List Node, literalsOf (seenAll (fun _ => f) l) = (literalsOf l).map f
  | [] => by rw [seenAll, literalsOf, List.map_nil]
  | n :: rest => by
    rw [seenAll, literalsOf, literalsOf, Node.literals_seen n, literalsOf_seenAll rest, List.map_append]

end

end Same

/-- **The view that keeps of a value how long its first too long number is.** -/
def numbers (_ : Span) (value : Text) : Text := ((Entity.longNumber? value).map Entity.ofDigits).getD []

theorem longNumber?_numbers (r : Span) (value : Text) : Entity.longNumber? (numbers r value) = Entity.longNumber? value := by
  unfold numbers
  cases h : Entity.longNumber? value with
  | none => rfl
  | some n => exact Text.Entity.longNumber?_ofDigits (Text.Entity.lt_of_longNumber? h)

theorem Forest.longNumber?_seen (f : Forest) : (f.seen numbers).longNumber? = f.longNumber? := by
  unfold longNumber? seen
  rw [show numbers = fun _ => numbers default from rfl, literalsOf_seenAll, List.findSome?_map]
  exact congrArg (List.findSome? · _) (funext (longNumber?_numbers default))

section Hide

variable (hidden : Span → Bool)

theorem without_decode (r : Span) (value : Text) :
    without hidden r (Entity.decode value) = Entity.decode (without hidden r value) := by
  unfold without
  split
  · rw [Entity.decode]
  · rfl

theorem Head.hide_decoded (h : Head) : (h.convert id Entity.decode).seen (without hidden) =
    (h.seen (without hidden)).convert id Entity.decode := by
  have hliteral : ∀ a : Attribute, (a.convert id Entity.decode).seen (without hidden) =
      (a.seen (without hidden)).convert id Entity.decode := fun a =>
    congrArg (Attribute.mk a.name · a.span) (without_decode hidden a.span a.value)
  have hbound : ∀ a : Attribute, (a.convert id id).seen (without hidden) = (a.seen (without hidden)).convert id id :=
    fun _ => rfl
  simp only [convert, seen, List.map_map, Function.comp_def, hliteral, hbound, id]

mutual

theorem Node.hide_decoded : ∀ n : Node, (n.convert id Entity.decode).seen (without hidden) =
    (n.seen (without hidden)).convert id Entity.decode
  | .text value r => by
    rw [Node.convert, Node.seen, Node.seen, Node.convert, id, without_decode]
  | .element h children => by
    rw [Node.convert, Node.seen, Node.seen, Node.convert, Head.hide_decoded, hideAll_decoded children]

theorem hideAll_decoded : ∀ l : List Node, seenAll (without hidden) (convertAll id Entity.decode l) =
    convertAll id Entity.decode (seenAll (without hidden) l)
  | [] => by rw [convertAll, seenAll, convertAll]
  | n :: rest => by rw [convertAll, seenAll, seenAll, convertAll, Node.hide_decoded n, hideAll_decoded rest]

end

theorem Forest.hide_decoded (f : Forest) : f.decoded.hide hidden = (f.hide hidden).decoded :=
  congrArg (Forest.mk · _) (hideAll_decoded hidden f.nodes)

end Hide

end Template
end ViewAtlas
