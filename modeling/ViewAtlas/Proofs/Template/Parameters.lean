import ViewAtlas.Proofs.Template.Balance
import ViewAtlas.Proofs.Template.Comments
/-!
# Parameters of blocks

A block blanks its parameter out, up to where the scan for the closing parenthesis ends, and changes nothing else
(`veil_block`).  So a parameter can be made blank without a change to the masked template just when the scan ends at its
own closing parenthesis (`mask_parameter`).  Where a backslash stands before the quote of a literal, the scan may go on
into the markup behind the parameter (`mask_parameter_escaped`).
-/
namespace ViewAtlas
namespace Template

/-! ## Openings -/

/-- **The opening of a block** with a parameter: `@`, one of the words, blanks, and a parenthesis; or `@else`, blanks,
`if`, blanks, and a parenthesis. -/
inductive BlockOpening : Text → Prop where
  | word {w gap : Text} (hw : w ∈ blockWords) (hgap : ∀ c ∈ gap, Text.isBlank c = true) :
      BlockOpening ('@' :: (w ++ (gap ++ ['('])))
  | elseIf {apart gap : Text} (hne : apart ≠ []) (hapart : ∀ c ∈ apart, Text.isBlank c = true)
      (hgap : ∀ c ∈ gap, Text.isBlank c = true) :
      BlockOpening ('@' :: ("else".toList ++ (apart ++ ("if".toList ++ (gap ++ ['('])))))

section Openings

variable {o gap : Text}

theorem skipBlanks_append (hgap : ∀ c ∈ gap, Text.isBlank c = true) {c : Char} (hc : Text.isBlank c = false)
    (x : Text) : skipBlanks (gap ++ c :: x) = c :: x := by
  rw [skipBlanks, List.dropWhile_append_of_pos hgap, List.dropWhile_cons_of_neg (by simp [hc])]

theorem afterBlockOpening?_self (w : Text) (hgap : ∀ c ∈ gap, Text.isBlank c = true) (x : Text) :
    afterBlockOpening? w (w ++ (gap ++ '(' :: x)) = some x := by
  have hskip := skipBlanks_append hgap (by decide : Text.isBlank '(' = false) x
  simp only [afterBlockOpening?, Text.after?_append, bind, Option.bind_some, hskip]
  rfl

/-- The words of blocks begin with different letters, so at most one of them begins a text. -/
theorem findSome?_afterBlockOpening {w : Text} (hw : w ∈ blockWords) (hgap : ∀ c ∈ gap, Text.isBlank c = true)
    (x : Text) : blockWords.findSome? (afterBlockOpening? · (w ++ (gap ++ '(' :: x))) = some x := by
  have hself := afterBlockOpening?_self w hgap x
  generalize gap ++ '(' :: x = r at hself ⊢
  simp only [blockWords, List.map_cons, List.map_nil, List.mem_cons, List.not_mem_nil, or_false] at hw
  have hskip : ∀ a b : Text, Text.after? a (b ++ r) = none → afterBlockOpening? a (b ++ r) = none := fun a b h => by
    rw [afterBlockOpening?, h]
    rfl
  rcases hw with rfl | rfl | rfl | rfl | rfl | rfl | rfl
  all_goals
    simp only [blockWords, List.map_cons, List.map_nil, List.findSome?_cons]
    repeat rw [hskip _ _ rfl]
    rw [hself]

theorem BlockOpening.opening? (ho : BlockOpening o) (x : Text) : Expression.block.opening? (o ++ x) = some x := by
  cases ho with
  | @word w gap hw hgap =>
    have helse : afterElseIf? (w ++ (gap ++ '(' :: x)) = none := by
      have hafter : Text.after? "else".toList (w ++ (gap ++ '(' :: x)) = none := by
        generalize gap ++ '(' :: x = r
        simp only [blockWords, List.map_cons, List.map_nil, List.mem_cons, List.not_mem_nil, or_false] at hw
        rcases hw with rfl | rfl | rfl | rfl | rfl | rfl | rfl <;> rfl
      rw [afterElseIf?, hafter]
      rfl
    have hfind := findSome?_afterBlockOpening hw hgap x
    rw [List.cons_append, List.append_assoc, List.append_assoc, List.singleton_append]
    change (afterElseIf? _ <|> blockWords.findSome? _) = _
    rw [helse, hfind]
    rfl
  | @elseIf apart gap hne hapart hgap =>
    have hself := afterBlockOpening?_self "if".toList hgap x
    have hskip := skipBlanks_append hapart (by decide : Text.isBlank 'i' = false) ('f' :: (gap ++ '(' :: x))
    have hblank : (apart ++ ("if".toList ++ (gap ++ '(' :: x))).head?.any Text.isBlank = true := by
      obtain ⟨c, r, rfl⟩ := List.exists_cons_of_ne_nil hne
      exact hapart c (List.mem_cons_self ..)
    have helse : afterElseIf? ("else".toList ++ (apart ++ ("if".toList ++ (gap ++ '(' :: x)))) = some x := by
      unfold afterElseIf?
      rw [Text.after?_append, Option.bind_eq_bind, Option.bind_some, hblank]
      change afterBlockOpening? "if".toList (skipBlanks (apart ++ 'i' :: 'f' :: (gap ++ '(' :: x))) = some x
      rw [hskip]
      exact hself
    simp only [List.cons_append, List.append_assoc, List.nil_append]
    change (afterElseIf? ("else".toList ++ (apart ++ ("if".toList ++ (gap ++ '(' :: x)))) <|> _) = _
    rw [helse]
    rfl

theorem BlockOpening.eq_cons (ho : BlockOpening o) : ∃ r, o = '@' :: r ∧ Markup r := by
  have hwords : ∀ w ∈ blockWords, '{' ∉ w ∧ '@' ∉ w := by decide
  have hblank : ∀ gap : Text, (∀ c ∈ gap, Text.isBlank c = true) → '{' ∉ gap ∧ '@' ∉ gap := fun gap hgap =>
    ⟨fun h => absurd (hgap _ h) (by decide), fun h => absurd (hgap _ h) (by decide)⟩
  have hparen : Markup ['('] := markup_of_notMem (by decide) (by decide)
  cases ho with
  | @word w gap hw hgap =>
    exact ⟨_, rfl, (markup_of_notMem (hwords w hw).1 (hwords w hw).2).append
      ((markup_of_notMem (hblank gap hgap).1 (hblank gap hgap).2).append hparen)⟩
  | @elseIf apart gap hne hapart hgap =>
    have helse : Markup "else".toList := markup_of_notMem (by decide) (by decide)
    have hif : Markup "if".toList := markup_of_notMem (by decide) (by decide)
    exact ⟨_, rfl, helse.append ((markup_of_notMem (hblank apart hapart).1 (hblank apart hapart).2).append
      (hif.append ((markup_of_notMem (hblank gap hgap).1 (hblank gap hgap).2).append hparen)))⟩

theorem BlockOpening.declaration? (ho : BlockOpening o) (x : Text) : Template.declaration? (o ++ x) = none := by
  have hnone : Text.after? "@let".toList (o ++ x) = none := by
    cases ho with
    | @word w gap hw hgap =>
      rw [List.cons_append, List.append_assoc]
      generalize gap ++ ['('] ++ x = r
      simp only [blockWords, List.map_cons, List.map_nil, List.mem_cons, List.not_mem_nil, or_false] at hw
      rcases hw with rfl | rfl | rfl | rfl | rfl | rfl | rfl <;> rfl
    | elseIf => rfl
  rw [Template.declaration?, hnone]
  rfl

theorem BlockOpening.interpolation? (ho : BlockOpening o) (x : Text) : Template.interpolation? (o ++ x) = none := by
  obtain ⟨r, rfl, -⟩ := ho.eq_cons
  rfl

theorem BlockOpening.block? (ho : BlockOpening o) (x : Text) :
    Template.block? (o ++ x) = some ⟨o.length, parameterLength 1 none x, o.length⟩ := by
  rw [Expression.block?_eq, ho.opening?, Option.map_some, List.length_append, Nat.add_sub_cancel]

end Openings

/-! ## Blanking out a parameter -/

theorem bodies_markup {a : Text} (h : Markup a) (e : Expression) (pos : Nat) (y : Text) :
    bodies e.match? pos (a ++ y) = bodies e.match? (pos + a.length) y := by
  have hparts := h.parts y e
  rw [bodies_append (fun _ _ => Expression.match?_fits) pos hparts, bodies_eq_nil, List.nil_append]
  intro t ht hs
  have hnone := h e t [] ht hs
  rwa [List.append_nil] at hnone

/-- **The expressions of a block and what follows it**: its parameter, and those that begin behind its opening. -/
theorem mem_expressionsFrom_block {o : Text} (ho : BlockOpening o) (y : Text) (r : Span) :
    r ∈ expressionsFrom 0 (o ++ y) ↔
      r ∈ ⟨o.length, o.length + parameterLength 1 none y⟩ :: expressionsFrom o.length y := by
  have hinterpolation := ho.interpolation? y
  have hdeclaration := ho.declaration? y
  have hblock := ho.block? y
  obtain ⟨s, rfl, hs⟩ := ho.eq_cons
  have hlength : 0 + 1 + s.length = ('@' :: s).length := by
    rw [List.length_cons]
    omega
  rw [List.cons_append] at hinterpolation hdeclaration hblock ⊢
  have hfirst : ∀ e : Expression, r ∈ bodies e.match? 0 ('@' :: (s ++ y)) ↔
      (e = .block ∧ r = ⟨('@' :: s).length, ('@' :: s).length + parameterLength 1 none y⟩) ∨
        r ∈ bodies e.match? ('@' :: s).length y := by
    intro e
    have hrest := bodies_markup hs e (0 + 1) y
    rw [hlength] at hrest
    cases e with
    | interpolation =>
      simp only [Expression.match?] at hrest ⊢
      rw [bodies, hinterpolation]
      simp [hrest]
    | declaration =>
      simp only [Expression.match?] at hrest ⊢
      rw [bodies, hdeclaration]
      simp [hrest]
    | block =>
      simp only [Expression.match?]
      rw [bodies, hblock]
      simp [Nat.add_comm]
  rw [List.mem_cons, mem_expressionsFrom, mem_expressionsFrom]
  simp only [hfirst, exists_or, exists_eq_left]

theorem holds_iff {r : Span} {i : Nat} : r.holds i = true ↔ r.start ≤ i ∧ i < r.stop := by
  rw [Span.holds, Bool.and_eq_true, decide_eq_true_eq, decide_eq_true_eq]

theorem blankFrom_span (spans : List Span) : ∀ (y : Text) (pos n : Nat),
    blankFrom (⟨pos, pos + n⟩ :: spans) pos y = blanked (y.take n) ++ (blankFrom spans pos y).drop n
  | [], pos, n => by simp [blankFrom, blanked]
  | c :: y, pos, 0 => by
    refine Eq.trans (blankFrom_congr fun i h1 h2 => ?_) (List.drop_zero).symm
    have hempty : (⟨pos, pos + 0⟩ : Span).holds i = false := by
      rw [Bool.eq_false_iff, Ne, holds_iff]
      dsimp only
      omega
    rw [List.any_cons, hempty, Bool.false_or]
  | c :: y, pos, n + 1 => by
    have hrest : blankFrom (⟨pos, pos + (n + 1)⟩ :: spans) (pos + 1) y =
        blankFrom (⟨pos + 1, pos + 1 + n⟩ :: spans) (pos + 1) y := blankFrom_congr fun i h1 h2 => by
      have hsame : (⟨pos, pos + (n + 1)⟩ : Span).holds i = (⟨pos + 1, pos + 1 + n⟩ : Span).holds i := by
        rw [Bool.eq_iff_iff, holds_iff, holds_iff]
        dsimp only
        omega
      rw [List.any_cons, List.any_cons, hsame]
    have hfirst : (⟨pos, pos + (n + 1)⟩ : Span).holds pos = true := holds_iff.2 ⟨Nat.le_refl _, by dsimp only; omega⟩
    rw [blankFrom_cons, blankFrom_cons, hrest, blankFrom_span spans y (pos + 1) n, List.any_cons, hfirst]
    by_cases hc : c = '\n'
    · simp [blanked, hc]
    · simp [blanked, hc]

/-- **A block blanks its parameter out**, and what stands behind its opening is blanked out as if it stood alone. -/
theorem veil_block {o : Text} (ho : BlockOpening o) (y : Text) :
    veil (o ++ y) = o ++ (blanked (y.take (parameterLength 1 none y)) ++ (veil y).drop (parameterLength 1 none y)) := by
  have hany : ∀ i, (expressionsFrom 0 (o ++ y)).any (·.holds i) =
      ((⟨o.length, o.length + parameterLength 1 none y⟩ : Span) :: expressionsFrom o.length y).any (·.holds i) := by
    intro i
    rw [Bool.eq_iff_iff, List.any_eq_true, List.any_eq_true]
    exact exists_congr fun r => and_congr_left fun _ => mem_expressionsFrom_block ho y r
  have hopening : blankFrom (expressionsFrom 0 (o ++ y)) 0 o = blankFrom [] 0 o := by
    refine blankFrom_congr fun i _ hi => ?_
    rw [hany, List.any_nil, List.any_eq_false]
    intro r hr hri
    rcases List.mem_cons.1 hr with rfl | hr
    · have := holds_iff.1 hri
      dsimp only at this
      omega
    · have := holds_of_mem_expressionsFrom hr hri
      omega
  have hshift := blankFrom_shift (expressionsFrom 0 y) o.length y 0
  rw [← expressionsFrom_shift, Nat.zero_add] at hshift
  change blankFrom (expressionsFrom 0 (o ++ y)) 0 (o ++ y) = _
  rw [blankFrom_append, hopening, blankFrom_nil, Nat.zero_add, blankFrom_congr fun i _ _ => hany i, blankFrom_span,
    hshift]
  rfl

theorem getElem?_mask_paren (s : Text) (i : Nat) : (mask s)[i]? = some ')' ↔ (veil s)[i]? = some ')' := by
  have h := maskBrackets_brackets (Text.lower (veil s)) (veil s)
  change (maskBrackets (Text.lower (veil s)) (veil s))[i]? = _ ↔ _
  have hi := List.forall₂_iff_get.1 h
  by_cases hlt : i < (veil s).length
  · have hd := hi.2 i (by omega) hlt
    rw [List.getElem?_eq_getElem (by omega), List.getElem?_eq_getElem hlt, Option.some.injEq, Option.some.injEq]
    simp only [List.get_eq_getElem] at hd
    rcases hd with hd | ⟨hd, hc | hc⟩
    · rw [hd]
    · rw [hd, hc]; decide
    · rw [hd, hc]; decide
  · rw [List.getElem?_eq_none (by omega), List.getElem?_eq_none (by omega)]

/-! ## Parameters -/

/-- **A template with a parameter** behind the opening of a block. -/
def withParameter (pre o e rest : Text) : Text := pre ++ (o ++ (e ++ ')' :: rest))

section Parameters

variable {pre o e rest : Text}

theorem blanked_blanked (c : Text) : blanked (blanked c) = blanked c := by
  rw [blanked, blanked, List.map_map]
  refine List.map_congr_left fun d _ => ?_
  by_cases hd : d = '\n' <;> simp [hd]

theorem markup_blanked (c : Text) : Markup (blanked c) :=
  markup_of_notMem (fun h => by rcases mem_blanked h with h | h <;> cases h)
    (fun h => by rcases mem_blanked h with h | h <;> cases h)

theorem markup_parameter (ha : '@' ∉ e) (hb : ¬ ['{', '{'] <:+: e) : Markup (e ++ [')']) := by
  intro x t y ht hs
  refine Expression.match?_eq_none ?_
  obtain ⟨c, t, rfl⟩ := List.exists_cons_of_ne_nil ht
  by_cases hc : c = '{'
  · -- a brace stands in the parameter, and what follows it there or behind it is no other one
    subst hc
    have hnext : ∀ d ∈ (t ++ y).head?, d ≠ '{' := by
      rcases List.suffix_concat_iff.1 hs with h | ⟨u, h, hu⟩
      · cases h
      · cases u with
        | nil => cases h
        | cons b u =>
          rw [List.cons_append, List.cons.injEq] at h
          obtain ⟨rfl, rfl⟩ := h
          cases u with
          | nil =>
            rintro d hd rfl
            cases hd
          | cons b u =>
            rintro d hd rfl
            cases hd
            exact hb ((List.prefix_append ['{', '{'] u).isInfix.trans hu.isInfix)
    cases x with
    | interpolation =>
      cases hty : t ++ y with
      | nil => rw [List.cons_append, hty]; rfl
      | cons d r =>
        have hd : ¬ '{' = d := fun h => hnext d (by rw [hty]; rfl) h.symm
        simp [hty, Expression.opening?, Text.after?, hd]
    | declaration => rfl
    | block => rfl
  · have hat : c ≠ '@' := by
      rintro rfl
      have hmem : '@' ∈ e ++ [')'] := hs.subset (List.mem_cons_self ..)
      simp [ha] at hmem
    exact opening?_cons_eq_none hc hat _ x

/-- **A parameter is blanked out as far as the scan goes**; the parenthesis behind it is not taken for anything else. -/
theorem veil_withParameter (hpre : Markup pre) (ho : BlockOpening o) (he : Markup (e ++ [')'])) (rest : Text) :
    veil (withParameter pre o e rest) =
      pre ++ (o ++ (blanked ((e ++ ')' :: rest).take (parameterLength 1 none (e ++ ')' :: rest))) ++
        (e ++ ')' :: veil rest).drop (parameterLength 1 none (e ++ ')' :: rest)))) := by
  have hbehind := he.veil_append rest
  rw [List.append_assoc, List.append_assoc, List.singleton_append, List.singleton_append] at hbehind
  rw [withParameter, hpre.veil_append, veil_block ho, hbehind]

theorem veil_balanced (hpre : Markup pre) (ho : BlockOpening o) (he : Markup (e ++ [')'])) (h : Balances Quoteless 0 e)
    (rest : Text) : veil (withParameter pre o e rest) = pre ++ (o ++ (blanked e ++ ')' :: veil rest)) := by
  rw [veil_withParameter hpre ho he, h.parameterLength, List.take_left, List.drop_left]

theorem balances_blanked {inside : Char → Text → Prop} : ∀ e : Text, Balances inside 0 (blanked e)
  | [] => .done
  | c :: e => by
    have hrest : Balances inside 0 (blanked e) := balances_blanked e
    change Balances inside 0 ((if c = '\n' then c else ' ') :: blanked e)
    by_cases hc : c = '\n'
    · rw [if_pos hc, hc]
      exact .plain (by decide) (by decide) (by decide) hrest
    · rw [if_neg hc]
      exact .plain (by decide) (by decide) (by decide) hrest

/-- **A blank parameter** is left as it is. -/
theorem veil_blanked (hpre : Markup pre) (ho : BlockOpening o) (e rest : Text) :
    veil (withParameter pre o (blanked e) rest) = pre ++ (o ++ (blanked e ++ ')' :: veil rest)) := by
  have hmarkup : Markup (blanked e ++ [')']) := (markup_blanked e).append (markup_of_notMem (by decide) (by decide))
  rw [veil_balanced hpre ho hmarkup (balances_blanked e), blanked_blanked]

/-- **A masked template shows how far the scan goes**: where it ends there is a parenthesis, and before that none. -/
theorem parameterLength_of_mask_eq (hpre : Markup pre) (ho : BlockOpening o) (he : Markup (e ++ [')']))
    (h : mask (withParameter pre o e rest) = mask (withParameter pre o (blanked e) rest)) :
    parameterLength 1 none (e ++ ')' :: rest) = e.length := by
  have hnone : ∀ (c : Text) (i : Nat), (blanked c)[i]? ≠ some ')' := fun c i hi => by
    rcases mem_blanked (List.mem_of_getElem? hi) with h | h <;> cases h
  have hle := Expression.parameterLength_le 1 none (e ++ ')' :: rest)
  have hstop := @getElem?_parameterLength 1 (e ++ ')' :: rest) none
  have hparen := fun i => getElem?_mask_paren (withParameter pre o e rest) (pre.length + (o.length + i))
  rw [h] at hparen
  simp only [getElem?_mask_paren, veil_blanked hpre ho, veil_withParameter hpre ho he, List.getElem?_append_right,
    Nat.le_add_right, Nat.add_sub_cancel_left] at hparen
  generalize parameterLength 1 none (e ++ ')' :: rest) = n at hle hstop hparen ⊢
  have htake : (blanked ((e ++ ')' :: rest).take n)).length = n := by
    rw [length_blanked, List.length_take, Nat.min_eq_left hle]
  rcases Nat.lt_trichotomy n e.length with hlt | heq | hgt
  · have hscan := hparen n
    rw [List.getElem?_append_left (by rw [length_blanked]; exact hlt), List.getElem?_append_right (Nat.le_of_eq htake),
      htake, Nat.sub_self, List.getElem?_drop, Nat.add_zero, List.getElem?_append_left hlt] at hscan
    refine absurd (hscan.2 ?_) (hnone e n)
    rw [← hstop (by rw [List.length_append]; omega), List.getElem?_append_left hlt]
  · exact heq
  · have hend := hparen e.length
    rw [List.getElem?_append_right (by rw [length_blanked]), length_blanked, Nat.sub_self,
      List.getElem?_append_left (by rw [htake]; exact hgt)] at hend
    exact absurd (hend.1 rfl) (hnone _ _)

/-- **What a parameter says never reaches past its own closing parenthesis** just when it balances with its literals
read up to the next quote of their kind: only then can it be made blank without a change to the masked template.  So it
can whenever it balances and no literal in it holds its own quote behind a backslash. -/
theorem mask_parameter (pre o e rest : Text) (hpre : '@' ∉ pre ∧ '{' ∉ pre) (ho : BlockOpening o) (ha : '@' ∉ e)
    (hb : ¬ ['{', '{'] <:+: e) :
    (mask (withParameter pre o e rest) = mask (withParameter pre o (blanked e) rest) ↔ Balances Quoteless 0 e) ∧
      (Balances (fun q body => LiteralBody q body ∧ Quoteless q body) 0 e →
        mask (withParameter pre o e rest) = mask (withParameter pre o (blanked e) rest)) := by
  have hmarkup : Markup pre := markup_of_notMem hpre.2 hpre.1
  have he := markup_parameter ha hb
  have hiff : mask (withParameter pre o e rest) = mask (withParameter pre o (blanked e) rest) ↔
      Balances Quoteless 0 e := by
    constructor
    · intro h
      exact (parameterLength_eq_iff rest).1 (parameterLength_of_mask_eq hmarkup ho he h)
    · intro h
      have hveil : veil (withParameter pre o e rest) = veil (withParameter pre o (blanked e) rest) := by
        rw [veil_balanced hmarkup ho he h, veil_blanked hmarkup ho]
      change maskBrackets (Text.lower (veil _)) (veil _) = maskBrackets (Text.lower (veil _)) (veil _)
      rw [hveil]
  exact ⟨hiff, fun h => hiff.2 (h.mono fun _ _ h => h.2)⟩

end Parameters

def callingParameter : Text := "f(\"\\n(\")".toList

theorem callingParameter_balances {inside : Char → Text → Prop} (h : inside '"' ['\\', 'n', '(']) :
    Balances inside 0 callingParameter :=
  .plain (by decide) (by decide) (by decide) (.opening (.literal (.inr (.inl rfl)) h (.closing .done)))

theorem mask_parameter_calling :
    ('@' ∉ "<p>".toList ∧ '{' ∉ "<p>".toList) ∧ BlockOpening "@else  if (".toList ∧ '@' ∉ callingParameter ∧
      ¬ ['{', '{'] <:+: callingParameter ∧
      Balances (fun q body => LiteralBody q body ∧ Quoteless q body) 0 callingParameter ∧
      mask (withParameter "<p>".toList "@else  if (".toList callingParameter "<b>x</b>".toList) =
        mask (withParameter "<p>".toList "@else  if (".toList (blanked callingParameter) "<b>x</b>".toList) := by
  have hblank : Text.isBlank ' ' = true := by decide
  have ho : BlockOpening "@else  if (".toList :=
    @BlockOpening.elseIf [' ', ' '] [' '] (by decide)
      (List.forall_mem_cons.2 ⟨hblank, List.forall_mem_singleton.2 hblank⟩) (List.forall_mem_singleton.2 hblank)
  have hbalances : Balances (fun q body => LiteralBody q body ∧ Quoteless q body) 0 callingParameter :=
    callingParameter_balances ⟨.escaped (.plain (by decide) (by decide) .done), by decide⟩
  exact ⟨by decide, ho, by decide, by decide, hbalances,
    (mask_parameter _ _ _ _ (by decide) ho (by decide) (by decide)).2 hbalances⟩

/-- **A quote behind a backslash ends the literal for the scan**, and the next one begins a literal that takes away the
markup behind the parameter. -/
theorem mask_parameter_escaped : ¬ ∀ pre e rest : Text, '@' ∉ pre → '{' ∉ pre → '@' ∉ e → ¬ ['{', '{'] <:+: e →
    Balances LiteralBody 0 e →
      mask (withParameter pre "@if (".toList e rest) = mask (withParameter pre "@if (".toList (blanked e) rest) := by
  intro h
  have hbalances : Balances LiteralBody 0 "'\\''".toList :=
    @Balances.literal LiteralBody 0 '\'' ['\\', '\''] [] (.inl rfl) (.escaped .done) .done
  exact absurd (h [] _ "<b></b>".toList (by decide) (by decide) (by decide) (by decide) hbalances) (by decide +kernel)

end Template
end ViewAtlas
