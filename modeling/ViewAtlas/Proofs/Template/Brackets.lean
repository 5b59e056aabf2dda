import ViewAtlas.Proofs.Template.Rendered
/-!
# Brackets, piece by piece

The brackets of a text are masked as if it stood alone when all markup that is opened in it ends in it
(`maskBrackets_append`): no tag, no comment, and no content of a script or a style then reaches over its end.
-/
namespace ViewAtlas
namespace Template

/-- Whether the text that follows a `<` holds the `>` that ends the tag. -/
def tagCloses (quote : Option Char) : Text → Bool
  | [] => false
  | c :: s =>
    match quote with
    | some q => tagCloses (if c = q then none else some q) s
    | none =>
      if c = '\'' ∨ c = '"' then tagCloses (some c) s
      else if c = '>' then true
      else tagCloses none s

/-- Whether the text that follows a `<` holds the end of what that opens, if it opens anything. -/
def markupCloses (low s : Text) : Bool :=
  match Text.after? "!--".toList s with
  | some r => (Text.offset? "-->".toList r).isSome
  | none =>
    match s with
    | [] => true
    | c :: _ =>
      if Text.isLetter c || c = '/' || c = '!' then
        tagCloses none s &&
          match rawTextName? s with
          | some name => (Text.offset? ('<' :: '/' :: name) (low.drop (tagLength none s))).isSome
          | none => true
      else true

/-- **Whether all markup of a text ends in it.**  `low` is the lower case of the text. -/
def closes (low s : Text) : Bool :=
  match s with
  | [] => true
  | c :: r =>
    if c = '<' then
      let n := markupLength (low.drop 1) r
      markupCloses (low.drop 1) r && closes (low.drop (1 + n)) (r.drop n)
    else closes (low.drop 1) r
termination_by s.length
decreasing_by all_goals simp only [List.length_cons, List.length_drop]; omega

variable {low s x : Text}

/-! ## What a `<` opens -/

theorem tagLength_append (x : Text) {quote : Option Char} {s : Text} (h : tagCloses quote s = true) :
    tagLength quote (s ++ x) = tagLength quote s ∧ tagLength quote s ≤ s.length := by
  fun_induction tagCloses quote s with
  | case1 => cases h
  | case2 c s q ih =>
    obtain ⟨heq, hle⟩ := ih h
    rw [List.cons_append, tagLength, tagLength, heq, List.length_cons]
    exact ⟨rfl, by omega⟩
  | case3 c s hc ih =>
    obtain ⟨heq, hle⟩ := ih h
    simp only [List.cons_append, tagLength, if_pos hc, heq, List.length_cons]
    exact ⟨trivial, by omega⟩
  | case4 => simp [tagLength]
  | case5 c s hc hmore ih =>
    obtain ⟨heq, hle⟩ := ih h
    simp only [List.cons_append, tagLength, if_neg hc, if_neg hmore, heq, List.length_cons]
    exact ⟨trivial, by omega⟩

theorem rawTextName?_append (hx : AtTag x) {c : Char} {r : Text} :
    rawTextName? (c :: r ++ x) = rawTextName? (c :: r) := by
  have hname : ∀ d ∈ x.head?, (d = ':' || d = '-' || Text.isWordChar d) = false := fun d hd => by
    rw [hx d hd]
    decide
  rw [List.cons_append, rawTextName?, rawTextName?, ← List.cons_append, Text.takeWhile_append_of_head hname]

/-- **Markup that ends in a text** ends there whatever tag stands behind the text. -/
theorem markupLength_append (h : markupCloses low s = true) (hlow : low.length = s.length) (hx : AtTag x) (y : Text) :
    markupLength (low ++ y) (s ++ x) = markupLength low s ∧ markupLength low s ≤ s.length := by
  have hcomment : Text.after? "!--".toList (s ++ x) = (Text.after? "!--".toList s).map (· ++ x) :=
    Text.after?_append_of_head (fun c hc => by rw [hx c hc]; decide) s
  unfold markupCloses at h
  unfold markupLength
  rw [hcomment]
  cases hafter : Text.after? "!--".toList s with
  | some r =>
    rw [hafter] at h
    obtain ⟨n, hn⟩ := Option.isSome_iff_exists.1 h
    have hsplit := congrArg List.length (Text.eq_append_of_after? hafter)
    have hle := Text.offset?_le hn
    have hthree : "!--".toList.length = 3 := rfl
    have hthree' : "-->".toList.length = 3 := rfl
    rw [List.length_append] at hsplit
    rw [Option.map_some]
    dsimp only
    unfold commentLength
    rw [Text.offset?_append hn, hn]
    exact ⟨rfl, by dsimp only; omega⟩
  | none =>
    rw [hafter] at h
    rw [Option.map_none]
    cases s with
    | nil =>
      cases x with
      | nil => exact ⟨rfl, Nat.le_refl _⟩
      | cons c x =>
        rw [hx c rfl]
        exact ⟨rfl, Nat.le_refl _⟩
    | cons c r =>
      dsimp only at h ⊢
      rw [List.cons_append]
      dsimp only
      split
      · rename_i hopens
        rw [if_pos hopens, Bool.and_eq_true] at h
        obtain ⟨htag, hraw⟩ := h
        obtain ⟨hlength, hle⟩ := tagLength_append x htag
        rw [← List.cons_append, hlength, rawTextName?_append hx]
        cases hname : rawTextName? (c :: r) with
        | none => exact ⟨rfl, hle⟩
        | some name =>
          rw [hname] at hraw
          obtain ⟨m, hm⟩ := Option.isSome_iff_exists.1 hraw
          have hfits := Text.offset?_le hm
          rw [List.length_drop] at hfits
          dsimp only
          unfold rawTextLength
          rw [List.drop_append_of_le_length (hlow ▸ hle), Text.offset?_append hm, hm]
          exact ⟨rfl, by rw [Option.getD_some]; omega⟩
      · exact ⟨rfl, Nat.zero_le _⟩

/-- **Brackets are masked piece by piece** where a tag begins and all markup before it has ended. -/
theorem maskBrackets_append (h : closes low s = true) (hlow : low.length = s.length) (hx : AtTag x) (y : Text) :
    maskBrackets (low ++ y) (s ++ x) = maskBrackets low s ++ maskBrackets y x := by
  fun_induction closes low s with
  | case1 low =>
    rw [List.eq_nil_of_length_eq_zero hlow, maskBrackets]
    rfl
  | case2 low r n ih =>
    rw [Bool.and_eq_true] at h
    rw [List.length_cons] at hlow
    have hdrop : ∀ k ≤ r.length + 1, (low ++ y).drop k = low.drop k ++ y := fun k hk =>
      List.drop_append_of_le_length (hlow ▸ hk)
    obtain ⟨hn, hle⟩ := markupLength_append h.1 (by rw [List.length_drop]; omega) hx y
    have hrest := ih h.2 (by rw [List.length_drop, List.length_drop]; omega)
    rw [List.cons_append, maskBrackets, if_pos rfl, maskBrackets, if_pos rfl]
    dsimp only
    rw [hdrop 1 (by omega), hn, hdrop _ (by omega), List.take_append_of_le_length hle,
      List.drop_append_of_le_length hle, hrest, ← List.append_assoc]
  | case3 low c r hc ih =>
    rw [List.length_cons] at hlow
    have hrest := ih h (by rw [List.length_drop]; omega)
    rw [List.cons_append, maskBrackets, if_neg hc, List.drop_append_of_le_length (by omega), hrest]
    rw [maskBrackets, if_neg hc]
    rfl

end Template
end ViewAtlas
