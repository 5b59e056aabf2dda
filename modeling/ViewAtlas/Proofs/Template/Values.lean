import ViewAtlas.Proofs.Template.Locality
/-!
# Where a tag holds values, and where it ends

The value of an attribute stands between quotes, comments behind the first of them apart, or it holds no gap
(`readStartTag?_holdsValue`).  What is read from a `<` on ends with a `>` (`taken?_more`).
-/
namespace ViewAtlas
namespace Template

variable {m s rest : Text} {pos stop n : Nat}

/-! ## Values -/

/-- **The span of a value**: it lies between a quote, or the end of a comment, and a quote, or no gap stands in it. -/
def HoldsValue (m : Text) (r : Span) : Prop :=
  (∃ p ∈ ['"', '\'', '>'], ∃ q ∈ ['"', '\''], 0 < r.start ∧ m[r.start - 1]? = some p ∧ m[r.stop]? = some q) ∨
    ∀ i, r.holds i = true → ∃ c, m[i]? = some c ∧ isGap c = false

theorem holdsValue_of_empty (m : Text) {r : Span} (h : r.stop ≤ r.start) : HoldsValue m r := by
  refine .inr fun i hi => ?_
  rw [Span.holds, Bool.and_eq_true, decide_eq_true_eq, decide_eq_true_eq] at hi
  omega

theorem commentLength?_last (h : commentLength? s = some n) : s[n - 1]? = some '>' := by
  obtain ⟨r, hr, h⟩ := Option.bind_eq_some_iff.1 h
  obtain ⟨k, hk, rfl⟩ := Option.map_eq_some_iff.1 h
  obtain ⟨a, b, rfl, rfl⟩ := Text.eq_append_of_offset? hk
  have hsplit : s = "<!--".toList ++ a ++ "--".toList ++ '>' :: b := by
    rw [Text.eq_append_of_after? hr]
    simp
  have hlength : a.length + 7 - 1 = ("<!--".toList ++ a ++ "--".toList).length := by
    simp [Nat.add_comm, Nat.add_left_comm]
  rw [hsplit, hlength, List.getElem?_append_right (Nat.le_refl _), Nat.sub_self, List.getElem?_cons_zero]

theorem commentsLength_last {s : Text} (h : commentsLength s ≠ 0) : s[commentsLength s - 1]? = some '>' := by
  fun_induction commentsLength s with
  | case1 => exact absurd rfl h
  | case2 s gap n hn ih =>
    have hpos := (commentLength?_le hn).1
    by_cases hzero : commentsLength (s.drop (gap + n)) = 0
    · have hlast := commentLength?_last hn
      rw [List.getElem?_drop] at hlast
      rw [hzero, ← hlast, Nat.add_zero, Nat.add_sub_assoc (by omega)]
    · have hlast := ih hzero
      rw [List.getElem?_drop] at hlast
      rw [← hlast, Nat.add_sub_assoc (by omega)]

theorem getElem?_of_drop (hs : m.drop pos = s) (i : Nat) : m[pos + i]? = s[i]? := by
  rw [← hs, List.getElem?_drop]

theorem Advances.drop_of (h : Advances pos s stop rest) (hs : m.drop pos = s) : m.drop stop = rest := by
  obtain ⟨t, rfl, rfl⟩ := h
  rw [← List.drop_drop, hs, List.drop_left]

theorem readValue?_holdsValue (hs : m.drop pos = s) {r : Span} (h : readValue? pos s = some (r, stop, rest)) :
    HoldsValue m r := by
  have hat := getElem?_of_drop hs
  unfold readValue? at h
  split at h
  · cases h
  · rename_i c s
    split at h
    · rename_i hquote
      dsimp only at h
      split at h
      · cases h
      · rename_i q t heq
        have hq : q = c := by
          rw [← List.drop_drop] at heq
          have hne := eq_false_of_dropWhile (drop_length_takeWhile (· ≠ c) _ ▸ heq)
          simpa using hne
        have hend : s[commentsLength s + ((s.drop (commentsLength s)).takeWhile (· ≠ c)).length]? = some q := by
          rw [← List.head?_drop, heq, List.head?_cons]
        have hmem : c ∈ ['"', '\''] := by rcases hquote with rfl | rfl <;> decide
        cases h
        by_cases hbody : (s.drop (commentsLength s)).takeWhile (· ≠ c) = []
        · rw [if_pos hbody, hbody]
          exact holdsValue_of_empty m (Nat.le_refl _)
        · rw [if_neg hbody]
          have hstop : m[pos + 1 + commentsLength s + ((s.drop (commentsLength s)).takeWhile (· ≠ c)).length]? = some c := by
            rw [Nat.add_assoc, Nat.add_assoc, hat, Nat.add_comm 1, List.getElem?_cons_succ, hend, hq]
          by_cases hzero : commentsLength s = 0
          · refine .inl ⟨c, List.mem_of_mem_take (i := 2) hmem, c, hmem, by dsimp only; omega, ?_, hstop⟩
            rw [hzero]
            exact hat 0
          · refine .inl ⟨'>', by decide, c, hmem, by dsimp only; omega, ?_, hstop⟩
            rw [← commentsLength_last hzero,
              show pos + 1 + commentsLength s - 1 = pos + (commentsLength s - 1 + 1) by omega, hat, List.getElem?_cons_succ]
    · dsimp only at h
      split at h
      · cases h
      · cases h
        refine .inr fun i hi => ?_
        rw [Span.holds, Bool.and_eq_true, decide_eq_true_eq, decide_eq_true_eq] at hi
        obtain ⟨j, rfl⟩ := Nat.exists_eq_add_of_le hi.1
        have hj : j < ((c :: s).takeWhile isBareValueChar).length := by
          have := hi.2
          dsimp only at this
          omega
        refine ⟨((c :: s).takeWhile isBareValueChar)[j], ?_, ?_⟩
        · rw [hat, ← List.getElem?_eq_getElem hj, List.prefix_iff_getElem?.1 (List.takeWhile_prefix isBareValueChar) j hj,
            List.getElem?_eq_getElem hj]
        · have hbare : isBareValueChar _ = true := List.mem_takeWhile_imp (List.getElem_mem hj)
          unfold isBareValueChar at hbare
          rw [Bool.not_eq_true', Bool.or_eq_false_iff] at hbare
          exact hbare.1

/-- **An attribute holds its value** in its span. -/
def WrittenAttribute.HoldsValue (m : Text) (a : WrittenAttribute) : Prop :=
  Template.HoldsValue m a.value ∧ a.value.Within a.span.start a.span.stop

theorem readAttribute?_holdsValue (hs : m.drop pos = s) {a : WrittenAttribute}
    (h : readAttribute? pos s = some (a, stop, rest)) : a.HoldsValue m := by
  have hname := Advances.takeWhile pos isAttributeNameChar s
  unfold readAttribute? at h
  dsimp only at h
  generalize s.takeWhile isAttributeNameChar = name at h hname
  have hfiller := Advances.filler (pos + name.length) (s.drop name.length)
  generalize fillerLength (s.drop name.length) = filler at h hfiller
  split at h
  · rename_i t heq
    rw [heq] at hfiller
    have hfiller' := Advances.filler (pos + name.length + filler + 1) t
    generalize fillerLength t = filler' at h hfiller'
    split at h
    · cases h
    · rename_i r after t' hv
      cases h
      have hbefore := (hname.trans hfiller).trans ((Advances.one _ '=' t).trans hfiller')
      refine ⟨readValue?_holdsValue (hbefore.drop_of hs) hv, ?_⟩
      exact (readValue?_advances hv).2.mono hbefore.le (Nat.le_refl _)
  · cases h
    exact ⟨holdsValue_of_empty m (Nat.le_refl _), Nat.le_add_right _ _, Nat.le_refl _, Nat.le_refl _⟩

theorem readAttributes?_holdsValue (hs : m.drop pos = s) {l : List WrittenAttribute} {closed : Bool}
    (h : readAttributes? pos s = some (l, closed, stop, rest)) : ∀ a ∈ l, a.HoldsValue m := by
  fun_induction readAttributes? pos s generalizing l closed stop rest with
  | case1 | case2 =>
    cases h
    exact List.forall_mem_nil _
  | case3 | case4 | case6 | case7 => cases h
  | case5 pos s =>
    rename_i heq _ a _ _ ha _ _ _ _ hmore ih
    cases h
    have hfiller := Advances.filler pos s
    rw [heq] at hfiller
    have hs' := hfiller.drop_of hs
    intro b hb
    rcases List.mem_cons.1 hb with rfl | hb
    · exact readAttribute?_holdsValue hs' ha
    · exact ih ((readAttribute?_advances ha).1.drop_of hs') hmore b hb

theorem readStartTag?_holdsValue (hs : m.drop pos = s) {tag : StartTag}
    (h : readStartTag? pos s = some (tag, stop, rest)) : ∀ a ∈ tag.attributes, a.HoldsValue m := by
  have hname := Advances.takeWhile pos isTagNameChar s
  unfold readStartTag? at h
  dsimp only at h
  split at h
  · cases h
  · split at h
    · cases h
    · rename_i attributes closed stop rest ha
      cases h
      exact readAttributes?_holdsValue (hname.drop_of hs) ha

/-! ## Ends of tags -/

theorem Advances.suffix (h : Advances pos s stop rest) : rest <:+ s := by
  obtain ⟨t, rfl, -⟩ := h
  exact List.suffix_append t rest

theorem readAttributes?_more_suffix {l : List WrittenAttribute} {closed : Bool}
    (h : readAttributes? pos s = some (l, closed, stop, rest)) : '>' :: rest <:+ s := by
  fun_induction readAttributes? pos s generalizing l closed stop rest with
  | case1 pos s =>
    rename_i heq
    cases h
    exact heq ▸ List.drop_suffix _ s
  | case2 pos s =>
    rename_i heq
    cases h
    exact (List.suffix_cons _ _).trans (heq ▸ List.drop_suffix _ s)
  | case3 | case4 | case6 | case7 => cases h
  | case5 pos s =>
    rename_i heq _ a _ _ ha _ _ _ _ hmore ih
    cases h
    exact ((ih hmore).trans (readAttribute?_advances ha).1.suffix).trans (heq ▸ List.drop_suffix _ s)

theorem readStartTag?_more_suffix {tag : StartTag} (h : readStartTag? pos s = some (tag, stop, rest)) :
    '>' :: rest <:+ s := by
  unfold readStartTag? at h
  dsimp only at h
  split at h
  · cases h
  · split at h
    · cases h
    · rename_i ha
      cases h
      exact (readAttributes?_more_suffix ha).trans (List.drop_suffix _ s)

theorem readEndTag?_more_suffix {direct : Bool} {name : Text}
    (h : readEndTag? pos s = some (direct, name, stop, rest)) : '>' :: rest <:+ s := by
  unfold readEndTag? at h
  dsimp only at h
  split at h
  · cases h
  · split at h
    · rename_i t heq
      cases h
      exact ((heq ▸ List.drop_suffix _ _ : '>' :: rest <:+ _).trans (List.drop_suffix _ _)).trans (List.drop_suffix _ _)
    · cases h

theorem rawElementLength?_more_suffix {key : Text} (h : rawElementLength? key s = some n) : '>' :: s.drop n <:+ s := by
  unfold rawElementLength? at h
  dsimp only at h
  split at h
  · cases h
  · rename_i k _
    split at h
    · rename_i direct name stop rest he
      split at h
      · cases h
        have hrest := (readEndTag?_advances he).drop_eq
        rw [Nat.sub_zero, List.drop_drop] at hrest
        rw [hrest]
        exact (readEndTag?_more_suffix he).trans (List.drop_suffix _ s)
      · cases h
    · cases h

theorem declarationLength?_more_suffix (h : declarationLength? s = some n) : '>' :: s.drop n <:+ s := by
  unfold declarationLength? at h
  split at h
  · rename_i r
    obtain ⟨k, hk, rfl⟩ := Option.map_eq_some_iff.1 h
    obtain ⟨a, b, rfl, rfl⟩ := Text.eq_append_of_offset? hk
    have hsplit : '-' :: '-' :: (a ++ ("-->".toList ++ b)) = '-' :: '-' :: (a ++ ['-', '-']) ++ '>' :: b := by simp
    have hdrop : ('-' :: '-' :: (a ++ ['-', '-']) ++ '>' :: b).drop (a.length + 5) = b := by
      rw [List.drop_append, List.drop_eq_nil_of_le (by simp)]
      simp
    rw [hsplit, hdrop]
    exact List.suffix_append ..
  · dsimp only at h
    split at h
    · cases h
    · split at h
      · cases h
      · rename_i hend
        rw [not_or, Nat.not_le] at hend
        cases h
        generalize fillerLength s + 7 + commentsLength (s.drop (fillerLength s + 7)) = k at hend ⊢
        cases hrest : (s.drop k).drop ((s.drop k).takeWhile (· ≠ '>')).length with
        | nil =>
          have := List.drop_eq_nil_iff.1 hrest
          omega
        | cons c t =>
          have hc : c = '>' := by
            rw [drop_length_takeWhile] at hrest
            simpa using eq_false_of_dropWhile hrest
          have htail : s.drop (k + ((s.drop k).takeWhile (· ≠ '>')).length + 1) = t := by
            rw [← List.drop_drop, ← List.drop_drop, hrest]
            rfl
          rw [htail, ← hc, ← hrest]
          exact (List.drop_suffix _ _).trans (List.drop_suffix _ _)

variable {template : Text} {g g' : Growth}

theorem startTag?_more_suffix (h : startTag? template g pos s = some (g', stop)) :
    '>' :: s.drop (stop - pos - 1) <:+ s := by
  unfold startTag? at h
  split at h
  · cases h
  · rename_i tag stop' rest htag
    obtain ⟨hadv, hlt, -⟩ := readStartTag?_advances htag
    have hmore := readStartTag?_more_suffix htag
    have hrest := hadv.drop_eq
    rw [show stop' - (pos + 1) = stop' - pos - 1 by omega] at hrest
    dsimp only at h
    split at h
    · split at h
      · cases h
      · obtain ⟨k, hk, heq⟩ := Option.map_eq_some_iff.1 h
        cases heq
        rw [show stop' + k - pos - 1 = stop' - pos - 1 + k by omega, ← List.drop_drop, hrest]
        exact (rawElementLength?_more_suffix hk).trans ((List.suffix_cons '>' rest).trans hmore)
    · split at h
      all_goals
        cases h
        rwa [hrest]

/-- **What is read from a `<` on ends with a `>`.** -/
theorem taken?_more (h : taken? template g pos '<' s = some (g', n)) : '>' :: s.drop n <:+ s := by
  unfold taken? at h
  rw [if_pos rfl] at h
  split at h
  · rename_i r
    obtain ⟨k, hk, heq⟩ := Option.map_eq_some_iff.1 h
    cases heq
    rw [List.drop_succ_cons]
    exact (declarationLength?_more_suffix hk).trans (List.suffix_cons '!' r)
  · rename_i r
    obtain ⟨⟨direct, name, stop, rest⟩, he, h⟩ := Option.bind_eq_some_iff.1 h
    obtain ⟨g₁, -, heq⟩ := Option.map_eq_some_iff.1 h
    have hadv := readEndTag?_advances he
    have hle := hadv.le
    have hrest := hadv.drop_eq
    cases heq
    dsimp only
    rw [show stop - pos - 1 = stop - (pos + 2) + 1 by omega, List.drop_succ_cons, hrest]
    exact (readEndTag?_more_suffix he).trans (List.suffix_cons '/' r)
  · obtain ⟨⟨g₁, stop⟩, hg, heq⟩ := Option.map_eq_some_iff.1 h
    cases heq
    exact startTag?_more_suffix hg

end Template
end ViewAtlas
