import ViewAtlas.Template.Reading
/-!
# Offsets of tags

A reader of tags takes characters from the front of a text and counts them (`Advances`): the offset after a tag is the
offset before it and the number of characters taken, and the spans that it reports lie between the two.
-/
namespace ViewAtlas

/-- **A span between two offsets.** -/
def Span.Within (lo hi : Nat) (r : Span) : Prop := lo ≤ r.start ∧ r.start ≤ r.stop ∧ r.stop ≤ hi

theorem Span.Within.mono {lo lo' hi hi' : Nat} {r : Span} (h : r.Within lo hi) (hl : lo' ≤ lo) (hh : hi ≤ hi') :
    r.Within lo' hi' := ⟨Nat.le_trans hl h.1, h.2.1, Nat.le_trans h.2.2 hh⟩

namespace Template

/-- **Reading on**: from the offset `pos`, where `s` begins, to the offset `stop`, where `rest` begins. -/
def Advances (pos : Nat) (s : Text) (stop : Nat) (rest : Text) : Prop := ∃ t, s = t ++ rest ∧ stop = pos + t.length

namespace Advances

variable {pos mid stop : Nat} {s t rest : Text}

theorem refl (pos : Nat) (s : Text) : Advances pos s pos s := ⟨[], rfl, rfl⟩

theorem trans (h : Advances pos s mid t) (k : Advances mid t stop rest) : Advances pos s stop rest := by
  obtain ⟨a, rfl, rfl⟩ := h
  obtain ⟨b, rfl, rfl⟩ := k
  exact ⟨a ++ b, by rw [List.append_assoc], by rw [List.length_append, Nat.add_assoc]⟩

theorem le (h : Advances pos s stop rest) : pos ≤ stop := by
  obtain ⟨t, _, rfl⟩ := h
  exact Nat.le_add_right _ _

theorem length_eq (h : Advances pos s stop rest) : stop + rest.length = pos + s.length := by
  obtain ⟨t, rfl, rfl⟩ := h
  rw [List.length_append, Nat.add_assoc]

theorem drop_eq (h : Advances pos s stop rest) : s.drop (stop - pos) = rest := by
  obtain ⟨t, rfl, rfl⟩ := h
  rw [Nat.add_sub_cancel_left, List.drop_left]

theorem cons (c : Char) (h : Advances (pos + 1) s stop rest) : Advances pos (c :: s) stop rest := by
  obtain ⟨t, rfl, rfl⟩ := h
  exact ⟨c :: t, rfl, by rw [List.length_cons]; omega⟩

theorem one (pos : Nat) (c : Char) (s : Text) : Advances pos (c :: s) (pos + 1) s := (refl (pos + 1) s).cons c

theorem drop (pos n : Nat) (s : Text) (h : n ≤ s.length) : Advances pos s (pos + n) (s.drop n) :=
  ⟨s.take n, (List.take_append_drop n s).symm, by rw [List.length_take, Nat.min_eq_left h]⟩

theorem takeWhile (pos : Nat) (p : Char → Bool) (s : Text) :
    Advances pos s (pos + (s.takeWhile p).length) (s.drop (s.takeWhile p).length) :=
  drop pos _ s (List.takeWhile_prefix p).length_le

end Advances

variable {pos stop : Nat} {s rest : Text}

theorem commentsLength_le (s : Text) : commentsLength s ≤ s.length := by
  fun_induction commentsLength s with
  | case1 => exact Nat.zero_le _
  | case2 s gap n h ih =>
    have hpos := commentLength?_le h
    rw [List.length_drop] at hpos ih
    omega

theorem fillerLength_le (s : Text) : fillerLength s ≤ s.length := by
  have hcomments := commentsLength_le s
  have hgap := (List.takeWhile_prefix (l := s.drop (commentsLength s)) isGap).length_le
  rw [List.length_drop] at hgap
  unfold fillerLength
  dsimp only
  omega

theorem Advances.comments (pos : Nat) (s : Text) : Advances pos s (pos + commentsLength s) (s.drop (commentsLength s)) :=
  .drop pos _ s (commentsLength_le s)

theorem Advances.filler (pos : Nat) (s : Text) : Advances pos s (pos + fillerLength s) (s.drop (fillerLength s)) :=
  .drop pos _ s (fillerLength_le s)

/-- Whether a comment begins a text, behind a gap and ended or not. -/
def opensComment (s : Text) : Bool := (Text.after? "<!--".toList (s.dropWhile isGap)).isSome

theorem drop_length_takeWhile (p : Char → Bool) (s : Text) : s.drop (s.takeWhile p).length = s.dropWhile p :=
  (congrArg (List.drop _) List.takeWhile_append_dropWhile.symm).trans List.drop_left

theorem commentsLength_eq_zero {s : Text} (h : opensComment s = false) : commentsLength s = 0 := by
  rw [commentsLength]
  split
  · rfl
  · rename_i hsome
    rw [drop_length_takeWhile, commentLength?, Option.isSome_eq_false_iff.1 h |> Option.isNone_iff_eq_none.1] at hsome
    cases hsome

theorem opensComment_append {x : Text} (hx : ∀ c ∈ x.head?, isGap c = false ∧ c ∉ "<!--".toList) (s : Text) :
    opensComment (s ++ x) = opensComment s := by
  rw [opensComment, opensComment, Text.dropWhile_append_of_head fun c hc => (hx c hc).1,
    Text.after?_append_of_head fun c hc => (hx c hc).2, Option.isSome_map]

theorem opensComment_of_head {gap t : Text} {c : Char} (hgap : ∀ d ∈ gap, isGap d = true) (hc : isGap c = false)
    (hopen : c ≠ '<') : opensComment (gap ++ c :: t) = false := by
  rw [opensComment, List.dropWhile_append_of_pos hgap, List.dropWhile_cons_of_neg (by rw [hc]; decide)]
  exact congrArg Option.isSome (if_neg (Ne.symm hopen))

/-- **A gap before a character that opens no comment is all that is passed over.** -/
theorem fillerLength_gap {gap t : Text} {c : Char} (hgap : ∀ d ∈ gap, isGap d = true) (hc : isGap c = false)
    (hopen : c ≠ '<') : fillerLength (gap ++ c :: t) = gap.length := by
  unfold fillerLength
  rw [commentsLength_eq_zero (opensComment_of_head hgap hc hopen)]
  dsimp only
  rw [List.drop_zero, Nat.zero_add, List.takeWhile_append_of_pos hgap,
    List.takeWhile_cons_of_neg (by rw [hc]; decide), List.append_nil]

theorem fillerLength_cons {c : Char} (hc : isGap c = false) (hopen : c ≠ '<') (t : Text) : fillerLength (c :: t) = 0 :=
  fillerLength_gap (List.forall_mem_nil _) hc hopen

theorem readValue?_advances {r : Span} (h : readValue? pos s = some (r, stop, rest)) :
    Advances pos s stop rest ∧ r.Within pos stop := by
  unfold readValue? at h
  split at h
  · cases h
  · rename_i c s
    split at h
    · dsimp only at h
      split at h
      · cases h
      · rename_i q t heq
        cases h
        have hbody := Advances.takeWhile (pos + 1 + commentsLength s) (· ≠ c) (s.drop (commentsLength s))
        rw [List.drop_drop, heq] at hbody
        generalize (s.drop (commentsLength s)).takeWhile (· ≠ c) = body at hbody
        have hall := ((Advances.comments (pos + 1) s).trans (hbody.trans (.one _ q _))).cons c
        rw [show pos + 1 + commentsLength s + body.length + 1 = pos + commentsLength s + body.length + 2 by omega] at hall
        refine ⟨hall, ?_⟩
        unfold Span.Within
        dsimp only
        split <;> omega
    · dsimp only at h
      split at h
      · cases h
      · cases h
        exact ⟨.takeWhile .., by unfold Span.Within; dsimp only; omega⟩

/-- **The spans of an attribute lie between two offsets.** -/
def WrittenAttribute.Within (lo hi : Nat) (a : WrittenAttribute) : Prop := a.value.Within lo hi ∧ a.span.Within lo hi

theorem WrittenAttribute.Within.mono {lo lo' hi hi' : Nat} {a : WrittenAttribute} (h : a.Within lo hi) (hl : lo' ≤ lo)
    (hh : hi ≤ hi') : a.Within lo' hi' := ⟨h.1.mono hl hh, h.2.mono hl hh⟩

theorem readAttribute?_advances {a : WrittenAttribute} (h : readAttribute? pos s = some (a, stop, rest)) :
    Advances pos s stop rest ∧ a.Within pos stop := by
  have hname := Advances.takeWhile pos isAttributeNameChar s
  unfold readAttribute? at h
  dsimp only at h
  generalize s.takeWhile isAttributeNameChar = name at h hname
  have hfiller := Advances.filler (pos + name.length) (s.drop name.length)
  generalize fillerLength (s.drop name.length) = filler at h hfiller
  split at h
  · rename_i t heq
    rw [heq] at hfiller
    have hfiller' := Advances.filler (pos + name.length + filler + 1) t
    generalize fillerLength t = filler' at h hfiller'
    split at h
    · cases h
    · rename_i r after t' hv
      cases h
      obtain ⟨hval, hr⟩ := readValue?_advances hv
      have hbefore := (hname.trans hfiller).trans ((Advances.one _ '=' t).trans hfiller')
      have hall := hbefore.trans hval
      refine ⟨hall, hr.mono hbefore.le (Nat.le_refl _), ?_⟩
      exact ⟨Nat.le_refl _, hall.le, Nat.le_refl _⟩
  · cases h
    exact ⟨hname, by unfold WrittenAttribute.Within Span.Within; dsimp only; omega⟩

theorem readAttributes?_advances {l : List WrittenAttribute} {closed : Bool}
    (h : readAttributes? pos s = some (l, closed, stop, rest)) :
    Advances pos s stop rest ∧ pos < stop ∧ ∀ a ∈ l, a.Within pos stop := by
  fun_induction readAttributes? pos s generalizing l closed stop rest with
  | case1 pos s =>
    rename_i heq
    cases h
    have h1 := Advances.filler pos s
    rw [heq] at h1
    exact ⟨h1.trans (.one ..), Nat.lt_succ_of_le h1.le, by simp⟩
  | case2 pos s =>
    rename_i heq
    cases h
    have h1 := Advances.filler pos s
    rw [heq] at h1
    have h2 := h1.trans ((Advances.one _ '>' _).cons '/')
    exact ⟨h2, Nat.lt_of_lt_of_le (Nat.lt_succ_of_le h1.le) (Nat.le_succ _), by simp⟩
  | case3 => cases h
  | case4 => cases h
  | case5 pos s =>
    rename_i heq _ a _ _ ha _ _ _ _ hmore ih
    cases h
    have h1 := Advances.filler pos s
    rw [heq] at h1
    obtain ⟨h2, hin⟩ := readAttribute?_advances ha
    obtain ⟨h3, hlt, hall⟩ := ih hmore
    have hle := h1.trans h2 |>.le
    refine ⟨h1.trans (h2.trans h3), Nat.lt_of_le_of_lt hle hlt, fun b hb => ?_⟩
    rcases List.mem_cons.1 hb with rfl | hb
    · exact hin.mono h1.le h3.le
    · exact (hall b hb).mono hle (Nat.le_refl _)
  | case6 => cases h
  | case7 => cases h

/-- **A start tag between two offsets**: its name is made of the characters of tag names, and its attributes lie there.
-/
structure StartTag.Within (lo hi : Nat) (tag : StartTag) : Prop where
  name : ∀ c ∈ tag.name, isTagNameChar c = true
  attributes : ∀ a ∈ tag.attributes, a.Within lo hi

theorem StartTag.Within.mono {lo lo' hi hi' : Nat} {tag : StartTag} (h : tag.Within lo hi) (hl : lo' ≤ lo)
    (hh : hi ≤ hi') : tag.Within lo' hi' := ⟨h.name, fun a ha => (h.attributes a ha).mono hl hh⟩

theorem readStartTag?_advances {tag : StartTag} (h : readStartTag? pos s = some (tag, stop, rest)) :
    Advances pos s stop rest ∧ pos < stop ∧ tag.Within pos stop := by
  have hname := Advances.takeWhile pos isTagNameChar s
  unfold readStartTag? at h
  dsimp only at h
  split at h
  · cases h
  · split at h
    · cases h
    · rename_i attributes closed stop rest ha
      cases h
      obtain ⟨h1, hlt, hall⟩ := readAttributes?_advances ha
      have := hname.le
      refine ⟨hname.trans h1, by omega, fun c hc => ?_, fun a ha => (hall a ha).mono this (Nat.le_refl _)⟩
      exact List.all_eq_true.1 List.all_takeWhile c hc

theorem readEndTag?_advances {direct : Bool} {name : Text} (h : readEndTag? pos s = some (direct, name, stop, rest)) :
    Advances pos s stop rest := by
  have hbefore := Advances.filler pos s
  unfold readEndTag? at h
  dsimp only at h
  generalize fillerLength s = before at h hbefore
  have hname := Advances.takeWhile (pos + before) isTagNameChar (s.drop before)
  generalize (s.drop before).takeWhile isTagNameChar = word at h hname
  have hbehind := Advances.filler (pos + before + word.length) ((s.drop before).drop word.length)
  generalize fillerLength ((s.drop before).drop word.length) = behind at h hbehind
  split at h
  · cases h
  · split at h
    · rename_i t heq
      cases h
      rw [heq] at hbehind
      exact hbefore.trans (hname.trans (hbehind.trans (.one ..)))
    · cases h

end Template
end ViewAtlas
