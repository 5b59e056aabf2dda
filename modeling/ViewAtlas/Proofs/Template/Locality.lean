import ViewAtlas.Proofs.Template.Runs
import ViewAtlas.Proofs.Template.Tags
/-!
# Reading before a tag

What is read at the start of a text, and ends in it, is read the same when a tag stands behind the text.  Each reader
has its lemma (`readStartTag?_append` and so on), and so has a step (`taken?_append`).  A text that is read whole is thus
read as before, up to the tag behind it (`Reads.append`).
-/
namespace ViewAtlas
namespace Template

variable {x s rest : Text} {pos stop : Nat}

/-! ## Texts before a tag -/

theorem AtTag.head (hx : AtTag x) {p : Char → Bool} (hp : p '<' = false) : ∀ c ∈ x.head?, p c = false := fun c hc => by
  rwa [hx c hc]

theorem takeWhile_append_of_drop {p : Char → Bool} {c : Char} {t : Text} (h : s.drop (s.takeWhile p).length = c :: t)
    (x : Text) : (s ++ x).takeWhile p = s.takeWhile p ∧ (s ++ x).drop (s.takeWhile p).length = c :: (t ++ x) := by
  rw [drop_length_takeWhile] at h
  have hc := eq_false_of_dropWhile h
  have hsplit : s ++ x = s.takeWhile p ++ c :: (t ++ x) := by
    rw [← List.cons_append, ← h, ← List.append_assoc, List.takeWhile_append_dropWhile]
  constructor
  · rw [hsplit, List.takeWhile_append_of_pos fun _ ha => List.mem_takeWhile_imp ha,
      List.takeWhile_cons_of_neg (by rw [hc]; decide), List.append_nil]
  · rw [hsplit, List.drop_left]

theorem AtTag.notMem (hx : AtTag x) {p : Text} (hp : '<' ∉ p) : ∀ c ∈ x.head?, c ∉ p := fun c hc => by rwa [hx c hc]

theorem drop_takeWhile_append (p : Char → Bool) (s x : Text) :
    (s ++ x).drop (s.takeWhile p).length = s.drop (s.takeWhile p).length ++ x :=
  List.drop_append_of_le_length (List.takeWhile_prefix p).length_le

/-! ## Comments -/

theorem commentLength?_append {n : Nat} (h : commentLength? s = some n) (x : Text) :
    commentLength? (s ++ x) = some n := by
  obtain ⟨r, hr, h⟩ := Option.bind_eq_some_iff.1 h
  obtain ⟨k, hk, rfl⟩ := Option.map_eq_some_iff.1 h
  have hafter : Text.after? "<!--".toList (s ++ x) = some (r ++ x) := by
    rw [Text.eq_append_of_after? hr, List.append_assoc, Text.after?_append]
  rw [commentLength?, hafter, Option.bind_some, Text.offset?_append hk, Option.map_some]

theorem commentsLength_comment {gap t : Text} {n : Nat} (hgap : ∀ d ∈ gap, isGap d = true)
    (h : commentLength? t = some n) : commentsLength (gap ++ t) = gap.length + n + commentsLength (t.drop n) := by
  have hopen : ∀ c ∈ t.head?, isGap c = false := fun c hc => by
    obtain ⟨r, hr, -⟩ := Option.bind_eq_some_iff.1 h
    rw [Text.eq_append_of_after? hr] at hc
    rw [← Option.some.inj hc]
    decide
  have hlead : (gap ++ t).takeWhile isGap = gap := by
    rw [Text.takeWhile_append_of_head hopen]
    exact List.takeWhile_eq_self_iff.2 hgap
  rw [commentsLength]
  split
  · rename_i hnone
    rw [hlead, List.drop_left, h] at hnone
    cases hnone
  · rename_i hsome
    rw [hlead, List.drop_left, h] at hsome
    cases hsome
    rw [hlead, ← List.drop_drop, List.drop_left]

theorem opensComment_append_tag (hx : AtTag x) (hs : opensComment s = false) (hmore : ∃ d ∈ s, isGap d = false) :
    opensComment (s ++ x) = false := by
  cases hrest : s.dropWhile isGap with
  | nil =>
    obtain ⟨d, hd, hgap⟩ := hmore
    rw [List.dropWhile_eq_nil_iff.1 hrest d hd] at hgap
    cases hgap
  | cons c r =>
    -- only the first character of an opening can be the one that a tag begins with
    have hafter := Text.after?_append_of_head (p := "!--".toList) (hx.notMem (by decide)) r
    have hopen : ∀ t : Text, Text.after? "<!--".toList (c :: t) =
        if '<' = c then Text.after? "!--".toList t else none := fun _ => rfl
    rw [opensComment, hrest, hopen] at hs
    rw [opensComment, List.dropWhile_append, hrest, List.isEmpty_cons, if_neg Bool.false_ne_true, List.cons_append,
      hopen, hafter]
    split at hs
    · rename_i hc
      rw [if_pos hc, Option.isSome_map, hs]
    · rename_i hc
      rw [if_neg hc]
      rfl

/-- **The comments that begin a text are the same before a tag**, when they leave none open. -/
theorem commentsLength_append (hx : AtTag x) (hclosed : opensComment (s.drop (commentsLength s)) = false)
    (hmore : ∃ d ∈ s.drop (commentsLength s), isGap d = false) : commentsLength (s ++ x) = commentsLength s := by
  fun_induction commentsLength s with
  | case1 s => exact commentsLength_eq_zero (opensComment_append_tag hx hclosed hmore)
  | case2 s gap n h ih =>
    rw [← List.drop_drop] at hclosed hmore
    have hsplit : s.takeWhile isGap ++ s.drop gap = s := by
      rw [drop_length_takeWhile, List.takeWhile_append_dropWhile]
    have hle := (commentLength?_le h).2
    conv => lhs; rw [← hsplit]
    rw [List.append_assoc, commentsLength_comment (fun _ hd => List.mem_takeWhile_imp hd) (commentLength?_append h x),
      List.drop_append_of_le_length hle, List.drop_drop, ih hclosed hmore]

/-- **What is passed over before a token is the same before a tag.** -/
theorem fillerLength_append (hx : AtTag x) {c : Char} {t : Text} (h : s.drop (fillerLength s) = c :: t)
    (hopen : c ≠ '<') : fillerLength (s ++ x) = fillerLength s ∧
      (s ++ x).drop (fillerLength s) = c :: (t ++ x) := by
  have hgap : ∀ d ∈ (s.drop (commentsLength s)).takeWhile isGap, isGap d = true := fun _ hd =>
    List.mem_takeWhile_imp hd
  unfold fillerLength at h
  dsimp only at h
  rw [← List.drop_drop] at h
  obtain ⟨htake, hdrop⟩ := takeWhile_append_of_drop h x
  rw [drop_length_takeWhile] at h
  have hc := eq_false_of_dropWhile h
  have hsplit : s.drop (commentsLength s) = (s.drop (commentsLength s)).takeWhile isGap ++ c :: t := by
    rw [← h, List.takeWhile_append_dropWhile]
  have hcomments : commentsLength (s ++ x) = commentsLength s := by
    refine commentsLength_append hx ?_ ⟨c, ?_, hc⟩ <;> rw [hsplit]
    · exact opensComment_of_head hgap hc hopen
    · exact List.mem_append_right _ (List.mem_cons_self ..)
  have hrest : (s ++ x).drop (commentsLength s) = s.drop (commentsLength s) ++ x :=
    List.drop_append_of_le_length (commentsLength_le s)
  unfold fillerLength
  dsimp only
  rw [hcomments, hrest, htake]
  refine ⟨rfl, ?_⟩
  rw [← List.drop_drop, hrest, hdrop]

/-- The places within tags and declarations behind which a comment may begin where something else may, in lower case. -/
def commentPlaces : List Text := [['"'], ['\''], "doctype".toList]

/-- Whether a comment that nothing ends begins behind the comments at the start of a text. -/
def leavesComment (s : Text) : Bool := opensComment (s.drop (commentsLength s))

/-- **A text that leaves no comment open** in its tags and declarations. -/
def ClosesComments (s : Text) : Prop := ∀ p ∈ commentPlaces, ∀ t, t <:+ s →
  (Text.after? p (Text.lower (t.take p.length))).isSome = true → leavesComment (t.drop p.length) = false

theorem ClosesComments.suffix {t : Text} (h : ClosesComments s) (ht : t <:+ s) : ClosesComments t :=
  fun p hp u hu => h p hp u (hu.trans ht)

/-! ## Tags -/

theorem readValue?_append (hx : AtTag x) (hs : ClosesComments s) {r : Span}
    (h : readValue? pos s = some (r, stop, rest)) : readValue? pos (s ++ x) = some (r, stop, rest ++ x) := by
  cases s with
  | nil => cases h
  | cons c s =>
    rw [List.cons_append]
    unfold readValue? at h ⊢
    dsimp only at h ⊢
    split at h
    · rename_i hc
      rw [if_pos hc]
      split at h
      · cases h
      · rename_i q t hq
        rw [← List.drop_drop] at hq
        have hclosed : leavesComment s = false := by
          rcases hc with rfl | rfl
          · exact hs ['"'] (by decide) _ (List.suffix_refl _) rfl
          · exact hs ['\''] (by decide) _ (List.suffix_refl _) rfl
        have hquote : q = c := by
          have hne := eq_false_of_dropWhile (drop_length_takeWhile (· ≠ c) _ ▸ hq)
          simpa using hne
        have hmore : ∃ d ∈ s.drop (commentsLength s), isGap d = false := by
          refine ⟨q, (List.drop_suffix _ _).subset (hq ▸ List.mem_cons_self ..), ?_⟩
          rw [hquote]
          rcases hc with rfl | rfl <;> decide
        obtain ⟨h1, h2⟩ := takeWhile_append_of_drop hq x
        cases h
        rw [commentsLength_append hx hclosed hmore, ← List.drop_drop, List.drop_append_of_le_length (commentsLength_le s),
          h1, h2]
    · rename_i hc
      rw [if_neg hc, ← List.cons_append, Text.takeWhile_append_of_head (hx.head rfl)]
      split at h
      · cases h
      · rename_i hbody
        cases h
        rw [if_neg hbody, drop_takeWhile_append]

theorem readValue?_head {r : Span} (h : readValue? pos s = some (r, stop, rest)) : ∃ c t, s = c :: t ∧ c ≠ '<' := by
  cases s with
  | nil => cases h
  | cons c s =>
    refine ⟨c, s, rfl, fun hc => ?_⟩
    subst hc
    cases h

theorem AtTag.eq_cons (hx : AtTag x) {c : Char} (hc : c ≠ '<') {t : Text} (h : s ++ x = c :: t) :
    ∃ u, s = c :: u ∧ t = u ++ x := by
  cases s with
  | nil => exact absurd (hx c (by rw [← List.nil_append x, h]; rfl)) hc
  | cons d u =>
    cases h
    exact ⟨u, rfl, rfl⟩

theorem readAttribute?_append (hx : AtTag x) (hs : ClosesComments s) {a : WrittenAttribute}
    (h : readAttribute? pos s = some (a, stop, rest)) (hnext : ∃ c t, rest.drop (fillerLength rest) = c :: t ∧ c ≠ '<') :
    readAttribute? pos (s ++ x) = some (a, stop, rest ++ x) := by
  unfold readAttribute? at h ⊢
  dsimp only at h ⊢
  rw [Text.takeWhile_append_of_head (hx.head rfl), drop_takeWhile_append]
  split at h
  · rename_i t heq
    obtain ⟨hfiller, hdrop⟩ := fillerLength_append hx heq (by decide)
    rw [hfiller, hdrop]
    split at h
    · cases h
    · rename_i r after t' hv
      obtain ⟨c, u, hu, hopen⟩ := readValue?_head hv
      obtain ⟨hfiller', hdrop'⟩ := fillerLength_append hx hu hopen
      have ht : t <:+ s :=
        ((List.suffix_cons '=' t).trans (heq ▸ List.drop_suffix _ _)).trans (List.drop_suffix _ s)
      cases h
      simp only [hfiller', hdrop']
      rw [← List.cons_append, ← hu, readValue?_append hx ((hs.suffix ht).suffix (List.drop_suffix _ t)) hv]
  · rename_i hno
    cases h
    obtain ⟨c, t, heq, hopen⟩ := hnext
    obtain ⟨hfiller, hdrop⟩ := fillerLength_append hx heq hopen
    rw [hfiller, hdrop]
    split
    · rename_i heq'
      cases heq'
      exact absurd heq (hno t)
    · rfl

theorem readAttributes?_next {l : List WrittenAttribute} {closed : Bool}
    (h : readAttributes? pos s = some (l, closed, stop, rest)) : ∃ c t, s.drop (fillerLength s) = c :: t ∧ c ≠ '<' := by
  rw [readAttributes?_eq] at h
  obtain ⟨c, hc, h⟩ := Option.bind_eq_some_iff.1 h
  refine ⟨c, _, (List.cons_head?_tail hc).symm, fun hopen => ?_⟩
  subst hopen
  cases h

theorem readAttributes?_append (hx : AtTag x) {l : List WrittenAttribute} {closed : Bool}
    (hs : ClosesComments s) (h : readAttributes? pos s = some (l, closed, stop, rest)) :
    readAttributes? pos (s ++ x) = some (l, closed, stop, rest ++ x) := by
  have hskip : ∀ {pos : Nat} {s t : Text} {c : Char}, s.drop (fillerLength s) = c :: t → isGap c = false → c ≠ '<' →
      readAttributes? pos (s ++ x) = readAttributes? (pos + fillerLength s) (c :: (t ++ x)) := by
    intro pos s t c heq hc hopen
    obtain ⟨hfiller, hdrop⟩ := fillerLength_append hx heq hopen
    have hlength : ((s ++ x).take (fillerLength s)).length = fillerLength s := by
      have hle := fillerLength_le s
      rw [List.length_take, List.length_append]
      omega
    have hsplit : s ++ x = (s ++ x).take (fillerLength s) ++ c :: (t ++ x) := by
      rw [← hdrop, List.take_append_drop]
    rw [hsplit, readAttributes?_filler (by rw [← hsplit, hfiller, hlength]) hc hopen, hlength]
  fun_induction readAttributes? pos s generalizing l closed stop rest with
  | case1 pos s =>
    rename_i heq
    cases h
    rw [hskip heq (by decide) (by decide), readAttributes?_more]
  | case2 pos s =>
    rename_i heq
    cases h
    rw [hskip heq (by decide) (by decide), List.cons_append, readAttributes?_slash]
  | case3 => cases h
  | case4 => cases h
  | case5 pos s =>
    rename_i c t _ _ heq hc a _ _ ha _ _ _ _ hmore ih
    cases h
    have hchar := gap_of_attributeNameChar hc
    have ht : ClosesComments (c :: t) := hs.suffix (heq ▸ List.drop_suffix _ s)
    have ha' := readAttribute?_append hx ht ha (readAttributes?_next hmore)
    rw [List.cons_append] at ha'
    obtain ⟨u, hu, -⟩ := (readAttribute?_advances ha).1
    rw [hskip heq hchar.1 hchar.2, readAttributes?_attribute hc ha', ih (ht.suffix ⟨u, hu.symm⟩) hmore]
    rfl
  | case6 => cases h
  | case7 => cases h

theorem readStartTag?_append (hx : AtTag x) (hs : ClosesComments s) {tag : StartTag}
    (h : readStartTag? pos s = some (tag, stop, rest)) : readStartTag? pos (s ++ x) = some (tag, stop, rest ++ x) := by
  unfold readStartTag? at h ⊢
  dsimp only at h ⊢
  rw [Text.takeWhile_append_of_head (hx.head (by decide)), drop_takeWhile_append]
  split at h
  · cases h
  · rename_i hname
    rw [if_neg hname]
    split at h
    · cases h
    · rename_i ha
      cases h
      rw [readAttributes?_append hx (hs.suffix (List.drop_suffix _ s)) ha]

theorem readEndTag?_append (hx : AtTag x) {direct : Bool} {name : Text}
    (h : readEndTag? pos s = some (direct, name, stop, rest)) :
    readEndTag? pos (s ++ x) = some (direct, name, stop, rest ++ x) := by
  unfold readEndTag? at h ⊢
  dsimp only at h ⊢
  split at h
  · cases h
  · rename_i hname
    obtain ⟨c, t, hfirst, hopen⟩ : ∃ c t, s.drop (fillerLength s) = c :: t ∧ c ≠ '<' := by
      cases ht : s.drop (fillerLength s) with
      | nil =>
        rw [ht] at hname
        exact absurd rfl hname
      | cons c t =>
        refine ⟨c, t, rfl, fun hc => hname ?_⟩
        rw [ht, hc]
        rfl
    obtain ⟨hfiller, hdrop⟩ := fillerLength_append hx hfirst hopen
    rw [hfiller, hdrop, ← List.cons_append, ← hfirst, Text.takeWhile_append_of_head (hx.head (by decide)),
      drop_takeWhile_append, if_neg hname]
    split at h
    · rename_i heq
      obtain ⟨hfiller', hdrop'⟩ := fillerLength_append hx heq (by decide)
      cases h
      rw [hfiller', hdrop']
      rfl
    · cases h

/-! ## Steps -/

theorem declarationLength?_append (hx : AtTag x) (hs : ClosesComments s) {n : Nat}
    (h : declarationLength? s = some n) : declarationLength? (s ++ x) = some n := by
  unfold declarationLength? at h
  split at h
  · rename_i r
    obtain ⟨m, hm, rfl⟩ := Option.map_eq_some_iff.1 h
    rw [List.cons_append, List.cons_append, declarationLength?, Text.offset?_append hm x]
    rfl
  · rename_i hno
    have hno' : ∀ r, s ++ x ≠ '-' :: '-' :: r := by
      intro r hr
      obtain ⟨u, rfl, hu⟩ := hx.eq_cons (by decide) hr
      obtain ⟨v, rfl, -⟩ := hx.eq_cons (by decide) hu.symm
      exact hno v rfl
    dsimp only at h
    split at h
    · cases h
    · rename_i t hword
      split at h
      · cases h
      · rename_i hend
        rw [not_or, Nat.not_le] at hend
        obtain ⟨c, u, hfirst, hopen⟩ : ∃ c u, s.drop (fillerLength s) = c :: u ∧ c ≠ '<' := by
          cases hu : s.drop (fillerLength s) with
          | nil =>
            rw [hu] at hword
            cases hword
          | cons c u =>
            refine ⟨c, u, rfl, fun hc => ?_⟩
            rw [hu, hc] at hword
            cases hword
        obtain ⟨hfiller, hdrop⟩ := fillerLength_append hx hfirst hopen
        rw [← List.cons_append, ← hfirst] at hdrop
        have hclosed : leavesComment (s.drop (fillerLength s + 7)) = false := by
          rw [← List.drop_drop]
          refine hs "doctype".toList (by decide) _ (List.drop_suffix _ s) ?_
          change (Text.after? _ (Text.lower ((s.drop (fillerLength s)).take 7))).isSome = true
          rw [hword]
          rfl
        generalize fillerLength s = filler at *
        have hlength := hend.2
        rw [List.length_drop] at hlength
        -- a `>` ends the declaration before the text ends, so all of its word stands in the text
        obtain ⟨d, v, hmore⟩ : ∃ d v, (s.drop (filler + 7 + commentsLength (s.drop (filler + 7)))).drop
            ((s.drop (filler + 7 + commentsLength (s.drop (filler + 7)))).takeWhile (· ≠ '>')).length = d :: v := by
          refine List.exists_cons_of_ne_nil fun hnil => ?_
          have := List.drop_eq_nil_iff.1 hnil
          omega
        have hd : d = '>' := by
          have hne := eq_false_of_dropWhile (drop_length_takeWhile (· ≠ '>') _ ▸ hmore)
          simpa using hne
        have hcomments : commentsLength (s.drop (filler + 7) ++ x) = commentsLength (s.drop (filler + 7)) := by
          refine commentsLength_append hx hclosed ⟨d, ?_, by rw [hd]; decide⟩
          rw [List.drop_drop]
          exact (List.drop_suffix _ _).subset (hmore ▸ List.mem_cons_self ..)
        obtain ⟨htake, -⟩ := takeWhile_append_of_drop hmore x
        unfold declarationLength?
        split
        · rename_i r hr
          exact absurd hr (hno' r)
        · dsimp only
          rw [hfiller, hdrop, List.take_append_of_le_length (by rw [List.length_drop]; omega), hword]
          dsimp only
          rw [List.drop_append_of_le_length (i := filler + 7) (by omega), hcomments,
            List.drop_append_of_le_length (by omega), htake, if_neg (by rw [List.length_append, List.length_drop]; omega)]
          exact h

theorem wordStop?_append {word : Text} (x : Text) : ∀ {left s : Text} {n : Nat}, wordStop? word left s = some n →
    wordStop? word left (s ++ x) = some n
  | [], s, n, h => by
    rw [wordStop?] at h ⊢
    exact h
  | _ :: _, [], n, h => by
    rw [wordStop?] at h
    cases h
  | c :: left, d :: s, n, h => by
    rw [wordStop?] at h
    obtain ⟨k, hk, rfl⟩ := Option.map_eq_some_iff.1 h
    rw [List.cons_append, wordStop?, wordStop?_append x hk, Option.map_some]

theorem rawElementLength?_append (hx : AtTag x) {key : Text} {n : Nat} (h : rawElementLength? key s = some n) :
    rawElementLength? key (s ++ x) = some n := by
  unfold rawElementLength? at h ⊢
  dsimp only at h ⊢
  split at h
  · cases h
  · rename_i m hm
    have hle := wordStop?_le hm
    rw [wordStop?_append x hm]
    dsimp only
    rw [List.drop_append_of_le_length (by omega)]
    split at h
    · rename_i he
      rw [readEndTag?_append hx he]
      exact h
    · cases h

theorem startTag?_append {template : Text} {g g' : Growth} (hx : AtTag x) (hs : ClosesComments s)
    (h : startTag? template g pos s = some (g', stop)) : startTag? template g pos (s ++ x) = some (g', stop) := by
  unfold startTag? at h ⊢
  split at h
  · cases h
  · rename_i htag
    rw [readStartTag?_append hx hs htag]
    dsimp only at h ⊢
    split at h
    · rename_i hraw
      rw [if_pos hraw]
      split at h
      · cases h
      · rename_i hopen
        obtain ⟨n, hn, heq⟩ := Option.map_eq_some_iff.1 h
        rw [if_neg hopen, rawElementLength?_append hx hn]
        exact congrArg some heq
    · rename_i hraw
      rw [if_neg hraw]
      exact h

/-- **What a step makes of a growth**, and how many characters it takes after the first. -/
def taken? (template : Text) (g : Growth) (pos : Nat) (c : Char) (s : Text) : Option (Growth × Nat) :=
  if c = '<' then
    match s with
    | '!' :: r => (declarationLength? r).map fun n => (g.settle template, n + 1)
    | '/' :: r => (readEndTag? (pos + 2) r).bind fun e =>
      (endTag template g e.1 (Text.lower e.2.1) pos e.2.2.1).map fun g => (g, e.2.2.1 - pos - 1)
    | _ => (startTag? template g pos s).map fun r => (r.1, r.2 - pos - 1)
  else if c = '&' then (referenceLength? s).map fun n => (g.text ⟨pos, pos + 1 + n⟩, n)
  else if isTextChar c then
    let n := (Text.trimEnd isGap (s.takeWhile isTextChar)).length
    some (g.text ⟨pos, pos + 1 + n⟩, n)
  else none

theorem step?_eq (template : Text) (g : Growth) (pos : Nat) (c : Char) (s : Text) :
    step? template g pos c s = (taken? template g pos c s).map fun r => .skip r.1 pos r.2 := by
  unfold step? taken?
  by_cases hc : c = '<'
  · rw [if_pos hc, if_pos hc]
    split
    · simp only [Option.map_map]
      rfl
    · rename_i r
      simp only [Option.map_bind]
      cases readEndTag? (pos + 2) r with
      | none => rfl
      | some e =>
        rw [Option.bind_some, Function.comp_apply, Option.map_map]
        rfl
    · simp only [Option.map_map]
      rfl
  · rw [if_neg hc, if_neg hc]
    split
    · rw [Option.map_map]
      rfl
    · split <;> rfl

theorem startTag?_le {template : Text} {g g' : Growth} (h : startTag? template g pos s = some (g', stop)) :
    pos < stop ∧ stop ≤ pos + 1 + s.length := by
  unfold startTag? at h
  split at h
  · cases h
  · rename_i tag stop' rest htag
    obtain ⟨hadv, hlt, -⟩ := readStartTag?_advances htag
    have hlen := hadv.length_eq
    dsimp only at h
    split at h
    · split at h
      · cases h
      · obtain ⟨n, hn, heq⟩ := Option.map_eq_some_iff.1 h
        have hle := rawElementLength?_le hn
        cases heq
        omega
    · split at h <;> cases h <;> omega

theorem taken?_le {template : Text} {g g' : Growth} {c : Char} {n : Nat}
    (h : taken? template g pos c s = some (g', n)) : n ≤ s.length := by
  unfold taken? at h
  split at h
  · split at h
    · obtain ⟨m, hm, heq⟩ := Option.map_eq_some_iff.1 h
      cases heq
      exact Nat.succ_le_succ (declarationLength?_le hm)
    · obtain ⟨⟨direct, name, stop, rest⟩, he, h⟩ := Option.bind_eq_some_iff.1 h
      obtain ⟨g', -, heq⟩ := Option.map_eq_some_iff.1 h
      have hlen := (readEndTag?_advances he).length_eq
      cases heq
      rw [List.length_cons]
      dsimp only
      omega
    · obtain ⟨⟨g', stop⟩, hg, heq⟩ := Option.map_eq_some_iff.1 h
      have hle := startTag?_le hg
      cases heq
      dsimp only
      omega
  · split at h
    · obtain ⟨m, hm, heq⟩ := Option.map_eq_some_iff.1 h
      cases heq
      exact referenceLength?_le hm
    · split at h
      · cases h
        exact Nat.le_trans (length_trimEnd_le ..) (List.takeWhile_prefix isTextChar).length_le
      · cases h

/-- **A step that ends in a text** is the same when a tag stands behind the text. -/
theorem taken?_append {template : Text} {g : Growth} {c : Char} {r : Growth × Nat} (hx : AtTag x)
    (hs : ClosesComments s) (h : taken? template g pos c s = some r) : taken? template g pos c (s ++ x) = some r := by
  unfold taken? at h
  split at h
  · rename_i hc
    split at h
    · rename_i t
      obtain ⟨n, hn, heq⟩ := Option.map_eq_some_iff.1 h
      rw [List.cons_append, taken?, if_pos hc]
      simp only [declarationLength?_append hx (hs.suffix (List.suffix_cons _ t)) hn, Option.map_some, heq]
    · rename_i t
      obtain ⟨e, he, h⟩ := Option.bind_eq_some_iff.1 h
      rw [List.cons_append, taken?, if_pos hc]
      simp only [readEndTag?_append hx he, Option.bind_some, h]
    · rename_i hbang hslash
      obtain ⟨⟨g', stop⟩, hg, heq⟩ := Option.map_eq_some_iff.1 h
      have hmark : ∀ d : Char, d ≠ '<' → (∀ t, s = d :: t → False) → ∀ t, s ++ x = d :: t → False :=
        fun d hd hs t ht => by
          obtain ⟨u, hu, -⟩ := hx.eq_cons hd ht
          exact hs u hu
      rw [taken?, if_pos hc, startTag?_append hx hs hg]
      · exact congrArg some heq
      · exact hmark '!' (by decide) hbang
      · exact hmark '/' (by decide) hslash
  · rename_i hc
    unfold taken?
    rw [if_neg hc]
    split at h
    · rename_i hand
      rwa [if_pos hand, referenceLength?_append hx]
    · rename_i hand
      rw [if_neg hand]
      split at h
      · rename_i htext
        rw [if_pos htext, Text.takeWhile_append_of_head (hx.head (by decide))]
        exact h
      · cases h

/-! ## A text read whole -/

/-- **A text read whole**, from one growth to another: step by step, each behind a gap, and a gap at the end. -/
inductive Reads (template : Text) : Growth → Nat → Text → Growth → Prop where
  | gap {g : Growth} {pos : Nat} {s : Text} (hs : ∀ c ∈ s, isGap c = true) : Reads template g pos s g
  | step {g g₁ g' : Growth} {pos n : Nat} {gap r : Text} {c : Char} (hgap : ∀ c ∈ gap, isGap c = true)
      (hc : isGap c = false) (htaken : taken? template g (pos + gap.length) c r = some (g₁, n))
      (h : Reads template g₁ (pos + gap.length + 1 + n) (r.drop n) g') : Reads template g pos (gap ++ c :: r) g'

theorem readFrom?_taken {template : Text} {g g₁ : Growth} {n : Nat} {gap r : Text} {c : Char}
    (hgap : ∀ c ∈ gap, isGap c = true) (hc : isGap c = false)
    (h : taken? template g (pos + gap.length) c r = some (g₁, n)) :
    readFrom? template g pos (gap ++ c :: r) = readFrom? template g₁ (pos + gap.length + 1 + n) (r.drop n) := by
  have hstep : step? template g (pos + gap.length) c r = some (.skip g₁ (pos + gap.length) n) := by
    rw [step?_eq, h]
    rfl
  rw [readFrom?_gap hgap, readFrom?_step hc hstep]
  rfl

theorem exists_reads (template : Text) {f : Forest} (s : Text) {g : Growth} {pos : Nat}
    (h : readFrom? template g pos s = some f) : ∃ g', Reads template g pos s g' := by
  cases hs : s.dropWhile isGap with
  | nil => exact ⟨g, .gap (List.dropWhile_eq_nil_iff.1 hs)⟩
  | cons c r =>
    obtain ⟨hsplit, hgap, hc⟩ := eq_gap_append hs
    generalize s.takeWhile isGap = gap at hsplit hgap
    subst hsplit
    cases ht : taken? template g (pos + gap.length) c r with
    | none =>
      have hstep : step? template g (pos + gap.length) c r = none := by rw [step?_eq, ht, Option.map_none]
      rw [readFrom?_gap hgap, readFrom?_eq, List.dropWhile_cons_of_neg (by rw [hc]; decide),
        List.takeWhile_cons_of_neg (by rw [hc]; decide)] at h
      dsimp only [List.length_nil, Nat.add_zero] at h
      rw [hstep] at h
      cases h
    | some t =>
      obtain ⟨g₁, n⟩ := t
      rw [readFrom?_taken hgap hc ht] at h
      obtain ⟨g', hg'⟩ := exists_reads template (r.drop n) h
      exact ⟨g', .step hgap hc ht hg'⟩
termination_by s.length
decreasing_by
  rw [hsplit, List.length_append, List.length_cons, List.length_drop]
  omega

/-- **What is read whole is read the same before a tag**, and the reading goes on there. -/
theorem Reads.append {template : Text} {g g' : Growth} (h : Reads template g pos s g') (hs : ClosesComments s)
    (hx : AtTag x) : readFrom? template g pos (s ++ x) = readFrom? template g' (pos + s.length) x := by
  induction h with
  | gap hgap => exact readFrom?_gap hgap _ _ _
  | @step g g₁ g' pos n gap r c hgap hc htaken _ ih =>
    have hle := taken?_le htaken
    have hr : ClosesComments r := hs.suffix ((List.suffix_cons c r).trans (List.suffix_append gap _))
    rw [List.append_assoc, List.cons_append, readFrom?_taken hgap hc (taken?_append hx hr htaken),
      List.drop_append_of_le_length hle, ih (hr.suffix (List.drop_suffix n r)), List.length_append, List.length_cons,
      List.length_drop]
    rw [show pos + gap.length + 1 + n + (r.length - n) = pos + (gap.length + (r.length + 1)) by omega]

end Template
end ViewAtlas
