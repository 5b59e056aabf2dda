import ViewAtlas.Proofs.Template.Comments
import ViewAtlas.Proofs.Template.Dividing
/-!
# Brackets outside markup

Masking makes a bracket a space just where it stands outside markup, and masking again changes nothing (`mask_divides`).
The end of a script or style is looked for in the lower case of the template, though, at offsets of the template.  The
two go along up to the first `İ` only, so one that stands before the end of a script lets brackets of markup be lost
(`mask_divides_dottedI`).
-/
namespace ViewAtlas
namespace Template

open Text (FirstBehind dottedI LowersTo IsMark)

variable {low s x body : Text}

/-! ## Lengths of markup -/

theorem TagBody.tagLength (h : TagBody body) (x : Text) :
    tagLength none (body ++ x) = body.length + Template.tagLength none x := by
  induction h with
  | done => exact (Nat.zero_add _).symm
  | plain hq hc _ ih =>
    rw [List.cons_append, Template.tagLength]
    rw [if_neg hq, if_neg hc, ih, List.length_cons]
    omega
  | quoted hq hv _ ih =>
    rw [List.cons_append, List.append_assoc, List.cons_append, Template.tagLength]
    rw [if_pos hq, tagLength_quoted _ hv, ih, List.length_cons, List.length_append, List.length_cons]
    omega

theorem TagBody.tagLength_more (h : TagBody body) (x : Text) :
    Template.tagLength none (body ++ '>' :: x) = body.length + 1 := h.tagLength _

theorem tagLength_open_quote {q : Char} : ∀ {v : Text}, q ∉ v → tagLength (some q) v = v.length
  | [], _ => rfl
  | c :: v, h => by
    rw [List.mem_cons, not_or] at h
    rw [tagLength]
    rw [if_neg (Ne.symm h.1), tagLength_open_quote h.2, List.length_cons, Nat.add_comm]

theorem OpenTagBody.tagLength (h : OpenTagBody body) : tagLength none body = body.length := by
  cases h with
  | closed h =>
    have hall := h.tagLength []
    rwa [List.append_nil] at hall
  | quoted h hq hv =>
    rw [h.tagLength, Template.tagLength]
    rw [if_pos hq, tagLength_open_quote hv, List.length_append, List.length_cons, Nat.add_comm 1]

theorem isMark_rawTextName : ∀ name ∈ rawTextNames, IsMark ('<' :: '/' :: name) := by decide

theorem isAlpha_of_toLower {c : Char} (h : c.toLower = 's') : c.isAlpha = true := by
  unfold Char.toLower at h
  split at h
  · rename_i hc
    exact Bool.or_eq_true_iff.2 (.inl (decide_eq_true hc))
  · rw [h]
    decide

theorem rawTextName?_eq_some_iff {name : Text} : rawTextName? s = some name ↔ name ∈ rawTextNames ∧ Names name s := by
  have hnames : ∀ name ∈ rawTextNames, ∃ r, name = 's' :: r := by
    simp [rawTextNames]
  have hlower : ∀ name ∈ rawTextNames, (Text.lower (s.takeWhile isNamePart) = name ↔ Names name s) := fun name hname =>
    Text.lower_eq_iff (fun k hk => isMark_rawTextName name hname k (List.mem_cons_of_mem _ (List.mem_cons_of_mem _ hk))) _
  cases s with
  | nil =>
    refine iff_of_false nofun ?_
    rintro ⟨hname, rfl⟩
    exact absurd hname (by decide)
  | cons c r =>
    change (if c.isAlpha && rawTextNames.contains (Text.lower ((c :: r).takeWhile isNamePart)) then
      some (Text.lower ((c :: r).takeWhile isNamePart)) else none) = some name ↔ _
    rw [Option.ite_none_right_eq_some, Bool.and_eq_true, List.contains_iff_mem, Option.some.injEq]
    constructor
    · rintro ⟨⟨-, hmem⟩, rfl⟩
      exact ⟨hmem, (hlower _ hmem).1 rfl⟩
    · rintro ⟨hmem, hname⟩
      have heq := (hlower name hmem).2 hname
      refine ⟨⟨?_, heq ▸ hmem⟩, heq⟩
      obtain ⟨t, rfl⟩ := hnames name hmem
      rw [Names, List.takeWhile_cons] at hname
      split at hname
      · exact isAlpha_of_toLower (List.cons.inj hname).1
      · cases hname

theorem markupLength_opens (hopens : opensMarkup s = true) (hcomment : Text.after? "!--".toList s = none) (low : Text) :
    markupLength low s = match rawTextName? s with
      | some name => tagLength none s + rawTextLength name (low.drop (tagLength none s))
      | none => tagLength none s := by
  cases s with
  | nil => cases (show false = true from hopens)
  | cons c r =>
    rw [markupLength, hcomment]
    dsimp only
    exact if_pos hopens

section Ends

/-! What is said of the inside of a tag is said of it together with the `>` that ends it. -/

theorem opensMarkup_more (h : opensMarkup body = true) (x : Text) : opensMarkup (body ++ '>' :: x) = true := by
  cases body with
  | nil => cases (show false = true from h)
  | cons c body => exact h

theorem after?_comment_more (h : ¬ "!--".toList <+: body) (x : Text) :
    Text.after? "!--".toList (body ++ '>' :: x) = none := by
  rw [Text.after?_append_of_head (fun c hc => by cases hc; decide), after?_eq_none h, Option.map_none]

theorem names_more {name : Text} (x : Text) : Names name (body ++ '>' :: x) ↔ Names name body := by
  have hstop : ∀ c ∈ ('>' :: x).head?, isNamePart c = false := fun c hc => by
    cases hc
    decide
  rw [Names, Names, Text.takeWhile_append_of_head hstop]

theorem Names.opens {name : Text} (hraw : name ∈ rawTextNames) (hname : Names name s) :
    opensMarkup s = true ∧ Text.after? "!--".toList s = none := by
  have hsome := rawTextName?_eq_some_iff.2 ⟨hraw, hname⟩
  cases s with
  | nil => cases hsome
  | cons c r =>
    rw [rawTextName?, Option.ite_none_right_eq_some, Bool.and_eq_true] at hsome
    obtain ⟨hletter, hbang⟩ := isLetter_of_isAlpha hsome.1.1
    refine ⟨?_, if_neg (Ne.symm hbang)⟩
    rw [opensMarkup, List.head?_cons, Option.any_some, hletter]
    rfl

theorem markupLength_raw {name : Text} (hraw : name ∈ rawTextNames) (hname : Names name body) (hbody : TagBody body)
    (low x : Text) :
    markupLength low (body ++ '>' :: x) = body.length + 1 + rawTextLength name (low.drop (body.length + 1)) := by
  have hname := (names_more x).2 hname
  obtain ⟨hopens, hcomment⟩ := hname.opens hraw
  rw [markupLength_opens hopens hcomment, rawTextName?_eq_some_iff.2 ⟨hraw, hname⟩, hbody.tagLength_more]

end Ends

/-! ## In step with the lower case -/

/-- **A lower case that goes along with a text** up to the first `İ`. -/
def InStep (low s : Text) : Prop := ∀ u v, s = u ++ v → dottedI ∉ u →
  ∃ l t, low = l ++ t ∧ List.Forall₂ LowersTo l u ∧ (v = [] → t = [])

theorem inStep_lower (s : Text) : InStep (Text.lower s) s := by
  rintro u v rfl hu
  obtain ⟨l, hl, hlu⟩ := Text.exists_lowerFrom hu v []
  exact ⟨l, _, hl, hlu, fun hv => by rw [hv]; rfl⟩

theorem InStep.drop {a : Text} (h : InStep low (a ++ s)) (ha : dottedI ∉ a) : InStep (low.drop a.length) s := by
  rintro u v rfl hu
  obtain ⟨l, t, rfl, hl, ht⟩ := h (a ++ u) v (List.append_assoc ..).symm fun hm => (List.mem_append.1 hm).elim ha hu
  have hlength : a.length ≤ l.length := by
    rw [hl.length_eq, List.length_append]
    exact Nat.le_add_right ..
  refine ⟨l.drop a.length, t, List.drop_append_of_le_length hlength, ?_, ht⟩
  exact List.forall₂_drop_append l a u hl

/-- **In step, the content of a script ends where its end tag begins.** -/
theorem rawTextLength_inStep {name content mark : Text} (hraw : name ∈ rawTextNames)
    (hcontent : FirstBehind ('<' :: '/' :: name) (content.map Char.toLower))
    (hmark : mark.map Char.toLower = '<' :: '/' :: name) (hlow : InStep low (content ++ (mark ++ s)))
    (hi : dottedI ∉ content) : rawTextLength name low = content.length := by
  have hi' : dottedI ∉ content ++ mark := by
    rw [List.mem_append, not_or]
    refine ⟨hi, fun hm => ?_⟩
    have hlower : dottedI ∈ '<' :: '/' :: name := hmark ▸ List.mem_map_of_mem (f := Char.toLower) hm
    exact absurd (isMark_rawTextName name hraw _ hlower).2.1 (by decide)
  obtain ⟨l, t, rfl, hl, -⟩ := hlow (content ++ mark) s (List.append_assoc ..).symm hi'
  have hfound : Text.offset? ('<' :: '/' :: name) l = some content.length := by
    have hfirst := Text.offset?_append_of_first (List.cons_ne_nil _ _) [] hcontent
    rw [List.append_nil, List.length_map] at hfirst
    rw [Text.offset?_lowersTo (isMark_rawTextName name hraw) hl, List.map_append, hmark, hfirst]
  rw [rawTextLength, Text.offset?_append hfound]
  rfl

theorem rawTextLength_inStep_open {name content : Text} (hraw : name ∈ rawTextNames)
    (hcontent : ¬ ('<' :: '/' :: name) <:+: content.map Char.toLower) (hlow : InStep low content)
    (hi : dottedI ∉ content) : rawTextLength name low = content.length := by
  obtain ⟨l, t, rfl, hl, ht⟩ := hlow content [] (List.append_nil _).symm hi
  have hnone : Text.offset? ('<' :: '/' :: name) l = none := by
    rw [Text.offset?_lowersTo (isMark_rawTextName name hraw) hl, Text.offset?_eq_none hcontent]
  rw [ht rfl, List.append_nil, rawTextLength, hnone, ← hl.length_eq]
  rfl

/-! ## Masking piece by piece -/

/-- **No `İ` stands in or before the content of a script or a style.** -/
def Undotted (ps : List Piece) : Prop :=
  ∀ a c b, ps = a ++ Piece.content c :: b → dottedI ∉ a.flatMap Piece.text ++ c

variable {p : Piece} {ps : List Piece}

theorem Undotted.tail (h : Undotted (p :: ps)) : Undotted ps := by
  rintro a c b rfl hm
  refine h (p :: a) c b rfl ?_
  rw [List.flatMap_cons, List.append_assoc]
  exact List.mem_append_right _ hm

theorem Undotted.head (h : Undotted (p :: ps)) {c : Text} (hc : .content c ∈ ps) : dottedI ∉ p.text := by
  obtain ⟨a, b, rfl⟩ := List.append_of_mem hc
  intro hm
  refine h (p :: a) c b rfl ?_
  rw [List.flatMap_cons, List.append_assoc]
  exact List.mem_append_left _ hm

/-- Where scripts are still to come, what was passed over has kept in step. -/
theorem Undotted.inStep (h : Undotted (p :: ps)) (hlow : (∃ c, .content c ∈ p :: ps) → InStep low (p.text ++ s)) :
    (∃ c, .content c ∈ ps) → InStep (low.drop p.text.length) s := fun ⟨c, hc⟩ =>
  (hlow ⟨c, List.mem_cons_of_mem _ hc⟩).drop (h.head hc)

theorem maskBrackets_to_end {m : Text} (hne : m ≠ []) (hn : m.length ≤ markupLength (low.drop 1) m) :
    maskBrackets low ('<' :: m) = '<' :: m := by
  have hpos := List.length_pos_iff.2 hne
  rw [maskBrackets, if_pos rfl]
  dsimp only
  rw [if_neg (by omega), List.take_of_length_le hn, List.drop_of_length_le hn, maskBrackets, List.append_nil]

theorem maskBrackets_closed {m : Text}
    (hn : markupLength (low.drop 1) (body ++ '>' :: (m ++ x)) = body.length + 1 + m.length) :
    maskBrackets low ('<' :: (body ++ '>' :: (m ++ x))) =
      '<' :: (body ++ ['>']) ++ (m ++ maskBrackets (low.drop (body.length + 2 + m.length)) x) := by
  have hsplit : body ++ '>' :: (m ++ x) = (body ++ '>' :: m) ++ x := by simp
  have hlength : (body ++ '>' :: m).length = body.length + 1 + m.length := by
    rw [List.length_append, List.length_cons]
    omega
  rw [hsplit] at hn ⊢
  rw [maskBrackets_tag (by simp) (hn.trans hlength.symm), hlength,
    show 1 + (body.length + 1 + m.length) = body.length + 2 + m.length by omega]
  simp

/-- **A divided text is masked piece by piece.** -/
theorem maskBrackets_divides (h : Divides s ps) (hu : Undotted ps) :
    ∀ low, ((∃ c, .content c ∈ ps) → InStep low s) → maskBrackets low s = ps.flatMap Piece.masked := by
  induction h with
  | done =>
    intro low _
    rw [maskBrackets]
    rfl
  | @plain c s ps hc _ ih =>
    intro low hlow
    have hrest := ih hu.tail (low.drop 1) (hu.inStep hlow)
    rw [maskBrackets, List.flatMap_cons, Piece.masked, ← hrest]
    by_cases hless : c = '<'
    · have hnone : markupLength (low.drop 1) s = 0 := by
        rw [markupLength_eq_zero_iff]
        intro d hd
        have hopens := hc hless
        rw [opensMarkup, hd] at hopens
        exact hopens
      rw [if_pos hless, hnone, if_pos (.inl hless)]
      rfl
    · rw [if_neg hless]
      simp [hless]
  | @comment body s ps hbody _ ih =>
    intro low hlow
    have hrest := ih hu.tail _ (hu.inStep (s := s) (by simpa [Piece.text] using hlow))
    have hn := markupLength_comment (Text.offset?_append_of_first (by decide) s hbody) (low.drop 1)
    have hsplit : "!--".toList ++ (body ++ ("-->".toList ++ s)) = "!--".toList ++ (body ++ "-->".toList) ++ s := by simp
    have hlength : ("!--".toList ++ (body ++ "-->".toList)).length = body.length + 6 := by simp
    change maskBrackets low ('<' :: ("!--".toList ++ (body ++ ("-->".toList ++ s)))) = _
    rw [hsplit] at hn ⊢
    rw [maskBrackets_tag (by simp) (hn.trans hlength.symm), List.flatMap_cons, ← hrest, Nat.add_comm 1]
    rfl
  | @openComment body hbody =>
    intro low _
    have hn : ("!--".toList ++ body).length = markupLength (low.drop 1) ("!--".toList ++ body) := by
      unfold markupLength
      rw [Text.after?_append]
      dsimp only
      rw [commentLength, Text.offset?_eq_none hbody, List.length_append]
      rfl
    change maskBrackets low ('<' :: ("!--".toList ++ body)) = _
    rw [maskBrackets_to_end (by simp) (Nat.le_of_eq hn)]
    simp [Piece.masked]
  | @tag body s ps hopens hcomment hraw hbody _ ih =>
    intro low hlow
    have hrest := ih hu.tail _ (hu.inStep (s := s) (by simpa [Piece.text] using hlow))
    have hnone : rawTextName? (body ++ '>' :: s) = none := by
      refine Option.eq_none_iff_forall_ne_some.2 fun name hname => ?_
      obtain ⟨hmem, hname⟩ := rawTextName?_eq_some_iff.1 hname
      exact hraw name hmem ((names_more s).1 hname)
    have hn := markupLength_opens (opensMarkup_more hopens s) (after?_comment_more hcomment s) (low.drop 1)
    rw [hnone, hbody.tagLength_more] at hn
    have h := maskBrackets_closed (m := []) hn
    rw [List.nil_append, List.nil_append] at h
    rw [h, List.flatMap_cons, ← hrest]
    simp [Piece.masked, Piece.text]
  | @openTag body hopens hcomment hbody =>
    intro low _
    have hn : body.length ≤ markupLength (low.drop 1) body := by
      rw [markupLength_opens hopens (after?_eq_none hcomment), hbody.tagLength]
      cases rawTextName? body with
      | none => exact Nat.le_refl _
      | some name => exact Nat.le_add_right ..
    have hne : body ≠ [] := by
      rintro rfl
      cases (show false = true from hopens)
    rw [maskBrackets_to_end hne hn]
    simp [Piece.masked]
  | @rawText body name content mark s ps hraw hname hbody hcontent hmark _ ih =>
    intro low hlow
    have hcontents : ∃ c, Piece.content c ∈ .markup ('<' :: (body ++ ['>'])) :: .content content :: ps :=
      ⟨content, by simp⟩
    have hinside : InStep (low.drop (body.length + 2)) (content ++ (mark ++ s)) := by
      have h := hu.inStep (s := content ++ (mark ++ s)) (by simpa [Piece.text] using hlow) ⟨content, by simp⟩
      simpa [Piece.text] using h
    have hi : dottedI ∉ content := fun hm => hu [_] content ps rfl (List.mem_append_right _ hm)
    have hrest := ih hu.tail.tail _ (hu.tail.inStep (s := mark ++ s) fun _ => hinside)
    have hn := markupLength_raw hraw hname hbody (low.drop 1) (content ++ (mark ++ s))
    rw [List.drop_drop, Nat.add_comm 1, rawTextLength_inStep hraw hcontent hmark hinside hi] at hn
    rw [maskBrackets_closed hn, List.flatMap_cons, List.flatMap_cons, ← hrest, List.drop_drop]
    simp [Piece.masked, Piece.text]
  | @openRawText body name content hraw hname hbody hcontent =>
    intro low hlow
    have hinside : InStep (low.drop (body.length + 2)) content := by
      have h := hu.inStep (s := content) (by simpa [Piece.text] using hlow) ⟨content, by simp⟩
      simpa [Piece.text] using h
    have hi : dottedI ∉ content := fun hm => hu [_] content [] rfl (List.mem_append_right _ hm)
    have hn := markupLength_raw hraw hname hbody (low.drop 1) content
    rw [List.drop_drop, Nat.add_comm 1, rawTextLength_inStep_open hraw hcontent hinside hi] at hn
    rw [maskBrackets_to_end (by simp) (by rw [hn, List.length_append, List.length_cons]; omega)]
    simp [Piece.masked]

/-! ## Templates without expressions -/

def Piece.settled : Piece → Piece
  | .plain c => .plain (if c = '<' ∨ c = '>' then ' ' else c)
  | p => p

@[simp] theorem Piece.masked_settled (p : Piece) : p.settled.masked = p.masked := by
  cases p with
  | plain c => by_cases hc : c = '<' ∨ c = '>' <;> simp [Piece.settled, Piece.masked, hc]
  | markup | content => rfl

theorem Piece.dottedI_text_settled {p : Piece} (h : dottedI ∈ p.settled.text) : dottedI ∈ p.text := by
  cases p with
  | plain c =>
    have hc := List.mem_singleton.1 h
    split at hc
    · exact absurd hc (by decide)
    · exact List.mem_singleton.2 hc
  | markup | content => exact h

theorem Undotted.settled (h : Undotted ps) : Undotted (ps.map Piece.settled) := by
  intro a c b hab hm
  obtain ⟨a, t, rfl, rfl, ht⟩ := List.map_eq_append_iff.1 hab
  obtain ⟨p, b, rfl, hp, -⟩ := List.map_eq_cons_iff.1 ht
  cases p with
  | plain | markup => cases hp
  | content d =>
    cases hp
    refine h a _ b rfl ?_
    rcases List.mem_append.1 hm with hm | hm
    · obtain ⟨q, hq, hm⟩ := List.mem_flatMap.1 hm
      obtain ⟨q, hqa, rfl⟩ := List.mem_map.1 hq
      exact List.mem_append_left _ (List.mem_flatMap.2 ⟨q, hqa, Piece.dottedI_text_settled hm⟩)
    · exact List.mem_append_right _ hm

theorem Divides.endTag {r : Text} (h : Divides ('<' :: '/' :: r) ps) :
    (∃ body s qs, '/' :: r = body ++ '>' :: s ∧ ps = .markup ('<' :: (body ++ ['>'])) :: qs) ∨
      ps = [.markup ('<' :: '/' :: r)] := by
  have hraw : ∀ {name body : Text} {x : Text}, name ∈ rawTextNames → Names name body → body ++ '>' :: x ≠ '/' :: r := by
    intro name body x hmem hname he
    have hnames := (names_more x).2 hname
    rw [he, Names, List.takeWhile_cons_of_neg (by decide)] at hnames
    rw [← hnames] at hmem
    exact absurd hmem (by decide)
  generalize hm : '<' :: '/' :: r = m at h
  cases h with
  | done => cases hm
  | plain hc _ =>
    cases hm
    cases (hc rfl : true = false)
  | comment | openComment => cases (List.cons.inj (List.cons.inj hm).2).1
  | tag => exact .inl ⟨_, _, _, (List.cons.inj hm).2, rfl⟩
  | openTag => exact .inr rfl
  | rawText hmem hname => exact absurd (List.cons.inj hm).2.symm (hraw hmem hname)
  | openRawText hmem hname => exact absurd (List.cons.inj hm).2.symm (hraw hmem hname)

theorem eq_of_toLower {c d : Char} (hd : d ∈ ['<', '/', '>']) (h : c.toLower = d) : c = d := by
  unfold Char.toLower at h
  split at h
  · rename_i hc
    have hval : (c.val + 32).toNat = d.toNat := congrArg Char.toNat h
    have hmarks : ∀ d ∈ ['<', '/', '>'], Char.toNat d < 65 := by decide
    have hlow := hmarks d hd
    have hge : 65 ≤ c.val.toNat := UInt32.le_iff_toNat_le.1 hc.1
    have hle : c.val.toNat ≤ 90 := UInt32.le_iff_toNat_le.1 hc.2
    rw [UInt32.toNat_add, show (32 : UInt32).toNat = 32 from rfl] at hval
    omega
  · exact h

theorem Divides.masked_mark {mark name : Text} (hraw : name ∈ rawTextNames)
    (hmark : mark.map Char.toLower = '<' :: '/' :: name) (h : Divides (mark ++ s) ps) :
    ∃ t, ps.flatMap Piece.masked = mark ++ t := by
  obtain ⟨c, m, rfl, hc, hm⟩ := List.map_eq_cons_iff.1 hmark
  obtain ⟨d, w, rfl, hd, hw⟩ := List.map_eq_cons_iff.1 hm
  obtain rfl := eq_of_toLower (by decide) hc
  obtain rfl := eq_of_toLower (by decide) hd
  rw [List.cons_append, List.cons_append] at h
  rcases h.endTag with ⟨body, x, qs, heq, rfl⟩ | rfl
  · have hnone : '>' ∉ '/' :: w := fun hmem => by
      have hnames : ∀ name ∈ rawTextNames, '>' ∉ '/' :: name := by decide
      refine hnames name hraw ?_
      rw [← hw]
      exact List.mem_map_of_mem (f := Char.toLower) hmem
    -- the tag ends behind the mark
    rw [← List.cons_append] at heq
    obtain ⟨t, rfl⟩ : ∃ t, body = '/' :: w ++ t := by
      rcases List.append_eq_append_iff.1 heq with ⟨t, ht, -⟩ | ⟨t, ht, hx⟩
      · exact ⟨t, ht⟩
      · cases t with
        | nil => exact ⟨[], by rw [ht, List.append_nil, List.append_nil]⟩
        | cons e t =>
          cases hx
          exact absurd (ht ▸ List.mem_append_right _ (List.mem_cons_self ..)) hnone
    exact ⟨t ++ '>' :: qs.flatMap Piece.masked, by simp [Piece.masked]⟩
  · exact ⟨s, by simp [Piece.masked]⟩

/-- **A masked text is divided as before**: no bracket is left outside markup. -/
theorem Divides.settled (h : Divides s ps) : Divides (ps.flatMap Piece.masked) (ps.map Piece.settled) := by
  induction h with
  | done => exact .done
  | @plain c s ps hc _ ih =>
    refine .plain (fun h => ?_) ih
    split at h
    · cases h
    · rename_i hn
      exact absurd (.inl h) hn
  | comment hbody _ ih =>
    have h := Divides.comment hbody ih
    simpa [Piece.masked, Piece.settled] using h
  | openComment hbody =>
    have h := Divides.openComment hbody
    simpa [Piece.masked, Piece.settled] using h
  | tag hopens hcomment hraw hbody _ ih =>
    have h := Divides.tag hopens hcomment hraw hbody ih
    simpa [Piece.masked, Piece.settled] using h
  | openTag hopens hcomment hbody =>
    have h := Divides.openTag hopens hcomment hbody
    simpa [Piece.masked, Piece.settled] using h
  | rawText hraw hname hbody hcontent hmark hs ih =>
    obtain ⟨t, ht⟩ := hs.masked_mark hraw hmark
    rw [ht] at ih
    have h := Divides.rawText hraw hname hbody hcontent hmark ih
    simpa [Piece.masked, Piece.settled, ht] using h
  | openRawText hraw hname hbody hcontent =>
    have h := Divides.openRawText hraw hname hbody hcontent
    simpa [Piece.masked, Piece.settled] using h

/-- **Masking touches only text.**  In a template without expressions, just the brackets outside markup are made spaces,
and masking again changes nothing, when no `İ` stands in or before the content of a script or a style. -/
theorem mask_divides (template : Text) (hb : ¬ ['{', '{'] <:+: template) (ha : '@' ∉ template) :
    (∃ ps, Divides template ps) ∧ ∀ ps, Divides template ps → ps.flatMap Piece.text = template ∧ (Undotted ps →
      mask template = ps.flatMap Piece.masked ∧ mask (mask template) = mask template) := by
  have hmask : ∀ {s : Text} {ps : List Piece}, ¬ ['{', '{'] <:+: s → '@' ∉ s → Divides s ps → Undotted ps →
      mask s = ps.flatMap Piece.masked := by
    intro s ps hb ha h hu
    change maskBrackets (Text.lower (veil s)) (veil s) = _
    rw [veil_of_notMem hb ha, maskBrackets_divides h hu _ fun _ => inStep_lower s]
  refine ⟨exists_divides template, fun ps h => ⟨h.text, fun hu => ?_⟩⟩
  have hfirst := hmask hb ha h hu
  have hblanks := mask_blanks template
  have hb' : ¬ ['{', '{'] <:+: mask template := fun hi => hb (hblanks.of_infix (by decide) hi)
  have ha' : '@' ∉ mask template := fun hm => ha (hblanks.mem hm (by decide))
  rw [hfirst] at hb' ha' ⊢
  refine ⟨rfl, ?_⟩
  rw [hmask hb' ha' h.settled hu.settled, List.flatMap_map]
  simp

theorem Divides.undotted (h : Divides s ps) (hi : dottedI ∉ s) : Undotted ps := by
  rintro a c b rfl hm
  rw [← h.text, List.flatMap_append, List.flatMap_cons, ← List.append_assoc] at hi
  exact hi (List.mem_append_left _ hm)

/-- Brackets between texts, in a style with an end tag in another case, in a quote and in a comment. -/
theorem mask_divides_style :
    let template := "1 < 2 <style>p > a</STYLE x='>'> > <!-- <b> -->".toList
    ¬ ['{', '{'] <:+: template ∧ '@' ∉ template ∧ ∃ ps, Divides template ps ∧ Undotted ps ∧
      mask template = ps.flatMap Piece.masked ∧ mask (mask template) = mask template := by
  intro template
  have hb : ¬ ['{', '{'] <:+: template := by decide
  have ha : '@' ∉ template := by decide
  have hi : dottedI ∉ template := by decide
  obtain ⟨⟨ps, hps⟩, h⟩ := mask_divides template hb ha
  exact ⟨hb, ha, ps, hps, hps.undotted hi, (h ps hps).2 (hps.undotted hi)⟩

/-- **An `İ` before a script** lets a bracket of its end tag be lost. -/
theorem mask_divides_dottedI : ¬ ∀ template : Text, ¬ ['{', '{'] <:+: template → '@' ∉ template →
    ∀ ps, Divides template ps → mask template = ps.flatMap Piece.masked := by
  intro h
  have hend : Divides (['<', '/', 's', 'c', 'r', 'i', 'p', 't'] ++ ['>']) [.markup "</script>".toList] :=
    @Divides.tag ['/', 's', 'c', 'r', 'i', 'p', 't'] [] [] (by decide +kernel) (by decide +kernel)
      (by unfold Names; decide +kernel) (tagBody_of_forall (by decide)) .done
  have hdivides : Divides (dottedI :: '<' :: (['s', 'c', 'r', 'i', 'p', 't'] ++ '>' :: ([] ++
      (['<', '/', 's', 'c', 'r', 'i', 'p', 't'] ++ ['>']))))
      [.plain dottedI, .markup "<script>".toList, .content [], .markup "</script>".toList] :=
    .plain (by decide) (@Divides.rawText _ "script".toList _ _ _ _ (by decide) (by unfold Names; decide +kernel)
      (tagBody_of_forall (by decide)) (by decide) (by decide) hend)
  exact absurd (h _ (by decide +kernel) (by decide +kernel) _ hdivides) (by decide +kernel)

end Template
end ViewAtlas
