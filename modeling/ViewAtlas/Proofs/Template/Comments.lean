import ViewAtlas.Proofs.Template.Agreement
import ViewAtlas.Proofs.Template.Brackets
import ViewAtlas.Proofs.Template.Nesting
import ViewAtlas.Proofs.Text.LowerCase
import ViewAtlas.Widget.Extraction
/-!
# Comments

A comment says nothing: its text can be made blank and the same forest is read, with the same widgets
(`read?_withComment`).  But comments are recognized only after expressions are blanked out and in step with the lower
case of the template.  So the text of the comment must hold no expression that reaches over its end, and none of the
characters that shift the lower case or that no markup holds; a comment with `{{` can take the markup behind it away
(`read?_withComment_not`).
-/
namespace ViewAtlas
namespace Template

/-- **A template with a comment**, between what stands before it and behind it. -/
def withComment (pre c post : Text) : Text := pre ++ ("<!--".toList ++ (c ++ ("-->".toList ++ post)))

/-- **A text made blank**: every character is a space, line ends apart. -/
def blanked (c : Text) : Text := c.map fun d => if d = '\n' then d else ' '

/-- **Markup that is read whole**, and leaves a growth. -/
def Leaves (s : Text) (g : Growth) : Prop :=
  Reads s .empty (markLength (mask s)) ((mask s).drop (markLength (mask s))) g

/-- **Markup that is complete**, though elements may be open: it is read whole, and every expression, tag and comment
that begins in it ends in it. -/
structure Complete (s : Text) : Prop where
  leaves : ∃ g, Leaves s g
  closesComments : ClosesComments (mask s)
  isSealed : Sealed s
  isClosed : closes (Text.lower (veil s)) (veil s) = true
  noDottedI : Text.dottedI ∉ veil s

/-- **The text of a comment that says nothing to what stands behind it**: it does not end the comment, no expression
that begins in it reaches over its end, and it holds neither `İ` nor NUL. -/
structure SaysNothing (c post : Text) : Prop where
  noEnding : ¬ "-->".toList <:+: c
  parts : Parts c ("-->".toList ++ post)
  noDottedI : Text.dottedI ∉ veil c
  noNul : '\x00' ∉ veil c

instance (a b : Text) : Decidable (Parts a b) :=
  decidable_of_iff (∀ e : Expression, ∀ t ∈ a.tails, t ≠ [] → e.match? (t ++ b) = e.match? t)
    ⟨fun h e t ht hs => h e t ((List.mem_tails _ _).2 hs) ht, fun h e t hs ht => h e t ht ((List.mem_tails _ _).1 hs)⟩

instance (s : Text) : Decidable (ClosesComments s) :=
  decidable_of_iff (∀ p ∈ commentPlaces, ∀ t ∈ s.tails,
      (Text.after? p (Text.lower (t.take p.length))).isSome = true → leavesComment (t.drop p.length) = false)
    ⟨fun h p hp t ht => h p hp t ((List.mem_tails _ _).2 ht), fun h p hp t ht => h p hp t ((List.mem_tails _ _).1 ht)⟩

instance (c post : Text) : Decidable (SaysNothing c post) :=
  decidable_of_iff (¬ "-->".toList <:+: c ∧ Parts c ("-->".toList ++ post) ∧ Text.dottedI ∉ veil c ∧ '\x00' ∉ veil c)
    ⟨fun ⟨h1, h2, h3, h4⟩ => ⟨h1, h2, h3, h4⟩, fun ⟨h1, h2, h3, h4⟩ => ⟨h1, h2, h3, h4⟩⟩

theorem complete_of_isSome {s : Text} (h : (readMarkup? s).isSome = true) (hs : Sealed s)
    (hcomments : ClosesComments (mask s)) (hc : closes (Text.lower (veil s)) (veil s) = true)
    (hi : Text.dottedI ∉ veil s) : Complete s := by
  obtain ⟨f, hf⟩ := Option.isSome_iff_exists.1 h
  unfold readMarkup? at hf
  dsimp only at hf
  split at hf
  · cases hf
  · exact ⟨exists_reads s _ hf, hcomments, hs, hc, hi⟩

theorem sealed_of_notMem {s : Text} (hb : ¬ ['{', '{'] <:+: s) (ha : '@' ∉ s) : Sealed s := by
  intro e t ht r hr
  rw [opening?_eq_none hb ha ((List.mem_tails _ _).1 ht) e] at hr
  cases hr

/-! ## The text of a comment -/

variable {pre c post : Text}

theorem veil_blanks (s : Text) : Blanks (veil s) s := blankOut_blanks _ s

theorem atTag_comment (s : Text) : AtTag ("<!--".toList ++ s) := atTag_cons _

theorem length_blanked (c : Text) : (blanked c).length = c.length := List.length_map _

theorem mem_blanked {d : Char} (h : d ∈ blanked c) : d = '\n' ∨ d = ' ' := by
  obtain ⟨e, -, rfl⟩ := List.mem_map.1 h
  split
  · rename_i he
    exact .inl he
  · exact .inr rfl

theorem Markup.parts {a : Text} (h : Markup a) (b : Text) : Parts a b := by
  intro e t ht hs
  have hself := h e t [] ht hs
  rw [List.append_nil] at hself
  rw [hself, h e t b ht hs]

theorem Markup.veil_eq {a : Text} (h : Markup a) : veil a = a := by
  have hveil := h.veil_append []
  rwa [List.append_nil, show veil [] = [] from rfl, List.append_nil] at hveil

theorem Markup.saysNothing (h : Markup c) (hend : ¬ "-->".toList <:+: c) (hi : Text.dottedI ∉ c) (hn : '\x00' ∉ c)
    (post : Text) : SaysNothing c post :=
  ⟨hend, h.parts _, by rwa [h.veil_eq], by rwa [h.veil_eq]⟩

theorem blanked_saysNothing (c post : Text) : SaysNothing (blanked c) post := by
  have hnot : ∀ d, d ≠ '\n' → d ≠ ' ' → d ∉ blanked c := fun d hn hs h => (mem_blanked h).elim hn hs
  have hmarkup : Markup (blanked c) := markup_of_notMem (hnot _ (by decide) (by decide)) (hnot _ (by decide) (by decide))
  refine hmarkup.saysNothing (fun h => ?_) (hnot _ (by decide) (by decide)) (hnot _ (by decide) (by decide)) post
  exact hnot '-' (by decide) (by decide) (h.subset (List.mem_cons_self ..))

theorem offset?_ending {m : Text} (r : Text) (hm : Blanks m c) (hc : ¬ "-->".toList <:+: c) :
    Text.offset? "-->".toList (m ++ ("-->".toList ++ r)) = some m.length := by
  -- along both texts: what begins in `m` and ends in it was written in `c`
  induction hm with
  | nil => rfl
  | @cons d e m c hd hm ih =>
    have hfirst : ¬ "-->".toList <+: d :: (m ++ ("-->".toList ++ r)) := by
      rintro ⟨t, ht⟩
      change '-' :: '-' :: '>' :: t = _ at ht
      -- the ending behind the text has a `-` where this one would have its `>`
      cases hm with
      | nil => cases ht
      | cons ha hm =>
        cases hm with
        | nil => cases ht
        | cons hb hm =>
          cases ht
          have hkeep : ∀ {d e : Char}, d = e ∨ d = ' ' ∧ e ≠ '\n' → d ≠ ' ' → e = d := fun h hne =>
            h.elim Eq.symm fun h => absurd h.1 hne
          rw [hkeep hd (by decide), hkeep ha (by decide), hkeep hb (by decide)] at hc
          exact hc (List.prefix_append "-->".toList _).isInfix
    have hrest := ih fun h => hc (h.trans (List.suffix_cons e c).isInfix)
    rw [List.cons_append, Text.offset?, if_neg fun h => hfirst (List.isPrefixOf_iff_prefix.1 h), hrest]
    rfl

/-! ## Masking -/

theorem veil_withComment (hpre : Sealed pre) (hc : Parts c ("-->".toList ++ post)) : veil (withComment pre c post) =
    veil pre ++ ("<!--".toList ++ (veil c ++ ("-->".toList ++ veil post))) := by
  have hopening : Markup "<!--".toList := markup_of_notMem (by decide) (by decide)
  have hending : Markup "-->".toList := markup_of_notMem (by decide) (by decide)
  rw [withComment, veil_sealed hpre (atTag_comment _).bounds, hopening.veil_append, veil_append hc, hending.veil_append]

theorem lower_drop_comment {m : Text} (hm : Text.dottedI ∉ m) (t : Text) :
    (Text.lower ("<!--".toList ++ (m ++ ("-->".toList ++ t)))).drop (m.length + 7) = Text.lower t := by
  have hsplit : "<!--".toList ++ (m ++ ("-->".toList ++ t)) = "<!--".toList ++ (m ++ "--".toList) ++ '>' :: t := by simp
  have hnone : Text.dottedI ∉ "<!--".toList ++ (m ++ "--".toList) := by
    simp only [List.mem_append, not_or]
    exact ⟨by decide, hm, by decide⟩
  have hlength : m.length + 7 = (Text.lower ("<!--".toList ++ (m ++ "--".toList))).length + 1 := by
    rw [Text.length_lower hnone]
    simp
  rw [hsplit, Text.lower_append (by decide +kernel), Text.lower_cons (by decide +kernel), hlength,
    show Text.lowerChar '>' = ['>'] by decide +kernel, ← List.drop_drop, List.drop_left]
  rfl

theorem markupLength_comment {m t : Text} (h : Text.offset? "-->".toList (m ++ ("-->".toList ++ t)) = some m.length)
    (low : Text) : markupLength low ("!--".toList ++ (m ++ ("-->".toList ++ t))) = m.length + 6 := by
  unfold markupLength
  rw [Text.after?_append]
  dsimp only
  unfold commentLength
  rw [h]
  dsimp only
  omega

/-- **A comment stays as it is**, and the brackets behind it are masked as if they stood alone. -/
theorem maskBrackets_comment {m t : Text} (hm : Text.dottedI ∉ m)
    (h : Text.offset? "-->".toList (m ++ ("-->".toList ++ t)) = some m.length) :
    maskBrackets (Text.lower ("<!--".toList ++ (m ++ ("-->".toList ++ t)))) ("<!--".toList ++ (m ++ ("-->".toList ++ t))) =
      "<!--".toList ++ (m ++ ("-->".toList ++ maskBrackets (Text.lower t) t)) := by
  have hlow := lower_drop_comment hm t
  have hmarkup := markupLength_comment h
  have hsplit : "!--".toList ++ (m ++ ("-->".toList ++ t)) = "!--".toList ++ (m ++ "-->".toList) ++ t := by simp
  have hlength : ("!--".toList ++ (m ++ "-->".toList)).length = m.length + 6 := by simp
  rw [hsplit, ← hlength] at hmarkup
  generalize Text.lower ("<!--".toList ++ (m ++ ("-->".toList ++ t))) = low at hlow
  change maskBrackets low ('<' :: ("!--".toList ++ (m ++ ("-->".toList ++ t)))) = _
  rw [hsplit, maskBrackets_tag (by simp) (hmarkup _), hlength, show 1 + (m.length + 6) = m.length + 7 by omega, hlow]
  simp

theorem mask_withComment (hpre : Complete pre) (hc : SaysNothing c post) : mask (withComment pre c post) =
    mask pre ++ ("<!--".toList ++ (veil c ++ ("-->".toList ++ mask post))) := by
  have hending := offset?_ending (veil post) (veil_blanks c) hc.noEnding
  have hlow : Text.lower (veil (withComment pre c post)) = Text.lower (veil pre) ++
      Text.lower ("<!--".toList ++ (veil c ++ ("-->".toList ++ veil post))) := by
    rw [veil_withComment hpre.isSealed hc.parts]
    exact Text.lower_append (by decide +kernel) _ _
  change maskBrackets (Text.lower (veil _)) (veil _) = _
  rw [hlow, veil_withComment hpre.isSealed hc.parts,
    maskBrackets_append hpre.isClosed (Text.length_lower hpre.noDottedI) (atTag_comment _),
    maskBrackets_comment hc.noDottedI hending]
  rfl

/-! ## Reading -/

theorem readFrom?_comment {s : Text} {n : Nat} (h : Text.offset? "-->".toList s = some n) (template : Text) (g : Growth)
    (pos : Nat) : readFrom? template g pos ("<!--".toList ++ s) =
      readFrom? template (g.settle template) (pos + 7 + n) (s.drop (n + 3)) := by
  have htaken : taken? template g pos '<' ("!--".toList ++ s) = some (g.settle template, n + 6) := by
    change (((Text.offset? "-->".toList s).map (· + 5)).map fun n => (g.settle template, n + 1)) = _
    rw [h]
    rfl
  have hread := readFrom?_taken (fun _ h => nomatch h : ∀ c ∈ [], isGap c = true) rfl htaken
  rw [List.length_nil, Nat.add_zero, show pos + 1 + (n + 6) = pos + 7 + n by omega] at hread
  exact hread

theorem agreeOn_withComment (pre c post : Text) : AgreeOn pre (withComment pre c post) 0 pre.length := by
  have h := agreeOn_append_left pre [] ("<!--".toList ++ (c ++ ("-->".toList ++ post)))
  rwa [List.append_nil] at h

theorem unmarked_le (s : Text) : markLength (mask s) + ((mask s).drop (markLength (mask s))).length ≤ s.length := by
  have hle := markLength_le (mask s)
  rw [length_mask] at hle
  rw [List.length_drop, length_mask]
  omega

theorem markLength_append {s : Text} (t : Text) (h : t.head? ≠ some byteOrderMark) :
    markLength (s ++ t) = markLength s := by
  cases s with
  | nil => exact if_neg h
  | cons c s => rfl

/-- **What is read of a template with a comment** is what stands before it and, from the growth that it leaves, what
stands behind it. -/
theorem readMarkup?_withComment {g : Growth} (hpre : Complete pre)
    (hg : Leaves pre g) (hc : SaysNothing c post) : readMarkup? (withComment pre c post) =
      if '\x00' ∈ mask pre ∨ '\x00' ∈ mask post then none
      else readFrom? (withComment pre c post) (g.settle (withComment pre c post)) (pre.length + 7 + c.length) (mask post)
    := by
  have hending := offset?_ending (mask post) (veil_blanks c) hc.noEnding
  have hle := markLength_le (mask pre)
  have hmark := fun r => markLength_append (s := mask pre) ("<!--".toList ++ r) (show some '<' ≠ _ by decide)
  have hreads := (hg.congr (agreeOn_withComment pre c post) Growth.empty_shared (Nat.zero_le _) (unmarked_le pre)).1
  have hnul : (mask (withComment pre c post)).contains '\x00' = true ↔ '\x00' ∈ mask pre ∨ '\x00' ∈ mask post := by
    have hnone := hc.noNul
    rw [mask_withComment hpre hc, List.contains_iff_mem]
    simp [hnone]
  have hclosed : ClosesComments ((mask pre).drop (markLength (mask pre))) :=
    hpre.closesComments.suffix (List.drop_suffix _ _)
  unfold readMarkup?
  dsimp only
  rw [if_congr hnul rfl rfl, mask_withComment hpre hc, hmark, List.drop_append_of_le_length hle,
    hreads.append hclosed (atTag_comment _), readFrom?_comment hending, ← List.drop_drop, List.drop_left,
    List.length_drop, Nat.add_sub_cancel' hle, length_mask, length_veil]
  rfl

end Template

/-! ## Widgets -/

namespace Widget

open Template (Head Node)
open Template.Node (elementsOf)

variable {U V : Text}

theorem eventsOf_congr {h : Head} (ho : ∀ a ∈ h.outputs, a.span.slice U = a.span.slice V) :
    eventsOf U h = eventsOf V h := by
  have hhandlers : (h.outputs.map fun a => (a.name, handlerOf U a)) = h.outputs.map fun a => (a.name, handlerOf V a) :=
    List.map_congr_left fun a ha => by
      unfold handlerOf
      rw [ho a ha]
  unfold eventsOf
  rw [hhandlers]

theorem number_congr (scope : Text) : ∀ {l : List (Head × List Node)} (c : Counters),
    (∀ e ∈ l, ∀ a ∈ e.1.outputs, a.span.slice U = a.span.slice V) → number U scope c l = number V scope c l
  | [], _, _ => rfl
  | (h, children) :: rest, c, ho => by
    have hhead : ∀ id, ofElement U id h = ofElement V id h := fun id => by
      unfold ofElement
      rw [eventsOf_congr (ho _ (List.mem_cons_self ..))]
    rw [number, number]
    simp only [hhead, number_congr scope _ fun e he => ho e (List.mem_cons_of_mem _ he)]

/-- **The widgets of a forest hang on the template** only by what stands at the spans of its outputs. -/
theorem extract_congr {forest : List Node}
    (ho : ∀ e ∈ elementsOf forest, ∀ a ∈ e.1.outputs, a.span.slice U = a.span.slice V) (scope : Text) (tags : List Text)
    (c : Counters) : extract U scope tags c forest = extract V scope tags c forest := by
  have hsub : ∀ tags, ∀ e ∈ interactive tags forest, e ∈ elementsOf forest := fun tags e he =>
    (List.mem_filter.1 (List.mem_filter.1 he).1).1
  unfold extract
  dsimp only
  rw [number_congr scope c fun e he => ho e (hsub _ e he)]

end Widget

namespace Template

/-! ## Comments say nothing -/

variable {pre c post : Text}

theorem agreeOn_post (pre c post : Text) (hi : Nat) : AgreeOn (withComment pre c post) (withComment pre (blanked c) post)
    (pre.length + 7 + c.length) hi := by
  have hsplit : ∀ c, withComment pre c post = pre ++ ("<!--".toList ++ (c ++ "-->".toList)) ++ post := fun c => by
    simp [withComment]
  have hlength : ∀ c : Text, (pre ++ ("<!--".toList ++ (c ++ "-->".toList))).length = pre.length + 7 + c.length :=
    fun c => by
      simp
      omega
  have h := agreeOn_append_right ((hlength c).trans (by rw [hlength, length_blanked])) post hi
  rwa [hlength, ← hsplit, ← hsplit] at h

theorem settle_withComment {g : Growth} (hg : Leaves pre g) (c post : Text) (lo hi : Nat) :
    g.settle (withComment pre c post) = g.settle (withComment pre (blanked c) post) ∧
      (g.settle (withComment pre c post)).Shared (withComment pre c post) (withComment pre (blanked c) post) lo hi := by
  have hsettle : ∀ c, g.settle pre = g.settle (withComment pre c post) ∧
      (g.settle pre).Shared pre (withComment pre c post) 0 pre.length := fun c =>
    have hagree := agreeOn_withComment pre c post
    Growth.settle_congr hagree (hg.congr hagree Growth.empty_shared (Nat.zero_le _) (unmarked_le pre)).2
  obtain ⟨heq, hs⟩ := hsettle c
  obtain ⟨heq', hs'⟩ := hsettle (blanked c)
  rw [← heq, ← heq']
  have hshared : (g.settle pre).Shared (withComment pre c post) (withComment pre (blanked c) post) 0 pre.length :=
    ⟨hs.run, fun tag htag a ha => (hs.values tag htag a ha).symm.trans (hs'.values tag htag a ha)⟩
  exact ⟨rfl, hshared.of_settled (Growth.settle_run g)⟩

/-- **A comment says nothing**: with its text made blank, the same forest is read, and the same widgets are found. -/
theorem read?_withComment (pre c post : Text) (hpre : Complete pre) (hc : SaysNothing c post) :
    read? (withComment pre c post) = read? (withComment pre (blanked c) post) ∧
      ∀ f, read? (withComment pre c post) = some f → ∀ scope tags counters,
        Widget.extract (withComment pre c post) scope tags counters f.nodes =
          Widget.extract (withComment pre (blanked c) post) scope tags counters f.nodes := by
  obtain ⟨g, hg⟩ := hpre.leaves
  have hmarkup : readMarkup? (withComment pre c post) = readMarkup? (withComment pre (blanked c) post) := by
    obtain ⟨hsettle, hshared⟩ := settle_withComment hg c post (pre.length + 7 + c.length)
      (pre.length + 7 + c.length + (mask post).length)
    rw [readMarkup?_withComment hpre hg hc, readMarkup?_withComment hpre hg (blanked_saysNothing c post), length_blanked,
      ← hsettle, readFrom?_congr (agreeOn_post pre c post _) hshared (Nat.le_refl _) (Nat.le_refl _)]
  have hread : read? (withComment pre c post) = read? (withComment pre (blanked c) post) := by
    rw [read?, read?, read_eq, read_eq, hmarkup]
  refine ⟨hread, fun f hf scope tags counters => Widget.extract_congr (fun e he a ha => ?_) scope tags counters⟩
  have hbound : a ∈ e.1.inputs ++ e.1.outputs ++ e.1.directives :=
    List.mem_append_left _ (List.mem_append_right _ ha)
  rw [← (read?_placed hf).wellSpanned.bindings e he a hbound, ←
    (read?_placed (hread ▸ hf)).wellSpanned.bindings e he a hbound]

/-- A comment with a tag and an expression, between a paragraph and a button. -/
theorem read?_withComment_button :
    let pre := "<p>x</p>".toList
    let c := " <b> \x7b\x7b y \x7d\x7d ".toList
    let post := "<button (click)=\"go()\">ok</button>".toList
    Complete pre ∧ SaysNothing c post ∧ (read? (withComment pre c post)).isSome = true ∧
      read? (withComment pre c post) = read? (withComment pre (blanked c) post) := by
  have hpre : Complete "<p>x</p>".toList :=
    complete_of_isSome (by decide +kernel) (sealed_of_notMem (by decide +kernel) (by decide)) (by decide +kernel)
      (by decide +kernel) (by decide +kernel)
  have hc : SaysNothing " <b> \x7b\x7b y \x7d\x7d ".toList "<button (click)=\"go()\">ok</button>".toList := by decide +kernel
  exact ⟨hpre, hc, by decide +kernel, (read?_withComment _ _ _ hpre hc).1⟩

/-- **A comment with two braces says more**: the expression that it begins takes the markup behind it away. -/
theorem read?_withComment_not : ¬ ∀ pre c post : Text, (read? pre).isSome = true → ¬ ['{', '{'] <:+: pre → '@' ∉ pre →
    closes (Text.lower (veil pre)) (veil pre) = true → ¬ "-->".toList <:+: c → ¬ ">".toList <+: c →
      ¬ "->".toList <+: c → ¬ "-".toList <:+ c →
        read? (withComment pre c post) = read? (withComment pre (blanked c) post) := by
  intro h
  have hsame :=
    h [] "\x7b\x7b".toList "<a>b</a><!--\x7d\x7d-->".toList (by decide +kernel) (by decide +kernel) (by decide +kernel)
    (by decide +kernel) (by decide +kernel) (by decide +kernel) (by decide +kernel) (by decide +kernel)
  exact absurd hsame (by decide +kernel)

end Template
end ViewAtlas
