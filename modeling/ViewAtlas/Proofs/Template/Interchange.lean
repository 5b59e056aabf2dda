import ViewAtlas.Proofs.Template.Interpolations
import ViewAtlas.Proofs.Template.Numbers
import ViewAtlas.Proofs.Template.Values
/-!
# Interchanging the bodies of interpolations

In a masked template, an interpolation is two braces, blanks and two braces.  No step of the reading begins or ends
within it: a piece of text goes over all of it, and so does a tag, a comment or a value between quotes (`Hollow`).  So
a template with another body in the interpolation is read into the same forest, but for the values whose spans cover the
interpolation; only a number that is too long stops one reading and not the other (`read_withInterpolation`).
-/
namespace ViewAtlas
namespace Template

open Text (Entity.decode Entity.longNumber? Entity.longNumber?_braces Entity.ofDigits)

/-! ## Pieces of text -/

section Pieces

variable {s : Text} {n i : Nat} {c : Char}

theorem getElem?_takeWhile {p : Char → Bool} : ∀ {s : Text} {i : Nat}, (∀ j ≤ i, ∃ c, s[j]? = some c ∧ p c = true) →
    (s.takeWhile p)[i]? = s[i]?
  | [], i, h => rfl
  | c :: s, i, h => by
    obtain ⟨d, hd, hp⟩ := h 0 (Nat.zero_le i)
    cases hd
    rw [List.takeWhile_cons_of_pos hp]
    cases i with
    | zero => rfl
    | succ i => exact getElem?_takeWhile fun j hj => h (j + 1) (Nat.succ_le_succ hj)

theorem lt_length_trimEnd {p : Char → Bool} (hc : s[i]? = some c) (hp : p c = false) :
    i < (Text.trimEnd p s).length := by
  by_contra hge
  rw [← Text.trimEnd_append p s, List.getElem?_append_right (Nat.not_lt.1 hge)] at hc
  have := List.mem_takeWhile_imp (List.mem_reverse.1 (List.mem_of_getElem? hc))
  rw [hp] at this
  cases this

end Pieces

/-! ## Slices -/

theorem slice_congr {U V : Text} {r : Span} (h : ∀ i, r.start ≤ i → i < r.stop → U[i]? = V[i]?) :
    r.slice U = r.slice V := by
  refine List.ext_getElem? fun i => ?_
  change ((U.drop r.start).take (r.stop - r.start))[i]? = ((V.drop r.start).take (r.stop - r.start))[i]?
  by_cases hi : i < r.stop - r.start
  · rw [List.getElem?_take_of_lt hi, List.getElem?_take_of_lt hi, List.getElem?_drop, List.getElem?_drop,
      h _ (Nat.le_add_right _ _) (by omega)]
  · rw [List.getElem?_take_eq_none (by omega), List.getElem?_take_eq_none (by omega)]

theorem covers_iff {r q : Span} : r.covers q = true ↔ r.start ≤ q.start ∧ q.stop ≤ r.stop := by
  rw [Span.covers, Bool.and_eq_true, decide_eq_true_eq, decide_eq_true_eq]

/-! ## A blank interpolation in a masked template -/

/-- **A span of a masked template that an interpolation fills**, whose body is blank. -/
structure Hollow (m : Text) (r : Span) : Prop where
  le : r.start + 4 ≤ r.stop
  first : m[r.start]? = some '{'
  last : m[r.stop - 1]? = some '}'
  chars : ∀ i, r.start ≤ i → i < r.stop → ∃ c ∈ ['{', '}', ' ', '\n'], m[i]? = some c
  body : ∀ i c, r.start + 2 ≤ i → i + 2 < r.stop → m[i]? = some c → isGap c = true

/-- An offset that is not within a span. -/
def Beside (r : Span) (i : Nat) : Prop := i ≤ r.start ∨ r.stop ≤ i

/-- **A view that is blind to a span**: it sees the same of two templates in a value over all of the span. -/
def Blind (view : Span → Text → Text) (U V : Text) (r : Span) : Prop :=
  ∀ q shown : Span, q.covers r = true → shown.covers r = true → view shown (q.slice U) = view shown (q.slice V)

theorem hollow_withInterpolation (a b c : Text) : Hollow (withInterpolation a (blanked b) c) (interpolationSpan a b) := by
  have hget : ∀ j, (withInterpolation a (blanked b) c)[a.length + j]? =
      ('{' :: '{' :: (blanked b ++ '}' :: '}' :: c))[j]? := fun j => by
    rw [withInterpolation, List.getElem?_append_right (Nat.le_add_right _ _), Nat.add_sub_cancel_left]
  have hlen := length_blanked b
  refine ⟨by simp only [interpolationSpan]; omega, hget 0, ?_, fun i hlo hhi => ?_, fun i d hlo hhi hd => ?_⟩
  all_goals simp only [interpolationSpan] at *
  · rw [show a.length + b.length + 4 - 1 = a.length + ((blanked b).length + 1 + 2) by omega, hget,
      List.getElem?_cons_succ, List.getElem?_cons_succ, List.getElem?_append_right (Nat.le_add_right _ 1),
      Nat.add_sub_cancel_left]
    rfl
  · obtain ⟨j, rfl⟩ := Nat.exists_eq_add_of_le hlo
    have hsplit : '{' :: '{' :: (blanked b ++ '}' :: '}' :: c) = '{' :: '{' :: (blanked b ++ ['}', '}']) ++ c := by simp
    have hj : j < ('{' :: '{' :: (blanked b ++ ['}', '}'])).length := by
      simp only [List.length_cons, List.length_append]
      omega
    rw [hget, hsplit, List.getElem?_append_left hj]
    exact ⟨_, mem_blank_interpolation (List.getElem_mem hj), List.getElem?_eq_getElem hj⟩
  · obtain ⟨j, rfl⟩ := Nat.exists_eq_add_of_le hlo
    rw [Nat.add_assoc, Nat.add_comm 2, hget, List.getElem?_cons_succ, List.getElem?_cons_succ,
      List.getElem?_append_left (by omega)] at hd
    rcases mem_blanked (List.mem_of_getElem? hd) with rfl | rfl <;> decide

namespace Hollow

variable {view : Span → Text → Text} {m U V : Text} {r : Span} {pos n : Nat} {c : Char} {s : Text} (h : Hollow m r)
include h

theorem outside {i : Nat} (hi : m[i]? = some c) (hc : c ∉ ['{', '}', ' ', '\n']) : i < r.start ∨ r.stop ≤ i := by
  by_contra hin
  obtain ⟨d, hd, hi'⟩ := h.chars i (by omega) (by omega)
  cases hi.symm.trans hi'
  exact hc hd

/-- The mark at the start of a text is no brace, so it does not reach into an interpolation. -/
theorem mark : Beside r (markLength m) := by
  refine .inl ?_
  unfold markLength
  split
  · rename_i hmark
    have hne : r.start ≠ 0 := fun hzero => by
      rw [List.head?_eq_getElem?, ← hzero, h.first] at hmark
      cases hmark
    omega
  · exact Nat.zero_le _

theorem gap {gap : Text} (hat : m.drop pos = gap ++ c :: s) (hgap : ∀ d ∈ gap, isGap d = true) (hpos : Beside r pos) :
    Beside r (pos + gap.length) := by
  refine hpos.imp (fun hle => ?_) fun hle => by omega
  by_contra hlt
  obtain ⟨j, hj⟩ := Nat.exists_eq_add_of_le hle
  have hfirst := h.first
  rw [hj, getElem?_of_drop hat, List.getElem?_append_left (by omega)] at hfirst
  exact absurd (hgap _ (List.mem_of_getElem? hfirst)) (by decide)

/-- **A piece of text that begins beside an interpolation ends beside it.** -/
theorem piece (hat : m.drop pos = c :: s) (hpos : Beside r pos) (hn : pieceLength? c s = some n) :
    Beside r (pos + 1 + n) := by
  rcases hpos with hle | hle
  swap
  · exact .inr (by omega)
  have hs : ∀ i, m[pos + 1 + i]? = s[i]? := fun i => by
    rw [Nat.add_assoc, Nat.add_comm 1, getElem?_of_drop hat, List.getElem?_cons_succ]
  have hfirst := h.first
  by_contra hin
  unfold Beside at hin
  unfold pieceLength? at hn
  split at hn
  · -- a reference that reached into the interpolation would hold its first brace
    rename_i hc
    have hne : pos ≠ r.start := fun heq => by
      rw [← heq, ← Nat.add_zero pos, getElem?_of_drop hat, hc] at hfirst
      cases hfirst
    obtain ⟨j, hj⟩ := Nat.exists_eq_add_of_le (show pos + 1 ≤ r.start by omega)
    rw [hj, hs] at hfirst
    have hbrace : '{' ∈ s.take n := List.mem_of_getElem? (i := j) (by rw [List.getElem?_take_of_lt (by omega), hfirst])
    exact absurd (inReference_of_referenceLength? hn hbrace) (by decide)
  · split at hn
    · -- other text goes on to the last brace, which is no gap
      cases hn
      have hlast := h.last
      obtain ⟨j, hj⟩ := Nat.exists_eq_add_of_le (show pos + 1 ≤ r.stop - 1 by have := h.le; omega)
      rw [hj, hs] at hlast
      have htext : ∀ i ≤ j, ∃ d, s[i]? = some d ∧ isTextChar d = true := by
        intro i hi
        rcases Nat.lt_or_ge i (Text.trimEnd isGap (s.takeWhile isTextChar)).length with hlt | hge
        · have hpre := (prefix_trimEnd isGap (s.takeWhile isTextChar)).trans (List.takeWhile_prefix isTextChar)
          refine ⟨_, List.prefix_iff_getElem?.1 hpre i hlt, ?_⟩
          exact List.mem_takeWhile_imp ((prefix_trimEnd isGap _).subset (List.getElem_mem hlt))
        · obtain ⟨d, hd, hi'⟩ := h.chars (pos + 1 + i) (by omega) (by omega)
          have hall : ∀ d ∈ ['{', '}', ' ', '\n'], isTextChar d = true := by decide
          exact ⟨d, (hs i).symm.trans hi', hall d hd⟩
      have := lt_length_trimEnd (p := isGap) ((getElem?_takeWhile htext).trans hlast) (by decide)
      omega
    · cases hn

/-- **A value that tells two templates apart** spans the interpolation, when they differ in its body only. -/
theorem spares (hblind : Blind view U V r) (hsame : ∀ i, i < r.start + 2 ∨ r.stop ≤ i + 2 → U[i]? = V[i]?)
    {a : WrittenAttribute} (ha : a.HoldsValue m) : a.Spares view U V := by
  obtain ⟨hvalue, h1, h2, h3⟩ := ha
  by_cases hcovers : a.value.covers r = true
  · have hspan : a.span.covers r = true := by
      rw [covers_iff] at hcovers ⊢
      omega
    exact ⟨hblind _ _ hcovers hcovers, hblind _ _ hcovers hspan⟩
  · rw [covers_iff] at hcovers
    have hslice : a.value.slice U = a.value.slice V := by
      refine slice_congr fun i hlo hhi => hsame i ?_
      rcases hvalue with ⟨p, hp, q, hq, hpos, hbefore, hbehind⟩ | hbare
      · -- a quote or a comment that ends stands on one side of the interpolation
        have hmark : p ∉ ['{', '}', ' ', '\n'] := by
          simp only [List.mem_cons, List.not_mem_nil, or_false] at hp
          rcases hp with rfl | rfl | rfl <;> decide
        have hquote : q ∉ ['{', '}', ' ', '\n'] := by
          simp only [List.mem_cons, List.not_mem_nil, or_false] at hq
          rcases hq with rfl | rfl <;> decide
        have hstart := h.outside hbefore hmark
        have hstop := h.outside hbehind hquote
        omega
      · obtain ⟨c, hc, hgap⟩ := hbare i (holds_iff.2 ⟨hlo, hhi⟩)
        by_contra hout
        rw [h.body i c (by omega) (by omega) hc] at hgap
        cases hgap
    exact ⟨congrArg _ hslice, congrArg _ hslice⟩

theorem more (hat : m.drop pos = c :: s) (hn : n ≤ s.length) (hmore : '>' :: s.drop n <:+ s) :
    Beside r (pos + 1 + n) := by
  obtain ⟨u, hu⟩ := hmore
  have hlen := congrArg List.length hu
  simp only [List.length_append, List.length_cons, List.length_drop] at hlen
  have hend : m[pos + n]? = some '>' := by
    rw [getElem?_of_drop hat, show n = u.length + 1 by omega, List.getElem?_cons_succ, ← hu]
    simp
  exact (h.outside hend (by decide)).imp (by omega) (by omega)

/-- **No step of a reading beside an interpolation tells two templates apart** that differ in its body only. -/
theorem fairAt (hblind : Blind view U V r) (hsame : ∀ i, i < r.start + 2 ∨ r.stop ≤ i + 2 → U[i]? = V[i]?) :
    FairAt view U V (Beside r) (Beside r) fun pos s => m.drop pos = s ∧ Beside r pos := by
  have hdrop : ∀ {pos : Nat} {gap s : Text}, m.drop pos = gap ++ s → m.drop (pos + gap.length) = s := fun hat => by
    rw [← List.drop_drop, hat, List.drop_left]
  constructor
  · rintro pos gap s c ⟨hat, hpos⟩ hgap -
    have hpos' := h.gap hat hgap hpos
    have hrest : m.drop (pos + gap.length + 1) = s := by
      rw [← List.drop_drop, hdrop hat]
      rfl
    refine ⟨fun _ t ht a ha => h.spares hblind hsame ?_, fun n hn => ⟨hpos', h.piece (hdrop hat) hpos' hn⟩⟩
    exact readStartTag?_holdsValue hrest ht a ha
  · rintro template g g₁ pos n gap s c ⟨hat, hpos⟩ hgap - htaken
    have hpos' := h.gap hat hgap hpos
    have hrest : m.drop (pos + gap.length + 1) = s := by
      rw [← List.drop_drop, hdrop hat]
      rfl
    refine ⟨by rw [← List.drop_drop, hrest], ?_⟩
    by_cases hc : c = '<'
    · subst hc
      exact h.more (hdrop hat) (taken?_le htaken) (taken?_more htaken)
    · rw [taken?_text template g _ hc] at htaken
      obtain ⟨k, hk, heq⟩ := Option.map_eq_some_iff.1 htaken
      cases heq
      exact h.piece (hdrop hat) hpos' hk

end Hollow

/-! ## Two templates -/

section Bodies

variable {view : Span → Text → Text} {a b b' c : Text} {U V : Text} {r : Span}

/-- A run of text that begins and ends beside an interpolation covers it, or does not see its body. -/
theorem alikeOn_beside (hblind : Blind view U V r) (hsame : ∀ i, i < r.start + 2 ∨ r.stop ≤ i + 2 → U[i]? = V[i]?) :
    AlikeOn view U V (Beside r) (Beside r) := by
  intro q hstart hstop
  by_cases hcovers : q.covers r = true
  · exact hblind q q hcovers hcovers
  · rw [covers_iff] at hcovers
    unfold Beside at hstart hstop
    exact congrArg _ (slice_congr fun i h1 h2 => hsame i (by omega))

theorem getElem?_withInterpolation (hlen : b.length = b'.length) {i : Nat}
    (hi : i < (interpolationSpan a b).start + 2 ∨ (interpolationSpan a b).stop ≤ i + 2) :
    (withInterpolation a b c)[i]? = (withInterpolation a b' c)[i]? := by
  unfold interpolationSpan at hi
  dsimp only at hi
  rw [← List.head?_drop, ← List.head?_drop]
  rcases Nat.lt_or_ge i (a.length + 2) with hlt | hge
  · rcases Nat.lt_or_ge a.length i with hin | hbefore
    · obtain rfl : i = a.length + 1 := by omega
      rw [← List.drop_drop, ← List.drop_drop, drop_withInterpolation (Nat.le_refl _),
        drop_withInterpolation (Nat.le_refl _), List.drop_length]
      rfl
    · rw [drop_withInterpolation hbefore, drop_withInterpolation hbefore]
      cases a.drop i <;> rfl
  · rw [drop_withInterpolation_behind (by omega), drop_withInterpolation_behind (by omega), hlen]

theorem slice_withInterpolation {q : Span} (hq : q.covers (interpolationSpan a b) = true) (c : Text) :
    q.slice (withInterpolation a b c) =
      withInterpolation (a.drop q.start) b (c.take (q.stop - (interpolationSpan a b).stop)) := by
  obtain ⟨hstart, hstop⟩ := covers_iff.1 hq
  obtain ⟨n, hn⟩ := Nat.exists_eq_add_of_le hstop
  have hlength : q.stop - q.start = (a.drop q.start).length + (b.length + (n + 1 + 1) + 1 + 1) := by
    simp only [interpolationSpan, List.length_drop] at *
    omega
  change ((withInterpolation a b c).drop q.start).take (q.stop - q.start) = _
  rw [drop_withInterpolation hstart, hlength, hn, Nat.add_sub_cancel_left, withInterpolation]
  simp only [List.take_length_add_append, List.take_succ_cons]

theorem longNumber?_withInterpolation (a b c : Text) : Entity.longNumber? (withInterpolation a b c) =
    (Entity.longNumber? a).or ((Entity.longNumber? b).or (Entity.longNumber? c)) := by
  rw [withInterpolation, Entity.longNumber?_braces (.inl rfl), Entity.longNumber?_braces (.inr rfl)]

theorem without_blind (r : Span) (U V : Text) : Blind (without (·.covers r)) U V r :=
  fun _ _ _ hshown => (if_pos hshown).trans (if_pos hshown).symm

/-- **Bodies that agree in their first long number** give values that do. -/
theorem numbers_blind (hlength : b.length = b'.length) (h : Entity.longNumber? b = Entity.longNumber? b') (a c : Text) :
    Blind numbers (withInterpolation a b c) (withInterpolation a b' c) (interpolationSpan a b) := by
  intro q shown hq _
  have hspan : interpolationSpan a b = interpolationSpan a b' := by rw [interpolationSpan, hlength, interpolationSpan]
  rw [slice_withInterpolation hq, slice_withInterpolation (hspan ▸ hq), numbers, numbers,
    longNumber?_withInterpolation, longNumber?_withInterpolation, h, hspan]

/-- **Two templates with bodies of the same length and line ends** are read alike, as far as a view sees that is blind to
the interpolation. -/
theorem readMarkup?_withInterpolation (h : Interpolates a b c) (h' : Interpolates a b' c) (hlines : SameLines b b')
    (hblind : Blind view (withInterpolation a b c) (withInterpolation a b' c) (interpolationSpan a b)) :
    (readMarkup? (withInterpolation a b c)).map (Forest.seen view) =
      (readMarkup? (withInterpolation a b' c)).map (Forest.seen view) := by
  obtain ⟨u, v, hu, heq⟩ := h.mask_eq_withInterpolation
  have hollow := hollow_withInterpolation u b v
  rw [interpolationSpan, hu, ← interpolationSpan, ← heq] at hollow
  have hsame := fun i => getElem?_withInterpolation (a := a) (c := c) hlines.length_eq (i := i)
  unfold readMarkup?
  dsimp only
  rw [← mask_withInterpolation h h' hlines]
  split
  · rfl
  · exact readFrom?_seen (alikeOn_beside hblind hsame) (hollow.fairAt hblind hsame) _
      ⟨fun _ h => (nomatch h), fun _ h => nomatch h⟩ rfl ⟨rfl, hollow.mark⟩

/-- **The body of an interpolation changes no structure.**  With another body of the same length and line ends, the
masked template is the same, and its markup is malformed or not as before.  Where both templates are read, the forest is
the same, but for the values of the texts and attributes whose spans cover the interpolation; and where the bodies agree
in their first number that is too long, or hold none, both are read or neither is. -/
theorem read_withInterpolation (h : Interpolates a b c) (h' : Interpolates a b' c) (hlines : SameLines b b') :
    mask (withInterpolation a b c) = mask (withInterpolation a b' c) ∧
      (read (withInterpolation a b c) = .error .markup ↔ read (withInterpolation a b' c) = .error .markup) ∧
      (∀ f f', read (withInterpolation a b c) = .ok f → read (withInterpolation a b' c) = .ok f' →
        f.hide (·.covers (interpolationSpan a b)) = f'.hide (·.covers (interpolationSpan a b))) ∧
      (Entity.longNumber? b = Entity.longNumber? b' →
        (read (withInterpolation a b c)).map (Forest.hide (·.covers (interpolationSpan a b))) =
          (read (withInterpolation a b' c)).map (Forest.hide (·.covers (interpolationSpan a b)))) := by
  have hhidden := readMarkup?_withInterpolation h h' hlines (without_blind _ _ _)
  have hnumbers := fun hb => readMarkup?_withInterpolation h h' hlines (numbers_blind hlines.length_eq hb a c)
  have hdecoded : ∀ {f f' : Forest}, readMarkup? (withInterpolation a b c) = some f →
      readMarkup? (withInterpolation a b' c) = some f' → f.decoded.hide (·.covers (interpolationSpan a b)) =
        f'.decoded.hide (·.covers (interpolationSpan a b)) := fun {f f'} hf hf' => by
    rw [hf, hf'] at hhidden
    rw [Forest.hide_decoded, Forest.hide_decoded]
    exact congrArg Forest.decoded (Option.some.inj hhidden)
  refine ⟨mask_withInterpolation h h' hlines, ?_, fun f f' hf hf' => ?_, fun hb => ?_⟩
  · rw [read_eq_markup_iff, read_eq_markup_iff, ← Option.map_eq_none_iff, hhidden, Option.map_eq_none_iff]
  · obtain ⟨raw, hraw, -, rfl⟩ := read_eq_ok_iff.1 hf
    obtain ⟨raw', hraw', -, rfl⟩ := read_eq_ok_iff.1 hf'
    exact hdecoded hraw hraw'
  · have hlong := congrArg (Option.map Forest.longNumber?) (hnumbers hb)
    rw [Option.map_map, Option.map_map, show Forest.longNumber? ∘ Forest.seen numbers = Forest.longNumber? from
      funext Forest.longNumber?_seen] at hlong
    rw [read_eq, read_eq]
    cases hf : readMarkup? (withInterpolation a b c) with
    | none =>
      rw [hf, Option.map_none, eq_comm, Option.map_eq_none_iff] at hlong
      rw [hlong]
    | some f =>
      rw [hf, Option.map_some, eq_comm] at hlong
      obtain ⟨f', hf', hlong⟩ := Option.map_eq_some_iff.1 hlong
      rw [hf']
      dsimp only
      rw [hlong]
      cases f.longNumber? with
      | some n => rfl
      | none => exact congrArg Except.ok (hdecoded hf hf')

/-- Quotes, brackets and a parenthesis in the value of an attribute, in one of two templates. -/
theorem read_withInterpolation_value :
    let a := "@if (ok) \x7b<p id=\"".toList
    let b := "'<b>\")".toList
    let b' := "a ? 1;".toList
    let c := "\">x</p>\x7d".toList
    let hidden : Span → Bool := (·.covers (interpolationSpan a b))
    (Interpolates a b c ∧ Interpolates a b' c ∧ SameLines b b') ∧ (read? (withInterpolation a b c)).isSome = true ∧
      mask (withInterpolation a b c) = mask (withInterpolation a b' c) ∧
        (read (withInterpolation a b c)).map (Forest.hide hidden) =
          (read (withInterpolation a b' c)).map (Forest.hide hidden) := by
  intro a b b' c hidden
  have h : Interpolates a b c := ⟨by decide +kernel, by decide, by decide +kernel⟩
  have h' : Interpolates a b' c := ⟨by decide +kernel, by decide, by decide +kernel⟩
  have hlines : SameLines b b' := by
    unfold SameLines
    decide
  obtain ⟨hmask, -, -, hread⟩ := read_withInterpolation h h' hlines
  exact ⟨⟨h, h', hlines⟩, by decide +kernel, hmask, hread (by decide +kernel)⟩

end Bodies

/-! ## An interpolation alone -/

section Alone

variable {b : Text} (hb : '{' ∉ b ∧ '}' ∉ b ∧ '@' ∉ b)
include hb

theorem interpolates_alone : Interpolates [] b [] := by
  refine ⟨?_, hb, fun r hr => ?_⟩
  · have hfirst : Text.FirstBehind ['}', '}'] b := fun h => by
      have hcount : 2 ≤ (b ++ ['}']).count '}' := h.sublist.count_le '}'
      rw [List.count_append, List.count_eq_zero.2 hb.2.1] at hcount
      exact absurd hcount (by decide)
    have hfind : interpolation? (withInterpolation [] b []) = some ⟨2, b.length, b.length + 4⟩ := by
      change (Text.offset? ['}', '}'] (b ++ (['}', '}'] ++ []))).map _ = _
      rw [Text.offset?_append_of_first (by decide) [] hfirst]
      rfl
    have hcons : withInterpolation [] b [] = '{' :: '{' :: (b ++ ['}', '}']) := rfl
    rw [hcons] at hfind ⊢
    rw [bodies, hfind]
    exact List.mem_cons_self ..
  · have hat : '@' ∉ withInterpolation [] b [] := by simp [withInterpolation, hb.2.2]
    have hnone : ∀ e : Expression, e ≠ .interpolation → bodies e.match? 0 (withInterpolation [] b []) = [] := by
      intro e he
      refine bodies_eq_nil 0 fun t _ ht => Expression.match?_eq_none ?_
      cases hopen : e.opening? t with
      | none => rfl
      | some u =>
        obtain ⟨heq, -⟩ | ⟨-, w, rfl, -⟩ := Expression.eq_of_opening? hopen
        · exact absurd heq he
        · exact absurd (ht.subset (List.mem_cons_self ..)) hat
    have hdeclaration := hnone .declaration (by simp)
    have hblock := hnone .block (by simp)
    rw [show Expression.match? .declaration = declaration? from rfl] at hdeclaration
    rw [show Expression.match? .block = block? from rfl] at hblock
    rw [hdeclaration, hblock] at hr
    cases hr

theorem mask_interpolation : mask (withInterpolation [] b []) = withInterpolation [] (blanked b) [] := by
  obtain ⟨u, v, hu, heq⟩ := (interpolates_alone hb).mask_eq_withInterpolation
  have hlength := length_mask (withInterpolation [] b [])
  rw [heq, length_withInterpolation, length_withInterpolation, length_blanked, hu] at hlength
  have hv : v.length = 0 := by
    rw [List.length_nil] at hlength
    omega
  rw [heq, List.eq_nil_of_length_eq_zero hu, List.eq_nil_of_length_eq_zero hv]

theorem readMarkup?_interpolation : readMarkup? (withInterpolation [] b []) =
    some ⟨[.text (withInterpolation [] b []) ⟨0, b.length + 4⟩], []⟩ := by
  have hmem : ∀ d ∈ '{' :: '{' :: (blanked b ++ ['}', '}']), d ∈ ['{', '}', ' ', '\n'] := fun _ => mem_blank_interpolation
  have hne : ∀ d ∈ ['{', '}', ' ', '\n'], d ≠ '<' ∧ d ≠ '>' ∧ d ≠ '&' ∧ d ≠ '\x00' := by decide
  have hruns : Runs ('{' :: '{' :: (blanked b ++ ['}', '}'])) := by
    refine ⟨fun d hd => ?_, fun u hu r hr => ?_, fun d hd => ?_⟩
    · obtain ⟨hless, hmore, -⟩ := hne d (hmem d hd)
      exact ⟨hless, hmore⟩
    · have hamp : '&' ∈ u := by
        rw [Text.eq_append_of_after? hr]
        exact List.mem_cons_self ..
      exact absurd rfl (hne _ (hmem _ (((List.mem_tails ..).1 hu).subset hamp))).2.2.1
    · rw [← List.cons_append, ← List.cons_append, List.getLast?_append] at hd
      cases hd
      rfl
  have hnul : ('{' :: '{' :: (blanked b ++ ['}', '}'])).contains '\x00' = false := by
    rw [Bool.eq_false_iff]
    exact fun h => (hne _ (hmem _ (List.contains_iff_mem.1 h))).2.2.2 rfl
  have hread := @readFrom?_run (withInterpolation [] b []) [] _ _ hruns rfl atTag_nil .empty 0
  have hlength : ('{' :: '{' :: (blanked b ++ ['}', '}'])).length = b.length + 4 := by simp [length_blanked]
  have hslice : (⟨0, b.length + 4⟩ : Span).slice (withInterpolation [] b []) = withInterpolation [] b [] := by
    refine List.take_of_length_le (Nat.le_of_eq ?_)
    rw [List.drop_zero, length_withInterpolation, List.length_nil, Nat.zero_add]
    rfl
  have hmask : mask (withInterpolation [] b []) = '{' :: '{' :: (blanked b ++ ['}', '}']) := mask_interpolation hb
  have hmark : markLength ('{' :: '{' :: (blanked b ++ ['}', '}'])) = 0 := rfl
  unfold readMarkup?
  dsimp only
  rw [hmask, hnul, hmark, if_neg Bool.false_ne_true, List.drop_zero, ← List.append_nil ('{' :: _), hread, hlength,
    readFrom?_eq, Nat.zero_add]
  change some (Forest.mk [.text ((⟨0, b.length + 4⟩ : Span).slice _) ⟨0, b.length + 4⟩] []) = _
  rw [hslice]

/-- **An interpolation alone is a text**, unless a number in it is too long. -/
theorem read_interpolation : read (withInterpolation [] b []) =
    match Entity.longNumber? b with
    | some digits => .error (.longNumber digits)
    | none => .ok ⟨[.text (Entity.decode (withInterpolation [] b [])) ⟨0, b.length + 4⟩], []⟩ := by
  have hlong : Forest.longNumber? ⟨[.text (withInterpolation [] b []) ⟨0, b.length + 4⟩], []⟩ = Entity.longNumber? b := by
    simp [Forest.longNumber?, literalsOf, Node.literals, longNumber?_withInterpolation, Entity.longNumber?]
  rw [read_eq, readMarkup?_interpolation hb]
  dsimp only
  rw [hlong]
  rfl

end Alone

theorem sameLines_of_notMem {b b' : Text} (hlength : b.length = b'.length) (hb : '\n' ∉ b) (hb' : '\n' ∉ b') :
    SameLines b b' := by
  refine List.forall₂_iff_zip.2 ⟨hlength, fun {c d} hcd => ?_⟩
  obtain ⟨hc, hd⟩ := List.of_mem_zip hcd
  exact iff_of_false (fun h => hb (h ▸ hc)) fun h => hb' (h ▸ hd)

/-- **A number in the body of an interpolation can stop the reading**: one of 4301 digits does, and letters in its place
do not. -/
theorem read_withInterpolation_not : ¬ ∀ a b b' c : Text, Interpolates a b c → Interpolates a b' c → SameLines b b' →
    (read? (withInterpolation a b c)).isSome = (read? (withInterpolation a b' c)).isSome := by
  intro h
  have hdigits : ∀ d, d ∉ ['&', '#', '0'] → d ∉ Entity.ofDigits 4301 := fun d hd h => hd (Text.Entity.mem_ofDigits h)
  have hletters : ∀ d, d ≠ 'a' → d ∉ List.replicate 4303 'a' := fun _ hne h => hne (List.eq_of_mem_replicate h)
  have hplain : '{' ∉ Entity.ofDigits 4301 ∧ '}' ∉ Entity.ofDigits 4301 ∧ '@' ∉ Entity.ofDigits 4301 :=
    ⟨hdigits _ (by decide), hdigits _ (by decide), hdigits _ (by decide)⟩
  have hplain' : '{' ∉ List.replicate 4303 'a' ∧ '}' ∉ List.replicate 4303 'a' ∧ '@' ∉ List.replicate 4303 'a' :=
    ⟨hletters _ (by decide), hletters _ (by decide), hletters _ (by decide)⟩
  have hlines : SameLines (Entity.ofDigits 4301) (List.replicate 4303 'a') :=
    sameLines_of_notMem ((Text.Entity.length_ofDigits _).trans (List.length_replicate ..).symm) (hdigits _ (by decide))
      (hletters _ (by decide))
  have hlong : Entity.longNumber? (Entity.ofDigits 4301) = some 4301 := Text.Entity.longNumber?_ofDigits (by decide)
  have hshort : Entity.longNumber? (List.replicate 4303 'a') = none :=
    Text.Entity.longNumber?_eq_none_iff.2 fun r hr => absurd (hr.subset (List.mem_cons_self ..)) (hletters '&' (by decide))
  have hsame := h [] _ _ [] (interpolates_alone hplain) (interpolates_alone hplain') hlines
  rw [read?, read?, read_interpolation hplain, read_interpolation hplain', hlong, hshort] at hsame
  exact absurd hsame (by decide)

end Template
end ViewAtlas
