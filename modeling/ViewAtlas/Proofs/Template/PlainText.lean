import ViewAtlas.Proofs.Template.Comments
import ViewAtlas.Proofs.Template.Numbers
import ViewAtlas.Proofs.Template.RoundTrip
/-!
# Plain text

Plain text holds no expression and no markup, but any other characters.  Its brackets are masked, so between two tags it
is read as one run of text at most.  What stays is the `&`: where one begins no character reference the template is
refused, and where one begins a number that is too long; and nowhere else (`read?_inParagraph`).
-/
namespace ViewAtlas
namespace Template

open Text (Entity.decode Entity.decimals Entity.longNumber?)

/-- **A character reference begins** behind an `&`: a letter, `#` and a digit, or `#x` and a hexadecimal digit. -/
def BeginsReference : Text → Prop
  | '#' :: c :: r => c.isDigit = true ∨ (c = 'x' ∨ c = 'X') ∧ r.head?.any (fun d => (Text.hexValue? d).isSome) = true
  | s => s.head?.any Char.isAlpha = true

/-- **A text without expressions and markup**: no `<` in it opens a tag or a comment. -/
structure PlainText (s : Text) : Prop where
  noNul : '\x00' ∉ s
  noBlock : '@' ∉ s
  noInterpolation : ¬ ['{', '{'] <:+: s
  noMarkup : ∀ c r, '<' :: c :: r <:+ s → (Text.isLetter c || c = '/' || c = '!') = false

instance (s : Text) : Decidable (PlainText s) :=
  decidable_of_iff ('\x00' ∉ s ∧ '@' ∉ s ∧ ¬ ['{', '{'] <:+: s ∧ ∀ t ∈ s.tails, ∀ r ∈ Text.after? ['<'] t,
      r.head?.any (fun c => Text.isLetter c || c = '/' || c = '!') = false)
    ⟨fun ⟨h1, h2, h3, h4⟩ => ⟨h1, h2, h3, fun c r hr => h4 _ ((List.mem_tails _ _).2 hr) (c :: r) rfl⟩,
      fun h => ⟨h.noNul, h.noBlock, h.noInterpolation, fun t ht r hr => by
        cases r with
        | nil => rfl
        | cons c r =>
          rw [List.mem_tails, Text.eq_append_of_after? hr] at ht
          exact h.noMarkup c r ht⟩⟩

def inParagraph (s : Text) : Text := '<' :: 'p' :: '>' :: (s ++ ['<', '/', 'p', '>'])

def debracket (s : Text) : Text := s.map fun c => if c = '<' ∨ c = '>' then ' ' else c

@[simp] theorem debracket_nil : debracket [] = [] := rfl

@[simp] theorem debracket_cons (c : Char) (s : Text) :
    debracket (c :: s) = (if c = '<' ∨ c = '>' then ' ' else c) :: debracket s := rfl

@[simp] theorem length_debracket (s : Text) : (debracket s).length = s.length := List.length_map _

theorem notMem_debracket (s : Text) : '<' ∉ debracket s ∧ '>' ∉ debracket s := by
  constructor <;>
  · rw [debracket, List.mem_map]
    rintro ⟨c, -, hc⟩
    split at hc
    · cases hc
    · rename_i hn
      simp [hc] at hn

variable {template s x : Text}

/-! ## References -/

section References

theorem take_takeWhile_eq_nil {p : Char → Bool} {n : Nat} (hn : n ≠ 0) (s : Text) :
    (s.takeWhile p).take n = [] ↔ s.head?.any p = false := by
  rw [List.take_eq_nil_iff, or_iff_right hn]
  cases s with
  | nil => simp
  | cons c s => by_cases hc : p c = true <;> simp [hc]

theorem beginsReference_name (h : ∀ y r, s ≠ '#' :: y :: r) : BeginsReference s ↔ s.head?.any Char.isAlpha = true := by
  unfold BeginsReference
  split
  · exact absurd rfl (h _ _)
  · rfl

theorem isSome_referenceLength? (s : Text) : (referenceLength? s).isSome = true ↔ BeginsReference s := by
  by_cases hs : ∃ y r, s = '#' :: y :: r
  · obtain ⟨y, r, rfl⟩ := hs
    have hdigits := take_takeWhile_eq_nil (p := Char.isDigit) (by decide : 5 ≠ 0) (y :: r)
    have hhex := take_takeWhile_eq_nil (p := fun d => (Text.hexValue? d).isSome) (by decide : 6 ≠ 0) r
    rw [List.head?_cons, Option.any_some] at hdigits
    rw [referenceLength?_number, BeginsReference]
    dsimp only
    simp only [ne_eq, hdigits, hhex, Bool.not_eq_false]
    by_cases h1 : y.isDigit = true
    · simp [h1]
    · by_cases h2 : (y = 'x' ∨ y = 'X') ∧ r.head?.any (fun d => (Text.hexValue? d).isSome) = true
      · rw [if_neg h1, if_pos h2]
        exact iff_of_true rfl (.inr h2)
      · rw [if_neg h1, if_neg h2]
        exact iff_of_false (by decide) (not_or.2 ⟨h1, h2⟩)
  · have hne : ∀ y r, s ≠ '#' :: y :: r := fun y r h => hs ⟨y, r, h⟩
    have hname := take_takeWhile_eq_nil (p := Char.isAlpha) (by decide : 30 ≠ 0) s
    rw [referenceLength?_name hne, beginsReference_name hne]
    by_cases h : s.head?.any Char.isAlpha = true <;> simp [hname, h]

/-- A bracket looks like a space to who asks for neither. -/
theorem apply_debracketed {p : Char → Bool} (hp : [' ', '<', '>'].any p = false) (c : Char) :
    p (if c = '<' ∨ c = '>' then ' ' else c) = p c := by
  simp only [List.any_cons, List.any_nil, Bool.or_false, Bool.or_eq_false_iff] at hp
  by_cases hc : c = '<' ∨ c = '>'
  · rw [if_pos hc, hp.1]
    rcases hc with rfl | rfl
    · exact hp.2.1.symm
    · exact hp.2.2.symm
  · rw [if_neg hc]

theorem debracketed_eq_iff {d : Char} (hd : d ∉ [' ', '<', '>']) (c : Char) :
    (if c = '<' ∨ c = '>' then ' ' else c) = d ↔ c = d := by
  have h := apply_debracketed (p := fun c => decide (c = d)) (by
    rw [List.any_eq_false]
    intro e he h
    exact hd (of_decide_eq_true h ▸ he)) c
  exact decide_eq_decide.1 h

theorem head?_debracket {p : Char → Bool} (hp : [' ', '<', '>'].any p = false) (s : Text) :
    (debracket s).head?.any p = s.head?.any p := by
  cases s with
  | nil => rfl
  | cons c s => exact apply_debracketed hp c

theorem beginsReference_debracket (s : Text) : BeginsReference (debracket s) ↔ BeginsReference s := by
  by_cases hs : ∃ y r, s = '#' :: y :: r
  · obtain ⟨y, r, rfl⟩ := hs
    rw [debracket_cons, debracket_cons, if_neg (by decide), BeginsReference, BeginsReference,
      apply_debracketed (p := Char.isDigit) (by decide), debracketed_eq_iff (by decide),
      debracketed_eq_iff (by decide), head?_debracket (by decide)]
  · have hne : ∀ y r, debracket s ≠ '#' :: y :: r := by
      intro y r h
      match s with
      | [] => cases h
      | [c] =>
        rw [debracket_cons] at h
        cases (List.cons.inj h).2
      | c :: d :: t =>
        rw [debracket_cons] at h
        have hc := (debracketed_eq_iff (by decide) c).1 (List.cons.inj h).1
        exact hs ⟨d, t, by rw [hc]⟩
    rw [beginsReference_name hne, beginsReference_name fun y r h => hs ⟨y, r, h⟩, head?_debracket (by decide)]

theorem forall_reference_debracket (s : Text) : (∀ r, '&' :: r <:+ debracket s → BeginsReference r) ↔
    ∀ r, '&' :: r <:+ s → BeginsReference r := by
  constructor
  · rintro h r ⟨a, rfl⟩
    refine (beginsReference_debracket r).1 (h _ ⟨debracket a, ?_⟩)
    simp [debracket]
  · rintro h r ⟨a, ha⟩
    obtain ⟨b, t, rfl, -, ht⟩ := List.map_eq_append_iff.1 ha.symm
    obtain ⟨c, u, rfl, hc, rfl⟩ := List.map_eq_cons_iff.1 ht
    rw [debracketed_eq_iff (by decide)] at hc
    exact (beginsReference_debracket u).2 (h u ⟨b, by rw [hc]⟩)

end References

/-! ## Reading -/

/-- **A step in plain text**: an `&` that begins no reference has none, and any other takes no further `&` along. -/
theorem step?_plain (template : Text) {c : Char} {r : Text} (hc : c ≠ '<' ∧ c ≠ '>') (hx : AtTag x) (g : Growth)
    (pos : Nat) :
    ((c = '&' ∧ ¬ BeginsReference r) ∧ step? template g pos c (r ++ x) = none) ∨
      ((c = '&' → BeginsReference r) ∧ ∃ n ≤ r.length, '&' ∉ r.take n ∧
        step? template g pos c (r ++ x) = some (.skip (g.text ⟨pos, pos + 1 + n⟩) pos n)) := by
  unfold step?
  rw [if_neg hc.1]
  by_cases hamp : c = '&'
  · rw [if_pos hamp, referenceLength?_append hx, ← isSome_referenceLength?]
    cases hn : referenceLength? r with
    | none => exact .inl ⟨⟨hamp, by decide⟩, rfl⟩
    | some n =>
      have hnone : '&' ∉ r.take n := fun hm => absurd (inReference_of_referenceLength? hn hm) (by decide)
      exact .inr ⟨fun _ => rfl, n, referenceLength?_le hn, hnone, rfl⟩
  · have htext : isTextChar c = true := by simp [isTextChar, hc.1, hc.2, hamp]
    have hfront := prefix_trimEnd isGap (r.takeWhile isTextChar)
    rw [if_neg hamp, if_pos htext, Text.takeWhile_append_of_head (hx.head (by decide))]
    refine .inr ⟨fun h => absurd h hamp, _, (hfront.trans (List.takeWhile_prefix isTextChar)).length_le, ?_, rfl⟩
    rw [← List.prefix_iff_eq_take.1 (hfront.trans (List.takeWhile_prefix isTextChar))]
    intro hm
    exact absurd (List.mem_takeWhile_imp (hfront.subset hm)) (by decide)

theorem suffix_of_notMem {a b r : Text} (ha : '&' ∉ a) (h : '&' :: r <:+ a ++ b) : '&' :: r <:+ b := by
  obtain ⟨w, hw⟩ := h
  rcases List.append_eq_append_iff.1 hw with ⟨u, rfl, hu⟩ | ⟨u, -, rfl⟩
  · cases u with
    | nil => exact hu ▸ List.suffix_refl _
    | cons c u =>
      rw [(List.cons.inj hu).1] at ha
      exact absurd (List.mem_append_right _ (List.mem_cons_self ..)) ha
  · exact List.suffix_append u _

/-- The growth after a text, which may be none. -/
def Growth.textOf (g : Growth) (pos : Nat) (t : Text) : Growth := if t = [] then g else g.text ⟨pos, pos + t.length⟩

/-- **Plain text is read as one run**, but for the gaps at its ends, when every `&` in it begins a reference, and not at
all otherwise. -/
theorem readFrom?_plain (template : Text) {m : Text} (hm : '<' ∉ m ∧ '>' ∉ m) (hx : AtTag x) (g : Growth) (pos : Nat) :
    ((∀ r, '&' :: r <:+ m → BeginsReference r) ∧
        ∃ a t b, m = a ++ (t ++ b) ∧ (∀ c ∈ a ++ b, isGap c = true) ∧
          readFrom? template g pos (m ++ x) = readFrom? template (g.textOf (pos + a.length) t) (pos + m.length) x) ∨
      ((∃ r, '&' :: r <:+ m ∧ ¬ BeginsReference r) ∧ readFrom? template g pos (m ++ x) = none) := by
  have hsplit : m = m.takeWhile isGap ++ m.dropWhile isGap := List.takeWhile_append_dropWhile.symm
  have hgap : ∀ c ∈ m.takeWhile isGap, isGap c = true := fun _ hc => List.mem_takeWhile_imp hc
  have hamp : '&' ∉ m.takeWhile isGap := fun h => absurd (hgap _ h) (by decide)
  generalize m.takeWhile isGap = gap at hsplit hgap hamp
  cases hdrop : m.dropWhile isGap with
  | nil =>
    rw [hdrop, List.append_nil] at hsplit
    refine .inl ⟨fun r hr => absurd (hsplit ▸ hr.subset (List.mem_cons_self ..)) hamp, gap, [], [], by simp [hsplit],
      by simpa using hgap, ?_⟩
    rw [hsplit, readFrom?_gap hgap]
    rfl
  | cons c r =>
    have hc : isGap c = false := eq_false_of_dropWhile hdrop
    rw [hdrop] at hsplit
    have hmem : ∀ d ∈ c :: r, d ≠ '<' ∧ d ≠ '>' := fun d hd => by
      rw [hsplit] at hm
      exact ⟨fun h => hm.1 (List.mem_append_right _ (h ▸ hd)), fun h => hm.2 (List.mem_append_right _ (h ▸ hd))⟩
    have hread : readFrom? template g pos (m ++ x) = readFrom? template g (pos + gap.length) (c :: (r ++ x)) := by
      rw [hsplit, List.append_assoc, readFrom?_gap hgap, List.cons_append]
    rcases step?_plain template (hmem c (List.mem_cons_self ..)) hx g (pos + gap.length) with
      ⟨⟨rfl, hbegins⟩, hstep⟩ | ⟨hbegins, n, hn, htaken, hstep⟩
    · refine .inr ⟨⟨r, ⟨gap, hsplit.symm⟩, hbegins⟩, ?_⟩
      rw [hread, readFrom?_eq, List.dropWhile_cons_of_neg (by decide), List.takeWhile_cons_of_neg (by decide)]
      dsimp only [List.length_nil, Nat.add_zero]
      rw [hstep]
    · have hgo : readFrom? template g pos (m ++ x) =
          readFrom? template (g.text ⟨pos + gap.length, pos + gap.length + 1 + n⟩) (pos + gap.length + 1 + n)
            (r.drop n ++ x) := by
        rw [hread, readFrom?_step hc hstep, Step.skip_growth, Step.skip_pos, Step.skip_rest,
          List.drop_append_of_le_length hn]
      have hrest : '<' ∉ r.drop n ∧ '>' ∉ r.drop n :=
        ⟨fun h => (hmem _ (List.mem_cons_of_mem _ (List.mem_of_mem_drop h))).1 rfl,
          fun h => (hmem _ (List.mem_cons_of_mem _ (List.mem_of_mem_drop h))).2 rfl⟩
      have hlength : pos + m.length = pos + gap.length + 1 + n + (r.drop n).length := by
        rw [hsplit, List.length_append, List.length_cons, List.length_drop]
        omega
      rcases readFrom?_plain template hrest hx (g.text ⟨pos + gap.length, pos + gap.length + 1 + n⟩)
        (pos + gap.length + 1 + n) with ⟨href, a, t, b, hm', hgaps, h⟩ | ⟨⟨t, ht, href⟩, h⟩
      · have hbegin : ∀ t, '&' :: t <:+ m → BeginsReference t := fun t ht => by
          -- an `&` stands where the step begins or behind what the step takes
          rw [hsplit] at ht
          rcases List.suffix_cons_iff.1 (suffix_of_notMem hamp ht) with heq | ht
          · cases heq
            exact hbegins rfl
          · rw [← List.take_append_drop n r] at ht
            exact href t (suffix_of_notMem htaken ht)
        have htake : (r.take n).length = n := List.length_take_of_le hn
        have hr : r = r.take n ++ (a ++ (t ++ b)) := by rw [← hm', List.take_append_drop]
        rw [hgo, h, hlength]
        by_cases ht : t = []
        · refine .inl ⟨hbegin, gap, c :: r.take n, a ++ b, ?_, fun d hd => ?_, ?_⟩
          · rw [hsplit, hr]
            simp [ht, htake]
          · exact (List.mem_append.1 hd).elim (hgap d) (hgaps d)
          · rw [Growth.textOf, Growth.textOf, if_pos ht, if_neg (List.cons_ne_nil _ _), List.length_cons, htake]
            rw [Nat.add_assoc _ 1 n, Nat.add_comm 1 n]
        · refine .inl ⟨hbegin, gap, c :: (r.take n ++ (a ++ t)), b, ?_, fun d hd => ?_, ?_⟩
          · rw [hsplit]
            conv => lhs; rw [hr]
            simp
          · exact (List.mem_append.1 hd).elim (hgap d) fun hd => hgaps d (List.mem_append_right _ hd)
          · rw [Growth.textOf, Growth.textOf, if_neg ht, if_neg (List.cons_ne_nil _ _), Growth.text_text]
            simp only [List.length_cons, List.length_append, htake]
            rw [show pos + gap.length + 1 + n + a.length + t.length =
              pos + gap.length + (n + (a.length + t.length) + 1) by omega]
      · refine .inr ⟨⟨t, ?_, href⟩, hgo.trans h⟩
        rw [hsplit]
        exact ht.trans ((List.drop_suffix n r).trans ((List.suffix_cons c r).trans (List.suffix_append gap _)))
termination_by m.length
decreasing_by omega

/-! ## Masking -/

theorem maskBrackets_plain : ∀ {s : Text}, (∀ c r, '<' :: c :: r <:+ s → (Text.isLetter c || c = '/' || c = '!') = false) →
    ∀ low, maskBrackets low s = debracket s
  | [], _, low => by rw [maskBrackets, debracket_nil]
  | c :: s, h, low => by
    have hrest := maskBrackets_plain fun d r hr => h d r (hr.trans (List.suffix_cons c s))
    rw [maskBrackets, debracket_cons]
    by_cases hc : c = '<'
    · have hnone : markupLength (low.drop 1) s = 0 := by
        rw [markupLength_eq_zero_iff]
        intro d hd
        cases s with
        | nil => cases hd
        | cons e s =>
          cases hd
          exact h _ s (hc ▸ List.suffix_refl _)
      rw [if_pos hc, if_pos (.inl hc), hnone]
      exact congrArg (' ' :: ·) (hrest _)
    · rw [if_neg hc, hrest]
      simp [hc]

def paragraphHead : Head := ⟨false, ['p'], default, [], [], [], []⟩

theorem paragraphHead_printable : paragraphHead.Printable := by
  have hvoid : isVoid (Text.lower ['p']) = false := by
    unfold isVoid voidNames namesOf
    simp only [List.flatMap_cons, List.flatMap_nil]
    -- evaluation is slow in taking the characters of a literal, so they are taken first
    repeat rw [String.toList_ofList]
    decide +kernel
  refine ⟨⟨by decide, by decide, hvoid, by decide⟩, by decide, fun s a ha => ?_⟩
  cases s <;> cases ha

theorem mask_inParagraph (hs : PlainText s) :
    mask (inParagraph s) = '<' :: (paragraphHead.print veil ++ (debracket s ++ '<' :: (paragraphHead.printEnd ++ []))) := by
  have hstart : Markup ['<', 'p', '>'] := markup_of_notMem (by decide) (by decide)
  have hend : Markup ['<', '/', 'p', '>'] := markup_of_notMem (by decide) (by decide)
  have hveil : veil (inParagraph s) = inParagraph s := by
    change veil (['<', 'p', '>'] ++ (s ++ ['<', '/', 'p', '>'])) = _
    rw [hstart.veil_append, veil_sealed (sealed_of_notMem hs.noInterpolation hs.noBlock) (atTag_cons _).bounds,
      veil_of_notMem hs.noInterpolation hs.noBlock, hend.veil_eq]
    rfl
  have hplain := maskBrackets_plain hs.noMarkup
  have hless : ∀ low, '<' ∉ maskBrackets low s := fun low => by
    rw [hplain]
    exact (notMem_debracket s).1
  change maskBrackets (Text.lower (veil (inParagraph s))) (veil (inParagraph s)) = _
  rw [hveil]
  change maskBrackets _ ('<' :: (paragraphHead.print veil ++ (s ++ '<' :: (paragraphHead.printEnd ++ [])))) = _
  rw [maskBrackets_tag (by decide) (markupLength_head paragraphHead_printable _ _),
    maskBrackets_text (hless []) (atTag_cons _), hplain,
    maskBrackets_tag (by decide) (markupLength_end paragraphHead_printable _ _), maskBrackets]
  simp

/-! ## Paragraphs -/

theorem close_paragraph (template : Text) (run : Option Span) (stop : Nat) :
    ({ Growth.empty.push template ⟨['p'], [], false⟩ 0 with run := run } : Growth).close template stop =
      ⟨[], [.element ⟨false, ['p'], ⟨0, stop⟩, [], [], [], []⟩ (run.toList.map fun r => .text (r.slice template) r)],
        none, []⟩ := by
  have hhead : StartTag.head template ⟨['p'], [], false⟩ ⟨0, stop⟩ = ⟨false, ['p'], ⟨0, stop⟩, [], [], [], []⟩ := by
    have hname : containerNames.contains (Text.lower ['p']) = false := by decide
    rw [StartTag.head, hname, List.foldl_nil]
  rw [← hhead]
  cases run <;> rfl

/-- The run of a text, which may be none. -/
def runOf (pos : Nat) (t : Text) : Option Span := if t = [] then none else some ⟨pos, pos + t.length⟩

theorem notNumber_of_debracketed {c : Char} (h : isGap (if c = '<' ∨ c = '>' then ' ' else c) = true) :
    c.isDigit = false ∧ c ≠ '#' ∧ c ≠ '&' := by
  split at h
  · rename_i hc
    rcases hc with rfl | rfl <;> decide
  · have hlt : c.toNat < 128 := by
      rcases Bool.or_eq_true_iff.1 h with hspace | hrange
      · rw [of_decide_eq_true hspace]
        decide
      · have hle : c.toNat ≤ '\r'.toNat := UInt32.le_iff_toNat_le.1 (of_decide_eq_true (Bool.and_eq_true_iff.1 hrange).2)
        exact Nat.lt_of_le_of_lt hle (by decide)
    exact forall_ascii (p := fun c => isGap c = true → c.isDigit = false ∧ c ≠ '#' ∧ c ≠ '&') (by decide +kernel) hlt h

theorem slice_inParagraph (a t b : Text) :
    (⟨3 + a.length, 3 + a.length + t.length⟩ : Span).slice (inParagraph (a ++ (t ++ b))) = t := by
  change ((inParagraph (a ++ (t ++ b))).drop (3 + a.length)).take (3 + a.length + t.length - (3 + a.length)) = t
  rw [Nat.add_sub_cancel_left, ← List.drop_drop]
  change (((a ++ (t ++ b)) ++ ['<', '/', 'p', '>']).drop a.length).take t.length = t
  rw [List.append_assoc, List.drop_left, List.append_assoc, List.take_left]

/-- **The markup of a paragraph of plain text** holds one text at most, with the numbers of the whole. -/
theorem readMarkup?_inParagraph (s : Text) (hs : PlainText s) :
    ((∀ r, '&' :: r <:+ s → BeginsReference r) ∧ ∃ run : Option Span,
        readMarkup? (inParagraph s) = some ⟨[.element ⟨false, ['p'], ⟨0, (inParagraph s).length⟩, [], [], [], []⟩
          (run.toList.map fun r => .text (r.slice (inParagraph s)) r)], []⟩ ∧
        run.bind (fun r => Entity.longNumber? (r.slice (inParagraph s))) = Entity.longNumber? s) ∨
      (¬ (∀ r, '&' :: r <:+ s → BeginsReference r) ∧ readMarkup? (inParagraph s) = none) := by
  have hnul : (mask (inParagraph s)).contains '\x00' = false := by
    rw [Bool.eq_false_iff]
    intro h
    have hmem := (mask_blanks _).mem (List.contains_iff_mem.1 h) (by decide)
    simp [inParagraph, hs.noNul] at hmem
  have hlength : 3 + (debracket s).length + 1 + paragraphHead.printEnd.length = (inParagraph s).length := by
    simp [inParagraph, Head.printEnd, paragraphHead]
    omega
  have hread : readMarkup? (inParagraph s) =
      readFrom? (inParagraph s) (Growth.empty.push (inParagraph s) ⟨['p'], [], false⟩ 0) 3
        (debracket s ++ '<' :: (paragraphHead.printEnd ++ [])) := by
    unfold readMarkup?
    dsimp only
    rw [hnul, mask_inParagraph hs]
    have hadmits : Admits Growth.empty.keys (Text.lower paragraphHead.name) := fun _ hk => nomatch hk
    exact readFrom?_start paragraphHead_printable hadmits 0
  rw [hread, ← forall_reference_debracket]
  rcases readFrom?_plain (inParagraph s) (notMem_debracket s) (atTag_cons (paragraphHead.printEnd ++ []))
    (Growth.empty.push (inParagraph s) ⟨['p'], [], false⟩ 0) 3 with ⟨href, a, t, b, hsplit, hgaps, h⟩ | ⟨hbad, h⟩
  · have hrun : (Growth.empty.push (inParagraph s) ⟨['p'], [], false⟩ 0).textOf (3 + a.length) t =
        { Growth.empty.push (inParagraph s) ⟨['p'], [], false⟩ 0 with run := runOf (3 + a.length) t } := by
      unfold Growth.textOf runOf
      split <;> rfl
    refine .inl ⟨href, runOf (3 + a.length) t, ?_, ?_⟩
    · rw [h, hrun, readFrom?_end paragraphHead_printable rfl, hlength, close_paragraph, readFrom?_eq]
      rfl
    · obtain ⟨x, w, rfl, rfl, hw⟩ := List.map_eq_append_iff.1 hsplit
      obtain ⟨y, z, rfl, rfl, rfl⟩ := List.map_eq_append_iff.1 hw
      have hends : ∀ c ∈ x ++ z, c.isDigit = false ∧ c ≠ '#' ∧ c ≠ '&' := fun c hc => by
        refine notNumber_of_debracketed (hgaps _ ?_)
        rw [← List.map_append]
        exact List.mem_map_of_mem hc
      rw [Text.Entity.longNumber?_between hends, runOf]
      cases y with
      | nil => rfl
      | cons c y =>
        refine congrArg Entity.longNumber? ?_
        rw [List.length_map, List.length_map]
        exact slice_inParagraph x (c :: y) z
  · exact .inr ⟨fun hall => hbad.elim fun r hr => hr.2 (hall r hr.1), h⟩

/-- **Plain text is a syntax error just where an `&` begins no character reference**, and it is read unless one does or
begins a number that is too long; then the template holds one paragraph over its whole length, and that holds at most one
text. -/
theorem read?_inParagraph (s : Text) (hs : PlainText s) :
    (read (inParagraph s) = .error .markup ↔ ¬ ∀ r, '&' :: r <:+ s → BeginsReference r) ∧
      ((read? (inParagraph s)).isSome = true ↔
        ∀ r, '&' :: r <:+ s → BeginsReference r ∧ Entity.decimals r ≤ Text.mostDigits) ∧
      ∀ f, read? (inParagraph s) = some f → ∃ children : List Node, f = ⟨[.element
        ⟨false, ['p'], ⟨0, (inParagraph s).length⟩, [], [], [], []⟩ children], []⟩ ∧
          children.length ≤ 1 ∧ ∀ n ∈ children, n.isText = true := by
  have hboth : (∀ r, '&' :: r <:+ s → BeginsReference r ∧ Entity.decimals r ≤ Text.mostDigits) ↔
      (∀ r, '&' :: r <:+ s → BeginsReference r) ∧ Entity.longNumber? s = none := by
    rw [Text.Entity.longNumber?_eq_none_iff]
    exact forall₂_and
  rw [read_eq_markup_iff, hboth]
  rcases readMarkup?_inParagraph s hs with ⟨href, run, hread, hlong⟩ | ⟨hbad, hread⟩
  · have hnumbers : Forest.longNumber? ⟨[.element ⟨false, ['p'], ⟨0, (inParagraph s).length⟩, [], [], [], []⟩
        (run.toList.map fun r => .text (r.slice (inParagraph s)) r)], []⟩ = Entity.longNumber? s := by
      rw [← hlong]
      cases run <;> simp [Forest.longNumber?, literalsOf, Node.literals]
    refine ⟨iff_of_false (by rw [hread]; exact Option.some_ne_none _) (not_not.2 href), ?_, fun f hf => ?_⟩
    · rw [and_iff_right href, ← hnumbers, Option.isSome_iff_exists]
      constructor
      · rintro ⟨f, hf⟩
        obtain ⟨raw, hraw, hnone, -⟩ := read?_eq_some_iff.1 hf
        cases hread.symm.trans hraw
        exact hnone
      · exact fun hnone => ⟨_, read?_eq_some_iff.2 ⟨_, hread, hnone, rfl⟩⟩
    · obtain ⟨raw, hraw, -, rfl⟩ := read?_eq_some_iff.1 hf
      cases hread.symm.trans hraw
      refine ⟨convertAll id Entity.decode _, rfl, ?_⟩
      cases run <;> simp [convertAll, Node.convert, Node.isText]
  · have hnone : read? (inParagraph s) = none := by
      rw [Option.eq_none_iff_forall_ne_some]
      intro f hf
      obtain ⟨raw, hraw, -⟩ := read?_eq_some_iff.1 hf
      rw [hread] at hraw
      cases hraw
    rw [hread, hnone]
    exact ⟨iff_of_true rfl hbad, iff_of_false Bool.false_ne_true fun h => hbad h.1, fun f hf =>
      absurd hf.symm (Option.some_ne_none f)⟩

/-- Brackets, quotes, a brace and references between other characters. -/
theorem read?_inParagraph_marks :
    let s := "1 < 2 > '\"\x7b&lt;é&#x3c; <".toList
    PlainText s ∧ (read? (inParagraph s)).isSome = true ∧ ∀ f, read? (inParagraph s) = some f →
      ∃ children : List Node, f = ⟨[.element ⟨false, ['p'], ⟨0, (inParagraph s).length⟩, [], [], [], []⟩ children], []⟩ ∧
        children.length ≤ 1 ∧ ∀ n ∈ children, n.isText = true :=
  have hs : PlainText "1 < 2 > '\"\x7b&lt;é&#x3c; <".toList := by decide +kernel
  ⟨hs, by decide +kernel, (read?_inParagraph _ hs).2.2⟩

/-- **An `&` alone is a syntax error**, unlike a `<` or `>`. -/
theorem read?_inParagraph_ampersand : ¬ ∀ s, PlainText s → (read? (inParagraph s)).isSome = true := fun h =>
  absurd (h ['&'] (by decide +kernel)) (by decide +kernel)

end Template
end ViewAtlas
