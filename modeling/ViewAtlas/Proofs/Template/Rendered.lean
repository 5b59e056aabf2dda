import Mathlib.Data.List.TakeWhile
import ViewAtlas.Proofs.Template.Printing
/-!
# Masking what is printed

The markup of a printable forest keeps its tags when it is masked, and its values and texts are masked each as if it
stood alone (`mask_render`).
-/
namespace ViewAtlas
namespace Template

/-! ## The characters of names -/

theorem forall_ascii {p : Char → Prop} (h : ∀ n < 128, p (Char.ofNat n)) {c : Char} (hc : c.toNat < 128) : p c := by
  have := h c.toNat hc
  rwa [Char.ofNat_toNat] at this

/-- **A letter or digit is no mark of a template**: it separates nothing, and no expression begins with it. -/
theorem attributeNameChar_of_alphanumeric {c : Char} (h : Text.isAlphanumeric c = true) :
    isAttributeNameChar c = true ∧ c ≠ '\x00' ∧ c ≠ '{' ∧ c ≠ '@' := by
  by_cases hc : c.toNat < 128
  · refine forall_ascii (p := fun c => Text.isAlphanumeric c = true → isAttributeNameChar c = true ∧ c ≠ '\x00' ∧
      c ≠ '{' ∧ c ≠ '@') (by decide +kernel) hc h
  · have hne : ∀ d : Char, d.toNat < 128 → c ≠ d := fun d hd e => hc (e ▸ hd)
    have hgap : isGap c = false := by
      unfold isGap
      rw [Bool.or_eq_false_iff, decide_eq_false_iff_not, Bool.and_eq_false_iff]
      refine ⟨hne ' ' (by decide), .inr (decide_eq_false fun hle => hc ?_)⟩
      exact Nat.lt_of_le_of_lt (show c.toNat ≤ 13 from hle) (by decide)
    refine ⟨?_, hne _ (by decide), hne _ (by decide), hne _ (by decide)⟩
    simp [isAttributeNameChar, hgap, hne '<' (by decide), hne '>' (by decide), hne '"' (by decide),
      hne '\'' (by decide), hne '/' (by decide), hne '=' (by decide)]

theorem Slot.mem_spelled {n : Text} {c : Char} : ∀ {s : Slot}, c ∈ s.spelled n →
    c ∈ n ∨ c ∈ ['[', ']', '(', ')', '*']
  | .static, h => .inl h
  | .input, h | .output, h => by
    rcases List.mem_cons.1 h with rfl | h
    · exact .inr (by decide)
    · refine (List.mem_append.1 h).imp id fun h => ?_
      rw [List.mem_singleton.1 h]
      decide
  | .directive, h => (List.mem_cons.1 h).elim (fun e => .inr (by rw [e]; decide)) .inl

/-- **The spelling of a name** is made up of the characters of names, and no expression begins in it. -/
theorem Slot.Names.spelled {n : Text} : ∀ {s : Slot}, s.Names n →
    (∀ c ∈ s.spelled n, isAttributeNameChar c = true ∧ c ≠ '\x00') ∧ Inert (s.spelled n ++ ['='])
  | .static, ⟨_, hchars, _⟩ => by
    have hn : ∀ c ∈ n, isAttributeNameChar c = true ∧ c ≠ '\x00' ∧ c ≠ '{' ∧ c ≠ '@' := fun c hc => by
      have h := hchars c hc
      rw [Bool.or_eq_true, Bool.or_eq_true, decide_eq_true_eq, decide_eq_true_eq] at h
      rcases h with (rfl | rfl) | h
      · decide
      · decide
      · exact attributeNameChar_of_alphanumeric h
    refine ⟨fun c hc => ⟨(hn c hc).1, (hn c hc).2.1⟩, inert_of_notMem (fun h => ?_) fun h => ?_⟩
    · rcases List.mem_append.1 h with h | h
      · exact (hn _ h).2.2.1 rfl
      · exact absurd h (by decide)
    · rcases List.mem_append.1 h with h | h
      · exact (hn _ h).2.2.2 rfl
      · exact absurd h (by decide)
  | .input, ⟨hchars, hinert, _⟩ | .output, ⟨hchars, hinert, _⟩ | .directive, ⟨hchars, hinert, _⟩ => by
    refine ⟨fun c hc => ?_, hinert⟩
    rcases Slot.mem_spelled hc with hc | hc
    · exact hchars c hc
    · have hbrackets : ∀ c ∈ ['[', ']', '(', ')', '*'], isAttributeNameChar c = true ∧ c ≠ '\x00' :=
        Text.forall_mem_of_all (by decide)
      exact hbrackets c hc

theorem lt_of_isAlphanum {c : Char} (h : c.isAlphanum = true) : c.toNat < 128 := by
  have hle : ∀ n : UInt32, n.toNat < 128 → c.val ≤ n → c.toNat < 128 := fun n h1 h2 =>
    Nat.lt_of_le_of_lt (UInt32.le_iff_toNat_le.1 h2) h1
  unfold Char.isAlphanum Char.isAlpha Char.isUpper Char.isLower Char.isDigit at h
  rw [Bool.or_eq_true, Bool.or_eq_true] at h
  rcases h with (h | h) | h
  · exact hle 'Z'.val (by decide) (of_decide_eq_true h).2
  · exact hle 'z'.val (by decide) (of_decide_eq_true (Bool.and_eq_true_iff.1 h).2)
  · exact hle '9'.val (by decide) (of_decide_eq_true (Bool.and_eq_true_iff.1 h).2)

theorem isLetter_of_isAlpha {c : Char} (h : c.isAlpha = true) : Text.isLetter c = true ∧ c ≠ '!' := by
  have hc : c.isAlphanum = true := by rw [Char.isAlphanum, h, Bool.true_or]
  exact forall_ascii (p := fun c => c.isAlpha = true → Text.isLetter c = true ∧ c ≠ '!') (by decide +kernel)
    (lt_of_isAlphanum hc) h

theorem ElementName.char {name : Text} (h : ElementName name) {c : Char} (hc : c ∈ name) :
    isTagNameChar c = true ∧ isGap c = false ∧ c ∉ ['"', '\'', '>', '\x00', '{', '@'] := by
  rcases h.chars c hc with h | rfl
  · refine forall_ascii (p := fun c => c.isAlphanum = true → isTagNameChar c = true ∧ isGap c = false ∧
      c ∉ ['"', '\'', '>', '\x00', '{', '@']) (by decide +kernel) (lt_of_isAlphanum h) h
  · decide

/-! ## Expressions -/

/-- **A text at a tag**: one that is empty or begins with `<`. -/
def AtTag (x : Text) : Prop := ∀ c ∈ x.head?, c = '<'

theorem atTag_nil : AtTag [] := fun _ h => nomatch h

theorem atTag_cons (x : Text) : AtTag ('<' :: x) := fun _ h => (Option.some.inj h).symm

theorem AtTag.bounds {x : Text} (h : AtTag x) : Bounds x := fun c hc => .inr (h c hc)

theorem atTag_printAll {value text : Text → Text} {x : Text} (hx : AtTag x) : ∀ {l : List Node},
    l.head?.any Node.isText = false → AtTag (printAll value text l ++ x)
  | [], _ => hx
  | .text t r :: _, h => nomatch h
  | .element h children :: rest, _ => by
    rw [printAll, Node.print]
    exact atTag_cons _

theorem veil_attribute {s : Slot} {a : Attribute} (h : a.Printable s) (x : Text) :
    veil (a.print id s ++ x) = a.print veil s ++ veil x := by
  have hopen : Markup ([' '] ++ (s.spelled a.name ++ ['='] ++ ['"'])) :=
    (markup_of_notMem (by decide) (by decide)).append h.name.spelled.2.markup
  have hclose : Markup ['"'] := markup_of_notMem (by decide) (by decide)
  have hsplit : ∀ value : Text → Text, ∀ y, a.print value s ++ y =
      [' '] ++ (s.spelled a.name ++ ['='] ++ ['"']) ++ (value a.value ++ (['"'] ++ y)) := fun value y => by
    simp [Attribute.print]
  rw [hsplit, hsplit, hopen.veil_append, id, veil_sealed h.closed (x := ['"'] ++ x) (bounds_quote x),
    hclose.veil_append]

theorem veil_attributes {s : Slot} : ∀ {l : List Attribute}, (∀ a ∈ l, a.Printable s) → ∀ x,
    veil (printAttributes id s l ++ x) = printAttributes veil s l ++ veil x
  | [], _, _ => rfl
  | a :: l, h, x => by
    rw [printAttributes, printAttributes, List.flatMap_cons, List.flatMap_cons, List.append_assoc, List.append_assoc,
      veil_attribute (h a (List.mem_cons_self ..))]
    rw [← printAttributes, ← printAttributes, veil_attributes fun b hb => h b (List.mem_cons_of_mem _ hb)]

theorem ElementName.markup {name : Text} (h : ElementName name) : Markup name :=
  markup_of_notMem (fun hb => (h.char hb).2.2 (by decide)) fun ha => (h.char ha).2.2 (by decide)

theorem veil_head {h : Head} (hp : h.Printable) (x : Text) : veil (h.print id ++ x) = h.print veil ++ veil x := by
  have hclose : Markup ['>'] := markup_of_notMem (by decide) (by decide)
  unfold Head.print
  rw [List.append_assoc, List.append_assoc, List.append_assoc, List.append_assoc, List.append_assoc,
    hp.name.markup.veil_append, veil_attributes (l := h.attributes) (hp.attributes .static),
    veil_attributes (l := h.inputs) (hp.attributes .input), veil_attributes (l := h.outputs) (hp.attributes .output),
    veil_attributes (l := h.directives) (hp.attributes .directive), hclose.veil_append]
  simp only [List.append_assoc]

mutual

theorem veil_node : ∀ {n : Node}, n.Printable → ∀ {x : Text}, (n.isText = true → AtTag x) →
    veil (n.print id id ++ x) = n.print veil veil ++ veil x
  | .text t r, hp, x, hx => by
    rw [Node.Printable] at hp
    rw [Node.print, Node.print]
    exact veil_sealed hp.closed (hx rfl).bounds
  | .element h children, hp, x, hx => by
    rw [Node.Printable] at hp
    obtain ⟨hh, hc, -⟩ := hp
    have hless : Markup ['<'] := markup_of_notMem (by decide) (by decide)
    have hslash : Markup ['<', '/'] := markup_of_notMem (by decide) (by decide)
    have hmore : Markup ['>'] := markup_of_notMem (by decide) (by decide)
    have hsplit : ∀ value text : Text → Text, ∀ y, Node.print value text (.element h children) ++ y =
        ['<'] ++ (h.print value ++ (printAll value text children ++ (['<', '/'] ++ (h.name ++ (['>'] ++ y))))) :=
      fun value text y => by simp [Node.print, Head.printEnd]
    rw [hsplit, hsplit, hless.veil_append, veil_head hh, veil_all hc (x := ['<', '/'] ++ _) (atTag_cons _),
      hslash.veil_append, hh.name.markup.veil_append, hmore.veil_append]

/-- **In what is printed, every value and text is blanked out as if it stood alone.** -/
theorem veil_all : ∀ {l : List Node}, PrintableAll l → ∀ {x : Text}, AtTag x →
    veil (printAll id id l ++ x) = printAll veil veil l ++ veil x
  | [], _, _, _ => by
    rw [printAll, printAll]
    rfl
  | n :: rest, hp, x, hx => by
    rw [PrintableAll] at hp
    obtain ⟨hn, hrest, hnext⟩ := hp
    rw [printAll, printAll, List.append_assoc, List.append_assoc, veil_node hn fun ht => atTag_printAll hx (hnext ht),
      veil_all hrest hx]

end

/-! ## Brackets -/

theorem tagLength_pos (quote : Option Char) (c : Char) (s : Text) : 0 < tagLength quote (c :: s) := by
  unfold tagLength
  cases quote with
  | some q => exact Nat.lt_of_lt_of_le Nat.one_pos (Nat.le_add_right 1 _)
  | none =>
    dsimp only
    split
    · omega
    · split <;> omega

theorem markupLength_eq_zero_iff (low s : Text) :
    markupLength low s = 0 ↔ ∀ c ∈ s.head?, (Text.isLetter c || c = '/' || c = '!') = false := by
  cases s with
  | nil => exact ⟨fun _ c hc => (nomatch hc), fun _ => rfl⟩
  | cons c r =>
    by_cases hc : (Text.isLetter c || c = '/' || c = '!') = true
    · refine ⟨fun h => ?_, fun h => absurd (h c rfl) (by rw [hc]; decide)⟩
      have hpos := tagLength_pos none c r
      unfold markupLength at h
      split at h
      · omega
      · dsimp only at h
        rw [if_pos hc] at h
        split at h <;> omega
    · rw [Bool.not_eq_true] at hc
      refine ⟨fun _ d hd => Option.some.inj hd ▸ hc, fun _ => ?_⟩
      have hbang : c ≠ '!' := fun e => by
        rw [e] at hc
        exact absurd hc (by decide)
      have hafter : Text.after? "!--".toList (c :: r) = none := if_neg (Ne.symm hbang)
      unfold markupLength
      rw [hafter]
      dsimp only
      rw [hc]
      rfl

theorem maskBrackets_text {low s x : Text} (h : '<' ∉ maskBrackets low s) (hx : AtTag x) (low' : Text) :
    maskBrackets low' (s ++ x) = maskBrackets low s ++ maskBrackets (low'.drop s.length) x := by
  fun_induction maskBrackets low s generalizing low' with
  | case1 => rfl
  | case2 low r n ih =>
    have hn : n = 0 := by
      by_contra hn
      rw [if_neg hn] at h
      exact h (List.mem_append_left _ (List.mem_cons_self ..))
    -- The next character says whether a `<` opens markup; where `s` ends, it is another `<`.
    have hn' : markupLength (low'.drop 1) (r ++ x) = 0 := by
      rw [markupLength_eq_zero_iff]
      intro c hc
      cases r with
      | nil =>
        rw [hx c hc]
        decide
      | cons d r => exact (markupLength_eq_zero_iff _ _).1 hn c hc
    rw [hn] at ih h ⊢
    have hr : maskBrackets (low'.drop 1) (r ++ x) =
        maskBrackets (low.drop 1) r ++ maskBrackets ((low'.drop 1).drop r.length) x :=
      ih (fun hm => h (List.mem_append_right _ hm)) _
    rw [List.cons_append, maskBrackets, if_pos rfl, hn']
    change ' ' :: maskBrackets (low'.drop 1) (r ++ x) = ' ' :: maskBrackets (low.drop 1) r ++ _
    rw [hr, List.drop_drop, List.length_cons, Nat.add_comm 1]
    rfl
  | case3 low c r hc ih =>
    have hr := ih (fun hm => h (List.mem_cons_of_mem _ hm)) (low'.drop 1)
    rw [List.cons_append, maskBrackets, if_neg hc, hr, List.drop_drop, List.length_cons, Nat.add_comm 1]
    rfl

theorem maskBrackets_tag {tag x low : Text} (hne : tag ≠ []) (hn : markupLength (low.drop 1) (tag ++ x) = tag.length) :
    maskBrackets low ('<' :: (tag ++ x)) = '<' :: tag ++ maskBrackets (low.drop (1 + tag.length)) x := by
  rw [maskBrackets, if_pos rfl, hn]
  dsimp only
  rw [if_neg (fun h => hne (List.eq_nil_of_length_eq_zero h)), List.take_left, List.drop_left]

/-! ## Lengths of tags -/

theorem tagLength_plain (x : Text) : ∀ {s : Text}, (∀ c ∈ s, c ∉ ['"', '\'', '>']) →
    tagLength none (s ++ x) = s.length + tagLength none x
  | [], _ => (Nat.zero_add _).symm
  | c :: s, h => by
    have hc := h c (List.mem_cons_self ..)
    have hquote : ¬ (c = '\'' ∨ c = '"') := by
      rintro (rfl | rfl)
      · exact hc (by decide)
      · exact hc (by decide)
    have hmore : c ≠ '>' := by
      rintro rfl
      exact hc (by decide)
    rw [List.cons_append, tagLength]
    rw [if_neg hquote, if_neg hmore, tagLength_plain x fun d hd => h d (List.mem_cons_of_mem _ hd), List.length_cons]
    omega

theorem tagLength_quoted {q : Char} (x : Text) : ∀ {v : Text}, q ∉ v →
    tagLength (some q) (v ++ q :: x) = v.length + 1 + tagLength none x
  | [], _ => by
    rw [List.nil_append, tagLength]
    rw [if_pos rfl, List.length_nil]
  | c :: v, h => by
    have hc : c ≠ q := fun e => h (e ▸ List.mem_cons_self ..)
    rw [List.cons_append, tagLength]
    rw [if_neg hc, tagLength_quoted x fun hm => h (List.mem_cons_of_mem _ hm), List.length_cons]
    omega

theorem tagLength_attribute {s : Slot} {a : Attribute} (h : a.Printable s) (x : Text) :
    tagLength none (a.print veil s ++ x) = (a.print veil s).length + tagLength none x := by
  have hopen : ∀ c ∈ [' '] ++ (s.spelled a.name ++ ['=']), c ∉ ['"', '\'', '>'] := by
    intro c hc
    rcases List.mem_append.1 hc with hc | hc
    · rw [List.mem_singleton.1 hc]
      decide
    · rcases List.mem_append.1 hc with hc | hc
      · intro hm
        have hquotes : ∀ c ∈ ['"', '\'', '>'], isAttributeNameChar c = false := Text.forall_mem_of_all (by decide)
        have hname := (h.name.spelled.1 c hc).1
        rw [hquotes c hm] at hname
        cases hname
      · rw [List.mem_singleton.1 hc]
        decide
  have hsplit : a.print veil s ++ x = [' '] ++ (s.spelled a.name ++ ['=']) ++ '"' :: (veil a.value ++ '"' :: x) := by
    simp [Attribute.print]
  have hlength : (a.print veil s).length = (s.spelled a.name).length + (veil a.value).length + 4 := by
    simp [Attribute.print]
    omega
  rw [hsplit, tagLength_plain _ hopen, tagLength]
  rw [if_pos (.inr rfl), tagLength_quoted x h.quotes, hlength]
  simp only [List.length_append, List.length_cons, List.length_nil]
  omega

theorem tagLength_attributes {s : Slot} (x : Text) : ∀ {l : List Attribute}, (∀ a ∈ l, a.Printable s) →
    tagLength none (printAttributes veil s l ++ x) = (printAttributes veil s l).length + tagLength none x
  | [], _ => (Nat.zero_add _).symm
  | a :: l, h => by
    have hrest := tagLength_attributes x fun b hb => h b (List.mem_cons_of_mem _ hb)
    rw [printAttributes, List.flatMap_cons, ← printAttributes, List.append_assoc,
      tagLength_attribute (h a (List.mem_cons_self ..)), hrest, List.length_append, Nat.add_assoc]

theorem ElementName.tagLength {name : Text} (h : ElementName name) (x : Text) :
    tagLength none (name ++ x) = name.length + tagLength none x :=
  tagLength_plain x fun _ hc hm => (h.char hc).2.2 (List.mem_of_mem_take (i := 3) hm)

theorem tagLength_head {h : Head} (hp : h.Printable) (x : Text) :
    tagLength none (h.print veil ++ x) = (h.print veil).length := by
  unfold Head.print
  rw [List.append_assoc, List.append_assoc, List.append_assoc, List.append_assoc, List.append_assoc, hp.name.tagLength,
    tagLength_attributes (l := h.attributes) _ (hp.attributes .static),
    tagLength_attributes (l := h.inputs) _ (hp.attributes .input),
    tagLength_attributes (l := h.outputs) _ (hp.attributes .output),
    tagLength_attributes (l := h.directives) _ (hp.attributes .directive)]
  simp only [List.length_append, List.length_cons, List.length_nil]
  change _ + (_ + (_ + (_ + (_ + 1)))) = _
  omega

/-! ## Masking -/

theorem head?_printAttributes (value : Text → Text) (s : Slot) {x : Text} (hx : ∀ c ∈ x.head?, c = ' ' ∨ c = '>') :
    ∀ l : List Attribute, ∀ c ∈ (printAttributes value s l ++ x).head?, c = ' ' ∨ c = '>'
  | [], c, hc => hx c hc
  | _ :: _, _, hc => .inl (Option.some.inj hc).symm

theorem Head.print_eq (value : Text → Text) (h : Head) (x : Text) :
    ∃ r, h.print value ++ x = h.name ++ r ∧ ∀ c ∈ r.head?, c = ' ' ∨ c = '>' := by
  have hend : ∀ c ∈ (['>'] ++ x).head?, c = ' ' ∨ c = '>' := fun c hc => .inr (Option.some.inj hc).symm
  have h1 := head?_printAttributes value .directive hend h.directives
  have h2 := head?_printAttributes value .output h1 h.outputs
  have h3 := head?_printAttributes value .input h2 h.inputs
  have h4 := head?_printAttributes value .static h3 h.attributes
  refine ⟨_, ?_, h4⟩
  unfold Head.print
  simp only [List.append_assoc]

theorem ElementName.eq_cons {name : Text} (h : ElementName name) : ∃ c r, name = c :: r ∧ c.isAlpha = true := by
  have hs := h.starts
  cases name with
  | nil => cases hs
  | cons c r => exact ⟨c, r, rfl, hs⟩

theorem ElementName.takeWhile {name : Text} (h : ElementName name) {p : Char → Bool}
    (hp : ∀ c, isTagNameChar c = true → p c = true) {x : Text} (hx : ∀ c ∈ x.head?, p c = false) :
    (name ++ x).takeWhile p = name := by
  rw [Text.takeWhile_append_of_head hx]
  exact List.takeWhile_eq_self_iff.2 fun c hc => hp c (h.char hc).1

theorem rawTextName?_head {h : Head} (hp : h.Printable) (x : Text) : rawTextName? (h.print veil ++ x) = none := by
  obtain ⟨r, hr, hhead⟩ := h.print_eq veil x
  obtain ⟨c, n, hn, -⟩ := hp.name.eq_cons
  have hword : (h.name ++ r).takeWhile (fun c => c = ':' || c = '-' || Text.isWordChar c) = h.name := by
    refine hp.name.takeWhile (fun c hc => ?_) fun c hc => ?_
    · unfold isTagNameChar at hc
      unfold Text.isWordChar
      simp only [Bool.or_eq_true] at hc ⊢
      rcases hc with (hc | hc) | hc
      · exact .inl (.inr hc)
      · exact .inl (.inl hc)
      · exact .inr (.inr hc)
    · rcases hhead c hc with rfl | rfl <;> decide
  rw [hr]
  rw [hn, List.cons_append] at hword ⊢
  unfold rawTextName?
  dsimp only
  rw [hword, ← hn, hp.name.notRaw, Bool.and_false]
  rfl

theorem markupLength_head {h : Head} (hp : h.Printable) (low x : Text) :
    markupLength low (h.print veil ++ x) = (h.print veil).length := by
  obtain ⟨r, hr, -⟩ := h.print_eq veil x
  obtain ⟨c, n, hn, halpha⟩ := hp.name.eq_cons
  have hraw := rawTextName?_head hp x
  have hlength := tagLength_head hp x
  have hletter := isLetter_of_isAlpha halpha
  have hafter : Text.after? "!--".toList (c :: (n ++ r)) = none := if_neg (Ne.symm hletter.2)
  rw [hr, hn, List.cons_append] at hraw hlength ⊢
  unfold markupLength
  rw [hafter]
  dsimp only
  rw [hletter.1, hraw, hlength]
  rfl

theorem markupLength_end {h : Head} (hp : h.Printable) (low x : Text) :
    markupLength low (h.printEnd ++ x) = h.printEnd.length := by
  have hslash : ∀ c ∈ ['/'], c ∉ ['"', '\'', '>'] := Text.forall_mem_of_all (by decide)
  have hlength : tagLength none (['/'] ++ (h.name ++ '>' :: x)) = h.printEnd.length := by
    rw [tagLength_plain _ hslash, hp.name.tagLength, tagLength]
    simp [Head.printEnd, Nat.add_comm]
  rw [h.printEnd_append]
  exact hlength

mutual

theorem maskBrackets_node : ∀ {n : Node}, n.Printable → ∀ {x : Text}, (n.isText = true → AtTag x) → ∀ low,
    ∃ low', maskBrackets low (n.print veil veil ++ x) = n.print veil mask ++ maskBrackets low' x
  | .text t r, hp, x, hx, low => by
    rw [Node.Printable] at hp
    rw [Node.print, Node.print]
    exact ⟨_, maskBrackets_text hp.markup (hx rfl) low⟩
  | .element h children, hp, x, hx, low => by
    rw [Node.Printable] at hp
    obtain ⟨hh, hc, -⟩ := hp
    have hstart : h.print veil ≠ [] := by simp [Head.print]
    have hend : h.printEnd ≠ [] := by simp [Head.printEnd]
    obtain ⟨low', h'⟩ := maskBrackets_all hc (atTag_cons (h.printEnd ++ x)) (low.drop (1 + (h.print veil).length))
    refine ⟨low'.drop (1 + h.printEnd.length), ?_⟩
    rw [Node.print_append, Node.print_append, maskBrackets_tag hstart (markupLength_head hh _ _), h',
      maskBrackets_tag hend (markupLength_end hh _ _)]
    simp only [List.cons_append]

theorem maskBrackets_all : ∀ {l : List Node}, PrintableAll l → ∀ {x : Text}, AtTag x → ∀ low,
    ∃ low', maskBrackets low (printAll veil veil l ++ x) = printAll veil mask l ++ maskBrackets low' x
  | [], _, _, _, low => by
    rw [printAll, printAll]
    exact ⟨low, rfl⟩
  | n :: rest, hp, x, hx, low => by
    rw [PrintableAll] at hp
    obtain ⟨hn, hrest, hnext⟩ := hp
    obtain ⟨low₁, h₁⟩ := maskBrackets_node hn (fun ht => atTag_printAll hx (hnext ht)) low
    obtain ⟨low₂, h₂⟩ := maskBrackets_all hrest hx low₁
    refine ⟨low₂, ?_⟩
    rw [printAll, printAll, List.append_assoc, List.append_assoc, h₁, h₂]

end

/-- **What is printed is masked value by value and text by text.** -/
theorem mask_render {forest : List Node} (h : PrintableAll forest) :
    mask (render forest) = printAll veil mask forest := by
  have hveil : veil (printAll id id forest) = printAll veil veil forest := by
    have := veil_all h atTag_nil
    rwa [List.append_nil, show veil [] = [] from rfl, List.append_nil] at this
  change maskBrackets (Text.lower (veil (render forest))) (veil (render forest)) = _
  rw [render, hveil]
  obtain ⟨low, hmask⟩ := maskBrackets_all h atTag_nil (Text.lower (printAll veil veil forest))
  rw [List.append_nil, maskBrackets, List.append_nil] at hmask
  exact hmask

end Template
end ViewAtlas
