import ViewAtlas.Proofs.Template.Masking
import ViewAtlas.Proofs.Template.Rendered
/-!
# Reading printed tags

The start tag of a printable element is read back attribute by attribute, each where it was printed
(`readStartTag?_print`), and the element that it opens is the printed one at its place (`head_print`).
-/
namespace ViewAtlas
namespace Template

/-! ## Places in a template -/

/-- **A text that stands at an offset of a template.** -/
def StandsAt (template : Text) (pos : Nat) (s : Text) : Prop := s <+: template.drop pos

namespace StandsAt

variable {template a b s : Text} {pos : Nat}

theorem left (h : StandsAt template pos (a ++ b)) : StandsAt template pos a := (List.prefix_append a b).trans h

theorem right (h : StandsAt template pos (a ++ b)) : StandsAt template (pos + a.length) b := by
  obtain ⟨r, hr⟩ := h
  refine ⟨r, ?_⟩
  rw [← List.drop_drop, ← hr, List.append_assoc, List.drop_left]

theorem slice (h : StandsAt template pos s) : (⟨pos, pos + s.length⟩ : Span).slice template = s := by
  obtain ⟨r, hr⟩ := h
  change (template.drop pos).take (pos + s.length - pos) = s
  rw [← hr, Nat.add_sub_cancel_left, List.take_left]

end StandsAt

/-! ## Bindings -/

def Slot.binding : Slot → Text → Binding
  | static, _ => .static
  | input, n => .input n
  | output, n => .output n
  | directive, n => .directive n

theorem between?_append (opening closing name : Text) :
    between? opening closing (opening ++ (name ++ closing)) = some name := by
  have hopen : opening.isPrefixOf (opening ++ (name ++ closing)) = true :=
    List.isPrefixOf_iff_prefix.2 (List.prefix_append ..)
  have hclose : closing.isSuffixOf (opening ++ (name ++ closing)) = true := by
    rw [List.isSuffixOf_iff_suffix, ← List.append_assoc]
    exact List.suffix_append ..
  have hlength : (opening ++ (name ++ closing)).length - opening.length - closing.length = name.length := by
    simp only [List.length_append]
    omega
  unfold between?
  rw [hopen, hclose, hlength, List.drop_left, List.take_left]
  rfl

theorem between?_eq_none {opening closing name : Text} (h : ¬ (opening <+: name ∧ closing <:+ name)) :
    between? opening closing name = none := by
  unfold between?
  rw [if_neg]
  rw [Bool.and_eq_true, List.isPrefixOf_iff_prefix, List.isSuffixOf_iff_suffix]
  exact h

theorem after?_eq_none {p s : Text} (h : ¬ p <+: s) : Text.after? p s = none := by
  cases hs : Text.after? p s with
  | none => rfl
  | some r => exact absurd ⟨r, (Text.eq_append_of_after? hs).symm⟩ h

theorem not_prefix_cons {c d : Char} (h : d ≠ c) (p s : Text) : ¬ d :: p <+: c :: s := fun hp =>
  h (List.cons_prefix_cons.1 hp).1

theorem ofName_spelled {n : Text} : ∀ {s : Slot}, s.Names n → Binding.ofName (s.spelled n) = s.binding n
  | .static, ⟨_, hchars, hstarts⟩ => by
    have hafter : ∀ p ∈ bindingStarts, Text.after? p n = none := fun p hp => after?_eq_none (hstarts p hp)
    have hmark : ∀ d ∈ ['[', '(', '*', '#'], ∀ p, ¬ d :: p <+: n := by
      intro d hd p hp
      have hplain : ∀ d ∈ ['[', '(', '*', '#'], (d = '.' || d = '-' || Text.isAlphanumeric d) = false :=
        Text.forall_mem_of_all (by decide)
      have hn := hchars d (hp.subset (List.mem_cons_self ..))
      rw [hplain d hd] at hn
      cases hn
    have h1 : between? "[(".toList ")]".toList n = none := between?_eq_none fun h => hmark '[' (by decide) _ h.1
    have h2 : between? ['['] [']'] n = none := between?_eq_none fun h => hmark '[' (by decide) _ h.1
    have h3 : between? ['('] [')'] n = none := between?_eq_none fun h => hmark '(' (by decide) _ h.1
    have h4 : Text.after? "*".toList n = none := after?_eq_none (hmark '*' (by decide) _)
    have h5 : Text.after? "#".toList n = none := after?_eq_none (hmark '#' (by decide) _)
    unfold Binding.ofName Slot.spelled Slot.binding
    dsimp only
    rw [h1, h2, h3, h4, h5, hafter "bindon-".toList (by decide), hafter "bind-".toList (by decide),
      hafter "on-".toList (by decide), hafter "ref-".toList (by decide), hafter "let-".toList (by decide)]
    rfl
  | .input, ⟨_, _, htwo⟩ => by
    have h1 : between? "[(".toList ")]".toList ('[' :: n ++ [']']) = none := by
      refine between?_eq_none fun ⟨hopen, hclose⟩ => htwo ⟨rfl, ?_, ?_⟩
      · have hopen' : ['('] <+: n ++ [']'] := (List.cons_prefix_cons.1 hopen).2
        cases n with
        | nil => exact absurd (List.cons_prefix_cons.1 hopen').1 (by decide)
        | cons c n => rw [← (List.cons_prefix_cons.1 hopen').1, List.head?_cons]
      · obtain ⟨r, hr⟩ : [')'] <:+ '[' :: n :=
          List.suffix_append_self_iff.1 (show [')'] ++ [']'] <:+ '[' :: n ++ [']'] from hclose)
        cases r with
        | nil => cases hr
        | cons c r =>
          rw [← (List.cons.inj hr).2]
          exact List.getLast?_concat ..
    have h2 : between? ['['] [']'] ('[' :: n ++ [']']) = some n := between?_append ['['] [']'] n
    unfold Binding.ofName Slot.spelled Slot.binding
    dsimp only
    rw [h1, h2]
    rfl
  | .output, _ => by
    have h1 : between? "[(".toList ")]".toList ('(' :: n ++ [')']) = none :=
      between?_eq_none fun h => not_prefix_cons (by decide) _ _ h.1
    have h2 : between? ['['] [']'] ('(' :: n ++ [')']) = none :=
      between?_eq_none fun h => not_prefix_cons (by decide) _ _ h.1
    have h3 : between? ['('] [')'] ('(' :: n ++ [')']) = some n := between?_append ['('] [')'] n
    unfold Binding.ofName Slot.spelled Slot.binding
    dsimp only
    rw [h1, h2, h3]
    rfl
  | .directive, _ => rfl

/-! ## Attributes -/

/-- The attribute that is read where one is printed. -/
def Attribute.writtenAt (s : Slot) (pos : Nat) (a : Attribute) : WrittenAttribute where
  name := s.spelled a.name
  value :=
    let start := pos + 1 + (s.spelled a.name).length + 2
    ⟨start, start + a.value.length⟩
  span := ⟨pos + 1, pos + (a.print id s).length⟩

def writtenFrom (s : Slot) (pos : Nat) : List Attribute → List WrittenAttribute
  | [] => []
  | a :: rest => a.writtenAt s pos :: writtenFrom s (pos + (a.print id s).length) rest

theorem length_veil (s : Text) : (veil s).length = s.length := (blankOut_blanks _ s).length_eq

theorem Attribute.length_print_veil (s : Slot) (a : Attribute) : (a.print veil s).length = (a.print id s).length := by
  simp [Attribute.print, length_veil]

theorem Slot.Names.eq_cons {n : Text} {s : Slot} (h : s.Names n) :
    ∃ c r, s.spelled n = c :: r ∧ isAttributeNameChar c = true := by
  have hchars := h.spelled.1
  cases hs : s.spelled n with
  | nil =>
    cases s with
    | static => exact absurd hs h.1
    | input | output | directive => cases hs
  | cons c r => exact ⟨c, r, rfl, (hchars c (hs ▸ List.mem_cons_self ..)).1⟩

theorem readValue?_quoted {v : Text} (h : '"' ∉ v) (hcomment : opensComment v = false) (pos : Nat) (x : Text) :
    readValue? pos ('"' :: (v ++ '"' :: x)) = some (⟨pos + 1, pos + 1 + v.length⟩, pos + v.length + 2, x) := by
  have hnone : commentsLength (v ++ '"' :: x) = 0 := commentsLength_eq_zero <| by
    rwa [opensComment_append fun c hc => by rw [← Option.some.inj hc]; decide]
  have hbody : (v ++ '"' :: x).takeWhile (· ≠ '"') = v := by
    rw [Text.takeWhile_append_of_head (fun c hc => by rw [← Option.some.inj hc]; decide)]
    exact List.takeWhile_eq_self_iff.2 fun c hc => decide_eq_true fun e => h (e ▸ hc)
  unfold readValue?
  dsimp only
  rw [if_pos (.inl rfl), hnone, List.drop_zero, hbody, Nat.zero_add, List.drop_left]
  simp only [Nat.add_zero, ite_self]

theorem readAttribute?_quoted {n t rest : Text} {pos after : Nat} {r : Span} (hn : ∀ c ∈ n, isAttributeNameChar c = true)
    (hvalue : readValue? (pos + n.length + 1) ('"' :: t) = some (r, after, rest)) :
    readAttribute? pos (n ++ '=' :: '"' :: t) = some (⟨n, r, ⟨pos, after⟩⟩, after, rest) := by
  have hname : (n ++ '=' :: '"' :: t).takeWhile isAttributeNameChar = n := by
    rw [Text.takeWhile_append_of_head (fun c hc => by rw [← Option.some.inj hc]; decide)]
    exact List.takeWhile_eq_self_iff.2 hn
  have hbefore : fillerLength ('=' :: '"' :: t) = 0 := fillerLength_cons (by decide) (by decide) _
  have hbehind : fillerLength ('"' :: t) = 0 := fillerLength_cons (by decide) (by decide) _
  unfold readAttribute?
  dsimp only
  rw [hname, List.drop_left, hbefore, List.drop_zero]
  simp only [hbehind, List.drop_zero, Nat.add_zero, hvalue]

theorem readAttribute?_print {s : Slot} {a : Attribute} (h : a.Printable s) (pos : Nat) (x : Text) :
    readAttribute? (pos + 1) (s.spelled a.name ++ '=' :: '"' :: (veil a.value ++ '"' :: x)) =
      some (a.writtenAt s pos, pos + (a.print id s).length, x) := by
  have hlength : (a.print id s).length = (s.spelled a.name).length + a.value.length + 4 := by
    simp [Attribute.print]
    omega
  have hvalue := readValue?_quoted h.quotes h.comment (pos + 1 + (s.spelled a.name).length + 1) x
  rw [length_veil] at hvalue
  rw [readAttribute?_quoted (fun c hc => (h.name.spelled.1 c hc).1) hvalue]
  unfold Attribute.writtenAt
  dsimp only
  rw [hlength, show pos + 1 + (s.spelled a.name).length + 1 + a.value.length + 2 =
    pos + ((s.spelled a.name).length + a.value.length + 4) by omega]

theorem gap_of_attributeNameChar {c : Char} (hc : isAttributeNameChar c = true) : isGap c = false ∧ c ≠ '<' := by
  refine ⟨?_, fun e => absurd (e ▸ hc) (by decide)⟩
  unfold isAttributeNameChar at hc
  rw [Bool.not_eq_true', Bool.or_eq_false_iff] at hc
  exact hc.1

theorem readAttributes?_eq (pos : Nat) (s : Text) : readAttributes? pos s =
    let start := pos + fillerLength s
    let rest := s.drop (fillerLength s)
    rest.head?.bind fun c =>
      if c = '>' then some ([], false, start + 1, rest.tail)
      else if c = '/' ∧ rest.tail.head? = some '>' then some ([], true, start + 2, rest.tail.tail)
      else if isAttributeNameChar c then
        (readAttribute? start rest).bind fun r => (readAttributes? r.2.1 r.2.2).map fun m => (r.1 :: m.1, m.2)
      else none := by
  rw [readAttributes?.eq_def]
  dsimp only
  split
  · rename_i heq
    simp [heq]
  · rename_i heq
    simp [heq]
  · rename_i c t hmore hslash heq
    have hslash' : ¬ (c = '/' ∧ t.head? = some '>') := fun h =>
      hslash t.tail h.1 (List.cons_head?_tail h.2).symm
    rw [heq, List.head?_cons, Option.bind_some, List.tail_cons, if_neg hmore, if_neg hslash']
    split
    · split
      · rename_i ha
        rw [ha]
        rfl
      · rename_i ha
        rw [ha, Option.bind_some]
        split
        · rename_i hm
          rw [hm]
          rfl
        · rename_i hm
          rw [hm]
          rfl
    · rfl
  · rename_i heq
    rw [heq]
    rfl

/-- What is passed over before a token of a tag says nothing. -/
theorem readAttributes?_filler {filler s : Text} {c : Char} (hfiller : fillerLength (filler ++ c :: s) = filler.length)
    (hc : isGap c = false) (hopen : c ≠ '<') (pos : Nat) :
    readAttributes? pos (filler ++ c :: s) = readAttributes? (pos + filler.length) (c :: s) := by
  rw [readAttributes?_eq, readAttributes?_eq (pos + filler.length), hfiller, fillerLength_cons hc hopen, List.drop_left,
    List.drop_zero]
  rfl

theorem readAttributes?_attribute {pos stop : Nat} {t rest : Text} {c : Char} {a : WrittenAttribute}
    (hc : isAttributeNameChar c = true) (ha : readAttribute? pos (c :: t) = some (a, stop, rest)) :
    readAttributes? pos (c :: t) = (readAttributes? stop rest).map fun r => (a :: r.1, r.2) := by
  have hne : ∀ d, isAttributeNameChar d = false → c ≠ d := fun d hd e => by
    rw [e, hd] at hc
    cases hc
  obtain ⟨hgap, hopen⟩ := gap_of_attributeNameChar hc
  rw [readAttributes?_eq, fillerLength_cons hgap hopen]
  dsimp only
  rw [List.drop_zero, List.head?_cons, Option.bind_some, if_neg (hne '>' (by decide)),
    if_neg fun h => hne '/' (by decide) h.1, if_pos hc, Nat.add_zero, ha, Option.bind_some]

theorem readAttributes?_more (pos : Nat) (x : Text) :
    readAttributes? pos ('>' :: x) = some ([], false, pos + 1, x) := by
  rw [readAttributes?_eq, fillerLength_cons (by decide) (by decide)]
  rfl

theorem readAttributes?_slash (pos : Nat) (x : Text) :
    readAttributes? pos ('/' :: '>' :: x) = some ([], true, pos + 2, x) := by
  rw [readAttributes?_eq, fillerLength_cons (by decide) (by decide)]
  rfl

theorem readAttributes?_print {s : Slot} (x : Text) : ∀ {l : List Attribute}, (∀ a ∈ l, a.Printable s) → ∀ pos,
    readAttributes? pos (printAttributes veil s l ++ x) =
      (readAttributes? (pos + (printAttributes id s l).length) x).map fun r => (writtenFrom s pos l ++ r.1, r.2)
  | [], _, pos => by
    change readAttributes? pos x = (readAttributes? pos x).map _
    cases readAttributes? pos x <;> rfl
  | a :: l, h, pos => by
    have ha := h a (List.mem_cons_self ..)
    obtain ⟨c, r, hname, hc⟩ := ha.name.eq_cons
    have hread := readAttribute?_print ha pos (printAttributes veil s l ++ x)
    have hsplit : printAttributes veil s (a :: l) ++ x = [' '] ++
        (s.spelled a.name ++ '=' :: '"' :: (veil a.value ++ '"' :: (printAttributes veil s l ++ x))) := by
      simp [printAttributes, Attribute.print]
    have hlength : (printAttributes id s (a :: l)).length =
        (a.print id s).length + (printAttributes id s l).length := by
      rw [printAttributes, List.flatMap_cons, List.length_append]
      rfl
    rw [hname, List.cons_append] at hread
    have hgap : ∀ d ∈ [' '], isGap d = true := Text.forall_mem_of_all (by decide)
    have hchar := gap_of_attributeNameChar hc
    rw [hsplit, hname]
    refine (readAttributes?_filler (fillerLength_gap hgap hchar.1 hchar.2) hchar.1 hchar.2 pos).trans ?_
    refine (readAttributes?_attribute hc hread).trans ?_
    rw [readAttributes?_print x (fun b hb => h b (List.mem_cons_of_mem _ hb)), hlength, Nat.add_assoc, Option.map_map]
    rfl

/-! ## Start tags -/

def Head.written (h : Head) (pos : Nat) : List WrittenAttribute :=
  writtenFrom .static (h.offset pos .static) h.attributes ++ writtenFrom .input (h.offset pos .input) h.inputs ++
    writtenFrom .output (h.offset pos .output) h.outputs ++
    writtenFrom .directive (h.offset pos .directive) h.directives

theorem readStartTag?_print {h : Head} (hp : h.Printable) (pos : Nat) (x : Text) :
    readStartTag? pos (h.print veil ++ x) = some (⟨h.name, h.written pos, false⟩, pos + (h.print id).length, x) := by
  obtain ⟨r, hr, hhead⟩ := h.print_eq veil x
  obtain ⟨c, n, hn, -⟩ := hp.name.eq_cons
  have hname : (h.name ++ r).takeWhile isTagNameChar = h.name :=
    hp.name.takeWhile (fun _ hc => hc) fun c hc => by rcases hhead c hc with rfl | rfl <;> decide
  have hne : h.name ≠ [] := by
    rw [hn]
    exact List.cons_ne_nil c n
  have hattributes : readAttributes? (pos + h.name.length) r =
      some (h.written pos, false, pos + (h.print id).length, x) := by
    have hsplit : h.print veil ++ x = h.name ++ (printAttributes veil .static h.attributes ++
        (printAttributes veil .input h.inputs ++ (printAttributes veil .output h.outputs ++
          (printAttributes veil .directive h.directives ++ '>' :: x)))) := by simp [Head.print]
    rw [List.append_cancel_left (hr.symm.trans hsplit),
      readAttributes?_print (l := h.attributes) _ (hp.attributes .static),
      readAttributes?_print (l := h.inputs) _ (hp.attributes .input),
      readAttributes?_print (l := h.outputs) _ (hp.attributes .output),
      readAttributes?_print (l := h.directives) _ (hp.attributes .directive), readAttributes?_more]
    have hstop : pos + (h.print id).length = h.offset pos .directive +
        (printAttributes id .directive h.directives).length + 1 := by
      simp only [Head.print, Head.offset, List.length_append, List.length_cons, List.length_nil]
      omega
    rw [hstop]
    unfold Head.written
    simp only [Option.map_some, Head.offset, List.append_nil, List.append_assoc, List.length_append, Nat.add_assoc]
  rw [hr]
  unfold readStartTag?
  dsimp only
  rw [hname, if_neg hne, List.drop_left, hattributes]

theorem StandsAt.value {template : Text} {s : Slot} {a : Attribute} {pos : Nat}
    (h : StandsAt template pos (a.print id s)) : (a.writtenAt s pos).value.slice template = a.value := by
  have hsplit : a.print id s = ' ' :: (s.spelled a.name ++ ['=', '"']) ++ (a.value ++ ['"']) := by
    simp [Attribute.print]
  rw [hsplit] at h
  have hslice := h.right.left.slice
  rw [List.length_cons, List.length_append, List.length_cons, List.length_cons, List.length_nil,
    show pos + ((s.spelled a.name).length + (0 + 1 + 1) + 1) = pos + 1 + (s.spelled a.name).length + 2 by omega]
    at hslice
  exact hslice

theorem StandsAt.list {template : Text} {h : Head} {pos : Nat} (hat : StandsAt template pos (h.print id)) :
    ∀ s, StandsAt template (h.offset pos s) (printAttributes id s (h.list s))
  | .static => by
    have hlist := hat.left.left.left.left.right
    rwa [← List.append_nil h.name] at hlist
  | .input => hat.left.left.left.right
  | .output => by
    have hlist := hat.left.left.right
    rwa [List.append_assoc] at hlist
  | .directive => by
    have hlist := hat.left.right
    rwa [List.append_assoc, List.append_assoc, ← List.append_assoc (printAttributes _ _ _)] at hlist

theorem StandsAt.inside {template : Text} {h : Head} {children : List Node} {pos : Nat}
    (hat : StandsAt template pos (Node.print id id (.element h children))) :
    StandsAt template (pos + 1) (h.print id ++ (printAll id id children ++ '<' :: h.printEnd)) := by
  have hsplit := Node.print_append id id h children []
  rw [List.append_nil, List.append_nil] at hsplit
  rw [hsplit] at hat
  exact StandsAt.right (a := ['<']) hat

def Head.extend (h : Head) (l : List Attribute) : Slot → Head
  | .static => { h with attributes := h.attributes ++ l }
  | .input => { h with inputs := h.inputs ++ l }
  | .output => { h with outputs := h.outputs ++ l }
  | .directive => { h with directives := h.directives ++ l }

theorem Head.extend_extend (h : Head) (l m : List Attribute) (s : Slot) :
    (h.extend l s).extend m s = h.extend (l ++ m) s := by
  cases s <;> simp [Head.extend]

/-- **An attribute that is read where it was printed** goes into its list as it was, with its span. -/
theorem bind_writtenAt {template : Text} {s : Slot} {a : Attribute} {pos : Nat} (h : a.Printable s)
    (hat : StandsAt template pos (a.print id s)) (g : Head) :
    g.bind template (a.writtenAt s pos) = g.extend [{ a with span := a.spanAt s pos }] s := by
  have hvalue : (a.writtenAt s pos).value.slice template = a.value := hat.value
  have hname : Binding.ofName (a.writtenAt s pos).name = s.binding a.name := ofName_spelled h.name
  unfold Head.bind
  dsimp only
  rw [hvalue, hname]
  cases s <;> rfl

theorem foldl_bind_writtenFrom {template : Text} {s : Slot} : ∀ {l : List Attribute} {pos : Nat},
    (∀ a ∈ l, a.Printable s) → StandsAt template pos (printAttributes id s l) → ∀ g : Head,
      (writtenFrom s pos l).foldl (Head.bind template) g = g.extend (placeAttributes s pos l) s
  | [], _, _, _, g => by cases s <;> simp [writtenFrom, placeAttributes, Head.extend]
  | a :: l, pos, h, hat, g => by
    rw [printAttributes, List.flatMap_cons] at hat
    rw [writtenFrom, List.foldl_cons, bind_writtenAt (h a (List.mem_cons_self ..)) hat.left,
      foldl_bind_writtenFrom (fun b hb => h b (List.mem_cons_of_mem _ hb)) hat.right, Head.extend_extend,
      placeAttributes]
    rfl

/-- **The element of a printed start tag** is the printed one at its place. -/
theorem head_print {template : Text} {h : Head} (hp : h.Printable) {r : Span}
    (hat : StandsAt template (r.start + 1) (h.print id)) :
    StartTag.head template ⟨h.name, h.written (r.start + 1), false⟩ r = h.place r := by
  unfold StartTag.head Head.written
  dsimp only
  rw [List.foldl_append, List.foldl_append, List.foldl_append,
    foldl_bind_writtenFrom (l := h.attributes) (hp.attributes .static) (hat.list .static),
    foldl_bind_writtenFrom (l := h.inputs) (hp.attributes .input) (hat.list .input),
    foldl_bind_writtenFrom (l := h.outputs) (hp.attributes .output) (hat.list .output),
    foldl_bind_writtenFrom (l := h.directives) (hp.attributes .directive) (hat.list .directive), ← hp.container]
  rfl

end Template
end ViewAtlas
