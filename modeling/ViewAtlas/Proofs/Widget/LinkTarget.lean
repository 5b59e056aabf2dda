import ViewAtlas.Proofs.Script.Properties
import ViewAtlas.Proofs.Text.Trimming
import ViewAtlas.Widget.Extraction
/-!
# The target of a link

Quotes pair from left to right, so a value holds one piece between each quote and the next, and every other one of these
is a literal.  The target of a link is the first piece that is not empty (`quotedPiece?_eq`).  This is the first literal
when that is not empty; behind an empty one it may be what stands between two literals (`routerLink_target`).
-/
namespace ViewAtlas

namespace Text

/-! ## What stands before a piece -/

theorem before_isPrefix (t : Text) : ∀ s, before t s <+: s
  | [] => List.prefix_refl _
  | c :: s => by
    rw [before]
    split
    · exact List.nil_prefix
    · exact (List.prefix_cons_inj c).2 (before_isPrefix t s)

theorem before_append_isPrefix {t : Text} (ht : t ≠ []) (r : Text) : ∀ a, before t (a ++ (t ++ r)) <+: a
  | [] => by
    obtain ⟨d, t', rfl⟩ := List.exists_cons_of_ne_nil ht
    have hfront : (d :: t').isPrefixOf (d :: (t' ++ r)) = true :=
      List.isPrefixOf_iff_prefix.2 (List.prefix_append (d :: t') r)
    have hnone : before (d :: t') (d :: (t' ++ r)) = [] := by rw [before, if_pos hfront]
    exact List.prefix_nil.2 hnone
  | c :: a => by
    rw [List.cons_append, before]
    split
    · exact List.nil_prefix
    · exact (List.prefix_cons_inj c).2 (before_append_isPrefix ht r a)

/-- What follows a text, without the last character of the piece, makes no new occurrence of it. -/
theorem before_append_of_notMem {t b : Text} {l : Char} (hl : t.getLast? = some l) (hb : l ∉ b) : ∀ s,
    ∃ b', b' <+: b ∧ before t (s ++ b) = before t s ++ b'
  | [] => ⟨before t b, before_isPrefix t b, rfl⟩
  | c :: s => by
    have hsame : t.isPrefixOf (c :: (s ++ b)) = t.isPrefixOf (c :: s) := by
      rw [Bool.eq_iff_iff, List.isPrefixOf_iff_prefix, List.isPrefixOf_iff_prefix]
      refine ⟨fun h => ?_, fun h => h.trans (List.prefix_append (c :: s) b)⟩
      by_cases hle : t.length ≤ (c :: s).length
      · exact List.prefix_of_prefix_length_le h (List.prefix_append (c :: s) b) hle
      · obtain ⟨u, rfl⟩ := List.prefix_of_prefix_length_le (List.prefix_append (c :: s) b) h (by omega)
        have hu : u ≠ [] := by
          rintro rfl
          exact hle (by simp)
        have hmem : l ∈ u := by
          rw [List.getLast?_append, List.getLast?_eq_some_getLast hu] at hl
          exact Option.some.inj hl ▸ List.getLast_mem hu
        exact absurd (((List.prefix_append_right_inj (c :: s)).1 h).subset hmem) hb
    rw [List.cons_append, before, before, hsame]
    split
    · exact ⟨[], List.nil_prefix, rfl⟩
    · obtain ⟨b', hb', hbefore⟩ := before_append_of_notMem hl hb s
      exact ⟨b', hb', by rw [hbefore, List.cons_append]⟩

end Text

namespace Widget

open Template (Head Attribute)

/-! ## Cut and trimmed -/

/-- A text, cut at the mark of a rendered expression and trimmed. -/
def tidied (s : Text) : Text := Text.strip (Text.before inlineMark s)

/-- A text that has the mark behind nothing but blanks. -/
def OpensWithMark (s : Text) : Prop := ∃ a rest, s = a ++ (inlineMark ++ rest) ∧ Text.isBlankText a = true

theorem tidied_append_right {b : Text} (hb : Text.isBlankText b = true) (s : Text) : tidied (s ++ b) = tidied s := by
  obtain ⟨b', hpre, hbefore⟩ :=
    Text.before_append_of_notMem (t := inlineMark) rfl (Text.notMem_of_isBlankText hb (by decide)) s
  rw [tidied, tidied, hbefore, Text.strip_append_right (Text.isBlankText_of_isPrefix hb hpre)]

theorem before_append_left (s : Text) : ∀ {a : Text}, Text.isBlankText a = true → ¬ OpensWithMark (a ++ s) →
    Text.before inlineMark (a ++ s) = a ++ Text.before inlineMark s
  | [], _, _ => rfl
  | c :: a, ha, hopens => by
    rw [Text.isBlankText, List.all_cons, Bool.and_eq_true_iff] at ha
    have hfront : ¬ inlineMark.isPrefixOf (c :: (a ++ s)) = true := fun h => by
      obtain ⟨rest, hrest⟩ := List.isPrefixOf_iff_prefix.1 h
      exact hopens ⟨[], rest, hrest.symm, rfl⟩
    have hrest : ¬ OpensWithMark (a ++ s) := by
      rintro ⟨x, rest, heq, hx⟩
      exact hopens ⟨c :: x, rest, by rw [List.cons_append, heq, List.cons_append], Bool.and_eq_true_iff.2 ⟨ha.1, hx⟩⟩
    rw [List.cons_append, Text.before, if_neg hfront, before_append_left s ha.2 hrest, List.cons_append]

theorem tidied_of_opensWithMark {s : Text} (h : OpensWithMark s) : tidied s = [] := by
  obtain ⟨a, rest, rfl, ha⟩ := h
  exact Text.strip_eq_nil_iff.2
    (Text.isBlankText_of_isPrefix ha (Text.before_append_isPrefix (by decide) rest a))

/-- The mark begins with a blank, so that it is no mark any more once that is trimmed away. -/
theorem tidied_strip_ne_nil {s : Text} (h : OpensWithMark s) : tidied (Text.strip s) ≠ [] := by
  obtain ⟨a, rest, rfl, ha⟩ := h
  obtain ⟨r, hr⟩ := Text.exists_strip_cons (c := 'i') (by decide) ("n inline@".toList ++ rest)
  have hstrip : Text.strip (a ++ (inlineMark ++ rest)) = 'i' :: r := by
    rw [Text.strip_append_left ha, ← hr]
    exact Text.strip_append_left (a := [' ']) rfl _
  rw [hstrip, tidied, Ne, Text.strip_eq_nil_iff]
  intro hblank
  exact Text.notMem_of_isBlankText (c := 'i') hblank (by decide) (List.mem_cons_self ..)

/-- **Trimming first changes nothing**, unless the text has the mark behind nothing but blanks. -/
theorem tidied_strip_iff (s : Text) : tidied (Text.strip s) = tidied s ↔ ¬ OpensWithMark s := by
  refine ⟨fun h hopens => tidied_strip_ne_nil hopens (h.trans (tidied_of_opensWithMark hopens)), fun hopens => ?_⟩
  obtain ⟨a, b, hs, ha, hb⟩ := Text.exists_strip s
  rw [hs] at hopens
  calc tidied (Text.strip s) = tidied (Text.strip s ++ b) := (tidied_append_right hb _).symm
    _ = Text.strip (a ++ Text.before inlineMark (Text.strip s ++ b)) := (Text.strip_append_left ha _).symm
    _ = tidied (a ++ (Text.strip s ++ b)) := by rw [tidied, before_append_left _ ha hopens]
    _ = tidied s := by rw [← hs]

/-! ## Quotes -/

/-- **The first literal of a text**: what stands between its first quote and the next one. -/
def IsFirstLiteral (b s : Text) : Prop :=
  ∃ before after, s = before ++ '\'' :: (b ++ '\'' :: after) ∧ '\'' ∉ before ∧ '\'' ∉ b

/-- **The pieces between a quote and the next one**: the literals, and what stands between two of them. -/
def between (s : Text) : List Text := (Text.splitAt '\'' s).tail.dropLast

theorem quotedPiece?_append_left (s : Text) : ∀ {a : Text}, '\'' ∉ a → quotedPiece? (a ++ s) = quotedPiece? s
  | [], _ => rfl
  | c :: a, ha => by
    rw [List.mem_cons, not_or] at ha
    rw [List.cons_append, quotedPiece?, if_neg (Ne.symm ha.1), quotedPiece?_append_left s ha.2]

theorem quotedPiece?_of_notMem {a : Text} (ha : '\'' ∉ a) : quotedPiece? a = none := by
  have hnone := quotedPiece?_append_left [] ha
  rwa [List.append_nil] at hnone

theorem takeWhile_of_notMem {a : Text} (ha : '\'' ∉ a) : a.takeWhile (· ≠ '\'') = a :=
  List.takeWhile_eq_self_iff.2 fun c hc => by
    have hne : c ≠ '\'' := fun h => ha (h ▸ hc)
    simpa using hne

theorem takeWhile_append_quote {a : Text} (ha : '\'' ∉ a) (s : Text) : (a ++ '\'' :: s).takeWhile (· ≠ '\'') = a := by
  rw [Text.takeWhile_append_of_head (by simp), takeWhile_of_notMem ha]

/-- **A closed piece** is taken when it is not empty; else its second quote opens the next one. -/
theorem quotedPiece?_closed {b : Text} (hb : '\'' ∉ b) (s : Text) :
    quotedPiece? ('\'' :: (b ++ '\'' :: s)) = if b ≠ [] then some b else quotedPiece? ('\'' :: s) := by
  rw [quotedPiece?, if_pos rfl]
  simp only [takeWhile_append_quote hb, List.drop_left, List.head?_cons, and_true]
  split
  · rfl
  · rename_i h
    rw [Decidable.not_not.1 h, List.nil_append]

theorem quotedPiece?_open {b : Text} (hb : '\'' ∉ b) : quotedPiece? ('\'' :: b) = none := by
  rw [quotedPiece?, if_pos rfl]
  simp only [takeWhile_of_notMem hb, List.drop_length, List.head?_nil, reduceCtorEq, and_false, if_false]
  exact quotedPiece?_of_notMem hb

theorem quotedPiece?_joinWith : ∀ (l : List Text) (b : Text), (∀ n ∈ b :: l, '\'' ∉ n) →
    quotedPiece? ('\'' :: Text.joinWith ['\''] (b :: l)) = (b :: l).dropLast.find? (· ≠ [])
  | [], b, h => by
    rw [Text.joinWith_singleton, quotedPiece?_open (h b (List.mem_singleton_self b))]
    rfl
  | c :: l, b, h => by
    rw [Text.joinWith_cons _ _ (List.cons_ne_nil c l), List.singleton_append,
      quotedPiece?_closed (h b (List.mem_cons_self ..)), List.dropLast_cons_cons, List.find?_cons,
      quotedPiece?_joinWith l c fun n hn => h n (List.mem_cons_of_mem b hn)]
    by_cases hb : b = [] <;> simp [hb]

/-- **The quoted piece of a text is the first one between two quotes that is not empty.** -/
theorem quotedPiece?_eq (s : Text) : quotedPiece? s = (between s).find? (· ≠ []) := by
  have hfree : ∀ n ∈ Text.splitAt '\'' s, '\'' ∉ n := fun n hn => Text.notMem_of_mem_splitAt hn
  have hjoin := Text.joinWith_splitAt '\'' s
  unfold between
  match hsplit : Text.splitAt '\'' s with
  | [] => exact absurd hsplit (Text.splitAt_ne_nil '\'' s)
  | [a] =>
    rw [hsplit, Text.joinWith_singleton] at hjoin
    exact quotedPiece?_of_notMem (hjoin ▸ hfree a (by simp [hsplit]))
  | a :: b :: l =>
    rw [hsplit] at hjoin hfree
    rw [← hjoin, Text.joinWith_cons _ _ (List.cons_ne_nil b l), List.singleton_append,
      quotedPiece?_append_left _ (hfree a (List.mem_cons_self ..)),
      quotedPiece?_joinWith l b fun n hn => hfree n (List.mem_cons_of_mem a hn)]
    rfl

theorem quotedPiece?_append_right {b : Text} (hb : '\'' ∉ b) : ∀ s, quotedPiece? (s ++ b) = quotedPiece? s
  | [] => quotedPiece?_of_notMem hb
  | c :: s => by
    have ih := quotedPiece?_append_right hb s
    by_cases hc : c = '\''
    · subst hc
      by_cases hs : '\'' ∈ s
      · obtain ⟨u, v, rfl, hu⟩ := List.eq_append_cons_of_mem hs
        rw [List.append_assoc, quotedPiece?_append_left _ hu, quotedPiece?_append_left _ hu] at ih
        rw [List.cons_append, List.append_assoc, List.cons_append, quotedPiece?_closed hu, quotedPiece?_closed hu]
        rw [List.cons_append] at ih
        rw [ih]
      · have hsb : '\'' ∉ s ++ b := by simp [hs, hb]
        rw [List.cons_append, quotedPiece?_open hsb, quotedPiece?_open hs]
    · rw [List.cons_append, quotedPiece?, quotedPiece?, if_neg hc, if_neg hc, ih]

theorem isFirstLiteral_iff {b s : Text} : IsFirstLiteral b s ↔ (between s).head? = some b := by
  constructor
  · rintro ⟨before, after, rfl, hbefore, hb⟩
    rw [between, Text.splitAt_append_cons, Text.splitAt_append_cons, Text.splitAt_of_notMem hbefore,
      Text.splitAt_of_notMem hb, List.singleton_append, List.singleton_append, List.tail_cons,
      List.dropLast_cons_of_ne_nil (Text.splitAt_ne_nil '\'' after), List.head?_cons]
  · intro h
    have hfree : ∀ n ∈ Text.splitAt '\'' s, '\'' ∉ n := fun n hn => Text.notMem_of_mem_splitAt hn
    have hjoin := Text.joinWith_splitAt '\'' s
    unfold between at h
    match hsplit : Text.splitAt '\'' s with
    | [] | [a] | [a, c] => simp [hsplit] at h
    | a :: c :: d :: l =>
      rw [hsplit] at h hfree hjoin
      obtain rfl : c = b := by simpa using h
      refine ⟨a, Text.joinWith ['\''] (d :: l), ?_, hfree a (by simp), hfree c (by simp)⟩
      rw [← hjoin, Text.joinWith_cons _ _ (List.cons_ne_nil c (d :: l)),
        Text.joinWith_cons _ _ (List.cons_ne_nil d l)]
      rfl

/-! ## The event -/

/-- The attribute that says where an element leads, static or bound. -/
def link? (h : Head) : Option Attribute := h.attribute? routerLink <|> h.input? routerLink

theorem linkTarget_eq (v : Text) :
    linkTarget v = tidied (((between v).find? (· ≠ [])).getD (Text.strip v)) := by
  have hpiece : quotedPiece? (Text.strip v) = quotedPiece? v := by
    obtain ⟨a, b, hv, ha, hb⟩ := Text.exists_strip v
    rw [hv, quotedPiece?_append_left _ (Text.notMem_of_isBlankText ha (by decide)),
      quotedPiece?_append_right (Text.notMem_of_isBlankText hb (by decide)), ← hv]
  rw [← quotedPiece?_eq, ← hpiece]
  rfl

theorem get?_eventsOf_routerLink (template : Text) (h : Head) : (eventsOf template h).get? routerLink =
    ((h.outputs.reverse.find? (·.name = routerLink)).map (handlerOf template) <|> linkOf? h) := by
  have houtput : (h.outputs.map fun a => (a.name, handlerOf template a)).reverse.find? (·.1 = routerLink) =
      (h.outputs.reverse.find? (·.name = routerLink)).map fun a => (a.name, handlerOf template a) := by
    rw [← List.map_reverse, List.find?_map]
    rfl
  rw [eventsOf, Table.get?_ofList, List.reverse_append, List.find?_append, houtput]
  cases h.outputs.reverse.find? (·.name = routerLink) <;> cases linkOf? h <;> simp

/-- **The event of a link is its target**, unless an output has the name of that event.  It holds the first literal of
the value when that is not empty, and the value when there is none.  When the first literal is empty, it holds the
first piece between two quotes that is not empty, be it a literal or not. -/
theorem routerLink_target (template id : Text) {h : Head} {a : Attribute} (ha : link? h = some a) :
    let event := (ofElement template id h).events.get? routerLink
    (∀ before o after, h.outputs = before ++ o :: after → o.name = routerLink →
        (∀ p ∈ after, p.name ≠ routerLink) → event = some (handlerOf template o)) ∧
      ((∀ o ∈ h.outputs, o.name ≠ routerLink) →
        (∀ b, IsFirstLiteral b a.value → b ≠ [] → event = some (tidied b)) ∧
          (IsFirstLiteral [] a.value →
            event = some (tidied (((between a.value).find? (· ≠ [])).getD (Text.strip a.value)))) ∧
          ((∀ b, ¬ IsFirstLiteral b a.value) → event = some (tidied (Text.strip a.value)) ∧
            (event = some (tidied a.value) ↔ ¬ OpensWithMark a.value))) := by
  intro event
  have hevent : event =
      ((h.outputs.reverse.find? (·.name = routerLink)).map (handlerOf template) <|> some (linkTarget a.value)) := by
    change (eventsOf template h).get? routerLink = _
    rw [get?_eventsOf_routerLink, linkOf?, ← link?, ha]
    rfl
  refine ⟨?_, fun houtputs => ?_⟩
  · intro before o after heq hname hlast
    have hafter : after.reverse.find? (·.name = routerLink) = none :=
      List.find?_eq_none.2 fun p hp => by simpa using hlast p (List.mem_reverse.1 hp)
    rw [hevent, heq]
    simp [hafter, hname]
  · have hnone : h.outputs.reverse.find? (·.name = routerLink) = none :=
      List.find?_eq_none.2 fun p hp => by simpa using houtputs p (List.mem_reverse.1 hp)
    rw [hnone, linkTarget_eq] at hevent
    refine ⟨fun b hb hne => ?_, fun _ => hevent, fun hliteral => ?_⟩
    · obtain ⟨rest, hrest⟩ := List.head?_eq_some_iff.1 (isFirstLiteral_iff.1 hb)
      rw [hevent, hrest]
      simp [hne]
    · have hempty : between a.value = [] := by
        cases hbetween : between a.value with
        | nil => rfl
        | cons b rest => exact absurd (isFirstLiteral_iff.2 (by rw [hbetween]; rfl)) (hliteral b)
      rw [hempty] at hevent
      refine ⟨hevent, ?_⟩
      rw [← tidied_strip_iff, hevent]
      exact Option.some_inj

def boundLink (value : Text) : Head := ⟨false, ['a'], ⟨0, 0⟩, [], [⟨routerLink, value, ⟨0, 0⟩⟩], [], []⟩

theorem routerLink_target_array :
    let value := "['/items', item.id]".toList
    IsFirstLiteral "/items".toList value ∧
      (ofElement [] [] (boundLink value)).events.get? routerLink = some "/items".toList := by
  have hliteral : IsFirstLiteral "/items".toList "['/items', item.id]".toList :=
    isFirstLiteral_iff.2 (by decide)
  have htarget := routerLink_target [] [] (h := boundLink "['/items', item.id]".toList) rfl
  exact ⟨hliteral, (htarget.2 (by simp [boundLink])).1 _ hliteral (by decide)⟩

/-- Behind an empty literal the event holds what stands between two literals. -/
theorem routerLink_target_empty :
    let value := "['', item.id, 'x']".toList
    IsFirstLiteral [] value ∧
      (ofElement [] [] (boundLink value)).events.get? routerLink = some ", item.id,".toList ∧
      (ofElement [] [] (boundLink value)).events.get? routerLink ≠ some (tidied []) := by
  exact ⟨isFirstLiteral_iff.2 (by decide), by decide, by decide⟩

end Widget
end ViewAtlas
