import ViewAtlas.Proofs.Template.Locality
/-!
# Hiding values

A growth takes from its template the values at the spans of its texts and attributes, and nothing else.  So a reading
does not tell two templates apart, in what a view lets be seen of the values, when the same is seen of both at each span
that it takes a value from (`readFrom?_seen`).
-/
namespace ViewAtlas
namespace Template

/-! ## What is seen of the values -/

section Seen

variable (view : Span → Text → Text)

/-- The attribute with what is seen of its value at its span. -/
def Attribute.seen (a : Attribute) : Attribute := { a with value := view a.span a.value }

def Head.seen (h : Head) : Head :=
  { h with
    attributes := h.attributes.map (Attribute.seen view)
    inputs := h.inputs.map (Attribute.seen view)
    outputs := h.outputs.map (Attribute.seen view)
    directives := h.directives.map (Attribute.seen view) }

mutual

/-- **A node with what is seen of its values.** -/
def Node.seen : Node → Node
  | .text value r => .text (view r value) r
  | .element h children => .element (h.seen view) (seenAll children)

/-- **Nodes with what is seen of their values.** -/
def seenAll : List Node → List Node
  | [] => []
  | n :: rest => n.seen :: seenAll rest

end

/-- **A forest with what is seen of its values.** -/
def Forest.seen (f : Forest) : Forest := ⟨seenAll view f.nodes, f.strays⟩

def OpenElement.seen (e : OpenElement) : OpenElement := { e with children := seenAll view e.children }

def Growth.seen (g : Growth) : Growth :=
  { g with opened := g.opened.map (OpenElement.seen view), roots := seenAll view g.roots }

end Seen

/-- **The view that hides the values** at some spans. -/
def without (hidden : Span → Bool) (r : Span) (value : Text) : Text := if hidden r then [] else value

/-- **A forest without the values at hidden spans.** -/
def Forest.hide (hidden : Span → Bool) (f : Forest) : Forest := f.seen (without hidden)

variable {view : Span → Text → Text}

theorem seenAll_eq_map : ∀ l : List Node, seenAll view l = l.map (Node.seen view)
  | [] => by rw [seenAll, List.map_nil]
  | n :: rest => by rw [seenAll, List.map_cons, seenAll_eq_map rest]

theorem seenAll_reverse (l : List Node) : seenAll view l.reverse = (seenAll view l).reverse := by
  rw [seenAll_eq_map, seenAll_eq_map, List.map_reverse]

theorem Growth.add_seen (g : Growth) (n : Node) : (g.add n).seen view = (g.seen view).add (n.seen view) := by
  unfold add seen
  cases g.opened with
  | nil => rw [seenAll]; rfl
  | cons e outer => simp only [List.map_cons, OpenElement.seen, seenAll]

/-! ## Spans that do not tell templates apart -/

section Alike

variable (view : Span → Text → Text) (U V : Text)

/-- **A value that does not tell two templates apart** where it is shown at a span. -/
def SparesAt (q r : Span) : Prop := view q (r.slice U) = view q (r.slice V)

/-- **An attribute that does not tell two templates apart**, whichever of its spans its value is shown at. -/
def WrittenAttribute.Spares (a : WrittenAttribute) : Prop :=
  SparesAt view U V a.value a.value ∧ SparesAt view U V a.span a.value

/-- **Templates that are alike** on every run of text from one of `starts` to one of `stops`. -/
def AlikeOn (starts stops : Nat → Prop) : Prop := ∀ r : Span, starts r.start → stops r.stop → SparesAt view U V r r

/-- **A growth that does not tell two templates apart**: neither its run of text nor an attribute of an open element
does. -/
structure Growth.Spared (starts stops : Nat → Prop) (g : Growth) : Prop where
  run : ∀ r ∈ g.run, starts r.start ∧ stops r.stop
  values : ∀ tag ∈ g.opened.map (·.tag), ∀ a ∈ tag.attributes, a.Spares view U V

end Alike

variable {U V : Text} {starts stops : Nat → Prop} {g g' : Growth} {pos stop : Nat}

theorem SparesAt.text {r : Span} (h : SparesAt view U V r r) :
    (Node.text (r.slice U) r).seen view = (Node.text (r.slice V) r).seen view := by
  rw [Node.seen, Node.seen, h]

theorem SparesAt.attribute {q r : Span} (h : SparesAt view U V q r) (name : Text) :
    Attribute.seen view ⟨name, r.slice U, q⟩ = Attribute.seen view ⟨name, r.slice V, q⟩ :=
  congrArg (Attribute.mk name · q) h

theorem Head.bind_seen {a : WrittenAttribute} (ha : a.Spares view U V) {h h' : Head}
    (hh : h.seen view = h'.seen view) : (h.bind U a).seen view = (h'.bind V a).seen view := by
  have hbound := ha.1.attribute
  have hstatic := ha.2.attribute a.name
  simp only [Head.seen, Head.mk.injEq] at hh
  obtain ⟨hcontainer, hname, hspan, hattributes, hinputs, houtputs, hdirectives⟩ := hh
  unfold Head.bind
  cases Binding.ofName a.name <;>
    simp only [Head.seen, List.map_append, List.map_cons, List.map_nil, hbound, hstatic, hcontainer, hname, hspan,
      hattributes, hinputs, houtputs, hdirectives]

theorem Head.foldl_bind_seen : ∀ {l : List WrittenAttribute} {h h' : Head}, (∀ a ∈ l, a.Spares view U V) →
    h.seen view = h'.seen view → (l.foldl (Head.bind U) h).seen view = (l.foldl (Head.bind V) h').seen view
  | [], _, _, _, hh => hh
  | a :: l, _, _, ha, hh =>
    foldl_bind_seen (l := l) (fun b hb => ha b (List.mem_cons_of_mem a hb)) (Head.bind_seen (ha a (List.mem_cons_self ..)) hh)

/-! ## Growths -/

namespace Growth

theorem add_tags (g : Growth) (n : Node) : (g.add n).opened.map (·.tag) = g.opened.map (·.tag) := by
  unfold add
  split
  · rfl
  · rename_i heq
    rw [heq]
    rfl

theorem settle_tags (template : Text) (g : Growth) :
    (g.settle template).opened.map (·.tag) = g.opened.map (·.tag) := by
  unfold settle
  split
  · rfl
  · rw [add_tags]

theorem keys_eq_of_seen (h : g.seen view = g'.seen view) : g.opened.map (·.key) = g'.opened.map (·.key) := by
  have hkeys : ∀ g : Growth, (g.seen view).opened.map (·.key) = g.opened.map (·.key) := fun g => by
    rw [seen, List.map_map]
    rfl
  rw [← hkeys g, h, hkeys]

theorem Spared.of_values (hrun : g.run = none)
    (h : ∀ tag ∈ g.opened.map (·.tag), ∀ a ∈ tag.attributes, a.Spares view U V) :
    g.Spared view U V starts stops := by
  refine ⟨fun r hr => ?_, h⟩
  rw [hrun] at hr
  cases hr

theorem text_seen {r : Span} (hs : g.Spared view U V starts stops) (h : g.seen view = g'.seen view)
    (hstart : starts r.start) (hstop : stops r.stop) :
    (g.text r).seen view = (g'.text r).seen view ∧ (g.text r).Spared view U V starts stops := by
  refine ⟨congrArg (Growth.text · r) h, fun q hq => ?_, hs.values⟩
  unfold text at hq
  cases hrun : g.run with
  | none =>
    rw [hrun] at hq
    cases hq
    exact ⟨hstart, hstop⟩
  | some old =>
    have hold := hs.run old hrun
    rw [hrun] at hq
    cases hq
    exact ⟨hold.1, hstop⟩

variable (halike : AlikeOn view U V starts stops)
include halike

theorem settle_seen (hs : g.Spared view U V starts stops) (h : g.seen view = g'.seen view) :
    (g.settle U).seen view = (g'.settle V).seen view ∧ (g.settle U).Spared view U V starts stops := by
  constructor
  · have hrun : (g.seen view).run = (g'.seen view).run := congrArg Growth.run h
    change g.run = g'.run at hrun
    unfold settle
    rw [← hrun]
    split
    · exact h
    · rename_i r heq
      have hr := hs.run r heq
      rw [add_seen, add_seen, (halike r hr.1 hr.2).text]
      exact congrArg (fun g => Growth.add { g with run := none } _) h
  · refine .of_values (settle_run g) ?_
    rw [settle_tags]
    exact hs.values

theorem push_seen {tag : StartTag} (hs : g.Spared view U V starts stops) (h : g.seen view = g'.seen view)
    (htag : ∀ a ∈ tag.attributes, a.Spares view U V) (start : Nat) :
    (g.push U tag start).seen view = (g'.push V tag start).seen view ∧
      (g.push U tag start).Spared view U V starts stops := by
  obtain ⟨hsettle, hs'⟩ := settle_seen halike hs h
  constructor
  · exact congrArg (fun g => { g with opened := OpenElement.seen view ⟨tag, start, []⟩ :: g.opened }) hsettle
  · refine ⟨hs'.run, fun t ht => ?_⟩
    rcases List.mem_cons.1 ht with rfl | ht
    · exact htag
    · exact hs'.values t ht

theorem close_seen (hs : g.Spared view U V starts stops) (h : g.seen view = g'.seen view) (stop : Nat) :
    (g.close U stop).seen view = (g'.close V stop).seen view ∧ (g.close U stop).Spared view U V starts stops := by
  obtain ⟨hsettle, hs'⟩ := settle_seen halike hs h
  have hrun : (g.settle U).run = none := settle_run g
  unfold close
  dsimp only
  -- of the settled growths, no more is needed than that the same is seen of them
  generalize g.settle U = g at hsettle hs' hrun
  generalize g'.settle V = g' at hsettle
  have hopened : g.opened.map (OpenElement.seen view) = g'.opened.map (OpenElement.seen view) :=
    congrArg Growth.opened hsettle
  cases hg : g.opened with
  | nil =>
    rw [hg, List.map_nil, eq_comm, List.map_eq_nil_iff] at hopened
    rw [hopened]
    exact ⟨hsettle, hs'⟩
  | cons e outer =>
    rw [hg, List.map_cons, eq_comm] at hopened
    obtain ⟨e', outer', hg', he, houter⟩ := List.map_eq_cons_iff.1 hopened
    have hvalues := hs'.values
    rw [hg, List.map_cons] at hvalues
    rw [hg']
    dsimp only
    simp only [OpenElement.seen, OpenElement.mk.injEq] at he
    obtain ⟨htag, hstart, hchildren⟩ := he
    constructor
    · have hhead : (e.tag.head U ⟨e.start, stop⟩).seen view = (e'.tag.head V ⟨e'.start, stop⟩).seen view := by
        rw [htag, hstart]
        exact Head.foldl_bind_seen (hvalues e.tag (List.mem_cons_self ..)) rfl
      rw [add_seen, add_seen, Node.seen, Node.seen, hhead, seenAll_reverse, seenAll_reverse, hchildren]
      refine congrArg (Growth.add · _) ?_
      have := congrArg (fun g => { g with opened := outer.map (OpenElement.seen view) }) hsettle
      simpa only [Growth.seen, houter] using this
    · refine .of_values ((add_run ..).trans hrun) fun tag htag => ?_
      rw [add_tags] at htag
      exact hvalues tag (List.mem_cons_of_mem _ htag)

theorem closeMany_seen (stop : Nat) : ∀ (k : Nat) {g g' : Growth}, g.Spared view U V starts stops →
    g.seen view = g'.seen view → (g.closeMany U stop k).seen view = (g'.closeMany V stop k).seen view ∧
      (g.closeMany U stop k).Spared view U V starts stops
  | 0, _, _, hs, h => ⟨h, hs⟩
  | k + 1, _, _, hs, h =>
    have hclose := close_seen halike hs h stop
    closeMany_seen stop k hclose.2 hclose.1

theorem stray_seen (hs : g.Spared view U V starts stops) (h : g.seen view = g'.seen view) (r : Span) :
    (g.stray U r).seen view = (g'.stray V r).seen view ∧ (g.stray U r).Spared view U V starts stops := by
  obtain ⟨hsettle, hs'⟩ := settle_seen halike hs h
  exact ⟨congrArg (fun g => { g with strays := r :: g.strays }) hsettle, hs'.run, hs'.values⟩

end Growth

/-! ## Steps -/

section Steps

variable {c : Char} {s : Text}

/-- How many characters of text a step takes after the first: those of a reference, or those up to a tag, a reference or
a gap at the end. -/
def pieceLength? (c : Char) (s : Text) : Option Nat :=
  if c = '&' then referenceLength? s
  else if isTextChar c then some (Text.trimEnd isGap (s.takeWhile isTextChar)).length
  else none

theorem taken?_text (template : Text) (g : Growth) (pos : Nat) (hc : c ≠ '<') :
    taken? template g pos c s = (pieceLength? c s).map fun n => (g.text ⟨pos, pos + 1 + n⟩, n) := by
  unfold taken? pieceLength?
  rw [if_neg hc]
  split
  · rfl
  · split <;> rfl

theorem pieceLength?_le {n : Nat} (h : pieceLength? c s = some n) : n ≤ s.length := by
  unfold pieceLength? at h
  split at h
  · exact referenceLength?_le h
  · split at h
    · cases h
      exact Nat.le_trans (length_trimEnd_le ..) (List.takeWhile_prefix isTextChar).length_le
    · cases h

/-- **A step that does not tell two templates apart**: neither an attribute of a start tag that it reads nor the piece of
text that it takes does. -/
structure Fair (view : Span → Text → Text) (U V : Text) (starts stops : Nat → Prop) (pos : Nat) (c : Char) (s : Text) :
    Prop where
  tag : c = '<' → ∀ r ∈ readStartTag? (pos + 1) s, ∀ a ∈ r.1.attributes, a.Spares view U V
  piece : ∀ n ∈ pieceLength? c s, starts pos ∧ stops (pos + 1 + n)

variable (halike : AlikeOn view U V starts stops)
include halike

theorem endTag_seen (hs : g.Spared view U V starts stops) (h : g.seen view = g'.seen view) (direct : Bool)
    (key : Text) (pos stop : Nat) :
    (endTag U g direct key pos stop).map (Growth.seen view) =
        (endTag V g' direct key pos stop).map (Growth.seen view) ∧
      ∀ g₁ ∈ endTag U g direct key pos stop, g₁.Spared view U V starts stops := by
  unfold endTag
  dsimp only
  rw [Growth.keys_eq_of_seen h]
  generalize (if direct then _ else _ : Nat × Bool) = m
  obtain ⟨hmany, hs'⟩ := Growth.closeMany_seen halike pos m.1 hs h
  generalize g.closeMany U pos m.1 = g at hmany hs'
  generalize g'.closeMany V pos m.1 = g' at hmany
  have hempty : g.opened.isEmpty = g'.opened.isEmpty := by
    rw [← List.isEmpty_map (f := (·.key)), Growth.keys_eq_of_seen hmany, List.isEmpty_map]
  rw [hempty]
  split
  · obtain ⟨hclose, hclosed⟩ := Growth.close_seen halike hs' hmany stop
    exact ⟨congrArg some hclose, fun g₁ hg₁ => Option.some.inj hg₁ ▸ hclosed⟩
  · split
    · exact ⟨rfl, fun g₁ hg₁ => nomatch hg₁⟩
    · obtain ⟨hstray, hstrayed⟩ := Growth.stray_seen halike hs' hmany ⟨pos, stop⟩
      exact ⟨congrArg some hstray, fun g₁ hg₁ => Option.some.inj hg₁ ▸ hstrayed⟩

theorem startTag?_seen (hs : g.Spared view U V starts stops) (h : g.seen view = g'.seen view)
    (htag : ∀ r ∈ readStartTag? (pos + 1) s, ∀ a ∈ r.1.attributes, a.Spares view U V) :
    (startTag? U g pos s).map (Prod.map (Growth.seen view) id) =
        (startTag? V g' pos s).map (Prod.map (Growth.seen view) id) ∧
      ∀ r ∈ startTag? U g pos s, r.1.Spared view U V starts stops := by
  unfold startTag?
  split
  · exact ⟨rfl, fun r hr => nomatch hr⟩
  · rename_i tag stop rest hread
    dsimp only
    rw [Growth.keys_eq_of_seen h]
    generalize closedByStart (Text.lower tag.name) (g'.opened.map (·.key)) = k
    obtain ⟨hmany, hs'⟩ := Growth.closeMany_seen halike pos k hs h
    obtain ⟨hpush, hpushed⟩ := Growth.push_seen halike hs' hmany (htag _ hread) pos
    generalize (g.closeMany U pos k).push U tag pos = g at hpush hpushed
    generalize (g'.closeMany V pos k).push V tag pos = g' at hpush
    have hclose := Growth.close_seen halike hpushed hpush
    split
    · split
      · exact ⟨rfl, fun r hr => nomatch hr⟩
      · cases rawElementLength? (Text.lower tag.name) rest with
        | none => exact ⟨rfl, fun r hr => nomatch hr⟩
        | some n =>
          exact ⟨congrArg (fun g => some (g, stop + n)) (hclose _).1, fun r hr => Option.some.inj hr ▸ (hclose _).2⟩
    · split
      · exact ⟨congrArg (fun g => some (g, stop)) (hclose _).1, fun r hr => Option.some.inj hr ▸ (hclose _).2⟩
      · exact ⟨congrArg (fun g => some (g, stop)) hpush, fun r hr => Option.some.inj hr ▸ hpushed⟩

/-- **A step that does not tell two templates apart** grows the same from both, as far as is seen. -/
theorem taken?_seen (hs : g.Spared view U V starts stops) (h : g.seen view = g'.seen view)
    (hfair : Fair view U V starts stops pos c s) :
    (taken? U g pos c s).map (Prod.map (Growth.seen view) id) =
        (taken? V g' pos c s).map (Prod.map (Growth.seen view) id) ∧
      ∀ r ∈ taken? U g pos c s, r.1.Spared view U V starts stops := by
  by_cases hc : c = '<'
  · unfold taken?
    rw [if_pos hc, if_pos hc]
    split
    · rename_i r
      obtain ⟨hsettle, hs'⟩ := Growth.settle_seen halike hs h
      cases declarationLength? r with
      | none => exact ⟨rfl, fun q hq => nomatch hq⟩
      | some n => exact ⟨congrArg (fun g => some (g, n + 1)) hsettle, fun q hq => Option.some.inj hq ▸ hs'⟩
    · rename_i r
      cases readEndTag? (pos + 2) r with
      | none => exact ⟨rfl, fun q hq => nomatch hq⟩
      | some e =>
        obtain ⟨hend, hs'⟩ := endTag_seen halike hs h e.1 (Text.lower e.2.1) pos e.2.2.1
        rw [Option.bind_some, Option.bind_some, Option.map_map, Option.map_map]
        constructor
        · have := congrArg (Option.map fun g => (g, e.2.2.1 - pos - 1)) hend
          rw [Option.map_map, Option.map_map] at this
          exact this
        · intro q hq
          obtain ⟨g₁, hg₁, rfl⟩ := Option.map_eq_some_iff.1 hq
          exact hs' g₁ hg₁
    · obtain ⟨hstart, hs'⟩ := startTag?_seen halike hs h (hfair.tag hc)
      rw [Option.map_map, Option.map_map]
      constructor
      · have := congrArg (Option.map (Prod.map id (· - pos - 1))) hstart
        rw [Option.map_map, Option.map_map] at this
        exact this
      · intro q hq
        obtain ⟨r, hr, rfl⟩ := Option.map_eq_some_iff.1 hq
        exact hs' r hr
  · rw [taken?_text U g pos hc, taken?_text V g' pos hc]
    cases hn : pieceLength? c s with
    | none => exact ⟨rfl, fun q hq => nomatch hq⟩
    | some n =>
      obtain ⟨hstart, hstop⟩ := hfair.piece n hn
      obtain ⟨htext, hs'⟩ := Growth.text_seen (r := ⟨pos, pos + 1 + n⟩) hs h hstart hstop
      exact ⟨congrArg (fun g => some (g, n)) htext, fun q hq => Option.some.inj hq ▸ hs'⟩

theorem finish?_seen (hs : g.Spared view U V starts stops) (h : g.seen view = g'.seen view) (pos : Nat) :
    (finish? U g pos).map (Forest.seen view) = (finish? V g' pos).map (Forest.seen view) := by
  have hkeys := Growth.keys_eq_of_seen h
  have hlength : g.opened.length = g'.opened.length := by
    rw [← List.length_map (f := (·.key)), hkeys, List.length_map]
  have hall : (g.opened.all fun e => endsWithTemplate e.key) = g'.opened.all fun e => endsWithTemplate e.key := by
    have := congrArg (List.all · endsWithTemplate) hkeys
    rwa [List.all_map, List.all_map] at this
  unfold finish?
  rw [hall]
  split
  · obtain ⟨hmany, hs'⟩ := Growth.closeMany_seen halike pos g.opened.length hs h
    have hsettle := (Growth.settle_seen halike hs' hmany).1
    rw [hlength] at hsettle ⊢
    have hforest : ∀ g : Growth, Forest.seen view ⟨g.roots.reverse, g.strays.reverse⟩ =
        ⟨(g.seen view).roots.reverse, (g.seen view).strays.reverse⟩ := fun g =>
      congrArg (Forest.mk · g.strays.reverse) (seenAll_reverse g.roots)
    dsimp only
    rw [Option.map_some, Option.map_some, hforest, hforest, hsettle]
  · rfl

end Steps

/-! ## Readings -/

/-- **The places of a reading that does not tell two templates apart**: the step that is taken behind a gap at one of
them does not, and ends at one of them. -/
structure FairAt (view : Span → Text → Text) (U V : Text) (starts stops : Nat → Prop) (At : Nat → Text → Prop) : Prop where
  step {pos : Nat} {gap r : Text} {c : Char} (hat : At pos (gap ++ c :: r)) (hgap : ∀ d ∈ gap, isGap d = true)
    (hc : isGap c = false) : Fair view U V starts stops (pos + gap.length) c r
  next {template : Text} {g g₁ : Growth} {pos n : Nat} {gap r : Text} {c : Char} (hat : At pos (gap ++ c :: r))
    (hgap : ∀ d ∈ gap, isGap d = true) (hc : isGap c = false)
    (htaken : taken? template g (pos + gap.length) c r = some (g₁, n)) : At (pos + gap.length + 1 + n) (r.drop n)

theorem readFrom?_seen {At : Nat → Text → Prop} (halike : AlikeOn view U V starts stops)
    (hfair : FairAt view U V starts stops At) (s : Text) {g g' : Growth} {pos : Nat}
    (hs : g.Spared view U V starts stops) (h : g.seen view = g'.seen view) (hat : At pos s) :
    (readFrom? U g pos s).map (Forest.seen view) = (readFrom? V g' pos s).map (Forest.seen view) := by
  -- by recursion on the markup that is left, with the same seen of both growths
  rw [readFrom?_eq, readFrom?_eq V]
  cases hrest : s.dropWhile isGap with
  | nil => exact finish?_seen halike hs h _
  | cons c r =>
    obtain ⟨hsplit, hgap, hc⟩ := eq_gap_append hrest
    rw [hsplit] at hat
    obtain ⟨hstep, hspared⟩ := taken?_seen halike hs h (hfair.step hat hgap hc)
    dsimp only
    rw [step?_eq, step?_eq]
    cases ht : taken? U g (pos + (s.takeWhile isGap).length) c r with
    | none =>
      rw [ht, Option.map_none, eq_comm, Option.map_eq_none_iff] at hstep
      rw [hstep]
      rfl
    | some t =>
      rw [ht, Option.map_some, eq_comm] at hstep
      obtain ⟨t', ht', heq⟩ := Option.map_eq_some_iff.1 hstep
      rw [ht']
      obtain ⟨g₁, n⟩ := t
      obtain ⟨g₁', n'⟩ := t'
      cases (Prod.mk.inj heq).2
      exact readFrom?_seen halike hfair (r.drop n) (hspared _ ht) (Prod.mk.inj heq).1.symm (hfair.next hat hgap hc ht)
termination_by s.length
decreasing_by
  rw [hsplit, List.length_append, List.length_cons, List.length_drop]
  omega

end Template
end ViewAtlas
