import ViewAtlas.Proofs.Template.Growing
import ViewAtlas.Proofs.Template.Masking
/-!
# The spans of a template

Whatever markup is read, the spans of the forest are ranges of the template as it was written, and they are properly
nested (`read?_wellSpanned`).  The reading goes over the masked template, but masking keeps places; the induction is on
the reading, with a placed growth as what every step keeps.
-/
namespace ViewAtlas
namespace Template

open Node (elementsOf)
open Text (Entity.decode)

/-! ## What a forest holds -/

mutual

def Node.texts : Node → List (Text × Span)
  | .text value r => [(value, r)]
  | .element _ children => textsOf children

def textsOf : List Node → List (Text × Span)
  | [] => []
  | n :: rest => n.texts ++ textsOf rest

end

/-- **All spans of a forest**: those of its texts, its elements and their attributes. -/
def spansOf (forest : List Node) : List Span :=
  (textsOf forest).map (·.2) ++ (elementsOf forest).flatMap fun e => e.1.span :: e.1.all.map (·.span)

/-- **The lists of siblings** of a forest: its roots, and the children of each element. -/
def siblingsOf (forest : List Node) : List (List Node) := forest :: (elementsOf forest).map (·.2)

/-- **Spans that fit a template**, properly nested, and values that are what stands there. -/
structure WellSpanned (template : Text) (forest : List Node) : Prop where
  /-- Every span is a range of the template. -/
  inside : ∀ r ∈ spansOf forest, r.start ≤ r.stop ∧ r.stop ≤ template.length
  /-- Siblings are disjoint and in order. -/
  apart : ∀ siblings ∈ siblingsOf forest, siblings.Pairwise fun a b => a.span.stop ≤ b.span.start
  /-- No node is empty. -/
  nonempty : ∀ siblings ∈ siblingsOf forest, ∀ n ∈ siblings, n.span.start < n.span.stop
  /-- A child lies in its parent. -/
  within : ∀ e ∈ elementsOf forest, ∀ n ∈ e.2, n.span.Within e.1.span.start e.1.span.stop
  /-- An element starts where a `<` was written. -/
  opens : ∀ e ∈ elementsOf forest, template[e.1.span.start]? = some '<'
  /-- In document order, elements start ever later. -/
  starts : ((elementsOf forest).map (·.1.span.start)).Pairwise (· < ·)
  /-- The attributes of an element lie in it. -/
  attributes : ∀ e ∈ elementsOf forest, ∀ a ∈ e.1.all, a.span.Within e.1.span.start e.1.span.stop
  /-- An input, an output or a directive has the text at its span. -/
  bindings : ∀ e ∈ elementsOf forest, ∀ a ∈ e.1.inputs ++ e.1.outputs ++ e.1.directives,
    a.value = a.span.slice template
  /-- A text is the one at its span with its references replaced. -/
  texts : ∀ t ∈ textsOf forest, t.1 = Entity.decode (t.2.slice template)

/-! ## Placed nodes are well spanned -/

variable {literal : Text → Text} {template : Text} {lo hi : Nat}

theorem Placed.text {value : Text} {r : Span} (h : Placed literal template (.text value r)) :
    r.start < r.stop ∧ value = literal (r.slice template) := by
  rwa [Placed] at h

theorem Placed.element {h : Head} {children : List Node} (hp : Placed literal template (.element h children)) :
    template[h.span.start]? = some '<' ∧
      ∃ body, h.span.start < body ∧ h.Placed template h.span.start body ∧
        PlacedIn literal template body h.span.stop children := by
  rwa [Placed] at hp

theorem PlacedIn.cons {n : Node} {rest : List Node} (h : PlacedIn literal template lo hi (n :: rest)) :
    lo ≤ n.span.start ∧ Placed literal template n ∧ PlacedIn literal template n.span.stop hi rest := by
  rwa [PlacedIn] at h

theorem PlacedIn.siblings : ∀ {l : List Node} {lo : Nat}, PlacedIn literal template lo hi l →
    (∀ n ∈ l, n.span.Within lo hi ∧ n.span.start < n.span.stop) ∧
      l.Pairwise fun a b => a.span.stop ≤ b.span.start
  | [], _, _ => ⟨by simp, .nil⟩
  | n :: rest, lo, h => by
    obtain ⟨hlo, hn, hrest⟩ := h.cons
    obtain ⟨hin, hap⟩ := hrest.siblings
    have hlt := hn.lt
    have hle := hrest.le
    refine ⟨fun m hm => ?_, .cons (fun m hm => (hin m hm).1.1) hap⟩
    rcases List.mem_cons.1 hm with rfl | hm
    · exact ⟨⟨hlo, Nat.le_of_lt hlt, hle⟩, hlt⟩
    · exact ⟨(hin m hm).1.mono (by omega) (Nat.le_refl _), (hin m hm).2⟩

mutual

theorem Placed.mem_elements : ∀ {n : Node}, Placed literal template n → ∀ e ∈ n.elements,
    Placed literal template (.element e.1 e.2) ∧ e.1.span.Within n.span.start n.span.stop
  | .text _ _, _, e, he => by simp [Node.elements] at he
  | .element h children, hp, e, he => by
    rw [Node.elements, List.mem_cons] at he
    obtain ⟨_, body, hb, _, hc⟩ := hp.element
    rcases he with rfl | he
    · exact ⟨hp, Nat.le_refl _, Nat.le_of_lt hp.lt, Nat.le_refl _⟩
    · obtain ⟨h1, h2⟩ := hc.mem_elementsOf e he
      exact ⟨h1, h2.mono (Nat.le_of_lt hb) (Nat.le_refl _)⟩

theorem PlacedIn.mem_elementsOf : ∀ {l : List Node} {lo hi : Nat}, PlacedIn literal template lo hi l → ∀ e ∈ elementsOf l,
    Placed literal template (.element e.1 e.2) ∧ e.1.span.Within lo hi
  | [], _, _, _, e, he => by simp [elementsOf] at he
  | n :: rest, lo, hi, h, e, he => by
    rw [elementsOf, List.mem_append] at he
    obtain ⟨hlo, hn, hrest⟩ := h.cons
    have hlt := hn.lt
    rcases he with he | he
    · obtain ⟨h1, h2⟩ := hn.mem_elements e he
      exact ⟨h1, h2.mono hlo hrest.le⟩
    · obtain ⟨h1, h2⟩ := hrest.mem_elementsOf e he
      exact ⟨h1, h2.mono (by omega) (Nat.le_refl _)⟩

end

mutual

theorem Placed.mem_texts : ∀ {n : Node}, Placed literal template n → ∀ t ∈ n.texts,
    t.2.Within n.span.start n.span.stop ∧ t.1 = literal (t.2.slice template)
  | .text _ _, hp, t, ht => by
    rw [Node.texts, List.mem_singleton] at ht
    subst ht
    exact ⟨⟨Nat.le_refl _, Nat.le_of_lt hp.lt, Nat.le_refl _⟩, hp.text.2⟩
  | .element _ _, hp, t, ht => by
    rw [Node.texts] at ht
    obtain ⟨_, body, hb, _, hc⟩ := hp.element
    obtain ⟨h1, h2⟩ := hc.mem_textsOf t ht
    exact ⟨h1.mono (Nat.le_of_lt hb) (Nat.le_refl _), h2⟩

theorem PlacedIn.mem_textsOf : ∀ {l : List Node} {lo hi : Nat}, PlacedIn literal template lo hi l → ∀ t ∈ textsOf l,
    t.2.Within lo hi ∧ t.1 = literal (t.2.slice template)
  | [], _, _, _, t, ht => by simp [textsOf] at ht
  | n :: rest, lo, hi, h, t, ht => by
    rw [textsOf, List.mem_append] at ht
    obtain ⟨hlo, hn, hrest⟩ := h.cons
    have hlt := hn.lt
    rcases ht with ht | ht
    · obtain ⟨h1, h2⟩ := hn.mem_texts t ht
      exact ⟨h1.mono hlo hrest.le, h2⟩
    · obtain ⟨h1, h2⟩ := hrest.mem_textsOf t ht
      exact ⟨h1.mono (by omega) (Nat.le_refl _), h2⟩

end

mutual

theorem Placed.starts : ∀ {n : Node}, Placed literal template n → (n.elements.map (·.1.span.start)).Pairwise (· < ·)
  | .text _ _, _ => by simp [Node.elements]
  | .element h children, hp => by
    rw [Node.elements, List.map_cons]
    obtain ⟨_, body, hb, _, hc⟩ := hp.element
    refine .cons (fun x hx => ?_) hc.starts
    obtain ⟨e, he, rfl⟩ := List.mem_map.1 hx
    have := (hc.mem_elementsOf e he).2.1
    dsimp only
    omega

theorem PlacedIn.starts : ∀ {l : List Node} {lo hi : Nat}, PlacedIn literal template lo hi l →
    ((elementsOf l).map (·.1.span.start)).Pairwise (· < ·)
  | [], _, _, _ => by simp [elementsOf]
  | n :: rest, lo, hi, h => by
    rw [elementsOf, List.map_append]
    obtain ⟨_, hn, hrest⟩ := h.cons
    refine List.pairwise_append.2 ⟨hn.starts, hrest.starts, fun x hx y hy => ?_⟩
    obtain ⟨e, he, rfl⟩ := List.mem_map.1 hx
    obtain ⟨f, hf, rfl⟩ := List.mem_map.1 hy
    obtain ⟨h1, h2⟩ := hn.mem_elements e he
    have h3 := (hrest.mem_elementsOf f hf).2
    have h4 : e.1.span.start < e.1.span.stop := h1.lt
    exact Nat.lt_of_lt_of_le (Nat.lt_of_lt_of_le h4 h2.2.2) h3.1

end

theorem PlacedIn.wellSpanned {forest : List Node} (h : PlacedIn Entity.decode template 0 template.length forest) :
    WellSpanned template forest := by
  have hsib : ∀ siblings ∈ siblingsOf forest, ∃ lo hi, PlacedIn Entity.decode template lo hi siblings := by
    intro siblings hs
    rcases List.mem_cons.1 hs with rfl | hs
    · exact ⟨0, _, h⟩
    · obtain ⟨e, he, rfl⟩ := List.mem_map.1 hs
      obtain ⟨_, body, _, _, hc⟩ := (h.mem_elementsOf e he).1.element
      exact ⟨body, _, hc⟩
  have hatt : ∀ e ∈ elementsOf forest, ∀ a ∈ e.1.all, a.span.Within e.1.span.start e.1.span.stop := by
    intro e he a ha
    obtain ⟨_, body, _, hhead, hc⟩ := (h.mem_elementsOf e he).1.element
    exact (hhead.within a ha).mono (Nat.le_refl _) hc.le
  refine ⟨fun r hr => ?_, fun s hs => ?_, fun s hs n hn => ?_, fun e he n hn => ?_, fun e he => ?_, h.starts, hatt,
    fun e he => ?_, fun t ht => (h.mem_textsOf t ht).2⟩
  · rcases List.mem_append.1 hr with hr | hr
    · obtain ⟨t, ht, rfl⟩ := List.mem_map.1 hr
      exact (h.mem_textsOf t ht).1.2
    · obtain ⟨e, he, hr⟩ := List.mem_flatMap.1 hr
      have hin := (h.mem_elementsOf e he).2
      rcases List.mem_cons.1 hr with rfl | hr
      · exact hin.2
      · obtain ⟨a, ha, rfl⟩ := List.mem_map.1 hr
        exact ((hatt e he a ha).mono hin.1 hin.2.2).2
  · obtain ⟨_, _, hp⟩ := hsib s hs
    exact hp.siblings.2
  · obtain ⟨_, _, hp⟩ := hsib s hs
    exact (hp.siblings.1 n hn).2
  · obtain ⟨_, body, hb, _, hc⟩ := (h.mem_elementsOf e he).1.element
    exact (hc.siblings.1 n hn).1.mono (Nat.le_of_lt hb) (Nat.le_refl _)
  · exact (h.mem_elementsOf e he).1.element.1
  · obtain ⟨_, body, _, hhead, _⟩ := (h.mem_elementsOf e he).1.element
    exact hhead.values

/-! ## Readings -/

/-- **A placed forest**: its nodes are, and its stray end tags are ranges of the template. -/
structure Forest.Placed (literal : Text → Text) (template : Text) (f : Forest) : Prop where
  nodes : PlacedIn literal template 0 template.length f.nodes
  strays : ∀ r ∈ f.strays, r.Within 0 template.length

/-- **What a reading of placed markup gives is placed.**  `s` is what is left of `m` from `pos` on. -/
theorem readFrom?_placed {m s : Text} {g : Growth} {pos : Nat} {f : Forest} (hlength : m.length = template.length)
    (hm : ∀ i : Nat, m[i]? = some '<' → template[i]? = some '<') (hs : Advances 0 m pos s)
    (hg : g.Placed template pos) (hf : readFrom? template g pos s = some f) : f.Placed id template := by
  fun_induction readFrom? template g pos s with
  | case1 g pos s gap heq =>
    have hadv := hs.trans (Advances.takeWhile pos isGap s)
    rw [heq] at hadv
    have hlen : pos + gap = m.length := by simpa using hadv.length_eq
    unfold finish? at hf
    dsimp only at hf
    split at hf
    · cases hf
      have h1 := Growth.settle_placed (Growth.closeMany_placed g.opened.length (hg.mono (Nat.le_add_right pos gap)))
      have hend : pos + gap = template.length := hlen.trans hlength
      refine ⟨?_, fun r hr => hend ▸ h1.strays r (List.mem_reverse.1 hr)⟩
      rw [← hend]
      exact (h1.settled (Growth.settle_run _)).roots_placed
    · cases hf
  | case2 => cases hf
  | case3 g pos s gap c r heq st hst ih =>
    have hadv := hs.trans (Advances.takeWhile pos isGap s)
    rw [heq] at hadv
    have hopen : c = '<' → template[pos + gap]? = some '<' := by
      rintro rfl
      refine hm _ ?_
      have hdrop := hadv.drop_eq
      rw [Nat.sub_zero] at hdrop
      rw [← List.head?_drop, hdrop, List.head?_cons]
    obtain ⟨hst1, hst2⟩ := step?_placed (hg.mono (Nat.le_add_right pos gap)) hopen hst
    exact ih (hadv.trans hst2) hst1 hf

theorem markLength_le (s : Text) : markLength s ≤ s.length := by
  unfold markLength
  cases s with
  | nil => exact Nat.le_refl 0
  | cons c s =>
    rw [List.length_cons]
    split <;> omega

theorem readMarkup?_placed {f : Forest} (h : readMarkup? template = some f) : f.Placed id template := by
  unfold readMarkup? at h
  dsimp only at h
  split at h
  · cases h
  · have hmark := Advances.drop 0 _ _ (markLength_le (mask template))
    rw [Nat.zero_add] at hmark
    exact readFrom?_placed (length_mask template) (fun _ => getElem?_of_mask) hmark
      (Growth.empty_placed.mono (Nat.zero_le _)) h

/-! ## Conversion -/

theorem keeps_octetSpan (s : Text) : Keeps (fun r => (OffsetMap.ofText s).span (octetSpan s r)) s := by
  intro r hr
  unfold OffsetMap.span octetSpan
  dsimp only
  rw [OffsetMap.char_octets (Nat.le_trans hr.2.1 hr.2.2), OffsetMap.char_octets hr.2.2]

/-- **A forest with the character references of its literal values replaced.** -/
def Forest.decoded (f : Forest) : Forest := f.convert id Entity.decode

theorem Forest.Placed.convert_eq {place : Span → Span} {f : Forest} (h : f.Placed id template)
    (hplace : Keeps place template) : f.convert place Entity.decode = f.decoded := by
  unfold decoded convert
  rw [h.nodes.convert_place hplace _ (Nat.le_refl _),
    List.map_congr_left fun r hr => (hplace r (h.strays r hr)).trans (id_eq r).symm]

/-- **A template is read** as its markup is, with the character references of its literal values replaced; spans stay as
they are. -/
theorem read_eq (template : Text) : read template =
    match readMarkup? template with
    | none => .error .markup
    | some f =>
      match f.longNumber? with
      | some digits => .error (.longNumber digits)
      | none => .ok f.decoded := by
  have hkeeps := keeps_octetSpan (mask template)
  unfold Keeps at hkeeps
  rw [length_mask] at hkeeps
  unfold read
  cases h : readMarkup? template with
  | none => rfl
  | some f =>
    dsimp only
    cases f.longNumber? with
    | some digits => rfl
    | none => exact congrArg Except.ok ((readMarkup?_placed h).convert_eq hkeeps)

theorem read_eq_markup_iff : read template = .error .markup ↔ readMarkup? template = none := by
  rw [read_eq]
  cases readMarkup? template with
  | none => exact iff_of_true rfl rfl
  | some f => cases h : f.longNumber? <;> simp [h]

theorem read_eq_ok_iff {f : Forest} :
    read template = .ok f ↔ ∃ raw, readMarkup? template = some raw ∧ raw.longNumber? = none ∧ raw.decoded = f := by
  rw [read_eq]
  cases readMarkup? template with
  | none => simp
  | some raw => cases h : raw.longNumber? <;> simp [h]

theorem read?_eq_some_iff {f : Forest} :
    read? template = some f ↔ ∃ raw, readMarkup? template = some raw ∧ raw.longNumber? = none ∧ raw.decoded = f := by
  rw [← read_eq_ok_iff, read?]
  cases read template <;> simp [Except.toOption]

theorem read?_placed {f : Forest} (h : read? template = some f) :
    PlacedIn Entity.decode template 0 template.length f.nodes := by
  obtain ⟨raw, hraw, -, rfl⟩ := read?_eq_some_iff.1 h
  exact (readMarkup?_placed hraw).nodes.convert

/-- **The spans of every template that is read** are ranges of the template and properly nested, its elements start at
ever later `<`, and its values are what stands at their spans. -/
theorem read?_wellSpanned (template : Text) (f : Forest) (h : read? template = some f) :
    WellSpanned template f.nodes :=
  (read?_placed h).wellSpanned

/-- A paragraph between a text and an empty element: a two-way binding, a character reference, an expression with a
`<`, and a comment. -/
def paragraph : Text := "é<p [(x)]=\"y\">&#38; {{ a < b }}<!-- > --></p><b/>".toList

def paragraphNodes : List Node :=
  [.text "é".toList ⟨0, 1⟩,
    .element ⟨false, "p".toList, ⟨1, 45⟩, [], [⟨"x".toList, "y".toList, ⟨11, 12⟩⟩],
      [⟨"xChange".toList, "y".toList, ⟨11, 12⟩⟩], []⟩ [.text "& {{ a < b }}".toList ⟨14, 31⟩],
    .element ⟨false, "b".toList, ⟨45, 49⟩, [], [], [], []⟩ []]

theorem read?_paragraph : read? paragraph = some ⟨paragraphNodes, []⟩ := by decide +kernel

theorem read?_wellSpanned_paragraph :
    read? paragraph = some ⟨paragraphNodes, []⟩ ∧ WellSpanned paragraph paragraphNodes :=
  ⟨read?_paragraph, read?_wellSpanned paragraph ⟨paragraphNodes, []⟩ read?_paragraph⟩

end Template
end ViewAtlas
