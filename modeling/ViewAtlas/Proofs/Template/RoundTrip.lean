import ViewAtlas.Proofs.Template.Nesting
import ViewAtlas.Proofs.Template.Places
import ViewAtlas.Proofs.Template.Runs
/-!
# Reading what is printed

The markup of a printable forest is read back as that forest, each node at the place where it was printed
(`read?_render`).  The proof follows the reader along the markup: a node that is printed where the reader stands is
added to what has been read so far (`Node.read`), and so are neighbours one after the other (`read_all`).
-/
namespace ViewAtlas
namespace Template

variable {template x : Text}

namespace Growth

/-- The lower case names of the open elements, innermost first. -/
def keys (g : Growth) : List Text := g.opened.map OpenElement.key

theorem keys_add (g : Growth) (n : Node) : (g.add n).keys = g.keys := by
  unfold add keys
  split
  · rfl
  · rename_i e outer ho
    rw [ho]
    rfl

theorem keys_settle (template : Text) (g : Growth) : (g.settle template).keys = g.keys := by
  unfold settle
  split
  · rfl
  · rw [keys_add]
    rfl

theorem settle_of_run {g : Growth} (h : g.run = none) : g.settle template = g := by
  unfold settle
  rw [h]

theorem keys_foldl_add : ∀ (l : List Node) (g : Growth), (l.foldl add g).keys = g.keys
  | [], _ => rfl
  | n :: l, g => by rw [List.foldl_cons, keys_foldl_add l, keys_add]

theorem foldl_add_cons : ∀ (l : List Node) (e : OpenElement) (outer : List OpenElement) (g : Growth),
    g.opened = e :: outer →
      l.foldl add g = { g with opened := { e with children := l.reverse ++ e.children } :: outer }
  | [], e, outer, g, h => by
    rw [List.foldl_nil, List.reverse_nil, List.nil_append, ← h]
  | n :: l, e, outer, g, h => by
    have hadd : g.add n = { g with opened := { e with children := n :: e.children } :: outer } := by
      unfold add
      rw [h]
    rw [List.foldl_cons, hadd, foldl_add_cons l { e with children := n :: e.children } outer _ rfl, List.reverse_cons,
      List.append_assoc]
    rfl

theorem foldl_add_nil : ∀ (l : List Node) (g : Growth), g.opened = [] →
    l.foldl add g = { g with roots := l.reverse ++ g.roots }
  | [], g, _ => rfl
  | n :: l, g, h => by
    have hadd : g.add n = { g with roots := n :: g.roots } := by
      unfold add
      rw [h]
    rw [List.foldl_cons, hadd, foldl_add_nil l { g with roots := n :: g.roots } h, List.reverse_cons, List.append_assoc]
    rfl

theorem push_run (template : Text) (g : Growth) (tag : StartTag) (start : Nat) :
    (g.push template tag start).run = none := settle_run g

theorem push_keys (template : Text) (g : Growth) (tag : StartTag) (start : Nat) :
    (g.push template tag start).keys = Text.lower tag.name :: g.keys := by
  rw [← keys_settle template g]
  rfl

theorem close_run (g : Growth) (stop : Nat) : (g.close template stop).run = none := by
  unfold close
  dsimp only
  split
  · exact settle_run g
  · rw [add_run]
    exact settle_run g

/-- **Between its tags, an element gathers the nodes that are added**, and its end makes one node of them. -/
theorem close_push {g g' : Growth} {tag : StartTag} {start stop : Nat} {l : List Node}
    (h : g'.settle template = l.foldl add (g.push template tag start)) :
    g'.close template stop = (g.settle template).add (.element (tag.head template ⟨start, stop⟩) l) := by
  have hopened : (g.push template tag start).opened = ⟨tag, start, []⟩ :: (g.settle template).opened := rfl
  rw [foldl_add_cons l _ _ _ hopened, List.append_nil] at h
  unfold close
  dsimp only
  rw [h]
  dsimp only
  rw [List.reverse_reverse]
  rfl

end Growth

/-- **Elements that a start tag of this name does not close.** -/
def Admits (keys : List Text) (key : Text) : Prop := ∀ k ∈ keys.head?, isVoid k = false ∧ canHold k key = true

theorem closedByStart_eq_zero {keys : List Text} {key : Text} (h : Admits keys key) : closedByStart key keys = 0 := by
  cases keys with
  | nil => rfl
  | cons k keys =>
    obtain ⟨h1, h2⟩ := h k rfl
    rw [closedByStart, h1, h2]
    rfl

theorem readEndTag?_print {h : Head} (hp : h.Printable) (pos : Nat) :
    readEndTag? pos (h.name ++ '>' :: x) = some (true, h.name, pos + h.name.length + 1, x) := by
  obtain ⟨c, n, hn, -⟩ := hp.name.eq_cons
  have hbefore : fillerLength (h.name ++ '>' :: x) = 0 := by
    obtain ⟨htag, hc, -⟩ := hp.name.char (hn ▸ List.mem_cons_self .. : c ∈ h.name)
    rw [hn]
    exact fillerLength_cons hc (fun e => absurd (e ▸ htag) (by decide)) _
  have hbehind : fillerLength ('>' :: x) = 0 := fillerLength_cons (by decide) (by decide) x
  have hname : (h.name ++ '>' :: x).takeWhile isTagNameChar = h.name :=
    hp.name.takeWhile (fun _ hc => hc) fun c hc => by
      rw [← Option.some.inj hc]
      decide
  have hne : h.name ≠ [] := by
    rw [hn]
    exact List.cons_ne_nil c n
  unfold readEndTag?
  dsimp only
  rw [hbefore, List.drop_zero, hname, if_neg hne, List.drop_left, hbehind]
  rfl

theorem step?_startTag {s : Text} (hbang : ∀ r, s ≠ '!' :: r) (hslash : ∀ r, s ≠ '/' :: r) (g : Growth) (pos : Nat) :
    step? template g pos '<' s =
      (startTag? template g pos s).map fun (g, stop) => .skip g pos (stop - pos - 1) := by
  unfold step?
  rw [if_pos rfl]
  split
  · rename_i r
    exact absurd rfl (hbang r)
  · rename_i r
    exact absurd rfl (hslash r)
  · rfl

theorem step?_endTag (g : Growth) (pos : Nat) (s : Text) : step? template g pos '<' ('/' :: s) =
    match readEndTag? (pos + 2) s with
    | none => none
    | some (direct, name, stop, _) =>
      (endTag template g direct (Text.lower name) pos stop).map fun g => .skip g pos (stop - pos - 1) := rfl

theorem length_printAttributes_veil (s : Slot) : ∀ l : List Attribute,
    (printAttributes veil s l).length = (printAttributes id s l).length
  | [] => rfl
  | a :: l => by
    have hrest := length_printAttributes_veil s l
    unfold printAttributes at hrest ⊢
    rw [List.flatMap_cons, List.flatMap_cons, List.length_append, List.length_append, hrest, a.length_print_veil]

theorem Head.length_print_veil (h : Head) : (h.print veil).length = (h.print id).length := by
  simp only [Head.print, List.length_append, length_printAttributes_veil]

theorem startTag?_print {h : Head} (hp : h.Printable) {g : Growth} (hg : Admits g.keys (Text.lower h.name))
    (pos : Nat) : startTag? template g pos (h.print veil ++ x) =
      some (g.push template ⟨h.name, h.written (pos + 1), false⟩ pos, pos + 1 + (h.print id).length) := by
  have hclosed : closedByStart (Text.lower h.name) (g.opened.map OpenElement.key) = 0 := closedByStart_eq_zero hg
  unfold startTag?
  rw [readStartTag?_print hp]
  dsimp only
  rw [hclosed, hp.name.notRaw]
  rfl

theorem readFrom?_start {h : Head} (hp : h.Printable) {g : Growth} (hg : Admits g.keys (Text.lower h.name))
    (pos : Nat) : readFrom? template g pos ('<' :: (h.print veil ++ x)) =
      readFrom? template (g.push template ⟨h.name, h.written (pos + 1), false⟩ pos)
        (pos + 1 + (h.print id).length) x := by
  have hstep : step? template g pos '<' (h.print veil ++ x) =
      some (.skip (g.push template ⟨h.name, h.written (pos + 1), false⟩ pos) pos (h.print veil).length) := by
    obtain ⟨r, hr, -⟩ := h.print_eq veil x
    obtain ⟨c, n, hn, -⟩ := hp.name.eq_cons
    have hc := hp.name.char (hn ▸ List.mem_cons_self .. : c ∈ h.name)
    have hsplit : h.print veil ++ x = c :: (n ++ r) := by rw [hr, hn, List.cons_append]
    have hmark : ∀ d ∈ ['!', '/'], isTagNameChar d = false := Text.forall_mem_of_all (by decide)
    have hne : ∀ d ∈ ['!', '/'], ∀ t, h.print veil ++ x ≠ d :: t := fun d hd t e => by
      rw [hsplit] at e
      have := hmark d hd
      rw [← (List.cons.inj e).1, hc.1] at this
      cases this
    rw [step?_startTag (hne '!' (by decide)) (hne '/' (by decide)), startTag?_print hp hg, Option.map_some,
      h.length_print_veil]
    dsimp only
    rw [show pos + 1 + (h.print id).length - pos - 1 = (h.print id).length by omega]
  rw [readFrom?_step (by decide) hstep, Step.skip_growth, Step.skip_pos, Step.skip_rest, List.drop_left,
    h.length_print_veil]

theorem readFrom?_end {h : Head} (hp : h.Printable) {g : Growth} (hg : g.keys.head? = some (Text.lower h.name))
    (pos : Nat) : readFrom? template g pos ('<' :: (h.printEnd ++ x)) =
      readFrom? template (g.close template (pos + 1 + h.printEnd.length)) (pos + 1 + h.printEnd.length) x := by
  have hclosed : closedByEnd (Text.lower h.name) (g.opened.map OpenElement.key) = (0, true) := by
    change closedByEnd (Text.lower h.name) g.keys = (0, true)
    cases hkeys : g.keys with
    | nil =>
      rw [hkeys] at hg
      cases hg
    | cons k keys =>
      rw [hkeys, List.head?_cons] at hg
      rw [closedByEnd, if_pos (Option.some.inj hg)]
  have hstop : pos + 2 + h.name.length + 1 = pos + 1 + h.printEnd.length := by
    simp only [Head.printEnd, List.length_append, List.length_cons, List.length_nil]
    omega
  have hend : endTag template g true (Text.lower h.name) pos (pos + 2 + h.name.length + 1) =
      some (g.close template (pos + 2 + h.name.length + 1)) := by
    unfold endTag
    rw [hclosed]
    rfl
  have hstep : step? template g pos '<' (h.printEnd ++ x) =
      some (.skip (g.close template (pos + 1 + h.printEnd.length)) pos h.printEnd.length) := by
    rw [h.printEnd_append, step?_endTag, readEndTag?_print hp]
    dsimp only
    rw [hend, Option.map_some, hstop]
    rw [show pos + 1 + h.printEnd.length - pos - 1 = h.printEnd.length by omega]
  rw [readFrom?_step (by decide) hstep, Step.skip_growth, Step.skip_pos, Step.skip_rest, List.drop_left]

/-! ## Nodes -/

/-- A printed text is added to what has been read, once something else ends it. -/
theorem StandsAt.settle {t : Text} {g : Growth} (hg : g.run = none) {pos : Nat} (hat : StandsAt template pos t) :
    (g.text ⟨pos, pos + t.length⟩).settle template = g.add (.text t ⟨pos, pos + t.length⟩) := by
  unfold Growth.text Growth.settle
  rw [hg]
  dsimp only
  rw [hat.slice, ← hg]

mutual

/-- **A node that is printed where the reader stands is added to what has been read.** -/
theorem Node.read : ∀ {n : Node}, n.Printable → ∀ {g : Growth} {pos : Nat} {x : Text},
    (∀ h l, n = .element h l → Admits g.keys (Text.lower h.name)) → (n.isText = true → g.run = none ∧ AtTag x) →
      StandsAt template pos (n.print id id) →
        ∃ g', g'.settle template = (g.settle template).add (n.place pos) ∧ (n.isText = false → g'.run = none) ∧
          readFrom? template g pos (n.print veil mask ++ x) =
            readFrom? template g' (pos + (n.print id id).length) x
  | .text t r, hp, g, pos, x, _, hx, hat => by
    rw [Node.Printable] at hp
    rw [Node.print] at hat ⊢
    obtain ⟨hrun, htag⟩ := hx rfl
    refine ⟨g.text ⟨pos, pos + t.length⟩, ?_, fun h => (nomatch h), ?_⟩
    · rw [StandsAt.settle (t := t) hrun hat, Growth.settle_of_run hrun, Node.place]
    · rw [Node.print]
      exact hp.read htag g pos
  | .element h children, hp, g, pos, x, hadmits, _, hat => by
    rw [Node.Printable] at hp
    obtain ⟨hh, hc, hhold⟩ := hp
    have hstop : pos + (Node.print id id (.element h children)).length =
        pos + 1 + (h.print id).length + (printAll id id children).length + 1 + h.printEnd.length := by
      simp only [Node.print, List.length_append, List.length_cons]
      omega
    -- Between the tags, the element is the innermost one.
    have hkeys := Growth.push_keys template g ⟨h.name, h.written (pos + 1), false⟩ pos
    have hrun := Growth.push_run template g ⟨h.name, h.written (pos + 1), false⟩ pos
    have hchildren : ∀ f l, .element f l ∈ children →
        Admits (g.push template ⟨h.name, h.written (pos + 1), false⟩ pos).keys (Text.lower f.name) := by
      intro f l hm k hk
      rw [hkeys] at hk
      cases hk
      exact ⟨hh.name.notVoid, hhold f l hm⟩
    obtain ⟨g₁, hsettle, hread⟩ :=
      read_all hc hchildren (fun _ => hrun) hat.inside.right.left (atTag_cons (h.printEnd ++ x))
    rw [Growth.settle_of_run hrun] at hsettle
    have hkeys₁ : g₁.keys.head? = some (Text.lower h.name) := by
      rw [← Growth.keys_settle template, hsettle, Growth.keys_foldl_add, hkeys, List.head?_cons]
    have hplace : (StartTag.head template ⟨h.name, h.written (pos + 1), false⟩
        ⟨pos, pos + (Node.print id id (.element h children)).length⟩) =
          h.place ⟨pos, pos + (Node.print id id (.element h children)).length⟩ :=
      head_print hh hat.inside.left
    refine ⟨g₁.close template (pos + (Node.print id id (.element h children)).length), ?_,
      fun _ => g₁.close_run _, ?_⟩
    · rw [Growth.settle_of_run (g₁.close_run _), Growth.close_push hsettle, hplace, Node.place]
    · rw [Node.print_append, readFrom?_start hh (hadmits h children rfl), hread, readFrom?_end hh hkeys₁, ← hstop]

/-- **Nodes that are printed where the reader stands are added to what has been read**, one after the other. -/
theorem read_all : ∀ {l : List Node}, PrintableAll l → ∀ {g : Growth} {pos : Nat} {x : Text},
    (∀ h c, .element h c ∈ l → Admits g.keys (Text.lower h.name)) → (l.head?.any Node.isText = true → g.run = none) →
      StandsAt template pos (printAll id id l) → AtTag x →
        ∃ g', g'.settle template = (placeAll pos l).foldl Growth.add (g.settle template) ∧
          readFrom? template g pos (printAll veil mask l ++ x) =
            readFrom? template g' (pos + (printAll id id l).length) x
  | [], _, g, pos, x, _, _, _, _ => by
    rw [placeAll, printAll, printAll]
    exact ⟨g, rfl, rfl⟩
  | n :: rest, hp, g, pos, x, hadmits, hrun, hat, hx => by
    rw [PrintableAll] at hp
    obtain ⟨hn, hrest, hnext⟩ := hp
    rw [printAll] at hat
    obtain ⟨g₁, hsettle, hnode, hread⟩ := Node.read hn (fun h c e => hadmits h c (e ▸ List.mem_cons_self ..))
      (fun ht => ⟨hrun ht, atTag_printAll hx (hnext ht)⟩) hat.left
    have hkeys : g₁.keys = g.keys := by
      rw [← Growth.keys_settle template, hsettle, Growth.keys_add, Growth.keys_settle]
    have hrun₁ : rest.head?.any Node.isText = true → g₁.run = none := fun ht => by
      cases htext : n.isText with
      | false => exact hnode htext
      | true =>
        rw [hnext htext] at ht
        cases ht
    obtain ⟨g₂, hsettle₂, hread₂⟩ := read_all hrest
      (fun h c hm => hkeys ▸ hadmits h c (List.mem_cons_of_mem _ hm)) hrun₁ hat.right hx
    refine ⟨g₂, ?_, ?_⟩
    · rw [hsettle₂, hsettle, placeAll, List.foldl_cons]
    · rw [printAll, printAll, List.append_assoc, hread, hread₂, List.length_append, Nat.add_assoc]

end

theorem finish?_settled {g : Growth} {forest : List Node} (hg : g.settle template = ⟨[], forest.reverse, none, []⟩)
    (pos : Nat) : finish? template g pos = some ⟨forest, []⟩ := by
  have hopened : g.opened = [] := by
    have hkeys := Growth.keys_settle template g
    rw [hg] at hkeys
    exact List.map_eq_nil_iff.1 hkeys.symm
  unfold finish?
  rw [hopened]
  change some (Forest.mk (g.settle template).roots.reverse (g.settle template).strays.reverse) = _
  rw [hg]
  dsimp only
  rw [List.reverse_reverse, List.reverse_nil]

/-! ## No markup holds NUL -/

theorem nul_notMem_printAttributes {s : Slot} : ∀ {l : List Attribute}, (∀ a ∈ l, a.Printable s) →
    '\x00' ∉ printAttributes veil s l
  | [], _ => List.not_mem_nil
  | a :: l, h => by
    have ha := h a (List.mem_cons_self ..)
    have hname : '\x00' ∉ s.spelled a.name := fun hm => (ha.name.spelled.1 _ hm).2 rfl
    have hrest := nul_notMem_printAttributes fun b hb => h b (List.mem_cons_of_mem _ hb)
    unfold printAttributes at hrest ⊢
    rw [List.flatMap_cons, Attribute.print]
    simp [hname, ha.nul, hrest]

theorem ElementName.nul_notMem {name : Text} (h : ElementName name) : '\x00' ∉ name := fun hm =>
  (h.char hm).2.2 (by decide)

theorem nul_notMem_head {h : Head} (hp : h.Printable) : '\x00' ∉ h.print veil := by
  have hname := hp.name.nul_notMem
  have h1 := nul_notMem_printAttributes (l := h.attributes) (hp.attributes .static)
  have h2 := nul_notMem_printAttributes (l := h.inputs) (hp.attributes .input)
  have h3 := nul_notMem_printAttributes (l := h.outputs) (hp.attributes .output)
  have h4 := nul_notMem_printAttributes (l := h.directives) (hp.attributes .directive)
  unfold Head.print
  simp [hname, h1, h2, h3, h4]

theorem nul_notMem_end {h : Head} (hp : h.Printable) : '\x00' ∉ h.printEnd := by
  have hname := hp.name.nul_notMem
  unfold Head.printEnd
  simp [hname]

mutual

theorem nul_notMem_node : ∀ {n : Node}, n.Printable → '\x00' ∉ n.print veil mask
  | .text t r, hp => by
    rw [Node.Printable] at hp
    rw [Node.print]
    exact hp.nul
  | .element h children, hp => by
    rw [Node.Printable] at hp
    have h1 := nul_notMem_head hp.1
    have h2 := nul_notMem_all hp.2.1
    have h3 := nul_notMem_end hp.1
    rw [Node.print]
    simp [h1, h2, h3]

theorem nul_notMem_all : ∀ {l : List Node}, PrintableAll l → '\x00' ∉ printAll veil mask l
  | [], _ => by
    rw [printAll]
    exact List.not_mem_nil
  | n :: rest, hp => by
    rw [PrintableAll] at hp
    rw [printAll, List.mem_append, not_or]
    exact ⟨nul_notMem_node hp.1, nul_notMem_all hp.2.1⟩

end

/-! ## Literal values -/

theorem map_value_placeAttributes (s : Slot) : ∀ (l : List Attribute) (pos : Nat),
    (placeAttributes s pos l).map (·.value) = l.map (·.value)
  | [], _ => rfl
  | a :: l, pos => by
    rw [placeAttributes, List.map_cons, List.map_cons, map_value_placeAttributes s l]

mutual

theorem Node.Printable.literals : ∀ {n : Node}, n.Printable → ∀ pos, ∀ v ∈ (n.place pos).literals, StandsForItself v
  | .text t r, hp, pos, v, hv => by
    rw [Node.Printable] at hp
    rw [Node.place, Node.literals, List.mem_singleton] at hv
    exact hv ▸ hp.plain
  | .element h children, hp, pos, v, hv => by
    rw [Node.Printable] at hp
    rw [Node.place, Node.literals, List.mem_append, Head.place, map_value_placeAttributes] at hv
    rcases hv with hv | hv
    · obtain ⟨a, ha, rfl⟩ := List.mem_map.1 hv
      exact (hp.1.attributes .static a ha).plain rfl
    · exact hp.2.1.literals _ v hv

/-- **The literal values of what is printed stand for themselves.** -/
theorem PrintableAll.literals : ∀ {l : List Node}, PrintableAll l → ∀ pos, ∀ v ∈ literalsOf (placeAll pos l),
    StandsForItself v
  | [], _, pos, v, hv => by
    rw [placeAll, literalsOf] at hv
    cases hv
  | n :: rest, hp, pos, v, hv => by
    rw [PrintableAll] at hp
    rw [placeAll, literalsOf, List.mem_append] at hv
    rcases hv with hv | hv
    · exact hp.1.literals _ v hv
    · exact hp.2.1.literals _ v hv

end

section Convert

variable {f : Text → Text}

theorem Head.convert_eq_self {h : Head} (hf : ∀ a ∈ h.attributes, f a.value = a.value) : h.convert id f = h := by
  have hid : ∀ l : List Attribute, l.map (Attribute.convert id id) = l := List.map_id
  have hattributes : h.attributes.map (Attribute.convert id f) = h.attributes := by
    refine (List.map_congr_left fun a ha => ?_).trans (List.map_id _)
    unfold Attribute.convert
    rw [hf a ha]
    rfl
  unfold Head.convert
  rw [hattributes, hid, hid, hid, id]

mutual

theorem Node.convert_eq_self : ∀ {n : Node}, (∀ v ∈ n.literals, f v = v) → n.convert id f = n
  | .text _ _, hf => by
    rw [Node.literals] at hf
    rw [Node.convert, hf _ (List.mem_singleton_self _), id]
  | .element h children, hf => by
    rw [Node.literals] at hf
    rw [Node.convert, Head.convert_eq_self fun a ha => hf _ (List.mem_append_left _ (List.mem_map_of_mem ha)),
      convertAll_eq_self fun v hv => hf v (List.mem_append_right _ hv)]

/-- **A conversion that changes no literal value changes nothing.** -/
theorem convertAll_eq_self : ∀ {l : List Node}, (∀ v ∈ literalsOf l, f v = v) → convertAll id f l = l
  | [], _ => by rw [convertAll]
  | n :: rest, hf => by
    rw [literalsOf] at hf
    rw [convertAll, Node.convert_eq_self fun v hv => hf v (List.mem_append_left _ hv),
      convertAll_eq_self fun v hv => hf v (List.mem_append_right _ hv)]

end

end Convert

/-! ## The round trip -/

/-- A paragraph with an attribute of each list, an expression with a `<`, and an element that no standard names, before
a text. -/
def greeting : List Node :=
  [.element ⟨false, "p".toList, default, [⟨"id".toList, "a'b".toList, default⟩],
      [⟨"@fade".toList, "x > 1".toList, default⟩], [⟨"click".toList, "go()".toList, default⟩],
      [⟨"ngIf".toList, "a < b".toList, default⟩]⟩
    [.text "é \x7b\x7b a < b \x7d\x7d > c".toList default,
      .element ⟨false, "x-y".toList, default, [], [], [], []⟩ [], .text "b".toList default],
    .text "z < 1".toList default]

theorem printableAll_greeting : PrintableAll greeting := by
  have hnames : (isVoid (Text.lower "p".toList) = false ∧ isVoid (Text.lower "x-y".toList) = false) ∧
      canHold (Text.lower "p".toList) (Text.lower "x-y".toList) = true := by
    unfold isVoid canHold voidNames notInParagraph namesOf
    simp only [List.flatMap_cons, List.flatMap_nil]
    -- evaluation is slow in taking the characters of a literal, so they are taken first
    repeat rw [String.toList_ofList]
    decide +kernel
  obtain ⟨⟨houter, hinner⟩, hholds⟩ := hnames
  have hempty : Head.Printable ⟨false, "x-y".toList, default, [], [], [], []⟩ :=
    ⟨⟨by decide, by decide +kernel, hinner, by decide +kernel⟩, by decide +kernel, Slot.forall_iff.2 (by decide +kernel)⟩
  unfold greeting
  rw [PrintableAll, Node.Printable, ← forall_isHeldBy_iff]
  refine ⟨⟨⟨⟨by decide, by decide, houter, by decide⟩, by decide, Slot.forall_iff.2 (by decide +kernel)⟩, ?_, ?_⟩, ?_⟩
  · simp only [PrintableAll, Node.Printable]
    exact ⟨by decide +kernel, ⟨⟨hempty, trivial, by simp⟩, ⟨by decide +kernel, trivial, by simp⟩, by simp [Node.isText]⟩,
      by simp [Node.isText]⟩
  · simpa [Node.isHeldBy] using hholds
  · exact ⟨by decide +kernel, by simp [Node.isText]⟩

mutual

/-- **A node with names and a nesting that are read as they are printed**, whatever its values and texts are. -/
def Node.isNamed : Node → Bool
  | .text .. => true
  | .element h children =>
    decide (ElementName h.name) && h.container == containerNames.contains (Text.lower h.name) &&
      h.attributes.all (fun a => a.name ≠ [] && a.name.all fun c => c = '.' || c = '-' || Text.isAlphanumeric c) &&
      children.all (Node.isHeldBy h) && areNamed children

def areNamed : List Node → Bool
  | [] => true
  | n :: rest => n.isNamed && areNamed rest

end

def paragraphWith (s : Slot) (name value text : Text) : Node :=
  .element (Head.extend ⟨false, "p".toList, default, [], [], [], []⟩ [⟨name, value, default⟩] s) [.text text default]

/-- Texts that run together, lose an end, or hold a tag, an `&`, a character reference, NUL, or a part of an
expression; attributes with such values; attributes whose names mean something else; a value that begins with a
comment, and a byte order mark at the start. -/
def misread : List (List Node) :=
  [[.text ['a'] default, .text ['b'] default], [.text [' ', 'a'] default], [.text ['a', ' '] default],
    [.text ['>', 'a'] default], [.text ['a', '>'] default], [.text "a<b".toList default],
    [.text "a & b".toList default], [.text "&#38;".toList default], [.text ['\x00'] default],
    [.text "\x7b\x7b".toList default, paragraphWith .static "id".toList ['v'] "\x7d\x7d".toList],
    [paragraphWith .static "id".toList ['"'] ['a']], [paragraphWith .static "id".toList "&#38;".toList ['a']],
    [paragraphWith .output ['x'] ['\x00'] ['a']],
    [paragraphWith .static "id".toList "\x7b\x7b".toList "\x7d\x7d".toList],
    [paragraphWith .static "on-x".toList ['v'] ['a']], [paragraphWith .input "(x)".toList ['v'] ['a']],
    [paragraphWith .output "x y".toList ['v'] ['a']],
    [paragraphWith .directive "x\x7b\x7b".toList ['v'] "\x7d\x7d".toList],
    [paragraphWith .static "id".toList "<!-- x -->".toList ['a']], [.text "\uFEFFa".toList default]]

end Template
end ViewAtlas
