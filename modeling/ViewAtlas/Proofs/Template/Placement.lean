import ViewAtlas.Proofs.Template.Offsets
import ViewAtlas.Template.Conversion
/-!
# Placed nodes and growths

A node is placed in a template when its spans are where it says: an element starts at a `<`, its attributes lie in its
tag, its children follow the tag one after the other and end before it does, and each value is read off at its span.
A growth is placed when its finished nodes are and each of them ends before what is still open goes on (`Frames`).
Every operation of a growth keeps that.  The conversion of placed nodes leaves their spans as they are
(`PlacedIn.convert_place`), and what it makes of them is placed (`PlacedIn.convert`).
-/
namespace ViewAtlas
namespace Template

variable {literal : Text → Text} {place : Span → Span} {template : Text} {lo hi hi' pos stop : Nat}

/-! ## Nodes -/

def Head.all (h : Head) : List Attribute := h.attributes ++ (h.inputs ++ h.outputs ++ h.directives)

/-- **The tag of an element lies between two offsets**: its name is one of tags, its attributes lie there, and each
binding has the text at its span. -/
structure Head.Placed (template : Text) (lo hi : Nat) (h : Head) : Prop where
  name : ∀ c ∈ h.name, isTagNameChar c = true
  within : ∀ a ∈ h.all, a.span.Within lo hi
  values : ∀ a ∈ h.inputs ++ h.outputs ++ h.directives, a.value = a.span.slice template

mutual

/-- **A node where it says that it is**, a text being what `literal` makes of what stands there.  The children of an
element stand between `body`, where its tag ends, and its own end. -/
def Placed (literal : Text → Text) (template : Text) : Node → Prop
  | .text value r => r.start < r.stop ∧ value = literal (r.slice template)
  | .element h children =>
    template[h.span.start]? = some '<' ∧
      ∃ body, h.span.start < body ∧ h.Placed template h.span.start body ∧
        PlacedIn literal template body h.span.stop children

/-- **Nodes one after the other** between two offsets. -/
def PlacedIn (literal : Text → Text) (template : Text) (lo hi : Nat) : List Node → Prop
  | [] => lo ≤ hi
  | n :: rest => lo ≤ n.span.start ∧ Placed literal template n ∧ PlacedIn literal template n.span.stop hi rest

end

mutual

theorem Placed.lt : ∀ {n : Node}, Placed literal template n → n.span.start < n.span.stop
  | .text _ _, h => by
    rw [Placed] at h
    exact h.1
  | .element _ _, h => by
    rw [Placed] at h
    obtain ⟨_, body, hb, _, hc⟩ := h
    exact Nat.lt_of_lt_of_le hb hc.le

theorem PlacedIn.le : ∀ {l : List Node} {lo hi : Nat}, PlacedIn literal template lo hi l → lo ≤ hi
  | [], _, _, h => by simpa only [PlacedIn] using h
  | _ :: _, _, _, h => by
    rw [PlacedIn] at h
    have h1 := h.2.1.lt
    have h2 := h.2.2.le
    omega

end

theorem PlacedIn.mono : ∀ {l : List Node} {lo : Nat}, PlacedIn literal template lo hi l → hi ≤ hi' →
    PlacedIn literal template lo hi' l
  | [], _, h, hle => by
    rw [PlacedIn] at h ⊢
    exact Nat.le_trans h hle
  | _ :: _, _, h, hle => by
    rw [PlacedIn] at h ⊢
    exact ⟨h.1, h.2.1, h.2.2.mono hle⟩

theorem PlacedIn.snoc {n : Node} (hn : Placed literal template n) (hstart : hi ≤ n.span.start) (hstop : n.span.stop ≤ hi') :
    ∀ {l : List Node} {lo : Nat}, PlacedIn literal template lo hi l → PlacedIn literal template lo hi' (l ++ [n])
  | [], _, h => by
    rw [PlacedIn] at h
    rw [List.nil_append, PlacedIn, PlacedIn]
    exact ⟨Nat.le_trans h hstart, hn, hstop⟩
  | _ :: _, _, h => by
    rw [PlacedIn] at h
    rw [List.cons_append, PlacedIn]
    exact ⟨h.1, h.2.1, h.2.2.snoc hn hstart hstop⟩

/-! ## The head of an element -/

theorem Head.Placed.bind {h : Head} {a : WrittenAttribute} (hp : h.Placed template lo hi) (ha : a.Within lo hi) :
    (h.bind template a).Placed template lo hi := by
  obtain ⟨hn, hw, hv⟩ := hp
  unfold Head.bind
  simp only [Head.all, List.mem_append] at hw hv
  dsimp only
  split <;> refine ⟨hn, fun b hb => ?_, fun b hb => ?_⟩ <;>
    simp only [Head.all, List.mem_append, List.mem_singleton] at hb
  all_goals grind [WrittenAttribute.Within]

theorem Head.bind_span (h : Head) (a : WrittenAttribute) : (h.bind template a).span = h.span := by
  unfold Head.bind
  dsimp only
  split <;> rfl

theorem foldl_bind_placed : ∀ {l : List WrittenAttribute} {h : Head}, (∀ a ∈ l, a.Within lo hi) →
    h.Placed template lo hi → (l.foldl (Head.bind template) h).Placed template lo hi ∧
      (l.foldl (Head.bind template) h).span = h.span
  | [], _, _, hp => ⟨hp, rfl⟩
  | a :: _, _, ha, hp => by
    have := foldl_bind_placed (fun b hb => ha b (List.mem_cons_of_mem _ hb))
      (hp.bind (ha a (List.mem_cons_self ..)))
    rwa [Head.bind_span] at this

theorem StartTag.head_placed (template : Text) {tag : StartTag} (r : Span) (h : tag.Within lo hi) :
    (tag.head template r).Placed template lo hi ∧ (tag.head template r).span = r :=
  foldl_bind_placed h.attributes ⟨h.name, by simp [Head.all], by simp⟩

/-! ## Conversion -/

/-- The spans of a text stay as they are. -/
def Keeps (place : Span → Span) (template : Text) : Prop := ∀ r : Span, r.Within 0 template.length → place r = r

theorem Head.Placed.convert_place {h : Head} (hp : h.Placed template lo hi) (hplace : Keeps place template)
    (hle : hi ≤ template.length) (hspan : h.span.Within 0 template.length) (f : Text → Text) :
    h.convert place f = h.convert id f := by
  have hlist : ∀ (g : Text → Text) (l : List Attribute), (∀ a ∈ l, a ∈ h.all) →
      l.map (Attribute.convert place g) = l.map (Attribute.convert id g) := fun g l hl =>
    List.map_congr_left fun a ha => by
      unfold Attribute.convert
      rw [hplace _ ((hp.within a (hl a ha)).mono (Nat.zero_le lo) hle), id]
  unfold Head.all at hlist
  unfold Head.convert
  rw [hplace _ hspan, hlist f h.attributes (by grind), hlist id h.inputs (by grind), hlist id h.outputs (by grind),
    hlist id h.directives (by grind), id]

mutual

theorem Placed.convert_place (hplace : Keeps place template) (f : Text → Text) : ∀ {n : Node},
    Placed literal template n → n.span.stop ≤ template.length → n.convert place f = n.convert id f
  | .text _ r, hp, hle => by
    have hlt := hp.lt
    rw [Node.convert, Node.convert, hplace r ⟨Nat.zero_le _, Nat.le_of_lt hlt, hle⟩, id]
  | .element h children, hp, hle => by
    have hlt := hp.lt
    rw [Placed] at hp
    obtain ⟨_, body, _, hhead, hc⟩ := hp
    have hbody : body ≤ template.length := Nat.le_trans hc.le hle
    rw [Node.convert, Node.convert, hhead.convert_place hplace hbody ⟨Nat.zero_le _, Nat.le_of_lt hlt, hle⟩ f,
      hc.convert_place hplace f hle]

/-- **The spans of placed nodes stay as they are** where those of the template do. -/
theorem PlacedIn.convert_place (hplace : Keeps place template) (f : Text → Text) : ∀ {l : List Node} {lo hi : Nat},
    PlacedIn literal template lo hi l → hi ≤ template.length → convertAll place f l = convertAll id f l
  | [], _, _, _, _ => by rw [convertAll, convertAll]
  | n :: rest, _, _, hp, hle => by
    rw [PlacedIn] at hp
    rw [convertAll, convertAll, hp.2.1.convert_place hplace f (Nat.le_trans hp.2.2.le hle),
      hp.2.2.convert_place hplace f hle]

end

theorem Node.span_convert (n : Node) : (n.convert id literal).span = n.span := by
  cases n with
  | text | element =>
    rw [Node.convert]
    rfl

theorem Head.Placed.convert {h : Head} (hp : h.Placed template lo hi) : (h.convert id literal).Placed template lo hi := by
  obtain ⟨hname, hwithin, hvalues⟩ := hp
  have hid : ∀ l : List Attribute, l.map (Attribute.convert id id) = l := List.map_id
  refine ⟨hname, fun a ha => ?_, ?_⟩
  · rw [Head.all, Head.convert, hid, hid, hid] at ha
    rcases List.mem_append.1 ha with ha | ha
    · obtain ⟨b, hb, rfl⟩ := List.mem_map.1 ha
      exact hwithin b (List.mem_append_left _ hb)
    · exact hwithin a (List.mem_append_right _ ha)
  · rw [Head.convert, hid, hid, hid]
    exact hvalues

mutual

theorem Placed.convert : ∀ {n : Node}, Placed id template n → Placed literal template (n.convert id literal)
  | .text _ _, hp => by
    rw [Placed] at hp
    rw [Node.convert, Placed]
    exact ⟨hp.1, congrArg literal hp.2⟩
  | .element _ _, hp => by
    rw [Placed] at hp
    obtain ⟨hopen, body, hb, hhead, hc⟩ := hp
    rw [Node.convert, Placed]
    exact ⟨hopen, body, hb, hhead.convert, hc.convert⟩

/-- **Placed nodes are placed when their literal values are converted.** -/
theorem PlacedIn.convert : ∀ {l : List Node} {lo hi : Nat}, PlacedIn id template lo hi l →
    PlacedIn literal template lo hi (convertAll id literal l)
  | [], _, _, hp => by
    rw [PlacedIn] at hp
    rwa [convertAll, PlacedIn]
  | n :: rest, _, _, hp => by
    rw [PlacedIn] at hp
    rw [convertAll, PlacedIn, Node.span_convert]
    exact ⟨hp.1, hp.2.1.convert, hp.2.2.convert⟩

end

end Template
end ViewAtlas
