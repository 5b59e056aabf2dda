import ViewAtlas.Proofs.Template.Tags
/-!
# The places of what is printed

The spans of a placed forest are the places of its own markup (`placeAll_spans`): that of an element reaches from the
`<` of its start tag to the end of its end tag, that of a static attribute from its name to the closing quote, that of
any other attribute over its value, and that of a text over its characters.
-/
namespace ViewAtlas
namespace Template

variable {template : Text}

/-- What the span of an attribute covers. -/
def Attribute.covered (s : Slot) (a : Attribute) : Text :=
  match s with
  | .static => a.name ++ '=' :: '"' :: a.value ++ ['"']
  | _ => a.value

mutual

/-- **A node whose spans are the places of its markup.** -/
def Node.Spans (template : Text) : Node → Prop
  | .text t r => r.slice template = t
  | .element h children =>
    h.span.slice template = Node.print id id (.element h children) ∧
      (∀ s, ∀ a ∈ h.list s, a.span.slice template = a.covered s) ∧ SpansAll template children

/-- **Nodes whose spans are the places of their markup.** -/
def SpansAll (template : Text) : List Node → Prop
  | [] => True
  | n :: rest => n.Spans template ∧ SpansAll template rest

end

/-! ## Placing changes no markup -/

theorem printAttributes_place (s : Slot) : ∀ (l : List Attribute) (pos : Nat),
    printAttributes id s (placeAttributes s pos l) = printAttributes id s l
  | [], _ => rfl
  | a :: l, pos => by
    have hrest := printAttributes_place s l (pos + (a.print id s).length)
    unfold printAttributes at hrest ⊢
    rw [placeAttributes, List.flatMap_cons, List.flatMap_cons, hrest]
    rfl

theorem Head.print_place (r : Span) (h : Head) : (h.place r).print id = h.print id := by
  unfold Head.print Head.place
  dsimp only
  rw [printAttributes_place, printAttributes_place, printAttributes_place, printAttributes_place]

mutual

theorem Node.print_place : ∀ (n : Node) (pos : Nat), (n.place pos).print id id = n.print id id
  | .text t r, pos => by rw [Node.place, Node.print, Node.print]
  | .element h children, pos => by
    rw [Node.place, Node.print, Node.print, Head.print_place, printAll_placeAll children]
    rfl

/-- **A placed forest has the same markup.** -/
theorem printAll_placeAll : ∀ (l : List Node) (pos : Nat), printAll id id (placeAll pos l) = printAll id id l
  | [], _ => by rw [placeAll]
  | n :: rest, pos => by rw [placeAll, printAll, printAll, Node.print_place n, printAll_placeAll rest]

end

/-! ## Spans -/

theorem slice_spanAt {s : Slot} {a : Attribute} {pos : Nat} (h : StandsAt template pos (a.print id s)) :
    (a.spanAt s pos).slice template = a.covered s := by
  cases s with
  | static =>
    have hat : StandsAt template (pos + 1) (a.name ++ '=' :: '"' :: a.value ++ ['"']) := StandsAt.right (a := [' ']) h
    have hlength : pos + (a.print id .static).length =
        pos + 1 + (a.name ++ '=' :: '"' :: a.value ++ ['"']).length := by
      change pos + ((a.name ++ '=' :: '"' :: a.value ++ ['"']).length + 1) = _
      omega
    have hslice := hat.slice
    rw [← hlength] at hslice
    exact hslice
  | input | output | directive => exact h.value

theorem slice_placeAttributes {s : Slot} : ∀ {l : List Attribute} {pos : Nat},
    StandsAt template pos (printAttributes id s l) → ∀ a ∈ placeAttributes s pos l, a.span.slice template = a.covered s
  | [], _, _, _, ha => nomatch ha
  | a :: l, pos, h, b, hb => by
    unfold printAttributes at h
    rw [List.flatMap_cons] at h
    rcases List.mem_cons.1 hb with rfl | hb
    · exact slice_spanAt h.left
    · exact slice_placeAttributes h.right b hb

mutual

theorem Node.place_spans : ∀ {n : Node} {pos : Nat}, StandsAt template pos (n.print id id) →
    (n.place pos).Spans template
  | .text t r, pos, h => by
    rw [Node.print] at h
    rw [Node.place, Node.Spans]
    exact h.slice
  | .element h children, pos, hat => by
    have hprint := Node.print_place (.element h children) pos
    rw [Node.place] at hprint ⊢
    rw [Node.Spans, hprint]
    refine ⟨hat.slice, fun s => ?_, placeAll_spans hat.inside.right.left⟩
    cases s with
    | static => exact slice_placeAttributes (hat.inside.left.list .static)
    | input => exact slice_placeAttributes (hat.inside.left.list .input)
    | output => exact slice_placeAttributes (hat.inside.left.list .output)
    | directive => exact slice_placeAttributes (hat.inside.left.list .directive)

/-- **Placed nodes have the spans of their markup**, where that stands in a template. -/
theorem placeAll_spans : ∀ {l : List Node} {pos : Nat}, StandsAt template pos (printAll id id l) →
    SpansAll template (placeAll pos l)
  | [], _, _ => by
    rw [placeAll, SpansAll]
    trivial
  | n :: rest, pos, h => by
    rw [printAll] at h
    rw [placeAll, SpansAll]
    exact ⟨Node.place_spans h.left, placeAll_spans h.right⟩

end

end Template
end ViewAtlas
