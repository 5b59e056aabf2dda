import ViewAtlas.Template.Conversion
import ViewAtlas.Proofs.Template.Offsets
import ViewAtlas.Proofs.Template.Pieces
/-!
# Printing a forest

A forest is printed as markup, each of the four lists of an element in its own spelling (`render`).  `placeAll` gives
the nodes of a forest the spans that they have in that markup and changes nothing else (`bareAll_placeAll`).
`PrintableAll` says of a forest that its markup means what it is printed from: names that are read as they are written,
and values and texts that keep to their places.
-/
namespace ViewAtlas
namespace Template

open Text (Entity.decode Entity.longNumber?)

/-- **A list of an element** that an attribute is in. -/
inductive Slot where
  | static
  | input
  | output
  | directive
  deriving DecidableEq

/-- How the name of an attribute is spelled in markup. -/
def Slot.spelled : Slot → Text → Text
  | static, n => n
  | input, n => '[' :: n ++ [']']
  | output, n => '(' :: n ++ [')']
  | directive, n => '*' :: n

def Head.list (h : Head) : Slot → List Attribute
  | .static => h.attributes
  | .input => h.inputs
  | .output => h.outputs
  | .directive => h.directives

/-! ## Markup

Besides the markup of a forest, proofs speak of that markup with its values and its texts masked, so both are printed
through a function. -/

def Attribute.print (value : Text → Text) (s : Slot) (a : Attribute) : Text :=
  ' ' :: s.spelled a.name ++ '=' :: '"' :: value a.value ++ ['"']

def printAttributes (value : Text → Text) (s : Slot) (l : List Attribute) : Text := l.flatMap (Attribute.print value s)

def Head.print (value : Text → Text) (h : Head) : Text :=
  h.name ++ printAttributes value .static h.attributes ++ printAttributes value .input h.inputs ++
    printAttributes value .output h.outputs ++ printAttributes value .directive h.directives ++ ['>']

def Head.printEnd (h : Head) : Text := '/' :: h.name ++ ['>']

mutual

def Node.print (value text : Text → Text) : Node → Text
  | .text t _ => text t
  | .element h children => '<' :: h.print value ++ printAll value text children ++ '<' :: h.printEnd

def printAll (value text : Text → Text) : List Node → Text
  | [] => []
  | n :: rest => n.print value text ++ printAll value text rest

end

theorem Head.printEnd_append (h : Head) (x : Text) : h.printEnd ++ x = '/' :: (h.name ++ '>' :: x) := by
  simp [Head.printEnd]

theorem Node.print_append (value text : Text → Text) (h : Head) (children : List Node) (x : Text) :
    Node.print value text (.element h children) ++ x =
      '<' :: (h.print value ++ (printAll value text children ++ '<' :: (h.printEnd ++ x))) := by
  simp [Node.print]

/-- **The markup of a forest.** -/
def render (forest : List Node) : Text := printAll id id forest

/-! ## Places -/

/-- The span of an attribute that is printed at an offset: all of it for a static one, and what stands between the
quotes for the others. -/
def Attribute.spanAt (s : Slot) (pos : Nat) (a : Attribute) : Span :=
  match s with
  | .static => ⟨pos + 1, pos + (a.print id s).length⟩
  | _ =>
    let start := pos + 1 + (s.spelled a.name).length + 2
    ⟨start, start + a.value.length⟩

def placeAttributes (s : Slot) (pos : Nat) : List Attribute → List Attribute
  | [] => []
  | a :: rest => { a with span := a.spanAt s pos } :: placeAttributes s (pos + (a.print id s).length) rest

/-- Where a list of an element is printed, when its start tag is printed from an offset on. -/
def Head.offset (h : Head) (pos : Nat) (s : Slot) : Nat :=
  let before := match s with
    | .static => []
    | .input => printAttributes id .static h.attributes
    | .output => printAttributes id .static h.attributes ++ printAttributes id .input h.inputs
    | .directive =>
      printAttributes id .static h.attributes ++ printAttributes id .input h.inputs ++
        printAttributes id .output h.outputs
  pos + (h.name ++ before).length

def Head.place (r : Span) (h : Head) : Head :=
  { h with
    span := r
    attributes := placeAttributes .static (h.offset (r.start + 1) .static) h.attributes
    inputs := placeAttributes .input (h.offset (r.start + 1) .input) h.inputs
    outputs := placeAttributes .output (h.offset (r.start + 1) .output) h.outputs
    directives := placeAttributes .directive (h.offset (r.start + 1) .directive) h.directives }

mutual

/-- **A node at the place where it is printed**, from an offset on. -/
def Node.place (pos : Nat) : Node → Node
  | .text t _ => .text t ⟨pos, pos + t.length⟩
  | .element h children =>
    .element (h.place ⟨pos, pos + (Node.print id id (.element h children)).length⟩)
      (placeAll (pos + 1 + (h.print id).length) children)

/-- **The nodes of a forest at the places where they are printed**, from an offset on. -/
def placeAll (pos : Nat) : List Node → List Node
  | [] => []
  | n :: rest => n.place pos :: placeAll (pos + (n.print id id).length) rest

end

/-! ## The same but for spans -/

def Attribute.bare (a : Attribute) : Attribute := { a with span := default }

def Head.bare (h : Head) : Head :=
  { h with
    span := default
    attributes := h.attributes.map Attribute.bare
    inputs := h.inputs.map Attribute.bare
    outputs := h.outputs.map Attribute.bare
    directives := h.directives.map Attribute.bare }

mutual

def Node.bare : Node → Node
  | .text t _ => .text t default
  | .element h children => .element h.bare (bareAll children)

/-- **The nodes of a forest without their spans.** -/
def bareAll : List Node → List Node
  | [] => []
  | n :: rest => n.bare :: bareAll rest

end

theorem map_bare_placeAttributes (s : Slot) : ∀ (l : List Attribute) (pos : Nat),
    (placeAttributes s pos l).map Attribute.bare = l.map Attribute.bare
  | [], _ => rfl
  | a :: l, pos => by
    rw [placeAttributes, List.map_cons, List.map_cons, map_bare_placeAttributes s l]
    rfl

theorem Head.bare_place (r : Span) (h : Head) : (h.place r).bare = h.bare := by
  unfold Head.place Head.bare
  dsimp only
  rw [map_bare_placeAttributes, map_bare_placeAttributes, map_bare_placeAttributes, map_bare_placeAttributes]

mutual

theorem Node.bare_place : ∀ (n : Node) (pos : Nat), (n.place pos).bare = n.bare
  | .text t r, pos => by rw [Node.place, Node.bare, Node.bare]
  | .element h children, pos => by
    rw [Node.place, Node.bare, Node.bare, Head.bare_place, bareAll_placeAll children]

theorem bareAll_placeAll : ∀ (l : List Node) (pos : Nat), bareAll (placeAll pos l) = bareAll l
  | [], _ => by rw [placeAll]
  | n :: rest, pos => by
    rw [placeAll, bareAll, bareAll, Node.bare_place n, bareAll_placeAll rest]

end

/-! ## What can be printed -/

/-- **A name of an element** whose content is markup and which has an end tag. -/
structure ElementName (name : Text) : Prop where
  starts : name.head?.any Char.isAlpha = true
  chars : ∀ c ∈ name, c.isAlphanum = true ∨ c = '-'
  notVoid : isVoid (Text.lower name) = false
  notRaw : rawTextNames.contains (Text.lower name) = false

/-- The starts of names that bind something without a bracket. -/
def bindingStarts : List Text := ["bindon-", "bind-", "on-", "ref-", "let-"].map String.toList

/-- **A name of an attribute** that is read in its list.  A static one is made up of letters, digits, `.` and `-`; any
other of the characters of such names, as long as no expression begins in its spelling and an input is no two-way
binding. -/
def Slot.Names : Slot → Text → Prop
  | .static, n =>
    n ≠ [] ∧ (∀ c ∈ n, (c = '.' || c = '-' || Text.isAlphanumeric c) = true) ∧ ∀ p ∈ bindingStarts, ¬ p <+: n
  | s, n =>
    (∀ c ∈ n, isAttributeNameChar c = true ∧ c ≠ '\x00') ∧ Inert (s.spelled n ++ ['=']) ∧
      ¬ (s = .input ∧ n.head? = some '(' ∧ n.getLast? = some ')')

/-- **A text that stands for itself**: its character references can be read, and replacing them changes nothing. -/
def StandsForItself (t : Text) : Prop := Entity.longNumber? t = none ∧ Entity.decode t = t

instance (t : Text) : Decidable (StandsForItself t) := inferInstanceAs (Decidable (_ ∧ _))

/-- **An attribute that is read as it is printed**: its value keeps between the quotes and begins with no comment. -/
structure Attribute.Printable (s : Slot) (a : Attribute) : Prop where
  name : s.Names a.name
  closed : Sealed a.value
  quotes : '"' ∉ veil a.value
  nul : '\x00' ∉ veil a.value
  comment : opensComment (veil a.value) = false
  plain : s = .static → StandsForItself a.value

/-- **A text that is read as it is printed**: it keeps between the tags, no gap is lost at its ends, and each `&` in it
is read as a reference that stands for itself. -/
structure PrintableText (t : Text) : Prop where
  closed : Sealed t
  markup : '<' ∉ mask t
  nul : '\x00' ∉ mask t
  first : (mask t).head?.any (!isGap ·) = true
  last : (mask t).getLast?.any (!isGap ·) = true
  references : ∀ u ∈ (mask t).tails, ∀ r ∈ Text.after? ['&'] u, (referenceLength? r).isSome = true
  plain : StandsForItself t

/-- **An element that is read as it is printed**, its children apart. -/
structure Head.Printable (h : Head) : Prop where
  name : ElementName h.name
  container : h.container = containerNames.contains (Text.lower h.name)
  attributes : ∀ s, ∀ a ∈ h.list s, a.Printable s

def Node.isText : Node → Bool
  | .text .. => true
  | .element .. => false

mutual

/-- **A node that is read as it is printed.**  No child closes an element by its start. -/
def Node.Printable : Node → Prop
  | .text t _ => PrintableText t
  | .element h children =>
    h.Printable ∧ PrintableAll children ∧
      ∀ g l, .element g l ∈ children → canHold (Text.lower h.name) (Text.lower g.name) = true

/-- **Nodes that are read as they are printed.**  No two texts are neighbours. -/
def PrintableAll : List Node → Prop
  | [] => True
  | n :: rest => n.Printable ∧ PrintableAll rest ∧ (n.isText = true → rest.head?.any Node.isText = false)

end

/-- **A forest that is read as it is printed**: its nodes are, and it does not begin with a byte order mark. -/
structure PrintableForest (forest : List Node) : Prop where
  nodes : PrintableAll forest
  unmarked : (render forest).head? ≠ some byteOrderMark

/-! Whether a forest can be printed is decided part by part. -/

instance (name : Text) : Decidable (ElementName name) :=
  have := List.decidableBAll (fun c : Char => c.isAlphanum = true ∨ c = '-') name
  decidable_of_iff
    (name.head?.any Char.isAlpha = true ∧ (∀ c ∈ name, c.isAlphanum = true ∨ c = '-') ∧
      isVoid (Text.lower name) = false ∧ rawTextNames.contains (Text.lower name) = false)
    ⟨fun ⟨h1, h2, h3, h4⟩ => ⟨h1, h2, h3, h4⟩, fun ⟨h1, h2, h3, h4⟩ => ⟨h1, h2, h3, h4⟩⟩

instance : ∀ (s : Slot) (n : Text), Decidable (s.Names n)
  | .static, n =>
    have := List.decidableBAll (fun c => (c = '.' || c = '-' || Text.isAlphanumeric c) = true) n
    inferInstanceAs (Decidable (_ ∧ _ ∧ _))
  | .input, n | .output, n | .directive, n =>
    have := List.decidableBAll (fun c => isAttributeNameChar c = true ∧ c ≠ '\x00') n
    inferInstanceAs (Decidable (_ ∧ _ ∧ _))

instance (s : Slot) (a : Attribute) : Decidable (a.Printable s) :=
  decidable_of_iff
    (s.Names a.name ∧ Sealed a.value ∧ '"' ∉ veil a.value ∧ '\x00' ∉ veil a.value ∧
      opensComment (veil a.value) = false ∧ (s = .static → StandsForItself a.value))
    ⟨fun ⟨h1, h2, h3, h4, h5, h6⟩ => ⟨h1, h2, h3, h4, h5, h6⟩, fun ⟨h1, h2, h3, h4, h5, h6⟩ => ⟨h1, h2, h3, h4, h5, h6⟩⟩

instance (t : Text) : Decidable (PrintableText t) :=
  decidable_of_iff
    (Sealed t ∧ '<' ∉ mask t ∧ '\x00' ∉ mask t ∧ (mask t).head?.any (!isGap ·) = true ∧
      (mask t).getLast?.any (!isGap ·) = true ∧
      (∀ u ∈ (mask t).tails, ∀ r ∈ Text.after? ['&'] u, (referenceLength? r).isSome = true) ∧ StandsForItself t)
    ⟨fun ⟨h1, h2, h3, h4, h5, h6, h7⟩ => ⟨h1, h2, h3, h4, h5, h6, h7⟩,
      fun ⟨h1, h2, h3, h4, h5, h6, h7⟩ => ⟨h1, h2, h3, h4, h5, h6, h7⟩⟩

theorem Slot.forall_iff {p : Slot → Prop} : (∀ s, p s) ↔ p .static ∧ p .input ∧ p .output ∧ p .directive :=
  ⟨fun h => ⟨h _, h _, h _, h _⟩, fun ⟨h1, h2, h3, h4⟩ s => by cases s <;> assumption⟩

instance (h : Head) : Decidable h.Printable :=
  decidable_of_iff
    (ElementName h.name ∧ h.container = containerNames.contains (Text.lower h.name) ∧
      (∀ a ∈ h.list .static, a.Printable .static) ∧ (∀ a ∈ h.list .input, a.Printable .input) ∧
      (∀ a ∈ h.list .output, a.Printable .output) ∧ ∀ a ∈ h.list .directive, a.Printable .directive)
    ⟨fun ⟨h1, h2, h3⟩ => ⟨h1, h2, Slot.forall_iff.2 h3⟩, fun ⟨h1, h2, h3⟩ => ⟨h1, h2, Slot.forall_iff.1 h3⟩⟩

def Node.isHeldBy (h : Head) : Node → Bool
  | .text .. => true
  | .element g _ => canHold (Text.lower h.name) (Text.lower g.name)

theorem forall_isHeldBy_iff {h : Head} {children : List Node} : (∀ n ∈ children, n.isHeldBy h = true) ↔
    ∀ g l, .element g l ∈ children → canHold (Text.lower h.name) (Text.lower g.name) = true := by
  refine ⟨fun hc g l hm => hc _ hm, fun hc n hm => ?_⟩
  cases n with
  | text => rfl
  | element g l => exact hc g l hm

mutual

instance Node.decidablePrintable : ∀ n : Node, Decidable n.Printable
  | .text t _ => decidable_of_iff (PrintableText t) (by rw [Node.Printable])
  | .element h children =>
    have := decidablePrintableAll children
    decidable_of_iff (h.Printable ∧ PrintableAll children ∧ ∀ n ∈ children, n.isHeldBy h = true)
      (by rw [Node.Printable, forall_isHeldBy_iff])

instance decidablePrintableAll : ∀ l : List Node, Decidable (PrintableAll l)
  | [] => .isTrue (by rw [PrintableAll]; trivial)
  | n :: rest =>
    have := Node.decidablePrintable n
    have := decidablePrintableAll rest
    decidable_of_iff (n.Printable ∧ PrintableAll rest ∧ (n.isText = true → rest.head?.any Node.isText = false))
      (by rw [PrintableAll])

end

instance (forest : List Node) : Decidable (PrintableForest forest) :=
  decidable_of_iff (PrintableAll forest ∧ (render forest).head? ≠ some byteOrderMark)
    ⟨fun ⟨h1, h2⟩ => ⟨h1, h2⟩, fun ⟨h1, h2⟩ => ⟨h1, h2⟩⟩

end Template
end ViewAtlas
