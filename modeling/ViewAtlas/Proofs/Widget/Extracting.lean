import ViewAtlas.Proofs.Template.Order
import ViewAtlas.Proofs.Widget.Distinct
/-!
# What is extracted

The elements of a forest that are interactive, and those that are components, are found in document order, whatever
they stand in.  Each widget is that of its element, made with the counters that the elements before it leave, so two
forests one after the other are extracted as one (`extract_inDocumentOrder`).
-/
namespace ViewAtlas
namespace Widget

open Template (Head Node)

/-! ## Successive elements -/

def countersAfter (scope : Text) (c : Counters) (elements : List (Head × List Node)) : Counters :=
  elements.foldl (fun c e => (idOf scope c e.1 e.2).2) c

/-- **The widgets of successive elements**: one for each, made with the counters that those before it leave. -/
structure AreOf (template scope : Text) (c : Counters) (elements : List (Head × List Node)) (widgets : List Widget) :
    Prop where
  length_eq : widgets.length = elements.length
  each : ∀ before e after, elements = before ++ e :: after →
    widgets[before.length]? = some (ofElement template (idOf scope (countersAfter scope c before) e.1 e.2).1 e.1)

theorem countersAfter_append (scope : Text) (c : Counters) (elements more : List (Head × List Node)) :
    countersAfter scope c (elements ++ more) = countersAfter scope (countersAfter scope c elements) more :=
  List.foldl_append

section
variable (template scope : Text)

theorem number_snd : ∀ (c : Counters) (elements : List (Head × List Node)),
    (number template scope c elements).2 = countersAfter scope c elements
  | _, [] => rfl
  | c, e :: rest => number_snd (idOf scope c e.1 e.2).2 rest

theorem number_fst_append : ∀ (c : Counters) (elements more : List (Head × List Node)),
    (number template scope c (elements ++ more)).1 =
      (number template scope c elements).1 ++ (number template scope (countersAfter scope c elements) more).1
  | _, [], _ => rfl
  | c, e :: rest, more => congrArg (_ :: ·) (number_fst_append (idOf scope c e.1 e.2).2 rest more)

theorem number_heads : ∀ (c : Counters) (elements : List (Head × List Node)),
    (number template scope c elements).1.map (·.1) = elements.map (·.1)
  | _, [] => rfl
  | c, e :: rest => congrArg (e.1 :: ·) (number_heads (idOf scope c e.1 e.2).2 rest)

theorem length_number (c : Counters) (elements : List (Head × List Node)) :
    (number template scope c elements).1.length = elements.length := by
  simpa using congrArg List.length (number_heads template scope c elements)

theorem number_areOf (c : Counters) (elements : List (Head × List Node)) :
    AreOf template scope c elements ((number template scope c elements).1.map (·.2)) := by
  constructor
  case length_eq => rw [List.length_map, length_number]
  case each =>
    rintro before e after rfl
    have hlength : ((number template scope c before).1.map (·.2)).length = before.length := by
      rw [List.length_map, length_number]
    rw [number_fst_append, List.map_append, List.getElem?_append_right (Nat.le_of_eq hlength), hlength, Nat.sub_self]
    rfl

end

/-! ## A forest -/

section
variable (template scope : Text) (tags : List Text) (c : Counters) (forest forest' : List Node)

theorem extract_widgets : (extract template scope tags c forest).widgets =
    (number template scope c (interactive (chosen tags) forest)).1.map (·.2) := rfl

theorem extract_counters : (extract template scope tags c forest).counters =
    countersAfter scope c (interactive (chosen tags) forest) :=
  number_snd template scope c _

theorem interactive_append :
    interactive tags (forest ++ forest') = interactive tags forest ++ interactive tags forest' := by
  simp [interactive, Node.properElements, Node.elementsOf_append]

theorem interactive_inDocumentOrder : Node.InDocumentOrder forest
    (fun h => h.container = false ∧ Text.lower h.name ∈ tags.map Text.lower) (interactive tags forest) := by
  have horder := Node.filter_inDocumentOrder forest fun h =>
    (tags.map Text.lower).contains (Text.lower h.name) && !h.container
  have hsort : (fun h : Head => ((tags.map Text.lower).contains (Text.lower h.name) && !h.container) = true) =
      fun h => h.container = false ∧ Text.lower h.name ∈ tags.map Text.lower := by
    funext h
    simp only [Bool.and_eq_true, Bool.not_eq_true', List.contains_iff_mem, and_comm]
  rw [hsort] at horder
  rwa [interactive, Node.properElements, List.filter_filter]

theorem nestedComponents_inDocumentOrder (start : Text) : ∃ listed,
    Node.InDocumentOrder forest (fun h => h.container = false ∧ start <+: h.name) listed ∧
      nestedComponents start forest = listed.map (·.1.name) := by
  have horder := Node.filter_inDocumentOrder forest fun h => start.isPrefixOf h.name && !h.container
  have hsort : (fun h : Head => (start.isPrefixOf h.name && !h.container) = true) =
      fun h => h.container = false ∧ start <+: h.name := by
    funext h
    simp only [Bool.and_eq_true, Bool.not_eq_true', List.isPrefixOf_iff_prefix, and_comm]
  rw [hsort] at horder
  refine ⟨_, horder, ?_⟩
  rw [nestedComponents, Node.properElements, List.filter_map, List.filter_filter]
  rfl

theorem extract_widgets_append : (extract template scope tags c (forest ++ forest')).widgets =
    (extract template scope tags c forest).widgets ++
      (extract template scope tags (extract template scope tags c forest).counters forest').widgets := by
  rw [extract_counters, extract_widgets, extract_widgets, extract_widgets, interactive_append, number_fst_append,
    List.map_append]

theorem extract_counters_append : (extract template scope tags c (forest ++ forest')).counters =
    (extract template scope tags (extract template scope tags c forest).counters forest').counters := by
  rw [extract_counters, extract_counters, extract_counters, interactive_append, countersAfter_append]

/-- **Extraction is complete and in document order**: there is one widget for each interactive element that is no
container, wherever it stands, and one name for each component; forests one after the other are extracted with the
counters handed on. -/
theorem extract_inDocumentOrder (start : Text) :
    (∃ elements, Node.InDocumentOrder forest
        (fun h => h.container = false ∧ Text.lower h.name ∈ (chosen tags).map Text.lower) elements ∧
      AreOf template scope c elements (extract template scope tags c forest).widgets) ∧
    (∃ listed, Node.InDocumentOrder forest (fun h => h.container = false ∧ start <+: h.name) listed ∧
      nestedComponents start forest = listed.map (·.1.name)) ∧
    (extract template scope tags c (forest ++ forest')).widgets =
      (extract template scope tags c forest).widgets ++
        (extract template scope tags (extract template scope tags c forest).counters forest').widgets ∧
    (extract template scope tags c (forest ++ forest')).counters =
      (extract template scope tags (extract template scope tags c forest).counters forest').counters := by
  refine ⟨⟨_, interactive_inDocumentOrder (chosen tags) forest, ?_⟩, nestedComponents_inDocumentOrder forest start,
    extract_widgets_append template scope tags c forest forest',
    extract_counters_append template scope tags c forest forest'⟩
  rw [extract_widgets]
  exact number_areOf template scope c _

end

end Widget
end ViewAtlas
