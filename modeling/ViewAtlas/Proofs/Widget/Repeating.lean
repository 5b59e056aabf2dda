import Mathlib.Data.Finset.Card
import ViewAtlas.Proofs.Widget.Extracting
/-!
# Repeated identifiers

Identifiers that are stated are kept, so they may be equal to others, stated or made.  An extraction warns of each
widget that repeats the identifier of an earlier one, in document order, and of nothing else; what was extracted before
with the same counters has no part in this (`extract_repeats`).
-/
namespace ViewAtlas
namespace Widget

open Template (Head Node)

/-! ## Warnings -/

def warnings (found : List (Head × Widget)) : List Notice := (notices [] found).filter Notice.isGrave

def repeated (e : Head × Widget) : Notice := .duplicateId e.2.id e.1.name e.1.span

/-- A position at which a list repeats an entry. -/
def RepeatsAt (ids : List Text) (i : Nat) : Prop := ∃ j id, j < i ∧ ids[j]? = some id ∧ ids[i]? = some id

theorem notices_append (found more : List (Head × Widget)) : ∀ seen : List Text,
    notices seen (found ++ more) = notices seen found ++ notices ((found.map (·.2.id)).reverse ++ seen) more := by
  induction found with
  | nil => simp [notices]
  | cons e found ih => simp [notices, ih]

/-- **One widget more** is warned of when one before it has its identifier. -/
theorem warnings_concat (found : List (Head × Widget)) (e : Head × Widget) :
    warnings (found ++ [e]) = warnings found ++ if e.2.id ∈ found.map (·.2.id) then [repeated e] else [] := by
  unfold warnings
  rw [notices_append, List.filter_append]
  congr 1
  have hseen (ids : List Text) : (ids.reverse ++ []).contains e.2.id = decide (e.2.id ∈ ids) := by simp
  by_cases h : e.2.id ∈ found.map (·.2.id)
  · simp only [notices, hseen, h, decide_true, if_true]
    rfl
  · simp only [notices, hseen, h, decide_false, if_false]
    rfl

theorem not_repeatsAt_nil (i : Nat) : ¬ RepeatsAt [] i := by simp [RepeatsAt]

theorem RepeatsAt.lt_length {ids : List Text} {i : Nat} (h : RepeatsAt ids i) : i < ids.length := by
  obtain ⟨j, id, -, -, hi⟩ := h
  exact (List.getElem?_eq_some_iff.1 hi).1

theorem repeatsAt_concat {ids : List Text} {id : Text} {i : Nat} :
    RepeatsAt (ids ++ [id]) i ↔ RepeatsAt ids i ∨ i = ids.length ∧ id ∈ ids := by
  constructor
  · rintro ⟨j, id', hlt, hj, hi⟩
    have hle := (List.getElem?_eq_some_iff.1 hi).1
    rw [List.length_append, List.length_singleton] at hle
    have hj' : ids[j]? = some id' := by rwa [List.getElem?_append_left (by omega)] at hj
    by_cases hlast : i = ids.length
    · subst hlast
      obtain rfl : id = id' := by simpa using hi
      exact .inr ⟨rfl, List.mem_of_getElem? hj'⟩
    · rw [List.getElem?_append_left (by omega)] at hi
      exact .inl ⟨j, id', hlt, hj', hi⟩
  · rintro (h | ⟨rfl, hmem⟩)
    · have hi := h.lt_length
      obtain ⟨j, id', hlt, hj, hid⟩ := h
      exact ⟨j, id', hlt, by rwa [List.getElem?_append_left (by omega)], by rwa [List.getElem?_append_left hi]⟩
    · obtain ⟨j, hlt, hj⟩ := List.getElem_of_mem hmem
      exact ⟨j, id, hlt, by rw [List.getElem?_append_left hlt, List.getElem?_eq_getElem hlt, hj], by simp⟩

/-- **There is one warning for each repetition**, in order. -/
theorem warnings_places (found : List (Head × Widget)) : ∃ places : List Nat, places.Pairwise (· < ·) ∧
    (∀ i, i ∈ places ↔ RepeatsAt (found.map (·.2.id)) i) ∧
    (warnings found).map some = places.map fun i => found[i]?.map repeated := by
  induction found using List.reverseRecOn with
  | nil => exact ⟨[], .nil, by simp [not_repeatsAt_nil], rfl⟩
  | append_singleton found e ih =>
    obtain ⟨places, hsorted, hmem, hmap⟩ := ih
    have hlt : ∀ i ∈ places, i < found.length := fun i hi => by simpa using ((hmem i).1 hi).lt_length
    have hsame : (places.map fun i => (found ++ [e])[i]?.map repeated) = places.map fun i => found[i]?.map repeated :=
      List.map_congr_left fun i hi => by rw [List.getElem?_append_left (hlt i hi)]
    rw [List.map_append, List.map_singleton, warnings_concat]
    by_cases h : e.2.id ∈ found.map (·.2.id)
    · refine ⟨places ++ [found.length], ?_, fun i => ?_, ?_⟩
      · rw [List.pairwise_append]
        exact ⟨hsorted, List.pairwise_singleton .., fun i hi j hj => by rw [List.mem_singleton.1 hj]; exact hlt i hi⟩
      · rw [repeatsAt_concat, List.mem_append, List.mem_singleton, hmem, List.length_map]
        simp only [h, and_true]
      · rw [if_pos h, List.map_append, List.map_append, hmap, hsame]
        simp
    · refine ⟨places, hsorted, fun i => ?_, ?_⟩
      · rw [repeatsAt_concat, hmem]
        simp only [h, and_false, or_false]
      · rw [if_neg h, List.append_nil, hmap, hsame]

theorem warnings_eq_nil_iff (found : List (Head × Widget)) : warnings found = [] ↔ (found.map (·.2.id)).Nodup := by
  induction found using List.reverseRecOn with
  | nil => exact ⟨fun _ => .nil, fun _ => rfl⟩
  | append_singleton found e ih =>
    rw [warnings_concat, List.append_eq_nil_iff, ih, List.map_append, List.map_singleton, ← List.concat_eq_append,
      List.nodup_concat]
    by_cases h : e.2.id ∈ found.map (·.2.id) <;> simp [h]

theorem length_warnings (found : List (Head × Widget)) :
    (warnings found).length + (found.map (·.2.id)).toFinset.card = found.length := by
  induction found using List.reverseRecOn with
  | nil => rfl
  | append_singleton found e ih =>
    rw [warnings_concat, List.map_append, List.map_singleton, List.toFinset_append, List.length_append,
      List.length_append, ← ih]
    by_cases h : e.2.id ∈ found.map (·.2.id)
    · have hin : (found.map (·.2.id)).toFinset ∪ [e.2.id].toFinset = (found.map (·.2.id)).toFinset := by
        simpa using h
      rw [hin, if_pos h]
      simp only [List.length_singleton]
      omega
    · have hcard :
          ((found.map (·.2.id)).toFinset ∪ [e.2.id].toFinset).card = (found.map (·.2.id)).toFinset.card + 1 := by
        rw [Finset.card_union_of_disjoint (by simpa using h)]
        rfl
      rw [hcard, if_neg h]
      simp only [List.length_singleton, List.length_nil]
      omega

/-! ## Stated identifiers -/

theorem statedId?_eq_some {h : Head} {a : Template.Attribute} (ha : h.attribute? "id".toList = some a)
    (hne : a.value ≠ []) : statedId? h = some a.value := by
  simp only [statedId?, ha, if_neg hne]

/-- **A stated identifier is kept**, and moves no counter. -/
theorem idOf_stated {scope : Text} {c : Counters} {h : Head} {children : List Node} {a : Template.Attribute}
    (ha : h.attribute? "id".toList = some a) (hne : a.value ≠ []) : idOf scope c h children = (a.value, c) := by
  simp only [idOf, statedId?_eq_some ha hne]

/-! ## Extractions one after the other -/

/-- Extractions from successive forests, with the counters handed on. -/
def extractAll (template scope : Text) (tags : List Text) : Counters → List (List Node) → List Extraction
  | _, [] => []
  | c, forest :: rest =>
    extract template scope tags c forest ::
      extractAll template scope tags (extract template scope tags c forest).counters rest

section
variable (template scope : Text) (tags : List Text) (c : Counters)

def countersAfterAll (earlier : List (List Node)) : Counters :=
  earlier.foldl (fun c forest => (extract template scope tags c forest).counters) c

theorem getLast?_extractAll (forest : List Node) : ∀ (earlier : List (List Node)) (c : Counters),
    (extractAll template scope tags c (earlier ++ [forest])).getLast? =
      some (extract template scope tags (countersAfterAll template scope tags c earlier) forest)
  | [], _ => rfl
  | f :: earlier, c => by
    rw [List.cons_append, extractAll, List.getLast?_cons, getLast?_extractAll forest earlier]
    rfl

/-- **Repeated identifiers are reported exactly**, whatever was extracted before: the last of successive extractions
warns of each widget that repeats the identifier of an earlier widget of its forest, in document order, and of nothing
else.  So it warns of nothing just when the identifiers are distinct, and as often as they are more than the distinct
ones.  A stated identifier is kept and moves no counter. -/
theorem extract_repeats (earlier : List (List Node)) (forest : List Node) :
    let before := countersAfterAll template scope tags c earlier
    let e := extract template scope tags before forest
    let ids := e.widgets.map (·.id)
    let warned := e.notices.filter Notice.isGrave
    (extractAll template scope tags c (earlier ++ [forest])).getLast? = some e ∧
      ∃ elements, Node.InDocumentOrder forest
          (fun h => h.container = false ∧ Text.lower h.name ∈ (chosen tags).map Text.lower) elements ∧
        AreOf template scope before elements e.widgets ∧
        (∃ places : List Nat, places.Pairwise (· < ·) ∧ (∀ i, i ∈ places ↔ RepeatsAt ids i) ∧
          warned.map some = places.map fun i => ((elements.map (·.1)).zip e.widgets)[i]?.map repeated) ∧
        (warned = [] ↔ ids.Nodup) ∧ warned.length + ids.toFinset.card = e.widgets.length ∧
        ∀ earlier h children later a, elements = earlier ++ (h, children) :: later →
          h.attribute? "id".toList = some a → a.value ≠ [] → ids[earlier.length]? = some a.value ∧
            countersAfter scope before (earlier ++ [(h, children)]) = countersAfter scope before earlier := by
  intro before e ids warned
  have hareOf : AreOf template scope before (interactive (chosen tags) forest) e.widgets :=
    number_areOf template scope before _
  have hids : ids = (number template scope before (interactive (chosen tags) forest)).1.map (·.2.id) :=
    List.map_map
  have hwarned : warned = warnings (number template scope before (interactive (chosen tags) forest)).1 := rfl
  have hfound : ((interactive (chosen tags) forest).map (·.1)).zip e.widgets =
      (number template scope before (interactive (chosen tags) forest)).1 := by
    rw [← number_heads template scope before]
    exact (List.zip_map' ..).trans (List.map_id _)
  refine ⟨getLast?_extractAll template scope tags forest earlier c, _, interactive_inDocumentOrder (chosen tags) forest,
    hareOf, ?_, ?_, ?_, ?_⟩
  · rw [hids, hfound, hwarned]
    exact warnings_places _
  · rw [hids, hwarned]
    exact warnings_eq_nil_iff _
  · rw [hids, hwarned, hareOf.length_eq, ← length_number template scope before]
    exact length_warnings _
  · intro earlier h children later a heq ha hne
    have hid : idOf scope (countersAfter scope before earlier) h children = (a.value, _) := idOf_stated ha hne
    refine ⟨?_, ?_⟩
    · rw [List.getElem?_map, hareOf.each earlier (h, children) later heq]
      exact congrArg (fun p : Text × Counters => some p.1) hid
    · rw [countersAfter_append]
      exact congrArg (·.2) hid

end

end Widget
end ViewAtlas
