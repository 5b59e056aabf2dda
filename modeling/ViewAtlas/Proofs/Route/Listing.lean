import Mathlib.Data.List.Basic
import ViewAtlas.Proofs.Script.Properties
import ViewAtlas.Route.Map
/-!
# What route maps list

The elements of a routing array and the elements below them are places (`placesOf`), depth first.  A place is live when its
element and all around it are entries, and its route joins their segments that are not empty.  `ofListing_listing` says that
the route map of a script holds what its live places say, in their order, and nothing else.
-/
namespace ViewAtlas
namespace Route

open Script (Tree Source)

/-! ## Entries -/

/-- The text of the last pair with a key, quotes and outer blanks removed; empty when there is none. -/
def said (t : Tree) (name : String) : Text :=
  match t.lastValue? name.toList with
  | some v => Text.strip (Script.stripQuotes v.text)
  | none => []

/-- Whether an element is an entry: an object with a `path`. -/
def isEntry (t : Tree) : Bool := (t.lastValue? "path".toList).isSome

/-- The own segment of an entry: its path, and its parameters if there are any. -/
def segment (t : Tree) : Text :=
  said t "path" ++ if said t "params" = [] then [] else '/' :: ':' :: said t "params"

/-- The elements of the array of an element's children. -/
def childrenOf (t : Tree) : List Tree :=
  match t.lastValue? "children".toList with
  | some c => c.elements
  | none => []

theorem sizeOf_childrenOf {t e : Tree} (h : e ∈ childrenOf t) : sizeOf e < sizeOf t := by
  unfold childrenOf at h
  split at h
  · exact Nat.lt_trans (Tree.sizeOf_element h) (Tree.sizeOf_lastValue ‹_›)
  · cases h

theorem propertyText_eq (t : Tree) (name : String) : propertyText t.properties name = said t name := by
  have hvalue := t.get?_properties name.toList
  cases h : t.lastValue? name.toList <;> simp [propertyText, said, hvalue, h]

theorem ownPath_eq (t : Tree) : ownPath t.properties = segment t := by
  unfold ownPath segment
  simp only [propertyText_eq]
  split <;> simp

/-! ## Places -/

/-- **An element with the elements around it**, the outermost first. -/
structure Place where
  around : List Tree
  element : Tree

namespace Place

/-- The elements from the outermost one down to the place. -/
def chain (p : Place) : List Tree := p.around ++ [p.element]

/-- Whether the element and all around it are entries. -/
def isLive (p : Place) : Bool := p.chain.all isEntry

/-- **The full path of a place**: the segments that are not empty, with slashes between them. -/
def route (p : Place) : Text := Text.joinWith ['/'] ((p.chain.map segment).filter (· ≠ []))

/-- The place with one more element around it. -/
def within (t : Tree) (p : Place) : Place := ⟨t :: p.around, p.element⟩

/-- The component that a place shows for its route. -/
def component? (p : Place) : Option (Text × Text) :=
  if said p.element "component" ≠ [] ∧ p.route ≠ [] then some (said p.element "component", p.route) else none

/-- Where a place leads instead of its route. -/
def redirection? (p : Place) : Option (Text × Text) :=
  if said p.element "redirectTo" ≠ [] then some (p.route, said p.element "redirectTo") else none

end Place

/-- **The places of an element and of the elements below it**, depth first. -/
def placesOf (t : Tree) : List Place :=
  ⟨[], t⟩ :: (childrenOf t).attach.flatMap fun e => (placesOf e.val).map (Place.within t)
termination_by sizeOf t
decreasing_by exact sizeOf_childrenOf e.property

theorem flatMap_attach {α β : Type} (l : List α) (f : α → List β) : (l.attach.flatMap fun a => f a.val) = l.flatMap f := by
  rw [← List.flatMap_map, List.attach_map_subtype_val]

theorem placesOf_eq (t : Tree) :
    placesOf t = ⟨[], t⟩ :: (childrenOf t).flatMap fun e => (placesOf e).map (Place.within t) := by
  rw [placesOf, flatMap_attach _ fun e => (placesOf e).map (Place.within t)]

/-- The arrays of the outermost variables that have one of the names. -/
def routingArrays (names : List Text) (s : Source) : List Tree :=
  s.bindings.filterMap fun b => if names.contains b.1 then b.2.filter (·.kind = .array) else none

/-- **The live places of a routing script.** -/
def livePlaces (names : List Text) (s : Source) : List Place :=
  (((routingArrays names s).flatMap Tree.elements).flatMap placesOf).filter Place.isLive

/-! ## Full paths -/

theorem join_assoc (a b c : Text) : join (join a b) c = join a (join b c) := by
  unfold join
  by_cases ha : a = [] <;> by_cases hb : b = [] <;> by_cases hc : c = [] <;> simp [ha, hb, hc]

theorem joinWith_ne_nil {sep : Text} : ∀ {l : List Text}, l ≠ [] → (∀ s ∈ l, s ≠ []) → Text.joinWith sep l ≠ []
  | [], hl, _ => absurd rfl hl
  | [a], _, h => by
    rw [Text.joinWith_singleton]
    exact h a (List.mem_singleton.2 rfl)
  | a :: b :: l, _, h => by
    rw [Text.joinWith_cons sep a (by simp)]
    exact fun heq => h a (List.mem_cons_self ..) (List.append_eq_nil_iff.1 heq).1

theorem joinWith_filter_cons (a : Text) (l : List Text) :
    Text.joinWith ['/'] ((a :: l).filter (· ≠ [])) = join a (Text.joinWith ['/'] (l.filter (· ≠ []))) := by
  unfold join
  by_cases ha : a = []
  · simp [ha]
  · rw [if_neg ha, List.filter_cons_of_pos (by simpa using ha)]
    by_cases hl : l.filter (· ≠ []) = []
    · rw [hl, Text.joinWith_singleton, show Text.joinWith ['/'] [] = [] from rfl, if_pos rfl]
    · have hne : Text.joinWith ['/'] (l.filter (· ≠ [])) ≠ [] :=
        joinWith_ne_nil hl fun s hs => by simpa using (List.mem_filter.1 hs).2
      rw [if_neg hne, Text.joinWith_cons _ _ hl, List.singleton_append]

namespace Place

theorem route_outermost (t : Tree) : route ⟨[], t⟩ = segment t := by
  have h := joinWith_filter_cons (segment t) []
  rw [List.filter_nil, show Text.joinWith ['/'] [] = [] from rfl] at h
  refine h.trans ?_
  unfold join
  split
  · exact Eq.symm ‹_›
  · rfl

theorem route_within (t : Tree) (p : Place) : (p.within t).route = join (segment t) p.route :=
  joinWith_filter_cons (segment t) (p.chain.map segment)

theorem isLive_outermost (t : Tree) : isLive ⟨[], t⟩ = isEntry t := by simp [isLive, chain]

theorem isLive_within (t : Tree) (p : Place) : (p.within t).isLive = (isEntry t && p.isLive) := rfl

end Place

/-! ## The listing -/

theorem filter_within {t : Tree} (ht : isEntry t = true) (places : List Place) :
    (places.map (Place.within t)).filter Place.isLive = (places.filter Place.isLive).map (Place.within t) := by
  rw [List.filter_map]
  congr 2
  funext p
  rw [Function.comp_apply, Place.isLive_within, ht, Bool.true_and]

theorem filter_placesOf_of_not {t : Tree} (ht : isEntry t = false) : (placesOf t).filter Place.isLive = [] := by
  refine List.filter_eq_nil_iff.2 fun p hp => ?_
  rw [placesOf_eq] at hp
  rcases List.mem_cons.1 hp with rfl | hp
  · rw [Place.isLive_outermost, ht]
    exact Bool.false_ne_true
  · obtain ⟨e, -, hp⟩ := List.mem_flatMap.1 hp
    obtain ⟨q, -, rfl⟩ := List.mem_map.1 hp
    rw [Place.isLive_within, ht]
    exact Bool.false_ne_true

theorem filter_placesOf {t : Tree} (ht : isEntry t = true) :
    (placesOf t).filter Place.isLive =
      ⟨[], t⟩ :: (childrenOf t).flatMap fun e => ((placesOf e).filter Place.isLive).map (Place.within t) := by
  rw [placesOf_eq, List.filter_cons_of_pos (by rw [Place.isLive_outermost, ht]), List.filter_flatMap]
  simp only [filter_within ht]

theorem itemsOf_of_not {t : Tree} (ht : isEntry t = false) (parent : Text) : itemsOf parent t = [] := by
  rw [isEntry, Option.isSome_eq_false_iff, Option.isNone_iff_eq_none, ← Tree.get?_properties] at ht
  rw [itemsOf]
  simp only [ht]

theorem itemsOf_eq_cons {t : Tree} (ht : isEntry t = true) (parent : Text) :
    itemsOf parent t = ownItems t.properties (join parent (segment t)) ++
      (childrenOf t).flatMap (itemsOf (join parent (segment t))) := by
  obtain ⟨v, hv⟩ := Option.isSome_iff_exists.1 ht
  rw [← Tree.get?_properties] at hv
  rw [itemsOf]
  simp only [hv, ownPath_eq]
  congr 1
  unfold childrenOf
  rw [← Tree.get?_properties]
  split
  · rename_i h
    rw [h]
    rfl
  · rename_i c h
    rw [h]
    exact flatMap_attach c.elements (itemsOf (join parent (segment t)))

/-- **What an element and those below it say is what their live places say**, each with its full path below the parent. -/
theorem itemsOf_eq (parent : Text) (t : Tree) :
    itemsOf parent t =
      ((placesOf t).filter Place.isLive).flatMap fun p => ownItems p.element.properties (join parent p.route) := by
  by_cases ht : isEntry t = true
  · have hbelow : ∀ e ∈ childrenOf t, itemsOf (join parent (segment t)) e =
        (((placesOf e).filter Place.isLive).map (Place.within t)).flatMap fun p =>
          ownItems p.element.properties (join parent p.route) := by
      intro e he
      rw [itemsOf_eq _ e, List.flatMap_map]
      simp only [Place.route_within, join_assoc]
      rfl
    rw [itemsOf_eq_cons ht, filter_placesOf ht, List.flatMap_cons, Place.route_outermost, List.flatMap_assoc]
    congr 1
    exact List.flatMap_congr hbelow
  · rw [Bool.not_eq_true] at ht
    rw [itemsOf_of_not ht, filter_placesOf_of_not ht, List.flatMap_nil]
termination_by sizeOf t
decreasing_by exact sizeOf_childrenOf he

theorem listing_eq (names : List Text) (s : Source) :
    listing names s = (livePlaces names s).flatMap fun p => ownItems p.element.properties p.route := by
  have hone : ∀ t : Tree, itemsOf [] t =
      ((placesOf t).filter Place.isLive).flatMap fun p => ownItems p.element.properties p.route := itemsOf_eq []
  unfold listing livePlaces routingArrays
  rw [List.filter_flatMap, List.flatMap_assoc, List.flatMap_assoc, List.filterMap_eq_flatMap_toList, List.flatMap_assoc]
  refine List.flatMap_congr fun b _ => ?_
  obtain ⟨name, value⟩ := b
  cases value with
  | none => simp
  | some v =>
    by_cases hname : name ∈ names
    · by_cases hkind : v.kind = .array
      · simp only [hname, hkind, Option.filter_some_pos, List.contains_iff_mem, if_true, decide_true, Option.toList_some,
          List.flatMap_singleton]
        exact List.flatMap_congr fun t _ => hone t
      · simp [hname, Option.filter_some_neg, hkind, Tree.elements]
    · simp [hname]

theorem components_ownItems (p : Place) :
    ((ownItems p.element.properties p.route).filterMap fun
      | .component c r => some (c, r)
      | .redirect .. => none) = p.component?.toList := by
  unfold ownItems Place.component?
  simp only [propertyText_eq]
  by_cases hroute : p.route = [] <;> by_cases hcomponent : said p.element "component" = [] <;>
    by_cases htarget : said p.element "redirectTo" = [] <;> simp [hroute, hcomponent, htarget]

theorem redirections_ownItems (p : Place) :
    ((ownItems p.element.properties p.route).filterMap fun
      | .redirect r t => some (r, t)
      | .component .. => none) = p.redirection?.toList := by
  unfold ownItems Place.redirection?
  simp only [propertyText_eq]
  by_cases hroute : p.route = [] <;> by_cases hcomponent : said p.element "component" = [] <;>
    by_cases htarget : said p.element "redirectTo" = [] <;> simp [hroute, hcomponent, htarget]

theorem components_listing (names : List Text) (s : Source) :
    (RouteMap.ofListing (listing names s)).components = (livePlaces names s).filterMap Place.component? := by
  change (listing names s).filterMap _ = _
  rw [listing_eq, List.filterMap_flatMap, List.filterMap_eq_flatMap_toList]
  exact List.flatMap_congr fun p _ => components_ownItems p

theorem redirections_listing (names : List Text) (s : Source) :
    (RouteMap.ofListing (listing names s)).redirections = (livePlaces names s).filterMap Place.redirection? := by
  change (listing names s).filterMap _ = _
  rw [listing_eq, List.filterMap_flatMap, List.filterMap_eq_flatMap_toList]
  exact List.flatMap_congr fun p _ => redirections_ownItems p

/-- **The route map of a script holds what its live places say**, in their order: the components with their routes, and the
redirections. -/
theorem ofListing_listing (names : List Text) (s : Source) :
    RouteMap.ofListing (listing names s) =
      { components := (livePlaces names s).filterMap Place.component?
        redirections := (livePlaces names s).filterMap Place.redirection? } := by
  rw [← components_listing, ← redirections_listing]

end Route
end ViewAtlas
