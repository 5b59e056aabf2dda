import Mathlib.Data.List.Forall2
import ViewAtlas.Logic.EventMap
import ViewAtlas.Proofs.Logic.Keeping
import ViewAtlas.Proofs.Route.Matching
/-!
# What event maps refer to

The event maps of a class stand in the order of its widgets, and the events of a map in the order of those of its
widget; what has no calls is left out and nothing else is added (`link_refers`).  The calls of a handler are kept in a
table by their keys, so no two have one key, and each leads to a route of the map, to the back end, or nowhere known
(`handlerCalls_kept`).
-/
namespace ViewAtlas
namespace Logic

open Script (Tree ClassOutline)

/-! ## Calls -/

/-- **A call that leads to something known, or nowhere**: to the back end or to a route of the map. -/
def Call.Leads (routes : List Text) (c : Call) : Prop :=
  c.called = [] ∨ c.called = backendRoute ∨ ∃ r ∈ routes, c.called = '/' :: r

theorem navigationTarget_called (s : Setting) (args : List Tree) :
    (navigationTarget s args).1.called = [] ∨ ∃ r ∈ s.routes, (navigationTarget s args).1.called = '/' :: r := by
  unfold navigationTarget
  split
  · split
    · exact .inl rfl
    · exact Route.resolve_called ..
  · exact .inl rfl

theorem resolveCall_leads (s : Setting) (t : Tree) : (resolveCall s t).1.Leads s.routes := by
  unfold resolveCall
  dsimp only
  split
  · rcases navigationTarget_called s t.callArguments with h | h
    · exact .inl h
    · exact .inr (.inr h)
  · split
    · exact .inr (.inl rfl)
    · exact .inl rfl

theorem handlerCalls_kept (s : Setting) (body : Tree) :
    ((handlerCalls s body).1.map Call.key).Nodup ∧ ∀ c ∈ (handlerCalls s body).1, c.Leads s.routes := by
  constructor
  · rw [handlerCalls_eq, map_key_keepAll]
    exact nodup_eraseDups _
  · intro c hc
    obtain ⟨t, -, rfl⟩ := List.mem_map.1 (mem_resolvedCalls s hc)
    exact resolveCall_leads s t

/-! ## Event maps -/

/-- **An event of a widget as it is handled**: under its own name, by the handler that the widget states. -/
structure HandledEvent.Handles (routes : List Text) (h : HandledEvent) (e : Text × Text) : Prop where
  event : h.event = e.1
  handler : h.handler = e.2
  notLink : h.event ≠ Widget.routerLink
  nonempty : h.calls ≠ []
  keys : (h.calls.map Call.key).Nodup
  leads : ∀ c ∈ h.calls, c.Leads routes

/-- **An event map of a widget**: it has the widget's identifier, and some of its events, in their order. -/
structure EventMap.Maps (routes : List Text) (m : EventMap) (w : Widget) : Prop where
  widget : m.widgetId = w.id
  nonempty : m.events ≠ []
  events : List.SublistForall₂ (HandledEvent.Handles routes) m.events w.events

theorem handleEvent_handles {s : Setting} {component event handler : Text} {methods : Table Tree} {h : HandledEvent}
    (hh : (handleEvent s component methods event handler).1 = some h) : h.Handles s.routes (event, handler) := by
  unfold handleEvent at hh
  split at hh
  · cases hh
  · rename_i hlink
    split at hh
    · cases hh
    · rename_i body hbody
      obtain ⟨hkeys, hleads⟩ := handlerCalls_kept s body
      dsimp only at hh
      split at hh
      · cases hh
      · rename_i hcalls
        cases hh
        exact ⟨rfl, rfl, hlink, by simpa using hcalls, hkeys, hleads⟩

theorem sublistForall₂_filterMap {α β : Type} {R : β → α → Prop} {f : α → Option β} : ∀ {l : List α},
    (∀ a ∈ l, ∀ b, f a = some b → R b a) → List.SublistForall₂ R (l.filterMap f) l
  | [], _ => .nil
  | a :: l, h => by
    have hl := sublistForall₂_filterMap (R := R) (f := f) fun b hb => h b (List.mem_cons_of_mem _ hb)
    cases ha : f a with
    | none =>
      rw [List.filterMap_cons_none ha]
      exact .cons_right hl
    | some b =>
      rw [List.filterMap_cons_some ha]
      exact .cons (h a (List.mem_cons_self ..) b ha) hl

theorem withRules_id (rules : Table (List Text)) (w : Widget) : (withRules rules w).id = w.id := by
  unfold withRules
  split <;> (try split) <;> rfl

theorem withRules_events (rules : Table (List Text)) (w : Widget) : (withRules rules w).events = w.events := by
  unfold withRules
  split <;> (try split) <;> rfl

theorem linkWidget_maps {s : Setting} {component : Text} {methods : Table Tree} {rules : Table (List Text)}
    {w : Widget} {m : EventMap} (h : (linkWidget s component methods rules w).2.1 = some m) :
    m.Maps s.routes (linkWidget s component methods rules w).1 := by
  have hevents : List.SublistForall₂ (HandledEvent.Handles s.routes)
      (w.events.filterMap fun e => (handleEvent s component methods e.1 e.2).1) w.events :=
    sublistForall₂_filterMap fun e _ h he => handleEvent_handles he
  unfold linkWidget at h ⊢
  simp only [List.filterMap_map] at h ⊢
  split at h
  · cases h
  · rename_i hne
    cases h
    refine ⟨(withRules_id rules w).symm, by simpa using hne, ?_⟩
    rw [withRules_events]
    exact hevents

theorem link_refers (s : Setting) (m : RuleMarks) (c : ClassOutline) (widgets : List Widget) :
    List.SublistForall₂ (EventMap.Maps s.routes) (link s m c widgets).eventMaps (link s m c widgets).widgets := by
  unfold link
  dsimp only
  rw [List.sublistForall₂_map_right_iff]
  refine sublistForall₂_filterMap fun x hx e he => ?_
  obtain ⟨w, -, rfl⟩ := List.mem_map.1 hx
  exact linkWidget_maps he

end Logic
end ViewAtlas
