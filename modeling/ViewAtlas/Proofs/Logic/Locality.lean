import Mathlib.Data.List.Flatten
import Mathlib.Data.List.Forall2
import ViewAtlas.Proofs.Logic.StaticRoutes
/-!
# What a class says of each widget

Linking goes through the widgets one by one: what it says of one does not depend on the others (`link_eq`).  A widget
keeps all its fields but the rules, and these change only where it names a form control that has rules
(`withRules_ruledBy`).  The only warnings are of events whose handler is no method (`warnings_linkWidget`), and an event
is in the event map just when it leads to a call (`linkWidget_leads`).  `link_local` puts this together; as nothing of
it hangs on the rules that a widget had before, linking twice is linking once.
-/
namespace ViewAtlas
namespace Logic

open Script (Tree ClassOutline)

/-! ## Notices -/

theorem level_navigationTarget (s : Setting) (args : List Tree) :
    ∀ n ∈ (navigationTarget s args).2, n.level = .debug := by
  unfold navigationTarget
  split
  · split
    · exact List.forall_mem_nil _
    · exact Route.level_resolve _ _ _ _
  · exact List.forall_mem_nil _

theorem level_resolveCall (s : Setting) (t : Tree) : ∀ n ∈ (resolveCall s t).2, n.level = .debug := by
  unfold resolveCall
  dsimp only
  split
  · exact level_navigationTarget s _
  · split <;> exact List.forall_mem_nil _

theorem level_handlerCalls (s : Setting) (body : Tree) : ∀ n ∈ (handlerCalls s body).2, n.level = .debug := by
  intro n hn
  obtain ⟨x, hx, hn⟩ := List.mem_flatMap.1 hn
  obtain ⟨t, -, rfl⟩ := List.mem_map.1 hx
  exact level_resolveCall s t n hn

/-! ## Rules -/

/-- **A widget with the rules of its form control**: no other field has changed, the rules are those of the control that
it names, and stay where it names none that has rules. -/
structure RuledBy (rules : Table (List Text)) (w w' : Widget) : Prop where
  others : w' = { w with rules := w'.rules }
  ruled : ∀ name r, w.attributes.get? controlAttribute = some name → name ≠ [] → rules.get? name = some r →
    w'.rules = r
  unruled : (∀ name r, w.attributes.get? controlAttribute = some name → name ≠ [] → rules.get? name ≠ some r) →
    w'.rules = w.rules

def controlRules? (rules : Table (List Text)) (w : Widget) : Option (List Text) :=
  (w.attributes.get? controlAttribute).bind fun name => if name = [] then none else rules.get? name

theorem controlRules?_eq_some_iff {rules : Table (List Text)} {w : Widget} {r : List Text} :
    controlRules? rules w = some r ↔
      ∃ name, w.attributes.get? controlAttribute = some name ∧ name ≠ [] ∧ rules.get? name = some r := by
  unfold controlRules?
  rw [Option.bind_eq_some_iff]
  refine exists_congr fun name => and_congr_right fun _ => ?_
  by_cases h : name = [] <;> simp [h]

theorem withRules_eq (rules : Table (List Text)) (w : Widget) :
    withRules rules w = { w with rules := (controlRules? rules w).getD w.rules } := by
  unfold withRules controlRules?
  split
  · rename_i h
    rw [h]
    rfl
  · rename_i h
    rw [h]
    rfl
  · rename_i name hne h
    rw [h, Option.bind_some, if_neg hne]
    cases rules.get? name <;> rfl

theorem withRules_ruledBy (rules : Table (List Text)) (w : Widget) : RuledBy rules w (withRules rules w) := by
  rw [withRules_eq]
  constructor
  case others => rfl
  case ruled =>
    intro name r hname hne hr
    rw [controlRules?_eq_some_iff.2 ⟨name, hname, hne, hr⟩]
    rfl
  case unruled =>
    intro h
    have hnone : controlRules? rules w = none := by
      rw [Option.eq_none_iff_forall_ne_some]
      intro r hr
      obtain ⟨name, hname, hne, hr⟩ := controlRules?_eq_some_iff.1 hr
      exact h name r hname hne hr
    rw [hnone]
    rfl

theorem withRules_withRules (rules : Table (List Text)) (w : Widget) :
    withRules rules (withRules rules w) = withRules rules w := by
  -- the rules are looked up by the attributes, which stay
  have hsame : controlRules? rules (withRules rules w) = controlRules? rules w := by
    rw [withRules_eq]
    rfl
  rw [withRules_eq rules (withRules rules w), hsame, withRules_eq]
  cases controlRules? rules w <;> rfl

/-! ## Events -/

/-- Whether an event leads to a call: it is no link, and its handler is a method that calls something. -/
def leadsOn (c : ClassOutline) (e : Text × Text) : Bool :=
  e.1 ≠ Widget.routerLink ∧ (c.methods.get? e.2).any fun body => !body.calls.isEmpty

/-- **An event as it is handled**: under its name, by the method that it names, with the calls of that. -/
def HandledEvent.Follows (s : Setting) (c : ClassOutline) (h : HandledEvent) (e : Text × Text) : Prop :=
  h.event = e.1 ∧ h.handler = e.2 ∧ ∃ body, c.methods.get? e.2 = some body ∧ h.calls = (handlerCalls s body).1

section
variable {s : Setting} {c : ClassOutline} {e : Text × Text}

theorem handlerCalls_eq_nil_iff {body : Tree} : (handlerCalls s body).1 = [] ↔ body.calls = [] := by
  constructor
  · intro h
    have hkeys := map_key_keepAll (resolvedCalls s body)
    rw [← handlerCalls_eq, h, List.map_nil] at hkeys
    refine List.eq_nil_iff_forall_not_mem.2 fun t ht => ?_
    have hmem : (resolveCall s t).1.key ∈ ((resolvedCalls s body).map Call.key).eraseDups :=
      List.mem_eraseDups.2 (List.mem_map_of_mem (List.mem_map_of_mem ht))
    rw [← hkeys] at hmem
    cases hmem
  · intro h
    rw [handlerCalls_eq, resolvedCalls, h]
    rfl

/-- **What becomes of an event**: nothing for a link, a warning for a missed handler, else the calls of the handler. -/
theorem handleEvent_cases (s : Setting) (c : ClassOutline) (e : Text × Text) :
    (e.1 = Widget.routerLink ∧ handleEvent s c.name c.methods e.1 e.2 = (none, [])) ∨
    (e.1 ≠ Widget.routerLink ∧ c.methods.get? e.2 = none ∧
      handleEvent s c.name c.methods e.1 e.2 = (none, [.handlerMissing e.2 e.1 c.name])) ∨
    (e.1 ≠ Widget.routerLink ∧ ∃ body, c.methods.get? e.2 = some body ∧ handleEvent s c.name c.methods e.1 e.2 =
      (if (handlerCalls s body).1 = [] then none else some ⟨e.1, e.2, (handlerCalls s body).1⟩,
        (handlerCalls s body).2)) := by
  unfold handleEvent
  by_cases hlink : e.1 = Widget.routerLink
  · exact .inl ⟨hlink, if_pos hlink⟩
  · rw [if_neg hlink]
    cases hget : c.methods.get? e.2 with
    | none => exact .inr (.inl ⟨hlink, rfl, rfl⟩)
    | some body => exact .inr (.inr ⟨hlink, body, rfl, by simp only [List.isEmpty_iff]⟩)

theorem handleEvent_leads (h : leadsOn c e = true) :
    ∃ x, (handleEvent s c.name c.methods e.1 e.2).1 = some x ∧ x.Follows s c e := by
  obtain ⟨hlink, hcalls⟩ := of_decide_eq_true h
  rcases handleEvent_cases s c e with ⟨hlink', -⟩ | ⟨-, hget, -⟩ | ⟨-, body, hget, hrun⟩
  · exact absurd hlink' hlink
  · rw [hget] at hcalls
    cases hcalls
  · have hsome : ¬ (handlerCalls s body).1 = [] := fun hnil => by
      rw [hget, Option.any_some, handlerCalls_eq_nil_iff.1 hnil] at hcalls
      cases hcalls
    rw [hrun]
    exact ⟨_, if_neg hsome, rfl, rfl, body, hget, rfl⟩

theorem handleEvent_stops (h : leadsOn c e = false) : (handleEvent s c.name c.methods e.1 e.2).1 = none := by
  rcases handleEvent_cases s c e with ⟨-, hrun⟩ | ⟨-, -, hrun⟩ | ⟨hlink, body, hget, hrun⟩
  · rw [hrun]
  · rw [hrun]
  · have hnone : body.calls = [] := by
      by_contra hne
      exact of_decide_eq_false h ⟨hlink, by simpa [hget] using hne⟩
    rw [hrun]
    exact if_pos (handlerCalls_eq_nil_iff.2 hnone)

theorem warnings_handleEvent : (handleEvent s c.name c.methods e.1 e.2).2.filter (·.level = .warning) =
    if e.1 ≠ Widget.routerLink ∧ e.2 ∉ c.methods.keys then [.handlerMissing e.2 e.1 c.name] else [] := by
  rcases handleEvent_cases s c e with ⟨hlink, hrun⟩ | ⟨hlink, hget, hrun⟩ | ⟨hlink, body, hget, hrun⟩
  · rw [hrun, if_neg fun h => h.1 hlink]
    rfl
  · rw [hrun, if_pos ⟨hlink, Table.get?_eq_none_iff.1 hget⟩]
    rfl
  · have hfound : ¬ (e.1 ≠ Widget.routerLink ∧ e.2 ∉ c.methods.keys) := fun h => by
      rw [Table.get?_eq_none_iff.2 h.2] at hget
      cases hget
    rw [hrun, if_neg hfound]
    refine List.filter_eq_nil_iff.2 fun n hn => ?_
    rw [level_handlerCalls s body n hn]
    decide

theorem level_handleEvent :
    ∀ n ∈ (handleEvent s c.name c.methods e.1 e.2).2, n.level = .warning ∨ n.level = .debug := by
  rcases handleEvent_cases s c e with ⟨-, hrun⟩ | ⟨-, -, hrun⟩ | ⟨-, body, -, hrun⟩
  · rw [hrun]
    exact List.forall_mem_nil _
  · rw [hrun]
    exact List.forall_mem_singleton.2 (.inl rfl)
  · rw [hrun]
    exact fun n hn => .inr (level_handlerCalls s body n hn)

end

/-! ## Widgets -/

section
variable (s : Setting) (c : ClassOutline) (rules : Table (List Text)) (w : Widget)

theorem flatMap_if {α β : Type} (p : α → Prop) [DecidablePred p] (f : α → β) (l : List α) :
    (l.flatMap fun a => if p a then [f a] else []) = (l.filter p).map f := by
  induction l with
  | nil => rfl
  | cons a l ih => by_cases h : p a <;> simp [h, ih]

theorem forall₂_filterMap_filter {α β : Type} {R : β → α → Prop} {f : α → Option β} {p : α → Bool}
    (hsome : ∀ a, p a = true → ∃ b, f a = some b ∧ R b a) (hnone : ∀ a, p a = false → f a = none) :
    ∀ l : List α, List.Forall₂ R (l.filterMap f) (l.filter p)
  | [] => .nil
  | a :: l => by
    have ih := forall₂_filterMap_filter hsome hnone l
    cases hp : p a with
    | true =>
      obtain ⟨b, hb, hR⟩ := hsome a hp
      rw [List.filterMap_cons_some hb, List.filter_cons_of_pos hp]
      exact .cons hR ih
    | false =>
      rw [List.filterMap_cons_none (hnone a hp), List.filter_cons_of_neg (by simp [hp])]
      exact ih

/-- **The warnings about a widget** are of its events with missed handlers, one for each. -/
theorem warnings_linkWidget : (linkWidget s c.name c.methods rules w).2.2.filter (·.level = .warning) =
    (w.events.filter fun e => e.1 ≠ Widget.routerLink ∧ e.2 ∉ c.methods.keys).map fun e =>
      .handlerMissing e.2 e.1 c.name := by
  unfold linkWidget
  dsimp only
  rw [List.flatMap_map, List.filter_flatMap, ← flatMap_if]
  simp only [warnings_handleEvent]

theorem linkWidget_leads : ∃ events : List HandledEvent,
    List.Forall₂ (HandledEvent.Follows s c) events (w.events.filter (leadsOn c)) ∧
      (linkWidget s c.name c.methods rules w).2.1 = if events = [] then none else some ⟨w.id, events⟩ := by
  refine ⟨w.events.filterMap fun e => (handleEvent s c.name c.methods e.1 e.2).1,
    forall₂_filterMap_filter (fun e h => handleEvent_leads h) (fun e h => handleEvent_stops h) _, ?_⟩
  unfold linkWidget
  simp only [List.filterMap_map, List.isEmpty_iff]
  rfl

theorem linkWidget_withRules (component : Text) (methods : Table Tree) :
    linkWidget s component methods rules (withRules rules w) = linkWidget s component methods rules w := by
  unfold linkWidget
  rw [withRules_withRules, withRules_events, withRules_id]

end

/-! ## Linking -/

section
variable (s : Setting) (m : RuleMarks) (c : ClassOutline)

/-- **The widgets are linked one by one.** -/
theorem link_eq (ws : List Widget) : link s m c ws =
    ⟨ws.flatMap fun w => (link s m c [w]).widgets, ws.flatMap fun w => (link s m c [w]).eventMaps,
      ws.flatMap fun w => (link s m c [w]).notices⟩ := by
  have hwidgets : (link s m c ws).widgets = ws.flatMap fun w => (link s m c [w]).widgets := by
    simp only [link, List.map_map]
    exact List.map_eq_flatMap
  have hmaps : (link s m c ws).eventMaps = ws.flatMap fun w => (link s m c [w]).eventMaps := by
    simp only [link, List.filterMap_eq_flatMap_toList, List.flatMap_map, List.map_singleton, List.flatMap_singleton]
  have hnotices : (link s m c ws).notices = ws.flatMap fun w => (link s m c [w]).notices := by
    simp only [link, List.flatMap_map, List.map_singleton, List.flatMap_singleton]
  rw [← hwidgets, ← hmaps, ← hnotices]

/-- **Linking twice is linking once.** -/
theorem link_link (ws : List Widget) : link s m c (link s m c ws).widgets = link s m c ws := by
  have hlinked : (link s m c ws).widgets.map (linkWidget s c.name c.methods (rulesOf m c)) =
      ws.map (linkWidget s c.name c.methods (rulesOf m c)) := by
    simp only [link, List.map_map]
    exact List.map_congr_left fun w _ => linkWidget_withRules s (rulesOf m c) w c.name c.methods
  unfold link at hlinked ⊢
  dsimp only at hlinked ⊢
  rw [hlinked]

theorem link_ruledBy (ws : List Widget) :
    List.Forall₂ (RuledBy (rulesOf m c)) ws (link s m c ws).widgets := by
  simp only [link, List.map_map, List.forall₂_map_right_iff]
  exact List.forall₂_same.2 fun w _ => withRules_ruledBy (rulesOf m c) w

theorem warnings_link (ws : List Widget) : (link s m c ws).notices.filter (·.level = .warning) =
    ws.flatMap fun w => (w.events.filter fun e => e.1 ≠ Widget.routerLink ∧ e.2 ∉ c.methods.keys).map fun e =>
      .handlerMissing e.2 e.1 c.name := by
  simp only [link, List.flatMap_map, List.filter_flatMap, warnings_linkWidget]

theorem level_link (ws : List Widget) : ∀ n ∈ (link s m c ws).notices, n.level = .warning ∨ n.level = .debug := by
  intro n hn
  simp only [link, linkWidget, List.flatMap_map, List.mem_flatMap] at hn
  obtain ⟨w, -, e, -, hn⟩ := hn
  exact level_handleEvent n hn

theorem link_single_eventMaps (w : Widget) : ∃ events : List HandledEvent,
    List.Forall₂ (HandledEvent.Follows s c) events (w.events.filter (leadsOn c)) ∧
      (link s m c [w]).eventMaps = if events = [] then [] else [⟨w.id, events⟩] := by
  obtain ⟨events, hevents, hmap⟩ := linkWidget_leads s c (rulesOf m c) w
  refine ⟨events, hevents, ?_⟩
  simp only [link, List.map_singleton, List.filterMap_eq_flatMap_toList, List.flatMap_singleton, hmap]
  split <;> rfl

/-- **What a class says of its widgets, it says of each by itself, and says again.**  A widget keeps all its fields but
the rules, which become those of the control that it names.  There is one warning for each event that is no link and
whose handler is no method, and no other.  Linking the linked widgets gives the same widgets, event maps and notices.
The event map of a widget has its events that lead to a call, there being none when no event does; those of the widgets
follow each other, and come in another order, or are some of them, when the widgets are. -/
theorem link_local (ws : List Widget) :
    List.Forall₂ (RuledBy (rulesOf m c)) ws (link s m c ws).widgets ∧
    ((link s m c ws).notices.filter (·.level = .warning) =
        (ws.flatMap fun w => (w.events.filter fun e => e.1 ≠ Widget.routerLink ∧ e.2 ∉ c.methods.keys).map fun e =>
          .handlerMissing e.2 e.1 c.name) ∧
      ∀ n ∈ (link s m c ws).notices, n.level = .warning ∨ n.level = .debug) ∧
    link s m c (link s m c ws).widgets = link s m c ws ∧
    (∀ w, ∃ events : List HandledEvent,
      List.Forall₂ (HandledEvent.Follows s c) events (w.events.filter (leadsOn c)) ∧
        (link s m c [w]).eventMaps = if events = [] then [] else [⟨w.id, events⟩]) ∧
    link s m c ws = ⟨ws.flatMap fun w => (link s m c [w]).widgets, ws.flatMap fun w => (link s m c [w]).eventMaps,
      ws.flatMap fun w => (link s m c [w]).notices⟩ ∧
    ∀ ws', (ws'.Perm ws → (link s m c ws').eventMaps.Perm (link s m c ws).eventMaps ∧
        (link s m c ws').widgets.Perm (link s m c ws).widgets) ∧
      (ws'.Sublist ws → (link s m c ws').eventMaps.Sublist (link s m c ws).eventMaps ∧
        (link s m c ws').widgets.Sublist (link s m c ws).widgets) := by
  refine ⟨link_ruledBy s m c ws, ⟨warnings_link s m c ws, level_link s m c ws⟩, link_link s m c ws,
    link_single_eventMaps s m c, link_eq s m c ws, fun ws' => ⟨fun h => ?_, fun h => ?_⟩⟩
  · rw [link_eq s m c ws', link_eq s m c ws]
    exact ⟨h.flatMap_right _, h.flatMap_right _⟩
  · rw [link_eq s m c ws', link_eq s m c ws]
    exact ⟨h.flatMap _, h.flatMap _⟩

end

def signing : ClassOutline where
  name := "C".toList
  decorators := []
  members := [.node .part .method [] [.node .name .identifier "f".toList [],
    .node .body .block [] [navigation ["'h'", "1"]]],
    .node .part .field [] [.node .name .identifier "form".toList [],
      .node .value .call [] [.node .callee .member "this.fb.group".toList [],
        .node .arguments .arguments [] [.node .part .object [] [.node .part .pair [] [
          .node .key .identifier "email".toList [],
          .node .value .array [] [.node .part .member "Validators.required".toList []]]]]]]]

def signer (id : String) (events : Table Text) : Widget where
  id := id.toList
  tag := "input".toList
  events := events
  attributes := [("formControlName".toList, "email".toList)]
  rules := ["required".toList]
  submits := false

theorem link_local_signing :
    let s : Setting := ⟨movingRoutes, .default, false⟩
    let a := signer "a" [("click".toList, "f".toList)]
    let b := signer "b" [("click".toList, "g".toList), (Widget.routerLink, "/home".toList)]
    ((link s .default signing [a, b]).widgets = [{ a with rules := ["Validators.required".toList] },
        { b with rules := ["Validators.required".toList] }] ∧
      (link s .default signing [a, b]).eventMaps.map (·.widgetId) = ["a".toList] ∧
      (link s .default signing [a, b]).notices.filter (·.level = .warning) =
        [.handlerMissing "g".toList "click".toList "C".toList]) ∧
    ([b, a].Perm [a, b] ∧
      (link s .default signing [b, a]).eventMaps.Perm (link s .default signing [a, b]).eventMaps) ∧
    [b].Sublist [a, b] ∧
      (link s .default signing [b]).eventMaps.Sublist (link s .default signing [a, b]).eventMaps := by
  intro s a b
  have hperm : [b, a].Perm [a, b] := List.Perm.swap ..
  have hsub : [b].Sublist [a, b] := .cons _ (.refl _)
  obtain ⟨-, -, -, -, -, hlocal⟩ := link_local s .default signing [a, b]
  exact ⟨by decide +kernel, ⟨hperm, ((hlocal [b, a]).1 hperm).1⟩, hsub, ((hlocal [b]).2 hsub).1⟩

end Logic
end ViewAtlas
