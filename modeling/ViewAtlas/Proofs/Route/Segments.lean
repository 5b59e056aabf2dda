import ViewAtlas.Proofs.Route.Listing
import ViewAtlas.Script.Reading
/-!
# Segments of routes

A path is segmented when it is empty or made of segments that are not empty.  Where the paths and parameters of all entries
are segmented, a recorded route is segmented just when no entry on the way to it has parameters without a path
(`recorded_segmented_iff`): the slash before the parameters stands even where nothing stands before it.
-/
namespace ViewAtlas
namespace Route

open Script (Tree Source)

/-- **A path without empty segments**: no slash first or last, and no two in a row. -/
def Segmented (s : Text) : Prop := s = [] ∨ ∀ n ∈ Text.splitAt '/' s, n ≠ []

instance (s : Text) : Decidable (Segmented s) := inferInstanceAs (Decidable (_ ∨ _))

/-- **Every entry with parameters on the way to a place has a path.** -/
def Place.HasPaths (p : Place) : Prop := ∀ t ∈ p.chain, said t "params" ≠ [] → said t "path" ≠ []

/-! ## Joined paths -/

theorem splitAt_joinWith_flatMap {sep : Char} : ∀ {l : List Text}, l ≠ [] →
    Text.splitAt sep (Text.joinWith [sep] l) = l.flatMap (Text.splitAt sep)
  | [], h => absurd rfl h
  | [a], _ => by rw [Text.joinWith_singleton, List.flatMap_singleton]
  | a :: b :: l, _ => by
    rw [Text.joinWith_cons [sep] a (by simp), List.singleton_append, Text.splitAt_append_cons,
      splitAt_joinWith_flatMap (by simp), List.flatMap_cons (x := a)]

theorem segmented_iff {s : Text} (hs : s ≠ []) : Segmented s ↔ ∀ n ∈ Text.splitAt '/' s, n ≠ [] :=
  or_iff_right hs

/-- **Joined paths are segmented when each of them is.** -/
theorem segmented_joinWith_iff (l : List Text) :
    Segmented (Text.joinWith ['/'] (l.filter (· ≠ []))) ↔ ∀ s ∈ l, Segmented s := by
  have hne : ∀ s ∈ l.filter (· ≠ []), s ≠ [] := fun s hs => by simpa using (List.mem_filter.1 hs).2
  by_cases hl : l.filter (· ≠ []) = []
  · rw [hl]
    refine ⟨fun _ s hs => .inl ?_, fun _ => .inl rfl⟩
    by_contra hs'
    exact List.not_mem_nil (hl ▸ List.mem_filter.2 ⟨hs, by simpa using hs'⟩)
  · rw [segmented_iff (joinWith_ne_nil hl hne), splitAt_joinWith_flatMap hl]
    constructor
    · intro h s hs
      by_cases hs' : s = []
      · exact .inl hs'
      · exact .inr fun n hn => h n (List.mem_flatMap.2 ⟨s, List.mem_filter.2 ⟨hs, by simpa using hs'⟩, hn⟩)
    · intro h n hn
      obtain ⟨s, hs, hn⟩ := List.mem_flatMap.1 hn
      exact (segmented_iff (hne s hs)).1 (h s (List.mem_filter.1 hs).1) n hn

theorem splitAt_colon (s : Text) : ∃ n l, Text.splitAt '/' s = n :: l ∧ Text.splitAt '/' (':' :: s) = (':' :: n) :: l := by
  obtain ⟨n, l, h⟩ := List.exists_cons_of_ne_nil (Text.splitAt_ne_nil '/' s)
  refine ⟨n, l, h, ?_⟩
  rw [Text.splitAt, if_neg (by decide), h]

/-- **The segment of an entry is segmented just when parameters have a path before them.** -/
theorem segmented_segment_iff {t : Tree} (hpath : Segmented (said t "path")) (hparams : Segmented (said t "params")) :
    Segmented (segment t) ↔ (said t "params" ≠ [] → said t "path" ≠ []) := by
  unfold segment
  by_cases hnone : said t "params" = []
  · rw [if_pos hnone, List.append_nil]
    exact ⟨fun _ h => absurd hnone h, fun _ => hpath⟩
  · obtain ⟨n, l, hsplit, hcolon⟩ := splitAt_colon (said t "params")
    have hrest : ∀ m ∈ (':' :: n) :: l, m ≠ [] := by
      refine List.forall_mem_cons.2 ⟨List.cons_ne_nil _ _, fun m hm => ?_⟩
      exact (segmented_iff hnone).1 hparams m (hsplit ▸ List.mem_cons_of_mem n hm)
    rw [if_neg hnone, segmented_iff (by simp), Text.splitAt_append_cons, hcolon]
    constructor
    · intro h _ hempty
      exact h [] (List.mem_append_left _ (by simp [hempty, Text.splitAt])) rfl
    · intro h m hm
      rcases List.mem_append.1 hm with hm | hm
      · exact (segmented_iff (h hnone)).1 hpath m hm
      · exact hrest m hm

theorem segmented_route_iff {p : Place}
    (h : ∀ t ∈ p.chain, Segmented (said t "path") ∧ Segmented (said t "params")) :
    Segmented p.route ↔ p.HasPaths := by
  rw [Place.route, segmented_joinWith_iff, List.forall_mem_map]
  exact forall₂_congr fun t ht => segmented_segment_iff (h t ht).1 (h t ht).2

/-! ## Recorded routes -/

theorem mem_components {names : List Text} {s : Source} {c : Text × Text}
    (h : c ∈ (RouteMap.ofListing (listing names s)).components) : ∃ p ∈ livePlaces names s, c.2 = p.route := by
  rw [components_listing] at h
  obtain ⟨p, hp, hc⟩ := List.mem_filterMap.1 h
  unfold Place.component? at hc
  split at hc
  · cases hc
    exact ⟨p, hp, rfl⟩
  · cases hc

theorem mem_redirections {names : List Text} {s : Source} {r : Text × Text}
    (h : r ∈ (RouteMap.ofListing (listing names s)).redirections) : ∃ p ∈ livePlaces names s, r.1 = p.route := by
  rw [redirections_listing] at h
  obtain ⟨p, hp, hr⟩ := List.mem_filterMap.1 h
  unfold Place.redirection? at hr
  split at hr
  · cases hr
    exact ⟨p, hp, rfl⟩
  · cases hr

/-- **A recorded route has no empty segments just when every entry with parameters on its way has a path**, provided that the
paths and parameters of the entries have none. -/
theorem recorded_segmented_iff {names : List Text} {s : Source}
    (h : ∀ p ∈ livePlaces names s, ∀ t ∈ p.chain, Segmented (said t "path") ∧ Segmented (said t "params")) :
    (∀ c ∈ (RouteMap.ofListing (listing names s)).components,
      ∃ p ∈ livePlaces names s, c.2 = p.route ∧ (Segmented c.2 ↔ p.HasPaths)) ∧
    (∀ r ∈ (RouteMap.ofListing (listing names s)).redirections,
      ∃ p ∈ livePlaces names s, r.1 = p.route ∧ (Segmented r.1 ↔ p.HasPaths)) := by
  constructor
  · intro c hc
    obtain ⟨p, hp, hroute⟩ := mem_components hc
    exact ⟨p, hp, hroute, by rw [hroute, segmented_route_iff (h p hp)]⟩
  · intro r hr
    obtain ⟨p, hp, hroute⟩ := mem_redirections hr
    exact ⟨p, hp, hroute, by rw [hroute, segmented_route_iff (h p hp)]⟩

/-- A routing script with an entry below another one, which has parameters. -/
def nestedRoutes : Text := "const routes=[\x7bpath:'a',children:[\x7bpath:'b',params:'c/d',component:X\x7d]\x7d];".toList

theorem recorded_segmented_nested : ∃ s, Source.read? [] nestedRoutes = some s ∧
    (∀ p ∈ livePlaces defaultNames s, ∀ t ∈ p.chain, Segmented (said t "path") ∧ Segmented (said t "params")) ∧
    RouteMap.ofListing (listing defaultNames s) = ⟨[("X".toList, "a/b/:c/d".toList)], []⟩ ∧
    ∃ p ∈ livePlaces defaultNames s, "a/b/:c/d".toList = p.route ∧ (Segmented "a/b/:c/d".toList ↔ p.HasPaths) := by
  have hread : (Source.read? [] nestedRoutes).any (fun s =>
      (∀ p ∈ livePlaces defaultNames s, ∀ t ∈ p.chain, Segmented (said t "path") ∧ Segmented (said t "params")) ∧
      RouteMap.ofListing (listing defaultNames s) = ⟨[("X".toList, "a/b/:c/d".toList)], []⟩) = true := by
    unfold nestedRoutes
    -- evaluation is slow in taking the characters of a literal, so they are taken first
    repeat rw [String.toList_ofList]
    decide +kernel
  obtain ⟨s, hs, hboth⟩ := (Option.any_eq_true ..).1 hread
  obtain ⟨hsegmented, hroutes⟩ := of_decide_eq_true hboth
  have hrecorded := (recorded_segmented_iff hsegmented).1 ("X".toList, "a/b/:c/d".toList) (by rw [hroutes]; decide)
  exact ⟨s, hs, hsegmented, hroutes, hrecorded⟩

/-- A routing script with parameters and no path. -/
def pathlessRoutes : Text := "const routes=[\x7bpath:'',params:'id',component:X\x7d];".toList

/-- **Parameters without a path begin a route with a slash.** -/
theorem recorded_segmented_pathless :
    ¬ ∀ (path x : Text) (names : List Text) (s : Source), Source.read? path x = some s →
      (∀ p ∈ livePlaces names s, ∀ t ∈ p.chain, Segmented (said t "path") ∧ Segmented (said t "params")) →
      ∀ c ∈ (RouteMap.ofListing (listing names s)).components, Segmented c.2 := by
  intro h
  have hread : (Source.read? [] pathlessRoutes).any (fun s =>
      (∀ p ∈ livePlaces defaultNames s, ∀ t ∈ p.chain, Segmented (said t "path") ∧ Segmented (said t "params")) ∧
      ("X".toList, "/:id".toList) ∈ (RouteMap.ofListing (listing defaultNames s)).components) = true := by
    unfold pathlessRoutes
    repeat rw [String.toList_ofList]
    decide +kernel
  obtain ⟨s, hs, hboth⟩ := (Option.any_eq_true ..).1 hread
  obtain ⟨hsegmented, hroute⟩ := of_decide_eq_true hboth
  exact absurd (h [] pathlessRoutes defaultNames s hs hsegmented _ hroute) (by decide)

end Route
end ViewAtlas
