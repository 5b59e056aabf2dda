import ViewAtlas.Proofs.Logic.Linking
/-!
# What static routes add

With static routes, a navigation without parameters may lead to a route of its own path; without them it leads nowhere
known.  Every other call is resolved alike (`resolveCall_static`).  The calls of a handler are kept by their keys, and a
key tells caller and target apart as long as no target holds the arrow of the key, so what is kept is the first call of
each caller and target (`handlerCalls_eq_firsts`).  Hence static routes only add targets: forgetting them again gives
the event maps that there are without them (`link_static`).
-/
namespace ViewAtlas

namespace Route

theorem match?_static {params : List Text} (hp : params ≠ []) (base route : Text) :
    match? true base params route = match? false base params route := by
  have hempty : params.isEmpty = false := by simpa using hp
  simp only [match?, hempty, Bool.and_false, Bool.false_and]

theorem match?_nil (base route : Text) : match? false base [] route = none := by
  refine match?_eq_none ?_
  rintro ⟨-, ⟨hsome, hlen⟩ | ⟨hstatic, -⟩⟩
  · exact hsome (List.length_eq_zero_iff.1 hlen.symm)
  · cases hstatic

theorem match?_static_nil {base route : Text} {t : Target × List Notice} (h : match? true base [] route = some t) :
    t.1 = ⟨'/' :: route, []⟩ ∧ parameterSegments route = [] := by
  obtain ⟨⟨-, ⟨hsome, hlen⟩ | ⟨-, hnone, -⟩⟩, htarget, -⟩ := match?_eq_some h
  · exact absurd (List.length_eq_zero_iff.1 hlen.symm) hsome
  · exact ⟨htarget, hnone⟩

theorem match?_plain {base route : Text} {params : List Text} {t : Target × List Notice}
    (h : match? false base params route = some t) : parameterSegments t.1.called ≠ [] := by
  obtain ⟨⟨-, ⟨hsome, -⟩ | ⟨hstatic, -⟩⟩, htarget, -⟩ := match?_eq_some h
  · rw [htarget, parameterSegments_slash]
    exact hsome
  · cases hstatic

/-- **What navigation finds without static routes** is what it finds with them, unless that is a static route. -/
theorem resolve_static (routes : List Text) (base : Text) (params : List Text) :
    (resolve false routes base params).1 =
      if parameterSegments (resolve true routes base params).1.called = [] then .unknown
      else (resolve true routes base params).1 := by
  by_cases hp : params = []
  · subst hp
    have hnone : routes.findSome? (match? false base []) = none :=
      List.findSome?_eq_none_iff.2 fun r _ => match?_nil base r
    unfold resolve
    rw [hnone]
    cases h : routes.findSome? (match? true base []) with
    | none => rfl
    | some t =>
      obtain ⟨r, -, ht⟩ := List.exists_of_findSome?_eq_some h
      obtain ⟨ht, hr⟩ := match?_static_nil ht
      rw [Option.getD_some, ht, parameterSegments_slash, if_pos hr]
      rfl
  · have hsame : match? true base params = match? false base params := funext fun r => match?_static hp base r
    unfold resolve
    rw [hsame]
    cases h : routes.findSome? (match? false base params) with
    | none => rfl
    | some t =>
      obtain ⟨r, -, ht⟩ := List.exists_of_findSome?_eq_some h
      rw [Option.getD_some, if_neg (match?_plain ht)]

end Route

namespace Logic

open Script (Tree ClassOutline)

/-! ## Resolving calls -/

/-- **A call that forgets a static route**: a navigation whose target has no parameters leads nowhere known. -/
def Call.withoutStatic (w : Words) (c : Call) : Call :=
  if w.isNavigation c.caller ∧ c.called ≠ [] ∧ Route.parameterSegments c.called = [] then { c with called := [] } else c

theorem navigationTarget_static (routes : List Text) (w : Words) (args : List Tree) :
    (navigationTarget ⟨routes, w, false⟩ args).1 =
      if Route.parameterSegments (navigationTarget ⟨routes, w, true⟩ args).1.called = [] then .unknown
      else (navigationTarget ⟨routes, w, true⟩ args).1 := by
  unfold navigationTarget
  split
  · split
    · rfl
    · exact Route.resolve_static ..
  · rfl

theorem navigationTarget_data (s : Setting) (args : List Tree) :
    (navigationTarget s args).1.data.length = (Route.parameterSegments (navigationTarget s args).1.called).length := by
  unfold navigationTarget
  split
  · split
    · rfl
    · exact Route.resolve_data ..
  · rfl

theorem resolveCall_data (s : Setting) (t : Tree) :
    (resolveCall s t).1.data.length = (Route.parameterSegments (resolveCall s t).1.called).length := by
  have hbackend : ([] : List Text).length = (Route.parameterSegments backendRoute).length := by decide +kernel
  unfold resolveCall
  dsimp only
  split
  · exact navigationTarget_data ..
  · split
    · exact hbackend
    · rfl

/-- **A call is resolved without static routes as it is with them**, but for the static routes. -/
theorem resolveCall_static (routes : List Text) (w : Words) (t : Tree) :
    (resolveCall ⟨routes, w, false⟩ t).1 = (resolveCall ⟨routes, w, true⟩ t).1.withoutStatic w := by
  unfold resolveCall
  dsimp only
  split
  · rename_i hnav
    have hdata := navigationTarget_data ⟨routes, w, true⟩ t.callArguments
    have htarget := navigationTarget_static routes w t.callArguments
    generalize (navigationTarget ⟨routes, w, true⟩ t.callArguments).1 = found at hdata htarget ⊢
    obtain ⟨called, data⟩ := found
    rw [htarget]
    by_cases hseg : Route.parameterSegments called = []
    · have hnil : data = [] := List.length_eq_zero_iff.1 (hdata.trans (by rw [hseg]; rfl))
      subst hnil
      rw [if_pos hseg]
      by_cases hcalled : called = []
      · simp [Call.withoutStatic, Route.Target.unknown, hcalled]
      · simp [Call.withoutStatic, Route.Target.unknown, hcalled, hseg, hnav]
    · rw [if_neg hseg]
      simp [Call.withoutStatic, hseg]
  · rename_i hnav
    split <;> simp [Call.withoutStatic, hnav]

/-! ## The first of each pair -/

def Call.pair (c : Call) : Text × Text := (c.caller, c.called)

/-- The first call of each pair that is not among the seen ones. -/
def firstsBut (seen : List (Text × Text)) : List Call → List Call
  | [] => []
  | c :: calls => if c.pair ∈ seen then firstsBut seen calls else c :: firstsBut (c.pair :: seen) calls

/-- **The first call of each pair** of caller and target. -/
def firsts (calls : List Call) : List Call := firstsBut [] calls

theorem firsts_eq_nil_iff {calls : List Call} : firsts calls = [] ↔ calls = [] := by
  cases calls <;> simp [firsts, firstsBut]

theorem mem_firstsBut {c : Call} : ∀ {calls : List Call} {seen : List (Text × Text)}, c ∈ firstsBut seen calls → c ∈ calls
  | [], _, h => h
  | d :: calls, seen, h => by
    rw [firstsBut] at h
    split at h
    · exact List.mem_cons_of_mem _ (mem_firstsBut h)
    · rcases List.mem_cons.1 h with rfl | h
      · exact List.mem_cons_self ..
      · exact List.mem_cons_of_mem _ (mem_firstsBut h)

/-- **Taking the first ones before a change does not matter to the first ones after it**, when the change does not tell
calls of one pair apart. -/
theorem firstsBut_map_firstsBut {f : Call → Call} (hf : ∀ c d : Call, c.pair = d.pair → (f c).pair = (f d).pair) :
    ∀ (calls : List Call) (seen seen' : List (Text × Text)), (∀ c : Call, c.pair ∈ seen → (f c).pair ∈ seen') →
      firstsBut seen' ((firstsBut seen calls).map f) = firstsBut seen' (calls.map f)
  | [], _, _, _ => rfl
  | c :: calls, seen, seen', h => by
    rw [firstsBut, List.map_cons, firstsBut]
    by_cases hc : c.pair ∈ seen
    · rw [if_pos hc, if_pos (h c hc)]
      exact firstsBut_map_firstsBut hf calls seen seen' h
    · rw [if_neg hc, List.map_cons, firstsBut]
      by_cases hfc : (f c).pair ∈ seen'
      · rw [if_pos hfc, if_pos hfc]
        refine firstsBut_map_firstsBut hf calls _ _ fun d hd => ?_
        rcases List.mem_cons.1 hd with hd | hd
        · rwa [hf d c hd]
        · exact h d hd
      · rw [if_neg hfc, if_neg hfc]
        congr 1
        refine firstsBut_map_firstsBut hf calls _ _ fun d hd => ?_
        rcases List.mem_cons.1 hd with hd | hd
        · rw [hf d c hd]
          exact List.mem_cons_self ..
        · exact List.mem_cons_of_mem _ (h d hd)

theorem firsts_map_firsts {f : Call → Call} (hf : ∀ c d : Call, c.pair = d.pair → (f c).pair = (f d).pair)
    (calls : List Call) : firsts ((firsts calls).map f) = firsts (calls.map f) :=
  firstsBut_map_firstsBut hf calls [] [] fun _ h => nomatch h

theorem Call.withoutStatic_pair (w : Words) (c d : Call) (h : c.pair = d.pair) :
    (c.withoutStatic w).pair = (d.withoutStatic w).pair := by
  obtain ⟨hcaller, hcalled⟩ := Prod.mk.inj h
  unfold Call.withoutStatic
  rw [hcaller, hcalled]
  split
  · rfl
  · exact h

/-! ## Keys -/

/-- What a key has between caller and target. -/
def arrow : Text := "->".toList

/-- **A call whose key tells caller and target apart**, and whose data is as much as its target asks for. -/
structure Call.Regular (c : Call) : Prop where
  noArrow : ¬ arrow <:+: c.called
  data : c.data.length = (Route.parameterSegments c.called).length

/-- An arrow behind which there is no other is found again. -/
theorem append_arrow_inj {a b x y : Text} (hx : ¬ arrow <:+: x) (hy : ¬ arrow <:+: y)
    (h : a ++ (arrow ++ x) = b ++ (arrow ++ y)) : a = b ∧ x = y := by
  -- the longer of the two starts would hold the other's arrow in its target
  have key : ∀ {m x y : Text}, ¬ arrow <:+: x → arrow ++ x = m ++ (arrow ++ y) → m = [] := by
    intro m x y hx h
    match m, h with
    | [], _ => rfl
    | [c], h => exact absurd (List.cons.inj (List.cons.inj h).2).1 (by decide)
    | c :: d :: m, h => exact absurd ⟨m, y, by simpa [arrow] using (List.cons.inj (List.cons.inj h).2).2.symm⟩ hx
  rcases List.append_eq_append_iff.1 h with ⟨m, rfl, hm⟩ | ⟨m, rfl, hm⟩
  · obtain rfl := key hx hm
    exact ⟨(List.append_nil a).symm, List.append_cancel_left hm⟩
  · obtain rfl := key hy hm
    exact ⟨List.append_nil b, (List.append_cancel_left hm).symm⟩

theorem Call.Regular.pair_eq {c d : Call} (hc : c.Regular) (hd : d.Regular) (h : c.key = d.key) : c.pair = d.pair := by
  unfold Call.key at h
  rw [List.append_assoc, List.append_assoc] at h
  obtain ⟨hcaller, hcalled⟩ := append_arrow_inj hc.noArrow hd.noArrow h
  exact Prod.ext hcaller hcalled

theorem Call.key_eq {c d : Call} (h : c.pair = d.pair) : c.key = d.key := by
  obtain ⟨hcaller, hcalled⟩ := Prod.mk.inj h
  unfold Call.key
  rw [hcaller, hcalled]

/-- **Regular calls are kept once for each pair**: of calls with one key none has more data than another. -/
theorem foldl_keep : ∀ {l : List Call} {calls : Table Call} {seen : List (Text × Text)},
    (∀ e ∈ calls, e.1 = e.2.key ∧ e.2.Regular) → (∀ p, p ∈ seen ↔ ∃ e ∈ calls, e.2.pair = p) → (∀ c ∈ l, c.Regular) →
      (l.foldl keep calls).map (·.2) = calls.map (·.2) ++ firstsBut seen l
  | [], calls, _, _, _, _ => by simp [firstsBut]
  | c :: l, calls, seen, hcalls, hseen, hl => by
    have hc := hl c (List.mem_cons_self ..)
    have hrest : ∀ d ∈ l, d.Regular := fun d hd => hl d (List.mem_cons_of_mem _ hd)
    rw [List.foldl_cons, firstsBut]
    cases hget : calls.get? c.key with
    | some d =>
      have hmem := Table.mem_of_get? hget
      obtain ⟨hkey, hd⟩ := hcalls _ hmem
      have hpair := hc.pair_eq hd hkey
      have hlen : c.data.length = d.data.length := by rw [hc.data, hd.data, (Prod.mk.inj hpair).2]
      have hkeep : keep calls c = calls := keep_of_le hget (Nat.le_of_eq hlen)
      rw [hkeep, if_pos ((hseen _).2 ⟨_, hmem, hpair.symm⟩)]
      exact foldl_keep hcalls hseen hrest
    | none =>
      have hnew := Table.get?_eq_none_iff.1 hget
      have hkeep : keep calls c = calls ++ [(c.key, c)] := by
        simp only [keep, hget]
        exact Table.set_of_notMem hnew
      have hunseen : c.pair ∉ seen := by
        intro hm
        obtain ⟨e, he, hpair⟩ := (hseen _).1 hm
        refine hnew (List.mem_map.2 ⟨e, he, ?_⟩)
        rw [(hcalls e he).1, Call.key_eq hpair]
      have hcalls' : ∀ e ∈ calls ++ [(c.key, c)], e.1 = e.2.key ∧ e.2.Regular := by
        intro e he
        rcases List.mem_append.1 he with he | he
        · exact hcalls e he
        · rw [List.mem_singleton.1 he]
          exact ⟨rfl, hc⟩
      have hseen' : ∀ p, p ∈ c.pair :: seen ↔ ∃ e ∈ calls ++ [(c.key, c)], e.2.pair = p := by
        intro p
        simp only [List.mem_cons, List.mem_append, List.not_mem_nil, or_false, or_and_right, exists_or, exists_eq_left,
          hseen]
        rw [or_comm, eq_comm]
      rw [hkeep, if_neg hunseen, foldl_keep hcalls' hseen' hrest, List.map_append, List.append_assoc]
      rfl

section Handlers

variable {s : Setting} (hroutes : ∀ r ∈ s.routes, ¬ arrow <:+: r)
include hroutes

theorem resolveCall_regular (t : Tree) : (resolveCall s t).1.Regular := by
  constructor
  case noArrow =>
    rcases resolveCall_leads s t with h | h | ⟨r, hr, h⟩
    · rw [h]
      decide +kernel
    · rw [h]
      decide +kernel
    · rw [h, List.infix_cons_iff, not_or]
      exact ⟨fun h => absurd (List.cons_prefix_cons.1 h).1 (by decide), hroutes r hr⟩
  case data => exact resolveCall_data s t

theorem handlerCalls_eq_firsts (body : Tree) : (handlerCalls s body).1 = firsts (resolvedCalls s body) := by
  have hregular : ∀ c ∈ resolvedCalls s body, c.Regular := fun c hc => by
    obtain ⟨t, -, rfl⟩ := List.mem_map.1 hc
    exact resolveCall_regular hroutes t
  have hkept := @foldl_keep (resolvedCalls s body) [] [] (by simp) (by simp) hregular
  rw [handlerCalls_eq]
  exact hkept

end Handlers

/-! ## Event maps -/

/-- The calls of a handler without static routes: those that only differed in them become one. -/
def forgetStatic (w : Words) (calls : List Call) : List Call := firsts (calls.map (Call.withoutStatic w))

def HandledEvent.forgetStatic (w : Words) (h : HandledEvent) : HandledEvent :=
  { h with calls := Logic.forgetStatic w h.calls }

def EventMap.forgetStatic (w : Words) (m : EventMap) : EventMap :=
  { m with events := m.events.map (HandledEvent.forgetStatic w) }

theorem forgetStatic_eq_nil_iff {w : Words} {calls : List Call} : forgetStatic w calls = [] ↔ calls = [] := by
  rw [forgetStatic, firsts_eq_nil_iff, List.map_eq_nil_iff]

/-- **What leads somewhere when static routes are forgotten leads there before**, with the same data. -/
theorem mem_of_mem_forgetStatic {w : Words} {calls : List Call} {c : Call} (h : c ∈ forgetStatic w calls)
    (hc : c.called ≠ []) : c ∈ calls := by
  obtain ⟨d, hd, rfl⟩ := List.mem_map.1 (mem_firstsBut h)
  unfold Call.withoutStatic at hc ⊢
  split
  · rename_i hstatic
    rw [if_pos hstatic] at hc
    exact absurd rfl hc
  · exact hd

theorem linkWidget_fst (s : Setting) (component : Text) (methods : Table Tree) (rules : Table (List Text)) (x : Widget) :
    (linkWidget s component methods rules x).1 = withRules rules x := rfl

section Linking

variable {routes : List Text} (hroutes : ∀ r ∈ routes, ¬ arrow <:+: r) (w : Words)
include hroutes

theorem handlerCalls_static (body : Tree) :
    (handlerCalls ⟨routes, w, false⟩ body).1 = forgetStatic w (handlerCalls ⟨routes, w, true⟩ body).1 := by
  have hresolved : resolvedCalls ⟨routes, w, false⟩ body =
      (resolvedCalls ⟨routes, w, true⟩ body).map (Call.withoutStatic w) := by
    simp only [resolvedCalls, List.map_map]
    exact List.map_congr_left fun t _ => resolveCall_static routes w t
  rw [forgetStatic, handlerCalls_eq_firsts hroutes, handlerCalls_eq_firsts hroutes, hresolved,
    firsts_map_firsts (Call.withoutStatic_pair w)]

theorem handleEvent_static (component : Text) (methods : Table Tree) (event handler : Text) :
    (handleEvent ⟨routes, w, false⟩ component methods event handler).1 =
      (handleEvent ⟨routes, w, true⟩ component methods event handler).1.map (HandledEvent.forgetStatic w) := by
  unfold handleEvent
  split
  · rfl
  · split
    · rfl
    · rename_i body _
      dsimp only
      rw [handlerCalls_static hroutes w body]
      by_cases hnil : (handlerCalls ⟨routes, w, true⟩ body).1 = []
      · rw [hnil]
        rfl
      · have hkept : forgetStatic w (handlerCalls ⟨routes, w, true⟩ body).1 ≠ [] := fun h =>
          hnil (forgetStatic_eq_nil_iff.1 h)
        rw [if_neg (by simpa using hkept), if_neg (by simpa using hnil)]
        rfl

theorem linkWidget_static (component : Text) (methods : Table Tree) (rules : Table (List Text)) (x : Widget) :
    (linkWidget ⟨routes, w, false⟩ component methods rules x).2.1 =
      (linkWidget ⟨routes, w, true⟩ component methods rules x).2.1.map (EventMap.forgetStatic w) := by
  unfold linkWidget
  simp only [List.filterMap_map, Function.comp_def, handleEvent_static hroutes w]
  rw [← List.map_filterMap]
  by_cases hnil : (x.events.filterMap fun e => (handleEvent ⟨routes, w, true⟩ component methods e.1 e.2).1) = []
  · rw [hnil]
    rfl
  · rw [if_neg (by simpa using hnil), if_neg (by simpa using hnil)]
    rfl

end Linking

/-- **Static routes only add targets.**  With and without them, a class says the same of its widgets and their rules,
and the event maps without them are those with them in which each handler forgets the static routes: the target of a
navigation without parameters becomes empty, and of each caller and target the first call stays.  So a call that leads
somewhere without them is the same with them. -/
theorem link_static (routes : List Text) (w : Words) (m : RuleMarks) (c : ClassOutline) (widgets : List Widget)
    (hroutes : ∀ r ∈ routes, ¬ arrow <:+: r) :
    (link ⟨routes, w, false⟩ m c widgets).widgets = (link ⟨routes, w, true⟩ m c widgets).widgets ∧
      (link ⟨routes, w, false⟩ m c widgets).eventMaps =
        (link ⟨routes, w, true⟩ m c widgets).eventMaps.map (EventMap.forgetStatic w) ∧
      ∀ x ∈ (link ⟨routes, w, true⟩ m c widgets).eventMaps, ∀ e ∈ x.events,
        ∀ call ∈ (e.forgetStatic w).calls, call.called ≠ [] → call ∈ e.calls := by
  refine ⟨?_, ?_, fun _ _ _ _ _ h hcalled => mem_of_mem_forgetStatic h hcalled⟩
  · simp only [link, List.map_map, Function.comp_def, linkWidget_fst]
  · simp only [link, List.filterMap_map, Function.comp_def, linkWidget_static hroutes w]
    rw [List.map_filterMap]

/-- A class with a handler that navigates to a route without parameters, to one with a parameter, and to none. -/
def moving : ClassOutline where
  name := "C".toList
  decorators := []
  members := [.node .part .method [] [.node .name .identifier "f".toList [],
    .node .body .block [] [navigation ["'/home'"], navigation ["'h'", "1"], navigation ["'x'"]]]]

def mover : Widget where
  id := "i".toList
  tag := "a".toList
  events := [("x".toList, "f".toList)]
  attributes := []
  rules := []
  submits := false

def movingRoutes : List Text := ["home".toList, "h/:i".toList]

def movingMaps (targets : List (Text × List Text)) : List EventMap :=
  [⟨"i".toList, [⟨"x".toList, "f".toList, targets.map fun t => ⟨"r.navigate".toList, t.1, t.2⟩⟩]⟩]

theorem link_static_moving :
    (∀ r ∈ movingRoutes, ¬ arrow <:+: r) ∧
      (link ⟨movingRoutes, .default, true⟩ .default moving [mover]).eventMaps =
        movingMaps [("/home".toList, []), ("/h/:i".toList, ["1".toList]), ([], [])] ∧
      (link ⟨movingRoutes, .default, false⟩ .default moving [mover]).eventMaps =
        movingMaps [([], []), ("/h/:i".toList, ["1".toList])] ∧
      (link ⟨movingRoutes, .default, false⟩ .default moving [mover]).eventMaps =
        (link ⟨movingRoutes, .default, true⟩ .default moving [mover]).eventMaps.map
          (EventMap.forgetStatic .default) := by
  have hroutes : ∀ r ∈ movingRoutes, ¬ arrow <:+: r := by decide +kernel
  have hrun : (link ⟨movingRoutes, .default, true⟩ .default moving [mover]).eventMaps =
        movingMaps [("/home".toList, []), ("/h/:i".toList, ["1".toList]), ([], [])] ∧
      (link ⟨movingRoutes, .default, false⟩ .default moving [mover]).eventMaps =
        movingMaps [([], []), ("/h/:i".toList, ["1".toList])] := by decide +kernel
  exact ⟨hroutes, hrun.1, hrun.2, (link_static movingRoutes .default .default moving [mover] hroutes).2.1⟩

end Logic
end ViewAtlas
