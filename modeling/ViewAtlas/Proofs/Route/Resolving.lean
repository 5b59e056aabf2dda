import ViewAtlas.Proofs.Logic.Linking
/-!
# Where navigation leads

A base route is compared with the routes as a text.  The target found is a route that begins with that text, and it begins
with the segments of the base just when the text ends where a segment of the route ends; a route made of the base and
one parameter segment for each parameter is enough for a target to be found (`resolve_segments`).
-/
namespace ViewAtlas
namespace Route

/-- **The segments of a base route**, without an empty one at the end. -/
def baseSegments (base : Text) : List Text :=
  let l := Text.splitAt '/' (withoutSlash base)
  if l.getLast? = some [] then l.dropLast else l

/-- **A text that ends where a segment of the route ends**, when the route begins with it. -/
def EndsSegment (start route : Text) : Prop :=
  start = [] ∨ start.getLast? = some '/' ∨ start = route ∨ start ++ ['/'] <+: route

instance (start route : Text) : Decidable (EndsSegment start route) := inferInstanceAs (Decidable (_ ∨ _))

/-- **Parameter segments**: each begins with a colon and has no slash. -/
def AreParameters (segments : List Text) : Prop := ∀ n ∈ segments, n.head? = some ':' ∧ '/' ∉ n

instance (segments : List Text) : Decidable (AreParameters segments) := inferInstanceAs (Decidable (∀ _ ∈ _, _))

/-! ## Segments of a beginning -/

theorem exists_segments (s : Text) :
    ∃ (l : List Text) (x : Text), (∀ n ∈ l, '/' ∉ n) ∧ '/' ∉ x ∧ s = Text.joinWith ['/'] (l ++ [x]) := by
  have hne := Text.splitAt_ne_nil '/' s
  have hsplit := List.dropLast_append_getLast hne
  refine ⟨(Text.splitAt '/' s).dropLast, (Text.splitAt '/' s).getLast hne, ?_, ?_, ?_⟩
  · exact fun n hn => Text.notMem_of_mem_splitAt (List.dropLast_subset _ hn)
  · exact Text.notMem_of_mem_splitAt (List.getLast_mem hne)
  · rw [hsplit, Text.joinWith_splitAt]

variable {l : List Text} {x : Text}

theorem splitAt_segments_append (hl : ∀ n ∈ l, '/' ∉ n) (rest : Text) :
    Text.splitAt '/' (Text.joinWith ['/'] (l ++ [x]) ++ rest) = l ++ Text.splitAt '/' (x ++ rest) := by
  by_cases hnil : l = []
  · rw [hnil, List.nil_append, Text.joinWith_singleton, List.nil_append]
  · rw [Text.joinWith_append ['/'] hnil (List.cons_ne_nil x []), Text.joinWith_singleton, List.append_assoc, List.append_assoc,
      List.singleton_append, Text.splitAt_append_cons, Text.splitAt_joinWith hnil hl]

theorem last_segment_eq_nil_iff (hx : '/' ∉ x) :
    x = [] ↔ Text.joinWith ['/'] (l ++ [x]) = [] ∨ (Text.joinWith ['/'] (l ++ [x])).getLast? = some '/' := by
  have hlast : x.getLast? ≠ some '/' := fun h => hx (List.mem_of_getLast? h)
  by_cases hnil : l = []
  · rw [hnil, List.nil_append, Text.joinWith_singleton, or_iff_left hlast]
  · rw [Text.joinWith_append ['/'] hnil (List.cons_ne_nil x []), Text.joinWith_singleton, List.singleton_append]
    cases x with
    | nil => simp
    | cons c x => simpa [List.getLast?_append, List.getLast?_cons_cons] using hlast

theorem singleton_prefix_splitAt_iff (hx : '/' ∉ x) (rest : Text) :
    [x] <+: Text.splitAt '/' (x ++ rest) ↔ rest = [] ∨ ['/'] <+: rest := by
  constructor
  · rintro ⟨m, hm⟩
    have hjoin := Text.joinWith_splitAt '/' (x ++ rest)
    rw [← hm, List.singleton_append] at hjoin
    cases m with
    | nil =>
      rw [Text.joinWith_singleton, eq_comm, List.append_right_eq_self] at hjoin
      exact .inl hjoin
    | cons a m =>
      rw [Text.joinWith_cons ['/'] x (List.cons_ne_nil a m), List.append_cancel_left_eq] at hjoin
      exact .inr ⟨_, hjoin⟩
  · rintro (rfl | ⟨rest, rfl⟩)
    · rw [List.append_nil]
      exact ⟨[], (List.append_nil _).trans (Text.splitAt_of_notMem hx).symm⟩
    · rw [List.singleton_append, Text.splitAt_append_cons, Text.splitAt_of_notMem hx]
      exact List.prefix_append _ _

theorem baseSegments_eq {base : Text} (hl : ∀ n ∈ l, '/' ∉ n) (hx : '/' ∉ x)
    (hbase : withoutSlash base = Text.joinWith ['/'] (l ++ [x])) :
    baseSegments base = if x = [] then l else l ++ [x] := by
  have hall : ∀ n ∈ l ++ [x], '/' ∉ n := List.forall_mem_append.2 ⟨hl, List.forall_mem_singleton.2 hx⟩
  have hsplit : Text.splitAt '/' (withoutSlash base) = l ++ [x] := by
    rw [hbase, Text.splitAt_joinWith (List.append_ne_nil_of_right_ne_nil l (List.cons_ne_nil x [])) hall]
  simp only [baseSegments, hsplit, List.getLast?_concat, List.dropLast_concat, Option.some.injEq]

/-- **A route that begins with the text of a base begins with its segments** just when the text ends where a segment does. -/
theorem baseSegments_prefix_iff {base route : Text} (h : withoutSlash base <+: route) :
    baseSegments base <+: Text.splitAt '/' route ↔ EndsSegment (withoutSlash base) route := by
  obtain ⟨l, x, hl, hx, hbase⟩ := exists_segments (withoutSlash base)
  obtain ⟨rest, rfl⟩ := h
  have hends : EndsSegment (withoutSlash base) (withoutSlash base ++ rest) ↔ x = [] ∨ rest = [] ∨ ['/'] <+: rest := by
    rw [EndsSegment, ← or_assoc, last_segment_eq_nil_iff (l := l) hx, ← hbase, List.self_eq_append_right,
      List.prefix_append_right_inj]
  rw [hends, baseSegments_eq hl hx hbase, hbase, splitAt_segments_append hl]
  split
  case isTrue hnil => exact ⟨fun _ => .inl hnil, fun _ => List.prefix_append _ _⟩
  case isFalse hne =>
    rw [List.prefix_append_right_inj, singleton_prefix_splitAt_iff hx, or_iff_right hne]

theorem withoutSlash_prefix_joinWith (base : Text) {more : List Text} (hmore : more ≠ []) :
    withoutSlash base <+: Text.joinWith ['/'] (baseSegments base ++ more) := by
  obtain ⟨l, x, hl, hx, hbase⟩ := exists_segments (withoutSlash base)
  rw [baseSegments_eq hl hx hbase, hbase]
  split
  case isTrue hnil =>
    subst hnil
    by_cases hl' : l = []
    · rw [hl', List.nil_append, Text.joinWith_singleton]
      exact List.nil_prefix
    · rw [Text.joinWith_append _ hl' (List.cons_ne_nil _ _), Text.joinWith_singleton, Text.joinWith_append _ hl' hmore,
        List.append_nil, ← List.append_assoc]
      exact List.prefix_append _ _
  case isFalse hne =>
    rw [Text.joinWith_append _ (List.append_ne_nil_of_right_ne_nil l (List.cons_ne_nil x [])) hmore]
    exact List.prefix_append _ _

theorem notMem_baseSegments {base : Text} : ∀ n ∈ baseSegments base, '/' ∉ n := by
  intro n hn
  unfold baseSegments at hn
  dsimp only at hn
  split at hn
  · exact Text.notMem_of_mem_splitAt (List.dropLast_subset _ hn)
  · exact Text.notMem_of_mem_splitAt hn

/-- **The parameter segments of a base with parameters after it** are those, if there are none in the base. -/
theorem parameterSegments_joinWith {base : Text} {more : List Text} (hmore : more ≠ []) (hparams : AreParameters more)
    (hbase : ∀ n ∈ baseSegments base, n.head? ≠ some ':') :
    parameterSegments (Text.joinWith ['/'] (baseSegments base ++ more)) = more := by
  have hall : ∀ n ∈ baseSegments base ++ more, '/' ∉ n :=
    List.forall_mem_append.2 ⟨notMem_baseSegments, fun n hn => (hparams n hn).2⟩
  have hnone : (baseSegments base).filter (fun s => s.head? = some ':') = [] :=
    List.filter_eq_nil_iff.2 fun n hn => by simpa using hbase n hn
  have hevery : more.filter (fun s => s.head? = some ':') = more :=
    List.filter_eq_self.2 fun n hn => by simpa using (hparams n hn).1
  rw [parameterSegments, Text.splitAt_joinWith (List.append_ne_nil_of_right_ne_nil _ hmore) hall, List.filter_append, hnone,
    hevery, List.nil_append]

/-! ## Targets -/

section
variable {static : Bool} {base route : Text} {params : List Text} {t : Target × List Notice}

theorem match?_starts (h : match? static base params route = some t) : withoutSlash base <+: route :=
  (match?_eq_some h).1.1

theorem match?_parameters (h : match? static base params route = some t) (hparams : params ≠ []) :
    (parameterSegments route).length = params.length ∧ t.1.data = params := by
  obtain ⟨⟨-, ⟨-, hlen⟩ | ⟨-, -, hnil, -⟩⟩, htarget, -⟩ := match?_eq_some h
  · exact ⟨hlen.symm, by rw [htarget]⟩
  · exact absurd hnil hparams

theorem match?_isSome (hpre : withoutSlash base <+: route) (hparams : params ≠ [])
    (hlen : (parameterSegments route).length = params.length) : (match? static base params route).isSome := by
  have hsegments : parameterSegments route ≠ [] := by
    rw [← List.length_pos_iff, hlen]
    exact List.length_pos_iff.2 hparams
  have htakes : Takes static (withoutSlash base) params route := ⟨hpre, .inl ⟨hsegments, hlen.symm⟩⟩
  obtain ⟨notices, hmatch, -⟩ := match?_of_takes htakes
  rw [hmatch]
  rfl

end

theorem exists_match?_of_called {static : Bool} {routes : List Text} {base r : Text} {params : List Text}
    (h : (resolve static routes base params).1.called = '/' :: r) :
    r ∈ routes ∧ match? static base params r = some (resolve static routes base params) := by
  unfold resolve at h ⊢
  cases hfind : routes.findSome? (match? static base params) with
  | none =>
    rw [hfind] at h
    cases h
  | some t =>
    obtain ⟨r', hr', ht⟩ := List.exists_of_findSome?_eq_some hfind
    rw [hfind, Option.getD_some, (congrArg Target.called (match?_eq_some ht).2.1), List.cons.injEq] at h
    obtain rfl := h.2
    exact ⟨hr', by rw [ht, Option.getD_some]⟩

theorem exists_called_of_match? {static : Bool} {routes : List Text} {base route : Text} {params : List Text}
    (hroute : route ∈ routes) (h : (match? static base params route).isSome) :
    ∃ r, (resolve static routes base params).1.called = '/' :: r := by
  unfold resolve
  cases hfind : routes.findSome? (match? static base params) with
  | none =>
    rw [List.findSome?_eq_none_iff.1 hfind route hroute] at h
    cases h
  | some t =>
    obtain ⟨r, -, ht⟩ := List.exists_of_findSome?_eq_some hfind
    exact ⟨r, (congrArg Target.called (match?_eq_some ht).2.1)⟩

/-- **Where navigation leads.**  A target is a route that begins with the text of the base, and with its segments just when
that text ends where a segment of the route ends.  If the map has a route of the segments of the base and a parameter
segment for each parameter, then a target is found, it has as many parameter segments, and it is given the parameters. -/
theorem resolve_segments (static : Bool) (routes : List Text) (base : Text) (params : List Text) :
    (∀ r, (resolve static routes base params).1.called = '/' :: r →
      r ∈ routes ∧ withoutSlash base <+: r ∧
        (baseSegments base <+: Text.splitAt '/' r ↔ EndsSegment (withoutSlash base) r)) ∧
    ((∀ n ∈ baseSegments base, n.head? ≠ some ':') → params ≠ [] →
      (∃ more, AreParameters more ∧ more.length = params.length ∧
        Text.joinWith ['/'] (baseSegments base ++ more) ∈ routes) →
      ∃ r ∈ routes, (resolve static routes base params).1 = ⟨'/' :: r, params⟩ ∧ withoutSlash base <+: r ∧
        (parameterSegments r).length = params.length) := by
  constructor
  · intro r hr
    obtain ⟨hmem, hmatch⟩ := exists_match?_of_called hr
    exact ⟨hmem, match?_starts hmatch, baseSegments_prefix_iff (match?_starts hmatch)⟩
  · rintro hbase hparams ⟨more, hmore, hlen, hroute⟩
    have hne : more ≠ [] := by
      rw [← List.length_pos_iff, hlen]
      exact List.length_pos_iff.2 hparams
    have hsome : (match? static base params (Text.joinWith ['/'] (baseSegments base ++ more))).isSome :=
      match?_isSome (withoutSlash_prefix_joinWith base hne) hparams
        (by rw [parameterSegments_joinWith hne hmore hbase, hlen])
    obtain ⟨r, hr⟩ := exists_called_of_match? hroute hsome
    obtain ⟨hmem, hmatch⟩ := exists_match?_of_called hr
    obtain ⟨hcount, hdata⟩ := match?_parameters hmatch hparams
    have htarget : (resolve static routes base params).1 = ⟨'/' :: r, params⟩ := by
      rw [← hr]
      exact congrArg (Target.mk _) hdata
    exact ⟨r, hmem, htarget, match?_starts hmatch, hcount⟩

/-- A base of two segments with a slash at its end, and two parameters. -/
theorem resolve_segments_revision :
    (∀ n ∈ baseSegments "/docs/old/".toList, n.head? ≠ some ':') ∧ (["d".toList, "r".toList] : List Text) ≠ [] ∧
      (∃ more, AreParameters more ∧ more.length = 2 ∧
        Text.joinWith ['/'] (baseSegments "/docs/old/".toList ++ more) ∈ ["docs/:doc".toList, "docs/old/:doc/:rev".toList]) ∧
      ∃ r ∈ ["docs/:doc".toList, "docs/old/:doc/:rev".toList],
        (resolve false ["docs/:doc".toList, "docs/old/:doc/:rev".toList] "/docs/old/".toList ["d".toList, "r".toList]).1 =
            ⟨'/' :: r, ["d".toList, "r".toList]⟩ ∧
          withoutSlash "/docs/old/".toList <+: r ∧ (parameterSegments r).length = 2 := by
  have hbase : ∀ n ∈ baseSegments "/docs/old/".toList, n.head? ≠ some ':' := by decide
  have hroute : ∃ more, AreParameters more ∧ more.length = 2 ∧
      Text.joinWith ['/'] (baseSegments "/docs/old/".toList ++ more) ∈ ["docs/:doc".toList, "docs/old/:doc/:rev".toList] :=
    ⟨[":doc".toList, ":rev".toList], by decide, by decide, by decide⟩
  exact ⟨hbase, by decide, hroute, (resolve_segments _ _ _ _).2 hbase (by decide) hroute⟩

/-- **The name before the parameters may be another one**: it only has to begin with the base. -/
theorem resolve_items_longer :
    (resolve false ["items2/:id".toList, "items/:id".toList] "/items".toList ["1".toList]).1.called = "/items2/:id".toList ∧
      ¬ baseSegments "/items".toList <+: Text.splitAt '/' "items2/:id".toList := by decide

end Route
end ViewAtlas
