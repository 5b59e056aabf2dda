import ViewAtlas.Proofs.Script.Items
import ViewAtlas.Proofs.Script.Order
/-!
# What the outline of a script says

The outline of a script of items lists its classes, variables and modules as they were printed (`read_items`): each class with
its decorators and with its methods, the last one of each name, and each method with its calls, outer ones before those in
their arguments.
-/
namespace ViewAtlas
namespace Script

/-! ## What is printed -/

def Args.toList : Args → List Arg
  | .nothing => []
  | .last a => [a]
  | .more a rest => a :: rest.toList

def Call.callee : Call → Callee
  | .of callee _ => callee

def Call.args : Call → List Arg
  | .of _ args => args.toList

mutual

/-- The calls in an argument, those in the bodies of functions among them. -/
def Arg.calls : Arg → List Call
  | .literal _ => []
  | .call c => c.calls
  | .arrow b => b.calls

/-- **A call and the calls in its arguments**, itself first. -/
def Call.calls : Call → List Call
  | .of callee args => .of callee args :: args.calls

def Args.calls : Args → List Call
  | .nothing => []
  | .last a => a.calls
  | .more a rest => a.calls ++ rest.calls

/-- **The calls of a body**, in the order of the text. -/
def Body.calls : Body → List Call
  | .nothing => []
  | .more c rest => c.calls ++ rest.calls

end

/-- The name and the body of a method, or of a field whose value is a function. -/
def Member.function? : Member → Option (Text × Body)
  | .method w b => some (w.text, b)
  | .field w (.arrow b) => some (w.text, b)
  | .field _ _ => none

namespace Class

def functions (c : Class) : List (Text × Body) := c.members.filterMap Member.function?

def lastBody? (c : Class) (name : Text) : Option Body := (c.functions.reverse.find? (·.1 = name)).map (·.2)

end Class

namespace Item

def class? : Item → Option Class
  | .declaring _ c => some c
  | _ => none

def binding? : Item → Option (Text × Literal)
  | .binding _ w l => some (w.text, l)
  | _ => none

def module? : Item → Option Text
  | .importing _ m | .exporting m => some m.name
  | _ => none

end Item

/-! ## What is shown -/

/-- **A tree that tells a literal**: what is reached in it, by elements and keys, shows what the same steps reach in the
literal. -/
def Literal.ToldBy (l : Literal) (t : Tree) : Prop := ∀ m u, Reaches l t m u → Shows m u

/-- A tree that has the text of an argument, and tells it when it is a literal. -/
def Arg.ShownBy (L : Layout) (a : Arg) (t : Tree) : Prop := t.text = a.text L ∧ ∀ l, a = .literal l → l.ToldBy t

/-- **A tree that shows a call**: its text, what it calls, and its arguments. -/
structure Call.ShownBy (L : Layout) (c : Call) (t : Tree) : Prop where
  text : t.text = c.text L
  callee : t.callee = c.callee.text
  args : List.Forall₂ (Arg.ShownBy L) c.args t.callArguments

/-- **A tree that shows a body**: its text, and its calls. -/
structure Body.ShownBy (L : Layout) (b : Body) (t : Tree) : Prop where
  text : t.text = '\x7b' :: (b.text L ++ ['\x7d'])
  calls : List.Forall₂ (Call.ShownBy L) b.calls t.calls

def Decorator.ShownBy (L : Layout) (d : Decorator) (t : Tree) : Prop :=
  List.Forall₂ (Arg.ShownBy L) d.args.toList t.callArguments

/-- **An outline that shows a class**: its name, its decorators, for each name the arguments of the first decorator of that
name, and for each name the body of the last function of that name, each where the first one stands. -/
structure Class.ShownBy (L : Layout) (c : Class) (o : ClassOutline) : Prop where
  name : o.name = c.name.text
  decorators : o.decorators.map Tree.text = c.decorators.map (Decorator.text L)
  decoratorCall : ∀ name,
    Option.Rel (Decorator.ShownBy L) (c.decorators.find? (·.name.text = name)) (o.decoratorCall? name)
  methodNames : o.methods.keys = (c.functions.map (·.1)).eraseDups
  methodBody : ∀ name, Option.Rel (Body.ShownBy L) (c.lastBody? name) (o.methods.get? name)

/-! ## The calls of a tree -/

variable {L : Layout} {r : Role} {k : Kind} {x : Text} {ts : List Tree}

theorem Literal.kind_tree_ne (l : Literal) : l.tree.kind ≠ .call := by
  cases l <;> rw [Literal.tree] <;> exact Kind.noConfusion

theorem Key.calls_tree (k : Key) : (k.tree.as r).calls = [] := by
  cases k <;> exact Tree.calls_node Kind.noConfusion

mutual

theorem Literal.calls_tree : ∀ l : Literal, l.tree.calls = []
  | .string q => by rw [Literal.tree]; exact Tree.calls_node Kind.noConfusion
  | .number n => by rw [Literal.tree]; exact Tree.calls_node Kind.noConfusion
  | .name w => by rw [Literal.tree]; exact Tree.calls_node Kind.noConfusion
  | .array items => by rw [Literal.tree, Tree.calls_node Kind.noConfusion, items.calls_trees]
  | .object members => by rw [Literal.tree, Tree.calls_node Kind.noConfusion, members.calls_trees]

theorem Items.calls_trees : ∀ items : Items, items.trees.flatMap Tree.calls = []
  | .nothing _ => by rw [Items.trees, List.flatMap_nil]
  | .last _ l _ => by rw [Items.trees, List.flatMap_singleton, l.calls_tree]
  | .more _ l _ rest => by rw [Items.trees, List.flatMap_cons, l.calls_tree, rest.calls_trees, List.append_nil]

theorem Members.calls_trees : ∀ members : Members, members.trees.flatMap Tree.calls = []
  | .nothing _ => by rw [Members.trees, List.flatMap_nil]
  | .last _ k _ _ l _ => by
    have hvalue : (l.tree.as .value).calls = [] := (Tree.calls_as l.kind_tree_ne).trans l.calls_tree
    rw [Members.trees, List.flatMap_singleton, Tree.calls_node Kind.noConfusion, List.flatMap_cons, List.flatMap_singleton,
      k.calls_tree, hvalue, List.append_nil]
  | .more _ k _ _ l _ rest => by
    have hvalue : (l.tree.as .value).calls = [] := (Tree.calls_as l.kind_tree_ne).trans l.calls_tree
    rw [Members.trees, List.flatMap_cons, Tree.calls_node Kind.noConfusion, List.flatMap_cons, List.flatMap_singleton,
      k.calls_tree, hvalue, rest.calls_trees, List.append_nil, List.append_nil]

end

theorem calls_membersTree : ∀ (ws : List Word) {x : Text} {t : Tree}, t.kind ≠ .call → t.calls = [] →
    (membersTree x t ws).kind ≠ .call ∧ (membersTree x t ws).calls = []
  | [], _, _, hk, ht => ⟨hk, ht⟩
  | w :: ws, x, t, _, ht =>
    calls_membersTree ws Kind.noConfusion (by rw [Tree.calls_node Kind.noConfusion, List.flatMap_singleton, ht])

theorem Callee.calls_tree (c : Callee) : (c.tree.as r).calls = [] := by
  have hhead : c.headTree.kind ≠ .call ∧ c.headTree.calls = [] := by
    unfold Callee.headTree
    cases c.head? with
    | some w => exact ⟨Kind.noConfusion, Tree.calls_node Kind.noConfusion⟩
    | none => exact ⟨Kind.noConfusion, Tree.calls_node Kind.noConfusion⟩
  obtain ⟨hk, ht⟩ := calls_membersTree c.members (x := c.head) hhead.1 hhead.2
  exact (Tree.calls_as hk).trans ht

mutual

theorem Arg.calls_tree : ∀ a : Arg, (a.tree L).calls = a.calls.map (Call.tree L)
  | .literal l => by rw [Arg.tree, Arg.calls, l.calls_tree, List.map_nil]
  | .call c => by rw [Arg.tree, Arg.calls, c.calls_tree]
  | .arrow b => by
    rw [Arg.tree, Arg.calls, Tree.calls_node Kind.noConfusion, List.flatMap_cons, List.flatMap_singleton,
      Tree.calls_node Kind.noConfusion, Tree.calls_node Kind.noConfusion, b.calls_trees, List.flatMap_nil, List.nil_append]

theorem Call.calls_tree : ∀ c : Call, (c.tree L).calls = c.calls.map (Call.tree L)
  | .of callee args => by
    rw [Call.calls, List.map_cons, ← args.calls_trees, Call.tree, Tree.calls_call, List.flatMap_cons, List.flatMap_singleton,
      callee.calls_tree, Tree.calls_node Kind.noConfusion, List.nil_append]

theorem Args.calls_trees : ∀ args : Args, (args.trees L).flatMap Tree.calls = args.calls.map (Call.tree L)
  | .nothing => by rw [Args.trees, Args.calls, List.flatMap_nil, List.map_nil]
  | .last a => by rw [Args.trees, Args.calls, List.flatMap_singleton, a.calls_tree]
  | .more a rest => by rw [Args.trees, Args.calls, List.flatMap_cons, a.calls_tree, rest.calls_trees, List.map_append]

theorem Body.calls_trees : ∀ b : Body, (b.trees L).flatMap Tree.calls = b.calls.map (Call.tree L)
  | .nothing => by rw [Body.trees, Body.calls, List.flatMap_nil, List.map_nil]
  | .more c rest => by
    rw [Body.trees, Body.calls, List.flatMap_cons, Tree.calls_node Kind.noConfusion, List.flatMap_singleton, c.calls_tree,
      rest.calls_trees, List.map_append]

end

/-! ## Arguments, calls and bodies -/

theorem Literal.toldBy_tree (l : Literal) (r : Role) : l.ToldBy (l.tree.as r) := by
  intro m u h
  obtain ⟨r', rfl⟩ := h.tree
  exact m.shows_tree r'

theorem Literal.as_part (l : Literal) : l.tree.as .part = l.tree := by
  cases l <;> rw [Literal.tree] <;> rfl

theorem Call.text_tree (c : Call) : (c.tree L).text = c.text L := by
  cases c
  rw [Call.tree, Call.text]
  rfl

theorem Call.kind_tree (c : Call) : (c.tree L).kind = .call := by
  cases c
  rw [Call.tree]
  rfl

theorem Arg.shownBy_tree (a : Arg) : a.ShownBy L (a.tree L) := by
  cases a with
  | literal l =>
    rw [Arg.ShownBy, Arg.tree, Arg.text]
    refine ⟨l.text_tree, fun m hm => ?_⟩
    cases hm
    rw [← l.as_part]
    exact l.toldBy_tree .part
  | call c =>
    rw [Arg.ShownBy, Arg.tree, Arg.text]
    exact ⟨c.text_tree, fun m hm => by cases hm⟩
  | arrow b =>
    rw [Arg.ShownBy, Arg.tree, Arg.text]
    exact ⟨rfl, fun m hm => by cases hm⟩

theorem Args.shownBy_trees : ∀ args : Args, List.Forall₂ (Arg.ShownBy L) args.toList (args.trees L)
  | .nothing => by
    rw [Args.trees]
    exact .nil
  | .last a => by
    rw [Args.trees]
    exact .cons a.shownBy_tree .nil
  | .more a rest => by
    rw [Args.trees]
    exact .cons a.shownBy_tree rest.shownBy_trees

/-- **The tree of a call shows it.** -/
theorem Call.shownBy_tree (c : Call) : c.ShownBy L (c.tree L) := by
  obtain ⟨callee, args⟩ := c
  refine ⟨Call.text_tree _, ?_, ?_⟩
  · rw [Call.tree]
    simp [Tree.callee, Tree.child?, Call.callee, callee.text_tree]
  · have hargs : (Call.tree L (.of callee args)).callArguments = args.trees L := by
      rw [Call.tree]
      simp [Tree.callArguments, Tree.child?]
    rw [hargs]
    exact args.shownBy_trees

theorem Body.shownBy_tree (b : Body) (r : Role) : b.ShownBy L ((b.tree L).as r) where
  text := rfl
  calls := by
    rw [Tree.calls_as Kind.noConfusion, Body.tree, Tree.calls_node Kind.noConfusion, b.calls_trees, List.forall₂_map_right_iff]
    exact List.forall₂_same.2 fun c _ => c.shownBy_tree

/-! ## Classes -/

theorem rel_map {α β : Type} {R : α → β → Prop} {f : α → β} (h : ∀ a, R a (f a)) (o : Option α) : Option.Rel R o (o.map f) := by
  cases o with
  | none => exact .none
  | some a => exact .some (h a)

def Class.outline (L : Layout) (c : Class) : ClassOutline :=
  ⟨c.name.text, c.decorators.map (Decorator.tree L), c.members.map (Member.tree L)⟩

theorem Decorator.callee_call (d : Decorator) : (d.call.tree L).callee = d.name.text := by
  rw [(Call.shownBy_tree d.call).callee]
  exact List.append_nil _

theorem Class.decoratorCall?_outline (c : Class) (name : Text) : (c.outline L).decoratorCall? name =
    (c.decorators.find? (·.name.text = name)).map fun d => d.call.tree L := by
  have hcalls : (c.outline L).decorators.flatMap Tree.children = c.decorators.map fun d => d.call.tree L := by
    rw [outline, List.flatMap_map, List.map_eq_flatMap]
    rfl
  have hcall : ∀ d : Decorator, ((d.call.tree L).kind == .call && (d.call.tree L).callee == name) = decide (d.name.text = name) := by
    intro d
    rw [Bool.eq_iff_iff]
    simp [d.call.kind_tree, d.callee_call]
  rw [ClassOutline.decoratorCall?, hcalls, List.find?_map]
  exact congrArg (fun p => (c.decorators.find? p).map _) (funext hcall)

theorem Literal.kind_tree_ne_function (l : Literal) : l.tree.kind ≠ .function := by
  cases l <;> rw [Literal.tree] <;> exact Kind.noConfusion

theorem Class.methods_outline (c : Class) :
    (c.outline L).methods = Table.ofList (c.functions.map fun f => (f.1, (f.2.tree L).as .body)) := by
  rw [ClassOutline.methods, outline, functions, List.filterMap_map, List.map_filterMap]
  congr 1
  refine List.filterMap_congr fun m _ => ?_
  cases m with
  | method w b => simp [Member.tree, Tree.child?, ClassOutline.memberBody?, Member.function?]
  | field w value =>
    cases value with
    | literal l => simp [Member.tree, Tree.child?, ClassOutline.memberBody?, Member.function?, Arg.tree, l.kind_tree_ne_function]
    | call c => simp [Member.tree, Tree.child?, ClassOutline.memberBody?, Member.function?, Arg.tree, c.kind_tree]
    | arrow b => simp [Member.tree, Tree.child?, ClassOutline.memberBody?, Member.function?, Arg.tree, Body.tree, Tree.as]

theorem Class.shownBy_outline (c : Class) : c.ShownBy L (c.outline L) where
  name := rfl
  decorators := by
    rw [outline, List.map_map]
    rfl
  decoratorCall name := by
    have hargs : ∀ d : Decorator, d.ShownBy L (d.call.tree L) := fun d => (Call.shownBy_tree d.call).args
    rw [c.decoratorCall?_outline]
    exact rel_map hargs _
  methodNames := by
    rw [c.methods_outline, Table.keys_ofList, List.map_map]
    rfl
  methodBody name := by
    have hlast : (c.outline L).methods.get? name = (c.lastBody? name).map fun b => (b.tree L).as .body := by
      rw [c.methods_outline, Table.get?_ofList, ← List.map_reverse, List.find?_map, Option.map_map, lastBody?, Option.map_map]
      rfl
    rw [hlast]
    exact rel_map (fun b => b.shownBy_tree .body) _

/-! ## Scripts -/

variable {path : Text} {items : List Item}

theorem find?_decorators (ds : List Decorator) (hr : r ≠ .part) (ts : List Tree) :
    (ds.map (Decorator.tree L) ++ ts).find? (·.role == r) = ts.find? (·.role == r) := by
  rw [List.find?_append, List.find?_eq_none.2 fun t ht => ?_, Option.none_or]
  obtain ⟨d, -, rfl⟩ := List.mem_map.1 ht
  simp [Decorator.tree, Ne.symm hr]

theorem filter_decorators (ds : List Decorator) (ts : List Tree) : (ds.map (Decorator.tree L) ++ ts).filter (·.kind == .decorator) =
    ds.map (Decorator.tree L) ++ ts.filter (·.kind == .decorator) := by
  rw [List.filter_append, List.filter_eq_self.2 fun t ht => ?_]
  obtain ⟨d, -, rfl⟩ := List.mem_map.1 ht
  rfl

theorem Class.ofTree_tree (c : Class) (r : Role) (outer : List Tree) : ClassOutline.ofTree outer ((c.tree L).as r) =
    ⟨c.name.text, outer ++ c.decorators.map (Decorator.tree L), c.members.map (Member.tree L)⟩ := by
  have hname : ((c.tree L).as r).child? .name = some (.node .name .identifier c.name.text []) := by
    rw [Tree.child?, Tree.children_as, Class.tree, Tree.children_node, find?_decorators _ Role.noConfusion]
    rfl
  have hbody : ((c.tree L).as r).child? .body =
      some (.node .body .classBody (c.bodyText L) (c.members.map (Member.tree L))) := by
    rw [Tree.child?, Tree.children_as, Class.tree, Tree.children_node, find?_decorators _ Role.noConfusion]
    rfl
  have hdecorators : ((c.tree L).as r).children.filter (·.kind == .decorator) = c.decorators.map (Decorator.tree L) := by
    rw [Tree.children_as, Class.tree, Tree.children_node, filter_decorators]
    exact List.append_nil _
  rw [ClassOutline.ofTree, hname, hbody, hdecorators]
  rfl

theorem declared_exportedClass (c : Class) :
    Source.declared ((Item.declaring true c).tree L) = (c.undecorated.tree L).as .declaration := by
  have hchild : ((Item.declaring true c).tree L).child? .declaration = some ((c.undecorated.tree L).as .declaration) := by
    rw [Tree.child?, Item.tree, Tree.children_node, find?_decorators _ Role.noConfusion]
    rfl
  have hkind : ((Item.declaring true c).tree L).kind = .exporting := rfl
  rw [Source.declared, if_pos hkind, hchild, Option.getD_some]

theorem classes_items : (Source.mk path (.node .part .other x (items.map (Item.tree L)))).classes =
    (items.filterMap Item.class?).map (Class.outline L) := by
  rw [Source.classes, Source.statements, Tree.children_node, List.filterMap_map, List.map_filterMap]
  refine List.filterMap_congr fun i _ => ?_
  cases i with
  | importing w m => rfl
  | exporting m => rfl
  | binding exported w l => cases exported <;> rfl
  | declaring exported c =>
    cases exported with
    | false =>
      change some (ClassOutline.ofTree [] (c.tree L)) = some (c.outline L)
      exact congrArg some (c.ofTree_tree .part [])
    | true =>
      -- the decorators stand before the export, and the class in it has none
      have houter : ((Item.declaring true c).tree L).children.filter (·.kind == .decorator) =
          c.decorators.map (Decorator.tree L) := by
        rw [Item.tree, Tree.children_node, filter_decorators]
        exact List.append_nil _
      have hdeclared := declared_exportedClass (L := L) c
      simp only [Function.comp_apply, hdeclared, houter]
      change some (ClassOutline.ofTree _ ((c.undecorated.tree L).as .declaration)) = some (c.outline L)
      rw [c.undecorated.ofTree_tree]
      exact congrArg (fun ds => some (ClassOutline.mk c.name.text ds _)) (List.append_nil _)

theorem bindings_items : (Source.mk path (.node .part .other x (items.map (Item.tree L)))).bindings =
    (items.filterMap Item.binding?).map fun b => (b.1, some (b.2.tree.as .value)) := by
  rw [Source.bindings, Source.statements, Tree.children_node, List.flatMap_map, List.map_filterMap, List.filterMap_eq_flatMap_toList]
  congr 1
  funext i
  cases i with
  | importing w m => rfl
  | exporting m => rfl
  | binding exported w l =>
    have hone := variableTree_children L.blank.text L.blank.text L.blank.text [] w.toName l
    cases exported with
    | false => exact hone
    | true => exact hone
  | declaring exported c =>
    cases exported with
    | false => rfl
    | true =>
      rw [declared_exportedClass]
      rfl

/-! ## Modules -/

theorem unescape_of_plain {s : Text} (h : '\\' ∉ s) : unescape s = s := by
  induction s using unescape.induct with
  | case1 => rfl
  | case2 c => rfl
  | case3 d s ih => exact absurd (List.mem_cons_self ..) h
  | case4 c d s hc ih =>
    rw [unescape, if_neg hc, ih fun hmem => h (List.mem_cons_of_mem _ hmem)]

theorem ModuleName.specifier? (m : ModuleName) : Source.specifier? (some m.tree) = some m.name := by
  have hback : '\\' ∉ m.name := fun hmem => m.plain _ hmem (by decide)
  have hvalue : m.tree.stringValue? = some m.name := by
    simp [tree, text, Tree.stringValue?, unescape_of_plain hback]
  rw [Source.specifier?, Option.bind_some, hvalue]
  cases hname : m.name with
  | nil => exact absurd hname m.nonempty
  | cons c s => rfl

def Tree.CallsPrinted (t : Tree) : Prop := ∀ u ∈ t.calls, ∃ c : Callee, u.callee = c.text

theorem Tree.callsPrinted_node (hk : k ≠ .call) (h : ∀ t ∈ ts, t.CallsPrinted) : (Tree.node r k x ts).CallsPrinted := by
  intro u hu
  rw [calls_node hk] at hu
  obtain ⟨t, ht, hmem⟩ := List.mem_flatMap.1 hu
  exact h t ht u hmem

theorem Tree.CallsPrinted.as {t : Tree} (h : t.CallsPrinted) (r : Role) : (t.as r).CallsPrinted := by
  by_cases hk : t.kind = .call
  · obtain ⟨r', k, x, ts⟩ := t
    cases hk
    intro u hu
    rw [Tree.as, calls_call, List.mem_cons] at hu
    rw [CallsPrinted, calls_call, List.forall_mem_cons] at h
    rcases hu with rfl | hu
    · exact h.1
    · exact h.2 u hu
  · rwa [CallsPrinted, calls_as hk]

theorem Tree.callsPrinted_leaf (hk : k ≠ .call) : (Tree.node r k x []).CallsPrinted :=
  callsPrinted_node hk fun _ h => absurd h List.not_mem_nil

theorem callsPrinted_of_eq {t : Tree} (cs : List Call) (h : t.calls = cs.map (Call.tree L)) : t.CallsPrinted := by
  intro u hu
  rw [h] at hu
  obtain ⟨c, -, rfl⟩ := List.mem_map.1 hu
  exact ⟨c.callee, c.shownBy_tree.callee⟩

theorem Decorator.callsPrinted (d : Decorator) : (d.tree L).CallsPrinted :=
  Tree.callsPrinted_node Kind.noConfusion (by simpa using callsPrinted_of_eq _ d.call.calls_tree)

theorem Member.callsPrinted (m : Member) : (m.tree L).CallsPrinted := by
  cases m with
  | method w b =>
    have hbody : ((b.tree L).as .body).CallsPrinted := by
      refine Tree.CallsPrinted.as (callsPrinted_of_eq (L := L) b.calls ?_) .body
      rw [Body.tree, Tree.calls_node Kind.noConfusion, b.calls_trees]
    refine Tree.callsPrinted_node Kind.noConfusion ?_
    simpa using ⟨Tree.callsPrinted_leaf Kind.noConfusion, Tree.callsPrinted_leaf Kind.noConfusion, hbody⟩
  | field w value =>
    have hvalue : ((value.tree L).as .value).CallsPrinted := (callsPrinted_of_eq _ value.calls_tree).as .value
    refine Tree.callsPrinted_node Kind.noConfusion ?_
    simpa using ⟨Tree.callsPrinted_leaf Kind.noConfusion, hvalue⟩

theorem callsPrinted_decorators (ds : List Decorator) (h : ∀ t ∈ ts, t.CallsPrinted) :
    ∀ t ∈ ds.map (Decorator.tree L) ++ ts, t.CallsPrinted := by
  refine List.forall_mem_append.2 ⟨fun t ht => ?_, h⟩
  obtain ⟨d, -, rfl⟩ := List.mem_map.1 ht
  exact d.callsPrinted

theorem Class.callsPrinted (c : Class) : (c.tree L).CallsPrinted := by
  have hbody : (Tree.node .body .classBody (c.bodyText L) (c.members.map (Member.tree L))).CallsPrinted := by
    refine Tree.callsPrinted_node Kind.noConfusion fun t ht => ?_
    obtain ⟨m, -, rfl⟩ := List.mem_map.1 ht
    exact m.callsPrinted
  refine Tree.callsPrinted_node Kind.noConfusion (callsPrinted_decorators c.decorators ?_)
  simpa using ⟨Tree.callsPrinted_leaf Kind.noConfusion, hbody⟩

theorem callsPrinted_binding (w : Plain) (l : Literal) : (bindingTree L w l).CallsPrinted := by
  have hvalue : (l.tree.as .value).CallsPrinted :=
    (callsPrinted_of_eq (L := L) [] l.calls_tree).as .value
  have hone : ∀ {x : Text}, (Tree.node .part .declarator x
      [.node .name .identifier w.text [], l.tree.as .value]).CallsPrinted :=
    Tree.callsPrinted_node Kind.noConfusion (by simpa using ⟨Tree.callsPrinted_leaf Kind.noConfusion, hvalue⟩)
  exact Tree.callsPrinted_node Kind.noConfusion (by simpa using hone)

theorem Item.callsPrinted (i : Item) : (i.tree L).CallsPrinted := by
  have hmodule : ∀ m : ModuleName, ∀ t ∈ [m.tree], t.CallsPrinted := fun m =>
    List.forall_mem_singleton.2 (Tree.callsPrinted_leaf Kind.noConfusion)
  cases i with
  | importing w m => exact Tree.callsPrinted_node Kind.noConfusion (hmodule m)
  | exporting m => exact Tree.callsPrinted_node Kind.noConfusion (hmodule m)
  | binding exported w l =>
    cases exported with
    | false => exact callsPrinted_binding w l
    | true => exact Tree.callsPrinted_node Kind.noConfusion (by simpa using (callsPrinted_binding w l).as .declaration)
  | declaring exported c =>
    cases exported with
    | false => exact c.callsPrinted
    | true =>
      refine Tree.callsPrinted_node Kind.noConfusion (callsPrinted_decorators c.decorators ?_)
      simpa using c.undecorated.callsPrinted.as .declaration

theorem Callee.text_ne_import (c : Callee) : c.text ≠ "import".toList := by
  have hhead : c.head ∉ ["import".toList] := c.head_notMem (by decide) (by decide)
  intro htext
  cases hmembers : c.members with
  | nil =>
    rw [text, hmembers, membersText, List.append_nil] at htext
    exact hhead (List.mem_singleton.2 htext)
  | cons w ws =>
    have hpoint : '.' ∈ c.text := by simp [text, hmembers, membersText]
    rw [htext] at hpoint
    exact absurd hpoint (by decide)

theorem imports_items : (Source.mk path (.node .part .other x (items.map (Item.tree L)))).imports =
    items.filterMap Item.module? := by
  -- a name is no keyword, so none of the calls asks for a module
  have hcalls : ((Tree.node .part .other x (items.map (Item.tree L))).calls.filter (·.callee == "import".toList)) = [] := by
    have hall : (Tree.node .part .other x (items.map (Item.tree L))).CallsPrinted := by
      refine Tree.callsPrinted_node Kind.noConfusion fun t ht => ?_
      obtain ⟨i, -, rfl⟩ := List.mem_map.1 ht
      exact i.callsPrinted
    refine List.filter_eq_nil_iff.2 fun u hu heq => ?_
    obtain ⟨c, hc⟩ := hall u hu
    exact c.text_ne_import (hc.symm.trans (eq_of_beq heq))
  rw [Source.imports, hcalls, List.filterMap_nil, List.append_nil, Source.statements, Tree.children_node, List.filterMap_map]
  refine List.filterMap_congr fun i _ => ?_
  cases i with
  | importing w m => exact m.specifier?
  | exporting m => exact m.specifier?
  | binding exported w l => cases exported <;> rfl
  | declaring exported c =>
    cases exported with
    | false => rfl
    | true =>
      have hsource : ((Item.declaring true c).tree L).child? .source = none := by
        rw [Tree.child?, Item.tree, Tree.children_node, find?_decorators _ Role.noConfusion]
        rfl
      have hkind : ((Item.declaring true c).tree L).kind = .exporting := rfl
      rw [Function.comp_apply, if_pos (.inr hkind), hsource]
      rfl

/-! ## Reading undoes printing -/

/-- **Reading a script undoes printing it**: a script of items is read, and its outline shows the classes in order, lists the
variables with trees that tell their literals, and the modules of the imports and exports. -/
theorem read_items (path : Text) (L : Layout) (items : List Item) :
    ∃ s, Source.read? path (itemsText L items) = some s ∧
      List.Forall₂ (Class.ShownBy L) (items.filterMap Item.class?) s.classes ∧
      List.Forall₂ (fun v b => b.1 = v.1 ∧ ∃ t, b.2 = some t ∧ v.2.ToldBy t) (items.filterMap Item.binding?) s.bindings ∧
      s.imports = items.filterMap Item.module? := by
  obtain ⟨x, hx⟩ := parse?_items L items
  refine ⟨⟨path, .node .part .other x (items.map (Item.tree L))⟩, ?_, ?_, ?_, imports_items⟩
  · rw [Source.read?, hx, Option.map_some]
  · rw [classes_items, List.forall₂_map_right_iff]
    exact List.forall₂_same.2 fun c _ => c.shownBy_outline
  · rw [bindings_items, List.forall₂_map_right_iff]
    exact List.forall₂_same.2 fun v _ => ⟨rfl, _, rfl, v.2.toldBy_tree .value⟩

/-- A module whose name holds the character NUL is not read. -/
theorem read_items_nul : Source.read? [] "import \x7b x \x7d from 'a\x00';".toList = none := by
  rw [← Option.isNone_iff_eq_none]
  decide +kernel

end Script
end ViewAtlas
