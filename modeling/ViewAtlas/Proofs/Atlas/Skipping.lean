import ViewAtlas.Proofs.Atlas.Steps
import ViewAtlas.Proofs.Widget.Distinct
/-!
# Skipped classes

A lenient analysis skips the classes that lack a template or a selector.  What such a class could leave behind are the
counters that components share: a lack of a selector is noticed after the widgets of the template were numbered.  So
an analysis and one in which the skipped classes are left out agree unless a template without a selector numbers an
element and the counters are shared (`analyzeBut_isSkipped`).
-/
namespace ViewAtlas

namespace Widget

open Template (Head Node)

/-- Whether the identifier of an element takes a number. -/
def isNumbered (e : Head × List Node) : Bool := isNameless e && (signal? e.1 e.2).isNone

theorem idOf_counters (scope : Text) (c : Counters) (e : Head × List Node) :
    (idOf scope c e.1 e.2).2 = if isNumbered e then (c.next (Text.upper e.1.name)).2 else c := by
  unfold idOf isNumbered isNameless identify
  cases hid : statedId? e.1 with
  | some id => rfl
  | none => cases hs : signal? e.1 e.2 <;> rfl

/-- **Elements leave the counters as they were exactly when none of them takes a number**: no later element takes a
number back. -/
theorem number_counters_eq_iff (template scope : Text) : ∀ (c : Counters) (elements : List (Head × List Node)),
    (number template scope c elements).2 = c ↔ ∀ e ∈ elements, isNumbered e = false
  | c, [] => by simp [number]
  | c, e :: rest => by
    have hrest := number_counters_eq_iff template scope (idOf scope c e.1 e.2).2 rest
    have hsplit : (number template scope c (e :: rest)).2 = (number template scope (idOf scope c e.1 e.2).2 rest).2 := rfl
    rw [hsplit, List.forall_mem_cons]
    cases he : isNumbered e with
    | false =>
      rw [idOf_counters, he, if_neg Bool.false_ne_true] at hrest
      rw [idOf_counters, he, if_neg Bool.false_ne_true, hrest]
      simp
    | true =>
      simp only [Bool.true_eq_false, false_and, iff_false]
      intro heq
      have hle := number_count_le template scope (Text.upper e.1.name) (idOf scope c e.1 e.2).2 rest
      rw [heq, idOf_counters, he, if_pos rfl, Counters.count_next, if_pos rfl] at hle
      exact Nat.not_succ_le_self _ hle

end Widget

namespace Component

open File (Disk)
open Script (ClassOutline)

variable {d : Disk} {s : Setting} {sourceFile : Text} {c : ClassOutline} {e : Failure}

theorem finish_error_iff {widgets : List Widget} {nested : List Text} :
    (finish sourceFile c widgets nested).result = .error e ↔
      selectorOf c = [] ∧ e = .lacking ⟨.selector, c.name, sourceFile⟩ := by
  unfold finish
  dsimp only
  split
  · rename_i h
    simp [h, Noted.andThen, Noted.note, Noted.fail, eq_comm]
  · rename_i h
    simp [h, Noted.andThen, Noted.note, Noted.done]

/-- **Whether the analysis of a class fails does not depend on what its widgets are numbered by.** -/
theorem analyze_error_iff (n n' : Option Numbering) :
    (analyze d s n sourceFile c).1.result = .error e ↔ (analyze d s n' sourceFile c).1.result = .error e := by
  unfold analyze
  dsimp only
  cases (templateOf d sourceFile c).result with
  | error e => rfl
  | ok t =>
    cases t with
    | none => rfl
    | some t =>
      obtain ⟨template, name⟩ := t
      dsimp only
      cases Template.read template with
      | error fault => rfl
      | ok f => simp only [finish_error_iff]

/-- **Whether the template of a class has no element that takes a number.** -/
def numbersNothing (d : Disk) (s : Setting) (sourceFile : Text) (c : ClassOutline) : Bool :=
  match (templateOf d sourceFile c).result with
  | .ok (some (template, _)) =>
    match Template.read? template with
    | some f => (Widget.interactive (Widget.chosen s.tags) f.nodes).all fun e => !Widget.isNumbered e
    | none => true
  | _ => true

/-- **What a failure leaves of the counters**: all as they were, unless it is the lack of a selector and the template
has an element that takes a number. -/
theorem analyze_counters_of_error {n : Numbering} (h : (analyze d s (some n) sourceFile c).1.result = .error e) :
    (analyze d s (some n) sourceFile c).2 = n.counters ↔
      (e = .lacking ⟨.selector, c.name, sourceFile⟩ → numbersNothing d s sourceFile c = true) := by
  revert h
  unfold analyze numbersNothing
  dsimp only
  cases (templateOf d sourceFile c).result with
  | error e => simp
  | ok t =>
    cases t with
    | none => simp
    | some t =>
      obtain ⟨template, name⟩ := t
      dsimp only
      cases hread : Template.read template with
      | error fault => cases fault <;> simp [Failure.ofFault, Template.read?_of_error hread]
      | ok f =>
        rw [Template.read?_of_ok hread]
        intro h
        obtain ⟨-, rfl⟩ := finish_error_iff.1 h
        simp only [forall_const]
        have hiff := Widget.number_counters_eq_iff template n.scope n.counters
          (Widget.interactive (Widget.chosen s.tags) f.nodes)
        simp only [List.all_eq_true, Bool.not_eq_true']
        exact hiff

end Component

namespace Atlas

open File (Disk Path)
open Script (ClassOutline)

variable {d : Disk} {o : Options} {routes : RouteMap} {folder path : Path}

/-- Whether a class is a component that lacks a part. -/
def isSkipped (d : Disk) (o : Options) (path : Path) (c : ClassOutline) : Bool :=
  Component.isComponent c &&
    match (Component.analyze d o.component none path.text c).1.result with
    | .error (.lacking _) => true
    | _ => false

/-- **The components of a project that lack a part**, each with its file. -/
def skipped (d : Disk) (o : Options) (configuration : Text) : List (Path × ClassOutline) :=
  match (Project.read d o.followImports configuration).result with
  | .ok project => project.sources.flatMap fun path =>
    match Script.Source.load d path.text with
    | .ok source => (source.classes.filter (isSkipped d o path)).map fun c => (path, c)
    | .error _ => []
  | .error _ => []

/-- The same as `addSource`, but for some classes. -/
def addSourceBut (skip : Path → ClassOutline → Bool) (d : Disk) (o : Options) (routes : RouteMap) (folder : Path)
    (p : Progress) (path : Path) : Noted Failure Progress := do
  let source ← (Noted.ofExcept (Script.Source.load d path.text)).mapFailure .malformed
  (source.classes.filter fun c => !skip path c).foldlM (addClass d o routes folder path) p

/-- **The atlas of a project without some of its classes.** -/
def analyzeBut (skip : Path → ClassOutline → Bool) (d : Disk) (o : Options) (configuration : Text) :
    Noted Failure Atlas := do
  let folder := folderOf d configuration
  let routes ← routesOf d o folder
  let project ← (Project.read d o.followImports configuration).mapFailure .unreadProject
  let p ← project.sources.foldlM (addSourceBut skip d o routes folder) ⟨[], []⟩
  .note (.analyzed p.entries.length routes.components.length routes.redirections.length)
  return ⟨routes, p.entries⟩

theorem analyzeBut_none (d : Disk) (o : Options) (configuration : Text) :
    analyzeBut (fun _ _ => false) d o configuration = analyze d o configuration := by
  have hsource : addSourceBut (fun _ _ => false) d o = addSource d o := by
    funext routes folder p path
    simp [addSourceBut, addSource]
  unfold analyzeBut analyze
  rw [hsource]

theorem isSkipped_iff {c : ClassOutline} : isSkipped d o path c = true ↔
    Component.isComponent c = true ∧ ∃ what,
      (Component.analyze d o.component none path.text c).1.result = .error (.lacking what) := by
  unfold isSkipped
  rw [Bool.and_eq_true]
  refine and_congr_right fun _ => ?_
  split <;> simp_all

theorem mem_skipped {configuration : Text} {project : Project} {source : Script.Source} {c : ClassOutline}
    (hread : (Project.read d o.followImports configuration).result = .ok project) (hpath : path ∈ project.sources)
    (hload : Script.Source.load d path.text = .ok source) (hc : c ∈ source.classes)
    (hskip : isSkipped d o path c = true) : (path, c) ∈ skipped d o configuration := by
  unfold skipped
  rw [hread]
  refine List.mem_flatMap.2 ⟨path, hpath, ?_⟩
  rw [hload]
  exact List.mem_map.2 ⟨c, List.mem_filter.2 ⟨hc, hskip⟩, rfl⟩

/-- **A class that is skipped and numbers nothing changes nothing.** -/
theorem addClass_isSkipped {c : ClassOutline} (hlenient : o.strict = false) (hskip : isSkipped d o path c = true)
    (hnothing : o.scope = .project → Component.numbersNothing d o.component path.text c = true) (p : Progress) :
    (addClass d o routes folder path p c).result = .ok p := by
  obtain ⟨hcomponent, what, hwhat⟩ := isSkipped_iff.1 hskip
  have herror : (analysisOf d o folder path p c).1.result = .error (.lacking what) :=
    (Component.analyze_error_iff none _).1 hwhat
  have hshared : sharedAfter o p (analysisOf d o folder path p c).2 = p.counters := by
    unfold sharedAfter
    cases hscope : o.scope with
    | template => rfl
    | project =>
      have hcounters := (Component.analyze_counters_of_error herror).2 fun _ => hnothing hscope
      simpa [analysisOf, numberingOf, hscope] using hcounters
  exact addClass_ok_iff.2 (.inr (.inr ⟨hcomponent, hlenient, what, herror, by rw [hshared]⟩))

theorem analyzeBut_of_numbersNothing {configuration : Text} (hlenient : o.strict = false)
    (hnothing : o.scope = .project →
      ∀ c ∈ skipped d o configuration, Component.numbersNothing d o.component c.1.text c.2 = true) :
    (analyzeBut (isSkipped d o) d o configuration).result = (analyze d o configuration).result := by
  refine Noted.result_andThen_congr fun routes _ => Noted.result_andThen_congr fun project hproject => ?_
  rw [Noted.result_mapFailure_ok_iff] at hproject
  -- what follows the sources is a function of the progress alone
  suffices hrun : (project.sources.foldlM (addSourceBut (isSkipped d o) d o routes (folderOf d configuration))
      ⟨[], []⟩).result = (project.sources.foldlM (addSource d o routes (folderOf d configuration)) ⟨[], []⟩).result by
    simp only [Noted.bind_eq_andThen, Noted.andThen, hrun]
    split <;> rfl
  refine Noted.result_foldlM_congr fun path hpath p => Noted.result_andThen_congr fun source hload => ?_
  rw [Noted.result_mapFailure_ok_iff] at hload
  refine Noted.result_foldlM_filter fun c hc hskip p => addClass_isSkipped hlenient hskip (fun hscope => ?_) p
  exact hnothing hscope (path, c) (mem_skipped hproject hpath hload hc hskip)

/-- **What a lenient analysis skips leaves no trace**, but for numbers: a failing analysis of a class leaves the
counters as they were, unless the selector is what it lacks and its template has an element that takes a number; and
unless such counters are shared, the atlas is the one without the skipped classes. -/
theorem analyzeBut_isSkipped (d : Disk) (o : Options) (configuration : Text) (hlenient : o.strict = false) :
    (∀ (n : Component.Numbering) (sourceFile : Text) (c : ClassOutline) (e : Component.Failure),
      (Component.analyze d o.component (some n) sourceFile c).1.result = .error e →
        ((Component.analyze d o.component (some n) sourceFile c).2 = n.counters ↔
          (e = .lacking ⟨.selector, c.name, sourceFile⟩ →
            Component.numbersNothing d o.component sourceFile c = true))) ∧
      ((o.scope = .project →
          ∀ c ∈ skipped d o configuration, Component.numbersNothing d o.component c.1.text c.2 = true) →
        (analyzeBut (isSkipped d o) d o configuration).result = (analyze d o configuration).result) :=
  ⟨fun _ _ _ _ h => Component.analyze_counters_of_error h, analyzeBut_of_numbersNothing hlenient⟩

/-- A disk with a component that lacks its selector, before one that does not. -/
def pair (template : String) : Disk where
  entries := [("p".toList, .folder [
    ("t.json".toList, file "\x7b\"files\":[\"a.ts\"]\x7d"),
    ("r.ts".toList, file ""),
    ("a.ts".toList, file ("@Component(\x7btemplate:'" ++ template ++
      "'\x7d)class A\x7b\x7d@Component(\x7bselector:'b',template:'<a/>'\x7d)class B\x7b\x7d"))])]
  home := []
where
  file (s : String) : File.Entry := .file (s.toList.map fun c => UInt8.ofNat c.toNat)

def sharing : Options :=
  { Options.default with routesFile := "r.ts".toList, followImports := false, strict := false, scope := .project }

def identifiers (a : Noted Failure Atlas) : List (List Text) :=
  match a.result with
  | .ok a => a.entries.map fun e => e.component.widgets.map (·.id)
  | .error _ => []

theorem analyzeBut_isSkipped_blank :
    sharing.strict = false ∧ (skipped (pair "<b/>") sharing "/p/t.json".toList).map (·.2.name) = ["A".toList] ∧
      identifiers (analyze (pair "<b/>") sharing "/p/t.json".toList) = [["A__1".toList]] ∧
      (analyzeBut (isSkipped (pair "<b/>") sharing) (pair "<b/>") sharing "/p/t.json".toList).result =
        (analyze (pair "<b/>") sharing "/p/t.json".toList).result := by
  have hrun : (skipped (pair "<b/>") sharing "/p/t.json".toList).map (·.2.name) = ["A".toList] ∧
      identifiers (analyze (pair "<b/>") sharing "/p/t.json".toList) = [["A__1".toList]] ∧
      ∀ c ∈ skipped (pair "<b/>") sharing "/p/t.json".toList,
        Component.numbersNothing (pair "<b/>") sharing.component c.1.text c.2 = true := by
    unfold pair pair.file
    simp only [String.toList_append]
    -- evaluation is slow in taking the characters of a literal, so they are taken first
    repeat rw [String.toList_ofList]
    decide +kernel
  have hsame := (analyzeBut_isSkipped (pair "<b/>") sharing "/p/t.json".toList rfl).2 fun _ => hrun.2.2
  exact ⟨rfl, hrun.1, hrun.2.1, hsame⟩

/-- The number that the skipped component took is missed by the one after it. -/
theorem analyzeBut_isSkipped_numbered :
    identifiers (analyze (pair "<a/>") sharing "/p/t.json".toList) = [["A__2".toList]] ∧
      identifiers (analyzeBut (isSkipped (pair "<a/>") sharing) (pair "<a/>") sharing "/p/t.json".toList) =
        [["A__1".toList]] := by
  unfold pair pair.file
  simp only [String.toList_append]
  repeat rw [String.toList_ofList]
  decide +kernel

end Atlas
end ViewAtlas
