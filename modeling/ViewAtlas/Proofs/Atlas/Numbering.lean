import Mathlib.Data.List.Nodup
import ViewAtlas.Proofs.Atlas.Steps
import ViewAtlas.Proofs.Logic.Linking
import ViewAtlas.Proofs.Project.Sources
import ViewAtlas.Proofs.Widget.Distinct
/-!
# Identifiers in a whole project

When components share their counters, no number is given twice in a project: each template is numbered from where the
ones before it ended.  The identifiers of signals have no such order.  All templates have the same scope then, so the
same tag with the same signal at the same offset has the same identifier wherever it occurs, and this is the only way
in which two identifiers that are made can be equal (`analyze_madeIds`).
-/
namespace ViewAtlas

namespace Widget

open Template (Head Node)

/-- What the identifier of an element with a signal is made of, but for the scope: its tag, its signal and its
offset. -/
def origin? (e : Head × List Node) : Option (Text × Text × Nat) :=
  (signal? e.1 e.2).map fun s => (Text.upper e.1.name, s, e.1.span.start)

/-- **The origins of the identifiers** that are made for elements after their signals. -/
def originsOf (elements : List (Head × List Node)) : List (Text × Text × Nat) :=
  (elements.filter isNameless).filterMap origin?

theorem mem_originsOf_iff {elements : List (Head × List Node)} {tag signal : Text} {offset : Nat} :
    (tag, signal, offset) ∈ originsOf elements ↔ ∃ e ∈ elements.filter isNameless,
      signal? e.1 e.2 = some signal ∧ Text.upper e.1.name = tag ∧ e.1.span.start = offset := by
  unfold originsOf origin?
  simp only [List.mem_filterMap, Option.map_eq_some_iff, Prod.mk.injEq]
  constructor
  · rintro ⟨e, he, s, hs, htag, rfl, hoffset⟩
    exact ⟨e, he, hs, htag, hoffset⟩
  · rintro ⟨e, he, hs, htag, hoffset⟩
    exact ⟨e, he, signal, hs, htag, rfl, hoffset⟩

/-- **What an identifier is made of**: the signal of its element, or a number that is not past those given. -/
def MadeBy (scope : Text) (c : Counters) (e : Head × List Node) (id : Text) : Prop :=
  (∃ s, signal? e.1 e.2 = some s ∧ id = signalId scope (Text.upper e.1.name) s e.1.span.start) ∨
    ∃ n, n ≤ c.count (Text.upper e.1.name) ∧ id = numberedId (Text.upper e.1.name) n

theorem identify_madeBy {scope : Text} {c c' : Counters} {h : Head} {children : List Node}
    (hle : ∀ tag, (identify scope c h children).2.count tag ≤ c'.count tag) :
    MadeBy scope c' (h, children) (identify scope c h children).1 := by
  unfold identify at hle ⊢
  dsimp only at hle ⊢
  split
  · rename_i s hs
    exact .inl ⟨s, hs, rfl⟩
  · rename_i hs
    rw [hs] at hle
    refine .inr ⟨_, ?_, rfl⟩
    have hlast := hle (Text.upper h.name)
    rwa [Counters.count_next, if_pos rfl] at hlast

theorem madeBy_of_mem {template scope id : Text} : ∀ {elements : List (Head × List Node)} {c : Counters},
    id ∈ idsAmong elements ((number template scope c elements).1.map (·.2)) →
      ∃ e ∈ elements.filter isNameless, MadeBy scope (number template scope c elements).2 e id
  | [], _, h => by simp [idsAmong] at h
  | e :: rest, c, h => by
    rw [idsAmong_number, List.mem_append] at h
    have hlast : (number template scope c (e :: rest)).2 = (number template scope (idOf scope c e.1 e.2).2 rest).2 := rfl
    rcases h with h | h
    · split at h
      · rename_i hn
        rw [List.mem_singleton.1 h]
        refine ⟨e, List.mem_filter.2 ⟨List.mem_cons_self .., hn⟩, identify_madeBy fun tag => ?_⟩
        have hs : statedId? e.1 = none := by simpa [isNameless] using hn
        have hid : idOf scope c e.1 e.2 = identify scope c e.1 e.2 := by simp only [idOf, hs]
        rw [hlast, hid]
        exact number_count_le ..
      · cases h
    · obtain ⟨f, hf, hm⟩ := madeBy_of_mem h
      rw [hlast]
      exact ⟨f, (List.sublist_cons_self e rest).filter _ |>.subset hf, hm⟩

theorem signalId_mem_idsAmong {template scope s : Text} {f : Head × List Node} (hs : signal? f.1 f.2 = some s) :
    ∀ {elements : List (Head × List Node)} {c : Counters}, f ∈ elements.filter isNameless →
      signalId scope (Text.upper f.1.name) s f.1.span.start ∈
        idsAmong elements ((number template scope c elements).1.map (·.2))
  | e :: rest, c, hf => by
    rw [idsAmong_number, List.mem_append]
    rw [List.filter_cons] at hf
    split at hf
    · rename_i hn
      rcases List.mem_cons.1 hf with rfl | hf
      · rw [if_pos hn]
        exact .inl (List.mem_singleton.2 (by simp [identify, hs]))
      · exact .inr (signalId_mem_idsAmong hs hf)
    · exact .inr (signalId_mem_idsAmong hs hf)

/-- **When two batches of elements share no identifier**, given that the second is numbered from where the first ended
or later: when they share no origin. -/
theorem disjoint_idsAmong_iff {template template' scope : Text} {c c' : Counters}
    {elements elements' : List (Head × List Node)} (hname : ∀ e ∈ elements, '_' ∉ e.1.name)
    (hname' : ∀ e ∈ elements', '_' ∉ e.1.name)
    (hlater : ∀ tag, (number template scope c elements).2.count tag ≤ c'.count tag)
    (hdigest : ∀ a ∈ seedsOf scope elements, ∀ b ∈ seedsOf scope elements',
      (Text.sha1 a).take suffixLength = (Text.sha1 b).take suffixLength → a = b) :
    List.Disjoint (idsAmong elements ((number template scope c elements).1.map (·.2)))
        (idsAmong elements' ((number template' scope c' elements').1.map (·.2))) ↔
      List.Disjoint (originsOf elements) (originsOf elements') := by
  have hupper : ∀ {l : List (Head × List Node)} {e}, (∀ e ∈ l, '_' ∉ e.1.name) → e ∈ l.filter isNameless →
      '_' ∉ Text.upper e.1.name := fun hl he => Text.underscore_notMem_upper (hl _ (List.mem_filter.1 he).1)
  constructor
  · rintro hids ⟨tag, s, offset⟩ h h'
    obtain ⟨e, he, hs, rfl, rfl⟩ := mem_originsOf_iff.1 h
    obtain ⟨e', he', hs', htag, hoffset⟩ := mem_originsOf_iff.1 h'
    refine hids (signalId_mem_idsAmong hs he) ?_
    rw [← htag, ← hoffset]
    exact signalId_mem_idsAmong hs' he'
  · intro horigins id h h'
    obtain ⟨e, he, hmade⟩ := madeBy_of_mem h
    obtain ⟨e', he', hmade'⟩ := madeFor_of_mem h'
    have hu := hupper hname he
    have hu' := hupper hname' he'
    rcases hmade with ⟨s, hs, rfl⟩ | ⟨n, hn, rfl⟩ <;> rcases hmade' with ⟨s', hs', heq⟩ | ⟨n', hn', heq⟩
    · obtain ⟨htag, rfl, hdig⟩ := signalId_inj hu hu' heq
      have hseed := hdigest _ (mem_seedsOf he hs) _ (mem_seedsOf he' hs') hdig
      rw [htag] at hseed
      exact horigins (mem_originsOf_iff.2 ⟨e, he, hs, rfl, rfl⟩)
        (mem_originsOf_iff.2 ⟨e', he', hs', htag.symm, (seed_inj hseed).symm⟩)
    · exact numberedId_ne_signalId hu' hu heq.symm
    · exact numberedId_ne_signalId hu hu' heq
    · obtain ⟨htag, rfl⟩ := numberedId_inj hu hu' heq
      rw [htag] at hn
      exact absurd (Nat.le_trans hn (hlater _)) (Nat.not_le_of_lt hn')

theorem number_tags (template scope : Text) : ∀ (c : Counters) (elements : List (Head × List Node)),
    ((number template scope c elements).1.map (·.2)).map (·.tag) = elements.map (·.1.name)
  | _, [] => rfl
  | c, e :: rest => congrArg (e.1.name :: ·) (number_tags template scope (idOf scope c e.1 e.2).2 rest)

/-- **Elements of a template that are numbered together**, with the counters before them. -/
structure Batch where
  template : Text
  before : Counters
  elements : List (Head × List Node)

namespace Batch

def widgets (b : Batch) : List Widget := (number b.template [] b.before b.elements).1.map (·.2)

def after (b : Batch) : Counters := (number b.template [] b.before b.elements).2

def ids (b : Batch) : List Text := idsAmong b.elements b.widgets

/-- A batch as it is found in a template: names without `_`, and elements that start one after another. -/
structure IsPlaced (b : Batch) : Prop where
  name : ∀ e ∈ b.elements, '_' ∉ e.1.name
  start : (b.elements.map (·.1.span.start)).Pairwise (· < ·)

end Batch

theorem interactive_placed {template : Text} {forest : Template.Forest} (hread : Template.read? template = some forest)
    (tags : List Text) (c : Counters) : Batch.IsPlaced ⟨template, c, interactive tags forest.nodes⟩ := by
  have hplaced := Template.read?_placed hread
  have hsub : (interactive tags forest.nodes).Sublist (Node.elementsOf forest.nodes) :=
    List.filter_sublist.trans List.filter_sublist
  refine ⟨fun e he hmem => ?_, hplaced.starts.sublist (hsub.map _)⟩
  obtain ⟨_, body, _, hhead, _⟩ := (hplaced.mem_elementsOf e (hsub.subset he)).1.element
  exact absurd (hhead.name _ hmem) (by decide)

/-- **When the identifiers of successive batches are distinct**: when no two batches share an origin. -/
theorem nodup_ids_iff {batches : List Batch} (hplaced : ∀ b ∈ batches, b.IsPlaced)
    (hordered : batches.Pairwise fun b b' => ∀ tag, b.after.count tag ≤ b'.before.count tag)
    (hdigest : Collisionless (batches.flatMap fun b => seedsOf [] b.elements)) :
    (batches.flatMap Batch.ids).Nodup ↔
      batches.Pairwise fun b b' => List.Disjoint (originsOf b.elements) (originsOf b'.elements) := by
  have hseeds : ∀ {b x}, b ∈ batches → x ∈ seedsOf [] b.elements → x ∈ batches.flatMap fun b => seedsOf [] b.elements :=
    fun hb hx => List.mem_flatMap.2 ⟨_, hb, hx⟩
  have hone : ∀ b ∈ batches, b.ids.Nodup := fun b hb =>
    nodup_idsAmong (hplaced b hb).name (hplaced b hb).start fun x hx y hy =>
      hdigest x (hseeds hb hx) y (hseeds hb hy)
  have htwo : ∀ {b b'}, b ∈ batches → b' ∈ batches → (∀ tag, b.after.count tag ≤ b'.before.count tag) →
      (List.Disjoint b.ids b'.ids ↔ List.Disjoint (originsOf b.elements) (originsOf b'.elements)) :=
    fun hb hb' hle => disjoint_idsAmong_iff (hplaced _ hb).name (hplaced _ hb').name hle fun x hx y hy =>
      hdigest x (hseeds hb hx) y (hseeds hb' hy)
  rw [List.nodup_flatMap, and_iff_right hone]
  constructor
  · intro h
    exact (hordered.and h).imp_of_mem fun hb hb' hboth => (htwo hb hb' hboth.1).1 hboth.2
  · intro h
    exact (hordered.and h).imp_of_mem fun hb hb' hboth => (htwo hb hb' hboth.1).2 hboth.2

end Widget

open Widget (Batch)

namespace Logic

theorem link_widgets (s : Setting) (m : RuleMarks) (c : Script.ClassOutline) (widgets : List Widget) :
    (link s m c widgets).widgets = widgets.map (withRules (rulesOf m c)) :=
  List.map_map

theorem withRules_tag (rules : Table (List Text)) (w : Widget) : (withRules rules w).tag = w.tag := by
  unfold withRules
  split <;> (try split) <;> rfl

end Logic

namespace Atlas

open File (Disk Path)
open Script (ClassOutline)
open Template (Head Node)

variable {d : Disk} {o : Options} {routes : RouteMap} {folder path : Path}

/-- The interactive elements of a component; none when the class is no component, or one that cannot be analyzed. -/
def elementsOf? (d : Disk) (o : Options) (path : Path) (c : ClassOutline) : Option (List (Head × List Node)) :=
  if Component.isComponent c ∧ Component.selectorOf c ≠ [] then
    ((Component.templateText? d path.text c).bind Template.read?).map fun forest =>
      Widget.interactive (Widget.chosen o.component.tags) forest.nodes
  else none

/-- **The interactive elements of the components** in the given sources, component by component. -/
def listedElements (d : Disk) (o : Options) (sources : List Path) : List (List (Head × List Node)) :=
  sources.flatMap fun path => (Script.classesOf d path.text).filterMap (elementsOf? d o path)

/-- An entry whose widgets are those of a batch, but for their rules. -/
def Entry.Lists (e : Entry) (b : Batch) : Prop :=
  ∃ rules, e.component.widgets = b.widgets.map (Logic.withRules rules)

/-- **The batches that an analysis has numbered**, one for each entry: each from where those before it ended, or
later. -/
structure Progress.Numbers (p : Progress) (batches : List Batch) : Prop where
  lists : List.Forall₂ (fun b e => Entry.Lists e b) batches p.entries
  placed : ∀ b ∈ batches, b.IsPlaced
  ordered : batches.Pairwise fun b b' => ∀ tag, b.after.count tag ≤ b'.before.count tag
  counted : ∀ b ∈ batches, ∀ tag, b.after.count tag ≤ p.counters.count tag

theorem elementsOf?_eq_some_iff {c : ClassOutline} {elements : List (Head × List Node)} :
    elementsOf? d o path c = some elements ↔
      Component.isComponent c = true ∧ Component.selectorOf c ≠ [] ∧
        ∃ template forest, Component.templateText? d path.text c = some template ∧
          Template.read? template = some forest ∧
          Widget.interactive (Widget.chosen o.component.tags) forest.nodes = elements := by
  unfold elementsOf?
  split
  · rename_i hc
    simp only [Option.map_eq_some_iff, Option.bind_eq_some_iff, hc.1, ne_eq, hc.2, not_false_eq_true, true_and]
    constructor
    · rintro ⟨forest, ⟨template, htext, hread⟩, helements⟩
      exact ⟨template, forest, htext, hread, helements⟩
    · rintro ⟨template, forest, htext, hread, helements⟩
      exact ⟨forest, ⟨template, htext, hread⟩, helements⟩
  · rename_i hc
    simp only [reduceCtorEq, false_iff]
    exact fun h => hc ⟨h.1, h.2.1⟩

theorem numberingOf_project (hscope : o.scope = .project) (p : Progress) (sourceFile : Text) (c : ClassOutline) :
    numberingOf o p sourceFile c = ⟨[], p.counters⟩ := by
  unfold numberingOf
  rw [hscope]

theorem sharedAfter_project (hscope : o.scope = .project) (p : Progress) (counters : Widget.Counters) :
    sharedAfter o p counters = counters := by
  unfold sharedAfter
  rw [hscope]

/-- A template of a component, numbered from the counters so far. -/
def Progress.batch (p : Progress) (o : Options) (template : Text) (forest : Template.Forest) : Batch :=
  ⟨template, p.counters, Widget.interactive (Widget.chosen o.component.tags) forest.nodes⟩

theorem counters_analysisOf (hscope : o.scope = .project) (p : Progress) (c : ClassOutline) :
    (analysisOf d o folder path p c).2 =
      ((Component.templateText? d path.text c).bind fun template => (Template.read? template).map fun forest =>
        (p.batch o template forest).after).getD p.counters := by
  rw [analysisOf, Component.analyze_counters, numberingOf_project hscope]
  rfl

/-- The analysis of a class takes no number back, whether it fails or not. -/
theorem count_le_analysisOf (hscope : o.scope = .project) (p : Progress) (c : ClassOutline) (tag : Text) :
    p.counters.count tag ≤ (analysisOf d o folder path p c).2.count tag := by
  rw [counters_analysisOf hscope]
  cases Component.templateText? d path.text c with
  | none => exact Nat.le_refl _
  | some template =>
    rw [Option.bind_some]
    cases Template.read? template with
    | none => exact Nat.le_refl _
    | some forest => exact Widget.number_count_le ..

theorem elementsOf?_eq_none {p : Progress} {c : ClassOutline} {e : Component.Failure}
    (h : (analysisOf d o folder path p c).1.result = .error e) : elementsOf? d o path c = none := by
  refine Option.eq_none_iff_forall_ne_some.2 fun elements hsome => ?_
  obtain ⟨-, hselector, template, forest, htext, hread, -⟩ := elementsOf?_eq_some_iff.1 hsome
  have hok : ∃ component, (analysisOf d o folder path p c).1.result = .ok component :=
    ⟨_, Component.analyze_ok_iff.2 ⟨template, forest, htext, hread, hselector, rfl⟩⟩
  obtain ⟨component, hok⟩ := hok
  rw [hok] at h
  cases h

theorem Progress.Numbers.idle {p : Progress} {batches : List Batch} {counters : Widget.Counters}
    (hp : p.Numbers batches) (hle : ∀ tag, p.counters.count tag ≤ counters.count tag) :
    Progress.Numbers ⟨counters, p.entries⟩ batches :=
  ⟨hp.lists, hp.placed, hp.ordered, fun b hb tag => Nat.le_trans (hp.counted b hb tag) (hle tag)⟩

theorem Progress.Numbers.more {p : Progress} {batches : List Batch} {b : Batch} {e : Entry} (hp : p.Numbers batches)
    (hbefore : b.before = p.counters) (hplaced : b.IsPlaced) (hlists : e.Lists b) :
    Progress.Numbers ⟨b.after, p.entries ++ [e]⟩ (batches ++ [b]) := by
  have hle : ∀ tag, p.counters.count tag ≤ b.after.count tag := fun tag => hbefore ▸ Widget.number_count_le ..
  constructor
  case lists => exact List.rel_append hp.lists (.cons hlists .nil)
  case placed => exact List.forall_mem_append.2 ⟨hp.placed, List.forall_mem_singleton.2 hplaced⟩
  case ordered =>
    refine List.pairwise_append.2 ⟨hp.ordered, List.pairwise_singleton .., fun x hx y hy => ?_⟩
    rw [List.mem_singleton.1 hy, hbefore]
    exact hp.counted x hx
  case counted =>
    refine List.forall_mem_append.2 ⟨fun x hx tag => Nat.le_trans (hp.counted x hx tag) (hle tag), ?_⟩
    exact List.forall_mem_singleton.2 fun _ => Nat.le_refl _

/-- **What an analysis has gone through**: templates with these elements, numbered one after another. -/
def Progress.HasNumbered (p : Progress) (elements : List (List (Head × List Node))) : Prop :=
  ∃ batches, p.Numbers batches ∧ batches.map (·.elements) = elements

theorem addClass_hasNumbered (hscope : o.scope = .project) {p q : Progress} {c : ClassOutline}
    {elements : List (List (Head × List Node))} (hp : p.HasNumbered elements)
    (h : (addClass d o routes folder path p c).result = .ok q) :
    q.HasNumbered (elements ++ (elementsOf? d o path c).toList) := by
  obtain ⟨batches, hp, rfl⟩ := hp
  rcases addClass_ok_iff.1 h with ⟨hc, rfl⟩ | ⟨hc, component, hok, rfl⟩ | ⟨hc, -, what, herror, rfl⟩
  · have hnone : elementsOf? d o path c = none := if_neg fun hboth => by simp [hc] at hboth
    exact ⟨batches, hp, by simp [hnone]⟩
  · obtain ⟨template, forest, htext, hread, hselector, rfl⟩ := Component.analyze_ok_iff.1 hok
    have hafter : (analysisOf d o folder path p c).2 = (p.batch o template forest).after := by
      rw [counters_analysisOf hscope, htext, Option.bind_some, hread]
      rfl
    have hsome : elementsOf? d o path c = some (p.batch o template forest).elements :=
      elementsOf?_eq_some_iff.2 ⟨hc, hselector, template, forest, htext, hread, rfl⟩
    rw [sharedAfter_project hscope, hafter, numberingOf_project hscope, hsome]
    refine ⟨batches ++ [p.batch o template forest],
      hp.more rfl (Widget.interactive_placed hread _ _) ⟨_, Logic.link_widgets ..⟩, ?_⟩
    rw [List.map_append]
    rfl
  · rw [sharedAfter_project hscope]
    exact ⟨batches, hp.idle (count_le_analysisOf hscope p c), by simp [elementsOf?_eq_none herror]⟩

theorem addSource_hasNumbered (hscope : o.scope = .project) {p q : Progress}
    {elements : List (List (Head × List Node))} (hp : p.HasNumbered elements)
    (h : (addSource d o routes folder p path).result = .ok q) :
    q.HasNumbered (elements ++ (Script.classesOf d path.text).filterMap (elementsOf? d o path)) := by
  rw [List.filterMap_eq_flatMap_toList]
  exact Noted.foldlM_traces (P := fun elements p => p.HasNumbered elements)
    (fun _ _ _ _ hp hq => addClass_hasNumbered hscope hp hq) hp (addSource_classes h)

/-- **An analysis numbers the templates of its components one after another.** -/
theorem analyze_numbers {configuration : Text} {a : Atlas} {project : Project} (hscope : o.scope = .project)
    (h : (analyze d o configuration).result = .ok a)
    (hread : (Project.read d o.followImports configuration).result = .ok project) :
    ∃ p : Progress, p.entries = a.entries ∧ p.HasNumbered (listedElements d o project.sources) := by
  obtain ⟨-, project', p, hread', hsources, hentries⟩ := analyze_ok_iff.1 h
  rw [hread] at hread'
  cases hread'
  have hstart : Progress.HasNumbered ⟨[], []⟩ [] := ⟨[], ⟨.nil, by simp, .nil, by simp⟩, rfl⟩
  exact ⟨p, hentries.symm, Noted.foldlM_traces (P := fun elements p => p.HasNumbered elements)
    (fun _ _ _ _ hp hq => addSource_hasNumbered hscope hp hq) hstart hsources⟩

/-- **The identifiers that are made in a project**: those of the widgets whose elements state none. -/
def madeIds (elements : List (List (Head × List Node))) (entries : List Entry) : List Text :=
  (List.zipWith (fun es e => Widget.idsAmong es e.component.widgets) elements entries).flatten

theorem Entry.Lists.idsAmong {e : Entry} {b : Batch} (h : e.Lists b) :
    Widget.idsAmong b.elements e.component.widgets = b.ids := by
  obtain ⟨rules, hwidgets⟩ := h
  rw [hwidgets, Widget.idsAmong, List.zip_map_right, List.filterMap_map]
  simp only [Function.comp_def, Prod.map, id_eq, Logic.withRules_id]
  rfl

theorem Entry.Lists.tags {e : Entry} {b : Batch} (h : e.Lists b) :
    e.component.widgets.map (·.tag) = b.elements.map (·.1.name) := by
  obtain ⟨rules, hwidgets⟩ := h
  rw [hwidgets, List.map_map]
  simp only [Function.comp_def, Logic.withRules_tag]
  exact Widget.number_tags ..

theorem madeIds_of_lists : ∀ {batches : List Batch} {entries : List Entry},
    List.Forall₂ (fun b e => Entry.Lists e b) batches entries →
      madeIds (batches.map (·.elements)) entries = batches.flatMap Batch.ids
  | _, _, .nil => rfl
  | _, _, .cons h hrest => by
    rw [List.flatMap_cons, ← h.idsAmong, ← madeIds_of_lists hrest]
    rfl

/-- **The identifiers made in a project are distinct exactly when no two components share an origin**: a tag and a
signal at one offset.  Every entry lists the widgets of its own elements, in order. -/
theorem analyze_madeIds {configuration : Text} {a : Atlas} {project : Project} (hscope : o.scope = .project)
    (h : (analyze d o configuration).result = .ok a)
    (hread : (Project.read d o.followImports configuration).result = .ok project)
    (hdigest : Widget.Collisionless ((listedElements d o project.sources).flatMap (Widget.seedsOf []))) :
    List.Forall₂ (fun elements e => e.component.widgets.map (·.tag) = elements.map (·.1.name))
        (listedElements d o project.sources) a.entries ∧
      ((madeIds (listedElements d o project.sources) a.entries).Nodup ↔
        (listedElements d o project.sources).Pairwise fun elements others =>
          List.Disjoint (Widget.originsOf elements) (Widget.originsOf others)) := by
  obtain ⟨p, hentries, batches, hp, hlisted⟩ := analyze_numbers hscope h hread
  rw [← hlisted] at hdigest ⊢
  rw [← hentries, madeIds_of_lists hp.lists, List.pairwise_map]
  rw [List.flatMap_map] at hdigest
  refine ⟨List.forall₂_map_left_iff.2 (hp.lists.imp fun _ _ hlists => hlists.tags), ?_⟩
  exact Widget.nodup_ids_iff hp.placed hp.ordered hdigest

def twins (template template' : String) : Disk where
  entries := [("p".toList, .folder [
    ("t.json".toList, file "\x7b\"files\":[\"a.ts\",\"b.ts\"]\x7d"), ("r.ts".toList, file ""),
    ("a.ts".toList, file ("@Component(\x7bselector:'s',template:'" ++ template ++ "'\x7d)class A\x7b\x7d")),
    ("b.ts".toList, file ("@Component(\x7bselector:'s',template:'" ++ template' ++ "'\x7d)class B\x7b\x7d"))])]
  home := []
where
  file (s : String) : File.Entry := .file (s.toList.map fun c => UInt8.ofNat c.toNat)

def joined : Options :=
  { Options.default with routesFile := "r.ts".toList, followImports := false, scope := .project }

def twinProject : Project where
  root := ⟨1, ["p".toList]⟩
  configuration := ⟨1, ["p".toList, "t.json".toList]⟩
  sources := ["a.ts", "b.ts"].map fun name => ⟨1, ["p".toList, name.toList]⟩

def twinAtlas (widgets widgets' : List Widget) : Atlas where
  routes := ⟨[], []⟩
  entries := [⟨⟨"s".toList, "A".toList, "a.ts".toList, widgets, []⟩, []⟩,
    ⟨⟨"s".toList, "B".toList, "b.ts".toList, widgets', []⟩, []⟩]

def wordLink : Head × List Node :=
  (⟨false, "a".toList, ⟨0, 8⟩, [], [], [], []⟩, [.text "x".toList ⟨3, 4⟩])

def wordWidget : Widget := ⟨"A__x__35182f19".toList, "a".toList, [], [], [], false⟩

def plainLink (start : Nat) : Head × List Node := (⟨false, "a".toList, ⟨start, start + 4⟩, [], [], [], []⟩, [])

def plainWidget (id : String) : Widget := ⟨id.toList, "a".toList, [], [], [], false⟩

/-- **The twins are analyzed**, step by step: what is selected and in which order, the routes, and what the sources add. -/
def AreAnalyzed (d : Disk) (a : Atlas) : Prop :=
  (d.isFile "/p/t.json".toList = true ∧ d.absolute "/p/t.json".toList = twinProject.configuration ∧
    ((Project.resolve d [] twinProject.configuration).andThen
      (Project.selected d twinProject.configuration.folder)).result = .ok twinProject.sources) ∧
  (routesOf d joined (folderOf d "/p/t.json".toList)).result = .ok a.routes ∧
  ((twinProject.sources.foldlM (addSource d joined a.routes (folderOf d "/p/t.json".toList)) ⟨[], []⟩).andThen fun p =>
    .done ⟨a.routes, p.entries⟩).result = .ok a

theorem AreAnalyzed.analyze {d : Disk} {a : Atlas} (h : AreAnalyzed d a) :
    (Project.read d joined.followImports "/p/t.json".toList).result = .ok twinProject ∧
      (analyze d joined "/p/t.json".toList).result = .ok a := by
  obtain ⟨⟨hfile, hpath, hselected⟩, hroutes, hadded⟩ := h
  have hread := Project.read_of_selected d "/p/t.json".toList twinProject.configuration twinProject.sources hfile hpath
    hselected (by decide +kernel) (by decide) (by decide)
  exact ⟨hread, (analyze_of_read hroutes hread).trans hadded⟩

theorem analyze_madeIds_distinct :
    let d := twins "<a>x</a><a/>" "<a/>"
    let a := twinAtlas [wordWidget, plainWidget "A__1"] [plainWidget "A__2"]
    joined.scope = .project ∧ (analyze d joined "/p/t.json".toList).result = .ok a ∧
      madeIds (listedElements d joined twinProject.sources) a.entries =
        ["A__x__35182f19".toList, "A__1".toList, "A__2".toList] ∧
      (madeIds (listedElements d joined twinProject.sources) a.entries).Nodup := by
  intro d a
  have hlisted : listedElements d joined twinProject.sources = [[wordLink, plainLink 8], [plainLink 0]] ∧
      AreAnalyzed d a := by
    unfold AreAnalyzed d twins twins.file
    simp only [String.toList_append]
    -- evaluation is slow in taking the characters of a literal, so they are taken first
    repeat rw [String.toList_ofList]
    decide +kernel
  obtain ⟨hlisted, hanalyzed⟩ := hlisted
  obtain ⟨hread, h⟩ := hanalyzed.analyze
  have hall := @analyze_madeIds d joined "/p/t.json".toList a twinProject rfl h hread
  rw [hlisted] at hall ⊢
  have hdigest : Widget.Collisionless ([[wordLink, plainLink 8], [plainLink 0]].flatMap (Widget.seedsOf [])) := by
    unfold Widget.Collisionless
    decide +kernel
  have hdisjoint : List.Disjoint (Widget.originsOf [wordLink, plainLink 8]) (Widget.originsOf [plainLink 0]) := by
    unfold List.Disjoint
    decide +kernel
  exact ⟨rfl, h, by decide +kernel, (hall hdigest).2.2 (List.pairwise_pair.2 hdisjoint)⟩

/-- Two links to one word, each at the start of the template of a component, have one seed and one identifier. -/
theorem analyze_madeIds_repeated :
    let d := twins "<a>x</a>" "<a>x</a>"
    let a := twinAtlas [wordWidget] [wordWidget]
    joined.scope = .project ∧ (analyze d joined "/p/t.json".toList).result = .ok a ∧
      Widget.Collisionless (Widget.seedsOf [] [wordLink, wordLink]) ∧
      (∀ e ∈ a.entries, ∀ w ∈ e.component.widgets, w.attributes.get? "id".toList = none) ∧
      ¬ (a.entries.flatMap fun e => e.component.widgets.map (·.id)).Nodup := by
  intro d a
  have hanalyzed : AreAnalyzed d a := by
    unfold AreAnalyzed d twins twins.file
    simp only [String.toList_append]
    repeat rw [String.toList_ofList]
    decide +kernel
  have hdigest : Widget.Collisionless (Widget.seedsOf [] [wordLink, wordLink]) := by
    unfold Widget.Collisionless
    decide +kernel
  exact ⟨rfl, hanalyzed.analyze.2, hdigest, by decide, by decide⟩

end Atlas
end ViewAtlas
