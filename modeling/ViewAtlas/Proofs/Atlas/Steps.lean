import ViewAtlas.Atlas.Analysis
/-!
# The steps of an analysis

An analysis goes through the classes of the sources one by one.  What one class can do to the progress is said once
(`addClass_ok_iff`); a whole analysis is such steps between two readings (`analyze_ok_iff`).
-/
namespace ViewAtlas

namespace Component

open Script (ClassOutline)

/-- The text of the template of a class; none when the class has no template, or one that cannot be read. -/
def templateText? (d : File.Disk) (sourceFile : Text) (c : ClassOutline) : Option Text :=
  match (templateOf d sourceFile c).result with
  | .ok (some (template, _)) => some template
  | _ => none

variable {d : File.Disk} {s : Setting} {n : Numbering} {sourceFile : Text} {c : ClassOutline}

theorem analyze_ok_iff {component : Component} :
    (analyze d s (some n) sourceFile c).1.result = .ok component ↔
      ∃ template forest, templateText? d sourceFile c = some template ∧ Template.read? template = some forest ∧
        selectorOf c ≠ [] ∧
        ⟨selectorOf c, c.name, sourceFile, (Widget.extract template n.scope s.tags n.counters forest.nodes).widgets,
          Widget.nestedComponents s.start forest.nodes⟩ = component := by
  unfold analyze templateText? finish
  dsimp only
  cases (templateOf d sourceFile c).result with
  | error e => simp
  | ok found =>
    cases found with
    | none => simp
    | some found =>
      obtain ⟨template, name⟩ := found
      dsimp only
      cases hread : Template.read template with
      | error fault => simp [Template.read?_of_error hread]
      | ok forest =>
        by_cases hselector : selectorOf c = []
        · simp [hselector, Noted.andThen, Noted.note, Noted.fail]
        · simp [hselector, Template.read?_of_ok hread, Noted.andThen, Noted.note, Noted.done]

/-- **The counters after the analysis of a class**: those after its template, when it has one that is well formed. -/
theorem analyze_counters : (analyze d s (some n) sourceFile c).2 =
    ((templateText? d sourceFile c).bind fun template => (Template.read? template).map fun forest =>
      (Widget.extract template n.scope s.tags n.counters forest.nodes).counters).getD n.counters := by
  unfold analyze templateText?
  dsimp only
  cases (templateOf d sourceFile c).result with
  | error e => rfl
  | ok found =>
    cases found with
    | none => rfl
    | some found =>
      obtain ⟨template, name⟩ := found
      dsimp only [Option.bind]
      cases hread : Template.read template with
      | error fault => rw [Template.read?_of_error hread]; rfl
      | ok forest => rw [Template.read?_of_ok hread]; rfl

end Component

/-- The classes of the script in a file; none when there is no script. -/
def Script.classesOf (d : File.Disk) (path : Text) : List Script.ClassOutline :=
  match Source.load d path with
  | .ok source => source.classes
  | .error _ => []

namespace Atlas

open File (Disk Path)
open Script (ClassOutline)

variable {d : Disk} {o : Options} {routes : RouteMap} {folder path : Path}

def analysisOf (d : Disk) (o : Options) (folder path : Path) (p : Progress) (c : ClassOutline) :
    Noted Component.Failure Component × Widget.Counters :=
  Component.analyze d o.component (some (numberingOf o p (folder.relative path).text c)) path.text c

def sharedAfter (o : Options) (p : Progress) (counters : Widget.Counters) : Widget.Counters :=
  match o.scope with
  | .template => p.counters
  | .project => counters

/-- **What a class can do**: nothing when it is no component, one entry more when it is analyzed, and the counters
alone when it lacks a part and that is no failure. -/
theorem addClass_ok_iff {p q : Progress} {c : ClassOutline} :
    (addClass d o routes folder path p c).result = .ok q ↔
      (Component.isComponent c = false ∧ p = q) ∨
      (Component.isComponent c = true ∧ ∃ component,
        (analysisOf d o folder path p c).1.result = .ok component ∧
        ⟨sharedAfter o p (analysisOf d o folder path p c).2,
          p.entries ++ [(entryOf o routes (folder.relative path).text c component).2]⟩ = q) ∨
      (Component.isComponent c = true ∧ o.strict = false ∧ ∃ what,
        (analysisOf d o folder path p c).1.result = .error (.lacking what) ∧
        ⟨sharedAfter o p (analysisOf d o folder path p c).2, p.entries⟩ = q) := by
  unfold addClass analysisOf sharedAfter
  cases hc : Component.isComponent c with
  | false => simp [Noted.done]
  | true =>
    dsimp only
    generalize Component.analyze d o.component _ path.text c = r
    obtain ⟨⟨notices, result⟩, counters⟩ := r
    cases result with
    | ok component => cases o.scope <;> simp
    | error e =>
      cases e with
      | malformed | nul | longNumber => simp
      | lacking what => cases o.strict <;> cases o.scope <;> simp

theorem addSource_classes {p q : Progress} (h : (addSource d o routes folder p path).result = .ok q) :
    ((Script.classesOf d path.text).foldlM (addClass d o routes folder path) p).result = .ok q := by
  obtain ⟨source, hload, hclasses⟩ := Noted.result_andThen_ok_iff.1 h
  rw [Noted.result_mapFailure_ok_iff] at hload
  have hload : Script.Source.load d path.text = .ok source := hload
  simp only [Script.classesOf, hload]
  exact hclasses

/-- **An atlas is what is left of going through all sources** of a project that is read. -/
theorem analyze_ok_iff {configuration : Text} {a : Atlas} :
    (analyze d o configuration).result = .ok a ↔
      (routesOf d o (folderOf d configuration)).result = .ok a.routes ∧
      ∃ project p, (Project.read d o.followImports configuration).result = .ok project ∧
        (project.sources.foldlM (addSource d o a.routes (folderOf d configuration)) ⟨[], []⟩).result = .ok p ∧
        a.entries = p.entries := by
  unfold analyze
  simp only [Noted.bind_eq_andThen, Noted.result_andThen_ok_iff, Noted.result_mapFailure_ok_iff]
  constructor
  · rintro ⟨routes, hroutes, project, hproject, p, hp, _, -, h⟩
    cases h
    exact ⟨hroutes, project, p, hproject, hp, rfl⟩
  · rintro ⟨hroutes, project, p, hproject, hp, hentries⟩
    obtain ⟨routes, entries⟩ := a
    cases hentries
    exact ⟨routes, hroutes, project, hproject, p, hp, (), rfl, rfl⟩

theorem analyze_of_read {configuration : Text} {routes : RouteMap} {project : Project}
    (hroutes : (routesOf d o (folderOf d configuration)).result = .ok routes)
    (hread : (Project.read d o.followImports configuration).result = .ok project) :
    (analyze d o configuration).result =
      ((project.sources.foldlM (addSource d o routes (folderOf d configuration)) ⟨[], []⟩).andThen fun p =>
        .done ⟨routes, p.entries⟩).result := by
  have hread' : ((Project.read d o.followImports configuration).mapFailure Failure.unreadProject).result =
      .ok project := Noted.result_mapFailure_ok_iff.2 hread
  unfold analyze
  simp only [Noted.bind_eq_andThen]
  rw [Noted.result_andThen hroutes, Noted.result_andThen hread']
  exact Noted.result_andThen_congr fun _ _ => rfl

end Atlas
end ViewAtlas
