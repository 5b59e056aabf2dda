import ViewAtlas.Proofs.Atlas.Steps
import ViewAtlas.Proofs.Project.Sources
/-!
# What the entries of a source depend on

When each component has counters of its own, the steps of an analysis leave nothing to each other but the entries so
far: the entries of an atlas are those of its sources in order, each source analyzed by itself (`analyze_entries`).  So
what a source contributes depends on the source, the templates of its components and the routes alone, whatever else
the project holds (`analyze_independent`).
-/
namespace ViewAtlas

namespace File

def Disk.text? (d : Disk) (path : Text) : Option Text := (d.read path).toOption

end File

open File (Disk Path)
open Script (ClassOutline Source)

namespace Script

theorem Source.load_ok_iff {d : Disk} {path : Text} {source : Source} :
    Source.load d path = .ok source ↔
      ∃ s tree, d.text? path = some s ∧ parse? s = some tree ∧ ⟨path, tree⟩ = source := by
  unfold Source.load Source.parse Source.read? Disk.text?
  cases d.read path with
  | error why => cases why <;> simp [Except.toOption]
  | ok s => cases hs : parse? s <;> simp [Except.toOption, hs]

theorem classesOf_eq (d : Disk) (path : Text) :
    classesOf d path = ((d.text? path).bind parse?).elim [] fun tree => Source.classes ⟨path, tree⟩ := by
  unfold classesOf
  cases h : Source.load d path with
  | ok source =>
    obtain ⟨s, tree, hs, htree, rfl⟩ := Source.load_ok_iff.1 h
    rw [hs, Option.bind_some, htree]
    rfl
  | error e =>
    cases htree : (d.text? path).bind parse? with
    | none => rfl
    | some tree =>
      obtain ⟨s, hs, htree⟩ := Option.bind_eq_some_iff.1 htree
      rw [Source.load_ok_iff.2 ⟨s, tree, hs, htree, rfl⟩] at h
      cases h

end Script

namespace Component

/-- The file that a component takes its template from, as the component names it; none when the component states its
template itself. -/
def templateUrl? (c : ClassOutline) : Option Text :=
  match stringProperty? c "template" with
  | some _ => none
  | none => stringProperty? c "templateUrl"

/-- **A template is that of the component itself, or the text of the file that it names.** -/
theorem templateText?_eq (d : Disk) (sourceFile : Text) (c : ClassOutline) :
    templateText? d sourceFile c =
      (stringProperty? c "template").or ((templateUrl? c).bind fun url => d.text? (templatePath sourceFile url)) := by
  unfold templateText? templateOf templateUrl? Disk.text?
  cases stringProperty? c "template" with
  | some template => rfl
  | none =>
    cases stringProperty? c "templateUrl" with
    | none => rfl
    | some url =>
      dsimp only [Option.bind]
      cases d.read (templatePath sourceFile url) with
      | ok template => rfl
      | error why =>
        cases why with
        | absent why => cases why <;> rfl
        | isFolder => rfl
        | notUtf8 fault => rfl

end Component

namespace Atlas

variable {d d' : Disk} {o : Options} {routes : RouteMap} {folder path path' : Path}

/-! ## What a source contributes -/

/-- The entry of a class by itself; none when the class is no component, or one that cannot be analyzed. -/
def entryAlone? (d : Disk) (o : Options) (routes : RouteMap) (folder path : Path) (c : ClassOutline) : Option Entry :=
  if Component.isComponent c then
    match (analysisOf d o folder path ⟨[], []⟩ c).1.result with
    | .ok component => some (entryOf o routes (folder.relative path).text c component).2
    | .error _ => none
  else none

/-- **The entries of a source by itself.** -/
def entriesOf (d : Disk) (o : Options) (routes : RouteMap) (folder path : Path) : List Entry :=
  (Script.classesOf d path.text).filterMap (entryAlone? d o routes folder path)

theorem entryAlone?_eq_some_iff {c : ClassOutline} {e : Entry} :
    entryAlone? d o routes folder path c = some e ↔
      Component.isComponent c = true ∧ ∃ component,
        (analysisOf d o folder path ⟨[], []⟩ c).1.result = .ok component ∧
        (entryOf o routes (folder.relative path).text c component).2 = e := by
  unfold entryAlone?
  cases Component.isComponent c with
  | false => simp
  | true => cases (analysisOf d o folder path ⟨[], []⟩ c).1.result <;> simp

theorem analysisOf_eq (hscope : o.scope = .template) (p : Progress) (c : ClassOutline) :
    analysisOf d o folder path p c = analysisOf d o folder path ⟨[], []⟩ c := by
  unfold analysisOf numberingOf
  rw [hscope]

theorem addClass_entries (hscope : o.scope = .template) {p q : Progress} {c : ClassOutline}
    (h : (addClass d o routes folder path p c).result = .ok q) :
    q.entries = p.entries ++ (entryAlone? d o routes folder path c).toList := by
  have hown : ∀ {e}, entryAlone? d o routes folder path c = some e →
      p.entries ++ [e] = p.entries ++ (entryAlone? d o routes folder path c).toList := by
    intro e he
    rw [he]
    rfl
  rcases addClass_ok_iff.1 h with ⟨hc, rfl⟩ | ⟨hc, component, hok, rfl⟩ | ⟨hc, -, what, herror, rfl⟩
  · simp [entryAlone?, hc]
  · rw [analysisOf_eq hscope] at hok
    exact hown (entryAlone?_eq_some_iff.2 ⟨hc, component, hok, rfl⟩)
  · rw [analysisOf_eq hscope] at herror
    simp [entryAlone?, herror]

theorem addSource_entries (hscope : o.scope = .template) {p q : Progress}
    (h : (addSource d o routes folder p path).result = .ok q) :
    q.entries = p.entries ++ entriesOf d o routes folder path := by
  rw [entriesOf, List.filterMap_eq_flatMap_toList]
  exact Noted.foldlM_appends (fun _ _ _ hq => addClass_entries hscope hq) (addSource_classes h)

/-- **When counters are not shared, the entries of an atlas are those of its sources**, each by itself. -/
theorem analyze_entries {configuration : Text} {a : Atlas} {project : Project} (hscope : o.scope = .template)
    (h : (analyze d o configuration).result = .ok a)
    (hread : (Project.read d o.followImports configuration).result = .ok project) :
    a.entries = project.sources.flatMap (entriesOf d o a.routes (folderOf d configuration)) := by
  obtain ⟨-, project', p, hread', hsources, hentries⟩ := analyze_ok_iff.1 h
  rw [hread] at hread'
  cases hread'
  rw [hentries]
  exact Noted.foldlM_appends (fun _ _ _ hq => addSource_entries hscope hq) hsources

theorem sourceFile_of_mem_entriesOf {e : Entry} (he : e ∈ entriesOf d o routes folder path) :
    e.component.sourceFile = (folder.relative path).text := by
  obtain ⟨c, -, hc⟩ := List.mem_filterMap.1 he
  obtain ⟨-, component, -, rfl⟩ := entryAlone?_eq_some_iff.1 hc
  rfl

/-- A property that only what one element of a list contributes has, selects just that. -/
theorem filter_flatMap_of_unique {α β : Type} {own : α → List β} {p : β → Bool} {l : List α} {a : α} (hl : l.Nodup)
    (ha : a ∈ l) (hown : ∀ b ∈ own a, p b = true) (hother : ∀ x ∈ l, x ≠ a → ∀ b ∈ own x, p b = false) :
    (l.flatMap own).filter p = own a := by
  obtain ⟨before, after, rfl⟩ := List.append_of_mem ha
  have hnone : ∀ l' : List α, (∀ x ∈ l', x ∈ before ++ a :: after ∧ x ≠ a) → (l'.flatMap own).filter p = [] := by
    intro l' hl'
    rw [List.filter_eq_nil_iff]
    intro b hb
    obtain ⟨x, hx, hb⟩ := List.mem_flatMap.1 hb
    simp [hother x (hl' x hx).1 (hl' x hx).2 b hb]
  rw [List.nodup_append] at hl
  obtain ⟨-, hafter, hbefore⟩ := hl
  rw [List.flatMap_append, List.flatMap_cons, List.filter_append, List.filter_append, List.filter_eq_self.2 hown,
    hnone before fun x hx => ⟨List.mem_append_left _ hx, hbefore x hx a (List.mem_cons_self ..)⟩,
    hnone after fun x hx => ⟨List.mem_append_right _ (List.mem_cons_of_mem _ hx), ?_⟩, List.nil_append, List.append_nil]
  rintro rfl
  exact (List.nodup_cons.1 hafter).1 hx

theorem filter_sourceFile {configuration : Text} {a : Atlas} {project : Project} (hscope : o.scope = .template)
    (hd : d.isNamed = true) (h : (analyze d o configuration).result = .ok a)
    (hread : (Project.read d o.followImports configuration).result = .ok project) (hpath : path ∈ project.sources) :
    (a.entries.filter fun e => e.component.sourceFile = (project.root.relative path).text) =
      entriesOf d o a.routes project.root path := by
  obtain ⟨hroot, hnodup, -⟩ := Project.read_sources hd hread
  rw [analyze_entries hscope h hread, folderOf, ← hroot]
  refine filter_flatMap_of_unique hnodup hpath (fun e he => ?_) fun other hother hne e he => ?_
  · exact decide_eq_true (sourceFile_of_mem_entriesOf he)
  · refine decide_eq_false fun hsame => hne ?_
    rw [sourceFile_of_mem_entriesOf he] at hsame
    exact Project.read_distinct hd hread other hother path hpath hsame

/-! ## The same source in two projects -/

/-- **A source that is the same on two disks**, and so are the files from which its components take their
templates. -/
structure SameSource (d d' : Disk) (path path' : Path) : Prop where
  text : d.text? path.text = d'.text? path'.text
  templates : ∀ c ∈ Script.classesOf d path.text, Component.isComponent c = true →
    ∀ url ∈ Component.templateUrl? c,
      d.text? (Component.templatePath path.text url) = d'.text? (Component.templatePath path'.text url)

instance : Decidable (SameSource d d' path path') :=
  decidable_of_iff
    (d.text? path.text = d'.text? path'.text ∧
      ∀ c ∈ Script.classesOf d path.text, Component.isComponent c = true → ∀ url ∈ Component.templateUrl? c,
        d.text? (Component.templatePath path.text url) = d'.text? (Component.templatePath path'.text url))
    ⟨fun h => ⟨h.1, h.2⟩, fun h => ⟨h.text, h.templates⟩⟩

theorem entryAlone?_congr {folder' : Path} {c : ClassOutline}
    (htemplate : Component.isComponent c = true →
      Component.templateText? d path.text c = Component.templateText? d' path'.text c)
    (hrelative : (folder.relative path).text = (folder'.relative path').text) :
    entryAlone? d o routes folder path c = entryAlone? d' o routes folder' path' c := by
  cases hc : Component.isComponent c with
  | false => simp [entryAlone?, hc]
  | true =>
    refine Option.ext fun e => ?_
    simp only [entryAlone?_eq_some_iff, analysisOf, Component.analyze_ok_iff, htemplate hc, numberingOf, hrelative]
    -- the component differs in its source file, which its entry does not take over
    constructor
    all_goals
      rintro ⟨-, component, ⟨template, forest, htext, hforest, hselector, rfl⟩, rfl⟩
      exact ⟨hc, _, ⟨template, forest, htext, hforest, hselector, rfl⟩, rfl⟩

theorem entriesOf_congr {folder' : Path} (hsame : SameSource d d' path path')
    (hrelative : (folder.relative path).text = (folder'.relative path').text) :
    entriesOf d o routes folder path = entriesOf d' o routes folder' path' := by
  have hclasses : Script.classesOf d path.text = Script.classesOf d' path'.text := by
    rw [Script.classesOf_eq, Script.classesOf_eq, hsame.text]
    rfl
  rw [entriesOf, entriesOf, ← hclasses]
  refine List.filterMap_congr fun c hc => entryAlone?_congr (fun hcomponent => ?_) hrelative
  rw [Component.templateText?_eq, Component.templateText?_eq]
  refine congrArg (Option.or _) (Option.bind_congr fun url hurl => ?_)
  exact hsame.templates c hc hcomponent url hurl

theorem routesOf_ok_iff {r : RouteMap} : (routesOf d o folder).result = .ok r ↔
    d.isFile (File.joinTexts folder.text o.routesFile) = true ∧
      ∃ source, Source.load d (File.joinTexts folder.text o.routesFile) = .ok source ∧
        .ofListing (Route.listing o.routeVariables source) = r := by
  unfold routesOf
  dsimp only
  cases d.isFile (File.joinTexts folder.text o.routesFile) with
  | false => simp [Noted.andThen, Noted.note, Noted.fail]
  | true =>
    simp only [Bool.not_true, Bool.false_eq_true, if_false, true_and]
    simp only [Noted.bind_eq_andThen, Noted.result_andThen_ok_iff, Noted.result_mapFailure_ok_iff]
    constructor
    · rintro ⟨source, hsource, -, -, hr⟩
      cases hr
      exact ⟨source, hsource, rfl⟩
    · rintro ⟨source, hsource, rfl⟩
      exact ⟨source, hsource, (), rfl, rfl⟩

theorem routesOf_congr {folder' : Path} {r r' : RouteMap}
    (hsame : d.text? (File.joinTexts folder.text o.routesFile) = d'.text? (File.joinTexts folder'.text o.routesFile))
    (h : (routesOf d o folder).result = .ok r) (h' : (routesOf d' o folder').result = .ok r') : r = r' := by
  obtain ⟨-, source, hsource, rfl⟩ := routesOf_ok_iff.1 h
  obtain ⟨-, source', hsource', rfl⟩ := routesOf_ok_iff.1 h'
  obtain ⟨s, tree, hs, htree, rfl⟩ := Script.Source.load_ok_iff.1 hsource
  obtain ⟨s', tree', hs', htree', rfl⟩ := Script.Source.load_ok_iff.1 hsource'
  rw [hsame, hs'] at hs
  cases hs
  rw [htree'] at htree
  cases htree
  rfl

/-- **Components do not influence each other** when each has counters of its own: in two projects, a source that is
the same in both has the same entries, whatever else the projects hold and however they were configured. -/
theorem analyze_independent {configuration configuration' : Text} {a a' : Atlas} {project project' : Project}
    (hscope : o.scope = .template) (hd : d.isNamed = true) (hd' : d'.isNamed = true)
    (h : (analyze d o configuration).result = .ok a) (h' : (analyze d' o configuration').result = .ok a')
    (hread : (Project.read d o.followImports configuration).result = .ok project)
    (hread' : (Project.read d' o.followImports configuration').result = .ok project')
    (hroutes : d.text? (File.joinTexts project.root.text o.routesFile) =
      d'.text? (File.joinTexts project'.root.text o.routesFile))
    (hpath : path ∈ project.sources) (hpath' : path' ∈ project'.sources)
    (hrelative : (project.root.relative path).text = (project'.root.relative path').text)
    (hsame : SameSource d d' path path') :
    (a.entries.filter fun e => e.component.sourceFile = (project.root.relative path).text) =
      a'.entries.filter fun e => e.component.sourceFile = (project'.root.relative path').text := by
  have hroot := (Project.read_sources hd hread).1
  have hroot' := (Project.read_sources hd' hread').1
  have hsameRoutes : a.routes = a'.routes := by
    rw [hroot, hroot'] at hroutes
    exact routesOf_congr hroutes (analyze_ok_iff.1 h).1 (analyze_ok_iff.1 h').1
  rw [filter_sourceFile hscope hd h hread hpath, filter_sourceFile hscope hd' h' hread' hpath', hsameRoutes]
  exact entriesOf_congr hsame hrelative

def alone : Disk where
  entries := [("p".toList, .folder [
    ("t.json".toList, file "\x7b\"files\":[\"a.ts\"]\x7d"), ("r.ts".toList, file ""),
    ("a.ts".toList, file "@Component(\x7bselector:'s',templateUrl:'t'\x7d)class A\x7b\x7d"),
    ("t".toList, file "<a/>")])]
  home := []
where
  file (s : String) : File.Entry := .file (s.toList.map fun c => UInt8.ofNat c.toNat)

def beside : Disk where
  entries := [("q".toList, .folder [
    ("u.json".toList, file "\x7b\"files\":[\"A.ts\",\"a.ts\"]\x7d"), ("r.ts".toList, file ""),
    ("A.ts".toList, file "@Component(\x7bselector:'z',template:'<a/><a/>'\x7d)class A\x7b\x7d"),
    ("a.ts".toList, file "@Component(\x7bselector:'s',templateUrl:'t'\x7d)class A\x7b\x7d"),
    ("t".toList, file "<a/>")])]
  home := []
where
  file (s : String) : File.Entry := .file (s.toList.map fun c => UInt8.ofNat c.toNat)

def apart : Options := { Options.default with routesFile := "r.ts".toList, followImports := false }

def aloneProject : Project where
  root := ⟨1, ["p".toList]⟩
  configuration := ⟨1, ["p".toList, "t.json".toList]⟩
  sources := [⟨1, ["p".toList, "a.ts".toList]⟩]

def besideProject : Project where
  root := ⟨1, ["q".toList]⟩
  configuration := ⟨1, ["q".toList, "u.json".toList]⟩
  sources := ["A.ts", "a.ts"].map fun name => ⟨1, ["q".toList, name.toList]⟩

def linksOf (selector sourceFile : String) (ids : List String) : Entry where
  component :=
    { selector := selector.toList
      name := "A".toList
      sourceFile := sourceFile.toList
      widgets := ids.map fun id => ⟨id.toList, "a".toList, [], [], [], false⟩
      nested := [] }
  eventMaps := []

def aloneAtlas : Atlas := ⟨⟨[], []⟩, [linksOf "s" "a.ts" ["A__1"]]⟩

def besideAtlas : Atlas := ⟨⟨[], []⟩, [linksOf "z" "A.ts" ["A__1", "A__2"], linksOf "s" "a.ts" ["A__1"]]⟩

theorem analyze_independent_beside :
    (analyze alone apart "/p/t.json".toList).result = .ok aloneAtlas ∧
      (analyze beside apart "/q/u.json".toList).result = .ok besideAtlas ∧
      (aloneAtlas.entries.filter fun e => e.component.sourceFile = "a.ts".toList) =
        besideAtlas.entries.filter fun e => e.component.sourceFile = "a.ts".toList := by
  let path : Path := ⟨1, ["p".toList, "a.ts".toList]⟩
  let path' : Path := ⟨1, ["q".toList, "a.ts".toList]⟩
  have hrun : ((Project.read alone apart.followImports "/p/t.json".toList).result = .ok aloneProject ∧
        (analyze alone apart "/p/t.json".toList).result = .ok aloneAtlas) ∧
      (beside.isFile "/q/u.json".toList = true ∧ beside.absolute "/q/u.json".toList = besideProject.configuration ∧
        ((Project.resolve beside [] besideProject.configuration).andThen
          (Project.selected beside besideProject.configuration.folder)).result = .ok besideProject.sources) ∧
      ((routesOf beside apart (folderOf beside "/q/u.json".toList)).result = .ok besideAtlas.routes ∧
        ((besideProject.sources.foldlM (addSource beside apart besideAtlas.routes (folderOf beside "/q/u.json".toList))
          ⟨[], []⟩).andThen fun p => .done ⟨besideAtlas.routes, p.entries⟩).result = .ok besideAtlas) ∧
      alone.text? (File.joinTexts aloneProject.root.text apart.routesFile) =
        beside.text? (File.joinTexts besideProject.root.text apart.routesFile) ∧
      SameSource alone beside path path' := by
    unfold alone beside alone.file beside.file
    -- evaluation is slow in taking the characters of a literal, so they are taken first
    repeat rw [String.toList_ofList]
    decide +kernel
  obtain ⟨⟨hread, h⟩, ⟨hfile', hpath', hselected'⟩, ⟨hroutes', hadded'⟩, hroutes, hsame⟩ := hrun
  have hread' : (Project.read beside apart.followImports "/q/u.json".toList).result = .ok besideProject :=
    Project.read_of_selected beside "/q/u.json".toList besideProject.configuration besideProject.sources hfile' hpath'
      hselected' (by decide +kernel) (by decide) (by decide)
  have h' : (analyze beside apart "/q/u.json".toList).result = .ok besideAtlas :=
    (analyze_of_read hroutes' hread').trans hadded'
  exact ⟨h, h', analyze_independent rfl (by decide +kernel) (by decide +kernel) h h' hread
    hread' hroutes (List.mem_singleton.2 rfl) (by decide +kernel) (by decide +kernel) hsame⟩

end Atlas
end ViewAtlas
