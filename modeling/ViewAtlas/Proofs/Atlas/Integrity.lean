import ViewAtlas.Proofs.Atlas.Steps
import ViewAtlas.Proofs.Logic.Linking
/-!
# What the entries of an atlas refer to

Event maps and calls refer to widgets, events and routes that other parts of the analysis found.  In every atlas these
references hold (`analyze_refers`): the induction is over the classes of all sources, and the invariant is that the
entries made so far refer to the routes that were read first.
-/
namespace ViewAtlas
namespace Atlas

open File (Disk Path)
open Script (ClassOutline)

/-- **An entry that refers to its own widgets** and to the routes of the atlas. -/
def Entry.Refers (routes : RouteMap) (e : Entry) : Prop :=
  List.SublistForall₂ (Logic.EventMap.Maps (routes.components.map (·.2))) e.eventMaps e.component.widgets

theorem entryOf_refers (o : Options) (routes : RouteMap) (sourceFile : Text) (c : ClassOutline)
    (component : Component) : (entryOf o routes sourceFile c component).2.Refers routes := by
  let setting : Logic.Setting := ⟨routes.components.map (·.2), o.words, o.staticRoutes⟩
  exact Logic.link_refers setting o.marks c component.widgets

section Steps

variable {d : Disk} {o : Options} {routes : RouteMap} {folder path : Path} {p q : Progress}

theorem addClass_refers {c : ClassOutline} (hp : ∀ e ∈ p.entries, e.Refers routes)
    (h : (addClass d o routes folder path p c).result = .ok q) : ∀ e ∈ q.entries, e.Refers routes := by
  rcases addClass_ok_iff.1 h with ⟨-, rfl⟩ | ⟨-, component, -, rfl⟩ | ⟨-, -, what, -, rfl⟩
  · exact hp
  · intro e he
    rcases List.mem_append.1 he with he | he
    · exact hp e he
    · rw [List.mem_singleton.1 he]
      exact entryOf_refers ..
  · exact hp

theorem addSource_refers (hp : ∀ e ∈ p.entries, e.Refers routes)
    (h : (addSource d o routes folder p path).result = .ok q) : ∀ e ∈ q.entries, e.Refers routes := by
  obtain ⟨source, -, hclasses⟩ := Noted.result_andThen_ok_iff.1 h
  exact Noted.foldlM_keeps (P := fun p => ∀ e ∈ p.entries, e.Refers routes)
    (fun _ _ _ hp hq => addClass_refers hp hq) hp hclasses

end Steps

/-- **In every atlas, what is referred to is there**: each event map belongs to a widget of its entry and each of its
events to an event of that widget, both in order; the calls of an event have different keys; and each leads to a route
of the atlas, to the back end, or nowhere known. -/
theorem analyze_refers (d : Disk) (o : Options) (configuration : Text) (a : Atlas)
    (h : (analyze d o configuration).result = .ok a) : ∀ e ∈ a.entries, e.Refers a.routes := by
  obtain ⟨-, project, p, -, hsources, hentries⟩ := analyze_ok_iff.1 h
  rw [hentries]
  exact Noted.foldlM_keeps (P := fun p => ∀ e ∈ p.entries, e.Refers a.routes)
    (fun _ _ _ hp hq => addSource_refers hp hq) (by simp) hsources

def shop : Disk where
  entries := [("p".toList, .folder [
    ("t.json".toList, file "\x7b\"files\":[\"a.ts\"]\x7d"),
    ("r.ts".toList, file "const routes=[\x7bpath:'h/:i',component:H\x7d]"),
    ("a.ts".toList, file
      ("@Component(\x7bselector:'s',template:'<a id=i routerLink=h (x)=f() (y)=g></a>'\x7d)" ++
        "class C\x7bf()\x7br.navigate(['h',1])\x7d\x7d"))])]
  home := []
where
  file (s : String) : File.Entry := .file (s.toList.map fun c => UInt8.ofNat c.toNat)

def shopOptions : Options := { Options.default with routesFile := "r.ts".toList, followImports := false }

def shopAtlas : Atlas where
  routes := ⟨[("H".toList, "h/:i".toList)], []⟩
  entries := [
    { component :=
        { selector := "s".toList
          name := "C".toList
          sourceFile := "a.ts".toList
          widgets := [
            { id := "i".toList
              tag := "a".toList
              events := [("routerLink".toList, "h".toList), ("x".toList, "f".toList), ("y".toList, "g".toList)]
              attributes := [("id".toList, "i".toList), ("routerLink".toList, "h".toList)]
              rules := []
              submits := false }]
          nested := [] }
      eventMaps := [
        { widgetId := "i".toList
          events := [
            { event := "x".toList
              handler := "f".toList
              calls := [⟨"r.navigate".toList, "/h/:i".toList, ["1".toList]⟩] }] }] }]

theorem analyze_refers_shop :
    (analyze shop shopOptions "/p/t.json".toList).result = .ok shopAtlas ∧
      ∀ e ∈ shopAtlas.entries, e.Refers shopAtlas.routes := by
  have h : (analyze shop shopOptions "/p/t.json".toList).result = .ok shopAtlas := by
    unfold shop shop.file shopOptions
    simp only [String.toList_append]
    -- evaluation is slow in taking the characters of a literal, so they are taken first
    repeat rw [String.toList_ofList]
    decide +kernel
  exact ⟨h, analyze_refers shop shopOptions "/p/t.json".toList shopAtlas h⟩

end Atlas
end ViewAtlas
