import Mathlib.Data.List.Nodup
import ViewAtlas.Proofs.Atlas.Steps
import ViewAtlas.Proofs.Project.Loading
import ViewAtlas.Report
/-!
# Reports that are read back

A report loses nothing: the document that is read back from its text, in either layout, is the document of the atlas, and
the time, the project and the atlas can be told from it (`load_text`).  The readers below know the names of the fields
and their order, and nothing of how a document is made.
-/
namespace ViewAtlas
namespace Report

open File (Disk Place)
open Json (Value Layout Plain)
open Project (textOf?)

/-! ## Reading a document -/

def fields? (names : List String) : Value → Option (List Value)
  | .record fields => if fields.map (·.1) = names.map String.toList then some (fields.map (·.2)) else none
  | _ => none

def listOf? {α : Type} (read : Value → Option α) : Value → Option (List α)
  | .list items => items.mapM read
  | _ => none

def table? : Value → Option (Table Text)
  | .record fields => fields.mapM fun f => (textOf? f.2).map fun t => (f.1, t)
  | _ => none

def bool? : Value → Option Bool
  | .bool b => some b
  | _ => none

def int? : Value → Option Int
  | .int n => some n
  | _ => none

def texts? (first second : String) (v : Value) : Option (Text × Text) := do
  let [a, b] ← fields? [first, second] v | none
  return (← textOf? a, ← textOf? b)

def routes? (v : Value) : Option RouteMap := do
  let [components, redirections] ← fields? ["components", "redirections"] v | none
  return ⟨← listOf? (texts? "component" "route") components, ← listOf? (texts? "route" "redirectTo") redirections⟩

def widget? (v : Value) : Option Widget := do
  let [id, tag, events, attributes, rules, submits] ←
    fields? ["id", "type", "events", "attributes", "validationRules", "triggersFormSubmission"] v | none
  return ⟨← textOf? id, ← textOf? tag, ← table? events, ← table? attributes, ← listOf? textOf? rules, ← bool? submits⟩

def call? (v : Value) : Option Logic.Call := do
  let [caller, called, data] ← fields? ["caller", "called", "data"] v | none
  return ⟨← textOf? caller, ← textOf? called, ← listOf? textOf? data⟩

def event? (v : Value) : Option Logic.HandledEvent := do
  let [event, handler, calls] ← fields? ["event", "handler", "calls"] v | none
  return ⟨← textOf? event, ← textOf? handler, ← listOf? call? calls⟩

def eventMap? (v : Value) : Option Logic.EventMap := do
  let [widget, events] ← fields? ["widgetID", "events"] v | none
  return ⟨← textOf? widget, ← listOf? event? events⟩

def component? (v : Value) : Option Component := do
  let [selector, name, sourceFile, widgets, nested] ←
    fields? ["selector", "name", "sourceFile", "widgets", "nestedComponents"] v | none
  return ⟨← textOf? selector, ← textOf? name, ← textOf? sourceFile, ← listOf? widget? widgets, ← listOf? textOf? nested⟩

def entryOf? (v : Value) : Option Atlas.Entry := do
  let [component, eventMaps] ← fields? ["info", "widgetEventMaps"] v | none
  return ⟨← component? component, ← listOf? eventMap? eventMaps⟩

/-- **What a report says**: the version of its form, when and of what project it was made, how many components and routes
there are, and the atlas. -/
structure Contents where
  version : Text
  time : Text
  project : Text
  components : Int
  routes : Int
  atlas : Atlas

/-- **What a document says**, read by the names of its fields; nothing when it is no document of a report. -/
def contents? (v : Value) : Option Contents := do
  let [about, routes, entries] ← fields? ["_metadata", "routeMap", "componentMap"] v | none
  let [version, time, project, components, routeCount] ←
    fields? ["analyzer_version", "analyzed_at", "project", "total_components", "total_routes"] about | none
  return ⟨← textOf? version, ← textOf? time, ← textOf? project, ← int? components, ← int? routeCount,
    ⟨← routes? routes, ← listOf? entryOf? entries⟩⟩

/-! ## What is read of a document -/

theorem fields?_record {names : List String} {fields : List (String × Value)} (h : fields.map (·.1) = names) :
    fields? names (record fields) = some (fields.map (·.2)) := by
  subst h
  simp [fields?, record]

theorem listOf?_map {α : Type} {read : Value → Option α} {write : α → Value} : ∀ {l : List α},
    (∀ a ∈ l, read (write a) = some a) → listOf? read (.list (l.map write)) = some l
  | [], _ => rfl
  | a :: l, h => by
    have ih := listOf?_map (l := l) fun b hb => h b (List.mem_cons_of_mem a hb)
    rw [listOf?] at ih ⊢
    simp [h a, ih]

theorem listOf?_texts (l : List Text) : listOf? textOf? (texts l) = some l := listOf?_map fun _ _ => rfl

theorem table?_table : ∀ t : Table Text, table? (table t) = some t
  | [] => rfl
  | (key, value) :: t => by
    have ih := table?_table t
    rw [table, table?] at ih ⊢
    rw [List.map_cons, List.mapM_cons, ih]
    rfl

theorem texts?_record (first second : String) (p : Text × Text) :
    texts? first second (record [(first, .text p.1), (second, .text p.2)]) = some p := by
  simp [texts?, fields?_record, textOf?]

theorem routes?_ofRoutes (m : RouteMap) : routes? (ofRoutes m) = some m := by
  simp [routes?, ofRoutes, fields?_record, listOf?_map, texts?_record]

theorem widget?_ofWidget (w : Widget) : widget? (ofWidget w) = some w := by
  simp [widget?, ofWidget, fields?_record, textOf?, table?_table, listOf?_texts, bool?]

theorem call?_ofCall (c : Logic.Call) : call? (ofCall c) = some c := by
  simp [call?, ofCall, fields?_record, textOf?, listOf?_texts]

theorem event?_ofEvent (e : Logic.HandledEvent) : event? (ofEvent e) = some e := by
  simp [event?, ofEvent, fields?_record, textOf?, listOf?_map, call?_ofCall]

theorem eventMap?_ofEventMap (m : Logic.EventMap) : eventMap? (ofEventMap m) = some m := by
  simp [eventMap?, ofEventMap, fields?_record, textOf?, listOf?_map, event?_ofEvent]

theorem component?_ofComponent (c : Component) : component? (ofComponent c) = some c := by
  simp [component?, ofComponent, fields?_record, textOf?, listOf?_map, widget?_ofWidget, listOf?_texts]

theorem entryOf?_ofEntry (e : Atlas.Entry) : entryOf? (ofEntry e) = some e := by
  simp [entryOf?, ofEntry, fields?_record, listOf?_map, component?_ofComponent, eventMap?_ofEventMap]

theorem contents?_document (time project : Text) (a : Atlas) : contents? (document time project a) =
    some ⟨version, time, project, a.entries.length, a.routes.components.length, a⟩ := by
  simp [contents?, document, about, fields?_record, textOf?, int?, routes?_ofRoutes, listOf?_map, entryOf?_ofEntry]

/-! ## Documents that can be read back -/

/-- **A widget whose events and attributes are tables**: no two of one name. -/
structure IsTabled (w : Widget) : Prop where
  events : w.events.keys.Nodup
  attributes : w.attributes.keys.Nodup

/-- **An atlas that can be reported**: its widgets have tables, and how many components and routes there are can be written
down. -/
structure IsReportable (a : Atlas) : Prop where
  tabled : ∀ e ∈ a.entries, ∀ w ∈ e.component.widgets, IsTabled w
  components : (Text.ofNat a.entries.length).length < 4300
  routes : (Text.ofNat a.routes.components.length).length < 4300

theorem plain_record {fields : List (String × Value)} (hnames : (fields.map (·.1)).Nodup) (h : ∀ f ∈ fields, Plain f.2) :
    Plain (record fields) := by
  refine .record ?_ (List.forall_mem_map.2 h)
  rw [List.map_map]
  have hmap := List.Nodup.map (fun _ _ h => String.toList_inj.1 h) hnames
  rwa [List.map_map] at hmap

theorem plain_count {n : Nat} (h : (Text.ofNat n).length < 4300) : Plain (.int n) := .int h

theorem plain_list {α : Type} {write : α → Value} {l : List α} (h : ∀ a ∈ l, Plain (write a)) : Plain (.list (l.map write)) :=
  .list (List.forall_mem_map.2 h)

theorem plain_texts (l : List Text) : Plain (texts l) := plain_list fun t _ => .text t

theorem plain_table {t : Table Text} (h : t.keys.Nodup) : Plain (table t) := by
  refine .record ?_ (List.forall_mem_map.2 fun e _ => .text e.2)
  rwa [List.map_map]

theorem plain_pair {first second : String} (hne : first ≠ second) (a b : Text) :
    Plain (record [(first, .text a), (second, .text b)]) :=
  plain_record (by simpa using hne) (by simp [Plain.text])

theorem plain_ofRoutes (m : RouteMap) : Plain (ofRoutes m) := by
  have hcomponents : ∀ c ∈ m.components, Plain (record [("component", .text c.1), ("route", .text c.2)]) :=
    fun c _ => plain_pair (by decide) c.1 c.2
  have hredirections : ∀ r ∈ m.redirections, Plain (record [("route", .text r.1), ("redirectTo", .text r.2)]) :=
    fun r _ => plain_pair (by decide) r.1 r.2
  exact plain_record (by simp) (by simp [plain_list hcomponents, plain_list hredirections])

theorem plain_ofWidget {w : Widget} (h : IsTabled w) : Plain (ofWidget w) :=
  plain_record (by simp)
    (by simp [Plain.text, Plain.bool, plain_table h.events, plain_table h.attributes, plain_texts])

theorem plain_ofCall (c : Logic.Call) : Plain (ofCall c) :=
  plain_record (by simp) (by simp [Plain.text, plain_texts])

theorem plain_ofEvent (e : Logic.HandledEvent) : Plain (ofEvent e) :=
  plain_record (by simp) (by simp [Plain.text, plain_list fun c _ => plain_ofCall c])

theorem plain_ofEventMap (m : Logic.EventMap) : Plain (ofEventMap m) :=
  plain_record (by simp) (by simp [Plain.text, plain_list fun e _ => plain_ofEvent e])

theorem plain_ofComponent {c : Component} (h : ∀ w ∈ c.widgets, IsTabled w) : Plain (ofComponent c) :=
  plain_record (by simp)
    (by simp [Plain.text, plain_list fun w hw => plain_ofWidget (h w hw), plain_texts])

theorem plain_ofEntry {e : Atlas.Entry} (h : ∀ w ∈ e.component.widgets, IsTabled w) : Plain (ofEntry e) :=
  plain_record (by simp) (by simp [plain_ofComponent h, plain_list fun m _ => plain_ofEventMap m])

theorem plain_document {a : Atlas} (h : IsReportable a) (time project : Text) : Plain (document time project a) := by
  have habout : Plain (about time project a) :=
    plain_record (by simp) (by simp [Plain.text, plain_count h.components, plain_count h.routes])
  have hentries : ∀ e ∈ a.entries, Plain (ofEntry e) := fun e he => plain_ofEntry (h.tabled e he)
  exact plain_record (by simp) (by simp [habout, plain_ofRoutes, plain_list hentries])

/-! ## Texts of reports -/

theorem read_text {a : Atlas} (h : IsReportable a) (l : Layout) (time project : Text) :
    Json.read (text l time project a) = .ok (document time project a) :=
  (plain_document h time project).read_print l

theorem text_inj {a a' : Atlas} (h : IsReportable a) (h' : IsReportable a') {l l' : Layout} {time time' project project' : Text}
    (htext : text l time project a = text l' time' project' a') : time = time' ∧ project = project' ∧ a = a' := by
  have hread := read_text h l time project
  rw [htext, read_text h' l' time' project'] at hread
  have hdocument : document time' project' a' = document time project a := Except.ok.inj hread
  have hcontents := contents?_document time project a
  rw [← hdocument, contents?_document, Option.some.injEq, Contents.mk.injEq] at hcontents
  obtain ⟨-, htime, hproject, -, -, hatlas⟩ := hcontents
  exact ⟨htime.symm, hproject.symm, hatlas.symm⟩

/-- **A report loses nothing.**  A file with the text of a report, in either layout, is loaded as the document of the atlas; the
document says the time, the project, the atlas, and how many components and routes that has; and no other report has the
same text. -/
theorem load_text {d : Disk} {path : Text} {p : Place} {a : Atlas} {l : Layout} {time project : Text} (h : IsReportable a)
    (hplace : d.locate path = .ok p) (hfile : p.entry = .file (Text.Utf8.encode (text l time project a))) :
    Project.load d path = .ok (document time project a) ∧
      contents? (document time project a) =
        some ⟨version, time, project, a.entries.length, a.routes.components.length, a⟩ ∧
      ∀ (l' : Layout) (time' project' : Text) (a' : Atlas), IsReportable a' →
        text l time project a = text l' time' project' a' → time = time' ∧ project = project' ∧ a = a' :=
  ⟨Project.load_print hplace (plain_document h time project) hfile, contents?_document time project a,
    fun _ _ _ _ h' htext => text_inj h h' htext⟩

/-- An atlas whose texts hold quotes, and what would be comments and last commas outside of texts. -/
def quotingAtlas : Atlas where
  routes := ⟨[("A".toList, "a/:id".toList)], [([], "//b".toList)]⟩
  entries := [
    { component :=
        { selector := "s".toList
          name := "C".toList
          sourceFile := "é.ts".toList
          widgets := [
            { id := "i".toList
              tag := "a".toList
              events := [("x".toList, "f(\x7bk:\"/*\",\x7d)".toList), ([], "\n".toList)]
              attributes := [("href".toList, "http://h/*".toList)]
              rules := ["min".toList]
              submits := true }]
          nested := ["b".toList] }
      eventMaps := [
        { widgetId := "i".toList
          events := [⟨"x".toList, "f".toList, [⟨"r.go".toList, "/a/:id".toList, ["[1,]".toList]⟩]⟩] }] }]

theorem load_text_quoting :
    let s := text .compact "2024".toList "t.json".toList quotingAtlas
    let d : Disk := ⟨[("r.json".toList, .file (Text.Utf8.encode s))], []⟩
    IsReportable quotingAtlas ∧
      Project.load d "/r.json".toList = .ok (document "2024".toList "t.json".toList quotingAtlas) ∧
        ∀ (l' : Layout) (time' project' : Text) (a' : Atlas), IsReportable a' → s = text l' time' project' a' →
          "2024".toList = time' ∧ "t.json".toList = project' ∧ quotingAtlas = a' := by
  intro s d
  have htabled : ∀ e ∈ quotingAtlas.entries, ∀ w ∈ e.component.widgets, w.events.keys.Nodup ∧ w.attributes.keys.Nodup := by
    decide
  have h : IsReportable quotingAtlas :=
    ⟨fun e he w hw => ⟨(htabled e he w hw).1, (htabled e he w hw).2⟩, by decide, by decide⟩
  have hplace : d.locate "/r.json".toList =
      .ok ⟨["r.json".toList], .file (Text.Utf8.encode s), [.folder d.entries]⟩ := rfl
  obtain ⟨hload, -, hinj⟩ := load_text h hplace rfl
  exact ⟨h, hload, hinj⟩

end Report

/-! ## Reports of analyses -/

namespace Table

theorem nodup_keys_set {α : Type} {t : Table α} (h : t.keys.Nodup) (key : Text) (value : α) : (t.set key value).keys.Nodup := by
  rw [keys_set]
  split
  · exact h
  · rename_i hnew
    exact List.nodup_append.2 ⟨h, List.nodup_singleton _, by grind⟩

theorem nodup_keys_merge {α : Type} : ∀ (entries : List (Text × α)) {t : Table α}, t.keys.Nodup → (merge t entries).keys.Nodup
  | [], _, h => h
  | e :: entries, _, h => nodup_keys_merge entries (nodup_keys_set h e.1 e.2)

theorem nodup_keys_ofList {α : Type} (entries : List (Text × α)) : (ofList entries).keys.Nodup :=
  nodup_keys_merge entries List.nodup_nil

end Table

namespace Widget

open Report (IsTabled)
open Template (Head Node)

theorem nodup_keys_attributesOf (h : Head) : (attributesOf h).keys.Nodup := by
  unfold attributesOf
  dsimp only
  split
  · rename_i hinput
    have hnew : "type".toList ∉ (Table.ofList (h.attributes.map fun a => (a.name, a.value))).keys := by
      have hnone := (Bool.and_eq_true_iff.1 hinput).2
      rw [Bool.not_eq_true', Table.hasKey, Option.isSome_eq_false_iff, Option.isNone_iff_eq_none] at hnone
      exact Table.get?_eq_none_iff.1 hnone
    rw [← Table.set_of_notMem hnew]
    exact Table.nodup_keys_set (Table.nodup_keys_ofList _) _ _
  · exact Table.nodup_keys_ofList _

theorem isTabled_number {template scope : Text} : ∀ {elements : List (Head × List Node)} {c : Counters},
    ∀ f ∈ (number template scope c elements).1, IsTabled f.2
  | [], _, f, hf => by cases hf
  | e :: rest, c, f, hf => by
    rcases List.mem_cons.1 hf with rfl | hf
    · exact ⟨Table.nodup_keys_ofList _, nodup_keys_attributesOf e.1⟩
    · exact isTabled_number f hf

theorem isTabled_extract (template scope : Text) (tags : List Text) (c : Counters) (forest : List Node) :
    ∀ w ∈ (extract template scope tags c forest).widgets, IsTabled w := by
  intro w hw
  obtain ⟨f, hf, rfl⟩ := List.mem_map.1 hw
  exact isTabled_number f hf

theorem isTabled_withRules (rules : Table (List Text)) {w : Widget} (h : IsTabled w) : IsTabled (Logic.withRules rules w) := by
  unfold Logic.withRules
  split
  · exact h
  · exact h
  · split
    · exact h
    · exact ⟨h.events, h.attributes⟩

end Widget

namespace Atlas

open File (Disk Path)
open Report (IsTabled)

def Entry.IsTabled (e : Entry) : Prop := ∀ w ∈ e.component.widgets, Report.IsTabled w

section Steps

variable {d : Disk} {o : Options} {routes : RouteMap} {folder path : Path} {p q : Progress}

theorem addClass_isTabled {c : Script.ClassOutline} (hp : ∀ e ∈ p.entries, e.IsTabled)
    (h : (addClass d o routes folder path p c).result = .ok q) : ∀ e ∈ q.entries, e.IsTabled := by
  rcases addClass_ok_iff.1 h with ⟨-, rfl⟩ | ⟨-, component, hcomponent, rfl⟩ | ⟨-, -, what, -, rfl⟩
  · exact hp
  · intro e he w hw
    rcases List.mem_append.1 he with he | he
    · exact hp e he w hw
    · rw [List.mem_singleton.1 he] at hw
      obtain ⟨template, forest, -, -, -, rfl⟩ := Component.analyze_ok_iff.1 hcomponent
      obtain ⟨linked, hlinked, rfl⟩ := List.mem_map.1 hw
      obtain ⟨v, hv, rfl⟩ := List.mem_map.1 hlinked
      exact Widget.isTabled_withRules _ (Widget.isTabled_extract _ _ _ _ _ v hv)
  · exact hp

theorem addSource_isTabled (hp : ∀ e ∈ p.entries, e.IsTabled)
    (h : (addSource d o routes folder p path).result = .ok q) : ∀ e ∈ q.entries, e.IsTabled :=
  Noted.foldlM_keeps (P := fun p => ∀ e ∈ p.entries, e.IsTabled)
    (fun _ _ _ hp hq => addClass_isTabled hp hq) hp (addSource_classes h)

end Steps

theorem analyze_isTabled {d : Disk} {o : Options} {configuration : Text} {a : Atlas}
    (h : (analyze d o configuration).result = .ok a) : ∀ e ∈ a.entries, ∀ w ∈ e.component.widgets, IsTabled w := by
  obtain ⟨-, project, p, -, hsources, hentries⟩ := analyze_ok_iff.1 h
  rw [hentries]
  exact Noted.foldlM_keeps (P := fun p => ∀ e ∈ p.entries, e.IsTabled)
    (fun _ _ _ hp hq => addSource_isTabled hp hq) (by simp) hsources

end Atlas
end ViewAtlas
