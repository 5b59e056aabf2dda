import ViewAtlas.Atlas.Options
import ViewAtlas.Project.Reading
/-!
# Atlases

An atlas is the model of an application: its routes, and its components with their widgets and the calls that these
lead to.  The routes are read first; then the sources of the project are gone through in order.
-/
namespace ViewAtlas

namespace Atlas

/-- **A component with the event maps of its widgets.** -/
structure Entry where
  component : Component
  eventMaps : List Logic.EventMap
  deriving DecidableEq, Repr

end Atlas

structure Atlas where
  routes : RouteMap
  entries : List Atlas.Entry
  deriving DecidableEq, Repr

namespace Atlas

open File (Disk Path)
open Script (ClassOutline)

inductive Failure where
  | routingFileMissing (path : Text)
  | unreadProject (why : Project.Failure)
  | malformed (what : Malformed)
  | lacking (what : Component.Lack)
  /-- The path of a template holds the character NUL. -/
  | nul
  /-- A character reference in a template has a number with too many digits. -/
  | longNumber (digits : Nat)
  deriving DecidableEq, Repr

namespace Failure

def isReported : Failure → Bool
  | routingFileMissing _ | malformed _ | lacking _ => true
  | unreadProject why => why.isReported
  | nul | longNumber _ => false

def message : Failure → Text
  | routingFileMissing path => "Routing file not found: ".toList ++ path
  | unreadProject why => why.message
  | malformed what => what.message
  | lacking what => what.message
  | nul => Project.Failure.nul.message
  | longNumber digits => Text.tooManyDigits digits

end Failure

def find? (a : Atlas) (selector : Text) : Option Entry := a.entries.find? fun e => e.component.selector = selector

def folderOf (d : Disk) (configuration : Text) : Path := (d.absolute configuration).folder

def routesOf (d : Disk) (o : Options) (folder : Path) : Noted Failure RouteMap :=
  let path := File.joinTexts folder.text o.routesFile
  if !d.isFile path then do
    .note (.routingFileMissing path)
    .fail (.routingFileMissing path)
  else do
    let source ← (Noted.ofExcept (Script.Source.load d path)).mapFailure .malformed
    let items := Route.listing o.routeVariables source
    .noteAll (items.map Route.Item.notice)
    return .ofListing items

/-- **How far an analysis has come**: the counters that components share, and the entries so far. -/
structure Progress where
  counters : Widget.Counters
  entries : List Entry

/-- What the widgets of a class in a source are numbered by. -/
def numberingOf (o : Options) (p : Progress) (sourceFile : Text) (c : ClassOutline) : Component.Numbering :=
  match o.scope with
  | .template => ⟨sourceFile ++ '#' :: c.name, []⟩
  | .project => ⟨[], p.counters⟩

/-- The entry of a component: its widgets are linked to the methods of its class. -/
def entryOf (o : Options) (routes : RouteMap) (sourceFile : Text) (c : ClassOutline) (component : Component) :
    List Notice × Entry :=
  let setting : Logic.Setting := ⟨routes.components.map (·.2), o.words, o.staticRoutes⟩
  let l := Logic.link setting o.marks c component.widgets
  (l.notices, ⟨{ component with sourceFile, widgets := l.widgets }, l.eventMaps⟩)

/-- **One class more.**  A class that is no component changes nothing. -/
def addClass (d : Disk) (o : Options) (routes : RouteMap) (folder path : Path) (p : Progress) (c : ClassOutline) :
    Noted Failure Progress :=
  if !Component.isComponent c then return p
  else
    let sourceFile := (folder.relative path).text
    let (found, counters) :=
      Component.analyze d o.component (some (numberingOf o p sourceFile c)) path.text c
    let counters :=
      match o.scope with
      | .template => p.counters
      | .project => counters
    match found.result with
    | .ok component =>
      let (notices, entry) := entryOf o routes sourceFile c component
      ⟨found.notices ++ notices, .ok ⟨counters, p.entries ++ [entry]⟩⟩
    | .error (.lacking what) =>
      if o.strict then ⟨found.notices, .error (.lacking what)⟩
      else ⟨found.notices ++ [.componentSkipped what.message], .ok { p with counters }⟩
    | .error (.malformed what) => ⟨found.notices, .error (.malformed what)⟩
    | .error .nul => ⟨found.notices, .error .nul⟩
    | .error (.longNumber digits) => ⟨found.notices, .error (.longNumber digits)⟩

/-- **One source more.** -/
def addSource (d : Disk) (o : Options) (routes : RouteMap) (folder : Path) (p : Progress) (path : Path) :
    Noted Failure Progress := do
  let source ← (Noted.ofExcept (Script.Source.load d path.text)).mapFailure .malformed
  source.classes.foldlM (addClass d o routes folder path) p

/-- **The atlas of a project**, by its configuration. -/
def analyze (d : Disk) (o : Options) (configuration : Text) : Noted Failure Atlas := do
  let folder := folderOf d configuration
  let routes ← routesOf d o folder
  let project ← (Project.read d o.followImports configuration).mapFailure .unreadProject
  let p ← project.sources.foldlM (addSource d o routes folder) ⟨[], []⟩
  .note (.analyzed p.entries.length routes.components.length routes.redirections.length)
  return ⟨routes, p.entries⟩

end Atlas
end ViewAtlas
