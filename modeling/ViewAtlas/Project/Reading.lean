import ViewAtlas.Project.Imports
/-!
# Projects

A project is what a configuration makes of the folder that it lies in: the sources that it selects and, if imports are
followed, those that these import.
-/
namespace ViewAtlas

/-- **A project**: its folder, its configuration, and its sources in order. -/
structure Project where
  root : File.Path
  configuration : File.Path
  sources : List File.Path
  deriving DecidableEq, Repr

namespace Project

open File (Disk Path)

/-- Paths in the order of their names, each once. -/
def inOrder (paths : List Path) : List Path :=
  paths.eraseDups.mergeSort fun a b => !(b.names < a.names)

def inTextOrder (paths : List Path) : List Path := paths.mergeSort fun a b => !(b.text < a.text)

/-- **The settings of a project** by the path of its configuration. -/
def settings (d : Disk) (configuration : Text) : Noted Failure Settings := resolve d [] (d.absolute configuration)

def read (d : Disk) (followImports : Bool) (configuration : Text) : Noted Failure Project :=
  if !d.isFile configuration then .fail (.notFound configuration)
  else do
    let path := d.absolute configuration
    let root := path.folder
    let s ← resolve d [] path
    let paths ← selected d root s
    let sources := inOrder (paths.filter (isSource root))
    if followImports then
      let (notices, reached) := follow d root sources sources.reverse
      .noteAll notices
      return ⟨root, path, inTextOrder reached⟩
    else return ⟨root, path, inTextOrder sources⟩

end Project
end ViewAtlas
