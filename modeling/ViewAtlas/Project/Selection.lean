import ViewAtlas.Project.Configuration
/-!
# The selection of sources

A configuration lists files by name, includes those that a pattern leads to, and excludes some of the included ones
again. Of all these only scripts are sources, and only those that lie in no folder of packages or products.
-/
namespace ViewAtlas
namespace Project

open File (Disk Path Place Glob)

def skippedFolders : List Text :=
  ["node_modules", "dist", ".angular", ".git", "bower_components", "jspm_packages"].map String.toList

def skippedEnds : List Text := [".d.ts", ".spec.ts"].map String.toList

def scriptEnd : Text := ".ts".toList

/-- **Whether a path is that of a source** of a project with this root. -/
def isSource (root p : Path) : Bool :=
  scriptEnd.isSuffixOf p.name && !(skippedEnds.any fun e => e.isSuffixOf p.name) &&
    match root.below? p with
    | none => false
    | some names => !(names.dropLast.any skippedFolders.contains)

def entryText : Json.Value → Except Failure Text
  | .text t => .ok t
  | _ => .error .entryNotText

/-- Whether a path, as seen from a folder, is of the form of a pattern or lies in what the pattern names. -/
def isUnder (relative pattern : Text) : Bool :=
  let pattern := (Path.ofText pattern).normal.text
  File.isLike pattern relative || (pattern ++ ['/']).isPrefixOf relative

/-- **Whether a path is excluded** by patterns, which start from a folder. -/
def isExcluded (folder p : Path) (patterns : List Json.Value) : Except Failure Bool :=
  let relative := (folder.normal.relative p.normal).text
  patterns.foldlM
    (fun found v => if found then .ok true else do return isUnder relative (← entryText v))
    false

/-- The paths of the files among places, as they are spelled from a folder: with as many slashes at the start. -/
def filesFrom (folder : Path) (places : List Place) : List Path :=
  (places.filter (·.entry.isFile)).map fun p => { p.path with slashes := folder.slashes }

/-- **The files that a pattern includes**: all in the folder that it names, or those that it leads to as a glob. -/
def expand (d : Disk) (folder : Path) (pattern : Text) : Except Failure (List Path) := do
  let named := folder.join (.ofText pattern)
  if d.isTooLong named.text then throw .tooLong
  match d.locate named.text with
  | .ok p =>
    if p.entry.isFolder then
      if p.within.any fun q => d.isTooLong (p.spell named q).text then throw .tooLong
      return filesFrom named p.within
  | .error _ => pure ()
  match Glob.ofText pattern with
  | .error fault => throw (.badPattern fault)
  | .ok g =>
    if d.isTooLong folder.text then throw .tooLong
    match d.locate folder.text with
    | .ok p =>
      if d.overruns g.foldersOnly g.parts folder p then throw .tooLong
      return filesFrom folder (p.select g)
    | .error _ => return []

/-- The files that are listed by name; a notice for each that is not there. -/
def listed (d : Disk) (s : Setting) : Noted Failure (List Path) :=
  s.values.foldlM
    (fun paths v => do
      let name ← .ofExcept (entryText v)
      let p := (s.folder.join (.ofText name)).normal
      if ← .ofExcept (findFile d p) then return paths ++ [p]
      else do
        .note (.listedFileMissing p.text)
        return paths)
    []

def included (d : Disk) (includes excludes : Setting) : Except Failure (List Path) :=
  includes.values.foldlM
    (fun paths v => do
      let found ← expand d includes.folder (← entryText v)
      let kept ← found.filterM fun p => do return !(← isExcluded excludes.folder p excludes.values)
      return paths ++ kept)
    []

/-- The pattern that is meant when a configuration neither lists nor includes files. -/
def everything (root : Path) : Setting := ⟨[.text "**/*".toList], root⟩

/-- **The files that the settings select**, sources or not. -/
def selected (d : Disk) (root : Path) (s : Settings) : Noted Failure (List Path) := do
  let nothing : Setting := ⟨[], root⟩
  let files := s.files.getD nothing
  let names ← listed d files
  let includes :=
    match s.includes with
    | some i => some i
    | none => if files.values.isEmpty then some (everything root) else none
  match includes with
  | none => return names
  | some includes => return names ++ (← .ofExcept (included d includes (s.excludes.getD nothing)))

end Project
end ViewAtlas
