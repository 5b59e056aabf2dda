import ViewAtlas.Project.Selection
/-!
# Imports

A script names other scripts that it imports.  A relative name leads to a file; the sources that are reached by such
names from given ones are sources of the project too.
-/
namespace ViewAtlas
namespace Project

open File (Disk Path)

/-- The end that a name may have in place of that of a script. -/
def productEnd : Text := ".js".toList

/-- The paths at which an import with a target may be found, in order. -/
def importPaths (target : Path) : List Path :=
  let s := target.text
  let stem := if productEnd.isSuffixOf s then s.take (s.length - productEnd.length) else s
  [target, .ofText (stem ++ scriptEnd), target.join (.ofText "index.ts".toList)]

/-- **The file that a script imports by a name**; names that do not start with `./` or `../` are left alone. -/
def resolveImport (d : Disk) (importer : Path) (name : Text) : Option Path :=
  if "./".toList.isPrefixOf name || "../".toList.isPrefixOf name then
    let files := d.filePaths
    (importPaths (importer.folder.join (.ofText name)).normal).find? fun p =>
      scriptEnd.isSuffixOf p.text && d.isFile p.text && files.contains p
  else none

/-- What the names that a script imports lead to: notices, and sources that are not reached yet. -/
def freshFrom (d : Disk) (root : Path) (reached : List Path) (path : Path) : List Text → List Notice × List Path
  | [] => ([], [])
  | name :: names =>
    match resolveImport d path name with
    | none => freshFrom d root reached path names
    | some p =>
      if p ∈ reached then freshFrom d root reached path names
      else if isSource root p then
        let (notices, fresh) := freshFrom d root (reached ++ [p]) path names
        (notices, p :: fresh)
      else
        let (notices, fresh) := freshFrom d root reached path names
        (.importOutside name path.text :: notices, fresh)

/-- What a file leads to; a file that is malformed leads nowhere, with a notice. -/
def freshOf (d : Disk) (root : Path) (reached : List Path) (path : Path) : List Notice × List Path :=
  match Script.Source.load d path.text with
  | .error m => ([.importsNotFollowed path.text m.message], [])
  | .ok s => freshFrom d root reached path s.imports

theorem mem_filePaths_of_resolveImport {d : Disk} {importer p : Path} {name : Text}
    (h : resolveImport d importer name = some p) : p ∈ d.filePaths := by
  unfold resolveImport at h
  split at h
  · have := List.find?_some h
    simp at this
    exact this.2
  · simp at h

theorem remaining_freshFrom (d : Disk) (root : Path) (reached : List Path) (path : Path) (names : List Text) :
    remaining d (reached ++ (freshFrom d root reached path names).2) + (freshFrom d root reached path names).2.length ≤
      remaining d reached := by
  fun_induction freshFrom d root reached path names with
  | case1 => simp
  | case2 _ _ _ _ ih => exact ih
  | case3 _ _ _ _ _ _ ih => exact ih
  | case4 reached name names p hp hr _ notices fresh heq ih =>
    rw [heq] at ih
    have h := remaining_append (mem_filePaths_of_resolveImport hp) hr
    simp only [List.append_assoc, List.cons_append, List.nil_append, List.length_cons] at ih ⊢
    omega
  | case5 _ _ _ _ _ _ _ notices fresh heq ih =>
    rw [heq] at ih
    exact ih

theorem remaining_freshOf (d : Disk) (root : Path) (reached : List Path) (path : Path) :
    remaining d (reached ++ (freshOf d root reached path).2) + (freshOf d root reached path).2.length ≤
      remaining d reached := by
  unfold freshOf
  split
  · simp
  · exact remaining_freshFrom ..

/-- **The paths reached from the pending ones**, together with those reached before.  The last path found is taken
first. -/
def follow (d : Disk) (root : Path) (reached pending : List Path) : List Notice × List Path :=
  match pending with
  | [] => ([], reached)
  | path :: rest =>
    let fresh := (freshOf d root reached path).2
    let (notices, all) := follow d root (reached ++ fresh) (fresh.reverse ++ rest)
    ((freshOf d root reached path).1 ++ notices, all)
termination_by remaining d reached + pending.length
decreasing_by
  have := remaining_freshOf d root reached path
  simp only [List.length_append, List.length_reverse, List.length_cons]
  omega

end Project
end ViewAtlas
