import ViewAtlas.File.Disk
import ViewAtlas.File.Wildcard
/-!
# Globs

A glob is a path pattern: each part is a name, a wildcard pattern for one name, or `**` for a folder at any depth.
`Place.select` lists the places that a glob leads to from a folder.
-/
namespace ViewAtlas
namespace File

inductive GlobPart where
  /-- The folder itself and all folders in it, at any depth. -/
  | folders
  | name (n : Text)
  | wild (items : List Wildcard)
  deriving DecidableEq, Repr

/-- **A glob**: its parts; one that ends with a slash leads to folders only. -/
structure Glob where
  parts : List GlobPart
  foldersOnly : Bool
  deriving DecidableEq, Repr

/-- **Why a pattern is no glob.** -/
inductive Glob.Fault where
  /-- Two stars stand next to something else in a part. -/
  | gluedStars
  | absolute
  deriving DecidableEq, Repr

namespace Glob

def Fault.message : Fault → Text
  | .gluedStars => "Invalid pattern: '**' can only be an entire path component".toList
  | .absolute => "Non-relative patterns are unsupported".toList

def partOf (n : Text) : Except Fault GlobPart :=
  if n = ['*', '*'] then .ok .folders
  else if Text.hasPiece ['*', '*'] n then .error .gluedStars
  else if n.any fun c => c = '*' || c = '?' || c = '[' then .ok (.wild (Wildcard.parse n))
  else .ok (.name n)

/-- **The glob that a pattern writes.** -/
def ofText (pattern : Text) : Except Fault Glob := do
  let p := Path.ofText pattern
  if p.isAbsolute then throw .absolute
  let parts ← p.names.mapM partOf
  return ⟨parts, pattern.getLast? = some '/'⟩

end Glob

def Place.selectParts : List GlobPart → Place → List Place
  | [], p => [p]
  | .folders :: parts, p => (p.within.filter (·.entry.isFolder)).flatMap (selectParts parts)
  | .name n :: parts, p =>
    match p.step n with
    | .ok q => selectParts parts q
    | .error _ => []
  | .wild items :: parts, p =>
    (p.children.filter fun q => Wildcard.accepts items (q.names.headD [])).flatMap (selectParts parts)

/-- **The places that a glob leads to.** -/
def Place.select (p : Place) (g : Glob) : List Place :=
  (p.selectParts g.parts).filter fun q => !g.foldersOnly || q.entry.isFolder

/-- The path of a place within another one, whose own path is given. -/
def Place.spell (p : Place) (path : Path) (q : Place) : Path :=
  { path with names := path.names ++ (q.names.take (q.names.length - p.names.length)).reverse }

/-- **Whether a path is too long that is looked up along a glob**, from a place with the given path: that of a folder
that is listed, of a name that is sought, or of a place that the glob leads to. -/
def Disk.overruns (d : Disk) (foldersOnly : Bool) : List GlobPart → Path → Place → Bool
  | [], path, p => (!foldersOnly || p.entry.isFolder) && d.isTooLong path.text
  | part :: parts, path, p =>
    p.entry.isFolder && (d.isTooLong path.text ||
      match part with
      | .folders => (p.within.filter (·.entry.isFolder)).any fun q => overruns d foldersOnly parts (p.spell path q) q
      | .name n =>
        let path := path.join ⟨0, [n]⟩
        d.isTooLong path.text ||
          match p.step n with
          | .ok q => overruns d foldersOnly parts path q
          | .error _ => false
      | .wild items =>
        (p.children.filter fun q => Wildcard.accepts items (q.names.headD [])).any fun q =>
          overruns d foldersOnly parts (p.spell path q) q)

end File
end ViewAtlas
