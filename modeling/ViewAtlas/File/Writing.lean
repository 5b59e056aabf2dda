import ViewAtlas.File.Disk
/-!
# Writing to disks

`Disk.save` writes a file and makes the folders that are to hold it.
-/
namespace ViewAtlas
namespace File

/-- **Why a file is not written.** -/
inductive Unwritten where
  /-- A folder is to be made where a file is. -/
  | taken
  /-- The path is that of a folder. -/
  | isFolder
  | absent (why : Absence)
  deriving DecidableEq, Repr

/-- The entries with one put where the names lead; all names but the last must be those of folders. -/
def putIn (names : List Text) (e : Entry) (entries : List (Text × Entry)) : List (Text × Entry) :=
  match names with
  | [] => entries
  | [n] => Table.set n e entries
  | n :: rest =>
    match Table.get? n entries with
    | some (.folder inner) => Table.set n (.folder (putIn rest e inner)) entries
    | _ => entries

/-- A path text without slashes at its end, unless it has nothing else. -/
def withoutLastSlashes (path : Text) : Text :=
  match path.reverse.dropWhile (· = '/') with
  | [] => path
  | r => r.reverse

/-- The two parts of a path text: what stands before the last slash, and the last name. -/
def splitLast (path : Text) : Text × Text :=
  let name := (path.reverse.takeWhile (· ≠ '/')).reverse
  (withoutLastSlashes (path.take (path.length - name.length)), name)

theorem length_withoutLastSlashes (path : Text) : (withoutLastSlashes path).length ≤ path.length := by
  unfold withoutLastSlashes
  split
  · exact Nat.le_refl _
  · have := (List.dropWhile_sublist (· = '/') (l := path.reverse)).length_le
    simpa using this

theorem length_splitLast {path : Text} (h : (splitLast path).2 ≠ []) : (splitLast path).1.length < path.length := by
  have h1 := length_withoutLastSlashes (path.take (path.length - (splitLast path).2.length))
  have h2 : (splitLast path).2.length ≠ 0 := fun h' => h (List.length_eq_zero_iff.1 h')
  have h3 : (splitLast path).2.length ≤ path.length := by
    have := (List.takeWhile_sublist (· ≠ '/') (l := path.reverse)).length_le
    simpa [splitLast] using this
  simp only [List.length_take] at h1
  simp only [splitLast] at h1 h2 h3 ⊢
  omega

namespace Disk

def put (d : Disk) (place : Place) (name : Text) (e : Entry) : Disk :=
  { d with entries := putIn (place.names.reverse ++ [name]) e d.entries }

def holder (d : Disk) (path : Text) : Except Absence Place :=
  let (before, _) := splitLast path
  if before = [] then d.locate ['.'] else d.locate before

/-- The disk with one folder more; nothing changes when the folder is there already. -/
def makeFolder (d : Disk) (path : Text) : Except Unwritten Disk :=
  match d.locate path with
  | .ok p => if p.entry.isFolder then .ok d else .error .taken
  | .error .missing =>
    match d.holder path with
    | .ok p => .ok (d.put p (splitLast path).2 (.folder []))
    | .error why => .error (.absent why)
  | .error why => .error (.absent why)

def has (d : Disk) (path : Text) : Bool :=
  match d.locate path with
  | .ok _ => true
  | .error _ => false

/-- The disk with a folder and the folders that are to hold it.  Where one of those is taken, nothing can be made in
it. -/
def makeFolders (d : Disk) (path : Text) : Except Unwritten Disk :=
  if _h : (splitLast path).2 ≠ [] ∧ (splitLast path).1 ≠ [] ∧ !d.has (splitLast path).1 then
    match makeFolders d (splitLast path).1 with
    | .error .taken => .error (.absent .throughFile)
    | .error why => .error why
    | .ok d => if (splitLast path).2 = ['.'] then .ok d else d.makeFolder path
  else d.makeFolder path
termination_by path.length
decreasing_by exact length_splitLast _h.1

/-- **The disk with a file written.** -/
def save (d : Disk) (path : Text) (octets : List UInt8) : Except Unwritten Disk := do
  let (before, name) := splitLast path
  let d ← if before = [] then pure d else d.makeFolders before
  match d.locate path with
  | .ok p =>
    if p.entry.isFolder then .error .isFolder
    else return { d with entries := putIn p.names.reverse (.file octets) d.entries }
  | .error .missing =>
    match d.holder path with
    | .ok p => if name = [] then .error (.absent .missing) else return d.put p name (.file octets)
    | .error why => .error (.absent why)
  | .error why => .error (.absent why)

end Disk
end File
end ViewAtlas
