import ViewAtlas.File.Path
import ViewAtlas.Text.Utf8
import ViewAtlas.Table
/-!
# Disks

A disk is a tree of folders and files together with a working folder.  A path text leads through the tree name by name:
every name but the last must be a folder, `..` leads back, and a slash at the end asks for a folder.  Names and path texts
have bounds, in octets.
-/
namespace ViewAtlas
namespace File

/-- **A file with its octets, or a folder with its entries by name.** -/
inductive Entry where
  | file (octets : List UInt8)
  | folder (entries : List (Text × Entry))

namespace Entry

def isFolder : Entry → Bool
  | folder _ => true
  | file _ => false

def isFile : Entry → Bool
  | file _ => true
  | folder _ => false

end Entry

/-- **A place on a disk**: an entry, the names that lead to it and the folders that hold it, both innermost first. -/
structure Place where
  names : List Text
  entry : Entry
  outer : List Entry

/-- **Why nothing is found.** -/
inductive Absence where
  | missing
  /-- A name on the way is a file. -/
  | throughFile
  /-- The path holds the character NUL. -/
  | nul
  /-- The path has too many octets, or one of its names. -/
  | tooLong
  deriving DecidableEq, Repr

/-- The most octets that a name has. -/
def mostNameOctets : Nat := 255

/-- The most octets that a path text has. -/
def mostPathOctets : Nat := 4095

namespace Place

def path (p : Place) : Path := ⟨1, p.names.reverse⟩

def step (p : Place) (name : Text) : Except Absence Place :=
  match p.entry with
  | .file _ => .error .throughFile
  | .folder entries =>
    if name = [] ∨ name = ['.'] then .ok p
    else if name = Path.up then
      match p.outer with
      | [] => .ok p
      | e :: outer => .ok ⟨p.names.drop 1, e, outer⟩
    else if mostNameOctets < Text.octets name then .error .tooLong
    else
      match Table.get? name entries with
      | some e => .ok ⟨name :: p.names, e, p.entry :: p.outer⟩
      | none => .error .missing

def children (p : Place) : List Place :=
  match p.entry with
  | .file _ => []
  | .folder entries => entries.map fun e => ⟨e.1 :: p.names, e.2, p.entry :: p.outer⟩

end Place

mutual

/-- An entry and all that lies in it, folders before what they hold. -/
def Entry.places (names : List Text) (outer : List Entry) : Entry → List Place
  | .file octets => [⟨names, .file octets, outer⟩]
  | .folder entries =>
    ⟨names, .folder entries, outer⟩ :: placesIn names (.folder entries :: outer) entries

def placesIn (names : List Text) (outer : List Entry) : List (Text × Entry) → List Place
  | [] => []
  | (name, e) :: rest => e.places (name :: names) outer ++ placesIn names outer rest

end

def Place.within (p : Place) : List Place := p.entry.places p.names p.outer

/-- **A disk**: what the outermost folder holds, and the names that lead to the working folder. -/
structure Disk where
  entries : List (Text × Entry)
  home : List Text

/-- **Why a file is not read.** -/
inductive Unread where
  | absent (why : Absence)
  | isFolder
  | notUtf8 (fault : Text.Utf8.Fault)
  deriving DecidableEq, Repr

namespace Disk

def top (d : Disk) : Place := ⟨[], .folder d.entries, []⟩

def homePath (d : Disk) : Path := ⟨1, d.home⟩

/-- **The place that a path text leads to**, from the working folder unless it starts with a slash. -/
def locate (d : Disk) (path : Text) : Except Absence Place :=
  if path.contains '\x00' then .error .nul
  else if mostPathOctets < Text.octets path then .error .tooLong
  else if path = [] then .error .missing
  else
    let names := Text.splitAt '/' path
    (if path.head? = some '/' then names else d.home ++ names).foldlM Place.step d.top

def isFile (d : Disk) (path : Text) : Bool :=
  match d.locate path with
  | .ok p => p.entry.isFile
  | .error _ => false

def isFolder (d : Disk) (path : Text) : Bool :=
  match d.locate path with
  | .ok p => p.entry.isFolder
  | .error _ => false

/-- Whether a path text or one of its names is too long to be looked up. -/
def isTooLong (d : Disk) (path : Text) : Bool :=
  match d.locate path with
  | .error .tooLong => true
  | _ => false

/-- The normal absolute path that a path text means. -/
def absolute (d : Disk) (path : Text) : Path := (d.homePath.join (.ofText path)).normal

/-- **The text of a file**, with one kind of line ends. -/
def read (d : Disk) (path : Text) : Except Unread Text :=
  match d.locate path with
  | .error why => .error (.absent why)
  | .ok p =>
    match p.entry with
    | .folder _ => .error .isFolder
    | .file octets =>
      match Text.Utf8.decode octets with
      | .ok s => .ok (Text.unifyLineEnds s)
      | .error fault => .error (.notUtf8 fault)

/-- The paths of all files; each is spelled with one slash and with two. -/
def filePaths (d : Disk) : List Path :=
  (d.top.within.filter (·.entry.isFile)).flatMap fun p => [p.path, { p.path with slashes := 2 }]

end Disk

/-- What is reported of a path at which nothing is found, in the words of the operating system. -/
def Absence.report (path : Text) : Absence → Text
  | .missing => "[Errno 2] No such file or directory: ".toList ++ path
  | .throughFile => "[Errno 20] Not a directory: ".toList ++ path
  | .nul => "embedded null byte".toList
  | .tooLong => "[Errno 36] File name too long: ".toList ++ path

end File
end ViewAtlas
