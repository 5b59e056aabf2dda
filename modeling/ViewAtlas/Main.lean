import Std.Time.DateTime
import ViewAtlas.CommandLine.Run
import ViewAtlas.Instant
/-!
# The program

The outer layer: it takes a picture of the disk, lets `CommandLine.run` say what is to be done, and does it.  The
picture holds all that lies in the working folder and in the folders of the files named on the command line, and the
files beside the folders above these.  Of packages it holds the contents of configurations only.
-/
namespace ViewAtlas
namespace Program

open File (Disk Entry)

def packages : String := "node_modules"

def isOfUse (inPackages : Bool) (name : String) : Bool := !inPackages || name.endsWith ".json"

def octetsAt (inPackages : Bool) (e : IO.FS.DirEntry) : IO (List UInt8) :=
  if isOfUse inPackages e.fileName then
    try return (← IO.FS.readBinFile e.path).toList
    catch _ => return []
  else return []

/-- What lies in a folder: all of it, or only the files. -/
partial def entriesIn (deep inPackages : Bool) (path : String) : IO (List (Text × Entry)) := do
  let folder : IO.FS.DirEntry := ⟨path, ""⟩
  let found ← try folder.path.readDir catch _ => return []
  let mut entries := []
  for e in found do
    let name := e.fileName.toList
    if ← e.path.isDir then
      if deep then
        let inner ← entriesIn deep (inPackages || e.fileName == packages) e.path.toString
        entries := (name, .folder inner) :: entries
    else
      entries := (name, .file (← octetsAt inPackages e)) :: entries
  return entries

def withFolder (d : Disk) (path : String) (entries : List (Text × Entry)) : Disk :=
  let names := (File.Path.ofText path.toList).names
  match d.makeFolders path.toList with
  | .error _ => d
  | .ok d =>
    if names = [] then { d with entries := Table.merge d.entries entries }
    else { d with entries := File.putIn names (.folder entries) d.entries }

/-- The folders of the files that the words of the command line name. -/
def foldersNamed (words : List String) : IO (List String) :=
  words.filterMapM fun (w : String) => do
    try
      let path ← IO.FS.realPath w
      return path.parent.map fun folder => folder.toString
    catch _ => return none

def picture (words : List String) : IO Disk := do
  let home ← IO.currentDir
  let start : Disk := ⟨[], (File.Path.ofText home.toString.toList).names⟩
  let folders := home.toString :: (← foldersNamed words)
  let above := folders.flatMap fun f =>
    ((File.Path.ofText f.toList).upward.drop 1).map fun p => String.ofList p.text
  let mut d := start
  for path in (above.mergeSort fun a b => a.length ≤ b.length).eraseDups do
    d := withFolder d path (← entriesIn false false path)
  for path in (folders.mergeSort fun a b => a.length ≤ b.length).eraseDups do
    d := withFolder d path (← entriesIn true (path.splitOn "/" |>.contains packages) path)
  return d

def now : IO Instant := do
  let t ← Std.Time.Timestamp.now
  return ⟨t.toNanosecondsSinceUnixEpoch.val.toNat / 1000⟩

/-- The words of a failure without any of its own. -/
def crashMessage : CommandLine.Crash → Text
  | .analysis why => why.message
  | .writing _ => "The output cannot be written".toList

end Program
end ViewAtlas

open ViewAtlas in
def main (words : List String) : IO UInt32 := do
  let time ← Program.now
  let r := CommandLine.run (← Program.picture words) time.text (words.map String.toList)
  IO.eprint (String.ofList r.messages)
  match r.ending with
  | .error crash =>
    IO.eprintln (String.ofList (Program.crashMessage crash))
    return 1
  | .ok code =>
    IO.print (String.ofList r.output)
    if let some (path, content) := r.written then
      let path := String.ofList path
      let target : IO.FS.DirEntry := ⟨path, ""⟩
      if let some folder := target.root.parent then
        if folder.toString ≠ "" then IO.FS.createDirAll folder
      IO.FS.writeFile path (String.ofList content)
    return code.toUInt32
