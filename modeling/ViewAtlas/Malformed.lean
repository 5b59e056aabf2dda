import ViewAtlas.File.Disk
import ViewAtlas.Script.Outline
/-!
# Malformed sources

A script, a template or a file that cannot be read as what it should be.
-/
namespace ViewAtlas

/-- **What is malformed**, by its path or name. -/
inductive Malformed where
  | script (path : Text)
  | template (name : Text)
  | encoding (path : Text) (fault : Text.Utf8.Fault)
  deriving DecidableEq, Repr

namespace Malformed

def path : Malformed → Text
  | script p | template p | encoding p _ => p

def encodingMessage (path : Text) (fault : Text.Utf8.Fault) : Text :=
  path ++ " is not valid UTF-8: ".toList ++ fault.message

def message : Malformed → Text
  | script p => "Syntax error in ".toList ++ p
  | template p => "Template syntax error in ".toList ++ p
  | encoding p fault => encodingMessage p fault

end Malformed

def Script.Source.parse (path s : Text) : Except Malformed Script.Source :=
  match Script.Source.read? path s with
  | some source => .ok source
  | none => .error (.script path)

/-- **The script of a file.**  A file that is not there has no script either. -/
def Script.Source.load (disk : File.Disk) (path : Text) : Except Malformed Script.Source :=
  match disk.read path with
  | .ok s => parse path s
  | .error (.notUtf8 fault) => .error (.encoding path fault)
  | .error _ => .error (.script path)

end ViewAtlas
