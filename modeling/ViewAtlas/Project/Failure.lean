import ViewAtlas.File.Glob
import ViewAtlas.Json.Reader
import ViewAtlas.Malformed
import ViewAtlas.Text.Printable
/-!
# Why a project is not read

Most failures are mistakes in the files of the project and have a wording for its owner.  The rest are values of a
wrong kind, and patterns that select nothing in principle.
-/
namespace ViewAtlas
namespace Project

/-- **Why a project is not read.** -/
inductive Failure where
  /-- There is no configuration at the path. -/
  | notFound (path : Text)
  | unreadable (path : Text) (why : File.Absence)
  | isFolder (path : Text)
  | encoding (path : Text) (fault : Text.Utf8.Fault)
  | notJson (path : Text) (document : Text) (fault : Json.Fault)
  /-- A configuration extends itself, by way of the others of the chain. -/
  | circular (chain : List Text)
  /-- A whole number of a configuration has too many digits. -/
  | longNumber (digits : Nat)
  | badPattern (fault : File.Glob.Fault)
  /-- A value that is to be gone through cannot be. -/
  | notAList
  /-- An entry of `files`, `include` or `exclude` is no text. -/
  | entryNotText
  /-- The name of an extended configuration is no text. -/
  | baseNotText
  /-- A path holds the character NUL. -/
  | nul
  /-- A path that is looked up is too long, or one of its names. -/
  | tooLong
  deriving DecidableEq, Repr

namespace Failure

def isReported : Failure → Bool
  | notFound _ | unreadable .. | isFolder _ | encoding .. | notJson .. | circular _ => true
  | longNumber _ | badPattern _ | notAList | entryNotText | baseNotText | nul | tooLong => false

def unreadableMessage (path report : Text) : Text := "Failed to read ".toList ++ path ++ ": ".toList ++ report

def message : Failure → Text
  | notFound path => "tsconfig not found: ".toList ++ path
  | unreadable path why => unreadableMessage path (why.report (Text.quoted path))
  | isFolder path => unreadableMessage path ("[Errno 21] Is a directory: ".toList ++ Text.quoted path)
  | encoding path fault => Malformed.encodingMessage path fault
  | notJson path document fault => "Invalid JSON in ".toList ++ path ++ ": ".toList ++ fault.message document
  | circular chain => "Circular extends: ".toList ++ Text.joinWith " -> ".toList chain
  | longNumber digits => Text.tooManyDigits digits
  | badPattern fault => fault.message
  | notAList => "a list is expected".toList
  | entryNotText | baseNotText => "a text is expected".toList
  | nul => "embedded null byte".toList
  | tooLong => "File name too long".toList

end Failure
end Project
end ViewAtlas
