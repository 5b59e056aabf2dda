import ViewAtlas.Text.Printable
import ViewAtlas.Text.Span
/-!
# Notices

What the analyses have to say besides their results.  A notice is a value; its level and its wording are functions of
it.
-/
namespace ViewAtlas

inductive Level where
  | debug
  | info
  | warning
  | error
  deriving DecidableEq, Repr

inductive Notice where
  | strayEndTag (span : Span)
  /-- An identifier was given before in the same template. -/
  | duplicateId (id tag : Text) (span : Span)
  | widgetFound (id tag : Text) (events : List Text)
  | handlerMissing (handler event component : Text)
  | targetResolved (base : Text) (params : List Text) (route : Text)
  | routeFound (component route : Text)
  | redirectFound (route target : Text)
  | templateMissing (component file : Text)
  | templateFileMissing (file : Text)
  | templateFileNotUtf8 (file : Text)
  | selectorMissing (component : Text)
  | widgetsCounted (count : Nat) (selector : Text)
  | listedFileMissing (file : Text)
  | baseUnresolved (name file : Text)
  | importsNotFollowed (file reason : Text)
  | importOutside (specifier file : Text)
  | componentSkipped (reason : Text)
  | routingFileMissing (file : Text)
  | analyzed (components routes redirects : Nat)
  deriving DecidableEq, Repr

namespace Notice

def level : Notice → Level
  | duplicateId .. | handlerMissing .. | listedFileMissing .. | baseUnresolved .. | importsNotFollowed ..
  | componentSkipped .. => .warning
  | templateMissing .. | templateFileMissing .. | templateFileNotUtf8 .. | selectorMissing .. | routingFileMissing .. =>
    .error
  | analyzed .. => .info
  | strayEndTag .. | widgetFound .. | targetResolved .. | routeFound .. | redirectFound .. | widgetsCounted ..
  | importOutside .. => .debug

open Text (ofNat quotedList) in
def message : Notice → Text
  | strayEndTag r => "Ignoring unmatched end tag at ".toList ++ r.message
  | duplicateId id tag r =>
    "Duplicate widget ID ".toList ++ id ++ " on <".toList ++ tag ++ "> at ".toList ++ r.message
  | widgetFound id tag events =>
    "Extracted widget ".toList ++ id ++ " (".toList ++ tag ++ ") with events ".toList ++ quotedList events
  | handlerMissing handler event component =>
    "Handler ".toList ++ handler ++ " for event ".toList ++ event ++ " not found in ".toList ++ component
  | targetResolved base params route =>
    "Resolved ".toList ++ base ++ " with params ".toList ++ quotedList params ++ " to /".toList ++ route
  | routeFound component route => "Component ".toList ++ component ++ " mapped to route ".toList ++ route
  | redirectFound route target => "Redirect added: ".toList ++ route ++ " -> ".toList ++ target
  | templateMissing component file => "No template found for ".toList ++ component ++ " in ".toList ++ file
  | templateFileMissing file => "Template file not found: ".toList ++ file
  | templateFileNotUtf8 file => "Template file is not valid UTF-8: ".toList ++ file
  | selectorMissing component => "Component selector could not be extracted for ".toList ++ component
  | widgetsCounted count selector => "Extracted ".toList ++ ofNat count ++ " widgets from ".toList ++ selector
  | listedFileMissing file => "File listed in tsconfig not found: ".toList ++ file
  | baseUnresolved name file => "Cannot resolve extended config ".toList ++ name ++ " from ".toList ++ file
  | importsNotFollowed file reason => "Not following imports of ".toList ++ file ++ ": ".toList ++ reason
  | importOutside specifier file =>
    "Import ".toList ++ specifier ++ " of ".toList ++ file ++ " is outside the project sources".toList
  | componentSkipped reason => "Skipping component: ".toList ++ reason
  | routingFileMissing file => "Routing file not found: ".toList ++ file
  | analyzed components routes redirects =>
    "Analyzed ".toList ++ ofNat components ++ " components, ".toList ++ ofNat routes ++ " routes, ".toList ++
      ofNat redirects ++ " redirects".toList

end Notice

def Level.label : Level → Text
  | .debug => "DEBUG".toList
  | .info => "INFO".toList
  | .warning => "WARNING".toList
  | .error => "ERROR".toList

def Notice.line (n : Notice) : Text := n.level.label ++ ": ".toList ++ n.message

def Notice.isGrave (n : Notice) : Bool :=
  match n.level with
  | .warning | .error => true
  | .debug | .info => false

end ViewAtlas
