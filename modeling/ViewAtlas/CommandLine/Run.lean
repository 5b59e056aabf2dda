import ViewAtlas.CommandLine.Help
import ViewAtlas.File.Writing
import ViewAtlas.Report
/-!
# Runs of the program

`run` says what the program does with a command line on a disk: what it writes to its two outputs, how it ends, and
the disk afterwards.
-/
namespace ViewAtlas
namespace CommandLine

open File (Disk)

/-- **A failure that ends the program without a word of its own.** -/
inductive Crash where
  | analysis (why : Atlas.Failure)
  | writing (why : File.Unwritten)
  deriving DecidableEq, Repr

structure Run where
  output : Text
  messages : Text
  ending : Except Crash Nat
  disk : Disk
  written : Option (Text × Text)

/-- **What is asked of the program.** -/
inductive Request where
  | help (c : Command)
  | mistake (c : Command) (message : Text)
  | analyze (verbose : Bool) (r : Reading)
  | widgets

/-- What the words after the name of a command ask for. -/
def requestOf (verbose : Bool) (c : Command) (words : List Text) (extras : List Text) : Request :=
  match c.form.read words with
  | .error .help => .help c
  | .error (.mistake m) => .mistake c m
  | .ok r =>
    match extras ++ r.extras with
    | [] =>
      match c with
      | .program => .help c
      | .analyze => .analyze verbose r
      | .widgets => .widgets
    | extras => .mistake .program ("unrecognized arguments: ".toList ++ Text.joinWith [' '] extras)

/-- **What a command line asks for.** -/
def request (words : List Text) : Request :=
  match Command.program.form.read words with
  | .error .help => .help .program
  | .error (.mistake m) => .mistake .program m
  | .ok r =>
    match r.operands with
    | some (name :: words) =>
      match Table.get? name Command.names with
      | some c => requestOf (r.has "--verbose") c words r.extras
      | none =>
        .mistake .program ("argument command: invalid choice: ".toList ++ Text.quoted name ++ " (choose from ".toList ++
          Text.joinWith ", ".toList (Command.names.map fun n => Text.quoted n.1) ++ [')'])
    | _ =>
      match r.extras with
      | [] => .help .program
      | extras => .mistake .program ("unrecognized arguments: ".toList ++ Text.joinWith [' '] extras)

/-- **The options of an analysis.**  An option with an empty value counts as not given, but for the start of the names
of components. -/
def optionsOf (r : Reading) : Atlas.Options :=
  let d := Atlas.Options.default
  { d with
    routesFile := (r.text? "--routes-file").getD d.routesFile
    routeVariables := ((r.text? "--route-variables").map (Text.splitAt ',')).getD d.routeVariables
    component :=
      { tags := ((r.text? "--tags").map (Text.splitAt ',')).getD d.component.tags
        start := (r.value? "--component-prefix").getD d.component.start }
    strict := !r.has "--lenient"
    scope := ((r.value? "--counter-scope").bind Atlas.CounterScope.ofName?).getD d.scope
    staticRoutes := r.has "--resolve-static-routes"
    followImports := !r.has "--no-follow-imports" }

def line (s : Text) : Text := s ++ ['\n']

/-- The notices that are shown: all of them, or only the grave ones. -/
def shown (verbose : Bool) (notices : List Notice) : Text :=
  (notices.filter fun n => verbose || n.isGrave).flatMap fun n => line n.line

def tagLine (tag : Text) : Text :=
  let s := Widget.Strategy.ofTag tag
  let attributes := if s.attributes.isEmpty then ['-'] else Text.joinWith ", ".toList s.attributes
  line (' ' :: ' ' :: Text.padRight 26 tag ++ Text.padRight 10 s.category.label ++ attributes ++ " -> ".toList ++
    s.fallback.label)

def summary (a : Atlas) : Text :=
  line ("Analyzed ".toList ++ Text.ofNat a.entries.length ++ " components and ".toList ++
    Text.ofNat a.routes.components.length ++ " routes".toList)

def analyze (d : Disk) (time : Text) (verbose : Bool) (r : Reading) : Run :=
  let configuration := (r.operands.getD []).headD []
  if !d.isFile configuration then
    ⟨[], line ("Error: ".toList ++ configuration ++ " not found".toList), .ok 1, d, none⟩
  else
    let found := Atlas.analyze d (optionsOf r) configuration
    let messages := shown verbose found.notices
    match found.result with
    | .error why =>
      if why.isReported then ⟨[], messages ++ line ("Error: ".toList ++ why.message), .ok 1, d, none⟩
      else ⟨[], messages, .error (.analysis why), d, none⟩
    | .ok a =>
      let messages := messages ++ summary a
      let layout := if r.has "--no-pretty" then Json.Layout.compact else .pretty
      let report := Report.text layout time configuration a
      match r.text? "--output" with
      | none => ⟨line report, messages, .ok 0, d, none⟩
      | some path =>
        match d.save path (Text.Utf8.encode report) with
        | .error why => ⟨[], messages, .error (.writing why), d, none⟩
        | .ok d => ⟨[], messages ++ line ("Output: ".toList ++ path), .ok 0, d, some (path, report)⟩

/-- **The run of a command line.** -/
def run (d : Disk) (time : Text) (words : List Text) : Run :=
  match request words with
  | .help c => ⟨c.help, [], .ok 0, d, none⟩
  | .mistake c message =>
    ⟨[], c.usage ++ line (c.title ++ ": error: ".toList ++ message), .ok 2, d, none⟩
  | .analyze verbose r => analyze d time verbose r
  | .widgets => ⟨Widget.defaultTags.flatMap tagLine, [], .ok 0, d, none⟩

end CommandLine
end ViewAtlas
