import ViewAtlas.Atlas.Options
import ViewAtlas.CommandLine.Options
/-!
# The commands and their help

The program analyzes a project or lists the interactive tags.  Each command has a form, a usage and a help text.
-/
namespace ViewAtlas
namespace CommandLine

/-- **A command**, or the program itself. -/
inductive Command where
  | program
  | analyze
  | widgets
  deriving DecidableEq, Repr

namespace Command

def lines (l : List String) : Text := l.flatMap fun s => s.toList ++ ['\n']

def title : Command → Text
  | program => "angular-analyzer".toList
  | analyze => "angular-analyzer analyze".toList
  | widgets => "angular-analyzer widgets".toList

def names : List (Text × Command) := [("analyze".toList, analyze), ("widgets".toList, widgets)]

def usage : Command → Text
  | program => lines ["usage: angular-analyzer [-h] [-v] \x7banalyze,widgets\x7d ..."]
  | analyze =>
    lines
      ["usage: angular-analyzer analyze [-h] [-o OUTPUT] [--routes-file ROUTES_FILE]",
        "                                [--route-variables ROUTE_VARIABLES]",
        "                                [--tags TAGS]",
        "                                [--component-prefix COMPONENT_PREFIX]",
        "                                [--counter-scope \x7btemplate,project\x7d]",
        "                                [--lenient] [--no-pretty]",
        "                                [--resolve-static-routes]",
        "                                [--no-follow-imports]",
        "                                tsconfig"]
  | widgets => lines ["usage: angular-analyzer widgets [-h]"]

def details : Command → Text
  | program =>
    lines
      ["", "Angular static structure analyzer", "",
        "positional arguments:",
        "  \x7banalyze,widgets\x7d",
        "    analyze          Analyze a project and print its structural model",
        "    widgets          List interactive tags and their ID strategies",
        "", "options:",
        "  -h, --help         show this help message and exit",
        "  -v, --verbose      Enable debug logging"]
  | analyze =>
    lines
      ["", "positional arguments:",
        "  tsconfig              Path to the project tsconfig.json",
        "", "options:",
        "  -h, --help            show this help message and exit",
        "  -o OUTPUT, --output OUTPUT",
        "                        Write JSON to this file instead of stdout",
        "  --routes-file ROUTES_FILE",
        "                        Routing file relative to the tsconfig directory",
        "                        (default: src/app/app.module.ts)",
        "  --route-variables ROUTE_VARIABLES",
        "                        Comma-separated route array variable names",
        "  --tags TAGS           Comma-separated interactive tag names",
        "  --component-prefix COMPONENT_PREFIX",
        "                        Nested component tag prefix (default: app-)",
        "  --counter-scope \x7btemplate,project\x7d",
        "                        Scope of symbolic widget ID counters (default:",
        "                        template)",
        "  --lenient             Skip components without template or selector instead",
        "                        of failing",
        "  --no-pretty           Disable pretty printing",
        "  --resolve-static-routes",
        "                        Resolve navigation to exact static routes called",
        "                        without parameters",
        "  --no-follow-imports   Analyze only the sources selected by the tsconfig, not",
        "                        their relative imports"]
  | widgets => lines ["", "options:", "  -h, --help  show this help message and exit"]

def help (c : Command) : Text := c.usage ++ c.details

def opt (effect : Effect) (spellings : List String) : Opt := ⟨spellings.map String.toList, effect⟩

/-- **The form of the command line of a command.** -/
def form : Command → Form
  | program => ⟨[opt .help ["-h", "--help"], opt .switch ["-v", "--verbose"]], .rest⟩
  | analyze =>
    ⟨[opt .help ["-h", "--help"], opt (.value []) ["-o", "--output"], opt (.value []) ["--routes-file"],
        opt (.value []) ["--route-variables"], opt (.value []) ["--tags"], opt (.value []) ["--component-prefix"],
        opt (.value (Atlas.CounterScope.names.map (·.1))) ["--counter-scope"], opt .switch ["--lenient"],
        opt .switch ["--no-pretty"], opt .switch ["--resolve-static-routes"], opt .switch ["--no-follow-imports"]],
      .one "tsconfig".toList⟩
  | widgets => ⟨[opt .help ["-h", "--help"]], .none⟩

end Command
end CommandLine
end ViewAtlas
